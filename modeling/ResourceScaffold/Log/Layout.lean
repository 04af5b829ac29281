import ResourceScaffold.Log.Record
import ResourceScaffold.Log.Template

/-!
# Layouts of log lines

A layout is a template whose directives name what a record holds. Every record has an entity and a stage; a record to
which none was given has a hyphen in their place.
-/

namespace ResourceScaffold.Layout

/-- The layout that the empty text stands for. -/
def plain : String := "%(message)s"

/-- The letters with which a directive of a layout may end. -/
def directiveLetters : List Char :=
  "diouxefgcrsa%".toList

/-- Whether a directive with a name begins a text. -/
def startsDirective (s : List Char) : Bool :=
  match s with
  | '%' :: '(' :: rest =>
      let name := rest.takeWhile Text.isWordChar
      match rest.drop name.length with
      | ')' :: rest =>
          let (_, rest) := Template.readExtent (rest.dropWhile Template.flagLetters.contains)
          let rest := match rest with
            | '.' :: after =>
                match Template.readExtent after with
                | (some _, after) => after
                | (none, _) => rest
            | _ => rest
          !name.isEmpty && (rest.head?.map fun c => directiveLetters.contains c.toLower).getD false
      | _ => false
  | _ => false

/-- Whether a layout names anything at all. -/
def isLayout (s : List Char) : Bool :=
  match s with
  | [] => false
  | c :: rest => startsDirective (c :: rest) || isLayout rest

/-- The message of a record: a template filled with values, or a text as it is if there are no values. A single mapping
gives its values by name. -/
def fillMessage (message : String) (values : List Value) : Except Template.FillFault String :=
  match values with
  | [] => .ok message
  | [.mapping (entry :: entries)] => Template.fill message (.ofEntries (entry :: entries))
  | _ => Template.fill message (.ofList values)

/-- The entries with an entry under a name, unless there is one. -/
def withDefault (entries : Entries) (name : String) (v : Value) : Entries :=
  if (entries.get? name).isSome then entries else entries.insert (.text name) v

/-- What a layout can name of a record with a level, a logger and a message, to which some attributes were given. -/
def attributes (logger : String) (level : Threshold) (template message : String) (given : Entries) : Entries :=
  let own : Entries :=
    [(.text "name", .text logger), (.text "msg", .text template), (.text "levelname", .text level.name),
     (.text "levelno", .int ((level.map LogLevel.weight).getD 0))]
  let all := given.foldl (fun entries (name, v) => entries.insert name v) own
  let all := withDefault (withDefault all "entity" (.text "-")) "stage" (.text "-")
  all.insert (.text "message") (.text message)

/-- The line of a record under a layout. -/
def line (layout logger : String) (level : Threshold) (message : String) (values : List Value) (given : Entries) :
    Except Template.FillFault String := do
  let layout := if layout.isEmpty then plain else layout
  if isLayout layout.toList then
    let filled ← fillMessage message values
    match Template.fill layout (.ofEntries (attributes logger level message filled given)) with
    | .error .absentName => .error .malformed
    | result => result
  else .error .malformed

end ResourceScaffold.Layout
