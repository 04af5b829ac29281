import ResourceScaffold.Http.Checked
import ResourceScaffold.Schema.Document
import ResourceScaffold.Text.Case

/-!
# Bodies of requests

The schema in the body of a request. Unlike a schema file, a body has to have the right types: names are texts, data
types are among the known ones, flags mean a boolean, and properties and the lookup of ids are objects. Members that are
not known are passed over.
-/

namespace ResourceScaffold.Http

/-! ## Single values -/

/-- A text, well-formed or not, as a value. -/
def checkText (place : Place) : Value → Checked Value
  | .text s => .valid (.text s)
  | .illFormed t => .valid (.illFormed t)
  | v => .complain .notAText place v

/-- A text or nothing, as a value. -/
def checkId (place : Place) : Value → Checked Value
  | .null => .valid .null
  | v => checkText place v

/-- A data type. -/
def checkDataType (place : Place) (v : Value) : Checked DataType :=
  match DataType.ofValue? v with
  | some type => .valid type
  | none => .complain .notAllowed place v

/-- The texts that mean a boolean, in any case. -/
def booleanTexts : List (String × Bool) :=
  [("0", false), ("off", false), ("f", false), ("false", false), ("n", false), ("no", false), ("1", true), ("on", true),
   ("t", true), ("true", true), ("y", true), ("yes", true)]

/-- The boolean that an integer means. -/
def integerFlag? (i : Int) : Option Bool :=
  if i = 0 then some false else if i = 1 then some true else none

/-- Whether an integer has a nearest finite floating-point number. -/
def hasFloat (i : Int) : Bool :=
  match Binary64.ofNat i.natAbs with
  | .finite .. => true
  | _ => false

/-- A boolean, or a text or number that means one. -/
def checkFlag (place : Place) (v : Value) : Checked Bool :=
  let orComplain (b : Option Bool) : Checked Bool := match b with
    | some b => .valid b
    | none => .complain .unreadBoolean place v
  match v with
  | .bool b => .valid b
  | .text s => orComplain (booleanTexts.lookup (String.ofList (s.toList.map Char.toLower)))
  | .illFormed _ => orComplain none
  | .int i => if hasFloat i then orComplain (integerFlag? i) else .complain .notABoolean place v
  | .float x =>
      match x.toInt? with
      | some i => orComplain (integerFlag? i)
      | none => .complain .notABoolean place v
  | _ => .complain .notABoolean place v

/-- A mapping. -/
def checkMapping (place : Place) : Value → Checked Entries
  | .mapping entries => .valid entries
  | v => .complain .notAMapping place v

/-- A list whose items pass a check. -/
def checkList {α : Type} (check : Place → Value → Checked α) (place : Place) : Value → Checked (List α)
  | .list items => Checked.all (items.zipIdx.map fun (v, i) => check (place ++ [.position i]) v)
  | v => .complain .notAList place v

/-- A mapping of texts. -/
def checkTexts (place : Place) : Value → Checked Entries
  | .mapping entries =>
      Checked.all (entries.map fun (k, v) => (checkText (place ++ [.key k.wide]) v).map (k, ·))
  | v => .complain .notAMapping place v

/-! ## Members -/

/-- The first of some names that a mapping has, and the member. -/
def findMember (names : List String) (members : Entries) : Option (String × Value) :=
  names.findSome? fun name => (members.get? name).map (name, ·)

/-- A member under one of some names, of which the first found counts. If there is none, the fallback stands for it;
without a fallback that is a complaint. -/
def checkMember {α : Type} (check : Place → Value → Checked α) (names : List String) (fallback : Option α)
    (place : Place) (members : Entries) : Checked α :=
  match findMember names members with
  | some (name, v) => check (place ++ [.key name]) v
  | none =>
      match fallback with
      | some a => .valid a
      | none => .complain .missing (place ++ (names.take 1).map fun name => .key name) (.mapping members)

/-- A field. -/
def checkField (place : Place) : Value → Checked Field
  | .mapping members =>
      let member {α : Type} (check : Place → Value → Checked α) (names : List String) (fallback : Option α) :=
        checkMember check names fallback place members
      Checked.valid (fun name dataType required unique searchable properties =>
          ({ name, dataType, required, unique, searchable, properties } : Field))
        |>.both (member checkText ["name"] none)
        |>.both (member checkDataType ["dataType", "data_type"] none)
        |>.both (member checkFlag ["required"] (some false))
        |>.both (member checkFlag ["unique"] (some false))
        |>.both (member checkFlag ["searchable"] (some true))
        |>.both (member checkMapping ["properties"] (some []))
  | v => .complain .notAnObject place v

/-- An entity. -/
def checkEntity (place : Place) : Value → Checked Entity
  | .mapping members =>
      let member {α : Type} (check : Place → Value → Checked α) (names : List String) (fallback : Option α) :=
        checkMember check names fallback place members
      Checked.valid (fun name id fields => ({ name, fields, id } : Entity))
        |>.both (member checkText ["name"] none)
        |>.both (member checkId ["id"] (some .null))
        |>.both (member (checkList checkField) ["fields"] (some []))
  | v => .complain .notAnObject place v

/-! ## The body -/

/-- The schema of some entities: the ids they declare, and then those of a lookup. -/
def schemaOf (entities : List Entity) (ids : Entries) : Schema :=
  let declared := entities.foldl (fun (ids : Entries) e =>
    match e.id with
    | .null => ids
    | id => ids.insert id e.name) []
  { entities, ids := ids.foldl (fun ids (id, name) => ids.insert id name) declared }

/-- The schema in a body. -/
def checkBody (place : Place) : Value → Checked Schema
  | .mapping members =>
      let member {α : Type} (check : Place → Value → Checked α) (names : List String) (fallback : Option α) :=
        checkMember check names fallback place members
      Checked.valid schemaOf
        |>.both (member (checkList checkEntity) ["entities"] none)
        |>.both (member checkTexts ["entityIdToName", "entity_id_to_name"] (some []))
  | v => .complain .notAnObject place v

end ResourceScaffold.Http
