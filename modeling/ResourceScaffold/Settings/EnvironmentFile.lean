import ResourceScaffold.Text.CharacterClass
import ResourceScaffold.Text.Lines

/-!
# Environment files

Each line of an environment file sets a variable: `KEY=value`, perhaps after `export`. A value may stand in quotation
marks, over several lines; without them a `#` after a blank starts a comment. `${NAME}` and `${NAME:-default}` stand for
the value of another variable. A line that cannot be read is passed over.
-/

namespace ResourceScaffold.EnvironmentFile

/-- White space within a line. -/
def isInlineBlank (c : Char) : Bool :=
  Text.isBlank c && c != '\r' && c != '\n'

/-- Characters that end a line. -/
def isNewline (c : Char) : Bool :=
  c == '\r' || c == '\n'

/-- The text after the blanks of a line. -/
def skipInline (s : List Char) : List Char :=
  s.dropWhile isInlineBlank

/-- The text after the rest of a line and its end. -/
def skipLine (s : List Char) : List Char :=
  match s.dropWhile fun c => !isNewline c with
  | '\r' :: '\n' :: rest => rest
  | _ :: rest => rest
  | [] => []

/-- The text after `export` and the blanks behind it, if it begins with them. -/
def skipExport (s : List Char) : List Char :=
  if "export".toList.isPrefixOf s then
    let rest := s.drop 6
    if (rest.head?.map isInlineBlank).getD false then skipInline rest else s
  else s

/-- What stands up to the closing quotation mark, and the text after it. A mark behind a backslash closes only if no
other mark does. -/
def readQuoted (mark : Char) : List Char → Option (List Char × List Char)
  | [] => none
  | '\\' :: c :: rest =>
      if c = mark then
        match readQuoted mark rest with
        | some (value, after) => some ('\\' :: c :: value, after)
        | none => some (['\\'], rest)
      else (readQuoted mark (c :: rest)).map fun (value, after) => ('\\' :: value, after)
  | c :: rest =>
      if c = mark then some ([], rest) else (readQuoted mark rest).map fun (value, after) => (c :: value, after)

/-- The character that a letter stands for after a backslash in double quotation marks. -/
def escapeLetter (c : Char) : Option Char :=
  [('\\', '\\'), ('\'', '\''), ('"', '"'), ('a', '\x07'), ('b', '\x08'), ('f', '\x0c'), ('n', '\n'), ('r', '\r'),
   ('t', '\t'), ('v', '\x0b')].lookup c

/-- A text with its escapes replaced; other backslashes stand for themselves. -/
def unescape (letter : Char → Option Char) : List Char → List Char
  | '\\' :: c :: rest =>
      match letter c with
      | some d => d :: unescape letter rest
      | none => '\\' :: c :: unescape letter rest
  | c :: rest => c :: unescape letter rest
  | [] => []

/-- A value without quotation marks, without its comment and the blanks at its end. -/
def trimValue (s : List Char) : List Char :=
  let rec upToComment : List Char → List Char
    | [] => []
    | [c] => [c]
    | c :: d :: rest => if Text.isBlank c && d == '#' then [] else c :: upToComment (d :: rest)
  (((upToComment s).reverse.dropWhile Text.isBlank)).reverse

/-- The name of a variable and the text after it. -/
def readName (s : List Char) : Option (List Char × List Char) :=
  match s with
  | '\'' :: rest =>
      let name := rest.takeWhile (· != '\'')
      if name.isEmpty then none
      else match rest.drop name.length with
        | _ :: after => some (name, after)
        | [] => none
  | _ =>
      let name := s.takeWhile fun c => c != '=' && c != '#' && !Text.isBlank c
      if name.isEmpty then none else some (name, s.drop name.length)

/-- A value and the text after it. -/
def readValue (s : List Char) : Option (List Char × List Char) :=
  match s with
  | '\'' :: rest =>
      (readQuoted '\'' rest).map fun (value, after) =>
        (unescape (fun c => if c = '\\' ∨ c = '\'' then some c else none) value, after)
  | '"' :: rest => (readQuoted '"' rest).map fun (value, after) => (unescape escapeLetter value, after)
  | _ =>
      let value := s.takeWhile fun c => !isNewline c
      some (trimValue value, s.drop value.length)

/-- The text after the end of a line, which only a comment may precede. -/
def endLine (s : List Char) : Option (List Char) :=
  let s := match skipInline s with
    | '#' :: rest => rest.dropWhile fun c => !isNewline c
    | rest => rest
  match s with
  | '\r' :: '\n' :: rest => some rest
  | c :: rest => if isNewline c then some rest else none
  | [] => some []

/-- The setting at the beginning of a text and the text after its line. -/
def readSetting (s : List Char) : Option ((String × Option String) × List Char) := do
  let (name, rest) ← readName (skipExport s)
  let rest := skipInline rest
  match rest with
  | '=' :: after =>
      let (value, rest) ← readValue (skipInline after)
      let rest ← endLine rest
      return ((String.ofList name, some (String.ofList value)), rest)
  | _ =>
      let rest ← endLine rest
      return ((String.ofList name, none), rest)

/-- The settings of a text; each round reads at least one character, so the length of the text bounds their number. -/
def readSettings : Nat → List Char → List (String × Option String)
  | 0, _ => []
  | fuel + 1, s =>
      match s.dropWhile Text.isBlank with
      | [] => []
      | '#' :: rest => readSettings fuel (skipLine rest)
      | rest =>
          match readSetting rest with
          | some (setting, after) => setting :: readSettings fuel after
          | none => readSettings fuel (skipLine rest)

/-- The value of a reference to a variable: its own, or the default behind `:-` if there is no such variable. A variable
that is named without a value is empty. -/
def resolve (values : List (String × Option String)) (reference : List Char) : List Char :=
  let name := reference.takeWhile fun c => c != ':'
  let fallback := match reference.drop name.length with
    | ':' :: '-' :: rest => rest
    | _ => []
  match values.lookup (String.ofList name) with
  | some value => (value.getD "").toList
  | none => fallback

/-- Whether what stands between the braces of a reference is a name, perhaps with a default. -/
def isReference (reference : List Char) : Bool :=
  match reference.dropWhile fun c => c != ':' with
  | [] => true
  | ':' :: '-' :: _ => true
  | _ => false

/-- A value with the references to variables replaced. -/
def interpolate (values : List (String × Option String)) : Nat → List Char → List Char
  | 0, s => s
  | _ + 1, [] => []
  | fuel + 1, '$' :: '\x7b' :: rest =>
      let reference := rest.takeWhile fun c => c != '\x7d'
      match rest.drop reference.length with
      | _ :: after =>
          if isReference reference then resolve values reference ++ interpolate values fuel after
          else '$' :: interpolate values fuel ('\x7b' :: rest)
      | [] => '$' :: interpolate values fuel ('\x7b' :: rest)
  | fuel + 1, c :: rest => c :: interpolate values fuel rest

/-- The variables that a file names, later ones first. A reference sees the environment and the settings before it. -/
def read (environment : List (String × String)) (text : String) : List (String × Option String) :=
  let chars := Text.universalNewlinesChars text.toList
  let outer := environment.map fun (name, value) => (name, some value)
  (readSettings (chars.length + 1) chars).foldl (fun values (name, value) =>
    let value := value.map fun value => String.ofList (interpolate (values ++ outer) value.length value.toList)
    (name, value) :: values) []

end ResourceScaffold.EnvironmentFile
