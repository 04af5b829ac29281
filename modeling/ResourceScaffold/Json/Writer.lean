import ResourceScaffold.Value.Literal

/-!
# JSON text of values

Values written as JSON in printable ASCII: every other character becomes one or two `\u` escapes of UTF-16 units, and every
surrogate the escape of its own.
-/

namespace ResourceScaffold.Json

/-- A `\u` escape of a UTF-16 unit. -/
def unitEscape (unit : Nat) : List Char :=
  '\\' :: 'u' :: Text.hexPadded 4 unit

/-- One character inside a JSON string. -/
def escapeChar (c : Char) : List Char :=
  if c = '"' then ['\\', '"']
  else if c = '\\' then ['\\', '\\']
  else if c = '\n' then ['\\', 'n']
  else if c = '\r' then ['\\', 'r']
  else if c = '\t' then ['\\', 't']
  else if c = '\x0c' then ['\\', 'f']
  else if c = '\x08' then ['\\', 'b']
  else if 0x20 ≤ c.toNat ∧ c.toNat < 0x7f then [c]
  else if c.toNat < 0x10000 then unitEscape c.toNat
  else unitEscape (0xd800 + (c.toNat - 0x10000) / 0x400) ++ unitEscape (0xdc00 + (c.toNat - 0x10000) % 0x400)

/-- One code point inside a JSON string. -/
def escapePoint : CodePoint → List Char
  | .char c => escapeChar c
  | .surrogate n => unitEscape (0xd800 + n)

/-- A JSON string, as characters. -/
def stringChars (s : List CodePoint) : List Char :=
  '"' :: (s.flatMap escapePoint ++ ['"'])

/-- A JSON string. -/
def string (t : WideText) : String :=
  String.ofList (stringChars t.points)

/-- A floating-point number; infinities and the undefined number have names. -/
def number : Binary64 → String
  | .nan => "NaN"
  | .infinite negative => if negative then "-Infinity" else "Infinity"
  | x => x.text

/-- A mapping key: a text as it is, other keys by their JSON text. -/
def keyText : Value → WideText
  | .bool b => if b then "true" else "false"
  | .int i => intText i
  | .float x => number x
  | .null => "null"
  | key => key.wide

mutual

/-- The JSON text of a value; dates, bytes and sets are written as strings. -/
def write : Value → String
  | .null => "null"
  | .bool b => if b then "true" else "false"
  | .int i => intText i
  | .float x => number x
  | .text s => string s
  | .illFormed t => string t.text
  | .moment m => string m.text
  | .bytes data => string (Text.quotedBytes data)
  | .list items => "[" ++ String.intercalate ", " (writeItems items) ++ "]"
  | .pair first second => "[" ++ write first ++ ", " ++ write second ++ "]"
  | .set items => string (Value.set items).literal
  | .mapping entries => "\x7b" ++ String.intercalate ", " (writeEntries entries) ++ "\x7d"
  | .marked _ v => write v

/-- The JSON texts of list items. -/
def writeItems : List Value → List String
  | [] => []
  | item :: rest => write item :: writeItems rest

/-- The JSON texts of object members. -/
def writeEntries : List (Value × Value) → List String
  | [] => []
  | entry :: rest => writeEntry entry :: writeEntries rest

/-- The JSON text of one object member. -/
def writeEntry : Value × Value → String
  | (key, value) => string (keyText key) ++ ": " ++ write value

end

end ResourceScaffold.Json
