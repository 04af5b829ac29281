import ResourceScaffold.Value.Basic

/-!
# Tags of YAML

The tags of the values that are read, and the tag that a plain scalar has by its form: booleans, numbers, null, dates,
the marks of merges and defaults, and text for all else.
-/

namespace ResourceScaffold.Yaml

/-- A tag of a node. -/
inductive Tag where
  | text
  | null
  | boolean
  | integer
  | float
  | timestamp
  | binary
  | merge
  | default
  | sequence
  /-- A list of pairs, written as a sequence of mappings with one entry each. -/
  | pairs
  | set
  | mapping
  | other
  deriving DecidableEq, Repr, Inhabited

/-- The beginning of the tags of the format. -/
def coreTag : String := "tag:yaml.org,2002:"

/-- The names of the tags of the format. -/
def Tag.names : List (String × Tag) :=
  [("str", text), ("null", null), ("bool", boolean), ("int", integer), ("float", float), ("timestamp", timestamp),
   ("binary", binary), ("merge", merge), ("value", default), ("seq", sequence), ("omap", pairs), ("pairs", pairs),
   ("set", set), ("map", mapping)]

/-- The tag with a full name. -/
def Tag.ofName (name : String) : Tag :=
  ((names.map fun (short, tag) => (coreTag ++ short, tag)).lookup name).getD other

/-! ## Forms of plain scalars -/

/-- A text without the sign in front of it. -/
def dropSign : List Char → List Char
  | '+' :: rest => rest
  | '-' :: rest => rest
  | s => s

/-- Digits and underscores. -/
def isDigitOrGap (c : Char) : Bool :=
  c.isDigit || c == '_'

/-- One or two digits below sixty. -/
def isSixtieth (s : List Char) : Bool :=
  match s with
  | [a] => a.isDigit
  | [a, b] => '0' ≤ a && a ≤ '5' && b.isDigit
  | _ => false

/-- The parts of a text between colons. -/
def splitColons : List Char → List (List Char)
  | [] => [[]]
  | c :: rest =>
      match splitColons rest with
      | part :: parts => if c = ':' then [] :: part :: parts else (c :: part) :: parts
      | [] => [[c]]

/-- A nonempty text whose characters all have a property. -/
def isRun (p : Char → Bool) (s : List Char) : Bool :=
  !s.isEmpty && s.all p

/-- Whether a text begins with a digit and goes on with digits and underscores. -/
def isDigitRun (s : List Char) : Bool :=
  (s.head?.map Char.isDigit).getD false && s.all isDigitOrGap

/-- Numbers to base two, eight, ten, sixteen or sixty. -/
def isInteger (s : List Char) : Bool :=
  match dropSign s with
  | '0' :: 'b' :: digits => isRun (fun c => c == '0' || c == '1' || c == '_') digits
  | '0' :: 'x' :: digits =>
      isRun (fun c => c.isDigit || ('a' ≤ c && c ≤ 'f') || ('A' ≤ c && c ≤ 'F') || c == '_') digits
  | ['0'] => true
  | '0' :: digits => digits.all fun c => ('0' ≤ c && c ≤ '7') || c == '_'
  | body =>
      match splitColons body with
      | first :: parts => isDigitRun first && first.head? != some '0' && parts.all isSixtieth
      | [] => false

/-- An exponent with its sign, or nothing. -/
def isExponent (s : List Char) : Bool :=
  match s with
  | [] => true
  | e :: sign :: digits => (e == 'e' || e == 'E') && (sign == '+' || sign == '-') && isRun Char.isDigit digits
  | _ => false

/-- Digits and underscores, and perhaps an exponent. -/
def isFraction (s : List Char) : Bool :=
  isExponent (s.dropWhile isDigitOrGap)

/-- Numbers with a point, to base ten or sixty, infinities and the undefined number. -/
def isFloat (s : List Char) : Bool :=
  [".nan", ".NaN", ".NAN"].contains (String.ofList s) ||
  [".inf", ".Inf", ".INF"].contains (String.ofList (dropSign s)) ||
  (match s with
    | '.' :: d :: rest => d.isDigit && isFraction rest
    | _ => false) ||
  (let whole := (dropSign s).takeWhile (· != '.')
   match (dropSign s).drop whole.length with
   | _ :: rest =>
       (match splitColons whole with
         | [first] => isDigitRun first && isFraction rest
         | first :: parts => isDigitRun first && parts.all isSixtieth && rest.all isDigitOrGap
         | [] => false)
   | [] => false)

/-! ## Dates -/

/-- A number of `least` to `most` digits, as many as there are, and the rest. -/
def digitsBetween (least most : Nat) (s : List Char) : Option (Nat × Nat × List Char) :=
  let digits := (s.take most).takeWhile Char.isDigit
  if digits.length < least then none
  else some (digits.foldl (fun n d => 10 * n + (d.toNat - 48)) 0, digits.length, s.drop digits.length)

/-- The rest of a text after a character. -/
def after (c : Char) : List Char → Option (List Char)
  | d :: rest => if d = c then some rest else none
  | [] => none

/-- Blanks between the parts of a date. -/
def isDateBlank (c : Char) : Bool :=
  c == ' ' || c == '\t'

/-- The distance from universal time at the end of a date: `Z`, or a sign and hours, perhaps with minutes. -/
def dateOffset (s : List Char) : Option (Option Int) :=
  match s.dropWhile isDateBlank with
  | [] => if s.isEmpty then some none else none
  | ['Z'] => some (some 0)
  | sign :: rest =>
      if sign = '+' ∨ sign = '-' then do
        let (hours, _, rest) ← digitsBetween 1 2 rest
        let minutes ← (match rest with
          | [] => some 0
          | _ => do
              let (n, _, rest) ← digitsBetween 2 2 (← after ':' rest)
              if rest.isEmpty then some n else none)
        let offset : Int := hours * 60 + minutes
        return some (if sign = '-' then -offset else offset)
      else none

/-- The millionths of a second written by the digits of a fraction. -/
def microseconds (digits : List Char) : Nat :=
  let six := digits.take 6
  (six ++ List.replicate (6 - six.length) '0').foldl (fun n d => 10 * n + (d.toNat - 48)) 0

/-- The time of day in a date, after its hour. -/
def timeAfterHour (hour : Nat) (s : List Char) : Option TimeOfDay := do
  let (minute, _, rest) ← digitsBetween 2 2 (← after ':' s)
  let (second, _, rest) ← digitsBetween 2 2 (← after ':' rest)
  let (digits, rest) := match rest with
    | '.' :: rest => (rest.takeWhile Char.isDigit, rest.dropWhile Char.isDigit)
    | _ => ([], rest)
  let offset ← dateOffset rest
  return { hour, minute, second, microsecond := microseconds digits, offset }

/-- A date written with hyphens, perhaps with a time of day; also whether month and day have two digits. -/
def moment? (s : List Char) : Option (Moment × Bool) := do
  let (year, _, rest) ← digitsBetween 4 4 s
  let (month, monthDigits, rest) ← digitsBetween 1 2 (← after '-' rest)
  let (day, dayDigits, rest) ← digitsBetween 1 2 (← after '-' rest)
  let full := monthDigits == 2 && dayDigits == 2
  match rest with
  | [] => return ({ year, month, day, time := none }, full)
  | c :: more =>
      let rest ← if c = 'T' ∨ c = 't' then some more
        else if isDateBlank c then some (more.dropWhile isDateBlank) else none
      let (hour, _, rest) ← digitsBetween 1 2 rest
      let time ← timeAfterHour hour rest
      return ({ year, month, day, time := some time }, full)

/-- Whether a plain scalar is a date. Without a time of day, month and day have two digits. -/
def isTimestamp (s : List Char) : Bool :=
  match moment? s with
  | some (m, full) => m.time.isSome || full
  | none => false

/-! ## The tag of a plain scalar -/

/-- The plain scalars that are booleans. -/
def booleans : List (String × Bool) :=
  [("yes", true), ("Yes", true), ("YES", true), ("no", false), ("No", false), ("NO", false), ("true", true),
   ("True", true), ("TRUE", true), ("false", false), ("False", false), ("FALSE", false), ("on", true), ("On", true),
   ("ON", true), ("off", false), ("Off", false), ("OFF", false)]

/-- A text without the line feed at its end. -/
def dropFinalBreak (s : List Char) : List Char :=
  if s.getLast? = some '\n' then s.dropLast else s

/-- The tag that a plain scalar of one line has by its form. -/
def lineTag (text : String) : Tag :=
  let s := text.toList
  if (booleans.lookup text).isSome then .boolean
  else if isFloat s then .float
  else if isInteger s then .integer
  else if text = "<<" then .merge
  else if ["", "~", "null", "Null", "NULL"].contains text then .null
  else if isTimestamp s then .timestamp
  else if text = "=" then .default
  else .text

/-- The tag that a scalar has by its form. A line feed may follow the form, but nothing is not followed by one. -/
def plainTag (text : String) : Tag :=
  if text = "\n" then .text else lineTag (String.ofList (dropFinalBreak text.toList))

end ResourceScaffold.Yaml
