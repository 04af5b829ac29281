import ResourceScaffold.Number.Numeral
import ResourceScaffold.Text.Base64
import ResourceScaffold.Text.Case
import ResourceScaffold.Yaml.Cursor
import ResourceScaffold.Yaml.Tag

/-!
# Values of scalars

The value that a scalar has under its tag. A tag that is written out may stand before any text, so the readers accept
more forms than the ones by which plain scalars get their tags.
-/

namespace ResourceScaffold.Yaml

/-- A number without its underscores. -/
def dropGaps (s : List Char) : List Char :=
  s.filter (· != '_')

/-- What was read, if it has a value. -/
def requireValue {α : Type} : Option α → Except ReadError α
  | some a => .ok a
  | none => .error .noValue

/-! ## Integers -/

/-- An integer after its sign: to base two, sixteen, eight, sixty or ten, by its form. A sign alone has no digits. -/
def unsignedInteger : List Char → Except ReadError Int
  | [] => .error .noDigits
  | ['0'] => .ok 0
  | '0' :: 'b' :: digits => requireValue (intOfNumeral? 2 digits)
  | '0' :: 'x' :: digits => requireValue (intOfNumeral? 16 digits)
  | '0' :: digits => requireValue (intOfNumeral? 8 ('0' :: digits))
  | s => requireValue ((splitColons s).foldlM (fun n part => (intOfNumeral? 10 part).map (60 * n + ·)) 0)

/-- The integer that a scalar writes. -/
def integer (text : String) : Except ReadError Value :=
  let (negative, body) := splitSign (dropGaps text.toList)
  (unsignedInteger body).map fun n => .int (if negative then -n else n)

/-! ## Floating-point numbers -/

/-- The sum of the parts of a number to base sixty, the last part first. -/
def sixtieths (sum : Binary64) (base : Nat) : List Binary64 → Except ReadError Binary64
  | [] => .ok sum
  | part :: rest =>
      match Binary64.ofNat base with
      | .infinite _ => .error .tooLarge
      | factor => sixtieths (sum.add (part.mul factor)) (60 * base) rest

/-- A floating-point number after its sign: an infinite or the undefined one, to base sixty, or to base ten. -/
def unsignedFloat (s : List Char) : Except ReadError Binary64 :=
  match String.ofList s with
  | ".inf" => .ok (.infinite false)
  | ".nan" => .ok .nan
  | _ =>
      if s.contains ':' then do
        let parts ← requireValue ((splitColons s).mapM Binary64.ofNumeral?)
        sixtieths (.zero false) 1 parts.reverse
      else requireValue (Binary64.ofNumeral? s)

/-- The floating-point number that a scalar writes, in any case. -/
def float (text : String) : Except ReadError Value :=
  let s := Text.lowerChars (dropGaps text.toList)
  if s.isEmpty then .error .noDigits
  else
    let (negative, body) := splitSign s
    (unsignedFloat body).map fun x => .float (if negative then x.negate else x)

/-! ## Dates -/

/-- The number of days of a month. -/
def daysOfMonth (year month : Nat) : Nat :=
  if month = 2 then if (year % 4 = 0 ∧ year % 100 ≠ 0) ∨ year % 400 = 0 then 29 else 28
  else if [4, 6, 9, 11].contains month then 30 else 31

/-- Whether a date and its time of day exist. -/
def isRealMoment (m : Moment) : Bool :=
  1 ≤ m.year && 1 ≤ m.month && m.month ≤ 12 && 1 ≤ m.day && m.day ≤ daysOfMonth m.year m.month &&
    match m.time with
    | none => true
    | some t =>
        t.hour < 24 && t.minute < 60 && t.second < 60 &&
          match t.offset with
          | none => true
          | some minutes => decide (minutes.natAbs < 1440)

/-- The date that a scalar writes. -/
def timestamp (text : String) : Except ReadError Value :=
  match moment? (dropFinalBreak text.toList) with
  | some (m, _) => if isRealMoment m then .ok (.moment m) else .error .noValue
  | none => .error .notADate

/-! ## Other scalars -/

/-- The boolean that a scalar writes, in any case. -/
def boolean (text : String) : Except ReadError Value :=
  match booleans.lookup (Text.lower text) with
  | some b => .ok (.bool b)
  | none => .error .notABoolean

/-- The bytes that a scalar writes in base 64. -/
def binary (text : String) : Except ReadError Value :=
  let s := text.toList
  match if s.all Text.isAscii then Text.base64Bytes? s else none with
  | some data => .ok (.bytes data)
  | none => .error .malformed

/-- The value of a scalar under its tag. Marks and the tags of collections give it none. A surrogate belongs to no form but
that of a text, and the character that shows it does not either. -/
def scalarValue (tag : Tag) (text : WideText) : Except ReadError Value :=
  match tag with
  | .text => .ok (.ofWide text)
  | .null => .ok .null
  | .boolean => boolean text.shown
  | .integer => integer text.shown
  | .float => float text.shown
  | .timestamp => timestamp text.shown
  | .binary => binary text.shown
  | .merge | .default | .sequence | .pairs | .set | .mapping | .other => .error .malformed

end ResourceScaffold.Yaml
