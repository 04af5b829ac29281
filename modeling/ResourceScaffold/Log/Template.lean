import ResourceScaffold.Number.Places
import ResourceScaffold.Text.Hexadecimal
import ResourceScaffold.Value.Access

/-!
# Templates of log lines

A template is a text with directives. A directive is a percent sign, perhaps a name in parentheses, flags, a least width
and a precision, and a letter that says how a value is written. Directives with a name take the value of that name, the
others take the next of a list of values. Two percent signs stand for one.
-/

namespace ResourceScaffold.Template

/-! ## Directives -/

/-- A width or precision: a number, or the next value. -/
inductive Extent where
  | given (n : Nat)
  | next
  deriving DecidableEq, Repr

/-- A directive. -/
structure Directive where
  name : Option String
  flags : List Char
  width : Option Extent
  precision : Option Extent
  letter : Char
  deriving DecidableEq, Repr

/-- Why a template gives no text. -/
inductive FillFault where
  /-- A value is missing, or is not of the kind that a directive asks for. -/
  | wrongOperand
  /-- A directive is not complete or not known, or a number does not exist. -/
  | malformed
  | absentName
  | outOfRange
  deriving DecidableEq, Repr

/-- The name up to the parenthesis that closes it, and the text after it. -/
def readName (depth : Nat) : List Char → Option (List Char × List Char)
  | [] => none
  | ')' :: rest =>
      match depth with
      | 0 => some ([], rest)
      | depth + 1 => (readName depth rest).map fun (name, after) => (')' :: name, after)
  | '(' :: rest => (readName (depth + 1) rest).map fun (name, after) => ('(' :: name, after)
  | c :: rest => (readName depth rest).map fun (name, after) => (c :: name, after)

/-- A width or precision at the beginning of a text. -/
def readExtent (s : List Char) : Option Extent × List Char :=
  match s with
  | '*' :: rest => (some .next, rest)
  | _ =>
      match s.takeWhile Char.isDigit with
      | [] => (none, s)
      | digits => (some (.given (digitsValue digits)), s.drop digits.length)

/-- The flags that a directive may have. -/
def flagLetters : List Char :=
  ['-', '+', ' ', '#', '0']

/-- The text after a letter for the size of a number, which says nothing. -/
def skipSize : List Char → List Char
  | c :: rest => if c = 'h' ∨ c = 'l' ∨ c = 'L' then rest else c :: rest
  | [] => []

/-- The directive after a percent sign, if the text does not end before its letter. -/
def readDirective (name : Option String) (s : List Char) : Option (Directive × List Char) :=
  let flags := s.takeWhile flagLetters.contains
  let (width, rest) := readExtent (s.drop flags.length)
  let (precision, rest) := match rest with
    | '.' :: rest =>
        match readExtent rest with
        | (none, rest) => (some (.given 0), rest)
        | found => found
    | _ => (none, rest)
  match skipSize rest with
  | letter :: rest => some ({ name, flags, width, precision, letter }, rest)
  | [] => none

/-! ## Values in directives -/

/-- The values that directives take. -/
structure Supply where
  /-- The values with names, if values have names. -/
  named : Option Entries
  /-- The values that are still to be taken in order. -/
  rest : List Value

namespace Supply

/-- The supply of a list of values. -/
def ofList (values : List Value) : Supply :=
  { named := none, rest := values }

/-- The supply of values with names; a directive without a name takes them as a whole. -/
def ofEntries (entries : Entries) : Supply :=
  { named := some entries, rest := [.mapping entries] }

/-- The next value. -/
def next (s : Supply) : Except FillFault (Value × Supply) :=
  match s.rest with
  | v :: rest => .ok (v, { s with rest })
  | [] => .error .wrongOperand

/-- The supply in which the value of a name comes next. -/
def select (s : Supply) (name : String) : Except FillFault Supply :=
  match s.named with
  | none => .error .wrongOperand
  | some entries =>
      match entries.get? name with
      | some v => .ok { s with rest := [v] }
      | none => .error .absentName

end Supply

/-- The integer that a value is. -/
def integer? : Value → Option Int
  | .int i => some i
  | .bool b => some (if b then 1 else 0)
  | _ => none

/-- The greatest width. -/
def greatestWidth : Nat := 9223372036854775807

/-- The greatest precision. -/
def greatestPrecision : Nat := 2147483647

/-- The number that a width or precision stands for, which is not beyond the greatest one. -/
def Extent.resolve (greatest : Nat) (e : Option Extent) (s : Supply) : Except FillFault (Option Int × Supply) :=
  match e with
  | none => .ok (none, s)
  | some (.given n) => if greatest < n then .error .malformed else .ok (some n, s)
  | some .next => do
      let (v, s) ← s.next
      match integer? v with
      | some i => if greatest < i.natAbs then .error .outOfRange else return (some i, s)
      | none => .error .wrongOperand

/-- The integer part of a finite number. -/
def truncate (negative : Bool) (mantissa : Nat) (exponent : Int) : Int :=
  let (num, den) := Binary64.scaled mantissa exponent
  let n : Int := (num / den : Nat)
  if negative then -n else n

/-- The integer that a number is cut to. -/
def wholePart (v : Value) : Except FillFault Int :=
  match v with
  | .float (.finite negative mantissa exponent) => .ok (truncate negative mantissa exponent)
  | .float (.infinite _) => .error .outOfRange
  | .float .nan => .error .malformed
  | _ =>
      match integer? v with
      | some i => .ok i
      | none => .error .wrongOperand

/-- The floating-point number that a number is. -/
def floatOf (v : Value) : Except FillFault Binary64 :=
  match v with
  | .float x => .ok x
  | _ =>
      match integer? v with
      | some i =>
          match Binary64.ofNat i.natAbs with
          | .finite _ mantissa exponent => .ok (.finite (decide (i < 0)) mantissa exponent)
          | _ => .error .outOfRange
      | none => .error .wrongOperand

/-- The literal of a value in which every character is ASCII. -/
def asciiLiteral (v : Value) : List Char :=
  v.literal.toList.flatMap fun c =>
    if c.toNat < 128 then [c]
    else if c.toNat ≤ 0xff then '\\' :: 'x' :: Text.hexPadded 2 c.toNat
    else if c.toNat ≤ 0xffff then '\\' :: 'u' :: Text.hexPadded 4 c.toNat
    else '\\' :: 'U' :: Text.hexPadded 8 c.toNat

/-! ## Writing -/

/-- How wide a text has to be, and the flags for it. -/
structure Frame where
  flags : List Char
  width : Nat
  leftAligned : Bool
  precision : Option Nat

namespace Frame

/-- Whether a frame has a flag. -/
def has (f : Frame) (flag : Char) : Bool :=
  f.flags.contains flag

/-- A text in its frame, filled with blanks. -/
def place (f : Frame) (s : List Char) : List Char :=
  let fill := List.replicate (f.width - s.length) ' '
  if f.leftAligned then s ++ fill else fill ++ s

/-- A number in its frame: its sign and what leads its digits, and then the digits. -/
def placeNumber (f : Frame) (negative : Bool) (lead digits : List Char) : List Char :=
  let sign := if negative then ['-'] else if f.has '+' then ['+'] else if f.has ' ' then [' '] else []
  let front := sign ++ lead
  if f.has '0' && !f.leftAligned then
    front ++ List.replicate (f.width - (front ++ digits).length) '0' ++ digits
  else f.place (front ++ digits)

/-- A text in its frame, cut to the precision. -/
def placeText (f : Frame) (s : List Char) : List Char :=
  f.place (match f.precision with
    | some n => s.take n
    | none => s)

/-- An integer to a base in its frame; `lead` goes before the digits if the base is to be shown. -/
def placeInteger (f : Frame) (base : Nat) (lead : List Char) (i : Int) : List Char :=
  let digits := Nat.toDigits base i.natAbs
  let digits := List.replicate (f.precision.getD 0 - digits.length) '0' ++ digits
  f.placeNumber (decide (i < 0)) (if f.has '#' then lead else []) digits

/-- A floating-point number in its frame, in the style of a letter. -/
def placeFloat (f : Frame) (letter : Char) (x : Binary64) : List Char :=
  match x with
  | .nan => f.placeNumber false [] ['n', 'a', 'n']
  | .infinite negative => f.placeNumber negative [] ['i', 'n', 'f']
  | .finite negative mantissa exponent =>
      let precision := f.precision.getD 6
      let digits := match letter with
        | 'f' => Binary64.fixedText mantissa exponent precision (f.has '#')
        | 'e' => Binary64.scientificText mantissa exponent precision (f.has '#')
        | _ => Binary64.generalText mantissa exponent precision (f.has '#')
      f.placeNumber negative [] digits

end Frame

/-- A character, given by its number or as a text of one character. -/
def character (v : Value) : Except FillFault Char :=
  match v with
  | .text s =>
      match s.toList with
      | [c] => .ok c
      | _ => .error .wrongOperand
  | .illFormed t =>
      match t.text.points with
      | [p] => .ok p.shown
      | _ => .error .wrongOperand
  | _ =>
      match integer? v with
      | some i => if 0 ≤ i ∧ i < 0x110000 then .ok (Char.ofNat i.toNat) else .error .outOfRange
      | none => .error .wrongOperand

/-- The integer that a letter for another base asks for. -/
def exactInteger (v : Value) : Except FillFault Int :=
  match integer? v with
  | some i => .ok i
  | none => .error .wrongOperand

/-- A value written in the style of a letter. -/
def writeValue (f : Frame) (letter : Char) (v : Value) : Except FillFault (List Char) :=
  match letter with
  | 's' => .ok (f.placeText v.display.toList)
  | 'r' => .ok (f.placeText v.literal.toList)
  | 'a' => .ok (f.placeText (asciiLiteral v))
  | 'c' => (character v).map fun c => f.place [c]
  | 'd' | 'i' | 'u' => (wholePart v).map (f.placeInteger 10 [])
  | 'o' => (exactInteger v).map (f.placeInteger 8 ['0', 'o'])
  | 'x' => (exactInteger v).map (f.placeInteger 16 ['0', 'x'])
  | 'X' => (exactInteger v).map fun i => (f.placeInteger 16 ['0', 'x'] i).map Char.toUpper
  | 'e' | 'f' | 'g' => (floatOf v).map (f.placeFloat letter)
  | 'E' | 'F' | 'G' => (floatOf v).map fun x => (f.placeFloat letter.toLower x).map Char.toUpper
  | _ => .error .malformed

/-- A directive written with the values of a supply, and what is left of them. -/
def Directive.write (d : Directive) (s : Supply) : Except FillFault (List Char × Supply) := do
  let (width, s) ← Extent.resolve greatestWidth d.width s
  let (precision, s) ← Extent.resolve greatestPrecision d.precision s
  let (v, s) ← s.next
  let width := width.getD 0
  let frame : Frame := {
    flags := d.flags
    width := width.natAbs
    leftAligned := d.flags.contains '-' || decide (width < 0)
    precision := precision.map Int.toNat }
  return (← writeValue frame d.letter v, s)

/-- The text of a template, and what is left of the values. Each round reads a character, so the length of the text
bounds their number. -/
def writeAll : Nat → List Char → Supply → Except FillFault (List Char × Supply)
  | 0, _, s => .ok ([], s)
  | _ + 1, [], s => .ok ([], s)
  | fuel + 1, '%' :: '%' :: rest, s => do
      let (text, s) ← writeAll fuel rest s
      return ('%' :: text, s)
  | fuel + 1, '%' :: rest, s => do
      let (name, rest, s) ← match rest with
        | '(' :: rest =>
            if s.named.isNone then .error .wrongOperand
            else match readName 0 rest with
              | none => .error .malformed
              | some (name, rest) => do
                  let name := String.ofList name
                  let s ← s.select name
                  pure (some name, rest, s)
        | _ => pure (none, rest, s)
      match readDirective name rest with
      | none => .error .malformed
      | some (d, rest) =>
          let (written, s) ← d.write s
          let (text, s) ← writeAll fuel rest s
          return (written ++ text, s)
  | fuel + 1, c :: rest, s => do
      let (text, s) ← writeAll fuel rest s
      return (c :: text, s)

/-- The text of a template with values that are taken in order; all of them have to be taken, unless they have names. -/
def fill (template : String) (supply : Supply) : Except FillFault String := do
  let (text, left) ← writeAll template.length template.toList supply
  if left.named.isNone && !left.rest.isEmpty then .error .wrongOperand else return String.ofList text

end ResourceScaffold.Template
