import ResourceScaffold.Number.Text
import ResourceScaffold.Text.CharacterClass
import ResourceScaffold.Text.Hexadecimal

/-!
# Numerals

Numbers as they are written by hand. Blanks may stand around a numeral and a sign in front of it; its decimal digits may
be those of any script. `intOfNumeral?` reads integers to a base, `Binary64.ofNumeral?` numbers with a fraction and an
exponent.
-/

namespace ResourceScaffold

/-- Blanks that may stand around a numeral: white space other than the four separators of ASCII. -/
def isNumeralBlank (c : Char) : Bool :=
  Text.isBlank c && !(28 ≤ c.toNat && c.toNat ≤ 31)

/-- A decimal digit of any script as one of ASCII, and every other character as it is. -/
def plainDigit (c : Char) : Char :=
  match Text.decimalDigit? c with
  | some d => Char.ofNat (48 + d)
  | none => c

/-- A numeral without the blanks around it, its digits in ASCII. -/
def numeralBody (s : List Char) : List Char :=
  (((s.dropWhile isNumeralBlank).reverse.dropWhile isNumeralBlank).reverse).map plainDigit

/-- Whether a number has a minus sign, and the number without its sign. -/
def splitSign : List Char → Bool × List Char
  | '-' :: rest => (true, rest)
  | '+' :: rest => (false, rest)
  | s => (false, s)

/-! ## Integers -/

/-- The greatest count of digits of an integer in decimal. -/
def greatestDigitCount : Nat := 4300

/-- Whether a letter after a zero marks numerals to a base. -/
def isBaseMark (base : Nat) (c : Char) : Bool :=
  (base == 2 && (c == 'b' || c == 'B')) || (base == 8 && (c == 'o' || c == 'O')) ||
    (base == 16 && (c == 'x' || c == 'X'))

/-- A numeral without the zero and the letter that mark its base. -/
def dropBaseMark (base : Nat) : List Char → List Char
  | '0' :: c :: rest => if isBaseMark base c then rest else '0' :: c :: rest
  | s => s

/-- The natural number that digits write to a base. -/
def natOfDigits? (base : Nat) (digits : List Char) : Option Nat :=
  if digits.isEmpty || (base == 10 && greatestDigitCount < digits.length) then none
  else digits.foldlM (fun n c =>
    match Text.hexValue? c with
    | some d => if d < base then some (base * n + d) else none
    | none => none) 0

/-- The integer that a numeral to a base writes. -/
def intOfNumeral? (base : Nat) (s : List Char) : Option Int :=
  let (negative, body) := splitSign (numeralBody s)
  (natOfDigits? base (dropBaseMark base body)).map fun n => if negative then -(n : Int) else n

/-! ## Floating-point numbers -/

namespace Binary64

/-- The exponent at the end of a number, zero if there is none. -/
def exponentOf? : List Char → Option Int
  | [] => some 0
  | c :: rest =>
      let (negative, digits) := splitSign rest
      if (c = 'e' ∨ c = 'E') ∧ !digits.isEmpty && digits.all Char.isDigit then
        let n : Int := digitsValue digits
        some (if negative then -n else n)
      else none

/-- A number without a sign: digits, with a point before, among or after them, and perhaps an exponent. -/
def ofDigits? (s : List Char) : Option Binary64 :=
  let whole := s.takeWhile Char.isDigit
  let rest := s.drop whole.length
  let (fraction, rest) := match rest with
    | '.' :: rest => (rest.takeWhile Char.isDigit, rest.dropWhile Char.isDigit)
    | _ => ([], rest)
  if whole.isEmpty && fraction.isEmpty then none
  else (exponentOf? rest).map fun e => ofDecimal false (digitsValue (whole ++ fraction)) (e - fraction.length)

/-- The words for an infinite number and for the undefined one. -/
def words : List (String × Binary64) :=
  [("inf", infinite false), ("infinity", infinite false), ("nan", nan)]

/-- The number that a numeral writes. -/
def ofNumeral? (s : List Char) : Option Binary64 :=
  let (negative, body) := splitSign (numeralBody s)
  let number := match words.lookup (String.ofList (body.map Char.toLower)) with
    | some x => some x
    | none => ofDigits? body
  number.map fun x => if negative then x.negate else x

end Binary64

end ResourceScaffold
