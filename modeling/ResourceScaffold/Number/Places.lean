import ResourceScaffold.Number.Text

/-!
# Numbers with a given count of digits

Floating-point numbers rounded to a count of places after the point or to a count of digits, a tie to the even digit.
-/

namespace ResourceScaffold.Binary64

/-- The number of units of `10 ^ -places` nearest to the finite number `mantissa * 2 ^ exponent`. -/
def unitsOf (mantissa : Nat) (exponent places : Int) : Nat :=
  let (num, den) := scaled mantissa exponent
  divideToEven (num * Nat.pow 10 places.toNat) (den * Nat.pow 10 (-places).toNat)

/-- A natural number of units of `10 ^ -places`, with a point before the last `places` digits; `keepPoint` asks for the
point also when no digit follows. -/
def pointed (units places : Nat) (keepPoint : Bool) : List Char :=
  let digits := natDigits units
  let digits := List.replicate (places + 1 - digits.length) '0' ++ digits
  let whole := digits.take (digits.length - places)
  if places = 0 && !keepPoint then whole else whole ++ '.' :: digits.drop whole.length

/-- The decimal exponent of the finite number `mantissa * 2 ^ exponent`: that of its first digit. -/
def decimalExponent (mantissa : Nat) (exponent : Int) : Int :=
  let (num, den) := scaled mantissa exponent
  if num = 0 then 0
  else if den ≤ num then (natDigits (num / den)).length - 1
  else -((natDigits ((den + num - 1) / num - 1)).length : Int)

/-- The first `places + 1` digits of a finite number, as a number, and the exponent of the first one. -/
def leadingDigits (mantissa : Nat) (exponent : Int) (places : Nat) : Nat × Int :=
  let e := decimalExponent mantissa exponent
  let units := unitsOf mantissa exponent (places - e)
  if units = Nat.pow 10 (places + 1) then (Nat.pow 10 places, e + 1) else (units, e)

/-- A text without the zeros at the end of its fraction, and without the point if nothing else follows it. -/
def dropZeros (s : List Char) : List Char :=
  if s.contains '.' then
    match s.reverse.dropWhile (· == '0') with
    | '.' :: rest => rest.reverse
    | rest => rest.reverse
  else s

/-- A decimal exponent, with a sign and at least two digits. -/
def exponentText (e : Int) : List Char :=
  let digits := natDigits e.natAbs
  'e' :: (if e < 0 then '-' else '+') :: (List.replicate (2 - digits.length) '0' ++ digits)

/-- A finite number with a count of places after the point. -/
def fixedText (mantissa : Nat) (exponent : Int) (places : Nat) (keepPoint : Bool) : List Char :=
  pointed (unitsOf mantissa exponent places) places keepPoint

/-- A finite number with one digit before the point, a count of places after it, and an exponent. -/
def scientificText (mantissa : Nat) (exponent : Int) (places : Nat) (keepPoint : Bool) : List Char :=
  let (units, e) := leadingDigits mantissa exponent places
  pointed units places keepPoint ++ exponentText e

/-- A finite number with at most a count of digits, positionally if its exponent is from -4 up to that count. -/
def generalText (mantissa : Nat) (exponent : Int) (digits : Nat) (keepPoint : Bool) : List Char :=
  let digits := max digits 1
  let (units, e) := leadingDigits mantissa exponent (digits - 1)
  let trim (s : List Char) : List Char := if keepPoint then s else dropZeros s
  if -4 ≤ e ∧ e < digits then trim (fixedText mantissa exponent (digits - 1 - e).toNat keepPoint)
  else trim (pointed units (digits - 1) keepPoint) ++ exponentText e

end ResourceScaffold.Binary64
