import ResourceScaffold.Number.Binary64

/-!
# Numbers in text

Integers and floating-point numbers as they are written in messages and generated code, and decimal digits read back.
A floating-point number is written with the fewest digits that read back, positionally from `0.0001` up to, but not
including, `10 ^ 16`, and with an exponent of at least two digits otherwise.
-/

namespace ResourceScaffold

/-- The number written by decimal digits; characters that are no digits count as their distance from zero. -/
def digitsValue (digits : List Char) : Nat :=
  digits.foldl (fun n c => 10 * n + (c.toNat - 48)) 0

/-- The decimal digits of a natural number. -/
def natDigits (n : Nat) : List Char :=
  Nat.toDigits 10 n

/-- A natural number with at least `width` digits. -/
def natPadded (width n : Nat) : String :=
  let digits := natDigits n
  String.ofList (List.replicate (width - digits.length) '0' ++ digits)

/-- An integer in decimal. -/
def intText (i : Int) : String :=
  match i with
  | .ofNat n => String.ofList (natDigits n)
  | .negSucc n => String.ofList ('-' :: natDigits (n + 1))

namespace Binary64

/-- The least decimal exponent that is written positionally. -/
def leastPositional : Int := -4

/-- The least decimal exponent from which on an exponent is written. -/
def leastScientific : Int := 16

/-- A number `d₁.d₂d₃… * 10 ^ e` given by its digits and `e`. -/
def digitsText (digits : List Char) (e : Int) : List Char :=
  if leastPositional ≤ e ∧ e < leastScientific then
    if e < 0 then '0' :: '.' :: (List.replicate (-e - 1).toNat '0' ++ digits)
    else
      let whole := digits.take (e.toNat + 1)
      let fraction := digits.drop (e.toNat + 1)
      whole ++ List.replicate (e.toNat + 1 - whole.length) '0' ++
        '.' :: (if fraction.isEmpty then ['0'] else fraction)
  else
    let exponent := natDigits e.natAbs
    digits.take 1 ++ (if (digits.drop 1).isEmpty then [] else '.' :: digits.drop 1) ++
      'e' :: (if e < 0 then '-' else '+') :: (List.replicate (2 - exponent.length) '0' ++ exponent)

/-- The text of a floating-point number. -/
def text : Binary64 → String
  | nan => "nan"
  | infinite negative => if negative then "-inf" else "inf"
  | finite negative mantissa exponent =>
      let body :=
        if mantissa = 0 then ['0', '.', '0']
        else
          let (d, p) := shortest mantissa exponent
          let digits := natDigits d
          digitsText digits (p + digits.length - 1)
      String.ofList (if negative then '-' :: body else body)

end Binary64

end ResourceScaffold
