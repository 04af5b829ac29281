/-!
# Binary floating-point numbers

Numbers with a sign, 53 bits of precision and the exponent range of the 64-bit binary format, as exact data. A ratio of
natural numbers is rounded to the nearest such number, a tie to the even mantissa; `Binary64.shortest` goes the other
way and finds the decimal with the fewest digits that rounds back.
-/

namespace ResourceScaffold

/-- A 64-bit binary floating-point number. The finite number with mantissa `m` and exponent `q` is `m * 2 ^ q`; its
mantissa is below `2 ^ 53`, and below `2 ^ 52` only at the least exponent -1074. -/
inductive Binary64 where
  | nan
  | infinite (negative : Bool)
  | finite (negative : Bool) (mantissa : Nat) (exponent : Int)
  deriving DecidableEq, Repr, Inhabited

namespace Binary64

/-- The least exponent of a finite number. -/
def leastExponent : Int := -1074

/-- The greatest exponent of a finite number. -/
def greatestExponent : Int := 971

/-- Zero with a sign. -/
def zero (negative : Bool) : Binary64 :=
  .finite negative 0 leastExponent

/-- The numerator and denominator of `n * 2 ^ q`. -/
def scaled (n : Nat) (q : Int) : Nat × Nat :=
  (n * Nat.pow 2 q.toNat, Nat.pow 2 (-q).toNat)

/-- The quotient of two natural numbers, rounded to the nearest; a tie goes to the even one. -/
def divideToEven (num den : Nat) : Nat :=
  let quotient := num / den
  let rest := num % den
  if den < 2 * rest ∨ (2 * rest = den ∧ quotient % 2 = 1) then quotient + 1 else quotient

/-- A rounded mantissa at an exponent: the carry into the next binade and the overflow to infinity. -/
def normalize (negative : Bool) (mantissa : Nat) (exponent : Int) : Binary64 :=
  let (mantissa, exponent) := if mantissa = Nat.pow 2 53 then (Nat.pow 2 52, exponent + 1) else (mantissa, exponent)
  if mantissa = 0 then zero negative
  else if greatestExponent < exponent then .infinite negative
  else .finite negative mantissa exponent

/-- The number nearest to `num / den`, for `den > 0`. -/
def ofRatio (negative : Bool) (num den : Nat) : Binary64 :=
  let at_ (exponent : Int) : Nat × Nat := (num * Nat.pow 2 (-exponent).toNat, den * Nat.pow 2 exponent.toNat)
  let guess := max ((Nat.log2 num : Int) - Nat.log2 den - 53) leastExponent
  let exponent := if Nat.pow 2 53 ≤ (at_ guess).1 / (at_ guess).2 then guess + 1 else guess
  normalize negative (divideToEven (at_ exponent).1 (at_ exponent).2) exponent

/-- The number nearest to `digits * 10 ^ exponent`. -/
def ofDecimal (negative : Bool) (digits : Nat) (exponent : Int) : Binary64 :=
  let magnitude := (Nat.toDigits 10 digits).length + exponent
  if digits = 0 ∨ magnitude < -330 then zero negative
  else if 310 < magnitude then .infinite negative
  else ofRatio negative (digits * Nat.pow 10 exponent.toNat) (Nat.pow 10 (-exponent).toNat)

/-- The number nearest to a natural number. -/
def ofNat (n : Nat) : Binary64 :=
  ofRatio false n 1

/-- The same number with the other sign. -/
def negate : Binary64 → Binary64
  | nan => nan
  | infinite negative => infinite (!negative)
  | finite negative mantissa exponent => finite (!negative) mantissa exponent

/-- Whether a number is a zero of either sign. -/
def isZero : Binary64 → Bool
  | finite _ mantissa _ => mantissa == 0
  | _ => false

/-- The integer a number equals, if it is one. -/
def toInt? : Binary64 → Option Int
  | finite negative mantissa exponent =>
      let (num, den) := scaled mantissa exponent
      if num % den = 0 then
        some (if negative then -((num / den : Nat) : Int) else ((num / den : Nat) : Int))
      else none
  | _ => none

/-- Whether a number has a minus sign. -/
def isNegative : Binary64 → Bool
  | nan => false
  | infinite negative => negative
  | finite negative _ _ => negative

/-- The rounded product of two numbers. -/
def mul : Binary64 → Binary64 → Binary64
  | nan, _ => nan
  | _, nan => nan
  | infinite s, y => if y.isZero then nan else infinite (s != y.isNegative)
  | x, infinite t => if x.isZero then nan else infinite (x.isNegative != t)
  | finite s m p, finite t n q =>
      let (num, den) := scaled (m * n) (p + q)
      ofRatio (s != t) num den

/-- The rounded sum of two numbers. Zeros add to a negative zero only if both are negative. -/
def add : Binary64 → Binary64 → Binary64
  | nan, _ => nan
  | _, nan => nan
  | infinite s, infinite t => if s = t then infinite s else nan
  | infinite s, _ => infinite s
  | _, infinite t => infinite t
  | finite s m p, finite t n q =>
      let least := min p q
      let a : Int := m * Nat.pow 2 (p - least).toNat
      let b : Int := n * Nat.pow 2 (q - least).toNat
      let sum := (if s then -a else a) + (if t then -b else b)
      if sum = 0 then zero (s && t)
      else
        let (num, den) := scaled sum.natAbs least
        ofRatio (decide (sum < 0)) num den

/-! ## Shortest decimals -/

/-- The multiple of `10 ^ p` nearest to `m * 2 ^ q` among those that round to it, as the factor of `10 ^ p`. The interval
of reals that round to the number reaches half a unit up and down, a quarter of a unit down from a power of two, and
holds its ends when the mantissa is even. -/
def gridPoint? (mantissa : Nat) (exponent p : Int) : Option Nat :=
  let (num, den) := scaled 1 (exponent - 2)
  let unit := num * Nat.pow 10 (-p).toNat
  let grid := den * Nat.pow 10 p.toNat
  let value := 4 * mantissa * unit
  let low := (4 * mantissa - if mantissa = Nat.pow 2 52 ∧ leastExponent < exponent then 1 else 2) * unit
  let high := (4 * mantissa + 2) * unit
  let inside (d : Nat) : Bool :=
    if mantissa % 2 = 0 then low ≤ d * grid && d * grid ≤ high else low < d * grid && d * grid < high
  let below := value / grid
  let rest := value % grid
  match inside below, inside (below + 1) with
  | true, true => if grid < 2 * rest ∨ (2 * rest = grid ∧ below % 2 = 1) then some (below + 1) else some below
  | true, false => some below
  | false, true => some (below + 1)
  | false, false => none

/-- Searches the grids `10 ^ p`, `10 ^ (p - 1)` and so on for the first point that rounds to `m * 2 ^ q`. -/
def shortestFrom (mantissa : Nat) (exponent : Int) : Nat → Int → Nat × Int
  | 0, p => (0, p)
  | fuel + 1, p =>
      match gridPoint? mantissa exponent p with
      | some d => (d, p)
      | none => shortestFrom mantissa exponent fuel (p - 1)

/-- The digits `d` and exponent `p` of the decimal `d * 10 ^ p` with the fewest digits that rounds to `m * 2 ^ q`, the
nearest one of those. A grid two decades above the number holds no such point, and 17 digits always suffice. -/
def shortest (mantissa : Nat) (exponent : Int) : Nat × Int :=
  let bits := (Nat.log2 mantissa : Int) + 1 + exponent
  shortestFrom mantissa exponent 24 (bits * 30103 / 100000 + 2)

end Binary64

end ResourceScaffold
