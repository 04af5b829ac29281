/-!
# Sorted closed ranges of code points

A property of characters is stored as a list of closed ranges in increasing order; `inRanges` looks a code point up and
stops at the first range that begins after it.
-/

namespace ResourceScaffold.Text

/-- Whether `n` lies in one of the closed ranges of a list sorted by its first components. -/
def inRanges : List (Nat × Nat) → Nat → Bool
  | [], _ => false
  | (first, last) :: rest, n => decide (first ≤ n) && (decide (n ≤ last) || inRanges rest n)

end ResourceScaffold.Text
