/-!
# Ranges of code points

A class of characters is given by the ranges of its code points, in ascending order and apart from
each other, so that a search can end at the first range above the code point.
-/

namespace LetPoly.Text

/-- Whether a code point lies in one of the ranges. -/
def inRanges : List (Nat × Nat) → Nat → Bool
  | [], _ => false
  | (low, high) :: rest, n => low ≤ n && (n ≤ high || inRanges rest n)

end LetPoly.Text
