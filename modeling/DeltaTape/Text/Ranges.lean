/-
# DeltaTape.Text.Ranges — classes of characters given by ranges of code points

A class is a list of closed ranges in ascending order.  The list is walked only
as far as the first range that does not end before the character.
-/

namespace DeltaTape.Text

set_option autoImplicit false

/-- Whether a code point lies in one of the ranges, which ascend. -/
def inRanges (code : Nat) : List (Nat × Nat) → Bool
  | [] => false
  | (first, last) :: ranges => if code ≤ last then decide (first ≤ code) else inRanges code ranges

end DeltaTape.Text
