/-!
# Sets of characters as ranges

A set of code points is a list of closed ranges in ascending order.
-/

namespace LookupBench

/-- Membership in a list of ascending ranges. -/
def inRanges (n : Nat) : List (Nat × Nat) → Bool
  | [] => false
  | (low, high) :: rest => if n < low then false else n ≤ high || inRanges n rest

end LookupBench
