/-
# Character classes given by ranges of code points

A class of characters is a list of closed ranges, in increasing order.
The tables of this library (`Word`, `Case`, `Printable`) are such lists.

Key definitions: `inRanges`.
-/

namespace TwinQuery

/-- Whether `n` lies in one of the closed ranges. The ranges stand in
increasing order, so the search ends at the first one above `n`. -/
def inRanges : List (Nat × Nat) → Nat → Bool
  | [], _ => false
  | (low, high) :: ranges, n =>
    if n < low then false else n ≤ high || inRanges ranges n

end TwinQuery
