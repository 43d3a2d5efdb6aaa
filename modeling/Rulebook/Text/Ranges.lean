-- Sets of characters as sorted lists of code point ranges.

namespace Rulebook.Text

/-- Membership in a sorted list of inclusive ranges of code points. -/
def inRanges (n : Nat) : List (Nat × Nat) → Bool
  | [] => false
  | (low, high) :: rest => if n < low then false else n ≤ high || inRanges n rest

end Rulebook.Text
