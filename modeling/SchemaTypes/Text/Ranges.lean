/-!
Sets of characters as closed ranges of code points, ascending and apart.
-/
namespace SchemaTypes.Text

/-- Looks a number up in ascending ranges. -/
def inRanges (n : Nat) : List (Nat × Nat) → Bool
  | [] => false
  | (low, high) :: rest => if n < low then false else n ≤ high || inRanges n rest

end SchemaTypes.Text
