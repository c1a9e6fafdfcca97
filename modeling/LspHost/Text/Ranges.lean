/-!
Sets of characters given as closed ranges of code points.
-/

namespace LspHost.Text

/-- Whether a character lies in one of the given closed ranges, which stand in rising order. -/
def inRanges : List (Nat × Nat) → Char → Bool
  | [], _ => false
  | (low, high) :: rest, c =>
    if c.toNat < low then false else if c.toNat ≤ high then true else inRanges rest c

end LspHost.Text
