import StepUp.Text.CodePoint

/-!
# Sets of code points as ranges
-/

namespace StepUp

/-- Closed ranges of code point numbers, in ascending order. -/
abbrev Ranges := List (Nat × Nat)

namespace Ranges

def contains : Ranges → Nat → Bool
  | [], _ => false
  | (lo, hi) :: rest, n => (lo ≤ n && n ≤ hi) || contains rest n

end Ranges

end StepUp
