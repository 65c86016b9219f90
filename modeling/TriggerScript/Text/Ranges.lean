/-!
# Sets of characters given by ranges of code points
-/

namespace TriggerScript.Text

/-- The ranges of code points, first and last, that make up a set of characters. -/
abbrev Ranges := List (Nat × Nat)

/-- Whether a character lies in one of the ranges. -/
def Ranges.holds (ranges : Ranges) (c : Char) : Bool :=
  ranges.any fun range => range.1 ≤ c.toNat && c.toNat ≤ range.2

end TriggerScript.Text
