/-!
# Sets of code points

A property of characters that a standard gives by table is stored as ascending closed ranges of
code points.
-/

namespace Rollout.Text

/-- Closed ranges of code points, first and last of each. -/
abbrev Ranges := List (Nat × Nat)

def Ranges.contains (ranges : Ranges) (point : Nat) : Bool :=
  ranges.any fun r => r.1 ≤ point && point ≤ r.2

end Rollout.Text
