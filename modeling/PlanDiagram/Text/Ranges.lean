/-!
# Tables of code points

A property of characters is given as an ordered list of closed ranges of code points.
-/

namespace PlanDiagram.Text

/-- Tells whether one of the closed ranges holds a code point. -/
def inRanges (n : Nat) (ranges : List (Nat × Nat)) : Bool :=
  ranges.any fun range => range.1 ≤ n && n ≤ range.2

end PlanDiagram.Text
