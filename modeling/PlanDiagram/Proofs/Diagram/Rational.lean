import Mathlib.Data.Nat.Sqrt
import PlanDiagram.Diagram.Config

/-!
# Rational scalars

Rational numbers are scalars whose sums, products and quotients are exact, so diagrams can be drawn
and compared by evaluation. Only quotients by zero fail.
-/

namespace PlanDiagram.Diagram

/-- Rational numbers are scalars. The root is rounded down to a quotient of natural numbers, and is
exact for squares. -/
instance : Scalar Rat where
  ofNat n := n
  half x := x / 2
  magnitude := Rat.abs
  root x := mkRat (Nat.sqrt x.num.toNat) (Nat.sqrt x.den)
  isZero x := x == 0
  quotient x y := if y = 0 then .error .divisionByZero else .ok (x / y)
  ceiling x := .ok x.ceil
  ofCount n := .ok n

/-- The default configuration, with its sizes as rational numbers. -/
def Config.rational : Config Rat where
  nodeWidth := 120
  nodeHeight := 60
  parameterScale := 7 / 10
  spacingX := 200
  spacingY := 110
  startX := 100
  startY := 100
  actionColumns := 3
  problemMaxColumns := 8
  palette := defaultPalette

end PlanDiagram.Diagram
