import PlanDiagram.Number.Binary

/-!
# Scalars

Positions and sizes are computed in one of several kinds of numbers: doubles when a diagram is
drawn, exact numbers when its geometry is reasoned about. A scalar type has sums, differences,
products and an order, and the operations of the class `Scalar`. Quotients, ceilings and the
conversion of counts can fail, each for a cause of its own.
-/

namespace PlanDiagram.Diagram

/-- Why a diagram cannot be drawn. -/
inductive Fault where
  /-- A quotient or remainder by zero. -/
  | divisionByZero
  /-- An infinite number has no integer near it. -/
  | infiniteCount
  /-- A result that is no number has no integer near it. -/
  | nanCount
  /-- A count lies beyond the range of the scalars. -/
  | hugeCount
  /-- No colour is known for a role. -/
  | unknownRole (role : String)
deriving DecidableEq, Repr

/-- The wording of a fault. -/
def Fault.message : Fault → String
  | .divisionByZero => "float division by zero"
  | .infiniteCount => "cannot convert float infinity to integer"
  | .nanCount => "cannot convert float NaN to integer"
  | .hugeCount => "int too large to convert to float"
  | .unknownRole role => "unknown role " ++ role

/-- The operations of scalars besides sums, differences, products and the order. -/
class Scalar (α : Type) where
  /-- A small natural number. -/
  ofNat : Nat → α
  /-- Half of a scalar. -/
  half : α → α
  /-- The absolute value of a scalar. -/
  magnitude : α → α
  /-- The square root of a scalar. -/
  root : α → α
  /-- Tells whether a scalar is zero. -/
  isZero : α → Bool
  /-- The quotient of two scalars. -/
  quotient : α → α → Except Fault α
  /-- The least integer that is not below a scalar. -/
  ceiling : α → Except Fault Int
  /-- A count of any size. -/
  ofCount : Nat → Except Fault α

/-- Doubles are scalars. Division by a zero of either sign fails, and so does the ceiling of what is
no finite number. -/
instance : Scalar Float where
  ofNat := Float.ofNat
  half x := x / 2.0
  magnitude := Float.abs
  root := Float.sqrt
  isZero x := x == 0.0
  quotient x y := if y == 0.0 then .error .divisionByZero else .ok (x / y)
  ceiling x :=
    match Number.ceiling x with
    | .ok n => .ok n
    | .error .infinite => .error .infiniteCount
    | .error .notANumber => .error .nanCount
  ofCount n :=
    let x := Float.ofNat n
    if x.isInf then .error .hugeCount else .ok x

variable {α : Type} [LT α] [DecidableLT α]

/-- The second scalar if it is greater than the first, else the first. -/
def greater (a b : α) : α :=
  if a < b then b else a

/-- The second scalar if it is less than the first, else the first. -/
def lesser (a b : α) : α :=
  if b < a then b else a

end PlanDiagram.Diagram
