import PlanDiagram.Diagram.Scalar

/-!
# Boxes

Every node of a diagram fills a box. Arrows between nodes run along the line between the centres and
start where it crosses the border of the shape; where an arrow meets a box is recorded relative to
the box, from zero to one on each axis.
-/

namespace PlanDiagram.Diagram

/-- The shape of a node. -/
inductive Shape where
  | rectangle
  | ellipse
deriving DecidableEq, Repr

/-- The name of a shape. -/
def Shape.name : Shape → String
  | .rectangle => "rectangle"
  | .ellipse => "ellipse"

/-- A point of the plane; the second coordinate grows downwards. -/
structure Point (α : Type) where
  x : α
  y : α
deriving DecidableEq, Repr

/-- The place of a node with the identifier of the node. -/
structure Box (α : Type) where
  id : String
  x : α
  y : α
  width : α
  height : α
  shape : Shape := .rectangle
deriving DecidableEq, Repr

namespace Box

variable {α : Type} [Add α] [Sub α] [Mul α] [LT α] [DecidableLT α] [Scalar α]

/-- The upper left corner. -/
def origin (b : Box α) : Point α :=
  ⟨b.x, b.y⟩

/-- The lower right corner. -/
def corner (b : Box α) : Point α :=
  ⟨b.x + b.width, b.y + b.height⟩

/-- The middle of the box. -/
def center (b : Box α) : Point α :=
  ⟨b.x + Scalar.half b.width, b.y + Scalar.half b.height⟩

/-- The height of the lower border. -/
def bottom (b : Box α) : α :=
  b.y + b.height

/-- The part of the way from the centre in direction `(dx, dy)` at which an ellipse with the half
axes `rx` and `ry` is left. -/
def ellipseScale (rx ry dx dy : α) : Except Fault α := do
  let across ← Scalar.quotient (dx * dx) (rx * rx)
  let down ← Scalar.quotient (dy * dy) (ry * ry)
  Scalar.quotient (Scalar.ofNat 1) (Scalar.root (across + down))

/-- The part of the way from the centre in direction `(dx, dy)` at which a rectangle with the half
sides `hw` and `hh` is left: on the side that is met first. -/
def rectangleScale (hw hh dx dy : α) : Except Fault α := do
  if Scalar.isZero dx then Scalar.quotient hh (Scalar.magnitude dy)
  else if Scalar.isZero dy then Scalar.quotient hw (Scalar.magnitude dx)
  else
    return lesser (← Scalar.quotient hw (Scalar.magnitude dx))
      (← Scalar.quotient hh (Scalar.magnitude dy))

/-- Where the line from the centre towards a target crosses the border. The centre itself stands for
a target in the centre and for a box without extent. -/
def borderTowards (b : Box α) (target : Point α) : Except Fault (Point α) := do
  let center := b.center
  let dx := target.x - center.x
  let dy := target.y - center.y
  if Scalar.isZero dx && Scalar.isZero dy then return center
  let hw := Scalar.half b.width
  let hh := Scalar.half b.height
  if Scalar.isZero hw || Scalar.isZero hh then return center
  let scale ←
    match b.shape with
    | .ellipse => ellipseScale hw hh dx dy
    | .rectangle => rectangleScale hw hh dx dy
  return ⟨center.x + dx * scale, center.y + dy * scale⟩

/-- A coordinate relative to an interval of the given start and length; the middle stands for every
point of an interval without extent. -/
def relative (start length coordinate : α) : Except Fault α :=
  if Scalar.isZero length then .ok (Scalar.half (Scalar.ofNat 1))
  else Scalar.quotient (coordinate - start) length

/-- A point relative to the box. -/
def connection (b : Box α) (p : Point α) : Except Fault (Point α) := do
  return ⟨← relative b.x b.width p.x, ← relative b.y b.height p.y⟩

end Box

end PlanDiagram.Diagram
