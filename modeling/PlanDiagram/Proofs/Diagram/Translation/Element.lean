import Mathlib.Tactic.Ring
import PlanDiagram.Diagram.Draw
import PlanDiagram.Proofs.Diagram.Rational

/-!
# Moving elements

Boxes, and with them nodes, arrows and blocks, are moved in the plane by an offset. An arrow runs
along the line between the centres of its boxes, so its ends move along with these, and where it
meets them is the same relative to the boxes.
-/

namespace PlanDiagram.Diagram

/-- A point moved by an offset. -/
def Point.move (p v : Point Rat) : Point Rat :=
  ⟨p.x + v.x, p.y + v.y⟩

/-- A box moved by an offset. -/
def Box.move (b : Box Rat) (v : Point Rat) : Box Rat :=
  { b with x := b.x + v.x, y := b.y + v.y }

/-- A node moved by an offset. -/
def Node.move (n : Node Rat) (v : Point Rat) : Node Rat :=
  { n with box := n.box.move v }

/-- An arrow moved by an offset: it connects the moved boxes. -/
def Arrow.move (a : Arrow Rat) (v : Point Rat) : Arrow Rat :=
  { a with source := a.source.move v, target := a.target.move v }

/-- An element moved by an offset. A group has no place of its own. -/
def Element.move (e : Element Rat) (v : Point Rat) : Element Rat :=
  match e with
  | .node n => .node (n.move v)
  | .arrow a => .arrow (a.move v)
  | .group g => .group g

/-- A block moved by an offset. -/
def Block.move (b : Block Rat) (v : Point Rat) : Block Rat :=
  { b with elements := b.elements.map (·.move v) }

/-- Moving by nothing changes nothing. -/
theorem Element.move_zero (e : Element Rat) : e.move ⟨0, 0⟩ = e := by
  cases e <;> simp [move, Node.move, Arrow.move, Box.move]

/-- Moving twice is moving by an offset that is moved. -/
theorem Element.move_move (e : Element Rat) (v w : Point Rat) :
    (e.move v).move w = e.move (v.move w) := by
  cases e <;> simp [move, Node.move, Arrow.move, Box.move, Point.move, add_assoc]

theorem Block.move_zero (b : Block Rat) : b.move ⟨0, 0⟩ = b := by
  simp [move, Element.move_zero]

theorem Block.move_move (b : Block Rat) (v w : Point Rat) :
    (b.move v).move w = b.move (v.move w) := by
  simp [move, Element.move_move]

@[simp] theorem Element.id_move (e : Element Rat) (v : Point Rat) : (e.move v).id = e.id := by
  cases e <;> rfl

namespace Box

variable (b : Box Rat) (p v : Point Rat)

@[simp] theorem id_move : (b.move v).id = b.id := rfl

@[simp] theorem width_move : (b.move v).width = b.width := rfl

@[simp] theorem height_move : (b.move v).height = b.height := rfl

@[simp] theorem shape_move : (b.move v).shape = b.shape := rfl

/-- The centre moves along. -/
@[simp] theorem center_move : (b.move v).center = b.center.move v :=
  congrArg₂ Point.mk (add_right_comm _ _ _) (add_right_comm _ _ _)

/-- The lower border moves along. -/
@[simp] theorem bottom_move : (b.move v).bottom = b.bottom + v.y :=
  add_right_comm _ _ _

/-- The line from the centre towards a moved point crosses the border at the moved place. -/
theorem borderTowards_move :
    (b.move v).borderTowards (p.move v) = (b.borderTowards p).map (·.move v) := by
  have hdifference (a c offset : Rat) : a + offset - (c + offset) = a - c :=
    add_sub_add_right_eq_sub a c offset
  have hpart (part : Except Fault Rat) (q d : Point Rat) :
      (do let scale ← part; return ⟨q.x + v.x + d.x * scale, q.y + v.y + d.y * scale⟩) =
        (do let scale ← part; return ⟨q.x + d.x * scale, q.y + d.y * scale⟩ :
          Except Fault (Point Rat)).map (·.move v) := by
    cases part with
    | error fault => rfl
    | ok scale =>
      exact congrArg Except.ok (congrArg₂ Point.mk (add_right_comm _ _ _) (add_right_comm _ _ _))
  simp only [borderTowards, center_move, width_move, height_move, shape_move]
  simp only [Point.move, hdifference]
  split
  · rfl
  split
  · rfl
  -- the direction is the same, and with it the part of the way
  cases b.shape with
  | ellipse => exact hpart _ b.center ⟨p.x - b.center.x, p.y - b.center.y⟩
  | rectangle => exact hpart _ b.center ⟨p.x - b.center.x, p.y - b.center.y⟩

/-- A moved point lies in relation to the moved box as the point does to the box. -/
theorem connection_move : (b.move v).connection (p.move v) = b.connection p := by
  have hrelative (start length coordinate offset : Rat) :
      relative (start + offset) length (coordinate + offset) =
        relative start length coordinate := by
    simp only [relative, add_sub_add_right_eq_sub]
  have hx := hrelative b.x b.width p.x v.x
  have hy := hrelative b.y b.height p.y v.y
  simp only [connection, move, Point.move, hx, hy]

end Box

/-- The ends of an arrow: the points on the borders of its boxes, each with its place relative to
the box. -/
def Arrow.ends (a : Arrow Rat) : Except Fault (List (Point Rat × Point Rat)) := do
  let start ← a.source.borderTowards a.target.center
  let stop ← a.target.borderTowards a.source.center
  return [(start, ← a.source.connection start), (stop, ← a.target.connection stop)]

/-- The ends of an arrow move along, and stay at their places relative to the boxes. -/
theorem Arrow.ends_move (a : Arrow Rat) (v : Point Rat) :
    (a.move v).ends = a.ends.map (List.map fun e => (e.1.move v, e.2)) := by
  simp only [ends, move, Box.center_move, Box.borderTowards_move]
  cases a.source.borderTowards a.target.center with
  | error fault => rfl
  | ok start =>
    cases a.target.borderTowards a.source.center with
    | error fault => rfl
    | ok stop =>
      simp only [Except.map, bind, Except.bind, Box.connection_move]
      cases a.source.connection start with
      | error fault => rfl
      | ok place => cases a.target.connection stop <;> rfl

end PlanDiagram.Diagram
