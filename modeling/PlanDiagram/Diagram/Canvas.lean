import PlanDiagram.Diagram.Config
import PlanDiagram.Diagram.Element

/-!
# Canvases

The elements of one block are collected on a canvas under the identifier of their group. The canvas
keeps track of the lowest point drawn so far, and draws only the first of several arrows between the
same two nodes.
-/

namespace PlanDiagram.Diagram

/-- The elements drawn so far, in order, with the lowest point and the pairs of nodes that an arrow
connects. -/
structure Canvas (α : Type) where
  group : String
  bottom : α
  elements : List (Element α) := []
  connected : List (String × String) := []

namespace Canvas

variable {α : Type} [Add α] [LT α] [DecidableLT α]

/-- Lowers the lowest point to a height, if that is lower. -/
def extend (c : Canvas α) (height : α) : Canvas α :=
  { c with bottom := greater c.bottom height }

/-- Adds a node and gives its box. -/
def place (c : Canvas α) (node : Node α) : Box α × Canvas α :=
  let drawn : Canvas α := { c with elements := c.elements ++ [.node node] }
  (node.box, drawn.extend node.box.bottom)

/-- Draws a rectangle with a text. -/
def rectangle (cfg : Config α) (c : Canvas α) (text : String) (corner : Point α) (id : String)
    (width height : α) : Except Fault (Box α × Canvas α) := do
  let fill ← cfg.colour "rectangle-fill"
  let stroke ← cfg.colour "rectangle-stroke"
  let box : Box α := ⟨sanitize id, corner.x, corner.y, width, height, .rectangle⟩
  return c.place { box, text, fill, stroke, group := c.group }

/-- Draws an ellipse with a text, in the colour of a role. -/
def ellipse (cfg : Config α) (c : Canvas α) (text : String) (corner : Point α) (id role : String) :
    Except Fault (Box α × Canvas α) := do
  let fill ← cfg.colour role
  let stroke ← cfg.colour "ellipse-stroke"
  let box : Box α := ⟨sanitize id, corner.x, corner.y, cfg.nodeWidth, cfg.nodeHeight, .ellipse⟩
  return c.place { box, text, fill, stroke, group := c.group }

/-- Draws a description of what the role names. -/
def description (cfg : Config α) (c : Canvas α) (text : String) (corner : Point α) (id : String)
    (width height : α) (role : String) : Except Fault (Box α × Canvas α) := do
  let fill ← cfg.colour (role ++ "-description-fill")
  let stroke ← cfg.colour (role ++ "-description-stroke")
  let box : Box α := ⟨sanitize id, corner.x, corner.y, width, height, .rectangle⟩
  let align := if role == "problem-init" then .left else .center
  return c.place { box, text, fill, stroke, align, describes := some role, group := c.group }

/-- Draws an arrow, unless one connects the two nodes in this direction already. -/
def edge (cfg : Config α) (c : Canvas α) (source target : Box α) (id : String)
    (label : Option String) : Except Fault (Option (Arrow α) × Canvas α) := do
  if c.connected.contains (source.id, target.id) then return (none, c)
  let stroke ← cfg.colour "edge"
  let arrow : Arrow α := { id := sanitize id, source, target, stroke, label, group := some c.group }
  return (some arrow, { c with
    elements := c.elements ++ [.arrow arrow]
    connected := (source.id, target.id) :: c.connected })

omit [Add α] [LT α] [DecidableLT α] in
/-- The elements of the block, with the group in front. -/
def finish (c : Canvas α) (description : String) (data : List (String × Value)) :
    List (Element α) :=
  .group { id := c.group, description, members := c.elements.map Element.id, data } :: c.elements

end Canvas

end PlanDiagram.Diagram
