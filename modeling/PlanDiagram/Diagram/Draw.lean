import PlanDiagram.Diagram.Canvas
import PlanDiagram.Diagram.Session
import PlanDiagram.Formula.Label

/-!
# Drawing

A drawing in progress is a canvas together with the session that its identifiers come from. This
module holds the steps that the blocks of actions and problems share: nodes, numbered identifiers,
cells of a grid, and the arrows between a literal and its arguments.
-/

namespace PlanDiagram.Diagram

/-- A canvas with the session that its identifiers come from. -/
structure Drawing (α : Type) where
  canvas : Canvas α
  session : Session

/-- A step of a drawing, which may fail. -/
abbrev Draw (α : Type) := StateT (Drawing α) (Except Fault)

/-- An argument without a node, of the literal or function with the given name. -/
structure Skipped where
  argument : String
  owner : String
deriving DecidableEq, Repr

/-- The elements of one action or problem with their extent. -/
structure Block (α : Type) where
  elements : List (Element α)
  width : α
  height : α
  skipped : List Skipped := []

/-- The number of rows that hold a number of cells. Rows are counted only where cells have been
drawn, which needs columns. -/
def rowCount (cells columns : Nat) : Nat :=
  (cells + columns - 1) / columns

namespace Draw

variable {α : Type}

/-- A step that changes the canvas. -/
def onCanvas {β : Type} (step : Canvas α → Except Fault (β × Canvas α)) : Draw α β :=
  fun d => do
    let (result, canvas) ← step d.canvas
    return (result, { d with canvas })

/-- The next number under a key of the group that is drawn. -/
def ticket (key : String) : Draw α Nat :=
  fun d =>
    let (n, session) := d.session.next (d.canvas.group ++ ":" ++ key)
    .ok (n, { d with session })

/-- The identifier of the group that is drawn. -/
def group : Draw α String :=
  fun d => .ok (d.canvas.group, d)

variable [Add α] [Mul α] [LT α] [DecidableLT α] [Scalar α]

/-- The upper left corner of a cell of a grid with columns, counted row by row. -/
def cell (cfg : Config α) (left top : α) (columns index : Nat) : Point α :=
  ⟨left + Scalar.ofNat (index % columns) * cfg.spacingX,
    top + Scalar.ofNat (index / columns) * cfg.spacingY⟩

omit [LT α] [DecidableLT α] in
/-- Draws at the corner of a cell. A cell is found by division by the number of columns, so there is
none without columns. -/
def inCell {β : Type} (cfg : Config α) (left top : α) (columns index : Nat)
    (draw : Point α → Draw α β) : Draw α β :=
  if columns = 0 then fun _ => .error .divisionByZero
  else draw (cell cfg left top columns index)

omit [Mul α] [Scalar α] in
/-- Draws a rectangle. -/
def rectangle (cfg : Config α) (text : String) (corner : Point α) (id : String)
    (width height : α) : Draw α (Box α) :=
  onCanvas fun c => c.rectangle cfg text corner id width height

omit [Mul α] [Scalar α] in
/-- Draws an ellipse. -/
def ellipse (cfg : Config α) (text : String) (corner : Point α) (id role : String) :
    Draw α (Box α) :=
  onCanvas fun c => c.ellipse cfg text corner id role

omit [Mul α] [Scalar α] in
/-- Draws a description. -/
def description (cfg : Config α) (text : String) (corner : Point α) (id : String)
    (width height : α) (role : String) : Draw α (Box α) :=
  onCanvas fun c => c.description cfg text corner id width height role

omit [Add α] [Mul α] [LT α] [DecidableLT α] [Scalar α] in
/-- Draws an arrow, unless it repeats one. -/
def edge (cfg : Config α) (source target : Box α) (id : String) : Draw α Unit :=
  onCanvas fun c => do
    let (_, c) ← c.edge cfg source target id none
    return ((), c)

omit [Add α] [Mul α] [Scalar α] in
/-- Lowers the lowest point of the canvas to a height, if that is lower. -/
def extend (height : α) : Draw α Unit :=
  onCanvas fun c => .ok ((), c.extend height)

omit [Add α] [Mul α] [LT α] [DecidableLT α] [Scalar α] in
/-- Draws the arrows between a node and the anchors of its arguments: from the anchor of the first
argument into the node, and from the node to the anchors of the others. Arguments without an anchor
are skipped. `place` is the place of the first name, and `number` counts the arrows asked for. Gives
the next number and the skipped names. -/
def connectNames (cfg : Config α) (anchors : List (String × Box α)) (edgeId : String)
    (node : Box α) (place number : Nat) : List String → Draw α (Nat × List String)
  | [] => return (number, [])
  | name :: rest => do
    match anchors.lookup name with
    | none =>
      let (number, skipped) ← connectNames cfg anchors edgeId node (place + 1) number rest
      return (number, name :: skipped)
    | some anchor =>
      if place == 0 then
        edge cfg anchor node (edgeId ++ "-" ++ node.id ++ "-in-" ++ toString number)
      else
        edge cfg node anchor (edgeId ++ "-" ++ node.id ++ "-out-" ++ toString number)
      connectNames cfg anchors edgeId node (place + 1) (number + 1) rest

omit [Add α] [Mul α] [LT α] [DecidableLT α] [Scalar α] in
/-- Draws the arrows between nodes and the anchors of their arguments. Each node comes with the name
and the arguments of the literal or function that is drawn on it. -/
def connectAll (cfg : Config α) (anchors : List (String × Box α)) (edgeId : String)
    (number : Nat) : List (Box α × String × List Formula) → Draw α (Nat × List Skipped)
  | [] => return (number, [])
  | (node, owner, arguments) :: rest => do
    let names := arguments.filterMap Formula.parameterName?
    let (number, skipped) ← connectNames cfg anchors edgeId node 0 number names
    let (number, others) ← connectAll cfg anchors edgeId number rest
    return (number, skipped.map (⟨·, owner⟩) ++ others)

end Draw

end PlanDiagram.Diagram
