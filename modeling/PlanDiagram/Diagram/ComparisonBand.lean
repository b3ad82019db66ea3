import PlanDiagram.Diagram.Draw
import PlanDiagram.Formula.Occurrence

/-!
# Bands of comparisons

The comparisons among the facts or goals of a problem are drawn in two grids, one above the other:
first the operands that need nodes, then the operators. An operand that is a literal has no node;
its text stands on the node of the operator. Comparisons with a literal share the node of an
operator when they show the same, and the uses of a function share a node.
-/

namespace PlanDiagram.Diagram

/-- The key of what an operator shows: polarity, sign, and the literals to the left and right, with
bars between them. An operator without literals has no key and is never shared. -/
def comparisonKey? (use : ComparisonUse) (left right : Option String) : Option String :=
  let left := Text.squeeze (left.getD "")
  let right := Text.squeeze (right.getD "")
  let polarity := if use.negated then "True" else "False"
  if left == "" && right == "" then none
  else some (polarity ++ "|" ++ use.sign ++ "|" ++ left ++ "|" ++ right)

/-- The text on the node of an operator: its sign between its literals. -/
def comparisonLabel (use : ComparisonUse) (left right : Option String) : String :=
  let parts := [left.getD "", use.sign, right.getD ""].filter fun part => Text.trim part != ""
  let text := if parts.isEmpty then use.sign else " ".intercalate parts
  Formula.literalLabel text use.negated

/-- A use of a function on a node. -/
structure FunctionUse (α : Type) where
  box : Box α
  name : String
  arguments : List Formula

/-- The operands of the comparisons so far: the number of nodes drawn in the grid of operands, the
nodes of functions by name, and the uses of functions in order. -/
structure OperandGrid (α : Type) where
  placed : Nat := 0
  functions : List (String × Box α) := []
  uses : List (FunctionUse α) := []

/-- A comparison whose operands have been drawn. -/
structure PlacedComparison (α : Type) where
  index : Nat
  label : String
  key : Option String
  left : Option (Box α)
  right : Option (Box α)

/-- The frame of a band of comparisons: its upper left corner and its columns. -/
structure ComparisonFrame (α : Type) where
  cfg : Config α
  role : Role
  left : α
  columns : Nat

/-- The operators drawn so far: their number, and those that can be shared. -/
structure OperatorGrid (α : Type) where
  placed : Nat := 0
  known : List (String × Box α) := []

namespace ComparisonFrame

variable {α : Type} [Add α] [Mul α] [LT α] [DecidableLT α] [Scalar α]

/-- Draws an operand in the next cell of the grid at `top`. -/
def operandNode (frame : ComparisonFrame α) (top : α) (grid : OperandGrid α) (text id : String) :
    Draw α (Box α × OperandGrid α) := do
  let box ← Draw.inCell frame.cfg frame.left top frame.columns grid.placed fun corner =>
    Draw.ellipse frame.cfg text corner id "function"
  return (box, { grid with placed := grid.placed + 1 })

/-- The node of a function, which is drawn at its first use. -/
def functionNode (frame : ComparisonFrame α) (top : α) (grid : OperandGrid α) (suffix name : String)
    (arguments : List Formula) : Draw α (Box α × OperandGrid α) := do
  let (box, grid) ←
    match grid.functions.lookup name with
    | some box => pure (box, grid)
    | none => do
      let number ← Draw.ticket "fn"
      let id := (← Draw.group) ++ "-function-" ++ frame.role.name ++ "-" ++ suffix ++ "-" ++
        toString number ++ "-" ++ name
      let (box, grid) ← frame.operandNode top grid name id
      pure (box, { grid with functions := grid.functions ++ [(name, box)] })
  return (box, { grid with uses := grid.uses ++ [⟨box, name, arguments⟩] })

/-- Draws an operand. Gives its node, or the text of a literal. -/
def operand (frame : ComparisonFrame α) (top : α) (grid : OperandGrid α) (suffix : String) :
    Option Formula → Draw α (Option (Box α) × Option String × OperandGrid α)
  | none => return (none, none, grid)
  | some (.function name arguments) => do
    let (box, grid) ← frame.functionNode top grid suffix name arguments
    return (some box, none, grid)
  | some f => do
    match f.literalText? with
    | some text => return (none, some text, grid)
    | none =>
      let number ← Draw.ticket "lit"
      let id := (← Draw.group) ++ "-literal-" ++ frame.role.name ++ "-" ++ suffix ++ "-" ++
        toString number
      let (box, grid) ← frame.operandNode top grid f.label id
      return (some box, none, grid)

/-- Draws the operands of comparisons; `index` is the place of the first. -/
def drawOperands (frame : ComparisonFrame α) (top : α) (index : Nat) (grid : OperandGrid α) :
    List ComparisonUse → Draw α (List (PlacedComparison α) × OperandGrid α)
  | [] => return ([], grid)
  | use :: rest => do
    let (left, leftText, grid) ←
      frame.operand top grid ("comp-left-" ++ toString index) use.arguments[0]?
    let (right, rightText, grid) ←
      frame.operand top grid ("comp-right-" ++ toString index) use.arguments[1]?
    let placed : PlacedComparison α := {
      index
      label := comparisonLabel use leftText rightText
      key := comparisonKey? use leftText rightText
      left
      right }
    let (others, grid) ← frame.drawOperands top (index + 1) grid rest
    return (placed :: others, grid)

/-- The node of the operator of a comparison, which is drawn unless it is shared with an earlier
one. -/
def operatorNode (frame : ComparisonFrame α) (top : α) (grid : OperatorGrid α)
    (c : PlacedComparison α) : Draw α (Box α × OperatorGrid α) := do
  match c.key.bind fun key => grid.known.lookup key with
  | some box => return (box, grid)
  | none =>
    let number ← Draw.ticket "op"
    let id := (← Draw.group) ++ "-operator-" ++ frame.role.name ++ "-" ++ toString c.index ++ "-" ++
      toString number
    let box ← Draw.inCell frame.cfg frame.left top frame.columns grid.placed fun corner =>
      Draw.ellipse frame.cfg c.label corner id "operator"
    let known :=
      match c.key with
      | some key => grid.known ++ [(key, box)]
      | none => grid.known
    return (box, { placed := grid.placed + 1, known })

omit [Add α] [Mul α] [LT α] [DecidableLT α] [Scalar α] in
/-- Draws an arrow of a comparison. -/
def comparisonEdge (frame : ComparisonFrame α) (direction : String) (source target : Box α) :
    Draw α Unit := do
  let number ← Draw.ticket "edge"
  let id := (← Draw.group) ++ "-comp-edge-" ++ frame.role.name ++ "-" ++ direction ++ "-" ++
    toString number
  Draw.edge frame.cfg source target id

/-- Draws the operators of comparisons, each with an arrow from its left operand and to its right
one. -/
def drawOperators (frame : ComparisonFrame α) (top : α) (grid : OperatorGrid α) :
    List (PlacedComparison α) → Draw α (OperatorGrid α)
  | [] => return grid
  | c :: rest => do
    let (box, grid) ← frame.operatorNode top grid c
    if let some left := c.left then frame.comparisonEdge "in" left box
    if let some right := c.right then frame.comparisonEdge "out" box right
    frame.drawOperators top grid rest

end ComparisonFrame

end PlanDiagram.Diagram
