import PlanDiagram.Diagram.Draw
import PlanDiagram.Formula.Occurrence

/-!
# Numeric bands

The numeric effects of an action and the comparisons among its conditions are drawn as trees of
operators in one band. A parameter of the action is represented by its own node elsewhere, a
function by one node for all its uses with the same arguments, and every other operand by a node of
its own. The nodes fill the cells of a grid in the order in which they are drawn.
-/

namespace PlanDiagram.Diagram

/-- The frame of a numeric band: its upper left corner and the nodes of the parameters. -/
structure NumericFrame (α : Type) where
  cfg : Config α
  left : α
  top : α
  anchors : List (String × Box α)

/-- A function that has a node in the band. -/
structure FunctionNode (α : Type) where
  key : String
  box : Box α
  name : String
  arguments : List Formula

/-- What a numeric band holds so far: the number of its nodes, and its functions in order. -/
structure NumericBand (α : Type) where
  placed : Nat := 0
  functions : List (FunctionNode α) := []

namespace NumericFrame

variable {α : Type} [Add α] [Mul α] [LT α] [DecidableLT α] [Scalar α]

/-- Draws a node in the next cell. The identifier ends in a number handed out under `counter`. -/
def node (frame : NumericFrame α) (band : NumericBand α) (text id counter role : String) :
    Draw α (Box α × NumericBand α) := do
  let number ← Draw.ticket counter
  let box ← Draw.inCell frame.cfg frame.left frame.top frame.cfg.actionColumns band.placed
    fun corner => Draw.ellipse frame.cfg text corner (id ++ "-" ++ toString number) role
  return (box, { band with placed := band.placed + 1 })

/-- Draws the node of an operator. -/
def operatorNode (frame : NumericFrame α) (band : NumericBand α) (text suffix role : String) :
    Draw α (Box α × NumericBand α) := do
  frame.node band text ((← Draw.group) ++ "-operator-" ++ suffix) "op" role

/-- Draws the node of a literal. -/
def literalNode (frame : NumericFrame α) (band : NumericBand α) (text suffix : String) :
    Draw α (Box α × NumericBand α) := do
  frame.node band text ((← Draw.group) ++ "-literal-" ++ suffix) "lit" "literal"

/-- The key by which a function term is found: its name and the labels of its arguments. -/
def functionKey (name : String) (arguments : List Formula) : String :=
  name ++ "-" ++ "|".intercalate (Formula.labels arguments)

/-- The node of a function term, which is drawn at its first use. -/
def functionNode (frame : NumericFrame α) (band : NumericBand α) (name : String)
    (arguments : List Formula) : Draw α (Box α × NumericBand α) := do
  let key := functionKey name arguments
  match band.functions.find? fun known => known.key == key with
  | some known => return (known.box, band)
  | none =>
    let text := Formula.functionLabel name (Formula.labels arguments)
    let (box, band) ← frame.node band text ((← Draw.group) ++ "-function-" ++ key) "fn" "function"
    return (box, { band with functions := band.functions ++ [⟨key, box, name, arguments⟩] })

omit [Add α] [Mul α] [LT α] [DecidableLT α] [Scalar α] in
/-- Draws an arrow between two nodes of the band. -/
def numericEdge (frame : NumericFrame α) (source target : Box α) : Draw α Unit := do
  let number ← Draw.ticket "edge"
  Draw.edge frame.cfg source target ((← Draw.group) ++ "-numeric-edge-" ++ toString number)

/-- The node of an operator inside a tree, with an arrow to the operator above it. -/
def innerNode (frame : NumericFrame α) (parent : Box α) (suffix : String) (band : NumericBand α)
    (f : Formula) (role : String) : Draw α (Box α × NumericBand α) := do
  let (box, band) ← frame.operatorNode band f.sign (f.kindName ++ "-" ++ suffix) role
  frame.numericEdge box parent
  return (box, band)

mutual

/-- Draws an operand of the operator `parent` with everything below it. -/
def drawOperand (frame : NumericFrame α) (parent : Box α) (suffix : String)
    (band : NumericBand α) : Formula → Draw α (NumericBand α)
  | .parameter name type => do
    match frame.anchors.lookup name with
    | some anchor =>
      frame.numericEdge anchor parent
      return band
    | none =>
      let (box, band) ← frame.literalNode band (Formula.parameterLabel name type)
        ("param-" ++ name ++ "-" ++ suffix)
      frame.numericEdge box parent
      return band
  | .number value => do
    let (box, band) ← frame.literalNode band (Number.label value) ("number-" ++ suffix)
    frame.numericEdge box parent
    return band
  | .function name arguments => do
    let (box, band) ← frame.functionNode band name arguments
    frame.numericEdge box parent
    return band
  | .predicate name arguments => do
    let (box, band) ← frame.innerNode parent suffix band (.predicate name arguments) "operator"
    drawOperands frame box (suffix ++ "-arg-") 0 band arguments
  | .negation argument => do
    let (box, band) ← frame.innerNode parent suffix band (.negation argument) "operator"
    drawOperand frame box (suffix ++ "-arg-0") band argument
  | .numeric change arguments => do
    let (box, band) ← frame.innerNode parent suffix band (.numeric change arguments) "effect"
    drawOperands frame box (suffix ++ "-arg-") 0 band arguments
  | .comparison op arguments => do
    let (box, band) ← frame.innerNode parent suffix band (.comparison op arguments) "operator"
    drawOperands frame box (suffix ++ "-arg-") 0 band arguments
  | .arithmetic op arguments => do
    let (box, band) ← frame.innerNode parent suffix band (.arithmetic op arguments) "operator"
    drawOperands frame box (suffix ++ "-arg-") 0 band arguments
  | .composite op items bound => do
    let (box, band) ← frame.innerNode parent suffix band (.composite op items bound) "operator"
    drawOperands frame box (suffix ++ "-arg-") 0 band items

/-- Draws the operands of an operator; the suffix of each ends in its place. -/
def drawOperands (frame : NumericFrame α) (parent : Box α) (suffix : String) (place : Nat)
    (band : NumericBand α) : List Formula → Draw α (NumericBand α)
  | [] => return band
  | f :: rest => do
    let band ← drawOperand frame parent (suffix ++ toString place) band f
    drawOperands frame parent suffix (place + 1) band rest

end

/-- The text on the node of a numeric effect: the keyword, and the name of the function that it
changes. -/
def changeText (use : ChangeUse) : String :=
  match use.arguments with
  | .function name _ :: _ => use.change.name ++ " " ++ name
  | _ => use.change.name

/-- Draws numeric effects; `index` is the place of the first. -/
def drawChanges (frame : NumericFrame α) (index : Nat) (band : NumericBand α) :
    List ChangeUse → Draw α (NumericBand α)
  | [] => return band
  | use :: rest => do
    let (box, band) ← frame.operatorNode band (changeText use)
      ("numeric-" ++ use.change.name ++ "-" ++ toString index) "effect"
    let band ← frame.drawOperands box ("numeric-" ++ toString index ++ "-arg-") 0 band use.arguments
    frame.drawChanges (index + 1) band rest

/-- Draws comparisons; `index` is the place of the first. -/
def drawComparisons (frame : NumericFrame α) (index : Nat) (band : NumericBand α) :
    List ComparisonUse → Draw α (NumericBand α)
  | [] => return band
  | use :: rest => do
    let (box, band) ← frame.operatorNode band (Formula.literalLabel use.sign use.negated)
      ("comparator-" ++ toString index) "operator"
    let band ← frame.drawOperands box ("comparator-" ++ toString index ++ "-arg-") 0 band
      use.arguments
    frame.drawComparisons (index + 1) band rest

end NumericFrame

end PlanDiagram.Diagram
