import PlanDiagram.Diagram.NumericBand
import PlanDiagram.Proofs.Diagram.Translation.Draw

/-!
# Numeric bands at another place

A numeric band whose frame is moved is drawn in the same way, with all its nodes moved. The walk
through the operands takes the same turns: anchors and functions are found under the same names and
keys.
-/

namespace PlanDiagram.Diagram

/-- The node of a function, moved. -/
def FunctionNode.move (f : FunctionNode Rat) (v : Point Rat) : FunctionNode Rat :=
  { f with box := f.box.move v }

/-- A numeric band with its nodes moved. -/
def NumericBand.move (band : NumericBand Rat) (v : Point Rat) : NumericBand Rat :=
  { band with functions := band.functions.map (·.move v) }

/-- The frame of a numeric band, moved with its anchors. -/
def NumericFrame.move (frame : NumericFrame Rat) (v : Point Rat) : NumericFrame Rat :=
  { frame with
    left := frame.left + v.x
    top := frame.top + v.y
    anchors := moveNodes frame.anchors v }

/-- A function is found by its key at the moved node. -/
theorem NumericBand.find_move (band : NumericBand Rat) (v : Point Rat) (key : String) :
    (band.move v).functions.find? (fun known => known.key == key) =
      (band.functions.find? fun known => known.key == key).map (·.move v) := by
  rw [move, List.find?_map]
  rfl

namespace NumericFrame

open Draw

variable (σ : Shift) (frame : NumericFrame Rat) (band : NumericBand Rat)

/-- A node with the band after it, both moved. -/
def movePlaced (r : Box Rat × NumericBand Rat) (v : Point Rat) : Box Rat × NumericBand Rat :=
  (r.1.move v, r.2.move v)

/-- Drawing a node in the next cell. -/
theorem node_carries (text id counter role : String) : Carries σ (movePlaced · σ.offset)
    (frame.node band text id counter role)
    ((frame.move σ.offset).node (band.move σ.offset) text id counter role) := by
  refine (ticket_carries σ counter).bind fun number => ?_
  refine (inCell_carries σ frame.cfg fun corner =>
    ellipse_carries σ frame.cfg text corner _ role).bind fun box => ?_
  exact .pure rfl

/-- Drawing the node of an operator. -/
theorem operatorNode_carries (text suffix role : String) : Carries σ (movePlaced · σ.offset)
    (frame.operatorNode band text suffix role)
    ((frame.move σ.offset).operatorNode (band.move σ.offset) text suffix role) :=
  (group_carries σ).bind fun _ => frame.node_carries σ band text _ _ role

/-- Drawing the node of a literal. -/
theorem literalNode_carries (text suffix : String) : Carries σ (movePlaced · σ.offset)
    (frame.literalNode band text suffix)
    ((frame.move σ.offset).literalNode (band.move σ.offset) text suffix) :=
  (group_carries σ).bind fun _ => frame.node_carries σ band text _ _ _

/-- Drawing the node of a function, or finding it. -/
theorem functionNode_carries (name : String) (arguments : List Formula) :
    Carries σ (movePlaced · σ.offset) (frame.functionNode band name arguments)
      ((frame.move σ.offset).functionNode (band.move σ.offset) name arguments) := by
  simp only [functionNode, NumericBand.find_move]
  cases band.functions.find? fun known => known.key == functionKey name arguments with
  | some known => exact .pure rfl
  | none =>
    refine (group_carries σ).bind fun group => ?_
    refine (frame.node_carries σ band _ _ "fn" "function").bind fun r => .pure ?_
    simp [movePlaced, NumericBand.move, FunctionNode.move]

/-- Drawing an arrow. -/
theorem numericEdge_carries (source target : Box Rat) :
    Carries σ (fun u => u) (frame.numericEdge source target)
      ((frame.move σ.offset).numericEdge (source.move σ.offset) (target.move σ.offset)) :=
  (ticket_carries σ "edge").bind fun _ => (group_carries σ).bind fun _ =>
    edge_carries σ frame.cfg source target _

/-- Drawing an arrow from a node to the operator above it, after which the band is given. -/
theorem attach_carries (box parent : Box Rat) : Carries σ (·.move σ.offset)
    (frame.numericEdge box parent >>= fun _ => return band)
    ((frame.move σ.offset).numericEdge (box.move σ.offset) (parent.move σ.offset) >>=
      fun _ => return band.move σ.offset) :=
  (frame.numericEdge_carries σ box parent).bind fun _ => .pure rfl

/-- Drawing an operator among operands, with whatever is drawn below it. -/
theorem inner_carries (parent : Box Rat) (suffix : String) (f : Formula) (role : String)
    {below below' : Box Rat × NumericBand Rat → Draw Rat (NumericBand Rat)}
    (hbelow : ∀ r, Carries σ (·.move σ.offset) (below r) (below' (movePlaced r σ.offset))) :
    Carries σ (·.move σ.offset) (frame.innerNode parent suffix band f role >>= below)
      ((frame.move σ.offset).innerNode (parent.move σ.offset) suffix (band.move σ.offset) f role >>=
        below') := by
  have hinner : Carries σ (movePlaced · σ.offset) (frame.innerNode parent suffix band f role)
      ((frame.move σ.offset).innerNode (parent.move σ.offset) suffix (band.move σ.offset) f role) :=
    (frame.operatorNode_carries σ band _ _ role).bind fun r =>
      (frame.numericEdge_carries σ r.1 parent).bind fun _ => .pure rfl
  exact hinner.bind hbelow

mutual

/-- Drawing an operand. -/
theorem drawOperand_carries (parent : Box Rat) (suffix : String) (band : NumericBand Rat)
    (f : Formula) : Carries σ (·.move σ.offset) (frame.drawOperand parent suffix band f)
      ((frame.move σ.offset).drawOperand (parent.move σ.offset) suffix (band.move σ.offset) f) := by
  match f with
  | .parameter name type =>
    have hanchor := lookup_moveNodes frame.anchors σ.offset name
    simp only [drawOperand]
    change (frame.move σ.offset).anchors.lookup name = _ at hanchor
    rw [hanchor]
    cases frame.anchors.lookup name with
    | some anchor => exact frame.attach_carries σ band anchor parent
    | none =>
      exact (frame.literalNode_carries σ band _ _).bind fun r =>
        frame.attach_carries σ r.2 r.1 parent
  | .number value =>
    exact (frame.literalNode_carries σ band _ _).bind fun r => frame.attach_carries σ r.2 r.1 parent
  | .function name arguments =>
    exact (frame.functionNode_carries σ band name arguments).bind fun r =>
      frame.attach_carries σ r.2 r.1 parent
  | .predicate name arguments =>
    exact frame.inner_carries σ band parent suffix _ _ fun r =>
      drawOperands_carries r.1 _ 0 r.2 arguments
  | .negation argument =>
    exact frame.inner_carries σ band parent suffix _ _ fun r =>
      drawOperand_carries r.1 _ r.2 argument
  | .numeric change arguments =>
    exact frame.inner_carries σ band parent suffix _ _ fun r =>
      drawOperands_carries r.1 _ 0 r.2 arguments
  | .comparison op arguments =>
    exact frame.inner_carries σ band parent suffix _ _ fun r =>
      drawOperands_carries r.1 _ 0 r.2 arguments
  | .arithmetic op arguments =>
    exact frame.inner_carries σ band parent suffix _ _ fun r =>
      drawOperands_carries r.1 _ 0 r.2 arguments
  | .composite op items bound =>
    exact frame.inner_carries σ band parent suffix _ _ fun r =>
      drawOperands_carries r.1 _ 0 r.2 items

/-- Drawing the operands of an operator. -/
theorem drawOperands_carries (parent : Box Rat) (suffix : String) (place : Nat)
    (band : NumericBand Rat) (fs : List Formula) :
    Carries σ (·.move σ.offset) (frame.drawOperands parent suffix place band fs)
      ((frame.move σ.offset).drawOperands (parent.move σ.offset) suffix place (band.move σ.offset)
        fs) := by
  match fs with
  | [] => exact .pure rfl
  | f :: rest =>
    exact (drawOperand_carries parent _ band f).bind fun next =>
      drawOperands_carries parent suffix (place + 1) next rest

end

/-- Drawing the operator of an effect or comparison with everything below it, and then the rest. -/
theorem tree_carries (text suffix role suffix' : String) (arguments : List Formula)
    {rest rest' : NumericBand Rat → Draw Rat (NumericBand Rat)}
    (hrest : ∀ band : NumericBand Rat,
      Carries σ (·.move σ.offset) (rest band) (rest' (band.move σ.offset))) :
    Carries σ (·.move σ.offset)
      (frame.operatorNode band text suffix role >>= fun r =>
        frame.drawOperands r.1 suffix' 0 r.2 arguments >>= rest)
      ((frame.move σ.offset).operatorNode (band.move σ.offset) text suffix role >>= fun r =>
        (frame.move σ.offset).drawOperands r.1 suffix' 0 r.2 arguments >>= rest') :=
  (frame.operatorNode_carries σ band text suffix role).bind fun r =>
    (frame.drawOperands_carries σ r.1 suffix' 0 r.2 arguments).bind hrest

/-- Drawing numeric effects. -/
theorem drawChanges_carries (index : Nat) (changes : List ChangeUse) :
    Carries σ (·.move σ.offset) (frame.drawChanges index band changes)
      ((frame.move σ.offset).drawChanges index (band.move σ.offset) changes) := by
  induction changes generalizing index band with
  | nil => exact .pure rfl
  | cons use rest ih => exact frame.tree_carries σ band _ _ _ _ _ fun next => ih next (index + 1)

/-- Drawing comparisons. -/
theorem drawComparisons_carries (index : Nat) (comparisons : List ComparisonUse) :
    Carries σ (·.move σ.offset) (frame.drawComparisons index band comparisons)
      ((frame.move σ.offset).drawComparisons index (band.move σ.offset) comparisons) := by
  induction comparisons generalizing index band with
  | nil => exact .pure rfl
  | cons use rest ih => exact frame.tree_carries σ band _ _ _ _ _ fun next => ih next (index + 1)

end NumericFrame

end PlanDiagram.Diagram
