import PlanDiagram.Diagram.ComparisonBand
import PlanDiagram.Proofs.Diagram.Translation.Draw

/-!
# Bands of comparisons at another place

The two grids of a band of comparisons are drawn in the same way at another place, with all their
nodes moved: nodes of functions and operators that can be shared are found under the same names and
keys.
-/

namespace PlanDiagram.Diagram

/-- A use of a function on a moved node. -/
def FunctionUse.move (use : FunctionUse Rat) (v : Point Rat) : FunctionUse Rat :=
  { use with box := use.box.move v }

/-- The operands of the comparisons so far, moved. -/
def OperandGrid.move (grid : OperandGrid Rat) (v : Point Rat) : OperandGrid Rat :=
  { grid with
    functions := moveNodes grid.functions v
    uses := grid.uses.map (·.move v) }

/-- A comparison with its operands moved. -/
def PlacedComparison.move (c : PlacedComparison Rat) (v : Point Rat) : PlacedComparison Rat :=
  { c with left := c.left.map (·.move v), right := c.right.map (·.move v) }

/-- The operators drawn so far, moved. -/
def OperatorGrid.move (grid : OperatorGrid Rat) (v : Point Rat) : OperatorGrid Rat :=
  { grid with known := moveNodes grid.known v }

/-- The frame of a band of comparisons, moved. Its grids are told their heights separately. -/
def ComparisonFrame.move (frame : ComparisonFrame Rat) (v : Point Rat) : ComparisonFrame Rat :=
  { frame with left := frame.left + v.x }

namespace ComparisonFrame

open Draw

variable (σ : Shift) (frame : ComparisonFrame Rat) (top : Rat)

/-- Drawing an operand in the next cell. -/
theorem operandNode_carries (grid : OperandGrid Rat) (text id : String) :
    Carries σ (fun r => (r.1.move σ.offset, r.2.move σ.offset))
      (frame.operandNode top grid text id)
      ((frame.move σ.offset).operandNode (top + σ.offset.y) (grid.move σ.offset) text id) :=
  (inCell_carries σ frame.cfg fun corner =>
    ellipse_carries σ frame.cfg text corner id "function").bind fun _ => .pure rfl

/-- Drawing the node of a function, or finding it. -/
theorem functionNode_carries (grid : OperandGrid Rat) (suffix name : String)
    (arguments : List Formula) :
    Carries σ (fun r => (r.1.move σ.offset, r.2.move σ.offset))
      (frame.functionNode top grid suffix name arguments)
      ((frame.move σ.offset).functionNode (top + σ.offset.y) (grid.move σ.offset) suffix name
        arguments) := by
  have hlookup : (grid.move σ.offset).functions.lookup name =
      (grid.functions.lookup name).map (·.move σ.offset) :=
    lookup_moveNodes _ _ _
  have huses (grid : OperandGrid Rat) (box : Box Rat) :
      ({ grid.move σ.offset with
        uses := (grid.move σ.offset).uses ++ [⟨box.move σ.offset, name, arguments⟩] } :
        OperandGrid Rat) =
      ({ grid with uses := grid.uses ++ [⟨box, name, arguments⟩] } :
        OperandGrid Rat).move σ.offset := by
    simp [OperandGrid.move, FunctionUse.move]
  simp only [functionNode, hlookup]
  cases grid.functions.lookup name with
  | some box => exact .pure (congrArg (Prod.mk _) (huses grid box))
  | none =>
    simp only [Option.map_none, pure_bind]
    refine (ticket_carries σ "fn").bind fun number => ?_
    refine (group_carries σ).bind fun group => ?_
    refine (frame.operandNode_carries σ top grid name _).bind fun r => .pure ?_
    simp [OperandGrid.move, FunctionUse.move, moveNodes]

/-- An operand that has been drawn: its node moved, or the text of a literal. -/
def moveOperand (r : Option (Box Rat) × Option String × OperandGrid Rat) (v : Point Rat) :
    Option (Box Rat) × Option String × OperandGrid Rat :=
  (r.1.map (·.move v), r.2.1, r.2.2.move v)

/-- Drawing an operand. -/
theorem operand_carries (grid : OperandGrid Rat) (suffix : String) (f? : Option Formula) :
    Carries σ (moveOperand · σ.offset) (frame.operand top grid suffix f?)
      ((frame.move σ.offset).operand (top + σ.offset.y) (grid.move σ.offset) suffix f?) := by
  have hother (f : Formula) (hf : ∀ name arguments, f ≠ .function name arguments) :
      Carries σ (moveOperand · σ.offset) (frame.operand top grid suffix (some f))
        ((frame.move σ.offset).operand (top + σ.offset.y) (grid.move σ.offset) suffix
          (some f)) := by
    rw [operand.eq_3 _ _ _ _ f hf, operand.eq_3 _ _ _ _ f hf]
    cases f.literalText? with
    | some text => exact .pure rfl
    | none =>
      refine (ticket_carries σ "lit").bind fun number => ?_
      refine (group_carries σ).bind fun group => ?_
      exact (frame.operandNode_carries σ top grid f.label _).bind fun r => .pure rfl
  cases f? with
  | none => exact .pure rfl
  | some f =>
    cases f with
    | function name arguments =>
      exact (frame.functionNode_carries σ top grid suffix name arguments).bind fun r => .pure rfl
    | _ => exact hother _ (by simp)

/-- Drawing the operands of comparisons. -/
theorem drawOperands_carries (index : Nat) (grid : OperandGrid Rat)
    (comparisons : List ComparisonUse) :
    Carries σ (fun r => (r.1.map (·.move σ.offset), r.2.move σ.offset))
      (frame.drawOperands top index grid comparisons)
      ((frame.move σ.offset).drawOperands (top + σ.offset.y) index (grid.move σ.offset)
        comparisons) := by
  induction comparisons generalizing index grid with
  | nil => exact .pure rfl
  | cons use rest ih =>
    refine (frame.operand_carries σ top grid _ _).bind fun ⟨left, leftText, grid⟩ => ?_
    refine (frame.operand_carries σ top grid _ _).bind fun ⟨right, rightText, grid⟩ => ?_
    exact (ih (index + 1) grid).bind fun r => .pure rfl

/-- Drawing the node of an operator, or finding it. -/
theorem operatorNode_carries (grid : OperatorGrid Rat) (c : PlacedComparison Rat) :
    Carries σ (fun r => (r.1.move σ.offset, r.2.move σ.offset)) (frame.operatorNode top grid c)
      ((frame.move σ.offset).operatorNode (top + σ.offset.y) (grid.move σ.offset)
        (c.move σ.offset)) := by
  have hknown : ((c.move σ.offset).key.bind fun key => (grid.move σ.offset).known.lookup key) =
      (c.key.bind fun key => grid.known.lookup key).map (·.move σ.offset) := by
    cases hkey : c.key with
    | none => simp [PlacedComparison.move, hkey]
    | some key =>
      simp only [PlacedComparison.move, hkey, Option.bind_some]
      exact lookup_moveNodes _ _ _
  simp only [operatorNode, hknown]
  cases c.key.bind fun key => grid.known.lookup key with
  | some box => exact .pure rfl
  | none =>
    refine (ticket_carries σ "op").bind fun number => ?_
    refine (group_carries σ).bind fun group => ?_
    refine (inCell_carries σ frame.cfg fun corner =>
      ellipse_carries σ frame.cfg c.label corner _ "operator").bind fun box => .pure ?_
    cases hkey : c.key <;> simp [OperatorGrid.move, PlacedComparison.move, moveNodes, hkey]

/-- Drawing an arrow of a comparison. -/
theorem comparisonEdge_carries (direction : String) (source target : Box Rat) :
    Carries σ (fun u => u) (frame.comparisonEdge direction source target)
      ((frame.move σ.offset).comparisonEdge direction (source.move σ.offset)
        (target.move σ.offset)) :=
  (ticket_carries σ "edge").bind fun _ => (group_carries σ).bind fun _ =>
    edge_carries σ frame.cfg source target _

/-- Drawing an arrow at an operand, if the operand has a node, and then the rest. -/
theorem optionalEdge_carries {α β γ : Type} {f : β → γ} {rest : Draw Rat β} {rest' : Draw Rat γ}
    {box? box?' : Option (Box α)} {g : Box α → Box α} (hbox : box?' = box?.map g)
    {edge edge' : Box α → Draw Rat Unit}
    (hedge : ∀ b c, c = g b → Carries σ (fun u => u) (edge b) (edge' c))
    (hrest : Carries σ f rest rest') :
    Carries σ f
      (do
        if let some box := box? then edge box
        rest)
      (do
        if let some box := box?' then edge' box
        rest') := by
  subst hbox
  cases box? with
  | none => exact hrest
  | some box => exact (hedge box _ rfl).bind fun _ => hrest

/-- Drawing the operators of comparisons, with their arrows. -/
theorem drawOperators_carries (grid : OperatorGrid Rat) (cs : List (PlacedComparison Rat)) :
    Carries σ (·.move σ.offset) (frame.drawOperators top grid cs)
      ((frame.move σ.offset).drawOperators (top + σ.offset.y) (grid.move σ.offset)
        (cs.map (·.move σ.offset))) := by
  induction cs generalizing grid with
  | nil => exact .pure rfl
  | cons c rest ih =>
    have hleft : (c.move σ.offset).left = c.left.map (·.move σ.offset) := rfl
    have hright : (c.move σ.offset).right = c.right.map (·.move σ.offset) := rfl
    refine (frame.operatorNode_carries σ top grid c).bind fun r => ?_
    refine optionalEdge_carries σ hleft ?_ (optionalEdge_carries σ hright ?_ (ih r.2))
    · rintro left _ rfl
      exact frame.comparisonEdge_carries σ "in" left r.1
    · rintro right _ rfl
      exact frame.comparisonEdge_carries σ "out" r.1 right

end ComparisonFrame

end PlanDiagram.Diagram
