import PlanDiagram.Diagram.ComparisonBand
import PlanDiagram.Proofs.Diagram.Parallel.Draw

/-!
# Bands of comparisons in parallel

The comparisons of a problem are drawn in parallel with nothing given but the comparisons: what is
known of functions and operators are names and keys, which are the same on both sides, with nodes
that match.
-/

namespace PlanDiagram.Diagram

variable {α β γ : Type} {p q : Pairing}

/-- Uses of a function on nodes that match. -/
def FunctionUse.Matches (p : Pairing) (u v : FunctionUse α) : Prop :=
  u.box.Matches p v.box ∧ v = { u with box := v.box }

theorem FunctionUse.Matches.mono (hle : p.Before q) {u v : FunctionUse α} (h : u.Matches p v) :
    u.Matches q v :=
  ⟨h.1.mono hle, h.2⟩

/-- Grids with the same number of operands, and with functions whose nodes match. -/
structure OperandGrid.Matches (p : Pairing) (grid grid' : OperandGrid α) : Prop where
  placed_eq : grid'.placed = grid.placed
  functions : KeyedMatch p grid.functions grid'.functions
  uses : List.Forall₂ (FunctionUse.Matches p) grid.uses grid'.uses

theorem OperandGrid.Matches.mono (hle : p.Before q) {grid grid' : OperandGrid α}
    (h : grid.Matches p grid') : grid.Matches q grid' :=
  ⟨h.placed_eq, h.functions.mono hle, h.uses.imp fun _ _ hu => hu.mono hle⟩

/-- The same comparison with operands whose nodes match. -/
structure PlacedComparison.Matches (p : Pairing) (c c' : PlacedComparison α) : Prop where
  eq : c' = { c with left := c'.left, right := c'.right }
  left : Option.Rel (Box.Matches p) c.left c'.left
  right : Option.Rel (Box.Matches p) c.right c'.right

theorem PlacedComparison.Matches.mono (hle : p.Before q) {c c' : PlacedComparison α}
    (h : c.Matches p c') : c.Matches q c' :=
  ⟨h.eq, relation_mono (fun hb => hb.mono hle) h.left,
    relation_mono (fun hb => hb.mono hle) h.right⟩

/-- Grids with the same number of operators, and with shared operators whose nodes match. -/
structure OperatorGrid.Matches (p : Pairing) (grid grid' : OperatorGrid α) : Prop where
  placed_eq : grid'.placed = grid.placed
  known : KeyedMatch p grid.known grid'.known

theorem OperatorGrid.Matches.mono (hle : p.Before q) {grid grid' : OperatorGrid α}
    (h : grid.Matches p grid') : grid.Matches q grid' :=
  ⟨h.placed_eq, h.known.mono hle⟩

namespace ComparisonFrame

open Draw

variable [Add α] [Mul α] [LT α] [DecidableLT α] [Scalar α] (frame : ComparisonFrame α)
  {grid grid' : OperandGrid α}

/-- A node that has been drawn, with the grid of operands after it. -/
def Placed (p : Pairing) (b c : Box α × OperandGrid α) : Prop :=
  b.1.Matches p c.1 ∧ b.2.Matches p c.2

/-- Drawing an operand in the next cell. -/
theorem operandNode_parallel (top : α) (hgrid : grid.Matches p grid') (text id id' : String) :
    Parallel p Placed (frame.operandNode top grid text id)
      (frame.operandNode top grid' text id') := by
  simp only [operandNode, hgrid.placed_eq]
  refine (inCell_parallel frame.cfg fun corner =>
    ellipse_parallel p frame.cfg text corner id id' "function").bind fun q box box' hle hbox => ?_
  refine .pure fun q hle' => ⟨hbox.mono hle', rfl, ?_, ?_⟩
  · exact hgrid.functions.mono (hle.trans hle')
  · exact (hgrid.mono (hle.trans hle')).uses

/-- Drawing the node of a function, or finding it. -/
theorem functionNode_parallel (top : α) (hgrid : grid.Matches p grid') (suffix name : String)
    (arguments : List Formula) :
    Parallel p Placed (frame.functionNode top grid suffix name arguments)
      (frame.functionNode top grid' suffix name arguments) := by
  -- whether the node is drawn or found, the use is noted after it
  have hnote {q : Pairing} {box box' : Box α} {grid grid' : OperandGrid α}
      (hbox : box.Matches q box') (hgrid : grid.Matches q grid') :
      Placed q (box, { grid with uses := grid.uses ++ [⟨box, name, arguments⟩] })
        (box', { grid' with uses := grid'.uses ++ [⟨box', name, arguments⟩] }) :=
    ⟨hbox, hgrid.placed_eq, hgrid.functions, List.rel_append hgrid.uses (.cons ⟨hbox, rfl⟩ .nil)⟩
  have hlookup := hgrid.functions.lookup name
  simp only [functionNode]
  generalize grid.functions.lookup name = box?, grid'.functions.lookup name = box?' at hlookup
  cases hlookup with
  | some hbox => exact .pure fun _ hle => hnote (hbox.mono hle) (hgrid.mono hle)
  | none =>
    refine (ticket_parallel p "fn" "fn").bind fun q number number' hle _ => ?_
    refine (group_parallel q).bind fun q g g' hle' _ => ?_
    refine (frame.operandNode_parallel top (hgrid.mono (hle.trans hle')) name _ _).bind
      fun q b c hle'' hbc => ?_
    have hfunctions : KeyedMatch q (b.2.functions ++ [(name, b.1)])
        (c.2.functions ++ [(name, c.1)]) :=
      hbc.2.functions.append (.cons ⟨rfl, hbc.1⟩ .nil)
    have hgrid : OperandGrid.Matches q { b.2 with functions := b.2.functions ++ [(name, b.1)] }
        { c.2 with functions := c.2.functions ++ [(name, c.1)] } :=
      ⟨hbc.2.placed_eq, hfunctions, hbc.2.uses⟩
    exact .pure fun _ hlast => hnote (hbc.1.mono hlast) (hgrid.mono hlast)

/-- An operand with the grid after it: a node or the text of a literal. -/
def OperandMatch (p : Pairing) (b c : Option (Box α) × Option String × OperandGrid α) : Prop :=
  Option.Rel (Box.Matches p) b.1 c.1 ∧ b.2.1 = c.2.1 ∧ b.2.2.Matches p c.2.2

/-- Drawing an operand. -/
theorem operand_parallel (top : α) (hgrid : grid.Matches p grid') (suffix : String)
    (f? : Option Formula) :
    Parallel p OperandMatch (frame.operand top grid suffix f?)
      (frame.operand top grid' suffix f?) := by
  have hother (f : Formula) (hf : ∀ name arguments, f ≠ .function name arguments) :
      Parallel p OperandMatch (frame.operand top grid suffix (some f))
        (frame.operand top grid' suffix (some f)) := by
    rw [operand.eq_3 frame top grid suffix f hf, operand.eq_3 frame top grid' suffix f hf]
    cases f.literalText? with
    | some text => exact .pure fun _ hle => ⟨.none, rfl, hgrid.mono hle⟩
    | none =>
      refine (ticket_parallel p "lit" "lit").bind fun q number number' hle _ => ?_
      refine (group_parallel q).bind fun q g g' hle' _ => ?_
      refine (frame.operandNode_parallel top (hgrid.mono (hle.trans hle')) f.label _ _).bind
        fun q b c hle'' hbc => ?_
      exact .pure fun _ hlast => ⟨.some (hbc.1.mono hlast), rfl, hbc.2.mono hlast⟩
  cases f? with
  | none => exact .pure fun _ hle => ⟨.none, rfl, hgrid.mono hle⟩
  | some f =>
    cases f with
    | function name arguments =>
      refine (frame.functionNode_parallel top hgrid suffix name arguments).bind
        fun q b c hle hbc => ?_
      exact .pure fun _ hle' => ⟨.some (hbc.1.mono hle'), rfl, hbc.2.mono hle'⟩
    | _ => exact hother _ (by simp)

/-- Drawing the operands of comparisons. -/
theorem drawOperands_parallel (top : α) (hgrid : grid.Matches p grid') (index : Nat)
    (uses : List ComparisonUse) :
    Parallel p
      (fun q b c => List.Forall₂ (PlacedComparison.Matches q) b.1 c.1 ∧ b.2.Matches q c.2)
      (frame.drawOperands top index grid uses) (frame.drawOperands top index grid' uses) := by
  induction uses generalizing p grid grid' index with
  | nil => exact .pure fun _ hle => ⟨.nil, hgrid.mono hle⟩
  | cons use rest ih =>
    refine (frame.operand_parallel top hgrid _ _).bind
      fun q ⟨left, leftText, grid₁⟩ ⟨left', leftText', grid₁'⟩ hle hleft => ?_
    obtain ⟨hleft, rfl, hgrid₁⟩ := hleft
    refine (frame.operand_parallel top hgrid₁ _ _).bind
      fun q ⟨right, rightText, grid₂⟩ ⟨right', rightText', grid₂'⟩ hle' hright => ?_
    obtain ⟨hright, rfl, hgrid₂⟩ := hright
    refine (ih hgrid₂ (index + 1)).bind fun q b c hle'' hrest => ?_
    refine .pure fun q hlast => ⟨.cons ⟨rfl, ?_, ?_⟩ ?_, hrest.2.mono hlast⟩
    · exact relation_mono (fun hb => hb.mono ((hle'.trans hle'').trans hlast)) hleft
    · exact relation_mono (fun hb => hb.mono (hle''.trans hlast)) hright
    · exact hrest.1.imp fun _ _ hc => hc.mono hlast

/-- Drawing the node of an operator, or finding it. -/
theorem operatorNode_parallel (top : α) {grid grid' : OperatorGrid α} (hgrid : grid.Matches p grid')
    {c c' : PlacedComparison α} (hc : c.Matches p c') :
    Parallel p (fun q b c => b.1.Matches q c.1 ∧ b.2.Matches q c.2)
      (frame.operatorNode top grid c) (frame.operatorNode top grid' c') := by
  have hindex : c'.index = c.index := by rw [hc.eq]
  have hlabel : c'.label = c.label := by rw [hc.eq]
  have hkey : c'.key = c.key := by rw [hc.eq]
  have hlookup : Option.Rel (Box.Matches p) (c.key.bind fun key => grid.known.lookup key)
      (c.key.bind fun key => grid'.known.lookup key) := by
    cases c.key with
    | none => exact .none
    | some key => exact hgrid.known.lookup key
  simp only [operatorNode, hindex, hlabel, hkey, hgrid.placed_eq]
  generalize (c.key.bind fun key => grid.known.lookup key) = box?,
    (c.key.bind fun key => grid'.known.lookup key) = box?' at hlookup
  cases hlookup with
  | some hbox => exact .pure fun _ hle => ⟨hbox.mono hle, hgrid.mono hle⟩
  | none =>
    refine (ticket_parallel p "op" "op").bind fun q number number' hle _ => ?_
    refine (group_parallel q).bind fun q g g' hle' _ => ?_
    refine (inCell_parallel frame.cfg fun corner =>
      ellipse_parallel q frame.cfg c.label corner _ _ "operator").bind
        fun q box box' hle'' hbox => ?_
    have hle := (hle.trans hle').trans hle''
    refine .pure fun q hlast => ⟨hbox.mono hlast, rfl, ?_⟩
    have hknown := hgrid.known.mono (hle.trans hlast)
    cases c.key with
    | none => exact hknown
    | some key => exact hknown.append (.cons ⟨rfl, hbox.mono hlast⟩ .nil)

omit [Add α] [Mul α] [LT α] [DecidableLT α] [Scalar α] in
/-- Drawing an arrow of a comparison. -/
theorem comparisonEdge_parallel (direction : String) {source target source' target' : Box α}
    (hsource : source.Matches p source') (htarget : target.Matches p target') :
    Parallel p (fun _ _ _ => True) (frame.comparisonEdge direction source target)
      (frame.comparisonEdge direction source' target') := by
  refine (ticket_parallel p "edge" "edge").bind fun q number number' hle _ => ?_
  refine (group_parallel q).bind fun q g g' hle' _ => ?_
  have hle := hle.trans hle'
  exact edge_parallel frame.cfg (hsource.mono hle) (htarget.mono hle) _ _

omit [Add α] [Mul α] [LT α] [DecidableLT α] [Scalar α] in
/-- Drawing an arrow at an operand, if the operand has a node, and then the rest. -/
theorem optionalEdge_parallel {R : Pairing → β → γ → Prop} {box? box?' : Option (Box α)}
    (hbox : Option.Rel (Box.Matches p) box? box?') {edge edge' : Box α → Draw α Unit}
    (hedge : ∀ b c, b.Matches p c → Parallel p (fun _ _ _ => True) (edge b) (edge' c))
    {rest : Draw α β} {rest' : Draw α γ} (hrest : ∀ q, p.Before q → Parallel q R rest rest') :
    Parallel p R
      (do
        if let some box := box? then edge box
        rest)
      (do
        if let some box := box?' then edge' box
        rest') := by
  cases hbox with
  | none => exact hrest p (.refl p)
  | some hbox => exact (hedge _ _ hbox).bind fun q _ _ hle _ => hrest q hle

/-- Drawing the operators of comparisons, with their arrows. -/
theorem drawOperators_parallel (top : α) {grid grid' : OperatorGrid α}
    (hgrid : grid.Matches p grid') {cs cs' : List (PlacedComparison α)}
    (hcs : List.Forall₂ (PlacedComparison.Matches p) cs cs') :
    Parallel p OperatorGrid.Matches (frame.drawOperators top grid cs)
      (frame.drawOperators top grid' cs') := by
  induction cs generalizing p grid grid' cs' with
  | nil =>
    cases hcs
    exact .pure fun _ hle => hgrid.mono hle
  | cons c rest ih =>
    cases hcs with
    | @cons _ c' _ rest' hc hrest =>
      refine (frame.operatorNode_parallel top hgrid hc).bind fun q b b' hle hnode => ?_
      have hc := hc.mono hle
      refine optionalEdge_parallel hc.left
        (fun left left' hleft => frame.comparisonEdge_parallel "in" hleft hnode.1)
        fun q₂ hle₂ => ?_
      have hc := hc.mono hle₂
      refine optionalEdge_parallel hc.right
        (fun right right' hright => frame.comparisonEdge_parallel "out" (hnode.1.mono hle₂) hright)
        fun q₃ hle₃ => ?_
      have hle := (hle.trans hle₂).trans hle₃
      exact ih (hnode.2.mono (hle₂.trans hle₃)) (hrest.imp fun _ _ hc => hc.mono hle)

end ComparisonFrame

end PlanDiagram.Diagram
