import PlanDiagram.Diagram.NumericBand
import PlanDiagram.Proofs.Diagram.Parallel.Draw

/-!
# Numeric bands in parallel

Two numeric bands whose anchors match are drawn in parallel. The walk through the operands takes the
same turns on both sides: an anchor is found on one side if it is on the other, and a function has a
node on one side if it has one on the other.
-/

namespace PlanDiagram.Diagram

variable {α : Type} {p q : Pairing}

/-- Functions with nodes that match. -/
def FunctionNode.Matches (p : Pairing) (f g : FunctionNode α) : Prop :=
  f.box.Matches p g.box ∧ g = { f with box := g.box }

/-- Bands with the same number of nodes, and with functions whose nodes match. -/
structure NumericBand.Matches (p : Pairing) (band band' : NumericBand α) : Prop where
  placed_eq : band'.placed = band.placed
  functions : List.Forall₂ (FunctionNode.Matches p) band.functions band'.functions

theorem NumericBand.Matches.mono (hle : p.Before q) {band band' : NumericBand α}
    (h : band.Matches p band') : band.Matches q band' :=
  ⟨h.placed_eq, h.functions.imp fun _ _ hf => ⟨hf.1.mono hle, hf.2⟩⟩

/-- A function that is found by its key on one side is found on the other. -/
theorem FunctionNode.find_matches {fs gs : List (FunctionNode α)}
    (h : List.Forall₂ (FunctionNode.Matches p) fs gs) (key : String) :
    Option.Rel (FunctionNode.Matches p) (fs.find? fun known => known.key == key)
      (gs.find? fun known => known.key == key) := by
  induction h with
  | nil => exact .none
  | @cons f g fs gs hfg _ ih =>
    have hkey : g.key = f.key := by rw [hfg.2]
    rw [List.find?_cons, List.find?_cons, hkey]
    cases f.key == key with
    | true => exact .some hfg
    | false => exact ih

namespace NumericFrame

open Draw

variable [Add α] [Mul α] [LT α] [DecidableLT α] [Scalar α] (frame : NumericFrame α)
  {anchors : List (String × Box α)} {band band' : NumericBand α}

/-- A node that has been drawn, with the band after it. -/
def Placed (p : Pairing) (b c : Box α × NumericBand α) : Prop :=
  b.1.Matches p c.1 ∧ b.2.Matches p c.2

/-- Drawing a node in the next cell. -/
theorem node_parallel (hband : band.Matches p band') (text id id' counter role : String) :
    Parallel p Placed (frame.node band text id counter role)
      (node { frame with anchors } band' text id' counter role) := by
  simp only [node, hband.placed_eq]
  refine (ticket_parallel p counter counter).bind fun q number number' hle _ => ?_
  refine (inCell_parallel frame.cfg fun corner =>
    ellipse_parallel q frame.cfg text corner _ _ role).bind fun q box box' hle' hbox => ?_
  refine .pure fun q hle'' => ⟨hbox.mono hle'', rfl, ?_⟩
  · exact (hband.mono ((hle.trans hle').trans hle'')).functions

/-- Drawing the node of an operator. -/
theorem operatorNode_parallel (hband : band.Matches p band') (text suffix role : String) :
    Parallel p Placed (frame.operatorNode band text suffix role)
      (operatorNode { frame with anchors } band' text suffix role) :=
  (group_parallel p).bind fun _ _ _ hle _ => frame.node_parallel (hband.mono hle) text _ _ _ role

/-- Drawing the node of a literal. -/
theorem literalNode_parallel (hband : band.Matches p band') (text suffix : String) :
    Parallel p Placed (frame.literalNode band text suffix)
      (literalNode { frame with anchors } band' text suffix) :=
  (group_parallel p).bind fun _ _ _ hle _ => frame.node_parallel (hband.mono hle) text _ _ _ _

/-- Drawing the node of a function, or finding it. -/
theorem functionNode_parallel (hband : band.Matches p band') (name : String)
    (arguments : List Formula) :
    Parallel p Placed (frame.functionNode band name arguments)
      (functionNode { frame with anchors } band' name arguments) := by
  have hfind := FunctionNode.find_matches hband.functions (functionKey name arguments)
  simp only [functionNode]
  generalize band.functions.find? _ = f?, band'.functions.find? _ = g? at hfind
  cases hfind with
  | some hfg => exact .pure fun _ hle => ⟨hfg.1.mono hle, hband.mono hle⟩
  | none =>
    refine (group_parallel p).bind fun q g g' hle _ => ?_
    refine (frame.node_parallel (hband.mono hle) _ _ _ "fn" "function").bind
      fun q node node' hle' hnode => ?_
    refine .pure fun q hle'' => ⟨hnode.1.mono hle'', hnode.2.placed_eq, ?_⟩
    exact List.rel_append (hnode.2.mono hle'').functions
      (.cons ⟨hnode.1.mono hle'', rfl⟩ .nil)

omit [Add α] [Mul α] [LT α] [DecidableLT α] [Scalar α] in
/-- Drawing an arrow. -/
theorem numericEdge_parallel {source target source' target' : Box α}
    (hsource : source.Matches p source') (htarget : target.Matches p target') :
    Parallel p (fun _ _ _ => True) (frame.numericEdge source target)
      (numericEdge { frame with anchors } source' target') := by
  refine (ticket_parallel p "edge" "edge").bind fun q number number' hle _ => ?_
  refine (group_parallel q).bind fun q g g' hle' _ => ?_
  have hle := hle.trans hle'
  exact edge_parallel frame.cfg (hsource.mono hle) (htarget.mono hle) _ _

omit [Add α] [Mul α] [LT α] [DecidableLT α] [Scalar α] in
/-- Drawing an arrow from a node to the operator above it, after which the band is given. -/
theorem attach_parallel {box box' parent parent' : Box α} (hbox : box.Matches p box')
    (hparent : parent.Matches p parent') (hband : band.Matches p band') :
    Parallel p NumericBand.Matches
      (frame.numericEdge box parent >>= fun _ => return band)
      (numericEdge { frame with anchors } box' parent' >>= fun _ => return band') :=
  (frame.numericEdge_parallel hbox hparent).bind fun _ _ _ hle _ =>
    .pure fun _ hle' => hband.mono (hle.trans hle')

/-- Drawing an operator among operands, with whatever is drawn below it. -/
theorem inner_parallel {parent parent' : Box α}
    {below below' : Box α × NumericBand α → Draw α (NumericBand α)}
    (hparent : parent.Matches p parent') (hband : band.Matches p band') (suffix : String)
    (f : Formula) (role : String)
    (hbelow : ∀ q b c, p.Before q → Placed q b c →
      Parallel q NumericBand.Matches (below b) (below' c)) :
    Parallel p NumericBand.Matches (frame.innerNode parent suffix band f role >>= below)
      (innerNode { frame with anchors } parent' suffix band' f role >>= below') := by
  have hinner : Parallel p Placed (frame.innerNode parent suffix band f role)
      (innerNode { frame with anchors } parent' suffix band' f role) := by
    refine (frame.operatorNode_parallel hband _ _ role).bind fun q b c hle hnode => ?_
    refine (frame.numericEdge_parallel hnode.1 (hparent.mono hle)).bind fun q _ _ hle' _ => ?_
    exact .pure fun _ hle'' => ⟨hnode.1.mono (hle'.trans hle''), hnode.2.mono (hle'.trans hle'')⟩
  exact hinner.bind hbelow

mutual

/-- Drawing an operand. -/
theorem drawOperand_parallel {p : Pairing} {anchors : List (String × Box α)}
    {parent parent' : Box α} {band band' : NumericBand α}
    (hanchors : KeyedMatch p frame.anchors anchors) (hparent : parent.Matches p parent')
    (hband : band.Matches p band') (suffix : String)
    (f : Formula) :
    Parallel p NumericBand.Matches (frame.drawOperand parent suffix band f)
      (drawOperand { frame with anchors } parent' suffix band' f) := by
  match f with
  | .parameter name type =>
    have hanchor := hanchors.lookup name
    simp only [drawOperand]
    generalize frame.anchors.lookup name = anchor?, anchors.lookup name = anchor?' at hanchor
    cases hanchor with
    | some hanchor => exact frame.attach_parallel hanchor hparent hband
    | none =>
      refine (frame.literalNode_parallel hband _ _).bind fun q b c hle hnode => ?_
      exact frame.attach_parallel hnode.1 (hparent.mono hle) hnode.2
  | .number value =>
    refine (frame.literalNode_parallel hband _ _).bind fun q b c hle hnode => ?_
    exact frame.attach_parallel hnode.1 (hparent.mono hle) hnode.2
  | .function name arguments =>
    refine (frame.functionNode_parallel hband name arguments).bind fun q b c hle hnode => ?_
    exact frame.attach_parallel hnode.1 (hparent.mono hle) hnode.2
  | .predicate name arguments =>
    exact frame.inner_parallel hparent hband suffix _ _ fun q b c hle hnode =>
      drawOperands_parallel (hanchors.mono hle) hnode.1 hnode.2 _ 0 arguments
  | .negation argument =>
    exact frame.inner_parallel hparent hband suffix _ _ fun q b c hle hnode =>
      drawOperand_parallel (hanchors.mono hle) hnode.1 hnode.2 _ argument
  | .numeric change arguments =>
    exact frame.inner_parallel hparent hband suffix _ _ fun q b c hle hnode =>
      drawOperands_parallel (hanchors.mono hle) hnode.1 hnode.2 _ 0 arguments
  | .comparison op arguments =>
    exact frame.inner_parallel hparent hband suffix _ _ fun q b c hle hnode =>
      drawOperands_parallel (hanchors.mono hle) hnode.1 hnode.2 _ 0 arguments
  | .arithmetic op arguments =>
    exact frame.inner_parallel hparent hband suffix _ _ fun q b c hle hnode =>
      drawOperands_parallel (hanchors.mono hle) hnode.1 hnode.2 _ 0 arguments
  | .composite op items bound =>
    exact frame.inner_parallel hparent hband suffix _ _ fun q b c hle hnode =>
      drawOperands_parallel (hanchors.mono hle) hnode.1 hnode.2 _ 0 items

/-- Drawing the operands of an operator. -/
theorem drawOperands_parallel {p : Pairing} {anchors : List (String × Box α)}
    {parent parent' : Box α} {band band' : NumericBand α}
    (hanchors : KeyedMatch p frame.anchors anchors) (hparent : parent.Matches p parent')
    (hband : band.Matches p band') (suffix : String)
    (place : Nat) (fs : List Formula) :
    Parallel p NumericBand.Matches (frame.drawOperands parent suffix place band fs)
      (drawOperands { frame with anchors } parent' suffix place band' fs) := by
  match fs with
  | [] => exact .pure fun _ hle => hband.mono hle
  | f :: rest =>
    refine (drawOperand_parallel hanchors hparent hband _ f).bind fun q b c hle hband => ?_
    exact drawOperands_parallel (hanchors.mono hle) (hparent.mono hle) hband suffix (place + 1) rest

end

/-- Drawing the operator of an effect or comparison with everything below it, and then the rest. -/
theorem tree_parallel {text suffix role suffix' : String} {arguments : List Formula}
    {rest rest' : NumericBand α → Draw α (NumericBand α)}
    (hanchors : KeyedMatch p frame.anchors anchors) (hband : band.Matches p band')
    (hrest : ∀ q b c, p.Before q → b.Matches q c →
      Parallel q NumericBand.Matches (rest b) (rest' c)) :
    Parallel p NumericBand.Matches
      (frame.operatorNode band text suffix role >>= fun r =>
        frame.drawOperands r.1 suffix' 0 r.2 arguments >>= rest)
      (operatorNode { frame with anchors } band' text suffix role >>= fun r =>
        drawOperands { frame with anchors } r.1 suffix' 0 r.2 arguments >>= rest') := by
  refine (frame.operatorNode_parallel hband text suffix role).bind fun q b c hle hnode => ?_
  refine (frame.drawOperands_parallel (hanchors.mono hle) hnode.1 hnode.2 suffix' 0 arguments).bind
    fun q b c hle' hband => ?_
  exact hrest q b c (hle.trans hle') hband

/-- Drawing numeric effects. -/
theorem drawChanges_parallel (hanchors : KeyedMatch p frame.anchors anchors)
    (hband : band.Matches p band') (index : Nat) (uses : List ChangeUse) :
    Parallel p NumericBand.Matches (frame.drawChanges index band uses)
      (drawChanges { frame with anchors } index band' uses) := by
  induction uses generalizing p band band' index with
  | nil => exact .pure fun _ hle => hband.mono hle
  | cons use rest ih =>
    exact frame.tree_parallel hanchors hband fun q b c hle hband =>
      ih (hanchors.mono hle) hband (index + 1)

/-- Drawing comparisons. -/
theorem drawComparisons_parallel (hanchors : KeyedMatch p frame.anchors anchors)
    (hband : band.Matches p band') (index : Nat) (uses : List ComparisonUse) :
    Parallel p NumericBand.Matches (frame.drawComparisons index band uses)
      (drawComparisons { frame with anchors } index band' uses) := by
  induction uses generalizing p band band' index with
  | nil => exact .pure fun _ hle => hband.mono hle
  | cons use rest ih =>
    exact frame.tree_parallel hanchors hband fun q b c hle hband =>
      ih (hanchors.mono hle) hband (index + 1)

end NumericFrame

end PlanDiagram.Diagram
