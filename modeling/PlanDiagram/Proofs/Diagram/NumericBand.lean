import PlanDiagram.Proofs.Diagram.NodeDrawing

/-!
# Numeric bands

The nodes of a numeric band are numbered by the session, each kind of node in a family of its own.
Every arrow of the band leads into the node of an operator: from a node of another family, or from
the operator of an operand, which is drawn after it. So no arrow leads from a node to itself. The
walk over an operand keeps what is known of the band: its functions have nodes.
-/

namespace PlanDiagram.Diagram

namespace NumericFrame

/-- The identifiers of parameters. -/
def parameterFamily : Family := .leading "param-"

/-- The identifiers of operators. -/
def operatorFamily : Family := .trailing "operator-"

/-- The identifiers of operands that are neither operators nor functions. -/
def literalFamily : Family := .trailing "literal-"

/-- The identifiers of functions. -/
def functionFamily : Family := .trailing "function-"

/-- The identifiers of arrows in the band. -/
def edgeFamily : Family := .trailing "numeric-"

/-- The families for which the session hands out numbers, with their keys. -/
def tickets : List (String × Family) :=
  [("op", operatorFamily), ("lit", literalFamily), ("fn", functionFamily), ("edge", edgeFamily)]

/-- The families of the elements of a numeric band. -/
def families : List Family :=
  tickets.map Prod.snd

/-- The families for which numbers are handed out are apart. -/
theorem tickets_spared : ∀ ticket ∈ tickets, ∀ t ∈ tickets, ticket.2.Apart t.2 ∨ t = ticket := by
  decide +kernel

variable {α : Type} {frame : NumericFrame α} {band band' : NumericBand α} {box : Box α}
  {d d' : Drawing α}

/-- The functions of a band have nodes on the canvas. -/
def Known (band : NumericBand α) (d : Drawing α) : Prop :=
  ∀ known ∈ band.functions, Placed d functionFamily known.box

/-- The nodes of the parameters are on the canvas. -/
def Anchored (frame : NumericFrame α) (d : Drawing α) : Prop :=
  ∀ anchor ∈ frame.anchors, Placed d parameterFamily anchor.2

/-- What is known of a band stays. -/
theorem Known.step {families : List Family} (h : Known band d)
    (hstep : Step tickets families [] d d') : Known band d' :=
  fun known hknown => hstep.placed (h known hknown)

/-- Only the functions of a band matter. -/
theorem Known.of_functions_eq (h : Known band d) (heq : band'.functions = band.functions) :
    Known band' d := by
  unfold Known
  rw [heq]
  exact h

/-- The nodes of parameters stay. -/
theorem Anchored.step {families : List Family} (h : Anchored frame d)
    (hstep : Step tickets families [] d d') : Anchored frame d' :=
  fun anchor hanchor => hstep.placed (h anchor hanchor)

/-- Drawing an arrow between two different nodes. -/
theorem numericEdge_step {source target : Box α} {u : Unit}
    (hdraw : frame.numericEdge source target d = .ok (u, d')) (hd : d.Sound tickets)
    (hsource : source.id ∈ nodeIds d.canvas.elements)
    (htarget : target.id ∈ nodeIds d.canvas.elements) (hne : source.id ≠ target.id) :
    Step tickets families [] d d' := by
  obtain ⟨n, d₁, hticket, hdraw⟩ := Draw.bind_ok_iff.mp hdraw
  obtain ⟨group, d₂, hgroup, hedge⟩ := Draw.bind_ok_iff.mp hdraw
  obtain ⟨rfl, rfl⟩ := Draw.group_ok_iff.mp hgroup
  have hmem : ("edge", edgeFamily) ∈ tickets := by simp [tickets]
  have hnames : Names d.canvas.group edgeFamily n
      (sanitize (d₁.canvas.group ++ "-numeric-edge-" ++ toString n)) := by
    rw [Draw.canvas_eq_of_ticket hticket]
    have hedge : "-numeric-edge-" = "-numeric-" ++ "edge" ++ "-" := rfl
    rw [hedge, ← String.append_assoc, ← String.append_assoc]
    exact Names.trailing _ (by decide) (by decide) "edge" n
  have hstep := Draw.edge_step_of_ticket hticket hedge hd hmem (tickets_spared _ hmem) hnames
    hsource htarget hne
  exact hstep.mono (by simp [families, tickets])

/-- A node that is drawn in a band. -/
structure NodeStep (f : Family) (d d' : Drawing α) (box : Box α) : Prop where
  step : Step tickets families [] d d'
  placed : Placed d' f box
  new : box.id ∉ nodeIds d.canvas.elements

variable [Add α] [Mul α] [LT α] [DecidableLT α] [Scalar α]

/-- Drawing a node in the next cell. -/
theorem node_step {text id counter role : String} {f : Family}
    (hdraw : frame.node band text id counter role d = .ok ((box, band'), d'))
    (hd : d.Sound tickets) (hmem : (counter, f) ∈ tickets)
    (hnames : ∀ n : Nat, Names d.canvas.group f n (sanitize (id ++ "-" ++ toString n))) :
    NodeStep f d d' box ∧ band'.functions = band.functions := by
  have hspared : ∀ t ∈ tickets, f.Apart t.2 ∨ t = (counter, f) := tickets_spared _ hmem
  obtain ⟨n, d₁, hticket, hellipse, rfl⟩ := node_ok hdraw
  obtain ⟨hstep, hplaced, hnew⟩ :=
    Draw.ellipse_step_of_ticket hticket hellipse hd hmem hspared (hnames n)
  have hsub : [f] ⊆ families := by
    intro g hg
    rw [List.mem_singleton] at hg
    rw [hg]
    exact List.mem_map_of_mem hmem
  exact ⟨⟨hstep.mono hsub, hplaced, hnew⟩, rfl⟩

/-- Drawing the node of an operator. -/
theorem operatorNode_step {text suffix role : String}
    (hdraw : frame.operatorNode band text suffix role d = .ok ((box, band'), d'))
    (hd : d.Sound tickets) :
    NodeStep operatorFamily d d' box ∧ band'.functions = band.functions := by
  obtain ⟨group, d₁, hgroup, hnode⟩ := Draw.bind_ok_iff.mp hdraw
  obtain ⟨rfl, rfl⟩ := Draw.group_ok_iff.mp hgroup
  exact node_step hnode hd (by simp [tickets]) fun n =>
    Names.trailing _ (by decide) (by decide) suffix n

/-- Drawing the node of a literal. -/
theorem literalNode_step {text suffix : String}
    (hdraw : frame.literalNode band text suffix d = .ok ((box, band'), d'))
    (hd : d.Sound tickets) :
    NodeStep literalFamily d d' box ∧ band'.functions = band.functions := by
  obtain ⟨group, d₁, hgroup, hnode⟩ := Draw.bind_ok_iff.mp hdraw
  obtain ⟨rfl, rfl⟩ := Draw.group_ok_iff.mp hgroup
  exact node_step hnode hd (by simp [tickets]) fun n =>
    Names.trailing _ (by decide) (by decide) suffix n

/-- Drawing the node of a function, or finding it. -/
theorem functionNode_step {name : String} {arguments : List Formula}
    (hdraw : frame.functionNode band name arguments d = .ok ((box, band'), d'))
    (hd : d.Sound tickets) (hknown : Known band d) :
    Step tickets families [] d d' ∧ Placed d' functionFamily box ∧ Known band' d' := by
  cases functionNode_ok hdraw with
  | found hfind => exact ⟨.refl hd, hknown _ (List.mem_of_find?_eq_some hfind), hknown⟩
  | drawn hfind hnode =>
    obtain ⟨hnode, hfunctions⟩ := node_step (f := functionFamily) hnode hd (by simp [tickets])
      fun n => Names.trailing _ (by decide) (by decide) (functionKey name arguments) n
    refine ⟨hnode.step, hnode.placed, fun known hmem => ?_⟩
    rcases List.mem_append.mp hmem with hmem | hmem
    · rw [hfunctions] at hmem
      exact hnode.step.placed (hknown known hmem)
    · rw [List.mem_singleton.mp hmem]
      exact hnode.placed

/-- Drawing the operator of an operand, with an arrow to the operator above it. -/
theorem innerNode_step {parent : Box α} {suffix role : String} {f : Formula}
    (hdraw : frame.innerNode parent suffix band f role d = .ok ((box, band'), d'))
    (hd : d.Sound tickets) (hknown : Known band d) (hparent : Placed d operatorFamily parent) :
    Step tickets families [] d d' ∧ Placed d' operatorFamily box ∧ Known band' d' := by
  obtain ⟨d₁, hnode, hedge⟩ := innerNode_ok hdraw
  obtain ⟨hnode, hfunctions⟩ := operatorNode_step hnode hd
  -- the operator above was there before, so the new one is different
  have hne : box.id ≠ parent.id := fun heq => hnode.new (heq ▸ hparent.1)
  have hstep := numericEdge_step hedge hnode.step.sound hnode.placed.1
    (hnode.step.placed hparent).1 hne
  have hstep' := hnode.step.trans hstep
  exact ⟨hstep', hstep.placed hnode.placed, (hknown.of_functions_eq hfunctions).step hstep'⟩

/-- Drawing a literal with an arrow to the operator above it. -/
theorem literal_step {parent : Box α} {text suffix : String}
    (hdraw : (do
      let (box, band₁) ← frame.literalNode band text suffix
      frame.numericEdge box parent
      return band₁ : Draw α (NumericBand α)) d = .ok (band', d'))
    (hd : d.Sound tickets) (hknown : Known band d) (hparent : Placed d operatorFamily parent) :
    Step tickets families [] d d' ∧ Known band' d' := by
  obtain ⟨⟨box, band₁⟩, d₁, hnode, hdraw⟩ := Draw.bind_ok_iff.mp hdraw
  obtain ⟨u, d₂, hedge, hdraw⟩ := Draw.bind_ok_iff.mp hdraw
  obtain ⟨rfl, rfl⟩ := Draw.pure_ok_iff.mp hdraw
  obtain ⟨hnode, hfunctions⟩ := literalNode_step hnode hd
  have hparent₁ := hnode.step.placed hparent
  have hstep := numericEdge_step hedge hnode.step.sound hnode.placed.1 hparent₁.1
    (hnode.placed.ne hparent₁ (by decide +kernel))
  have hstep' := hnode.step.trans hstep
  exact ⟨hstep', (hknown.of_functions_eq hfunctions).step hstep'⟩

/-- Drawing an operator among operands, with whatever is drawn below it. -/
theorem inner_step {parent : Box α} {suffix role : String} {f : Formula}
    {below : Box α × NumericBand α → Draw α (NumericBand α)}
    (hdraw : (frame.innerNode parent suffix band f role >>= below) d = .ok (band', d'))
    (hd : d.Sound tickets) (hanchored : Anchored frame d) (hknown : Known band d)
    (hparent : Placed d operatorFamily parent)
    (hbelow : ∀ {box band₁ d₁}, below (box, band₁) d₁ = .ok (band', d') → d₁.Sound tickets →
      Anchored frame d₁ → Known band₁ d₁ → Placed d₁ operatorFamily box →
      Step tickets families [] d₁ d' ∧ Known band' d') :
    Step tickets families [] d d' ∧ Known band' d' := by
  obtain ⟨⟨box, band₁⟩, d₁, hinner, hrest⟩ := Draw.bind_ok_iff.mp hdraw
  obtain ⟨hstep, hbox, hknown₁⟩ := innerNode_step hinner hd hknown hparent
  obtain ⟨hstep', hknown'⟩ := hbelow hrest hstep.sound (hanchored.step hstep) hknown₁ hbox
  exact ⟨hstep.trans hstep', hknown'⟩

mutual

/-- Drawing an operand. -/
theorem drawOperand_step {parent : Box α} {suffix : String} {band band' : NumericBand α}
    {d d' : Drawing α} (f : Formula)
    (hdraw : frame.drawOperand parent suffix band f d = .ok (band', d')) (hd : d.Sound tickets)
    (hanchored : Anchored frame d) (hknown : Known band d)
    (hparent : Placed d operatorFamily parent) :
    Step tickets families [] d d' ∧ Known band' d' := by
  match f with
  | .parameter name type =>
    cases hanchor : frame.anchors.lookup name with
    | some anchor =>
      simp only [drawOperand, hanchor] at hdraw
      obtain ⟨u, d₁, hedge, hdraw⟩ := Draw.bind_ok_iff.mp hdraw
      obtain ⟨rfl, rfl⟩ := Draw.pure_ok_iff.mp hdraw
      have hplaced : Placed d parameterFamily anchor := placed_of_lookup hanchor hanchored
      have hstep := numericEdge_step hedge hd hplaced.1 hparent.1
        (hplaced.ne hparent (by decide +kernel))
      exact ⟨hstep, hknown.step hstep⟩
    | none =>
      simp only [drawOperand, hanchor] at hdraw
      exact literal_step hdraw hd hknown hparent
  | .number value => exact literal_step hdraw hd hknown hparent
  | .function name arguments =>
    obtain ⟨⟨box, band₁⟩, d₁, hfunction, hdraw⟩ := Draw.bind_ok_iff.mp hdraw
    obtain ⟨u, d₂, hedge, hdraw⟩ := Draw.bind_ok_iff.mp hdraw
    obtain ⟨rfl, rfl⟩ := Draw.pure_ok_iff.mp hdraw
    obtain ⟨hstep, hbox, hknown₁⟩ := functionNode_step hfunction hd hknown
    have hparent₁ := hstep.placed hparent
    have hstep' := numericEdge_step hedge hstep.sound hbox.1 hparent₁.1
      (hbox.ne hparent₁ (by decide +kernel))
    exact ⟨hstep.trans hstep', hknown₁.step hstep'⟩
  | .predicate name arguments =>
    exact inner_step hdraw hd hanchored hknown hparent (drawOperands_step arguments)
  | .negation argument =>
    exact inner_step hdraw hd hanchored hknown hparent (drawOperand_step argument)
  | .numeric change arguments =>
    exact inner_step hdraw hd hanchored hknown hparent (drawOperands_step arguments)
  | .comparison op arguments =>
    exact inner_step hdraw hd hanchored hknown hparent (drawOperands_step arguments)
  | .arithmetic op arguments =>
    exact inner_step hdraw hd hanchored hknown hparent (drawOperands_step arguments)
  | .composite op items bound =>
    exact inner_step hdraw hd hanchored hknown hparent (drawOperands_step items)

/-- Drawing the operands of an operator. -/
theorem drawOperands_step {parent : Box α} {suffix : String} {place : Nat}
    {band band' : NumericBand α} {d d' : Drawing α} (fs : List Formula)
    (hdraw : frame.drawOperands parent suffix place band fs d = .ok (band', d'))
    (hd : d.Sound tickets) (hanchored : Anchored frame d) (hknown : Known band d)
    (hparent : Placed d operatorFamily parent) :
    Step tickets families [] d d' ∧ Known band' d' := by
  match fs with
  | [] =>
    obtain ⟨rfl, rfl⟩ := Draw.pure_ok_iff.mp hdraw
    exact ⟨.refl hd, hknown⟩
  | f :: rest =>
    obtain ⟨band₁, d₁, hfirst, hrest⟩ := Draw.bind_ok_iff.mp hdraw
    obtain ⟨hstep, hknown₁⟩ := drawOperand_step f hfirst hd hanchored hknown hparent
    obtain ⟨hstep', hknown'⟩ := drawOperands_step rest hrest hstep.sound (hanchored.step hstep)
      hknown₁ (hstep.placed hparent)
    exact ⟨hstep.trans hstep', hknown'⟩

end

/-- Drawing the operator of an effect or comparison with everything below it. -/
theorem tree_step {text suffix role suffix' : String} {place : Nat} {arguments : List Formula}
    {band₁ : NumericBand α} {d₁ : Drawing α}
    (hnode : frame.operatorNode band text suffix role d = .ok ((box, band₁), d₁))
    (hoperands : frame.drawOperands box suffix' place band₁ arguments d₁ = .ok (band', d'))
    (hd : d.Sound tickets) (hanchored : Anchored frame d) (hknown : Known band d) :
    Step tickets families [] d d' ∧ Known band' d' := by
  obtain ⟨hnode, hfunctions⟩ := operatorNode_step hnode hd
  have hknown₁ : Known band₁ d₁ := (hknown.of_functions_eq hfunctions).step hnode.step
  obtain ⟨hstep, hknown'⟩ := drawOperands_step arguments hoperands hnode.step.sound
    (hanchored.step hnode.step) hknown₁ hnode.placed
  exact ⟨hnode.step.trans hstep, hknown'⟩

/-- Drawing numeric effects. -/
theorem drawChanges_step {uses : List ChangeUse} {index : Nat}
    (hdraw : frame.drawChanges index band uses d = .ok (band', d')) (hd : d.Sound tickets)
    (hanchored : Anchored frame d) (hknown : Known band d) :
    Step tickets families [] d d' ∧ Known band' d' := by
  induction uses generalizing band d index with
  | nil =>
    obtain ⟨rfl, rfl⟩ := Draw.pure_ok_iff.mp hdraw
    exact ⟨.refl hd, hknown⟩
  | cons use rest ih =>
    obtain ⟨⟨box, band₁⟩, d₁, hnode, hdraw⟩ := Draw.bind_ok_iff.mp hdraw
    obtain ⟨band₂, d₂, hoperands, hrest⟩ := Draw.bind_ok_iff.mp hdraw
    obtain ⟨hstep, hknown₂⟩ := tree_step hnode hoperands hd hanchored hknown
    obtain ⟨hlast, hknown'⟩ := ih hrest hstep.sound (hanchored.step hstep) hknown₂
    exact ⟨hstep.trans hlast, hknown'⟩

/-- Drawing comparisons. -/
theorem drawComparisons_step {uses : List ComparisonUse} {index : Nat}
    (hdraw : frame.drawComparisons index band uses d = .ok (band', d')) (hd : d.Sound tickets)
    (hanchored : Anchored frame d) (hknown : Known band d) :
    Step tickets families [] d d' ∧ Known band' d' := by
  induction uses generalizing band d index with
  | nil =>
    obtain ⟨rfl, rfl⟩ := Draw.pure_ok_iff.mp hdraw
    exact ⟨.refl hd, hknown⟩
  | cons use rest ih =>
    obtain ⟨⟨box, band₁⟩, d₁, hnode, hdraw⟩ := Draw.bind_ok_iff.mp hdraw
    obtain ⟨band₂, d₂, hoperands, hrest⟩ := Draw.bind_ok_iff.mp hdraw
    obtain ⟨hstep, hknown₂⟩ := tree_step hnode hoperands hd hanchored hknown
    obtain ⟨hlast, hknown'⟩ := ih hrest hstep.sound (hanchored.step hstep) hknown₂
    exact ⟨hstep.trans hlast, hknown'⟩

end NumericFrame

end PlanDiagram.Diagram
