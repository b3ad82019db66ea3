import PlanDiagram.Proofs.Diagram.Contents
import PlanDiagram.Proofs.Diagram.NumericBand

/-!
# Function terms in a numeric band

The function terms that are drawn in a numeric band are those among the operands of its trees, not
those among the arguments of other functions. Each of them has an ellipse, found by its key, with an
arrow into the node of its operator, and there are no other ellipses of functions. Every arrow of
the band leads into an operator. The walk over an operand keeps what is known of the band: its
functions are the ellipses of functions on the canvas, in order, and no two have the same key.
-/

namespace PlanDiagram

/-- A function with its arguments. -/
structure FunctionTerm where
  name : String
  arguments : List Formula

/-- The text on the ellipse of a function term. -/
def FunctionTerm.label (t : FunctionTerm) : String :=
  Formula.functionLabel t.name (Formula.labels t.arguments)

/-- A function term that stands as an operand, with the text on the node of its operator. -/
structure FunctionOperand where
  operator : String
  term : FunctionTerm

namespace Formula

mutual

/-- The function terms that are drawn for an operand of an operator with the given text. -/
def functionOperands (operator : String) : Formula → List FunctionOperand
  | .parameter .. => []
  | .number _ => []
  | .function name arguments => [⟨operator, ⟨name, arguments⟩⟩]
  | .predicate name arguments => functionOperandsOfEach (sign (.predicate name arguments)) arguments
  | .negation argument => argument.functionOperands (sign (.negation argument))
  | .numeric change arguments => functionOperandsOfEach (sign (.numeric change arguments)) arguments
  | .comparison op arguments => functionOperandsOfEach (sign (.comparison op arguments)) arguments
  | .arithmetic op arguments => functionOperandsOfEach (sign (.arithmetic op arguments)) arguments
  | .composite op items bound => functionOperandsOfEach (sign (.composite op items bound)) items

/-- The function terms that are drawn for several operands. -/
def functionOperandsOfEach (operator : String) : List Formula → List FunctionOperand
  | [] => []
  | f :: rest => f.functionOperands operator ++ functionOperandsOfEach operator rest

end

end Formula

/-- The function terms that are drawn for a numeric effect. -/
def ChangeUse.functionOperands (use : ChangeUse) : List FunctionOperand :=
  Formula.functionOperandsOfEach (Diagram.NumericFrame.changeText use) use.arguments

/-- The function terms that are drawn for a comparison. -/
def ComparisonUse.functionOperands (use : ComparisonUse) : List FunctionOperand :=
  Formula.functionOperandsOfEach (Formula.literalLabel use.sign use.negated) use.arguments

namespace Diagram

/-- The function term that is drawn on a node. -/
def FunctionNode.term {α : Type} (known : FunctionNode α) : FunctionTerm :=
  ⟨known.name, known.arguments⟩

namespace NumericFrame

variable {α : Type} {frame : NumericFrame α} {band band' band'' : NumericBand α} {box : Box α}
  {d d' d'' : Drawing α} {operands operands' : List FunctionOperand}

/-- The key by which a function term is found. -/
def termKey (t : FunctionTerm) : String :=
  functionKey t.name t.arguments

/-- The families of the nodes of a numeric band. -/
def nodeFamilies : List Family :=
  [operatorFamily, literalFamily, functionFamily]

/-- The functions of a band are the ellipses of functions on the canvas, in order. -/
structure Recorded (band : NumericBand α) (d : Drawing α) : Prop where
  keys_nodup : (band.functions.map FunctionNode.key).Nodup
  keys_eq : ∀ known ∈ band.functions, known.key = termKey known.term
  nodes : List.Forall₂ (fun known n =>
      n.box = known.box ∧ n.box.shape = .ellipse ∧ n.text = known.term.label)
    band.functions (nodesIn [functionFamily] d.canvas.elements)

/-- A band without functions is recorded where there are no ellipses of functions. -/
theorem Recorded.of_empty (h : nodesIn [functionFamily] d.canvas.elements = []) :
    Recorded {} d :=
  ⟨.nil, by simp, by rw [h]; exact .nil⟩

/-- Only the functions of a band and their ellipses matter. -/
theorem Recorded.of_eq (h : Recorded band d) (hfunctions : band'.functions = band.functions)
    (hnodes : nodesIn [functionFamily] d'.canvas.elements =
      nodesIn [functionFamily] d.canvas.elements) : Recorded band' d' := by
  constructor
  · rw [hfunctions]
    exact h.keys_nodup
  · rw [hfunctions]
    exact h.keys_eq
  · rw [hfunctions, hnodes]
    exact h.nodes

/-- What drawing some function terms with the trees around them adds to a band: each term has a node
with an arrow into its operator, and all arrows lead into operators. -/
structure Grows (operands : List FunctionOperand) (band : NumericBand α) (d : Drawing α)
    (band' : NumericBand α) (d' : Drawing α) : Prop where
  draws : ∃ nodes asked, Draws nodeFamilies nodes asked d d' ∧
    ∀ p, asked p → ∃ o ∈ nodesIn [operatorFamily] d'.canvas.elements, p.2 = o.box.id
  functions : ∃ new, band'.functions = band.functions ++ new ∧
    ∀ known ∈ new, ∃ t ∈ operands, known.term = t.term
  shown : ∀ t ∈ operands, ∃ known ∈ band'.functions, known.key = termKey t.term ∧
    ∃ o ∈ nodesIn [operatorFamily] d'.canvas.elements, o.text = t.operator ∧
      (known.box.id, o.box.id) ∈ d'.canvas.connected

/-- A drawing that leaves the functions of a band alone. -/
theorem Grows.of_draws {nodes : List (Node α)} {asked : String × String → Prop}
    (h : Draws nodeFamilies nodes asked d d')
    (hasked : ∀ p, asked p → ∃ o ∈ nodesIn [operatorFamily] d'.canvas.elements, p.2 = o.box.id)
    (hfunctions : band'.functions = band.functions) : Grows [] band d band' d' :=
  ⟨⟨nodes, asked, h, hasked⟩, ⟨[], by simp [hfunctions]⟩, by simp⟩

/-- Two drawings in turn. -/
theorem Grows.trans (h : Grows operands band d band' d')
    (h' : Grows operands' band' d' band'' d'') :
    Grows (operands ++ operands') band d band'' d'' := by
  obtain ⟨nodes, asked, hdraws, hasked⟩ := h.draws
  obtain ⟨nodes', asked', hdraws', hasked'⟩ := h'.draws
  obtain ⟨new, hnew, hterms⟩ := h.functions
  obtain ⟨new', hnew', hterms'⟩ := h'.functions
  refine ⟨⟨_, _, hdraws.trans hdraws', ?_⟩, ⟨new ++ new', ?_, ?_⟩, ?_⟩
  · rintro p (hp | hp)
    · obtain ⟨o, ho, hid⟩ := hasked p hp
      exact ⟨o, hdraws'.mem_nodesIn ho, hid⟩
    · exact hasked' p hp
  · rw [hnew', hnew, List.append_assoc]
  · intro known hknown
    rcases List.mem_append.mp hknown with hknown | hknown
    · obtain ⟨t, ht, heq⟩ := hterms known hknown
      exact ⟨t, List.mem_append_left _ ht, heq⟩
    · obtain ⟨t, ht, heq⟩ := hterms' known hknown
      exact ⟨t, List.mem_append_right _ ht, heq⟩
  · intro t ht
    rcases List.mem_append.mp ht with ht | ht
    · obtain ⟨known, hknown, hkey, o, ho, htext, hconnected⟩ := h.shown t ht
      refine ⟨known, ?_, hkey, o, hdraws'.mem_nodesIn ho, htext, hdraws'.mem_connected hconnected⟩
      rw [hnew']
      exact List.mem_append_left _ hknown
    · exact h'.shown t ht

/-- The nodes of operators stay. -/
theorem Grows.mem_nodesIn (h : Grows operands band d band' d') {families : List Family}
    {n : Node α} (hn : n ∈ nodesIn families d.canvas.elements) :
    n ∈ nodesIn families d'.canvas.elements := by
  obtain ⟨nodes, asked, hdraws, -⟩ := h.draws
  exact hdraws.mem_nodesIn hn

/-- Drawing an arrow asks for it. -/
theorem numericEdge_draws {families : List Family} {source target : Box α} {u : Unit}
    (hdraw : frame.numericEdge source target d = .ok (u, d')) :
    Draws families [] (· = (source.id, target.id)) d d' := by
  obtain ⟨n, d₁, hticket, hdraw⟩ := Draw.bind_ok_iff.mp hdraw
  obtain ⟨group, d₂, hgroup, hedge⟩ := Draw.bind_ok_iff.mp hdraw
  obtain ⟨rfl, rfl⟩ := Draw.group_ok_iff.mp hgroup
  refine ((Draw.ticket_draws hticket).trans (Draw.edge_draws hedge)).congr fun p => ?_
  simp [arrowsOf, noArrow]

variable [Add α] [Mul α] [LT α] [DecidableLT α] [Scalar α]

/-- Drawing a node in the next cell. -/
theorem node_draws {text id counter role : String} {f : Family}
    (hdraw : frame.node band text id counter role d = .ok ((box, band'), d'))
    (hnames : ∀ n : Nat, Names d.canvas.group f n (sanitize (id ++ "-" ++ toString n))) :
    (∃ n : Node α, n.box = box ∧ DrawsNode f text .ellipse d d' n) ∧
      band'.functions = band.functions := by
  obtain ⟨k, d₁, hticket, hellipse, rfl⟩ := node_ok hdraw
  have hcanvas := Draw.canvas_eq_of_ticket hticket
  obtain ⟨n, hbox, hn⟩ := Draw.ellipse_draws hellipse (by rw [hcanvas]; exact hnames k)
  exact ⟨⟨n, hbox, ((Draw.ticket_draws hticket).trans hn.draws).congr (by simp [arrowsOf, noArrow]),
    hn.text_eq, hn.shape_eq⟩, rfl⟩

/-- Drawing the node of an operator. -/
theorem operatorNode_draws {text suffix role : String}
    (hdraw : frame.operatorNode band text suffix role d = .ok ((box, band'), d')) :
    (∃ n : Node α, n.box = box ∧ DrawsNode operatorFamily text .ellipse d d' n) ∧
      band'.functions = band.functions := by
  obtain ⟨group, d₁, hgroup, hnode⟩ := Draw.bind_ok_iff.mp hdraw
  obtain ⟨rfl, rfl⟩ := Draw.group_ok_iff.mp hgroup
  exact node_draws hnode fun n => Names.trailing _ (by decide) (by decide) suffix n

/-- Drawing the node of a literal. -/
theorem literalNode_draws {text suffix : String}
    (hdraw : frame.literalNode band text suffix d = .ok ((box, band'), d')) :
    (∃ n : Node α, n.box = box ∧ DrawsNode literalFamily text .ellipse d d' n) ∧
      band'.functions = band.functions := by
  obtain ⟨group, d₁, hgroup, hnode⟩ := Draw.bind_ok_iff.mp hdraw
  obtain ⟨rfl, rfl⟩ := Draw.group_ok_iff.mp hgroup
  exact node_draws hnode fun n => Names.trailing _ (by decide) (by decide) suffix n

/-- Drawing the node of a function, or finding it. -/
theorem functionNode_draws {name : String} {arguments : List Formula}
    (hdraw : frame.functionNode band name arguments d = .ok ((box, band'), d'))
    (hband : Recorded band d) :
    Recorded band' d' ∧ (∃ nodes, Draws [functionFamily] nodes noArrow d d') ∧
      (∃ new, band'.functions = band.functions ++ new ∧
        ∀ known ∈ new, known.term = ⟨name, arguments⟩) ∧
      ∃ known ∈ band'.functions, known.box = box ∧ known.key = termKey ⟨name, arguments⟩ := by
  cases functionNode_ok hdraw with
  | @found known hfind =>
    have hkey : known.key = functionKey name arguments := by simpa using List.find?_some hfind
    exact ⟨hband, ⟨[], .refl d⟩, ⟨[], by simp⟩, known, List.mem_of_find?_eq_some hfind, rfl, hkey⟩
  | drawn hfind hnode =>
    obtain ⟨⟨n, rfl, hn⟩, hfunctions⟩ := node_draws (f := functionFamily) hnode
      fun k => Names.trailing _ (by decide) (by decide) (functionKey name arguments) k
    rw [hfunctions]
    refine ⟨⟨?_, ?_, ?_⟩, ⟨[n], hn.draws⟩, ⟨_, rfl, by simp [FunctionNode.term]⟩, _,
      List.mem_append_right _ List.mem_cons_self, rfl, rfl⟩
    · -- the key was not known
      rw [List.map_append, List.map_singleton, ← List.concat_eq_append]
      refine hband.keys_nodup.concat fun hmem => ?_
      obtain ⟨known, hknown, hkey⟩ := List.mem_map.mp hmem
      have hnew := List.find?_eq_none.mp hfind known hknown
      exact hnew (by simpa using hkey)
    · intro known hknown
      rcases List.mem_append.mp hknown with hknown | hknown
      · exact hband.keys_eq known hknown
      · rw [List.mem_singleton.mp hknown]
        rfl
    · rw [hn.draws.nodesIn_append (List.Subset.refl _)]
      exact List.rel_append hband.nodes (.cons ⟨rfl, hn.shape_eq, hn.text_eq⟩ .nil)

/-- Drawing an operator keeps the functions of the band. -/
theorem grows_operatorNode {text suffix role : String}
    (hdraw : frame.operatorNode band text suffix role d = .ok ((box, band'), d'))
    (hband : Recorded band d) :
    Grows [] band d band' d' ∧ Recorded band' d' ∧
      ∃ n ∈ nodesIn [operatorFamily] d'.canvas.elements, n.box = box ∧ n.text = text := by
  obtain ⟨⟨n, hbox, hn⟩, hfunctions⟩ := operatorNode_draws hdraw
  have hdraws : Draws nodeFamilies [n] noArrow d d' := hn.draws.mono (by simp [nodeFamilies])
  exact ⟨.of_draws hdraws (by simp [noArrow]) hfunctions,
    hband.of_eq hfunctions (hn.draws.nodesIn_eq (by decide +kernel)),
    n, hn.mem_nodesIn, hbox, hn.text_eq⟩

omit [Add α] [Mul α] [LT α] [DecidableLT α] [Scalar α] in
/-- Drawing an arrow into an operator keeps the functions of the band. -/
theorem grows_numericEdge {source : Box α} {parent : Node α} {u : Unit}
    (hdraw : frame.numericEdge source parent.box d = .ok (u, d')) (hband : Recorded band d)
    (hparent : parent ∈ nodesIn [operatorFamily] d.canvas.elements) :
    Grows [] band d band d' ∧ Recorded band d' ∧
      (source.id, parent.box.id) ∈ d'.canvas.connected := by
  have hedge : Draws [] [] (· = (source.id, parent.box.id)) d d' := numericEdge_draws hdraw
  have hdraws : Draws nodeFamilies [] (· = (source.id, parent.box.id)) d d' :=
    hedge.mono (List.nil_subset _)
  refine ⟨.of_draws hdraws ?_ rfl, hband.of_eq rfl (hedge.nodesIn_eq (by simp)),
    (hdraws.connected_iff _).mpr (.inr rfl)⟩
  rintro p rfl
  exact ⟨parent, hdraws.mem_nodesIn hparent, rfl⟩

/-- Drawing a literal with an arrow into the operator above it. -/
theorem grows_literal {parent : Node α} {text suffix : String}
    (hdraw : (do
      let (box, band₁) ← frame.literalNode band text suffix
      frame.numericEdge box parent.box
      return band₁ : Draw α (NumericBand α)) d = .ok (band', d'))
    (hband : Recorded band d) (hparent : parent ∈ nodesIn [operatorFamily] d.canvas.elements) :
    Grows [] band d band' d' ∧ Recorded band' d' := by
  obtain ⟨⟨box, band₁⟩, d₁, hnode, hdraw⟩ := Draw.bind_ok_iff.mp hdraw
  obtain ⟨u, d₂, hedge, hdraw⟩ := Draw.bind_ok_iff.mp hdraw
  obtain ⟨rfl, rfl⟩ := Draw.pure_ok_iff.mp hdraw
  obtain ⟨⟨n, -, hn⟩, hfunctions⟩ := literalNode_draws hnode
  have hdraws : Draws nodeFamilies [n] noArrow d d₁ := hn.draws.mono (by simp [nodeFamilies])
  have hband₁ := hband.of_eq hfunctions (hn.draws.nodesIn_eq (by decide +kernel))
  obtain ⟨hgrows, hband', -⟩ := grows_numericEdge hedge hband₁ (hn.draws.mem_nodesIn hparent)
  exact ⟨(Grows.of_draws hdraws (by simp [noArrow]) hfunctions).trans hgrows, hband'⟩

/-- Drawing an operator among operands, with whatever is drawn below it. -/
theorem grows_inner {parent : Node α} {suffix role : String} {f : Formula}
    {below : Box α × NumericBand α → Draw α (NumericBand α)}
    (hdraw : (frame.innerNode parent.box suffix band f role >>= below) d = .ok (band', d'))
    (hband : Recorded band d) (hparent : parent ∈ nodesIn [operatorFamily] d.canvas.elements)
    (hbelow : ∀ {n : Node α} {band₁ d₁}, below (n.box, band₁) d₁ = .ok (band', d') →
      Recorded band₁ d₁ → n ∈ nodesIn [operatorFamily] d₁.canvas.elements → n.text = f.sign →
      Grows operands band₁ d₁ band' d' ∧ Recorded band' d') :
    Grows operands band d band' d' ∧ Recorded band' d' := by
  obtain ⟨⟨box, band₁⟩, d₁, hinner, hrest⟩ := Draw.bind_ok_iff.mp hdraw
  obtain ⟨d₂, hnode, hedge⟩ := innerNode_ok hinner
  obtain ⟨hgrows, hband₂, n, hn, rfl, htext⟩ := grows_operatorNode hnode hband
  obtain ⟨hgrows₁, hband₁, -⟩ := grows_numericEdge hedge hband₂ (hgrows.mem_nodesIn hparent)
  obtain ⟨hgrows', hband'⟩ := hbelow hrest hband₁ (hgrows₁.mem_nodesIn hn) htext
  exact ⟨(hgrows.trans hgrows₁).trans hgrows', hband'⟩

mutual

/-- Drawing an operand. -/
theorem drawOperand_grows {parent : Node α} {suffix : String} {band band' : NumericBand α}
    {d d' : Drawing α} {operator : String} (f : Formula)
    (hdraw : frame.drawOperand parent.box suffix band f d = .ok (band', d'))
    (hband : Recorded band d) (hparent : parent ∈ nodesIn [operatorFamily] d.canvas.elements)
    (htext : parent.text = operator) :
    Grows (f.functionOperands operator) band d band' d' ∧ Recorded band' d' := by
  match f with
  | .parameter name type =>
    cases hanchor : frame.anchors.lookup name with
    | some anchor =>
      simp only [drawOperand, hanchor] at hdraw
      obtain ⟨u, d₁, hedge, hdraw⟩ := Draw.bind_ok_iff.mp hdraw
      obtain ⟨rfl, rfl⟩ := Draw.pure_ok_iff.mp hdraw
      obtain ⟨hgrows, hband', -⟩ := grows_numericEdge hedge hband hparent
      exact ⟨hgrows, hband'⟩
    | none =>
      simp only [drawOperand, hanchor] at hdraw
      exact grows_literal hdraw hband hparent
  | .number value => exact grows_literal hdraw hband hparent
  | .function name arguments =>
    obtain ⟨⟨box, band₁⟩, d₁, hfunction, hdraw⟩ := Draw.bind_ok_iff.mp hdraw
    obtain ⟨u, d₂, hedge, hdraw⟩ := Draw.bind_ok_iff.mp hdraw
    obtain ⟨rfl, rfl⟩ := Draw.pure_ok_iff.mp hdraw
    obtain ⟨hband₁, ⟨nodes, hdraws⟩, hnew, known, hknown, rfl, hkey⟩ :=
      functionNode_draws hfunction hband
    obtain ⟨hgrows, hband', hconnected⟩ :=
      grows_numericEdge hedge hband₁ (hdraws.mem_nodesIn hparent)
    obtain ⟨nodes', asked, hdraws', hasked⟩ := hgrows.draws
    have hdraws₁ : Draws nodeFamilies nodes noArrow d d₁ := hdraws.mono (by simp [nodeFamilies])
    refine ⟨⟨⟨_, _, hdraws₁.trans hdraws', ?_⟩, ?_, ?_⟩, hband'⟩
    · exact fun p hp => hp.elim False.elim (hasked p)
    · obtain ⟨new, hfunctions, hterms⟩ := hnew
      exact ⟨new, hfunctions, fun known hknown =>
        ⟨_, List.mem_singleton_self _, hterms known hknown⟩⟩
    · intro t ht
      rw [List.mem_singleton.mp ht]
      exact ⟨known, hknown, hkey, parent, hgrows.mem_nodesIn (hdraws.mem_nodesIn hparent), htext,
        hconnected⟩
  | .predicate name arguments =>
    exact grows_inner hdraw hband hparent (drawOperands_grows arguments)
  | .negation argument =>
    exact grows_inner hdraw hband hparent (drawOperand_grows argument)
  | .numeric change arguments =>
    exact grows_inner hdraw hband hparent (drawOperands_grows arguments)
  | .comparison op arguments =>
    exact grows_inner hdraw hband hparent (drawOperands_grows arguments)
  | .arithmetic op arguments =>
    exact grows_inner hdraw hband hparent (drawOperands_grows arguments)
  | .composite op items bound =>
    exact grows_inner hdraw hband hparent (drawOperands_grows items)

/-- Drawing the operands of an operator. -/
theorem drawOperands_grows {parent : Node α} {suffix : String} {place : Nat}
    {band band' : NumericBand α} {d d' : Drawing α} {operator : String} (fs : List Formula)
    (hdraw : frame.drawOperands parent.box suffix place band fs d = .ok (band', d'))
    (hband : Recorded band d) (hparent : parent ∈ nodesIn [operatorFamily] d.canvas.elements)
    (htext : parent.text = operator) :
    Grows (Formula.functionOperandsOfEach operator fs) band d band' d' ∧ Recorded band' d' := by
  match fs with
  | [] =>
    obtain ⟨rfl, rfl⟩ := Draw.pure_ok_iff.mp hdraw
    exact ⟨.of_draws (.refl d) (by simp [noArrow]) rfl, hband⟩
  | f :: rest =>
    obtain ⟨band₁, d₁, hfirst, hrest⟩ := Draw.bind_ok_iff.mp hdraw
    obtain ⟨hgrows, hband₁⟩ := drawOperand_grows f hfirst hband hparent htext
    obtain ⟨hgrows', hband'⟩ :=
      drawOperands_grows rest hrest hband₁ (hgrows.mem_nodesIn hparent) htext
    exact ⟨hgrows.trans hgrows', hband'⟩

end

/-- Drawing the operator of an effect or comparison with everything below it. -/
theorem grows_tree {text suffix role suffix' : String} {place : Nat} {arguments : List Formula}
    {band₁ : NumericBand α} {d₁ : Drawing α}
    (hnode : frame.operatorNode band text suffix role d = .ok ((box, band₁), d₁))
    (hoperands : frame.drawOperands box suffix' place band₁ arguments d₁ = .ok (band', d'))
    (hband : Recorded band d) :
    Grows (Formula.functionOperandsOfEach text arguments) band d band' d' ∧ Recorded band' d' := by
  obtain ⟨hgrows, hband₁, n, hn, rfl, htext⟩ := grows_operatorNode hnode hband
  obtain ⟨hgrows', hband'⟩ := drawOperands_grows arguments hoperands hband₁ hn htext
  exact ⟨hgrows.trans hgrows', hband'⟩

/-- Drawing numeric effects. -/
theorem drawChanges_grows {uses : List ChangeUse} {index : Nat}
    (hdraw : frame.drawChanges index band uses d = .ok (band', d')) (hband : Recorded band d) :
    Grows (uses.flatMap ChangeUse.functionOperands) band d band' d' ∧ Recorded band' d' := by
  induction uses generalizing band d index with
  | nil =>
    obtain ⟨rfl, rfl⟩ := Draw.pure_ok_iff.mp hdraw
    exact ⟨.of_draws (.refl d) (by simp [noArrow]) rfl, hband⟩
  | cons use rest ih =>
    obtain ⟨⟨box, band₁⟩, d₁, hnode, hdraw⟩ := Draw.bind_ok_iff.mp hdraw
    obtain ⟨band₂, d₂, hoperands, hrest⟩ := Draw.bind_ok_iff.mp hdraw
    obtain ⟨hgrows, hband₂⟩ := grows_tree hnode hoperands hband
    obtain ⟨hgrows', hband'⟩ := ih hrest hband₂
    exact ⟨hgrows.trans hgrows', hband'⟩

/-- Drawing comparisons. -/
theorem drawComparisons_grows {uses : List ComparisonUse} {index : Nat}
    (hdraw : frame.drawComparisons index band uses d = .ok (band', d'))
    (hband : Recorded band d) :
    Grows (uses.flatMap ComparisonUse.functionOperands) band d band' d' ∧ Recorded band' d' := by
  induction uses generalizing band d index with
  | nil =>
    obtain ⟨rfl, rfl⟩ := Draw.pure_ok_iff.mp hdraw
    exact ⟨.of_draws (.refl d) (by simp [noArrow]) rfl, hband⟩
  | cons use rest ih =>
    obtain ⟨⟨box, band₁⟩, d₁, hnode, hdraw⟩ := Draw.bind_ok_iff.mp hdraw
    obtain ⟨band₂, d₂, hoperands, hrest⟩ := Draw.bind_ok_iff.mp hdraw
    obtain ⟨hgrows, hband₂⟩ := grows_tree hnode hoperands hband
    obtain ⟨hgrows', hband'⟩ := ih hrest hband₂
    exact ⟨hgrows.trans hgrows', hband'⟩

end NumericFrame

end Diagram

end PlanDiagram
