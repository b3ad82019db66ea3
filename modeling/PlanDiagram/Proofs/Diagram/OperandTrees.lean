import PlanDiagram.Proofs.Diagram.Cells
import PlanDiagram.Proofs.Diagram.FunctionTerms
import PlanDiagram.Proofs.Diagram.Stages

/-!
# Operand trees of a numeric band

The numeric band of an action mirrors the trees of its operations: an operator for each numeric
effect and each comparison among the preconditions, and below it a node for each operand with an
arrow into the operator. Main statement: this holds for whatever is drawn for an action, the band
has no other ellipses, and in the order in which they are drawn its ellipses fill a grid row by row.

The walk over a tree cannot name the nodes that represent its operands in the end, since a function
may have been drawn before and a parameter is drawn elsewhere. So a drawing is described by the
nodes that it adds, together with the trees that any surroundings make of them which know what has
been drawn.
-/

namespace PlanDiagram

namespace Formula

/-- Tells whether a formula stands as an operator over operands of its own. -/
def isOperator : Formula → Bool
  | .parameter .. => false
  | .number _ => false
  | .function .. => false
  | _ => true

end Formula

/-- The operations in the numeric band of an action, each with the text on its operator and its
operands: the numeric effects, and then the comparisons among the preconditions. -/
def Action.operations (action : Action) : List (String × List Formula) :=
  ((action.found .effect).changes.map fun use =>
      (Diagram.NumericFrame.changeText use, use.arguments)) ++
    (action.found .precondition).comparisons.map fun use =>
      (Formula.literalLabel use.sign use.negated, use.arguments)

namespace Diagram

/-- The nodes that represent an operand and everything below it. A function may have been drawn for
an earlier operand. -/
inductive OperandTree (α : Type) where
  | parameter (node : Node α)
  | literal (node : Node α)
  | function (node : Node α) (isNew : Bool)
  | operator (node : Node α) (operands : List (OperandTree α))

namespace OperandTree

variable {α : Type}

/-- The node that represents the operand itself. -/
def node : OperandTree α → Node α
  | parameter n => n
  | literal n => n
  | function n _ => n
  | operator n _ => n

mutual

/-- The ellipses that are drawn for an operand, in order. -/
def drawn : OperandTree α → List (Node α)
  | parameter _ => []
  | literal n => [n]
  | function n isNew => if isNew then [n] else []
  | operator n operands => n :: drawnForEach operands

/-- The ellipses that are drawn for several operands, in order. -/
def drawnForEach : List (OperandTree α) → List (Node α)
  | [] => []
  | tree :: rest => tree.drawn ++ drawnForEach rest

end

/-- The ellipses that are drawn for one operand. -/
theorem drawnForEach_singleton (tree : OperandTree α) : drawnForEach [tree] = tree.drawn :=
  List.append_nil _

/-- The ellipses that are drawn for some operands, and then for others. -/
theorem drawnForEach_append (first next : List (OperandTree α)) :
    drawnForEach (first ++ next) = drawnForEach first ++ drawnForEach next := by
  induction first with
  | nil => rfl
  | cons tree rest ih => rw [List.cons_append, drawnForEach, drawnForEach, ih, List.append_assoc]

end OperandTree

/-- Where operands find the nodes that represent them: the rectangles of parameters by name, the
ellipses of function terms, and the elements of the block. -/
structure Surroundings (α : Type) where
  rectangle? : String → Option (Node α)
  ellipse? : FunctionTerm → Option (Node α)
  elements : List (Element α)

section

open NumericFrame (literalFamily operatorFamily)

variable {α : Type}

mutual

/-- A formula that stands as an operand is represented by the nodes of a tree. -/
inductive ShowsOperand (s : Surroundings α) : Formula → OperandTree α → Prop
  /-- The name of a parameter is represented by its rectangle. -/
  | parameter {name : String} {type : Value} {n : Node α} (h : s.rectangle? name = some n) :
      ShowsOperand s (.parameter name type) (.parameter n)
  /-- Any other name is represented by an ellipse. -/
  | name {name : String} {type : Value} {n : Node α} (h : s.rectangle? name = none)
      (mem : n ∈ nodesIn [literalFamily] s.elements)
      (text_eq : n.text = Formula.parameterLabel name type) :
      ShowsOperand s (.parameter name type) (.literal n)
  /-- A number is represented by an ellipse. -/
  | number {value : Float} {n : Node α} (mem : n ∈ nodesIn [literalFamily] s.elements)
      (text_eq : n.text = Number.label value) : ShowsOperand s (.number value) (.literal n)
  /-- A function term is represented by its ellipse, whether that is new or not. -/
  | function {name : String} {arguments : List Formula} {n : Node α} {isNew : Bool}
      (h : s.ellipse? ⟨name, arguments⟩ = some n) :
      ShowsOperand s (.function name arguments) (.function n isNew)
  /-- Any other formula is represented by an operator over its operands. -/
  | operator {f : Formula} {n : Node α} {operands : List (OperandTree α)}
      (isOperator : f.isOperator = true)
      (shows : ShowsOperator s f.sign f.operands n operands) :
      ShowsOperand s f (.operator n operands)

/-- An operator with a text is represented by a node, and its operands by trees with arrows into the
node. -/
inductive ShowsOperator (s : Surroundings α) :
    String → List Formula → Node α → List (OperandTree α) → Prop
  | intro {text : String} {fs : List Formula} {n : Node α} {operands : List (OperandTree α)}
      (mem : n ∈ nodesIn [operatorFamily] s.elements) (text_eq : n.text = text)
      (shows : List.Forall₂ (ShowsOperand s) fs operands)
      (arrows : ∀ tree ∈ operands, (tree.node.box.id, n.box.id) ∈ connections s.elements) :
      ShowsOperator s text fs n operands

end

/-- An operation of a numeric band is represented by the nodes of a tree. -/
inductive ShowsOperation (s : Surroundings α) : String × List Formula → OperandTree α → Prop
  | intro {operation : String × List Formula} {n : Node α} {operands : List (OperandTree α)}
      (shows : ShowsOperator s operation.1 operation.2 n operands) :
      ShowsOperation s operation (.operator n operands)

/-- A formula is represented by a tree with an arrow into the node of an operator. -/
structure ShowsOperandOf (parent : Node α) (s : Surroundings α) (f : Formula)
    (tree : OperandTree α) : Prop where
  shows : ShowsOperand s f tree
  arrow : (tree.node.box.id, parent.box.id) ∈ connections s.elements

/-- Operands with arrows into a node make it their operator. -/
theorem ShowsOperator.of_forall₂ {s : Surroundings α} {text : String} {fs : List Formula}
    {n : Node α} {operands : List (OperandTree α)}
    (mem : n ∈ nodesIn [operatorFamily] s.elements) (text_eq : n.text = text)
    (h : List.Forall₂ (ShowsOperandOf n s) fs operands) :
    ShowsOperator s text fs n operands := by
  refine .intro mem text_eq (h.imp fun _ _ hshows => hshows.shows) fun tree htree => ?_
  obtain ⟨f, -, hshows⟩ := exists_of_mem_right h htree
  exact hshows.arrow

end

/-- Surroundings know the parameters of a band and what has been drawn in it. -/
structure Surroundings.Know {α : Type} (s : Surroundings α) (frame : NumericFrame α)
    (band : NumericBand α) (d : Drawing α) : Prop where
  ids_nodup : (nodeIds s.elements).Nodup
  rectangle?_eq : ∀ name, (s.rectangle? name).map Node.box = frame.anchors.lookup name
  ellipse? : ∀ known ∈ band.functions, ∀ t, NumericFrame.termKey t = known.key →
    ∃ e ∈ nodesOf s.elements, s.ellipse? t = some e ∧ e.box = known.box
  nodes : ∀ n ∈ nodesOf d.canvas.elements, n ∈ nodesOf s.elements
  arrows : ∀ p ∈ d.canvas.connected, p ∈ connections s.elements

namespace NumericFrame

variable {α γ : Type} {frame : NumericFrame α} {band band' band'' : NumericBand α}
  {d d' d'' : Drawing α} {s : Surroundings α}

/-- What is known later is known now. -/
theorem know_of_grows {operands : List FunctionOperand} (h : s.Know frame band' d')
    (hgrows : Grows operands band d band' d') : s.Know frame band d := by
  obtain ⟨nodes, asked, hdraws, -⟩ := hgrows.draws
  obtain ⟨new, hnew, -⟩ := hgrows.functions
  refine ⟨h.ids_nodup, h.rectangle?_eq, fun known hknown => h.ellipse? known ?_,
    fun n hn => h.nodes n ?_, fun p hp => h.arrows p (hdraws.mem_connected hp)⟩
  · rw [hnew]
    exact List.mem_append_left _ hknown
  · rw [hdraws.nodes_eq]
    exact List.mem_append_left _ hn

/-- A node of a family that has been drawn is one of the surroundings. -/
theorem mem_nodesIn_of_know {families : List Family} {n : Node α} (h : s.Know frame band d)
    (hn : n ∈ nodesIn families d.canvas.elements) : n ∈ nodesIn families s.elements :=
  List.mem_filter.mpr ((List.mem_filter.mp hn).imp_left (h.nodes n))

variable [Add α] [Mul α] [LT α] [DecidableLT α] [Scalar α]

/-- The cells of a band. -/
def grid (frame : NumericFrame α) : Grid α :=
  ellipseGrid frame.cfg frame.left frame.top frame.cfg.actionColumns

/-- Drawing represents some things by trees: it fills the next cells of the band with the nodes that
surroundings find in trees for the things. -/
def Plants (frame : NumericFrame α) (shows : Surroundings α → γ → OperandTree α → Prop)
    (xs : List γ) (band : NumericBand α) (d : Drawing α) (band' : NumericBand α) (d' : Drawing α) :
    Prop :=
  ∃ nodes, frame.grid.Fills band.placed band'.placed nodes d d' ∧
    ∀ s : Surroundings α, s.Know frame band' d' →
      ∃ trees, OperandTree.drawnForEach trees = nodes ∧ List.Forall₂ (shows s) xs trees

namespace Plants

variable {shows : Surroundings α → γ → OperandTree α → Prop} {xs ys : List γ}

/-- Nothing is represented by no trees. -/
theorem nil (frame : NumericFrame α) (shows : Surroundings α → γ → OperandTree α → Prop)
    (band : NumericBand α) (d : Drawing α) : Plants frame shows [] band d band d :=
  ⟨[], .refl d, fun _ _ => ⟨[], rfl, .nil⟩⟩

/-- A thing is represented by a tree. -/
theorem singleton {x : γ} {nodes : List (Node α)}
    (h : frame.grid.Fills band.placed band'.placed nodes d d')
    (hshows : ∀ s : Surroundings α, s.Know frame band' d' →
      ∃ tree, tree.drawn = nodes ∧ shows s x tree) : Plants frame shows [x] band d band' d' := by
  refine ⟨nodes, h, fun s hs => ?_⟩
  obtain ⟨tree, hdrawn, htree⟩ := hshows s hs
  exact ⟨[tree], by rw [OperandTree.drawnForEach_singleton, hdrawn], .cons htree .nil⟩

/-- Some things are represented, and then some others. -/
theorem append {operands : List FunctionOperand} (h : Plants frame shows xs band d band' d')
    (h' : Plants frame shows ys band' d' band'' d'')
    (hgrows : Grows operands band' d' band'' d'') :
    Plants frame shows (xs ++ ys) band d band'' d'' := by
  obtain ⟨nodes, hfills, htrees⟩ := h
  obtain ⟨nodes', hfills', htrees'⟩ := h'
  refine ⟨nodes ++ nodes', hfills.trans hfills', fun s hs => ?_⟩
  obtain ⟨trees, hdrawn, hshows⟩ := htrees s (know_of_grows hs hgrows)
  obtain ⟨trees', hdrawn', hshows'⟩ := htrees' s hs
  exact ⟨trees ++ trees', by rw [OperandTree.drawnForEach_append, hdrawn, hdrawn'],
    List.rel_append hshows hshows'⟩

end Plants

/-- A node fills the next cell of the band. -/
theorem node_fills {text id counter role : String} {box : Box α}
    (hdraw : frame.node band text id counter role d = .ok ((box, band'), d')) :
    ∃ n : Node α, n.box = box ∧ frame.grid.Fills band.placed band'.placed [n] d d' := by
  obtain ⟨k, d₁, hticket, hellipse, rfl⟩ := node_ok hdraw
  obtain ⟨n, hbox, hn⟩ := Draw.ellipse_fills hellipse
  exact ⟨n, hbox, hn.after (Draw.ticket_adds hticket)⟩

/-- The node that has been drawn fills the next cell. -/
theorem fills_of_drawsNode {n n' : Node α} {f : Family} {text : String}
    (hn : frame.grid.Fills band.placed band'.placed [n] d d')
    (h : DrawsNode f text .ellipse d d' n') :
    frame.grid.Fills band.placed band'.placed [n'] d d' := by
  rwa [hn.adds.eq_of_draws h.draws] at hn

/-- Drawing an operator fills the next cell of the band. -/
theorem operatorNode_fills {text suffix role : String} {box : Box α}
    (hdraw : frame.operatorNode band text suffix role d = .ok ((box, band'), d'))
    (hband : Recorded band d) :
    ∃ n : Node α, n.box = box ∧ n.text = text ∧
      n ∈ nodesIn [operatorFamily] d'.canvas.elements ∧
      frame.grid.Fills band.placed band'.placed [n] d d' ∧
      Grows [] band d band' d' ∧ Recorded band' d' := by
  obtain ⟨⟨n, hbox, hn⟩, -⟩ := operatorNode_draws hdraw
  obtain ⟨hgrows, hband', -⟩ := grows_operatorNode hdraw hband
  obtain ⟨group, d₁, hgroup, hnode⟩ := Draw.bind_ok_iff.mp hdraw
  obtain ⟨-, rfl⟩ := Draw.group_ok_iff.mp hgroup
  obtain ⟨m, -, hm⟩ := node_fills hnode
  exact ⟨n, hbox, hn.text_eq, hn.mem_nodesIn, fills_of_drawsNode hm hn, hgrows, hband'⟩

omit [Mul α] [Scalar α] in
/-- Drawing an arrow adds no node. -/
theorem numericEdge_adds {source target : Box α} {u : Unit}
    (hdraw : frame.numericEdge source target d = .ok (u, d')) : Adds [] d d' := by
  obtain ⟨n, d₁, hticket, hdraw⟩ := Draw.bind_ok_iff.mp hdraw
  obtain ⟨group, d₂, hgroup, hedge⟩ := Draw.bind_ok_iff.mp hdraw
  obtain ⟨-, rfl⟩ := Draw.group_ok_iff.mp hgroup
  exact (Draw.ticket_adds hticket).trans (Draw.edge_adds hedge)

/-- Drawing the node of a function, or finding it, fills the next cell or none. -/
theorem functionNode_fills {name : String} {arguments : List Formula} {box : Box α}
    (hdraw : frame.functionNode band name arguments d = .ok ((box, band'), d')) :
    ∃ nodes, frame.grid.Fills band.placed band'.placed nodes d d' ∧
      (nodes = [] ∨ ∃ n : Node α, nodes = [n] ∧ n.box = box) := by
  cases functionNode_ok hdraw with
  | found hfind => exact ⟨[], .refl d, .inl rfl⟩
  | drawn hfind hnode =>
    obtain ⟨n, hbox, hn⟩ := node_fills hnode
    exact ⟨[n], hn, .inr ⟨n, rfl, hbox⟩⟩

/-- An operand that is represented by its ellipse, which has an arrow into the operator. -/
theorem literal_plants {parent : Node α} {text suffix : String} {f : Formula}
    (hdraw : (do
      let (box, band₁) ← frame.literalNode band text suffix
      frame.numericEdge box parent.box
      return band₁ : Draw α (NumericBand α)) d = .ok (band', d'))
    (hband : Recorded band d) (hparent : parent ∈ nodesIn [operatorFamily] d.canvas.elements)
    (hshows : ∀ s : Surroundings α, s.Know frame band' d' → ∀ n,
      n ∈ nodesIn [literalFamily] s.elements → n.text = text → ShowsOperand s f (.literal n)) :
    Plants frame (ShowsOperandOf parent) [f] band d band' d' := by
  obtain ⟨⟨box, band₁⟩, d₁, hnode, hdraw⟩ := Draw.bind_ok_iff.mp hdraw
  obtain ⟨u, d₂, hedge, hdraw⟩ := Draw.bind_ok_iff.mp hdraw
  obtain ⟨rfl, rfl⟩ := Draw.pure_ok_iff.mp hdraw
  obtain ⟨⟨n, rfl, hn⟩, hfunctions⟩ := literalNode_draws hnode
  obtain ⟨group, d₃, hgroup, hnode⟩ := Draw.bind_ok_iff.mp hnode
  obtain ⟨-, rfl⟩ := Draw.group_ok_iff.mp hgroup
  obtain ⟨m, -, hm⟩ := node_fills hnode
  have hband₁ := hband.of_eq hfunctions (hn.draws.nodesIn_eq (by decide +kernel))
  obtain ⟨hgrows, -, harrow⟩ := grows_numericEdge hedge hband₁ (hn.draws.mem_nodesIn hparent)
  refine .singleton ((fills_of_drawsNode hm hn).before (numericEdge_adds hedge)) fun s hs => ?_
  have hmem := mem_nodesIn_of_know hs (hgrows.mem_nodesIn hn.mem_nodesIn)
  exact ⟨.literal n, rfl, hshows s hs n hmem hn.text_eq, hs.arrows _ harrow⟩

/-- An operand that is represented by an operator, over the operands that are drawn below it. -/
theorem inner_plants {parent : Node α} {suffix role : String} {f : Formula}
    {operands : List FunctionOperand} {below : Box α × NumericBand α → Draw α (NumericBand α)}
    (hdraw : (frame.innerNode parent.box suffix band f role >>= below) d = .ok (band', d'))
    (hband : Recorded band d) (hparent : parent ∈ nodesIn [operatorFamily] d.canvas.elements)
    (hf : f.isOperator = true)
    (hbelow : ∀ {n : Node α} {band₁ d₁}, below (n.box, band₁) d₁ = .ok (band', d') →
      Recorded band₁ d₁ → n ∈ nodesIn [operatorFamily] d₁.canvas.elements → n.text = f.sign →
      Plants frame (ShowsOperandOf n) f.operands band₁ d₁ band' d' ∧
        Grows operands band₁ d₁ band' d') :
    Plants frame (ShowsOperandOf parent) [f] band d band' d' := by
  obtain ⟨⟨box, band₁⟩, d₁, hinner, hrest⟩ := Draw.bind_ok_iff.mp hdraw
  obtain ⟨d₂, hnode, hedge⟩ := innerNode_ok hinner
  obtain ⟨n, rfl, htext, hn, hfills, hgrows, hband₂⟩ := operatorNode_fills hnode hband
  obtain ⟨hgrows₁, hband₁, harrow⟩ := grows_numericEdge hedge hband₂ (hgrows.mem_nodesIn hparent)
  obtain ⟨⟨nodes, hfills', htrees⟩, hgrows'⟩ :=
    hbelow hrest hband₁ (hgrows₁.mem_nodesIn hn) htext
  refine .singleton ((hfills.before (numericEdge_adds hedge)).trans hfills') fun s hs => ?_
  obtain ⟨trees, rfl, hshows⟩ := htrees s hs
  have hknow := know_of_grows hs hgrows'
  have hmem := mem_nodesIn_of_know hknow (hgrows₁.mem_nodesIn hn)
  exact ⟨.operator n trees, rfl, .operator hf (.of_forall₂ hmem htext hshows),
    hknow.arrows _ harrow⟩

mutual

/-- Drawing an operand. -/
theorem drawOperand_plants {parent : Node α} {suffix : String} {band band' : NumericBand α}
    {d d' : Drawing α} (f : Formula)
    (hdraw : frame.drawOperand parent.box suffix band f d = .ok (band', d'))
    (hband : Recorded band d) (hparent : parent ∈ nodesIn [operatorFamily] d.canvas.elements) :
    Plants frame (ShowsOperandOf parent) [f] band d band' d' := by
  match f with
  | .parameter name type =>
    cases hanchor : frame.anchors.lookup name with
    | some anchor =>
      simp only [drawOperand, hanchor] at hdraw
      obtain ⟨u, d₁, hedge, hdraw⟩ := Draw.bind_ok_iff.mp hdraw
      obtain ⟨rfl, rfl⟩ := Draw.pure_ok_iff.mp hdraw
      obtain ⟨-, -, harrow⟩ := grows_numericEdge hedge hband hparent
      refine .singleton (.of_adds (numericEdge_adds hedge)) fun s hs => ?_
      obtain ⟨n, hn, rfl⟩ := Option.map_eq_some_iff.mp ((hs.rectangle?_eq name).trans hanchor)
      exact ⟨.parameter n, rfl, .parameter hn, hs.arrows _ harrow⟩
    | none =>
      simp only [drawOperand, hanchor] at hdraw
      refine literal_plants hdraw hband hparent fun s hs n => .name ?_
      exact Option.map_eq_none_iff.mp ((hs.rectangle?_eq name).trans hanchor)
  | .number value =>
    exact literal_plants hdraw hband hparent fun s _ n => .number
  | .function name arguments =>
    obtain ⟨⟨box, band₁⟩, d₁, hfunction, hdraw⟩ := Draw.bind_ok_iff.mp hdraw
    obtain ⟨u, d₂, hedge, hdraw⟩ := Draw.bind_ok_iff.mp hdraw
    obtain ⟨rfl, rfl⟩ := Draw.pure_ok_iff.mp hdraw
    obtain ⟨nodes, hfills, hnodes⟩ := functionNode_fills hfunction
    obtain ⟨hband₁, ⟨_, hdraws⟩, -, known, hknown, rfl, hkey⟩ := functionNode_draws hfunction hband
    obtain ⟨hgrows, -, harrow⟩ := grows_numericEdge hedge hband₁ (hdraws.mem_nodesIn hparent)
    refine .singleton (hfills.before (numericEdge_adds hedge)) fun s hs => ?_
    obtain ⟨e, he, hellipse, hbox⟩ := hs.ellipse? known hknown _ hkey.symm
    rw [← hbox] at harrow
    rcases hnodes with rfl | ⟨n, rfl, hn⟩
    · exact ⟨.function e false, rfl, .function hellipse, hs.arrows _ harrow⟩
    · -- the new ellipse is the one that is found for the term
      have hmem : n ∈ nodesOf d₁.canvas.elements := by
        rw [hfills.adds.nodes_eq]
        exact List.mem_append_right _ List.mem_cons_self
      obtain rfl : n = e := node_eq_of_id_eq hs.ids_nodup
        ((know_of_grows hs hgrows).nodes n hmem) he (by rw [hn, hbox])
      exact ⟨.function n true, rfl, .function hellipse, hs.arrows _ harrow⟩
  | .predicate name arguments =>
    exact inner_plants hdraw hband hparent rfl fun hdraw hband hn htext =>
      ⟨drawOperands_plants arguments hdraw hband hn,
        (drawOperands_grows arguments hdraw hband hn htext).1⟩
  | .negation argument =>
    exact inner_plants hdraw hband hparent rfl fun hdraw hband hn htext =>
      ⟨drawOperand_plants argument hdraw hband hn,
        (drawOperand_grows argument hdraw hband hn htext).1⟩
  | .numeric change arguments =>
    exact inner_plants hdraw hband hparent rfl fun hdraw hband hn htext =>
      ⟨drawOperands_plants arguments hdraw hband hn,
        (drawOperands_grows arguments hdraw hband hn htext).1⟩
  | .comparison op arguments =>
    exact inner_plants hdraw hband hparent rfl fun hdraw hband hn htext =>
      ⟨drawOperands_plants arguments hdraw hband hn,
        (drawOperands_grows arguments hdraw hband hn htext).1⟩
  | .arithmetic op arguments =>
    exact inner_plants hdraw hband hparent rfl fun hdraw hband hn htext =>
      ⟨drawOperands_plants arguments hdraw hband hn,
        (drawOperands_grows arguments hdraw hband hn htext).1⟩
  | .composite op items bound =>
    exact inner_plants hdraw hband hparent rfl fun hdraw hband hn htext =>
      ⟨drawOperands_plants items hdraw hband hn,
        (drawOperands_grows items hdraw hband hn htext).1⟩

/-- Drawing the operands of an operator. -/
theorem drawOperands_plants {parent : Node α} {suffix : String} {place : Nat}
    {band band' : NumericBand α} {d d' : Drawing α} (fs : List Formula)
    (hdraw : frame.drawOperands parent.box suffix place band fs d = .ok (band', d'))
    (hband : Recorded band d) (hparent : parent ∈ nodesIn [operatorFamily] d.canvas.elements) :
    Plants frame (ShowsOperandOf parent) fs band d band' d' := by
  match fs with
  | [] =>
    obtain ⟨rfl, rfl⟩ := Draw.pure_ok_iff.mp hdraw
    exact .nil frame _ band d
  | f :: rest =>
    obtain ⟨band₁, d₁, hfirst, hrest⟩ := Draw.bind_ok_iff.mp hdraw
    obtain ⟨hgrows, hband₁⟩ := drawOperand_grows f hfirst hband hparent rfl
    have hparent₁ := hgrows.mem_nodesIn hparent
    obtain ⟨hgrows', -⟩ := drawOperands_grows rest hrest hband₁ hparent₁ rfl
    exact (drawOperand_plants f hfirst hband hparent).append
      (drawOperands_plants rest hrest hband₁ hparent₁) hgrows'

end

/-- Drawing the operator of an effect or comparison with everything below it. -/
theorem tree_plants {text suffix role suffix' : String} {place : Nat} {arguments : List Formula}
    {box : Box α} {band₁ : NumericBand α} {d₁ : Drawing α}
    (hnode : frame.operatorNode band text suffix role d = .ok ((box, band₁), d₁))
    (hoperands : frame.drawOperands box suffix' place band₁ arguments d₁ = .ok (band', d'))
    (hband : Recorded band d) :
    Plants frame ShowsOperation [(text, arguments)] band d band' d' := by
  obtain ⟨n, rfl, htext, hn, hfills, hgrows, hband₁⟩ := operatorNode_fills hnode hband
  obtain ⟨nodes, hfills', htrees⟩ := drawOperands_plants arguments hoperands hband₁ hn
  obtain ⟨hgrows', -⟩ := drawOperands_grows arguments hoperands hband₁ hn rfl
  refine .singleton (hfills.trans hfills') fun s hs => ?_
  obtain ⟨trees, rfl, hshows⟩ := htrees s hs
  have hmem := mem_nodesIn_of_know (know_of_grows hs hgrows') hn
  exact ⟨.operator n trees, rfl, .intro (.of_forall₂ hmem htext hshows)⟩

/-- Drawing numeric effects. -/
theorem drawChanges_plants {uses : List ChangeUse} {index : Nat}
    (hdraw : frame.drawChanges index band uses d = .ok (band', d')) (hband : Recorded band d) :
    Plants frame ShowsOperation (uses.map fun use => (changeText use, use.arguments)) band d band'
      d' := by
  induction uses generalizing band d index with
  | nil =>
    obtain ⟨rfl, rfl⟩ := Draw.pure_ok_iff.mp hdraw
    exact .nil frame _ band d
  | cons use rest ih =>
    obtain ⟨⟨box, band₁⟩, d₁, hnode, hdraw⟩ := Draw.bind_ok_iff.mp hdraw
    obtain ⟨band₂, d₂, hoperands, hrest⟩ := Draw.bind_ok_iff.mp hdraw
    obtain ⟨-, hband₂⟩ := grows_tree hnode hoperands hband
    exact (tree_plants hnode hoperands hband).append (ih hrest hband₂)
      (drawChanges_grows hrest hband₂).1

/-- Drawing comparisons. -/
theorem drawComparisons_plants {uses : List ComparisonUse} {index : Nat}
    (hdraw : frame.drawComparisons index band uses d = .ok (band', d')) (hband : Recorded band d) :
    Plants frame ShowsOperation
      (uses.map fun use => (Formula.literalLabel use.sign use.negated, use.arguments)) band d band'
      d' := by
  induction uses generalizing band d index with
  | nil =>
    obtain ⟨rfl, rfl⟩ := Draw.pure_ok_iff.mp hdraw
    exact .nil frame _ band d
  | cons use rest ih =>
    obtain ⟨⟨box, band₁⟩, d₁, hnode, hdraw⟩ := Draw.bind_ok_iff.mp hdraw
    obtain ⟨band₂, d₂, hoperands, hrest⟩ := Draw.bind_ok_iff.mp hdraw
    obtain ⟨-, hband₂⟩ := grows_tree hnode hoperands hband
    exact (tree_plants hnode hoperands hband).append (ih hrest hband₂)
      (drawComparisons_grows hrest hband₂).1

end NumericFrame

end Diagram

end PlanDiagram
