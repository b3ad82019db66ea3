import PlanDiagram.Proofs.Diagram.Exact
import PlanDiagram.Proofs.Diagram.ProblemContents
import PlanDiagram.Proofs.Diagram.Sharing

/-!
# One operator for what is shown

The comparisons among the facts or goals of a problem are drawn on ellipses of operators. Main
statement: in whatever is drawn for a problem, each comparison stands on an ellipse that shows its
sign between its literals and is connected with its other operands, and two comparisons stand on the
same ellipse exactly if they are one occurrence or show the same with a literal among it.
-/

namespace PlanDiagram.Diagram

variable {α : Type} {role : Role} {elements elements' : List (Element α)}

open ComparisonFrame (operandFamilies operatorFamily functionFamilies literalFamily)
open ProblemBlock (comparisonFamilies)

/-- The text on the node of an operand. -/
def operandText : Formula → String
  | .function name _ => name
  | f => f.label

/-- What has been drawn for an operand that may be missing: of a literal there is only the text, any
other operand has a node. -/
inductive DrawnOperand (role : Role) (elements : List (Element α)) :
    Option Formula → Option (Box α) → Option String → Prop
  | missing : DrawnOperand role elements none none none
  | literal {f : Formula} {text : String} (h : f.literalText? = some text) :
      DrawnOperand role elements (some f) none (some text)
  | node {f : Formula} {n : Node α} (h : f.literalText? = none)
      (hn : n ∈ nodesIn (operandFamilies role) elements) (htext : n.text = operandText f) :
      DrawnOperand role elements (some f) (some n.box) none

namespace DrawnOperand

variable {f? : Option Formula} {box? : Option (Box α)} {text? : Option String}

/-- The text that is handed on is that of a literal. -/
theorem text_eq (h : DrawnOperand role elements f? box? text?) :
    text? = f?.bind Formula.literalText? := by
  cases h with
  | missing => rfl
  | literal h => exact h.symm
  | node h => exact h.symm

/-- What has been drawn stays. -/
theorem mono (h : DrawnOperand role elements f? box? text?)
    (hsub : ∀ n ∈ nodesIn (operandFamilies role) elements,
      n ∈ nodesIn (operandFamilies role) elements') :
    DrawnOperand role elements' f? box? text? := by
  cases h with
  | missing => exact .missing
  | literal h => exact .literal h
  | node h hn htext => exact .node h (hsub _ hn) htext

/-- The node of an operand that is no literal. -/
theorem exists_node (h : DrawnOperand role elements f? box? text?) {f : Formula} (hf : f? = some f)
    (hliteral : f.literalText? = none) :
    ∃ n ∈ nodesIn (operandFamilies role) elements, n.text = operandText f ∧ box? = some n.box := by
  cases h with
  | missing => cases hf
  | literal h =>
    obtain rfl := Option.some.inj hf
    rw [hliteral] at h
    cases h
  | node _ hn htext =>
    obtain rfl := Option.some.inj hf
    exact ⟨_, hn, htext, rfl⟩

end DrawnOperand

/-- A comparison has been prepared for drawing its operator. -/
structure Prepared (role : Role) (elements : List (Element α)) (use : ComparisonUse)
    (c : PlacedComparison α) : Prop where
  label_eq : c.label = use.shownText
  key_eq : c.key = keyOf? use
  left : DrawnOperand role elements use.arguments[0]? c.left use.leftText?
  right : DrawnOperand role elements use.arguments[1]? c.right use.rightText?

/-- The ellipse of an operator shows a comparison, with arrows from the left operand and to the
right one unless these are literals. -/
structure ShowsComparison (role : Role) (elements : List (Element α))
    (arrow : String × String → Prop) (use : ComparisonUse) (o : Node α) : Prop where
  mem : o ∈ nodesIn [operatorFamily role] elements
  shape_eq : o.box.shape = .ellipse
  text_eq : o.text = use.shownText
  left : ∀ f, use.arguments[0]? = some f → f.literalText? = none →
    ∃ n ∈ nodesIn (operandFamilies role) elements, n.text = operandText f ∧
      arrow (n.box.id, o.box.id)
  right : ∀ f, use.arguments[1]? = some f → f.literalText? = none →
    ∃ n ∈ nodesIn (operandFamilies role) elements, n.text = operandText f ∧
      arrow (o.box.id, n.box.id)

/-- Comparisons are shown on operators, which are listed in the order of the comparisons. -/
structure SharesOperators (role : Role) (comparisons : List ComparisonUse)
    (elements : List (Element α)) (arrow : String × String → Prop) (operators : List (Node α)) :
    Prop where
  /-- Each comparison stands on an ellipse that shows it. -/
  shown : List.Forall₂ (ShowsComparison role elements arrow) comparisons operators
  /-- There are no other operators. -/
  used : ∀ o ∈ nodesIn [operatorFamily role] elements, o ∈ operators
  /-- Two comparisons share their ellipse if they show the same, and only then. -/
  shared_iff : ∀ {i j : Nat} {use use' : ComparisonUse} {o o' : Node α},
    comparisons[i]? = some use → operators[i]? = some o →
    comparisons[j]? = some use' → operators[j]? = some o' →
      (o = o' ↔ i = j ∨ use.ShowSame use')

/-- No operators are shown where there are no comparisons. -/
theorem SharesOperators.nil {arrow : String × String → Prop}
    (h : nodesIn [operatorFamily role] elements = []) :
    SharesOperators role [] elements arrow [] :=
  ⟨.nil, by simp [h], by simp⟩

/-- Things that are related through those of a list between them. -/
theorem forall₂_comp {β γ δ : Type} {R : β → γ → Prop} {S : γ → δ → Prop} {T : β → δ → Prop}
    (hT : ∀ b c d, R b c → S c d → T b d) {bs : List β} {cs : List γ} {ds : List δ}
    (h : List.Forall₂ R bs cs) (h' : List.Forall₂ S cs ds) : List.Forall₂ T bs ds := by
  induction h generalizing ds with
  | nil =>
    cases h'
    exact .nil
  | cons hbc _ ih =>
    cases h' with
    | cons hcd h' => exact .cons (hT _ _ _ hbc hcd) (ih h')

/-- A node has been drawn for a comparison, with arrows from its left operand and to its right
one. -/
structure DrawnOperator (role : Role) (elements : List (Element α))
    (arrow : String × String → Prop) (c : PlacedComparison α) (n : Node α) : Prop where
  mem : n ∈ nodesIn [operatorFamily role] elements
  shape_eq : n.box.shape = .ellipse
  left : ∀ left, c.left = some left → arrow (left.id, n.box.id)
  right : ∀ right, c.right = some right → arrow (n.box.id, right.id)

/-- Operators that have been assigned to prepared comparisons show them. -/
theorem SharesOperators.of_assigns {comparisons : List ComparisonUse}
    {arrow : String × String → Prop} {placed : List (PlacedComparison α)} {ns fresh : List (Node α)}
    (hprepared : List.Forall₂ (Prepared role elements) comparisons placed)
    (hassigns : Assigns (fun _ => none) placed ns fresh)
    (hdrawn : List.Forall₂ (DrawnOperator role elements arrow) placed ns)
    (hfresh : nodesIn [operatorFamily role] elements = fresh) (hnodup : fresh.Nodup) :
    SharesOperators role comparisons elements arrow ns := by
  have htexts : List.Forall₂ (fun c n => n.text = c.label) placed ns := by
    refine hassigns.text_eq (by simp) fun c hc c' hc' hkey hsome => ?_
    obtain ⟨use, -, huse⟩ := exists_of_mem_right hprepared hc
    obtain ⟨use', -, huse'⟩ := exists_of_mem_right hprepared hc'
    rw [huse.key_eq] at hkey hsome
    rw [huse'.key_eq] at hkey
    rw [huse.label_eq, huse'.label_eq]
    exact (keyOf?_eq_iff.mp ⟨hkey, hsome⟩).shownText_eq
  have hboth : List.Forall₂ (fun c n => DrawnOperator role elements arrow c n ∧ n.text = c.label)
      placed ns :=
    List.Forall₂.mp (fun _ _ hn htext => ⟨hn, htext⟩) hdrawn htexts
  refine ⟨forall₂_comp (fun use c n huse hn => ?_) hprepared hboth,
    fun o ho => hassigns.fresh_subset (hfresh ▸ ho), ?_⟩
  · obtain ⟨hn, htext⟩ := hn
    refine ⟨hn.mem, hn.shape_eq, htext.trans huse.label_eq, fun f hf hliteral => ?_,
      fun f hf hliteral => ?_⟩
    · obtain ⟨m, hm, hmtext, hbox⟩ := huse.left.exists_node hf hliteral
      exact ⟨m, hm, hmtext, hn.left _ hbox⟩
    · obtain ⟨m, hm, hmtext, hbox⟩ := huse.right.exists_node hf hliteral
      exact ⟨m, hm, hmtext, hn.right _ hbox⟩
  · intro i j use use' o o' hi ho hj ho'
    have hkeys : comparisons.map keyOf? = placed.map PlacedComparison.key :=
      map_eq_map_of_forall₂ hprepared fun _ _ h => h.key_eq.symm
    have hplaced {i : Nat} {use : ComparisonUse} (hi : comparisons[i]? = some use) :
        ∃ c, placed[i]? = some c ∧ c.key = keyOf? use := by
      have hkey := congrArg (·[i]?) hkeys
      simp only [List.getElem?_map, hi, Option.map_some] at hkey
      obtain ⟨c, hc, hkey⟩ := Option.map_eq_some_iff.mp hkey.symm
      exact ⟨c, hc, hkey⟩
    obtain ⟨c, hc, hkey⟩ := hplaced hi
    obtain ⟨c', hc', hkey'⟩ := hplaced hj
    rw [hassigns.eq_iff (.of_nodup hnodup) hc ho hc' ho', hkey, hkey', keyOf?_eq_iff]

/-- What is shown stays when operands and arrows are added. -/
theorem SharesOperators.mono {comparisons : List ComparisonUse} {operators : List (Node α)}
    {arrow arrow' : String × String → Prop}
    (h : SharesOperators role comparisons elements arrow operators)
    (hoperators : nodesIn [operatorFamily role] elements' = nodesIn [operatorFamily role] elements)
    (hoperands : ∀ n ∈ nodesIn (operandFamilies role) elements,
      n ∈ nodesIn (operandFamilies role) elements')
    (harrow : ∀ p, arrow p → arrow' p) :
    SharesOperators role comparisons elements' arrow' operators := by
  refine ⟨h.shown.imp fun use o ho => ⟨hoperators ▸ ho.mem, ho.shape_eq, ho.text_eq,
    fun f hf hliteral => ?_, fun f hf hliteral => ?_⟩, hoperators ▸ h.used, h.shared_iff⟩
  · obtain ⟨n, hn, htext, hp⟩ := ho.left f hf hliteral
    exact ⟨n, hoperands n hn, htext, harrow _ hp⟩
  · obtain ⟨n, hn, htext, hp⟩ := ho.right f hf hliteral
    exact ⟨n, hoperands n hn, htext, harrow _ hp⟩

namespace ComparisonFrame

variable [Add α] [Mul α] [LT α] [DecidableLT α] [Scalar α] {frame : ComparisonFrame α}
  {d d' : Drawing α}

/-- Drawing an operand. -/
theorem operand_drawn {top : α} {grid grid' : OperandGrid α} (side : Side) {index : Nat}
    {suffix : String} {f? : Option Formula} {box? : Option (Box α)} {text? : Option String}
    (hdraw : frame.operand top grid suffix f? d = .ok ((box?, text?, grid'), d'))
    (hsuffix : suffix = "comp-" ++ side.name ++ "-" ++ toString index)
    (hgrid : Recorded grid frame.role d) :
    DrawnOperand frame.role d'.canvas.elements f? box? text? := by
  cases operand_ok hdraw with
  | missing => exact .missing
  | literal hf hliteral => exact .literal hliteral
  | @function name arguments box _ _ hnode =>
    obtain ⟨-, hgrid', huses⟩ := functionNode_draws hnode hsuffix hgrid
    have hmem : (⟨box, name, arguments⟩ : FunctionUse α) ∈ grid'.uses := by simp [huses]
    obtain ⟨n, hn, htext, rfl⟩ := hgrid'.exists_node hmem
    exact .node rfl (nodesIn_mono (by simp [functionFamilies, operandFamilies]) hn) htext
  | @node f number d₁ _ box hf hliteral hticket hellipse =>
    obtain ⟨n, rfl, hn⟩ := Draw.ellipse_draws (f := literalFamily frame.role) hellipse
      (names_numbered d₁.canvas.group "literal" (by decide) (by decide) frame.role suffix number)
    refine .node hliteral (nodesIn_mono (by simp [operandFamilies]) hn.mem_nodesIn) ?_
    rw [hn.text_eq, operandText.eq_2 f hf]

/-- Drawing the operands prepares the comparisons. -/
theorem drawOperands_prepared {top : α} {uses : List ComparisonUse} {index : Nat}
    {grid grid' : OperandGrid α} {placed : List (PlacedComparison α)}
    (hdraw : frame.drawOperands top index grid uses d = .ok ((placed, grid'), d'))
    (hgrid : Recorded grid frame.role d) :
    List.Forall₂ (Prepared frame.role d'.canvas.elements) uses placed := by
  induction uses generalizing index grid d placed with
  | nil =>
    obtain ⟨heq, rfl⟩ := Draw.pure_ok_iff.mp hdraw
    obtain ⟨rfl, rfl⟩ := Prod.mk.inj heq
    exact .nil
  | cons use rest ih =>
    obtain ⟨⟨left, leftText, grid₁⟩, d₁, hleft, hdraw⟩ := Draw.bind_ok_iff.mp hdraw
    obtain ⟨⟨right, rightText, grid₂⟩, d₂, hright, hdraw⟩ := Draw.bind_ok_iff.mp hdraw
    obtain ⟨⟨others, grid₃⟩, d₃, hrest, hdraw⟩ := Draw.bind_ok_iff.mp hdraw
    obtain ⟨heq, rfl⟩ := Draw.pure_ok_iff.mp hdraw
    obtain ⟨rfl, rfl⟩ := Prod.mk.inj heq
    obtain ⟨-, hgrid₁, -⟩ := operand_draws .left hleft rfl hgrid
    obtain ⟨⟨nodes, hdraws⟩, hgrid₂, -⟩ := operand_draws .right hright rfl hgrid₁
    obtain ⟨⟨nodes', hdraws'⟩, -, -⟩ := drawOperands_draws hrest hgrid₂
    have hleft := operand_drawn .left hleft rfl hgrid
    have hright := operand_drawn .right hright rfl hgrid₁
    obtain rfl : leftText = use.leftText? := hleft.text_eq
    obtain rfl : rightText = use.rightText? := hright.text_eq
    refine .cons ⟨comparisonLabel_eq use, rfl, ?_, ?_⟩ (ih hrest hgrid₂)
    · exact (hleft.mono fun n hn => hdraws.mem_nodesIn hn).mono fun n hn => hdraws'.mem_nodesIn hn
    · exact hright.mono fun n hn => hdraws'.mem_nodesIn hn

/-- The known operators of a grid are ellipses on the canvas. -/
structure Finds (grid : OperatorGrid α) (known : String → Option (Node α)) (role : Role)
    (d : Drawing α) : Prop where
  lookup_eq : ∀ k, grid.known.lookup k = (known k).map Node.box
  drawn : ∀ k n, known k = some n →
    n ∈ nodesIn [operatorFamily role] d.canvas.elements ∧ n.box.shape = .ellipse

omit [Add α] [Mul α] [LT α] [DecidableLT α] [Scalar α] in
/-- An operator that is drawn is found afterwards by the key of its comparison. -/
theorem Finds.record {grid : OperatorGrid α} {known : String → Option (Node α)}
    {families : List Family} {nodes : List (Node α)} {asked : String × String → Prop}
    {c : PlacedComparison α} {n : Node α} {placed : Nat} (hgrid : Finds grid known role d)
    (hunknown : c.key.bind known = none) (hdraws : Draws families nodes asked d d')
    (hn : n ∈ nodesIn [operatorFamily role] d'.canvas.elements) (hshape : n.box.shape = .ellipse) :
    Finds { placed, known := grid.known ++ (c.key.map fun key => (key, n.box)).toList }
      (fun k => if c.key = some k then some n else known k) role d' := by
  constructor
  · intro k
    cases hkey : c.key with
    | none => simpa [hkey] using hgrid.lookup_eq k
    | some key =>
      rw [hkey, Option.bind_some] at hunknown
      simp only [Option.map_some, Option.toList_some, List.lookup_append, hgrid.lookup_eq,
        Option.some.injEq]
      by_cases hk : key = k
      · subst hk
        simp [hunknown]
      · have hne : (k == key) = false := by simpa using Ne.symm hk
        simp [List.lookup_cons, hne, hk]
  · intro k m hm
    split at hm
    · obtain rfl := Option.some.inj hm
      exact ⟨hn, hshape⟩
    · exact (hgrid.drawn k m hm).imp_left fun hm => hdraws.mem_nodesIn hm

/-- Drawing the node of an operator, or finding it. -/
theorem operatorNode_assigns {top : α} {grid grid' : OperatorGrid α} {c : PlacedComparison α}
    {box : Box α} {known : String → Option (Node α)}
    (hdraw : frame.operatorNode top grid c d = .ok ((box, grid'), d'))
    (hgrid : Finds grid known frame.role d) :
    ∃ n known' first, n.box = box ∧ AssignsOne known c n known' first ∧
      Draws [operatorFamily frame.role] first noArrow d d' ∧
      n ∈ nodesIn [operatorFamily frame.role] d'.canvas.elements ∧ n.box.shape = .ellipse ∧
      Finds grid' known' frame.role d' := by
  have hbind : (c.key.bind fun key => grid.known.lookup key) =
      (c.key.bind known).map Node.box := by
    cases c.key with
    | none => rfl
    | some key => exact hgrid.lookup_eq key
  cases operatorNode_ok hdraw with
  | found hfind =>
    obtain ⟨n, hknown, rfl⟩ := Option.map_eq_some_iff.mp (hbind.symm.trans hfind)
    obtain ⟨key, -, hdrawn⟩ := Option.bind_eq_some_iff.mp hknown
    obtain ⟨hn, hshape⟩ := hgrid.drawn key n hdrawn
    exact ⟨n, known, [], rfl, .found hknown, .refl d, hn, hshape, hgrid⟩
  | @drawn number d₁ _ _ hfind hticket hellipse =>
    have hunknown : c.key.bind known = none := Option.map_eq_none_iff.mp (hbind.symm.trans hfind)
    obtain ⟨n, rfl, hn⟩ := Draw.ellipse_draws hellipse
      (names_numbered d₁.canvas.group "operator" (by decide) (by decide) frame.role
        (toString c.index) number)
    have hdraws : Draws [operatorFamily frame.role] [n] noArrow d d' :=
      ((Draw.ticket_draws hticket).trans hn.draws).congr (by simp [arrowsOf, noArrow])
    exact ⟨n, _, [n], rfl, .drawn hunknown hn.text_eq, hdraws, hn.mem_nodesIn, hn.shape_eq,
      hgrid.record hunknown hdraws hn.mem_nodesIn hn.shape_eq⟩

/-- Drawing the operators assigns them to the comparisons, with an arrow from the left operand of
each comparison and one to its right operand. -/
theorem drawOperators_assigns {top : α} {cs : List (PlacedComparison α)}
    {grid grid' : OperatorGrid α} {known : String → Option (Node α)}
    (hdraw : frame.drawOperators top grid cs d = .ok (grid', d'))
    (hgrid : Finds grid known frame.role d) :
    ∃ ns fresh asked, Assigns known cs ns fresh ∧
      Draws [operatorFamily frame.role] fresh asked d d' ∧
      List.Forall₂ (DrawnOperator frame.role d'.canvas.elements (· ∈ d'.canvas.connected)) cs
        ns := by
  induction cs generalizing grid d known with
  | nil =>
    obtain ⟨rfl, rfl⟩ := Draw.pure_ok_iff.mp hdraw
    exact ⟨[], [], noArrow, .nil known, .refl d, .nil⟩
  | cons c rest ih =>
    obtain ⟨box, grid₁, d₁, d₂, d₃, hnode, hleft, hright, hdraw⟩ := drawOperators_cons_ok hdraw
    obtain ⟨n, known', first, rfl, hone, hdraws, hn, hshape, hgrid₁⟩ :=
      operatorNode_assigns hnode hgrid
    have hdraws₂ : Draws [operatorFamily frame.role] [] _ d₁ d₂ :=
      hleft.draws fun left hedge => comparisonEdge_draws hedge
    have hdraws₃ : Draws [operatorFamily frame.role] [] _ d₂ d₃ :=
      hright.draws fun right hedge => comparisonEdge_draws hedge
    have hlater := hdraws₂.trans hdraws₃
    have hgrid₃ : Finds grid₁ known' frame.role d₃ :=
      ⟨hgrid₁.lookup_eq, fun k m hm => (hgrid₁.drawn k m hm).imp_left hlater.mem_nodesIn⟩
    obtain ⟨ns, fresh, asked, hassigns, hrest, hshown⟩ := ih hdraw hgrid₃
    have hall : Draws [operatorFamily frame.role] (first ++ [] ++ [] ++ fresh) _ d d' :=
      ((hdraws.trans hdraws₂).trans hdraws₃).trans hrest
    rw [List.append_nil, List.append_nil] at hall
    refine ⟨n :: ns, first ++ fresh, _, .cons hone hassigns, hall, .cons
      ⟨hrest.mem_nodesIn (hlater.mem_nodesIn hn), hshape, fun left hleft => ?_,
        fun right hright => ?_⟩ hshown⟩
    · exact hrest.mem_connected (hdraws₃.mem_connected
        ((hdraws₂.connected_iff _).mpr (.inr ⟨left, hleft, rfl⟩)))
    · exact hrest.mem_connected ((hdraws₃.connected_iff _).mpr (.inr ⟨right, hright, rfl⟩))

end ComparisonFrame

namespace ProblemBlock

variable [Add α] [Mul α] [LT α] [DecidableLT α] [Scalar α] {f : ProblemFrame α} {d d' : Drawing α}

/-- Drawing a band of comparisons shows them on shared operators. -/
theorem drawComparisonBand_shares {comparisons : List ComparisonUse} {cursor : BandCursor α}
    {result : List (FunctionUse α) × BandCursor α}
    (hdraw : drawComparisonBand f role comparisons cursor d = .ok (result, d'))
    (hempty : nodesIn (comparisonFamilies role) d.canvas.elements = [])
    (hnodup : (nodesOf d'.canvas.elements).Nodup) :
    ∃ operators, SharesOperators role comparisons d'.canvas.elements (· ∈ d'.canvas.connected)
      operators := by
  have hnoOperators : nodesIn [operatorFamily role] d.canvas.elements = [] :=
    nodesIn_eq_nil (by simp [comparisonFamilies]) hempty
  have hgrid : ComparisonFrame.Recorded ({} : OperandGrid α) role d :=
    .of_empty (nodesIn_eq_nil (by simp [comparisonFamilies, functionFamilies, operandFamilies])
      hempty)
  obtain ⟨rfl, rfl, rfl⟩ | ⟨⟨stages⟩⟩ := comparisonStages_or hdraw
  · exact ⟨[], .nil hnoOperators⟩
  · obtain ⟨⟨nodes, hdraws⟩, -, -⟩ := ComparisonFrame.drawOperands_draws stages.operands_eq hgrid
    have hprepared := ComparisonFrame.drawOperands_prepared stages.operands_eq hgrid
    have hgrid' : ComparisonFrame.Finds ({} : OperatorGrid α) (fun _ => none) role
        stages.afterOperands :=
      ⟨fun _ => rfl, by simp⟩
    obtain ⟨ns, fresh, asked, hassigns, hdraws', hdrawn⟩ :=
      ComparisonFrame.drawOperators_assigns stages.operators_eq hgrid'
    have hextended : Draws [] [] noArrow stages.afterOperators d' :=
      Draw.extend_draws stages.extend_eq
    have hfresh : nodesIn [operatorFamily role] d'.canvas.elements = fresh := by
      rw [hextended.nodesIn_eq (by simp), hdraws'.nodesIn_append (List.Subset.refl _),
        hdraws.nodesIn_eq fun g hg f hf => List.mem_singleton.mp hf ▸
          ComparisonFrame.apart_operator role g hg, hnoOperators, List.nil_append]
    refine ⟨ns, .of_assigns (hprepared.imp fun use c h => ?_) hassigns
      (hdrawn.imp fun c n h => ?_) hfresh ?_⟩
    · have hlater := hdraws'.append hextended
      exact ⟨h.label_eq, h.key_eq, h.left.mono fun n hn => hlater.mem_nodesIn hn,
        h.right.mono fun n hn => hlater.mem_nodesIn hn⟩
    · exact ⟨hextended.mem_nodesIn h.mem, h.shape_eq,
        fun left hleft => hextended.mem_connected (h.left left hleft),
        fun right hright => hextended.mem_connected (h.right right hright)⟩
    · rw [← hfresh]
      exact hnodup.filter _

section

variable [Sub α] {cfg : Config α} {problem : Problem} {x y : α} {block : Block α}

/-- Comparisons that a band has shown are shown in the block, if what is drawn later are no
operators of the role. -/
theorem Stages.shares_of_band (stages : Stages cfg problem x y d d' block)
    (helements : d.canvas.elements = []) (hconnected : d.canvas.connected = [])
    {comparisons : List ComparisonUse} {families : List Family} {nodes : List (Node α)}
    {asked : String × String → Prop} {d₁ : Drawing α} (hlater : Draws families nodes asked d₁ d')
    (hapart : ∀ g ∈ families, ∀ f ∈ [operatorFamily role], g.Apart f)
    (hband : (nodesOf d₁.canvas.elements).Nodup → ∃ operators,
      SharesOperators role comparisons d₁.canvas.elements (· ∈ d₁.canvas.connected) operators) :
    ∃ operators, SharesOperators role comparisons block.elements (· ∈ connections block.elements)
      operators := by
  have hsound := (stages.step helements hconnected).sound.canvas
  have hnodup : (nodesOf d'.canvas.elements).Nodup := by
    have hids := hsound.ids_nodup.sublist (nodeIds_sublist d'.canvas.elements)
    rw [nodeIds_eq_map] at hids
    exact hids.of_map _
  have hbefore : (nodesOf d₁.canvas.elements).Nodup := by
    rw [hlater.nodes_eq] at hnodup
    exact hnodup.of_append_left
  obtain ⟨operators, hoperators⟩ := hband hbefore
  rw [stages.elements_eq]
  exact ⟨operators, hoperators.mono (hlater.nodesIn_eq hapart) (fun n hn => hlater.mem_nodesIn hn)
    fun p hp => (hsound.connected_iff p).mp (hlater.mem_connected hp)⟩

/-- Behind the sidebar there are only arrows. -/
theorem Stages.afterSidebar_draws (stages : Stages cfg problem x y d d' block) :
    ∃ asked, Draws [] [] asked stages.afterSidebar d' := by
  have hliteralArrows : Draws [] [] _ stages.afterSidebar stages.afterLiteralArrows :=
    Draw.connectAll_draws stages.literalArrows_eq
  have hfunctionArrows : Draws [] [] _ stages.afterLiteralArrows d' :=
    Draw.connectAll_draws stages.functionArrows_eq
  exact ⟨_, hliteralArrows.trans hfunctionArrows⟩

/-- The stages of a block on an empty canvas show the comparisons among the facts. -/
theorem Stages.shares_init (stages : Stages cfg problem x y d d' block)
    (helements : d.canvas.elements = []) (hconnected : d.canvas.connected = []) :
    ∃ operators, SharesOperators .init (problem.found .init).comparisons block.elements
      (· ∈ connections block.elements) operators := by
  obtain ⟨initNodes, initRow, objectRow, goalRow, goalNodes, sidebar, initArrows, goalArrows,
    initGrid, goalGrid, bands⟩ := stages.exists_bands helements
  obtain ⟨asked, harrows⟩ := stages.afterSidebar_draws
  have hlater := ((((bands.initLiterals.draws.append bands.objects.draws).append
    bands.goalLiterals.draws).append bands.goalComparisons.draws).append bands.sidebar).append
    harrows
  exact stages.shares_of_band helements hconnected hlater
    (nodeFamilies_distinct.apart (by decide +kernel) (by decide +kernel))
    (drawComparisonBand_shares stages.initComparisons_eq (by rw [helements]; rfl))

/-- The stages of a block on an empty canvas show the comparisons of the goal. -/
theorem Stages.shares_goal (stages : Stages cfg problem x y d d' block)
    (helements : d.canvas.elements = []) (hconnected : d.canvas.connected = []) :
    ∃ operators, SharesOperators .goal (problem.found .goal).comparisons block.elements
      (· ∈ connections block.elements) operators := by
  obtain ⟨initNodes, initRow, objectRow, goalRow, goalNodes, sidebar, initArrows, goalArrows,
    initGrid, goalGrid, bands⟩ := stages.exists_bands helements
  have hfront := ((bands.initComparisons.draws.append bands.initLiterals.draws).append
    bands.objects.draws).append bands.goalLiterals.draws
  obtain ⟨asked, harrows⟩ := stages.afterSidebar_draws
  refine stages.shares_of_band helements hconnected (bands.sidebar.append harrows)
    (nodeFamilies_distinct.apart (by decide +kernel) (by decide +kernel))
    (drawComparisonBand_shares stages.goalComparisons_eq ?_)
  rw [hfront.nodesIn_eq (nodeFamilies_distinct.apart (by decide +kernel) (by decide +kernel)),
    helements]
  rfl

end

end ProblemBlock

variable [Add α] [Sub α] [Mul α] [LT α] [DecidableLT α] [Scalar α] {cfg : Config α}
  {session : Session} {x y : α}

/-- In whatever is drawn for a problem, the comparisons among the facts and those of the goal are
shown on operators, and they share them exactly by what they show. Different operators have
different identifiers. -/
theorem problemBlock_sharesOperators {problem : Problem} {block : Block α}
    (h : (problemBlock cfg session problem x y).2 = .ok block) :
    (nodeIds block.elements).Nodup ∧ ∀ role ∈ [Role.init, .goal],
      ∃ operators, SharesOperators role (problem.found role).comparisons block.elements
        (· ∈ connections block.elements) operators := by
  obtain ⟨d', hdraw⟩ := Draw.exists_of_run h
  obtain ⟨stages⟩ := ProblemBlock.nonempty_stages hdraw
  refine ⟨(stages.contents rfl rfl).wired.ids_nodup, ?_⟩
  rw [List.forall_mem_cons, List.forall_mem_singleton]
  exact ⟨stages.shares_init rfl rfl, stages.shares_goal rfl rfl⟩

/-- A problem in which two tanks have the same level, which stands on the left for the limit. -/
def levelProblem : Problem where
  name := "levels"
  objects := [{ name := "north" }, { name := "south" }]
  init := [
    .comparison "=" [.function "level" [.parameter "north" .null], .parameter "5" .null],
    .comparison "equal" [.function "level" [.parameter "south" .null], .parameter " 5" .null],
    .comparison "=" [.parameter "5" .null, .function "limit" []]]

/-- The problem is drawn; the first two comparisons share an operator, which the third does not. -/
theorem problemBlock_sharesOperators_levelProblem :
    ∃ block, (problemBlock Config.rational {} levelProblem 0 0).2 = .ok block ∧
      ∃ a b, SharesOperators .init (levelProblem.found .init).comparisons block.elements
        (· ∈ connections block.elements) [a, a, b] ∧ a ≠ b := by
  have hspacing : Config.rational.spacingY ≠ 0 := by decide
  obtain ⟨block, h⟩ := exists_problemBlock hspacing (by decide) {} levelProblem 0 0
  obtain ⟨operators, hshares⟩ := (problemBlock_sharesOperators h).2 .init (by decide)
  have hlength : operators.length = 3 := hshares.shown.length_eq.symm
  obtain ⟨a, a', b, rfl⟩ := List.length_eq_three.mp hlength
  have hsame : a = a' := by
    have hiff := hshares.shared_iff (i := 0) (j := 1) rfl rfl rfl rfl
    exact hiff.mpr (.inr ⟨by decide, by decide, by decide, by decide, by decide⟩)
  have hother : a ≠ b := by
    have hiff := hshares.shared_iff (i := 0) (j := 2) rfl rfl rfl rfl
    rintro heq
    rcases hiff.mp heq with h | h
    · cases h
    · exact absurd h.left_eq (by decide)
  subst hsame
  exact ⟨block, h, a, b, hshares, hother⟩

end PlanDiagram.Diagram
