import PlanDiagram.Proofs.Diagram.NodeDrawing

/-!
# Bands of comparisons

A function among the operands has the place of its comparison in its identifier, right behind the
side on which it stands; other operands and operators are numbered by the session. Each comparison
has one operand on each side, so no place is used twice. Arrows run between operands and operators,
which belong to different families.
-/

namespace PlanDiagram.Diagram

namespace ComparisonFrame

/-- A side of a comparison. -/
inductive Side where
  | left
  | right

/-- The name of a side. -/
def Side.name : Side → String
  | .left => "left"
  | .right => "right"

/-- The identifiers of functions on a side of comparisons. -/
def functionFamily (role : Role) (side : Side) : Family :=
  .leading ("function-" ++ role.name ++ "-comp-" ++ side.name ++ "-")

/-- The identifiers of a kind of elements that the session numbers. -/
def numberedFamily (kind : String) (role : Role) : Family :=
  .trailing (kind ++ "-" ++ role.name ++ "-")

/-- The identifiers of operands that are no functions. -/
def literalFamily : Role → Family :=
  numberedFamily "literal"

/-- The identifiers of operators. -/
def operatorFamily : Role → Family :=
  numberedFamily "operator"

/-- The identifiers of arrows. -/
def edgeFamily : Role → Family :=
  numberedFamily "comp-edge"

/-- The families for which the session hands out numbers, with their keys. -/
def tickets : List (String × Family) :=
  [.precondition, .effect, .init, .goal].flatMap fun role =>
    [("lit", literalFamily role), ("op", operatorFamily role), ("edge", edgeFamily role)]

/-- The families of operands. -/
def operandFamilies (role : Role) : List Family :=
  [functionFamily role .left, functionFamily role .right, literalFamily role]

/-- The families for which numbers are handed out are apart. -/
theorem tickets_spared : ∀ ticket ∈ tickets, ∀ t ∈ tickets, ticket.2.Apart t.2 ∨ t = ticket := by
  decide +kernel

/-- Operators are no operands. -/
theorem apart_operator (role : Role) :
    ∀ f ∈ operandFamilies role, f.Apart (operatorFamily role) := by
  cases role <;> decide +kernel

variable {α : Type} {frame : ComparisonFrame α} {d d' : Drawing α} {role : Role}

/-- A box is that of an operand on the canvas. -/
def Operand (d : Drawing α) (role : Role) (box : Box α) : Prop :=
  ∃ f ∈ operandFamilies role, Placed d f box

/-- The functions of a grid have nodes on the canvas. -/
structure Known (grid : OperandGrid α) (role : Role) (d : Drawing α) : Prop where
  functions : ∀ entry ∈ grid.functions, Operand d role entry.2
  uses : ∀ use ∈ grid.uses, Operand d role use.box

/-- Operands stay on the canvas. -/
theorem Operand.step {families : List Family} {told : List (String × String)} {box : Box α}
    (h : Operand d role box) (hstep : Step tickets families told d d') : Operand d' role box := by
  obtain ⟨f, hf, hplaced⟩ := h
  exact ⟨f, hf, hstep.placed hplaced⟩

/-- An operand is a node different from every operator. -/
theorem Operand.ne_operator {box operator : Box α} (h : Operand d role box)
    (h' : Placed d (operatorFamily role) operator) :
    box.id ∈ nodeIds d.canvas.elements ∧ box.id ≠ operator.id := by
  obtain ⟨f, hf, hplaced⟩ := h
  exact ⟨hplaced.1, hplaced.ne h' (apart_operator role f hf)⟩

/-- What is known of a grid stays. -/
theorem Known.step {families : List Family} {grid : OperandGrid α} (h : Known grid role d)
    (hstep : Step tickets families [] d d') : Known grid role d' :=
  ⟨fun entry hentry => (h.functions entry hentry).step hstep,
    fun use huse => (h.uses use huse).step hstep⟩

/-- A grid stays known when the node of an operand is recorded. -/
theorem Known.record {grid grid' : OperandGrid α} {box : Box α} (h : Known grid role d)
    (hbox : Operand d role box)
    (hfunctions : ∀ entry ∈ grid'.functions, entry ∈ grid.functions ∨ entry.2 = box)
    (huses : ∀ use ∈ grid'.uses, use ∈ grid.uses ∨ use.box = box) : Known grid' role d := by
  constructor
  · intro entry hentry
    rcases hfunctions entry hentry with hold | rfl
    · exact h.functions entry hold
    · exact hbox
  · intro use huse
    rcases huses use huse with hold | rfl
    · exact h.uses use hold
    · exact hbox

/-- An identifier that the session numbers. -/
theorem names_numbered (group kind : String) {head : String} (hhead : head = "-" ++ kind ++ "-")
    (hclean : sanitize kind = kind) (role : Role) (middle : String) (n : Nat) :
    Names group (numberedFamily kind role) n
      (sanitize (group ++ head ++ role.name ++ "-" ++ middle ++ "-" ++ toString n)) := by
  have hrole : sanitize ("-" ++ role.name ++ "-") = "-" ++ role.name ++ "-" := by
    cases role <;> decide
  have hstem : sanitize (kind ++ "-" ++ role.name ++ "-") = kind ++ "-" ++ role.name ++ "-" := by
    have hassoc : kind ++ "-" ++ role.name ++ "-" = kind ++ ("-" ++ role.name ++ "-") := by
      simp only [String.append_assoc]
    rw [hassoc, sanitize_append, hclean, hrole]
  have hnames := Names.trailing group rfl hstem middle n
  rw [hhead]
  simpa only [numberedFamily, String.append_assoc] using hnames

/-- A comparison whose operands are on the canvas. -/
structure Ready (c : PlacedComparison α) (role : Role) (d : Drawing α) : Prop where
  left : ∀ box, c.left = some box → Operand d role box
  right : ∀ box, c.right = some box → Operand d role box

/-- The operands of a comparison stay on the canvas. -/
theorem Ready.step {families : List Family} {c : PlacedComparison α} (h : Ready c role d)
    (hstep : Step tickets families [] d d') : Ready c role d' :=
  ⟨fun box hbox => (h.left box hbox).step hstep, fun box hbox => (h.right box hbox).step hstep⟩

/-- Drawing an arrow between two different nodes. -/
theorem comparisonEdge_step {direction : String} {source target : Box α} {u : Unit}
    (hdraw : frame.comparisonEdge direction source target d = .ok (u, d')) (hd : d.Sound tickets)
    (hsource : source.id ∈ nodeIds d.canvas.elements)
    (htarget : target.id ∈ nodeIds d.canvas.elements) (hne : source.id ≠ target.id) :
    Step tickets [edgeFamily frame.role] [] d d' := by
  obtain ⟨number, d₁, hticket, hdraw⟩ := Draw.bind_ok_iff.mp hdraw
  obtain ⟨group, d₂, hgroup, hedge⟩ := Draw.bind_ok_iff.mp hdraw
  obtain ⟨rfl, rfl⟩ := Draw.group_ok_iff.mp hgroup
  have hmem : ("edge", edgeFamily frame.role) ∈ tickets := by
    cases frame.role <;> simp [tickets]
  rw [Draw.canvas_eq_of_ticket hticket] at hedge
  exact Draw.edge_step_of_ticket hticket hedge hd hmem (tickets_spared _ hmem)
    (names_numbered d.canvas.group "comp-edge" (by decide) (by decide) frame.role direction number)
    hsource htarget hne

variable [Add α] [Mul α] [LT α] [DecidableLT α] [Scalar α]

/-- The identifier of a function. -/
theorem names_function (group : String) (role : Role) (side : Side) {suffix : String} {index : Nat}
    (hsuffix : suffix = "comp-" ++ side.name ++ "-" ++ toString index) (number : Nat)
    (name : String) :
    Names group (functionFamily role side) index
      (sanitize (group ++ "-function-" ++ role.name ++ "-" ++ suffix ++ "-" ++ toString number ++
        "-" ++ name)) := by
  have hhead : "-function-" ++ role.name ++ "-comp-" ++ side.name ++ "-" =
      "-" ++ ("function-" ++ role.name ++ "-comp-" ++ side.name ++ "-") := by
    cases role <;> cases side <;> rfl
  have hclean : sanitize ("function-" ++ role.name ++ "-comp-" ++ side.name ++ "-") =
      "function-" ++ role.name ++ "-comp-" ++ side.name ++ "-" := by
    cases role <;> cases side <;> decide +kernel
  have hnames := Names.leading group hhead hclean index (toString number ++ "-" ++ name)
  have hcomp : "-comp-" = "-" ++ "comp-" := rfl
  rw [hsuffix]
  simpa only [functionFamily, hcomp, String.append_assoc] using hnames

/-- Drawing the node of a function, or finding it. -/
theorem functionNode_step {top : α} {grid grid' : OperandGrid α} {side : Side} {index : Nat}
    {suffix name : String} {arguments : List Formula} {box : Box α}
    (hdraw : frame.functionNode top grid suffix name arguments d = .ok ((box, grid'), d'))
    (hsuffix : suffix = "comp-" ++ side.name ++ "-" ++ toString index)
    (hd : d.Sound tickets) (hknown : Known grid frame.role d)
    (hunused : d.canvas.Unused (functionFamily frame.role side) index) :
    Step tickets [functionFamily frame.role side] [] d d' ∧
      d'.canvas.Unused (functionFamily frame.role side) (index + 1) ∧
        Operand d' frame.role box ∧ Known grid' frame.role d' := by
  cases functionNode_ok hdraw with
  | found hlookup =>
    have hbox : Operand d frame.role box := by
      obtain ⟨front, back, hfunctions, -⟩ := List.lookup_eq_some_iff.mp hlookup
      exact hknown.functions (name, box) (by simp [hfunctions])
    refine ⟨.refl hd, hunused.mono (Nat.le_succ index), hbox, hknown.record hbox ?_ ?_⟩
    · exact fun entry hentry => .inl hentry
    · intro use huse
      rcases List.mem_append.mp huse with hold | hnew
      · exact .inl hold
      · exact .inr (by rw [List.mem_singleton.mp hnew])
  | @drawn number d₁ _ _ hlookup hticket hellipse =>
    have hspared : ∀ t ∈ tickets, (functionFamily frame.role side).Apart t.2 := by
      cases frame.role <;> cases side <;> decide +kernel
    have hnames := names_function d₁.canvas.group frame.role side hsuffix number name
    have hstep : Step tickets [functionFamily frame.role side] [] d d₁ :=
      Draw.ticket_step hticket hd
    have hunused₁ : d₁.canvas.Unused (functionFamily frame.role side) index := by
      rw [Draw.canvas_eq_of_ticket hticket]
      exact hunused
    have hdrawn := Draw.ellipse_drawn hellipse hstep.sound hnames
      ⟨hunused₁, fun t ht => .inl (hspared t ht)⟩
    have hstep' := hstep.trans hdrawn.step
    have hbox : Operand d' frame.role box :=
      ⟨functionFamily frame.role side, by cases side <;> simp [operandFamilies], hdrawn.placed⟩
    refine ⟨hstep', hdrawn.unused, hbox, (hknown.step hstep').record hbox ?_ ?_⟩
    · intro entry hentry
      rcases List.mem_append.mp hentry with hold | hnew
      · exact .inl hold
      · exact .inr (by rw [List.mem_singleton.mp hnew])
    · intro use huse
      rcases List.mem_append.mp huse with hold | hnew
      · exact .inl hold
      · exact .inr (by rw [List.mem_singleton.mp hnew])

/-- Drawing an operand. -/
theorem operand_step {top : α} {grid grid' : OperandGrid α} {side : Side} {index : Nat}
    {suffix : String} {f? : Option Formula} {box? : Option (Box α)} {text? : Option String}
    (hdraw : frame.operand top grid suffix f? d = .ok ((box?, text?, grid'), d'))
    (hsuffix : suffix = "comp-" ++ side.name ++ "-" ++ toString index) (hd : d.Sound tickets)
    (hknown : Known grid frame.role d)
    (hunused : d.canvas.Unused (functionFamily frame.role side) index) :
    Step tickets [functionFamily frame.role side, literalFamily frame.role] [] d d' ∧
      d'.canvas.Unused (functionFamily frame.role side) (index + 1) ∧
        (∀ box, box? = some box → Operand d' frame.role box) ∧ Known grid' frame.role d' := by
  have hlater : d.canvas.Unused (functionFamily frame.role side) (index + 1) :=
    hunused.mono (Nat.le_succ index)
  cases operand_ok hdraw with
  | missing => exact ⟨.refl hd, hlater, by simp, hknown⟩
  | literal hf hliteral => exact ⟨.refl hd, hlater, by simp, hknown⟩
  | function hnode =>
    obtain ⟨hstep, hnext, hbox, hknown'⟩ := functionNode_step hnode hsuffix hd hknown hunused
    refine ⟨hstep.mono (by simp), hnext, ?_, hknown'⟩
    intro box' heq
    rwa [← Option.some.inj heq]
  | @node f number d₁ _ box hf hliteral hticket hellipse =>
    have hmem : ("lit", literalFamily frame.role) ∈ tickets := by
      cases frame.role <;> simp [tickets]
    rw [Draw.canvas_eq_of_ticket hticket] at hellipse
    obtain ⟨hstep, hplaced, -⟩ := Draw.ellipse_step_of_ticket hticket hellipse hd hmem
      (tickets_spared _ hmem)
      (names_numbered d.canvas.group "literal" (by decide) (by decide) frame.role suffix number)
    have hbox : Operand d' frame.role box :=
      ⟨literalFamily frame.role, by simp [operandFamilies], hplaced⟩
    have hapart : ∀ g ∈ [literalFamily frame.role],
        g.Apart (functionFamily frame.role side) := by
      cases frame.role <;> cases side <;> decide +kernel
    refine ⟨hstep.mono (by simp), hstep.unused hapart hlater, ?_, ?_⟩
    · intro box' heq
      rwa [← Option.some.inj heq]
    · exact (hknown.step hstep).record hbox (fun entry hentry => .inl hentry)
        fun use huse => .inl huse

/-- Drawing the operands of comparisons. -/
theorem drawOperands_step {top : α} {uses : List ComparisonUse} {index : Nat}
    {grid grid' : OperandGrid α} {placed : List (PlacedComparison α)}
    (hdraw : frame.drawOperands top index grid uses d = .ok ((placed, grid'), d'))
    (hd : d.Sound tickets) (hknown : Known grid frame.role d)
    (hunused : ∀ side, d.canvas.Unused (functionFamily frame.role side) index) :
    Step tickets (operandFamilies frame.role) [] d d' ∧
      (∀ c ∈ placed, Ready c frame.role d') ∧ Known grid' frame.role d' := by
  induction uses generalizing index grid d placed with
  | nil =>
    obtain ⟨heq, rfl⟩ := Draw.pure_ok_iff.mp hdraw
    obtain ⟨rfl, rfl⟩ := Prod.mk.inj heq
    exact ⟨.refl hd, by simp, hknown⟩
  | cons use rest ih =>
    obtain ⟨⟨left, leftText, grid₁⟩, d₁, hleft, hdraw⟩ := Draw.bind_ok_iff.mp hdraw
    obtain ⟨⟨right, rightText, grid₂⟩, d₂, hright, hdraw⟩ := Draw.bind_ok_iff.mp hdraw
    obtain ⟨⟨others, grid₃⟩, d₃, hrest, hdraw⟩ := Draw.bind_ok_iff.mp hdraw
    obtain ⟨heq, rfl⟩ := Draw.pure_ok_iff.mp hdraw
    obtain ⟨rfl, rfl⟩ := Prod.mk.inj heq
    -- the operand on one side does not use the numbers of the other
    have hapart : ∀ side other, (side = .left ∧ other = .right ∨ side = .right ∧ other = .left) →
        ∀ g ∈ [functionFamily frame.role side, literalFamily frame.role],
          g.Apart (functionFamily frame.role other) := by
      rintro side other (⟨rfl, rfl⟩ | ⟨rfl, rfl⟩) <;> cases frame.role <;> decide +kernel
    have hleft_suffix : "comp-left-" ++ toString index =
        "comp-" ++ Side.left.name ++ "-" ++ toString index := rfl
    have hright_suffix : "comp-right-" ++ toString index =
        "comp-" ++ Side.right.name ++ "-" ++ toString index := rfl
    obtain ⟨hstep₁, hleft_next, hleft_box, hknown₁⟩ :=
      operand_step hleft hleft_suffix hd hknown (hunused .left)
    have hright_unused : d₁.canvas.Unused (functionFamily frame.role .right) index :=
      hstep₁.unused (hapart .left .right (.inl ⟨rfl, rfl⟩)) (hunused .right)
    obtain ⟨hstep₂, hright_next, hright_box, hknown₂⟩ :=
      operand_step hright hright_suffix hstep₁.sound hknown₁ hright_unused
    have hleft_next₂ : d₂.canvas.Unused (functionFamily frame.role .left) (index + 1) :=
      hstep₂.unused (hapart .right .left (.inr ⟨rfl, rfl⟩)) hleft_next
    have hnext : ∀ side, d₂.canvas.Unused (functionFamily frame.role side) (index + 1)
      | .left => hleft_next₂
      | .right => hright_next
    obtain ⟨hstep₃, hothers, hknown'⟩ := ih hrest hstep₂.sound hknown₂ hnext
    have hstep : Step tickets (operandFamilies frame.role) [] d d₂ :=
      (hstep₁.mono (by simp [operandFamilies])).trans (hstep₂.mono (by simp [operandFamilies]))
    refine ⟨hstep.trans hstep₃, List.forall_mem_cons.mpr ⟨⟨?_, ?_⟩, hothers⟩, hknown'⟩
    · exact fun box hbox => ((hleft_box box hbox).step hstep₂).step hstep₃
    · exact fun box hbox => (hright_box box hbox).step hstep₃

/-- Drawing the node of an operator, or finding it. -/
theorem operatorNode_step {top : α} {grid grid' : OperatorGrid α} {c : PlacedComparison α}
    {box : Box α} (hdraw : frame.operatorNode top grid c d = .ok ((box, grid'), d'))
    (hd : d.Sound tickets)
    (hknown : ∀ entry ∈ grid.known, Placed d (operatorFamily frame.role) entry.2) :
    Step tickets [operatorFamily frame.role] [] d d' ∧ Placed d' (operatorFamily frame.role) box ∧
      ∀ entry ∈ grid'.known, Placed d' (operatorFamily frame.role) entry.2 := by
  cases operatorNode_ok hdraw with
  | found hfind =>
    obtain ⟨key, -, hlookup⟩ := Option.bind_eq_some_iff.mp hfind
    exact ⟨.refl hd, placed_of_lookup hlookup hknown, hknown⟩
  | @drawn number d₁ _ _ hfind hticket hellipse =>
    have hmem : ("op", operatorFamily frame.role) ∈ tickets := by
      cases frame.role <;> simp [tickets]
    rw [Draw.canvas_eq_of_ticket hticket] at hellipse
    obtain ⟨hstep, hplaced, -⟩ := Draw.ellipse_step_of_ticket hticket hellipse hd hmem
      (tickets_spared _ hmem) (names_numbered d.canvas.group "operator" (by decide) (by decide)
        frame.role (toString c.index) number)
    refine ⟨hstep, hplaced, fun entry hentry => ?_⟩
    rcases List.mem_append.mp hentry with hold | hnew
    · exact hstep.placed (hknown entry hold)
    · obtain ⟨key, -, rfl⟩ := Option.map_eq_some_iff.mp (Option.mem_toList.mp hnew)
      exact hplaced

/-- The families of operators and arrows. -/
def operatorFamilies (role : Role) : List Family :=
  [operatorFamily role, edgeFamily role]

omit [Add α] [Mul α] [LT α] [DecidableLT α] [Scalar α] in
/-- An arrow that is left out if an operand has no node keeps to the families of arrows. -/
theorem ArrowDrawing.step {box? : Option (Box α)} {draw : Box α → Draw α Unit}
    {families : List Family} (h : ArrowDrawing box? draw d d') (hd : d.Sound tickets)
    (hedge : ∀ box, box? = some box → draw box d = .ok ((), d') →
      Step tickets families [] d d') : Step tickets families [] d d' := by
  rcases h with ⟨-, rfl⟩ | ⟨box, hbox, hdrawn⟩
  · exact .refl hd
  · exact hedge box hbox hdrawn

/-- Drawing the operators of comparisons, with their arrows. -/
theorem drawOperators_step {top : α} {cs : List (PlacedComparison α)}
    {grid grid' : OperatorGrid α}
    (hdraw : frame.drawOperators top grid cs d = .ok (grid', d')) (hd : d.Sound tickets)
    (hready : ∀ c ∈ cs, Ready c frame.role d)
    (hknown : ∀ entry ∈ grid.known, Placed d (operatorFamily frame.role) entry.2) :
    Step tickets (operatorFamilies frame.role) [] d d' := by
  induction cs generalizing grid d with
  | nil =>
    obtain ⟨rfl, rfl⟩ := Draw.pure_ok_iff.mp hdraw
    exact .refl hd
  | cons c rest ih =>
    obtain ⟨hc, hrest⟩ := List.forall_mem_cons.mp hready
    obtain ⟨box, grid₁, d₁, d₂, d₃, hnode, hleft, hright, hdraw⟩ := drawOperators_cons_ok hdraw
    obtain ⟨hstep, hbox, hknown₁⟩ := operatorNode_step hnode hd hknown
    have hc₁ := hc.step hstep
    -- an arrow from the left operand and one to the right operand, if they have nodes
    have hstep₂ := hleft.step hstep.sound fun left hleft hedge => by
      obtain ⟨hmem, hne⟩ := (hc₁.left left hleft).ne_operator hbox
      exact comparisonEdge_step hedge hstep.sound hmem hbox.1 hne
    have hbox₂ := hstep₂.placed hbox
    have hstep₃ := hright.step hstep₂.sound fun right hright hedge => by
      obtain ⟨hmem, hne⟩ := ((hc₁.step hstep₂).right right hright).ne_operator hbox₂
      exact comparisonEdge_step hedge hstep₂.sound hbox₂.1 hmem hne.symm
    have hall := hstep.append (hstep₂.trans hstep₃)
    exact hall.trans (ih hdraw hstep₃.sound (fun c hc => (hrest c hc).step hall)
      fun entry hentry => hstep₃.placed (hstep₂.placed (hknown₁ entry hentry)))

end ComparisonFrame

end PlanDiagram.Diagram
