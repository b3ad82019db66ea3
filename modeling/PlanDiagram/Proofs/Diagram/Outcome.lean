import PlanDiagram.Proofs.Failure
import PlanDiagram.Proofs.Formula.Occurrence
import PlanDiagram.Diagram.Conversion

/-!
# Whether a diagram can be drawn

Drawing looks up colours, finds cells, counts rows, and works out the width of blocks. Colours are
known for all roles that are drawn with, so only numbers can make it fail: a cell if there are no
columns, the width of an action if the number of its columns is beyond the scalars, and the rows of
a description or of a band of comparisons if the quotient of its height and the vertical spacing has
no ceiling. Main statement: what is expected of
these computations is expected of the whole drawing; a diagram can be drawn if none of them fails.
-/

namespace PlanDiagram.Diagram

variable {α β γ : Type}

/-- A drawing gives a result with a property or fails in an expected way, whatever has been drawn
before. -/
def Draw.Gives (m : Draw α β) (expected : Fault → Prop) (result : β → Prop) : Prop :=
  ∀ d, (∃ b d', m d = .ok (b, d') ∧ result b) ∨ ∃ fault, m d = .error fault ∧ expected fault

/-- A drawing gives any result or fails in an expected way. -/
def Draw.Runs (m : Draw α β) (expected : Fault → Prop) : Prop :=
  m.Gives expected fun _ => True

namespace Draw

variable {expected : Fault → Prop} {result : β → Prop} {next : γ → Prop}

/-- A result that is at hand is given. -/
theorem Gives.pure {b : β} (h : result b) : (pure b : Draw α β).Gives expected result :=
  fun d => .inl ⟨b, d, rfl, h⟩

/-- Two drawings in turn. -/
theorem Gives.bind {m : Draw α β} {f : β → Draw α γ} (hm : m.Gives expected result)
    (hf : ∀ b, result b → (f b).Gives expected next) : (m >>= f).Gives expected next := by
  intro d
  rcases hm d with ⟨b, d', hb, hresult⟩ | ⟨fault, hfault, hexpected⟩
  · have hstep : (m >>= f) d = f b d' := by
      change (m d >>= fun p => f p.1 p.2) = _
      rw [hb]
      rfl
    rw [hstep]
    exact hf b hresult d'
  · refine .inr ⟨fault, ?_, hexpected⟩
    change (m d >>= fun p => f p.1 p.2) = _
    rw [hfault]
    rfl

/-- A weaker property of the result. -/
theorem Gives.mono {weaker : β → Prop} {m : Draw α β} (hm : m.Gives expected result)
    (h : ∀ b, result b → weaker b) : m.Gives expected weaker := by
  intro d
  rcases hm d with ⟨b, d', hb, hresult⟩ | hfault
  · exact .inl ⟨b, d', hb, h b hresult⟩
  · exact .inr hfault

/-- Two drawings in turn, the second of which runs on any result. -/
theorem Runs.bind {m : Draw α β} {f : β → Draw α γ} (hm : m.Runs expected)
    (hf : ∀ b, (f b).Gives expected next) : (m >>= f).Gives expected next :=
  Gives.bind hm fun b _ => hf b

theorem Runs.pure (b : β) : (pure b : Draw α β).Runs expected :=
  Gives.pure trivial

/-- A computation apart from the canvas. -/
theorem gives_lift {x : Except Fault β} (h : ∀ fault, x = .error fault → expected fault) :
    (liftM x : Draw α β).Gives expected fun b => x = .ok b := by
  intro d
  cases x with
  | error fault => exact .inr ⟨fault, rfl, h fault rfl⟩
  | ok b => exact .inl ⟨b, d, rfl, rfl⟩

/-- A step on the canvas that always succeeds. -/
theorem runs_onCanvas {step : Canvas α → Except Fault (β × Canvas α)}
    (h : ∀ c, ∃ result, step c = .ok result) : (onCanvas step).Runs expected := by
  intro d
  obtain ⟨⟨b, canvas⟩, hstep⟩ := h d.canvas
  refine .inl ⟨b, { d with canvas }, ?_, trivial⟩
  rw [onCanvas, hstep]
  rfl

theorem runs_group : (group : Draw α String).Runs expected :=
  fun d => .inl ⟨_, d, rfl, trivial⟩

theorem runs_get : (get : Draw α (Drawing α)).Runs expected :=
  fun d => .inl ⟨d, d, rfl, trivial⟩

theorem runs_ticket (key : String) : (ticket key : Draw α Nat).Runs expected :=
  fun _ => .inl ⟨_, _, rfl, trivial⟩

end Draw

/-- A colour is known for each role of the default palette. -/
theorem Config.exists_colour (cfg : Config α) (role : String)
    (h : (defaultPalette.lookup role).isSome = true) : ∃ colour, cfg.colour role = .ok colour := by
  unfold colour
  split
  · exact ⟨_, rfl⟩
  · obtain ⟨colour, hcolour⟩ := Option.isSome_iff_exists.mp h
    rw [hcolour]
    exact ⟨colour, rfl⟩

variable {expected : Fault → Prop} {cfg : Config α}

namespace Draw

section

variable [Add α] [LT α] [DecidableLT α]

theorem runs_rectangle (text : String) (corner : Point α) (id : String) (width height : α) :
    (rectangle cfg text corner id width height).Runs expected := by
  refine runs_onCanvas fun c => ?_
  obtain ⟨fill, hfill⟩ := cfg.exists_colour "rectangle-fill" (by decide)
  obtain ⟨stroke, hstroke⟩ := cfg.exists_colour "rectangle-stroke" (by decide)
  rw [Canvas.rectangle, hfill, hstroke]
  exact ⟨_, rfl⟩

theorem runs_ellipse (text : String) (corner : Point α) (id : String) {role : String}
    (hrole : (defaultPalette.lookup role).isSome = true) :
    (ellipse cfg text corner id role).Runs expected := by
  refine runs_onCanvas fun c => ?_
  obtain ⟨fill, hfill⟩ := cfg.exists_colour role hrole
  obtain ⟨stroke, hstroke⟩ := cfg.exists_colour "ellipse-stroke" (by decide)
  rw [Canvas.ellipse, hfill, hstroke]
  exact ⟨_, rfl⟩

theorem runs_description (text : String) (corner : Point α) (id : String) (width height : α)
    {role : String} (hfill : (defaultPalette.lookup (role ++ "-description-fill")).isSome = true)
    (hstroke : (defaultPalette.lookup (role ++ "-description-stroke")).isSome = true) :
    (description cfg text corner id width height role).Runs expected := by
  refine runs_onCanvas fun c => ?_
  obtain ⟨fill, hfill⟩ := cfg.exists_colour _ hfill
  obtain ⟨stroke, hstroke⟩ := cfg.exists_colour _ hstroke
  rw [Canvas.description, hfill, hstroke]
  exact ⟨_, rfl⟩

omit [LT α] [DecidableLT α] in
/-- What runs at any corner runs in a cell, unless there are no columns. -/
theorem runs_inCell [Mul α] [Scalar α] {left top : α} {columns index : Nat}
    {draw : Point α → Draw α β} (h : columns = 0 → expected .divisionByZero)
    (hdraw : ∀ corner, (draw corner).Runs expected) :
    (inCell cfg left top columns index draw).Runs expected := by
  unfold inCell
  split
  · rename_i hcolumns
    exact fun d => .inr ⟨.divisionByZero, rfl, h hcolumns⟩
  · exact hdraw _

omit [Add α] in
theorem runs_extend (height : α) : (extend height).Runs expected :=
  runs_onCanvas fun _ => ⟨_, rfl⟩

end

theorem runs_edge (source target : Box α) (id : String) :
    (edge cfg source target id).Runs expected := by
  refine runs_onCanvas fun c => ?_
  obtain ⟨stroke, hstroke⟩ := cfg.exists_colour "edge" (by decide)
  unfold Canvas.edge
  rw [hstroke]
  cases c.connected.contains (source.id, target.id) <;> exact ⟨_, rfl⟩

theorem runs_connectNames (anchors : List (String × Box α)) (edgeId : String) (node : Box α)
    (names : List String) (place number : Nat) :
    (connectNames cfg anchors edgeId node place number names).Runs expected := by
  induction names generalizing place number with
  | nil => exact .pure _
  | cons name rest ih =>
    unfold connectNames
    split
    · exact (ih _ _).bind fun _ => .pure trivial
    · split
      · exact (runs_edge _ _ _).bind fun _ => ih _ _
      · exact (runs_edge _ _ _).bind fun _ => ih _ _

theorem runs_connectAll (anchors : List (String × Box α)) (edgeId : String)
    (nodes : List (Box α × String × List Formula)) (number : Nat) :
    (connectAll cfg anchors edgeId number nodes).Runs expected := by
  induction nodes generalizing number with
  | nil => exact .pure _
  | cons node rest ih =>
    obtain ⟨box, owner, arguments⟩ := node
    unfold connectAll
    exact (runs_connectNames _ _ _ _ _ _).bind fun _ => (ih _).bind fun _ => .pure trivial

end Draw

namespace NumericFrame

section

variable {frame : NumericFrame α}

theorem runs_numericEdge (source target : Box α) :
    (frame.numericEdge source target).Runs expected := by
  unfold numericEdge
  exact (Draw.runs_ticket _).bind fun _ => Draw.runs_group.bind fun _ => Draw.runs_edge _ _ _

variable [Add α] [Mul α] [LT α] [DecidableLT α] [Scalar α]
  (h : frame.cfg.actionColumns = 0 → expected .divisionByZero)

include h

theorem runs_node (band : NumericBand α) (text id counter : String) {role : String}
    (hrole : (defaultPalette.lookup role).isSome = true) :
    (frame.node band text id counter role).Runs expected := by
  unfold node
  exact (Draw.runs_ticket _).bind fun _ =>
    (Draw.runs_inCell h fun _ => Draw.runs_ellipse _ _ _ hrole).bind fun _ => .pure trivial

theorem runs_operatorNode (band : NumericBand α) (text suffix : String) {role : String}
    (hrole : (defaultPalette.lookup role).isSome = true) :
    (frame.operatorNode band text suffix role).Runs expected := by
  unfold operatorNode
  exact Draw.runs_group.bind fun _ => runs_node h _ _ _ _ hrole

theorem runs_literalNode (band : NumericBand α) (text suffix : String) :
    (frame.literalNode band text suffix).Runs expected := by
  unfold literalNode
  exact Draw.runs_group.bind fun _ => runs_node h _ _ _ _ (by decide)

theorem runs_functionNode (band : NumericBand α) (name : String) (arguments : List Formula) :
    (frame.functionNode band name arguments).Runs expected := by
  unfold functionNode
  simp only
  split
  · exact .pure _
  · exact Draw.runs_group.bind fun _ =>
      (runs_node h _ _ _ _ (by decide)).bind fun _ => .pure trivial

theorem runs_innerNode (parent : Box α) (suffix : String) (band : NumericBand α) (f : Formula)
    {role : String} (hrole : (defaultPalette.lookup role).isSome = true) :
    (frame.innerNode parent suffix band f role).Runs expected := by
  unfold innerNode
  exact (runs_operatorNode h _ _ _ hrole).bind fun _ => (runs_numericEdge _ _).bind fun _ =>
    .pure trivial

omit h

mutual

/-- Operands can be drawn. -/
theorem runs_drawOperand (h : frame.cfg.actionColumns = 0 → expected .divisionByZero)
    (parent : Box α) (suffix : String) (band : NumericBand α) (f : Formula) :
    (frame.drawOperand parent suffix band f).Runs expected := by
  match f with
  | .parameter name type =>
    unfold drawOperand
    split
    · exact (runs_numericEdge _ _).bind fun _ => .pure trivial
    · exact (runs_literalNode h _ _ _).bind fun _ => (runs_numericEdge _ _).bind fun _ =>
        .pure trivial
  | .number value =>
    unfold drawOperand
    exact (runs_literalNode h _ _ _).bind fun _ =>
      (runs_numericEdge _ _).bind fun _ => .pure trivial
  | .function name arguments =>
    unfold drawOperand
    exact (runs_functionNode h _ _ _).bind fun _ =>
      (runs_numericEdge _ _).bind fun _ => .pure trivial
  | .predicate name arguments =>
    unfold drawOperand
    exact (runs_innerNode h _ _ _ _ (by decide)).bind fun _ => runs_drawOperands h _ _ _ _ arguments
  | .negation argument =>
    unfold drawOperand
    exact (runs_innerNode h _ _ _ _ (by decide)).bind fun _ => runs_drawOperand h _ _ _ argument
  | .numeric change arguments =>
    unfold drawOperand
    exact (runs_innerNode h _ _ _ _ (by decide)).bind fun _ => runs_drawOperands h _ _ _ _ arguments
  | .comparison op arguments =>
    unfold drawOperand
    exact (runs_innerNode h _ _ _ _ (by decide)).bind fun _ => runs_drawOperands h _ _ _ _ arguments
  | .arithmetic op arguments =>
    unfold drawOperand
    exact (runs_innerNode h _ _ _ _ (by decide)).bind fun _ => runs_drawOperands h _ _ _ _ arguments
  | .composite op items bound =>
    unfold drawOperand
    exact (runs_innerNode h _ _ _ _ (by decide)).bind fun _ => runs_drawOperands h _ _ _ _ items

/-- Lists of operands can be drawn. -/
theorem runs_drawOperands (h : frame.cfg.actionColumns = 0 → expected .divisionByZero)
    (parent : Box α) (suffix : String) (place : Nat) (band : NumericBand α) (fs : List Formula) :
    (frame.drawOperands parent suffix place band fs).Runs expected := by
  match fs with
  | [] =>
    unfold drawOperands
    exact .pure _
  | f :: rest =>
    unfold drawOperands
    exact (runs_drawOperand h _ _ _ f).bind fun _ => runs_drawOperands h _ _ _ _ rest

end

include h

theorem runs_drawChanges (uses : List ChangeUse) (index : Nat) (band : NumericBand α) :
    (frame.drawChanges index band uses).Runs expected := by
  induction uses generalizing index band with
  | nil => exact .pure _
  | cons use rest ih =>
    unfold drawChanges
    exact (runs_operatorNode h _ _ _ (by decide)).bind fun _ =>
      (runs_drawOperands h _ _ _ _ _).bind fun _ => ih _ _

theorem runs_drawComparisons (uses : List ComparisonUse) (index : Nat) (band : NumericBand α) :
    (frame.drawComparisons index band uses).Runs expected := by
  induction uses generalizing index band with
  | nil => exact .pure _
  | cons use rest ih =>
    unfold drawComparisons
    exact (runs_operatorNode h _ _ _ (by decide)).bind fun _ =>
      (runs_drawOperands h _ _ _ _ _).bind fun _ => ih _ _

end

end NumericFrame

/-- The rows that a height fills at the vertical spacing. -/
def rowsOf [Scalar α] (cfg : Config α) (height : α) : Except Fault Int := do
  Scalar.ceiling (← Scalar.quotient height cfg.spacingY)

/-- Counting the rows of a height in the course of a drawing. -/
theorem Draw.gives_rows_bind [Scalar α] {height : α} {f : Int → Draw α β} {result : β → Prop}
    (h : ∀ fault, rowsOf cfg height = .error fault → expected fault)
    (hf : ∀ rows, (f rows).Gives expected result) :
    ((liftM (Scalar.quotient height cfg.spacingY) : Draw α α) >>= fun q =>
      (liftM (Scalar.ceiling q) : Draw α Int) >>= f).Gives expected result := by
  have hquotient (fault : Fault) (hfault : Scalar.quotient height cfg.spacingY = .error fault) :
      expected fault := h fault (by rw [rowsOf, hfault]; rfl)
  refine (gives_lift hquotient).bind fun q hq => ?_
  have hceiling (fault : Fault) (hfault : Scalar.ceiling q = .error fault) : expected fault :=
    h fault (by rw [rowsOf, hq]; exact hfault)
  exact (gives_lift hceiling).bind fun rows _ => hf rows

section

variable [Add α] [Mul α] [LT α] [DecidableLT α] [Scalar α]

/-- What can go wrong with the block of an action is expected. -/
structure Config.ActionExpected [Sub α] (cfg : Config α) (expected : Fault → Prop) : Prop where
  columns : cfg.actionColumns = 0 → expected .divisionByZero
  width : ∀ fault, cfg.actionWidth = .error fault → expected fault
  rows : ∀ fault, rowsOf cfg (cfg.nodeHeight * Scalar.ofNat 2) = .error fault → expected fault

namespace ActionBlock

section

variable (h : cfg.actionColumns = 0 → expected .divisionByZero)

include h

theorem runs_drawLiterals (left top : α) {uses : List LiteralUse}
    (huses : ∀ use ∈ uses, (defaultPalette.lookup use.role.name).isSome = true) (index : Nat) :
    (drawLiterals cfg left top index uses).Runs expected := by
  induction uses generalizing index with
  | nil => exact .pure _
  | cons use rest ih =>
    obtain ⟨huse, hrest⟩ := List.forall_mem_cons.mp huses
    unfold drawLiterals
    exact Draw.runs_group.bind fun _ =>
      (Draw.runs_inCell h fun _ => Draw.runs_ellipse _ _ _ huse).bind fun _ =>
      (ih hrest _).bind fun _ => .pure trivial

theorem runs_drawParameters (left top : α) (parameters : List Parameter) (index : Nat) :
    (drawParameters cfg left top index parameters).Runs expected := by
  induction parameters generalizing index with
  | nil => exact .pure _
  | cons p rest ih =>
    unfold drawParameters
    exact Draw.runs_group.bind fun _ =>
      (Draw.runs_inCell h fun _ => Draw.runs_rectangle _ _ _ _ _).bind fun _ =>
      (ih _).bind fun _ => .pure trivial

theorem runs_drawPreconditions (x : α) {literals : List LiteralUse}
    (hroles : ∀ use ∈ literals, use.role = .precondition) (cursor : Cursor α) :
    (drawPreconditions cfg x literals cursor).Runs expected := by
  unfold drawPreconditions
  split
  · exact .pure _
  · refine (runs_drawLiterals h _ _ (fun use huse => ?_) _).bind fun _ => .pure trivial
    rw [hroles use huse]
    decide

theorem runs_drawParameterBand (x : α) (parameters : List Parameter) (afterPreconditions : Bool)
    (cursor : Cursor α) :
    (drawParameterBand cfg x parameters afterPreconditions cursor).Runs expected := by
  unfold drawParameterBand
  split
  · split <;> exact .pure _
  · exact (runs_drawParameters h _ _ _ _).bind fun _ => .pure trivial

theorem runs_drawEffects (x : α) {literals : List LiteralUse}
    (hroles : ∀ use ∈ literals, use.role = .effect) (cursor : Cursor α) :
    (drawEffects cfg x literals cursor).Runs expected := by
  unfold drawEffects
  split
  · exact .pure _
  · refine (runs_drawLiterals h _ _ (fun use huse => ?_) _).bind fun _ =>
      (Draw.runs_extend _).bind fun _ => .pure trivial
    rw [hroles use huse]
    decide

theorem runs_drawNumericBand (x : α) (anchors : List (String × Box α)) (changes : List ChangeUse)
    (comparisons : List ComparisonUse) (afterEffects : Bool) (cursor : Cursor α) :
    (drawNumericBand cfg x anchors changes comparisons afterEffects cursor).Runs expected := by
  unfold drawNumericBand
  split
  · exact .pure _
  · exact (NumericFrame.runs_drawChanges h _ _ _).bind fun _ =>
      (NumericFrame.runs_drawComparisons h _ _ _).bind fun _ => .pure trivial

end

variable [Sub α]

/-- The head of an action needs its width and the rows of its description. -/
theorem runs_drawHead (h : cfg.ActionExpected expected) (action : Action) (x y : α) :
    (drawHead cfg action x y).Runs expected := by
  unfold drawHead
  exact Draw.runs_group.bind fun _ => (Draw.gives_lift h.width).bind fun _ _ =>
    (Draw.runs_rectangle _ _ _ _ _).bind fun _ =>
    (Draw.runs_description _ _ _ _ _ (by decide) (by decide)).bind fun _ =>
    Draw.gives_rows_bind h.rows fun _ => .pure trivial

/-- The block of an action can be drawn if its head can and there are columns. -/
theorem runs_draw (h : cfg.ActionExpected expected) (action : Action) (x y : α) :
    (draw cfg action x y).Runs expected := by
  unfold draw
  exact Draw.runs_group.bind fun _ => (runs_drawHead h _ _ _).bind fun _ =>
    (runs_drawPreconditions h.columns _
      (fun _ => Occurrences.role_of_mem_distinctLiterals) _).bind fun _ =>
    (runs_drawParameterBand h.columns _ _ _ _).bind fun _ =>
    (runs_drawEffects h.columns _
      (fun _ => Occurrences.role_of_mem_distinctLiterals) _).bind fun _ =>
    (runs_drawNumericBand h.columns _ _ _ _ _ _).bind fun _ =>
    (Draw.runs_connectAll _ _ _ _).bind fun _ => Draw.runs_get.bind fun _ =>
    (Draw.gives_lift h.width).bind fun _ _ => .pure trivial

end ActionBlock

namespace ComparisonFrame

variable {frame : ComparisonFrame α}

omit [Add α] [Mul α] [LT α] [DecidableLT α] [Scalar α] in
theorem runs_comparisonEdge (direction : String) (source target : Box α) :
    (frame.comparisonEdge direction source target).Runs expected := by
  unfold comparisonEdge
  exact (Draw.runs_ticket _).bind fun _ => Draw.runs_group.bind fun _ => Draw.runs_edge _ _ _

variable (h : frame.columns = 0 → expected .divisionByZero)

include h

/-- The node of an operand fills a cell. -/
theorem gives_operandNode (top : α) (grid : OperandGrid α) (text id : String) :
    (frame.operandNode top grid text id).Gives expected fun drawn =>
      drawn.2.placed = grid.placed + 1 := by
  unfold operandNode
  exact (Draw.runs_inCell h fun _ => Draw.runs_ellipse _ _ _ (by decide)).bind fun _ => .pure rfl

/-- The node of a function fills a cell, unless it is there already. -/
theorem gives_functionNode (top : α) (grid : OperandGrid α) (suffix name : String)
    (arguments : List Formula) :
    (frame.functionNode top grid suffix name arguments).Gives expected fun drawn =>
      drawn.2.placed ≤ grid.placed + 1 := by
  unfold functionNode
  split
  · exact .pure (Nat.le_succ _)
  · exact (Draw.runs_ticket _).bind fun _ => Draw.runs_group.bind fun _ =>
      (gives_operandNode h _ _ _ _).bind fun _ hplaced => .pure (Nat.le_of_eq hplaced)

/-- An operand fills a cell at most. -/
theorem gives_operand (top : α) (grid : OperandGrid α) (suffix : String) (f? : Option Formula) :
    (frame.operand top grid suffix f?).Gives expected fun drawn =>
      drawn.2.2.placed ≤ grid.placed + 1 := by
  unfold operand
  split
  · exact .pure (Nat.le_succ _)
  · exact (gives_functionNode h _ _ _ _ _).bind fun _ hplaced => .pure hplaced
  · split
    · exact .pure (Nat.le_succ _)
    · exact (Draw.runs_ticket _).bind fun _ => Draw.runs_group.bind fun _ =>
        (gives_operandNode h _ _ _ _).bind fun _ hplaced => .pure (Nat.le_of_eq hplaced)

/-- The operands of comparisons fill two cells for each at most. -/
theorem gives_drawOperands (top : α) (uses : List ComparisonUse) (index : Nat)
    (grid : OperandGrid α) :
    (frame.drawOperands top index grid uses).Gives expected fun drawn =>
      drawn.1.length = uses.length ∧ drawn.2.placed ≤ grid.placed + 2 * uses.length := by
  induction uses generalizing index grid with
  | nil => exact .pure ⟨rfl, Nat.le_refl _⟩
  | cons use rest ih =>
    unfold drawOperands
    refine (gives_operand h _ _ _ _).bind fun ⟨left, leftText, grid₁⟩ hleft =>
      (gives_operand h _ _ _ _).bind fun ⟨right, rightText, grid₂⟩ hright =>
      (ih _ _).bind fun ⟨others, grid₃⟩ ⟨hlength, hplaced⟩ => .pure ?_
    simp only [List.length_cons] at *
    exact ⟨congrArg (· + 1) hlength, by omega⟩

/-- The node of an operator fills a cell, unless it is shared. -/
theorem gives_operatorNode (top : α) (grid : OperatorGrid α) (c : PlacedComparison α) :
    (frame.operatorNode top grid c).Gives expected fun drawn =>
      drawn.2.placed ≤ grid.placed + 1 := by
  unfold operatorNode
  split
  · exact .pure (Nat.le_succ _)
  · exact (Draw.runs_ticket _).bind fun _ => Draw.runs_group.bind fun _ =>
      (Draw.runs_inCell h fun _ => Draw.runs_ellipse _ _ _ (by decide)).bind fun _ =>
        .pure (Nat.le_refl _)

/-- The operators of comparisons fill a cell for each at most. -/
theorem gives_drawOperators (top : α) (cs : List (PlacedComparison α)) (grid : OperatorGrid α) :
    (frame.drawOperators top grid cs).Gives expected fun drawn =>
      drawn.placed ≤ grid.placed + cs.length := by
  induction cs generalizing grid with
  | nil => exact .pure (Nat.le_refl _)
  | cons c rest ih =>
    unfold drawOperators
    refine (gives_operatorNode h _ _ _).bind fun ⟨box, grid₁⟩ hplaced => ?_
    have hrest : (frame.drawOperators top grid₁ rest).Gives expected fun last =>
        last.placed ≤ grid.placed + (c :: rest).length := by
      refine (ih _).mono fun last hlast => ?_
      simp only [List.length_cons] at *
      omega
    cases c.left <;> cases c.right
    · exact hrest
    · exact (runs_comparisonEdge _ _ _).bind fun _ => hrest
    · exact (runs_comparisonEdge _ _ _).bind fun _ => hrest
    · exact (runs_comparisonEdge _ _ _).bind fun _ => (runs_comparisonEdge _ _ _).bind fun _ =>
        hrest

end ComparisonFrame

/-- The height of a band of comparisons with some operands and operators. -/
def Config.bandHeight (cfg : Config α) (columns operands operators : Nat) : α :=
  let operandHeight := Scalar.ofNat (rowCount operands columns) * cfg.spacingY
  let rowGap := if Scalar.ofNat 0 < operandHeight then cfg.sectionGap else Scalar.ofNat 0
  operandHeight + rowGap + Scalar.ofNat (rowCount operators columns) * cfg.spacingY

/-- What can go wrong with bands of up to `n` comparisons is expected. -/
def Config.BandsExpected (cfg : Config α) (n : Nat) (expected : Fault → Prop) : Prop :=
  ∀ columns operands operators, 0 < n → operands ≤ 2 * n → operators ≤ n →
    ∀ fault, rowsOf cfg (cfg.bandHeight columns operands operators) = .error fault → expected fault

omit [Add α] [Mul α] [LT α] [DecidableLT α] [Scalar α] in
/-- There is a column for comparisons. -/
theorem ProblemFrame.comparisonColumns_pos (f : ProblemFrame α) : 0 < f.comparisonColumns :=
  Nat.le_max_left 1 f.columns

namespace ProblemBlock

variable {f : ProblemFrame α}

section

variable (h : f.columns = 0 → expected .divisionByZero)

include h

theorem runs_drawLiterals (role : Role) (top : α) (uses : List LiteralUse) (index : Nat) :
    (drawLiterals f role top index uses).Runs expected := by
  have hrole : (defaultPalette.lookup (literalFill role)).isSome = true := by
    cases role <;> decide
  induction uses generalizing index with
  | nil => exact .pure _
  | cons use rest ih =>
    unfold drawLiterals
    exact Draw.runs_group.bind fun _ =>
      (Draw.runs_inCell h fun _ => Draw.runs_ellipse _ _ _ hrole).bind fun _ =>
      (ih _).bind fun _ => .pure trivial

theorem runs_drawLiteralBand (role : Role) (literals : List LiteralUse) (cursor : BandCursor α) :
    (drawLiteralBand f role literals cursor).Runs expected := by
  unfold drawLiteralBand
  split
  · exact .pure _
  · exact (runs_drawLiterals h _ _ _ _).bind fun _ => .pure trivial

theorem runs_drawObjects (top : α) (objects : List Parameter) (index : Nat) :
    (drawObjects f top index objects).Runs expected := by
  induction objects generalizing index with
  | nil => exact .pure _
  | cons p rest ih =>
    unfold drawObjects
    exact Draw.runs_group.bind fun _ =>
      (Draw.runs_inCell h fun _ => Draw.runs_rectangle _ _ _ _ _).bind fun _ =>
      (ih _).bind fun _ => .pure trivial

theorem runs_drawObjectBand (objects : List Parameter) (cursor : BandCursor α) :
    (drawObjectBand f objects cursor).Runs expected := by
  unfold drawObjectBand
  split
  · exact .pure _
  · exact (runs_drawObjects h _ _ _).bind fun _ => .pure trivial

end

/-- A band of comparisons can be drawn if its rows can be counted. -/
theorem runs_drawComparisonBand {n : Nat} (h : f.cfg.BandsExpected n expected) (role : Role)
    {comparisons : List ComparisonUse} (hn : comparisons.length ≤ n) (cursor : BandCursor α) :
    (drawComparisonBand f role comparisons cursor).Runs expected := by
  unfold drawComparisonBand
  split
  · exact .pure _
  · rename_i hsome
    have hpos : 0 < comparisons.length :=
      List.length_pos_iff.mpr fun hnil => hsome (by rw [hnil]; rfl)
    have hcolumns : f.comparisonColumns = 0 → expected .divisionByZero := fun hzero =>
      absurd hzero (Nat.ne_of_gt f.comparisonColumns_pos)
    refine (ComparisonFrame.gives_drawOperands hcolumns _ _ _ _).bind
      fun ⟨placed, operands⟩ ⟨hlength, hoperands⟩ =>
      (ComparisonFrame.gives_drawOperators hcolumns _ _ _).bind fun operators hoperators =>
      (Draw.runs_extend _).bind fun _ =>
      Draw.gives_rows_bind (h f.comparisonColumns operands.placed operators.placed ?_ ?_ ?_)
        fun _ => .pure trivial
    · omega
    · simp only at hoperands
      omega
    · simp only at hoperators hlength
      omega

omit [Mul α] in
theorem runs_drawSidebar (problem : Problem) (x y objectBottom : α) :
    (drawSidebar f problem x y objectBottom).Runs expected := by
  unfold drawSidebar
  exact Draw.runs_group.bind fun _ =>
    (Draw.runs_description _ _ _ _ _ (by decide) (by decide)).bind fun _ =>
    (Draw.runs_description _ _ _ _ _ (by decide) (by decide)).bind fun _ => .pure trivial

omit [Add α] [Mul α] [LT α] [DecidableLT α] [Scalar α] in
/-- There are columns if they are allowed. -/
theorem columnCount_pos (h : 0 < cfg.problemMaxColumns) (counts : List Nat) :
    0 < columnCount cfg counts := by
  have hgreatest (counts : List Nat) : ∀ a, a ≤ counts.foldl max a := by
    induction counts with
    | nil => exact fun a => Nat.le_refl a
    | cons c rest ih => exact fun a => Nat.le_trans (Nat.le_max_left a c) (ih (max a c))
  exact Nat.lt_min.mpr ⟨h, hgreatest counts 1⟩

omit [Add α] [Mul α] [LT α] [DecidableLT α] [Scalar α] in
/-- What can go wrong with a block without columns is expected. -/
theorem expected_of_columnCount (h : cfg.problemMaxColumns = 0 → expected .divisionByZero)
    {counts : List Nat} (hzero : columnCount cfg counts = 0) : expected .divisionByZero := by
  refine h (Nat.eq_zero_of_not_pos fun hpos => ?_)
  exact absurd hzero (Nat.ne_of_gt (columnCount_pos hpos counts))

/-- The block of a problem can be drawn if there are columns and the bands of its comparisons can be
drawn. -/
theorem runs_draw [Sub α] {n : Nat}
    (hcolumns : cfg.problemMaxColumns = 0 → expected .divisionByZero)
    (h : cfg.BandsExpected n expected) {problem : Problem}
    (hinit :
      (({} : Occurrences).collect .init (problem.init.map some)).comparisons.length ≤ n)
    (hgoal : (({} : Occurrences).collect .goal [problem.goal]).comparisons.length ≤ n) (x y : α) :
    (draw cfg problem x y).Runs expected := by
  unfold draw
  exact Draw.runs_group.bind fun _ => (runs_drawComparisonBand h _ hinit _).bind fun _ =>
    (runs_drawLiteralBand (expected_of_columnCount hcolumns) _ _ _).bind fun _ =>
    (runs_drawObjectBand (expected_of_columnCount hcolumns) _ _).bind fun _ =>
    (runs_drawLiteralBand (expected_of_columnCount hcolumns) _ _ _).bind fun _ =>
    (runs_drawComparisonBand h _ hgoal _).bind fun _ => (runs_drawSidebar _ _ _ _).bind fun _ =>
    (Draw.runs_connectAll _ _ _ _).bind fun _ => (Draw.runs_connectAll _ _ _ _).bind fun _ =>
    Draw.runs_get.bind fun _ => .pure trivial

end ProblemBlock

variable [Sub α]

omit [Add α] [Mul α] [LT α] [DecidableLT α] [Scalar α] [Sub α] in
/-- A drawing that runs is run to a block, or fails in an expected way. -/
theorem Draw.Runs.run {m : Draw α (Block α)} (h : m.Runs expected) (session : Session)
    (group : String) (bottom : α) : FailsOnly (Draw.run session group bottom m).2 expected := by
  intro fault hfault
  unfold Draw.run at hfault
  rcases h { canvas := { group, bottom }, session } with ⟨b, d', hb, -⟩ | ⟨other, hother, hexpected⟩
  · rw [hb] at hfault
    cases hfault
  · rw [hother] at hfault
    obtain rfl : other = fault := Except.error.inj hfault
    exact hexpected

/-- The blocks of actions can be drawn if their heads can. -/
theorem failsOnly_actionBlocks (h : cfg.ActionExpected expected) (actions : List Action)
    (session : Session) (x : α) :
    FailsOnly (actionBlocks cfg session x actions).2 expected := by
  induction actions generalizing session x with
  | nil => exact FailsOnly.ok _
  | cons action rest ih =>
    intro fault hfault
    unfold actionBlocks at hfault
    split at hfault
    · rename_i hblock
      obtain rfl := Except.error.inj hfault
      exact (ActionBlock.runs_draw h action x cfg.startY).run _ _ _ _ (congrArg Prod.snd hblock)
    · exact ih _ _ fault (map_eq_error_iff.mp hfault)

/-- What can go wrong with the diagram of a domain or problem is expected. -/
def Config.DiagramExpected (cfg : Config α) (expected : Fault → Prop) : Structure → Prop
  | .domain domain => domain.actions ≠ [] → cfg.ActionExpected expected
  | .problem problem => (cfg.problemMaxColumns = 0 → expected .divisionByZero) ∧
      cfg.BandsExpected
        (max (({} : Occurrences).collect .init (problem.init.map some)).comparisons.length
          (({} : Occurrences).collect .goal [problem.goal]).comparisons.length) expected

/-- A diagram can be drawn unless something goes wrong that is expected. -/
theorem failsOnly_structureBlocks {s : Structure} (h : cfg.DiagramExpected expected s)
    (session : Session) : FailsOnly (structureBlocks cfg session s).2 expected := by
  cases s with
  | domain domain =>
    change FailsOnly (actionBlocks cfg session cfg.startX domain.actions).2 expected
    cases hactions : domain.actions with
    | nil => exact FailsOnly.ok _
    | cons action rest =>
      have hactions : domain.actions ≠ [] := hactions ▸ List.cons_ne_nil action rest
      have hexpected : cfg.ActionExpected expected := h hactions
      exact failsOnly_actionBlocks hexpected _ _ _
  | problem problem =>
    have hdraw := ProblemBlock.runs_draw h.1 h.2 (Nat.le_max_left _ _) (Nat.le_max_right _ _)
      cfg.startX cfg.startY
    exact (hdraw.run _ _ _).map _

end

end PlanDiagram.Diagram
