import PlanDiagram.Diagram.ProblemBlock
import PlanDiagram.Proofs.Diagram.Draw

/-!
# Stages of a drawing

The block of an action or problem is drawn band by band. Each band goes on with the drawing and the
cursor that the one before has left. What a drawing that succeeds has gone through is taken apart
here, for blocks and for those of their bands that have parts of their own, so that facts about the
parts can be put together for the whole.
-/

namespace PlanDiagram

/-- What is found in the formulas of an action for a role. -/
def Action.found (action : Action) : Role → Occurrences
  | .precondition => ({} : Occurrences).collect .precondition (action.preconditions.map some)
  | .effect => ({} : Occurrences).collect .effect (action.effects.map some)
  | _ => {}

/-- What is found in the formulas of a problem for a role. -/
def Problem.found (problem : Problem) : Role → Occurrences
  | .init => ({} : Occurrences).collect .init (problem.init.map some)
  | .goal => ({} : Occurrences).collect .goal [problem.goal]
  | _ => {}

namespace Diagram

variable {α : Type} [Add α] [Mul α] [LT α] [DecidableLT α] [Scalar α] {d d' : Drawing α}

namespace ProblemBlock

variable {f : ProblemFrame α} {role : Role} {comparisons : List ComparisonUse}
  {result : List (FunctionUse α) × BandCursor α}

/-- The frame in which the comparisons of a role are drawn. -/
abbrev comparisonFrame (f : ProblemFrame α) (role : Role) : ComparisonFrame α where
  cfg := f.cfg
  role := role
  left := f.left
  columns := f.comparisonColumns

/-- The height of the rows of some operands or operators. -/
def rowsHeight (f : ProblemFrame α) (cells : Nat) : α :=
  Scalar.ofNat (rowCount cells f.comparisonColumns) * f.cfg.spacingY

/-- The gap below the operands of a band of comparisons; without operands there is none. -/
def operandGap (f : ProblemFrame α) (operands : Nat) : α :=
  if Scalar.ofNat 0 < rowsHeight f operands then f.cfg.sectionGap else Scalar.ofNat 0

/-- The stages of drawing a band of comparisons: first the operands and then, below them, the
operators. -/
structure ComparisonStages (f : ProblemFrame α) (role : Role) (comparisons : List ComparisonUse)
    (top : α) (result : List (FunctionUse α) × BandCursor α) (d d' : Drawing α) where
  placed : List (PlacedComparison α)
  operands : OperandGrid α
  operators : OperatorGrid α
  afterOperands : Drawing α
  afterOperators : Drawing α
  operands_eq : (comparisonFrame f role).drawOperands top 0 {} comparisons d =
    .ok ((placed, operands), afterOperands)
  operators_eq : (comparisonFrame f role).drawOperators
    (top + rowsHeight f operands.placed + operandGap f operands.placed) {} placed afterOperands =
      .ok (operators, afterOperators)
  extend_eq : Draw.extend (top + rowsHeight f operands.placed + operandGap f operands.placed +
    rowsHeight f operators.placed) afterOperators = .ok ((), d')
  uses_eq : result.1 = operands.uses
  next_eq : result.2.next = top + (rowsHeight f operands.placed + operandGap f operands.placed +
    rowsHeight f operators.placed) + f.cfg.sectionGap

/-- A band of comparisons is left out, or its drawing has gone through the stages. -/
theorem comparisonStages_or {cursor : BandCursor α}
    (hdraw : drawComparisonBand f role comparisons cursor d = .ok (result, d')) :
    (comparisons = [] ∧ result = ([], cursor) ∧ d' = d) ∨
      Nonempty (ComparisonStages f role comparisons cursor.next result d d') := by
  unfold drawComparisonBand at hdraw
  by_cases hnone : comparisons.isEmpty = true
  · rw [if_pos hnone] at hdraw
    obtain ⟨rfl, rfl⟩ := Draw.pure_ok_iff.mp hdraw
    exact .inl ⟨List.isEmpty_iff.mp hnone, rfl, rfl⟩
  · rw [if_neg hnone] at hdraw
    dsimp only at hdraw
    obtain ⟨⟨placed, operands⟩, d₁, hoperands, hdraw⟩ := Draw.bind_ok_iff.mp hdraw
    obtain ⟨operators, d₂, hoperators, hdraw⟩ := Draw.bind_ok_iff.mp hdraw
    obtain ⟨u, d₃, hextend, hdraw⟩ := Draw.bind_ok_iff.mp hdraw
    obtain ⟨quotient, d₄, hquotient, hdraw⟩ := Draw.bind_ok_iff.mp hdraw
    obtain ⟨-, rfl⟩ := Draw.lift_ok_iff.mp hquotient
    obtain ⟨rows, d₅, hrows, hdraw⟩ := Draw.bind_ok_iff.mp hdraw
    obtain ⟨-, rfl⟩ := Draw.lift_ok_iff.mp hrows
    obtain ⟨rfl, rfl⟩ := Draw.pure_ok_iff.mp hdraw
    exact .inr ⟨⟨placed, operands, operators, d₁, d₂, hoperands, hoperators, hextend, rfl, rfl⟩⟩

omit [Mul α] in
/-- The sidebar has a description of the facts, and one of the goal below it. -/
theorem drawSidebar_ok {problem : Problem} {x y objectBottom : α} {u : Unit}
    (hdraw : drawSidebar f problem x y objectBottom d = .ok (u, d')) :
    ∃ init goal d₁,
      Draw.description f.cfg (shownText problem.initDescription "Init description") ⟨x, y⟩
        (d.canvas.group ++ "-init-description") f.sidebarWidth f.sidebarHeight "problem-init" d =
          .ok (init, d₁) ∧
      Draw.description f.cfg (shownText problem.goalDescription "Goal description")
        ⟨x, greater (objectBottom + f.cfg.sectionGap) (y + f.sidebarHeight + f.cfg.sectionGap)⟩
        (d.canvas.group ++ "-goal-description") f.sidebarWidth (Scalar.half f.sidebarHeight)
        "problem-goal" d₁ = .ok (goal, d') := by
  simp only [drawSidebar] at hdraw
  obtain ⟨group, d₁, hgroup, hdraw⟩ := Draw.bind_ok_iff.mp hdraw
  obtain ⟨rfl, rfl⟩ := Draw.group_ok_iff.mp hgroup
  obtain ⟨init, d₁, hinit, hdraw⟩ := Draw.bind_ok_iff.mp hdraw
  obtain ⟨goal, d₂, hgoal, hdraw⟩ := Draw.bind_ok_iff.mp hdraw
  obtain ⟨-, rfl⟩ := Draw.pure_ok_iff.mp hdraw
  exact ⟨init, goal, d₁, hinit, hgoal⟩

end ProblemBlock

variable {cfg : Config α} {x y : α}

namespace ActionBlock

/-- The head of an action has its title, and its description below it. -/
theorem drawHead_ok [Sub α] {action : Action} {cursor : Cursor α}
    (hdraw : drawHead cfg action x y d = .ok (cursor, d')) :
    ∃ width title description d₁, cfg.actionWidth = .ok width ∧
      Draw.rectangle cfg ("Action: " ++ action.name) ⟨x, y⟩ (d.canvas.group ++ "-title") width
        cfg.nodeHeight d = .ok (title, d₁) ∧
      Draw.description cfg (shownText action.description "Action description")
        ⟨x, y + cfg.spacingY⟩ (d.canvas.group ++ "-description") width
        (cfg.nodeHeight * Scalar.ofNat 2) "action" d₁ = .ok (description, d') ∧
      cursor.next = y + cfg.spacingY + (cfg.nodeHeight * Scalar.ofNat 2 + cfg.sectionGap) := by
  simp only [drawHead] at hdraw
  obtain ⟨group, d₁, hgroup, hdraw⟩ := Draw.bind_ok_iff.mp hdraw
  obtain ⟨rfl, rfl⟩ := Draw.group_ok_iff.mp hgroup
  obtain ⟨width, d₁, hlift, hdraw⟩ := Draw.bind_ok_iff.mp hdraw
  obtain ⟨hwidth, rfl⟩ := Draw.lift_ok_iff.mp hlift
  obtain ⟨title, d₁, htitle, hdraw⟩ := Draw.bind_ok_iff.mp hdraw
  obtain ⟨description, d₂, hdescription, hdraw⟩ := Draw.bind_ok_iff.mp hdraw
  obtain ⟨quotient, d₃, hquotient, hdraw⟩ := Draw.bind_ok_iff.mp hdraw
  obtain ⟨-, rfl⟩ := Draw.lift_ok_iff.mp hquotient
  obtain ⟨rows, d₄, hrows, hdraw⟩ := Draw.bind_ok_iff.mp hdraw
  obtain ⟨-, rfl⟩ := Draw.lift_ok_iff.mp hrows
  obtain ⟨rfl, rfl⟩ := Draw.pure_ok_iff.mp hdraw
  exact ⟨width, title, description, d₁, hwidth, htitle, hdescription, rfl⟩

/-- Where the numeric band of an action starts. -/
def numericTop (cfg : Config α) (after : Bool) (cursor : Cursor α) : α :=
  if after then cursor.next + cfg.sectionGap else cursor.next

/-- The numeric band is left out, or the effects are drawn in it and then the comparisons. -/
theorem drawNumericBand_ok {anchors : List (String × Box α)} {changes : List ChangeUse}
    {comparisons : List ComparisonUse} {after : Bool} {cursor : Cursor α}
    {result : NumericBand α × Cursor α}
    (hdraw : drawNumericBand cfg x anchors changes comparisons after cursor d = .ok (result, d')) :
    (changes = [] ∧ comparisons = [] ∧ result = ({}, cursor) ∧ d' = d) ∨
      ∃ band d₁, let frame : NumericFrame α := ⟨cfg, x, numericTop cfg after cursor, anchors⟩
        frame.drawChanges 0 {} changes d = .ok (band, d₁) ∧
        frame.drawComparisons 0 band comparisons d₁ = .ok (result.1, d') ∧
        result.2.next = numericTop cfg after cursor +
          Scalar.ofNat (rowCount (max 1 result.1.placed) cfg.actionColumns) * cfg.spacingY := by
  unfold drawNumericBand at hdraw
  by_cases hnone : (changes.isEmpty && comparisons.isEmpty) = true
  · rw [if_pos hnone] at hdraw
    obtain ⟨rfl, rfl⟩ := Draw.pure_ok_iff.mp hdraw
    rw [Bool.and_eq_true, List.isEmpty_iff, List.isEmpty_iff] at hnone
    exact .inl ⟨hnone.1, hnone.2, rfl, rfl⟩
  · rw [if_neg hnone] at hdraw
    obtain ⟨band, d₁, hchanges, hdraw⟩ := Draw.bind_ok_iff.mp hdraw
    obtain ⟨band', d₂, hcomparisons, hdraw⟩ := Draw.bind_ok_iff.mp hdraw
    obtain ⟨rfl, rfl⟩ := Draw.pure_ok_iff.mp hdraw
    exact .inr ⟨band, d₁, hchanges, hcomparisons, rfl⟩

end ActionBlock

variable [Sub α] {block : Block α}

namespace ActionBlock

/-- The stages of drawing the block of an action: what each band hands on, and the drawing after
it. -/
structure Stages (cfg : Config α) (action : Action) (x y : α) (d d' : Drawing α)
    (block : Block α) where
  afterHead : Drawing α
  afterConditions : Drawing α
  afterParameters : Drawing α
  afterEffects : Drawing α
  afterNumeric : Drawing α
  head : Cursor α
  conditions : List (String × Box α) × Cursor α
  parameters : List (String × Box α) × Cursor α
  effects : List (String × Box α) × Cursor α
  numeric : NumericBand α × Cursor α
  connected : Nat × List Skipped
  head_eq : drawHead cfg action x y d = .ok (head, afterHead)
  conditions_eq : drawPreconditions cfg x (action.found .precondition).distinctLiterals head
    afterHead = .ok (conditions, afterConditions)
  parameters_eq : drawParameterBand cfg x action.parameters
    (!(action.found .precondition).distinctLiterals.isEmpty) conditions.2 afterConditions =
      .ok (parameters, afterParameters)
  effects_eq : drawEffects cfg x (action.found .effect).distinctLiterals parameters.2
    afterParameters = .ok (effects, afterEffects)
  numeric_eq : drawNumericBand cfg x parameters.1 (action.found .effect).changes
    (action.found .precondition).comparisons (!(action.found .effect).distinctLiterals.isEmpty)
      effects.2 afterEffects = .ok (numeric, afterNumeric)
  connected_eq : Draw.connectAll cfg parameters.1 (d.canvas.group ++ "-edge") 0
    (drawnLiterals conditions.1 (action.found .precondition).literals ++
      drawnLiterals effects.1 (action.found .effect).literals ++
      numeric.1.functions.map fun f => (f.box, f.name, f.arguments)) afterNumeric =
        .ok (connected, d')
  width_eq : cfg.actionWidth = .ok block.width
  height_eq : block.height = greater d'.canvas.bottom
    (numeric.2.lastTop + Scalar.ofNat numeric.2.lastRows * cfg.spacingY) - y + cfg.nodeHeight
  elements_eq : block.elements = d'.canvas.finish
    (shownText action.description "Action description")
    (groupData action (shownText action.description "Action description") d.canvas.group)

/-- A drawing that succeeds has gone through the stages. -/
theorem nonempty_stages {action : Action} (hdraw : draw cfg action x y d = .ok (block, d')) :
    Nonempty (Stages cfg action x y d d' block) := by
  simp only [draw] at hdraw
  obtain ⟨group, d₁, hgroup, hdraw⟩ := Draw.bind_ok_iff.mp hdraw
  obtain ⟨rfl, rfl⟩ := Draw.group_ok_iff.mp hgroup
  obtain ⟨head, d₁, hhead, hdraw⟩ := Draw.bind_ok_iff.mp hdraw
  obtain ⟨conditions, d₂, hconditions, hdraw⟩ := Draw.bind_ok_iff.mp hdraw
  obtain ⟨parameters, d₃, hparameters, hdraw⟩ := Draw.bind_ok_iff.mp hdraw
  obtain ⟨effects, d₄, heffects, hdraw⟩ := Draw.bind_ok_iff.mp hdraw
  obtain ⟨numeric, d₅, hnumeric, hdraw⟩ := Draw.bind_ok_iff.mp hdraw
  obtain ⟨connected, d₆, hconnected, hdraw⟩ := Draw.bind_ok_iff.mp hdraw
  obtain ⟨d₇, d₈, hget, hdraw⟩ := Draw.bind_ok_iff.mp hdraw
  obtain ⟨rfl, rfl⟩ := Draw.get_ok_iff.mp hget
  obtain ⟨width, d₉, hlift, hdraw⟩ := Draw.bind_ok_iff.mp hdraw
  obtain ⟨hwidth, rfl⟩ := Draw.lift_ok_iff.mp hlift
  obtain ⟨rfl, rfl⟩ := Draw.pure_ok_iff.mp hdraw
  exact ⟨⟨d₁, d₂, d₃, d₄, d₅, head, conditions, parameters, effects, numeric, connected, hhead,
    hconditions, hparameters, heffects, hnumeric, hconnected, hwidth, rfl, rfl⟩⟩

end ActionBlock

namespace ProblemBlock

/-- The number of columns in the block of a problem. -/
def columns (cfg : Config α) (problem : Problem) : Nat :=
  columnCount cfg [
    (problem.found .init).distinctLiterals.length + (problem.found .init).comparisons.length,
    problem.objects.length,
    (problem.found .goal).distinctLiterals.length + (problem.found .goal).comparisons.length]

/-- Where the objects of a problem end. -/
def objectBottom (cfg : Config α) (problem : Problem) (top : α) : α :=
  top + Scalar.ofNat (rowCount problem.objects.length (columns cfg problem)) * cfg.spacingY

/-- The stages of drawing the block of a problem: what each band hands on, and the drawing after
it. -/
structure Stages (cfg : Config α) (problem : Problem) (x y : α) (d d' : Drawing α)
    (block : Block α) where
  afterInitComparisons : Drawing α
  afterInitLiterals : Drawing α
  afterObjects : Drawing α
  afterGoalLiterals : Drawing α
  afterGoalComparisons : Drawing α
  afterSidebar : Drawing α
  afterLiteralArrows : Drawing α
  initComparisons : List (FunctionUse α) × BandCursor α
  initLiterals : List (String × Box α) × BandCursor α
  objects : List (String × Box α) × BandCursor α
  goalLiterals : List (String × Box α) × BandCursor α
  goalComparisons : List (FunctionUse α) × BandCursor α
  literalArrows : Nat × List Skipped
  functionArrows : Nat × List Skipped
  initComparisons_eq : drawComparisonBand (frame cfg (columns cfg problem) x) .init
    (problem.found .init).comparisons { next := y, lastTop := y } d =
      .ok (initComparisons, afterInitComparisons)
  initLiterals_eq : drawLiteralBand (frame cfg (columns cfg problem) x) .init
    (problem.found .init).distinctLiterals initComparisons.2 afterInitComparisons =
      .ok (initLiterals, afterInitLiterals)
  objects_eq : drawObjectBand (frame cfg (columns cfg problem) x) problem.objects initLiterals.2
    afterInitLiterals = .ok (objects, afterObjects)
  goalLiterals_eq : drawLiteralBand (frame cfg (columns cfg problem) x) .goal
    (problem.found .goal).distinctLiterals objects.2 afterObjects =
      .ok (goalLiterals, afterGoalLiterals)
  goalComparisons_eq : drawComparisonBand (frame cfg (columns cfg problem) x) .goal
    (problem.found .goal).comparisons goalLiterals.2 afterGoalLiterals =
      .ok (goalComparisons, afterGoalComparisons)
  sidebar_eq : drawSidebar (frame cfg (columns cfg problem) x) problem x y
    (objectBottom cfg problem initLiterals.2.next) afterGoalComparisons = .ok ((), afterSidebar)
  literalArrows_eq : Draw.connectAll cfg objects.1 (d.canvas.group ++ "-edge") 0
    (ActionBlock.drawnLiterals initLiterals.1 (problem.found .init).literals ++
      ActionBlock.drawnLiterals goalLiterals.1 (problem.found .goal).literals) afterSidebar =
        .ok (literalArrows, afterLiteralArrows)
  functionArrows_eq : Draw.connectAll cfg objects.1 (d.canvas.group ++ "-function-edge")
    literalArrows.1 (drawnFunctions (initComparisons.1 ++ goalComparisons.1)) afterLiteralArrows =
      .ok (functionArrows, d')
  width_eq : block.width = (frame cfg (columns cfg problem) x).sidebarWidth +
    (frame cfg (columns cfg problem) x).sidebarGap + (frame cfg (columns cfg problem) x).width
  height_eq : block.height = greater d'.canvas.bottom (goalComparisons.2.lastTop +
    Scalar.ofNat goalComparisons.2.lastRows * cfg.spacingY) - y + cfg.nodeHeight
  elements_eq : block.elements = d'.canvas.finish ("Problem: " ++ shownName problem)
    (groupData problem d.canvas.group)

/-- A drawing that succeeds has gone through the stages. -/
theorem nonempty_stages {problem : Problem} (hdraw : draw cfg problem x y d = .ok (block, d')) :
    Nonempty (Stages cfg problem x y d d' block) := by
  simp only [draw] at hdraw
  obtain ⟨group, d₁, hgroup, hdraw⟩ := Draw.bind_ok_iff.mp hdraw
  obtain ⟨rfl, rfl⟩ := Draw.group_ok_iff.mp hgroup
  obtain ⟨initComparisons, d₁, hinitComparisons, hdraw⟩ := Draw.bind_ok_iff.mp hdraw
  obtain ⟨initLiterals, d₂, hinitLiterals, hdraw⟩ := Draw.bind_ok_iff.mp hdraw
  obtain ⟨objects, d₃, hobjects, hdraw⟩ := Draw.bind_ok_iff.mp hdraw
  obtain ⟨goalLiterals, d₄, hgoalLiterals, hdraw⟩ := Draw.bind_ok_iff.mp hdraw
  obtain ⟨goalComparisons, d₅, hgoalComparisons, hdraw⟩ := Draw.bind_ok_iff.mp hdraw
  obtain ⟨u, d₆, hsidebar, hdraw⟩ := Draw.bind_ok_iff.mp hdraw
  obtain ⟨literalArrows, d₇, hliteralArrows, hdraw⟩ := Draw.bind_ok_iff.mp hdraw
  obtain ⟨functionArrows, d₈, hfunctionArrows, hdraw⟩ := Draw.bind_ok_iff.mp hdraw
  obtain ⟨d₉, d₁₀, hget, hdraw⟩ := Draw.bind_ok_iff.mp hdraw
  obtain ⟨rfl, rfl⟩ := Draw.get_ok_iff.mp hget
  obtain ⟨rfl, rfl⟩ := Draw.pure_ok_iff.mp hdraw
  exact ⟨⟨d₁, d₂, d₃, d₄, d₅, d₆, d₇, initComparisons, initLiterals, objects, goalLiterals,
    goalComparisons, literalArrows, functionArrows, hinitComparisons, hinitLiterals, hobjects,
    hgoalLiterals, hgoalComparisons, hsidebar, hliteralArrows, hfunctionArrows, rfl, rfl, rfl⟩⟩

end ProblemBlock

end Diagram

end PlanDiagram
