import PlanDiagram.Proofs.Diagram.ActionLayout
import PlanDiagram.Proofs.Diagram.Renaming
import PlanDiagram.Proofs.Diagram.Translation.ProblemBlock

/-!
# Blocks at other places

Over rational scalars the block of a problem looks the same wherever it stands. So does that of an
action but for its height: the lowest point of an action starts out at the origin of the plane, so a
block that ends above the origin is said to reach down to it. Main statement: at another place,
above or below the origin, the elements of a block are moved, identifiers, texts, arrows, width,
skipped arguments and faults stay the same, and so does the height unless the block of an action
stands above the origin by more than a node.
-/

namespace PlanDiagram.Diagram

namespace Draw

/-- A drawing that carries over is run at the other place with the same session and the same fault,
or the moved block. -/
theorem run_shift {σ : Shift} {cfg : Config Rat} {y : Rat} {draw draw' : Draw Rat (Block Rat)}
    (h : Carries σ (·.shift σ cfg y) draw draw') (session : Session) (group : String)
    (bottom : Rat) : run session group (σ.lowest bottom) draw' =
      ((run session group bottom draw).1,
        (run session group bottom draw).2.map (·.shift σ cfg y)) := by
  have hdraw := h { canvas := { group, bottom }, session }
  unfold run
  change draw' { canvas := { group, bottom := σ.lowest bottom }, session } = _ at hdraw
  rw [hdraw]
  cases draw { canvas := { group, bottom }, session } <;> rfl

end Draw

/-- A block with a height that is at least the given one. -/
def Block.atLeast (b : Block Rat) (height : Rat) : Block Rat :=
  { b with height := max b.height height }

/-- A block that is high enough stays as it is. -/
theorem Block.atLeast_eq_self {b : Block Rat} {height : Rat} (h : height ≤ b.height) :
    b.atLeast height = b := by
  rw [atLeast, max_eq_left h]

section

variable (b : Block Rat) (cfg : Config Rat) (y : Rat) (v : Point Rat)

/-- Where the lowest point is moved with all else, the height stays the same. -/
theorem Block.shift_plain : b.shift (.plain v) cfg y = b.move v := by
  have hheight : b.height - cfg.nodeHeight + y + v.y - (y + v.y) + cfg.nodeHeight = b.height := by
    ring
  simp only [shift, Shift.plain, hheight]
  rfl

/-- Where the lowest point is lowered to a limit, the height reaches from the moved upper border
down to the limit at least. -/
theorem Block.shift_downTo (limit : Rat) : b.shift (.downTo limit v) cfg y =
    (b.move v).atLeast (limit - (y + v.y) + cfg.nodeHeight) := by
  have hheight : greater limit (b.height - cfg.nodeHeight + y + v.y) - (y + v.y) + cfg.nodeHeight =
      max b.height (limit - (y + v.y) + cfg.nodeHeight) := by
    rw [greater_eq_max, sub_add_eq_add_sub, add_sub_assoc, ← max_add_add_right, max_comm]
    congr 1 <;> ring
  simp only [shift, Shift.downTo, hheight]
  rfl

end

/-- The block of a problem at another place is the moved block. -/
theorem problemBlock_move (cfg : Config Rat) (session : Session) (problem : Problem) (x y : Rat)
    (v : Point Rat) : problemBlock cfg session problem (x + v.x) (y + v.y) =
      ((problemBlock cfg session problem x y).1,
        (problemBlock cfg session problem x y).2.map (·.move v)) := by
  have hrun := Draw.run_shift (ProblemBlock.draw_carries (.plain v) cfg problem x y)
    session.nextProblemGroup.2
    (sanitize ("problem-" ++ ProblemBlock.shownName problem ++ "-" ++
      toString session.nextProblemGroup.1)) y
  simp only [Block.shift_plain] at hrun
  exact hrun

namespace ActionBlock

variable {cfg : Config Rat} {action : Action} {x y : Rat} {d d' : Drawing Rat} {block : Block Rat}

/-- A block is as high as its title and a node below it. -/
theorem Stages.le_height (stages : Stages cfg action x y d d' block)
    (helements : d.canvas.elements = []) : 2 * cfg.nodeHeight ≤ block.height := by
  have hempty : nodesIn [NumericFrame.functionFamily] stages.afterEffects.canvas.elements = [] :=
    nodesIn_eq_nil (by simp [NumericFrame.nodeFamilies]) (stages.nodesIn_numeric_eq_nil helements)
  obtain ⟨title, description, heads, hhead⟩ := drawHead_adds stages.head_eq
  obtain ⟨⟨_, hconditions⟩, -⟩ := drawPreconditions_fills stages.conditions_eq
  obtain ⟨⟨_, hparameters⟩, -⟩ := drawParameterBand_fills stages.parameters_eq
  obtain ⟨⟨_, heffects⟩, -⟩ := drawEffects_fills stages.effects_eq
  obtain ⟨_, hnumeric, -⟩ := drawNumericBand_plants stages.numeric_eq hempty
  have hall := ((((hhead.trans hconditions.adds).trans hparameters.adds).trans heffects.adds).trans
    hnumeric.adds).trans (Draw.connectAll_adds stages.connected_eq)
  have hbottom : y + cfg.nodeHeight ≤ d'.canvas.bottom := by
    have htitle := hall.bottom_le title (by simp)
    rw [Box.bottom, heads.title_height] at htitle
    rwa [show title.box.y = y from congrArg Point.y heads.title_origin] at htitle
  rw [stages.height_eq, greater_eq_max]
  linarith [le_max_left d'.canvas.bottom
    (stages.numeric.2.lastTop + Scalar.ofNat stages.numeric.2.lastRows * cfg.spacingY)]

end ActionBlock

/-- The block of an action, drawn on a canvas whose lowest point starts out at `bottom`. -/
def actionBlockFrom (cfg : Config Rat) (session : Session) (action : Action) (bottom x y : Rat) :
    Session × Except Fault (Block Rat) :=
  let (number, session) := session.nextActionGroup
  let group := sanitize ("group-" ++ action.name ++ "-" ++ toString number)
  Draw.run session group bottom (ActionBlock.draw cfg action x y)

section

variable (cfg : Config Rat) (session : Session) (action : Action)

/-- At another place, with the lowest point lowered to a limit, the block is moved, and its height
reaches down to the limit at least. -/
theorem actionBlockFrom_move (bottom limit x y : Rat) (v : Point Rat) :
    actionBlockFrom cfg session action (max limit (bottom + v.y)) (x + v.x) (y + v.y) =
      ((actionBlockFrom cfg session action bottom x y).1,
        (actionBlockFrom cfg session action bottom x y).2.map fun b =>
          (b.move v).atLeast (limit - (y + v.y) + cfg.nodeHeight)) := by
  have hrun := Draw.run_shift (ActionBlock.draw_carries (.downTo limit v) cfg action x y)
    session.nextActionGroup.2
    (sanitize ("group-" ++ action.name ++ "-" ++ toString session.nextActionGroup.1)) bottom
  simp only [Block.shift_downTo] at hrun
  rw [← greater_eq_max]
  exact hrun

/-- A block is as high as its title and a node below it, wherever the lowest point starts out. -/
theorem le_height_actionBlockFrom {bottom x y : Rat} {block : Block Rat}
    (h : (actionBlockFrom cfg session action bottom x y).2 = .ok block) :
    2 * cfg.nodeHeight ≤ block.height := by
  obtain ⟨d, hdraw⟩ := Draw.exists_of_run h
  obtain ⟨stages⟩ := ActionBlock.nonempty_stages hdraw
  exact stages.le_height rfl

/-- The lowest point of an action starts out at the origin. -/
theorem actionBlock_eq_from (x y : Rat) :
    actionBlock cfg session action x y = actionBlockFrom cfg session action 0 x y :=
  rfl

/-- All blocks of an action are moved copies of one block. Their heights reach down to the origin at
least, which shows where the block ends above it. -/
theorem exists_actionBlock_eq_move : ∃ (after : Session) (outcome : Except Fault (Block Rat)),
    (∀ b, outcome = .ok b → 2 * cfg.nodeHeight ≤ b.height) ∧
      ∀ x y, actionBlock cfg session action x y =
        (after, outcome.map fun b => (b.move ⟨x, y⟩).atLeast (cfg.nodeHeight - y)) := by
  refine ⟨(actionBlockFrom cfg session action cfg.nodeHeight 0 0).1,
    (actionBlockFrom cfg session action cfg.nodeHeight 0 0).2,
    fun b => le_height_actionBlockFrom cfg session action, fun x y => ?_⟩
  -- moved from the origin, and lowered to the lower border of the title, the two runs are one
  have horigin := actionBlockFrom_move cfg session action cfg.nodeHeight 0 0 0 ⟨x, y⟩
  have htitle := actionBlockFrom_move cfg session action 0 (cfg.nodeHeight + y) x y ⟨0, 0⟩
  simp only [zero_add, add_zero, Block.move_zero, zero_sub, neg_add_eq_sub,
    add_sub_cancel_right] at horigin htitle
  have hhigh : (actionBlockFrom cfg session action 0 x y).2.map
      (·.atLeast (cfg.nodeHeight + cfg.nodeHeight)) =
        (actionBlockFrom cfg session action 0 x y).2 := by
    cases hblock : (actionBlockFrom cfg session action 0 x y).2 with
    | error fault => rfl
    | ok b =>
      have hheight := le_height_actionBlockFrom cfg session action hblock
      exact congrArg Except.ok (Block.atLeast_eq_self (by linarith))
  rw [max_comm, horigin, hhigh] at htitle
  exact (actionBlock_eq_from cfg session action x y).trans htitle.symm

end

/-- The block `c` of an action is the block `b` moved, up to its height. Either height is the extent
of the block itself, or the distance from a node above its upper border to the origin if that is
greater. -/
structure Block.MovesTo (cfg : Config Rat) (extent y : Rat) (v : Point Rat) (b c : Block Rat) :
    Prop where
  eq_move : c = { b.move v with height := c.height }
  height_eq : b.height = max extent (cfg.nodeHeight - y)
  moved_height_eq : c.height = max extent (cfg.nodeHeight - (y + v.y))

/-- Layout hardly depends on the place. The block of a problem at another place is the moved block,
and so is that of an action if no upper border is above the origin by more than the height of a
node; elsewhere this holds up to heights, of which one reaches down to the origin. The ends of
arrows move along. -/
theorem blocks_move (cfg : Config Rat) (session : Session) :
    (∀ problem x y (v : Point Rat), problemBlock cfg session problem (x + v.x) (y + v.y) =
      ((problemBlock cfg session problem x y).1,
        (problemBlock cfg session problem x y).2.map (·.move v))) ∧
    (∀ action x y (v : Point Rat), -cfg.nodeHeight ≤ y → -cfg.nodeHeight ≤ y + v.y →
      actionBlock cfg session action (x + v.x) (y + v.y) =
        ((actionBlock cfg session action x y).1,
          (actionBlock cfg session action x y).2.map (·.move v))) ∧
    (∀ action, ∃ extent, 2 * cfg.nodeHeight ≤ extent ∧ ∀ x y (v : Point Rat),
      (actionBlock cfg session action (x + v.x) (y + v.y)).1 =
        (actionBlock cfg session action x y).1 ∧
      Agree (Block.MovesTo cfg extent y v) (actionBlock cfg session action x y).2
        (actionBlock cfg session action (x + v.x) (y + v.y)).2) ∧
    ∀ (a : Arrow Rat) v, (a.move v).ends = a.ends.map (List.map fun e => (e.1.move v, e.2)) := by
  refine ⟨problemBlock_move cfg session, fun action x y v hy hmoved => ?_, fun action => ?_,
    Arrow.ends_move⟩
  · obtain ⟨after, outcome, hhigh, heq⟩ := exists_actionBlock_eq_move cfg session action
    rw [heq, heq]
    cases outcome with
    | error fault => rfl
    | ok b =>
      have hheight := hhigh b rfl
      have hself (y : Rat) (hy : -cfg.nodeHeight ≤ y) (x : Rat) :
          (b.move ⟨x, y⟩).atLeast (cfg.nodeHeight - y) = b.move ⟨x, y⟩ :=
        Block.atLeast_eq_self (by change _ ≤ b.height; linarith)
      simp only [Except.map, hself y hy, hself _ hmoved, Block.move_move]
      rfl
  · obtain ⟨after, outcome, hhigh, heq⟩ := exists_actionBlock_eq_move cfg session action
    simp only [heq]
    cases outcome with
    | error fault => exact ⟨_, le_rfl, fun _ _ _ => ⟨trivial, .fault fault⟩⟩
    | ok b =>
      refine ⟨b.height, hhigh b rfl, fun x y v => ⟨trivial, .result ⟨?_, rfl, rfl⟩⟩⟩
      change (b.move (Point.move ⟨x, y⟩ v)).atLeast _ = _
      rw [← Block.move_move]
      rfl

/-- An action with parameters, and with a condition and an effect of either kind. -/
def driveAction : Action where
  name := "drive"
  parameters := [{ name := "v" }, { name := "to" }]
  preconditions := [
    .predicate "near" [.parameter "v" .null, .parameter "to" .null],
    .comparison ">" [.function "fuel" [.parameter "v" .null], .parameter "reserve" .null]]
  effects := [
    .predicate "at" [.parameter "v" .null, .parameter "to" .null],
    .numeric .decrease [.function "fuel" [.parameter "v" .null], .parameter "distance" .null]]

/-- The action is drawn with eleven nodes, a group and the arrows between its nodes, and its block
may be moved above the origin by less than the height of a node. -/
theorem blocks_move_driveAction :
    let cfg := Config.rational
    let v : Point Rat := ⟨40, -150⟩
    ∃ block, (actionBlock cfg {} driveAction 100 100).2 = .ok block ∧
      (nodesOf block.elements).length = 11 ∧ block.elements.length = 21 ∧
      -cfg.nodeHeight ≤ 100 ∧ -cfg.nodeHeight ≤ 100 + v.y ∧
      actionBlock cfg {} driveAction (100 + v.x) (100 + v.y) =
        ((actionBlock cfg {} driveAction 100 100).1, .ok (block.move v)) := by
  intro cfg v
  have hplace : -cfg.nodeHeight ≤ 100 := by decide +kernel
  have hmoved : -cfg.nodeHeight ≤ 100 + v.y := by decide +kernel
  have hany : (actionBlock cfg {} driveAction 100 100).2.toOption.any (fun block =>
      (nodesOf block.elements).length == 11 && block.elements.length == 21) = true := by
    decide +kernel
  obtain ⟨block, hblock, hdrawn⟩ := exists_of_any_toOption hany
  rw [Bool.and_eq_true, beq_iff_eq, beq_iff_eq] at hdrawn
  have hresult : (actionBlock cfg {} driveAction 100 100).2.map (·.move v) =
      .ok (block.move v) := by
    rw [hblock]
    rfl
  have hmove := ((blocks_move cfg {}).2.1 driveAction 100 100 v hplace hmoved).trans
    (congrArg (Prod.mk _) hresult)
  exact ⟨block, hblock, hdrawn.1, hdrawn.2, hplace, hmoved, hmove⟩

/-- An action of which only the title and the description are drawn. -/
def bareAction : Action :=
  { name := "a" }

/-- Farther above the origin the block of an action is higher than elsewhere, so it is not moved as
a whole. -/
theorem actionBlock_not_moved_bareAction :
    ((actionBlock Config.rational {} bareAction 100 100).2.toOption.map Block.height = some 390 ∧
      (actionBlock Config.rational {} bareAction 100 (-1000)).2.toOption.map Block.height =
        some 1060) ∧
    ¬ ∀ (cfg : Config Rat) (session : Session) (action : Action) (x y : Rat) (v : Point Rat),
      (actionBlock cfg session action (x + v.x) (y + v.y)).2 =
        (actionBlock cfg session action x y).2.map (·.move v) := by
  refine ⟨by decide +kernel, fun h => ?_⟩
  have hheight := congrArg (fun r => r.toOption.map Block.height)
    (h .rational {} bareAction 100 100 ⟨0, -1100⟩)
  revert hheight
  decide +kernel

end PlanDiagram.Diagram
