import PlanDiagram.Proofs.Diagram.Outcome
import PlanDiagram.Proofs.Diagram.Rational

/-!
# Exact drawings

Over rational scalars nothing can go wrong with a drawing but a division by a vertical spacing of
zero or by a number of columns that is zero. Otherwise every action, domain and problem has a block,
whatever the session and wherever it stands.
-/

namespace PlanDiagram.Diagram

variable {cfg : Config Rat}

/-- Rows of any height can be counted. -/
theorem rowsOf_ne_error (h : cfg.spacingY ≠ 0) (height : Rat) (fault : Fault) :
    rowsOf cfg height ≠ .error fault := by
  have hquotient : Scalar.quotient height cfg.spacingY = .ok (height / cfg.spacingY) :=
    if_neg h
  rw [rowsOf, hquotient]
  exact fun herror => by cases herror

/-- An action has a width. -/
theorem Config.actionWidth_eq (h : 0 < cfg.actionColumns) :
    cfg.actionWidth = .ok (cfg.nodeWidth + cfg.spacingX * (cfg.actionColumns - 1 : Nat)) := by
  rw [actionWidth, if_neg (Nat.ne_of_gt h)]
  rfl

/-- Nothing goes wrong with the block of an action. -/
theorem Config.actionExpected (h : cfg.spacingY ≠ 0) (hcolumns : 0 < cfg.actionColumns) :
    cfg.ActionExpected fun _ => False where
  columns := Nat.ne_of_gt hcolumns
  width _ herror := by
    rw [actionWidth_eq hcolumns] at herror
    cases herror
  rows fault herror := rowsOf_ne_error h _ fault herror

/-- Nothing goes wrong with bands of comparisons. -/
theorem Config.bandsExpected (h : cfg.spacingY ≠ 0) (n : Nat) :
    cfg.BandsExpected n fun _ => False :=
  fun _ _ _ _ _ _ fault herror => rowsOf_ne_error h _ fault herror

/-- Every action has a block. -/
theorem exists_actionBlock (h : cfg.spacingY ≠ 0) (hcolumns : 0 < cfg.actionColumns)
    (session : Session) (action : Action) (x y : Rat) :
    ∃ block, (actionBlock cfg session action x y).2 = .ok block :=
  FailsOnly.exists_of_false
    ((ActionBlock.runs_draw (Config.actionExpected h hcolumns) action x y).run _ _ _)

/-- Every problem has a block. -/
theorem exists_problemBlock (h : cfg.spacingY ≠ 0) (hcolumns : 0 < cfg.problemMaxColumns)
    (session : Session) (problem : Problem) (x y : Rat) :
    ∃ block, (problemBlock cfg session problem x y).2 = .ok block :=
  FailsOnly.exists_of_false ((ProblemBlock.runs_draw (Nat.ne_of_gt hcolumns)
    (Config.bandsExpected h _) (Nat.le_max_left _ _) (Nat.le_max_right _ _) x y).run _ _ _)

/-- Every domain has blocks. -/
theorem exists_domainBlocks (h : cfg.spacingY ≠ 0) (hcolumns : 0 < cfg.actionColumns)
    (session : Session) (domain : Domain) :
    ∃ blocks, (domainBlocks cfg session domain).2 = .ok blocks :=
  FailsOnly.exists_of_false
    (failsOnly_actionBlocks (Config.actionExpected h hcolumns) domain.actions session cfg.startX)

end PlanDiagram.Diagram
