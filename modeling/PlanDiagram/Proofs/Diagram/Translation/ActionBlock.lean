import PlanDiagram.Diagram.ActionBlock
import PlanDiagram.Proofs.Diagram.Translation.NumericBand

/-!
# Blocks of actions at another place

Band by band the block of an action is drawn in the same way at another place. Its elements are
moved, its width and the skipped arguments are the same, and its height is that from its new upper
border down to where the lowest point has gone.
-/

namespace PlanDiagram.Diagram

/-- A cursor that is moved. -/
def Cursor.move (cursor : Cursor Rat) (v : Point Rat) : Cursor Rat :=
  { cursor with next := cursor.next + v.y, lastTop := cursor.lastTop + v.y }

namespace ActionBlock

open Draw

variable (σ : Shift) (cfg : Config Rat)

/-- Drawing literals. -/
theorem drawLiterals_carries (left top : Rat) (index : Nat) (literals : List LiteralUse) :
    Carries σ (moveNodes · σ.offset) (drawLiterals cfg left top index literals)
      (drawLiterals cfg (left + σ.offset.x) (top + σ.offset.y) index literals) := by
  refine row_carries σ (drawLiterals cfg left top) (drawLiterals cfg _ _) (fun _ => ⟨rfl, rfl⟩)
    (fun _ _ _ => ⟨rfl, rfl⟩) (fun index use group => ?_) index literals
  exact inCell_carries σ cfg fun corner => ellipse_carries σ cfg use.label corner _ use.role.name

/-- Drawing parameters. -/
theorem drawParameters_carries (left top : Rat) (index : Nat) (parameters : List Parameter) :
    Carries σ (moveNodes · σ.offset) (drawParameters cfg left top index parameters)
      (drawParameters cfg (left + σ.offset.x) (top + σ.offset.y) index parameters) := by
  refine row_carries σ (drawParameters cfg left top) (drawParameters cfg _ _) (fun _ => ⟨rfl, rfl⟩)
    (fun _ _ _ => ⟨rfl, rfl⟩) (fun index p group => ?_) index parameters
  exact inCell_carries σ cfg fun corner => rectangle_carries σ cfg p.label corner _ _ _

/-- A cursor is moved on as before. -/
theorem advance_move (cursor : Cursor Rat) (cells : Nat) (v : Point Rat) :
    advance cfg (cursor.move v) cells = (advance cfg cursor cells).move v := by
  simp only [advance, Cursor.move, add_right_comm]

/-- Drawing the title and the description. -/
theorem drawHead_carries (action : Action) (x y : Rat) : Carries σ (·.move σ.offset)
    (drawHead cfg action x y) (drawHead cfg action (x + σ.offset.x) (y + σ.offset.y)) := by
  have htop : y + σ.offset.y + cfg.spacingY = y + cfg.spacingY + σ.offset.y :=
    add_right_comm _ _ _
  simp only [drawHead, htop]
  refine (group_carries σ).bind fun group => ?_
  refine (Carries.lift cfg.actionWidth).bind fun width => ?_
  refine (rectangle_carries σ cfg _ ⟨x, y⟩ _ _ _).bind fun _ => ?_
  refine (description_carries σ cfg _ ⟨x, y + cfg.spacingY⟩ _ _ _ _).bind fun _ => ?_
  refine (Carries.lift _).bind fun quotient => ?_
  refine (Carries.lift _).bind fun rows => .pure ?_
  simp only [Cursor.move, add_right_comm]

/-- Drawing the preconditions. -/
theorem drawPreconditions_carries (x : Rat) (literals : List LiteralUse) (cursor : Cursor Rat) :
    Carries σ (Prod.map (moveNodes · σ.offset) (·.move σ.offset))
      (drawPreconditions cfg x literals cursor)
      (drawPreconditions cfg (x + σ.offset.x) literals (cursor.move σ.offset)) :=
  band_carries σ (drawLiterals_carries σ cfg x cursor.next 0 literals) rfl
    (advance_move cfg cursor literals.length σ.offset)

/-- Drawing the parameters. -/
theorem drawParameterBand_carries (x : Rat) (parameters : List Parameter) (after : Bool)
    (cursor : Cursor Rat) : Carries σ (Prod.map (moveNodes · σ.offset) (·.move σ.offset))
      (drawParameterBand cfg x parameters after cursor)
      (drawParameterBand cfg (x + σ.offset.x) parameters after (cursor.move σ.offset)) := by
  have hnodes := drawParameters_carries σ cfg x cursor.next 0 parameters
  have hgap : cursor.next + σ.offset.y + cfg.sectionGap =
      cursor.next + cfg.sectionGap + σ.offset.y :=
    add_right_comm _ _ _
  unfold drawParameterBand
  split
  · split
    · exact .pure (by simp only [Prod.map, Cursor.move, hgap]; rfl)
    · exact .pure rfl
  · refine hnodes.bind fun nodes => .pure ?_
    rw [advance_move]
    rfl

/-- Drawing the effects. -/
theorem drawEffects_carries (x : Rat) (literals : List LiteralUse) (cursor : Cursor Rat) :
    Carries σ (Prod.map (moveNodes · σ.offset) (·.move σ.offset))
      (drawEffects cfg x literals cursor)
      (drawEffects cfg (x + σ.offset.x) literals (cursor.move σ.offset)) := by
  have hnodes := drawLiterals_carries σ cfg x cursor.next 0 literals
  have hbottom (rows : Nat) : (cursor.move σ.offset).next + Scalar.ofNat rows * cfg.spacingY =
      cursor.next + Scalar.ofNat rows * cfg.spacingY + σ.offset.y :=
    add_right_comm _ _ _
  simp only [drawEffects, hbottom]
  split
  · exact .pure rfl
  · refine hnodes.bind fun nodes => ?_
    exact (extend_carries σ _).bind fun _ => .pure rfl

/-- Drawing the numeric effects and comparisons. -/
theorem drawNumericBand_carries (x : Rat) (anchors : List (String × Box Rat))
    (changes : List ChangeUse) (comparisons : List ComparisonUse) (after : Bool)
    (cursor : Cursor Rat) : Carries σ (Prod.map (·.move σ.offset) (·.move σ.offset))
      (drawNumericBand cfg x anchors changes comparisons after cursor)
      (drawNumericBand cfg (x + σ.offset.x) (moveNodes anchors σ.offset) changes comparisons after
        (cursor.move σ.offset)) := by
  have htop : (if after then (cursor.move σ.offset).next + cfg.sectionGap
      else (cursor.move σ.offset).next) =
        (if after then cursor.next + cfg.sectionGap else cursor.next) + σ.offset.y := by
    split
    · exact add_right_comm _ _ _
    · rfl
  simp only [drawNumericBand, htop]
  split
  · exact .pure rfl
  · refine (NumericFrame.drawChanges_carries σ _ {} 0 changes).bind fun band => ?_
    refine (NumericFrame.drawComparisons_carries σ _ band 0 comparisons).bind fun band => .pure ?_
    simp only [Prod.map, Cursor.move, NumericBand.move, add_right_comm]

/-- The moved nodes of literals. -/
theorem drawnLiterals_move (nodes : List (String × Box Rat)) (uses : List LiteralUse)
    (v : Point Rat) : drawnLiterals (moveNodes nodes v) uses =
      moveDrawn (drawnLiterals nodes uses) v := by
  simp only [drawnLiterals, moveDrawn, List.map_filterMap, lookup_moveNodes, Option.map_map]
  rfl

/-- The moved nodes of functions. -/
theorem functions_move (band : NumericBand Rat) (v : Point Rat) :
    (band.move v).functions.map (fun f => (f.box, f.name, f.arguments)) =
      moveDrawn (band.functions.map fun f => (f.box, f.name, f.arguments)) v := by
  simp only [NumericBand.move, moveDrawn, List.map_map]
  rfl

/-- Drawing the block of an action. -/
theorem draw_carries (action : Action) (x y : Rat) : Carries σ (·.shift σ cfg y)
    (draw cfg action x y) (draw cfg action (x + σ.offset.x) (y + σ.offset.y)) := by
  unfold draw
  refine (group_carries σ).bind fun group => ?_
  refine (drawHead_carries σ cfg action x y).bind fun cursor => ?_
  refine (drawPreconditions_carries σ cfg x _ cursor).bind fun ⟨conditionNodes, cursor⟩ => ?_
  refine (drawParameterBand_carries σ cfg x _ _ cursor).bind fun ⟨anchors, cursor⟩ => ?_
  refine (drawEffects_carries σ cfg x _ cursor).bind fun ⟨effectNodes, cursor⟩ => ?_
  refine (drawNumericBand_carries σ cfg x anchors _ _ _ cursor).bind fun ⟨band, cursor⟩ => ?_
  simp only [Prod.map, drawnLiterals_move, functions_move, ← moveDrawn_append]
  refine (connectAll_carries σ cfg anchors _ 0 _).bind fun r => ?_
  refine (get_carries σ).bind fun d => ?_
  refine (Carries.lift cfg.actionWidth).bind fun width => .pure ?_
  have hbottom : (cursor.move σ.offset).lastTop + Scalar.ofNat cursor.lastRows * cfg.spacingY =
      cursor.lastTop + Scalar.ofNat cursor.lastRows * cfg.spacingY + σ.offset.y :=
    add_right_comm _ _ _
  exact Block.shift_eq σ cfg hbottom (Canvas.finish_shift _ _ _ _)

end ActionBlock

end PlanDiagram.Diagram
