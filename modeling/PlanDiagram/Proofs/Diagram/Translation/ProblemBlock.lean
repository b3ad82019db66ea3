import PlanDiagram.Diagram.ProblemBlock
import PlanDiagram.Proofs.Diagram.Translation.ActionBlock
import PlanDiagram.Proofs.Diagram.Translation.ComparisonBand

/-!
# Blocks of problems at another place

Band by band the block of a problem is drawn in the same way at another place. The sidebar moves
along too: its lower description stands below the objects or below the upper description, whichever
ends lower, and both have been moved.
-/

namespace PlanDiagram.Diagram

/-- A cursor that is moved. -/
def BandCursor.move (cursor : BandCursor Rat) (v : Point Rat) : BandCursor Rat :=
  { cursor with next := cursor.next + v.y, lastTop := cursor.lastTop + v.y }

/-- The measures of a block that is moved. -/
def ProblemFrame.move (f : ProblemFrame Rat) (v : Point Rat) : ProblemFrame Rat :=
  { f with left := f.left + v.x }

namespace ProblemBlock

open Draw

variable (σ : Shift) (f : ProblemFrame Rat)

/-- The measures of a block that starts at a moved place. -/
theorem frame_move (cfg : Config Rat) (columns : Nat) (x : Rat) (v : Point Rat) :
    frame cfg columns (x + v.x) = (frame cfg columns x).move v := by
  simp only [frame, ProblemFrame.move, add_right_comm]

/-- Drawing literals. -/
theorem drawLiterals_carries (role : Role) (top : Rat) (index : Nat) (literals : List LiteralUse) :
    Carries σ (moveNodes · σ.offset) (drawLiterals f role top index literals)
      (drawLiterals (f.move σ.offset) role (top + σ.offset.y) index literals) := by
  refine row_carries σ (drawLiterals f role top) (drawLiterals (f.move σ.offset) role _)
    (fun _ => ⟨rfl, rfl⟩) (fun _ _ _ => ⟨rfl, rfl⟩) (fun index use group => ?_) index literals
  exact inCell_carries σ f.cfg fun corner =>
    ellipse_carries σ f.cfg use.label corner _ (literalFill role)

/-- Drawing a band of literals. -/
theorem drawLiteralBand_carries (role : Role) (literals : List LiteralUse)
    (cursor : BandCursor Rat) :
    Carries σ (Prod.map (moveNodes · σ.offset) (·.move σ.offset))
      (drawLiteralBand f role literals cursor)
      (drawLiteralBand (f.move σ.offset) role literals (cursor.move σ.offset)) := by
  refine band_carries σ (drawLiterals_carries σ f role cursor.next 0 literals) rfl ?_
  simp only [BandCursor.move, ProblemFrame.move, add_right_comm]

/-- Drawing a band of comparisons. -/
theorem drawComparisonBand_carries (role : Role) (comparisons : List ComparisonUse)
    (cursor : BandCursor Rat) :
    Carries σ (Prod.map (List.map (·.move σ.offset)) (·.move σ.offset))
      (drawComparisonBand f role comparisons cursor)
      (drawComparisonBand (f.move σ.offset) role comparisons (cursor.move σ.offset)) := by
  have hmoved (a b c : Rat) : a + σ.offset.y + b + c = a + b + c + σ.offset.y := by
    ring
  unfold drawComparisonBand
  split
  · exact .pure rfl
  · let frame : ComparisonFrame Rat :=
      { cfg := f.cfg, role, left := f.left, columns := f.comparisonColumns }
    refine (frame.drawOperands_carries σ cursor.next 0 {} comparisons).bind
      fun ⟨placed, operands⟩ => ?_
    simp only [BandCursor.move, ProblemFrame.move, OperandGrid.move, hmoved]
    refine (frame.drawOperators_carries σ _ {} placed).bind fun operators => ?_
    rw [add_right_comm _ σ.offset.y]
    refine (extend_carries σ _).bind fun _ => ?_
    refine (Carries.lift _).bind fun quotient => ?_
    exact (Carries.lift _).bind fun rows => .pure rfl

/-- Drawing objects. -/
theorem drawObjects_carries (top : Rat) (index : Nat) (objects : List Parameter) :
    Carries σ (moveNodes · σ.offset) (drawObjects f top index objects)
      (drawObjects (f.move σ.offset) (top + σ.offset.y) index objects) := by
  refine row_carries σ (drawObjects f top) (drawObjects (f.move σ.offset) _)
    (fun _ => ⟨rfl, rfl⟩) (fun _ _ _ => ⟨rfl, rfl⟩) (fun index p group => ?_) index objects
  exact inCell_carries σ f.cfg fun corner => rectangle_carries σ f.cfg p.label corner _ _ _

/-- Drawing the band of objects. -/
theorem drawObjectBand_carries (objects : List Parameter) (cursor : BandCursor Rat) :
    Carries σ (Prod.map (moveNodes · σ.offset) (·.move σ.offset))
      (drawObjectBand f objects cursor)
      (drawObjectBand (f.move σ.offset) objects (cursor.move σ.offset)) := by
  refine band_carries σ (drawObjects_carries σ f cursor.next 0 objects) rfl ?_
  simp only [BandCursor.move, ProblemFrame.move, add_right_comm]

/-- Drawing the descriptions of facts and goal. -/
theorem drawSidebar_carries (problem : Problem) (x y objectBottom : Rat) :
    Carries σ (fun u => u) (drawSidebar f problem x y objectBottom)
      (drawSidebar (f.move σ.offset) problem (x + σ.offset.x) (y + σ.offset.y)
        (objectBottom + σ.offset.y)) := by
  have hgoal : greater (objectBottom + σ.offset.y + f.cfg.sectionGap)
      (y + σ.offset.y + f.sidebarHeight + f.cfg.sectionGap) =
        greater (objectBottom + f.cfg.sectionGap) (y + f.sidebarHeight + f.cfg.sectionGap) +
          σ.offset.y := by
    rw [greater_eq_max, greater_eq_max, ← max_add_add_right]
    congr 1 <;> ring
  refine (group_carries σ).bind fun group => ?_
  refine (description_carries σ f.cfg _ ⟨x, y⟩ _ _ _ _).bind fun _ => ?_
  have hbox := description_carries σ f.cfg
    (shownText problem.goalDescription "Goal description")
    ⟨x, greater (objectBottom + f.cfg.sectionGap) (y + f.sidebarHeight + f.cfg.sectionGap)⟩
    (group ++ "-goal-description") f.sidebarWidth (Scalar.half f.sidebarHeight) "problem-goal"
  rw [Point.move, ← hgoal] at hbox
  exact hbox.bind fun _ => .pure rfl

/-- The moved nodes of functions. -/
theorem drawnFunctions_move (uses : List (FunctionUse Rat)) (v : Point Rat) :
    drawnFunctions (uses.map (·.move v)) = moveDrawn (drawnFunctions uses) v := by
  simp only [drawnFunctions, moveDrawn, List.map_map]
  rfl

/-- Drawing the block of a problem. -/
theorem draw_carries (cfg : Config Rat) (problem : Problem) (x y : Rat) :
    Carries σ (·.shift σ cfg y) (draw cfg problem x y)
      (draw cfg problem (x + σ.offset.x) (y + σ.offset.y)) := by
  unfold draw
  refine (group_carries σ).bind fun group => ?_
  simp only [frame_move]
  generalize frame cfg _ x = f
  refine (drawComparisonBand_carries σ f .init _ { next := y, lastTop := y }).bind
    fun ⟨initUses, cursor⟩ => ?_
  refine (drawLiteralBand_carries σ f .init _ cursor).bind fun ⟨initNodes, objectCursor⟩ => ?_
  refine (drawObjectBand_carries σ f _ objectCursor).bind fun ⟨anchors, cursor⟩ => ?_
  refine (drawLiteralBand_carries σ f .goal _ cursor).bind fun ⟨goalNodes, cursor⟩ => ?_
  refine (drawComparisonBand_carries σ f .goal _ cursor).bind fun ⟨goalUses, cursor⟩ => ?_
  have hmoved (a rows : Rat) :
      a + σ.offset.y + rows * cfg.spacingY = a + rows * cfg.spacingY + σ.offset.y :=
    add_right_comm _ _ _
  simp only [Prod.map, BandCursor.move, ActionBlock.drawnLiterals_move, ← moveDrawn_append,
    ← List.map_append, drawnFunctions_move, hmoved]
  refine (drawSidebar_carries σ f problem x y _).bind fun _ => ?_
  refine (connectAll_carries σ cfg anchors _ 0 _).bind fun literals => ?_
  refine (connectAll_carries σ cfg anchors _ _ _).bind fun functions => ?_
  refine (get_carries σ).bind fun d => .pure ?_
  exact Block.shift_eq σ cfg rfl (Canvas.finish_shift _ _ _ _)

end ProblemBlock

end PlanDiagram.Diagram
