import PlanDiagram.Diagram.ProblemBlock
import PlanDiagram.Proofs.Diagram.Parallel.ActionBlock
import PlanDiagram.Proofs.Diagram.Parallel.ComparisonBand

/-!
# Blocks of problems in parallel

The block of a problem is drawn in parallel, band by band, as that of an action is.
-/

namespace PlanDiagram.Diagram.ProblemBlock

open Draw
open ActionBlock (drawnLiterals_matches)

variable {α : Type} [Add α] [Mul α] [LT α] [DecidableLT α] [Scalar α] {p q : Pairing}
  (f : ProblemFrame α)

/-- Positions that are the same, with nodes that match. -/
def BandMatch (q : Pairing) (b c : List (String × Box α) × BandCursor α) : Prop :=
  KeyedMatch q b.1 c.1 ∧ b.2 = c.2

/-- Drawing literals. -/
theorem drawLiterals_parallel (p : Pairing) (role : Role) (top : α) (index : Nat)
    (uses : List LiteralUse) :
    Parallel p KeyedMatch (drawLiterals f role top index uses)
      (drawLiterals f role top index uses) := by
  refine row_parallel (drawLiterals f role top) (fun _ => rfl) (fun _ _ _ => rfl) ?_ p index uses
  intro q index use group group'
  exact inCell_parallel f.cfg fun corner =>
    ellipse_parallel q f.cfg use.label corner _ _ (literalFill role)

/-- Drawing a band of literals. -/
theorem drawLiteralBand_parallel (p : Pairing) (role : Role) (literals : List LiteralUse)
    (cursor : BandCursor α) :
    Parallel p BandMatch (drawLiteralBand f role literals cursor)
      (drawLiteralBand f role literals cursor) :=
  band_parallel (drawLiterals_parallel f p role cursor.next 0 literals) cursor _

/-- Drawing objects. -/
theorem drawObjects_parallel (p : Pairing) (top : α) (index : Nat) (objects : List Parameter) :
    Parallel p KeyedMatch (drawObjects f top index objects) (drawObjects f top index objects) := by
  refine row_parallel (drawObjects f top) (fun _ => rfl) (fun _ _ _ => rfl) ?_ p index objects
  intro q index object group group'
  exact inCell_parallel f.cfg fun corner =>
    rectangle_parallel q f.cfg object.label corner _ _ _ _

/-- Drawing the band of objects. -/
theorem drawObjectBand_parallel (p : Pairing) (objects : List Parameter) (cursor : BandCursor α) :
    Parallel p BandMatch (drawObjectBand f objects cursor) (drawObjectBand f objects cursor) :=
  band_parallel (drawObjects_parallel f p cursor.next 0 objects) cursor _

/-- Drawing a band of comparisons. -/
theorem drawComparisonBand_parallel (p : Pairing) (role : Role) (comparisons : List ComparisonUse)
    (cursor : BandCursor α) :
    Parallel p (fun q b c => List.Forall₂ (FunctionUse.Matches q) b.1 c.1 ∧ b.2 = c.2)
      (drawComparisonBand f role comparisons cursor)
      (drawComparisonBand f role comparisons cursor) := by
  have hoperands : OperandGrid.Matches p ({} : OperandGrid α) {} := ⟨rfl, .nil, .nil⟩
  have hoperators (q : Pairing) : OperatorGrid.Matches q ({} : OperatorGrid α) {} := ⟨rfl, .nil⟩
  unfold drawComparisonBand
  split
  · exact .pure fun _ _ => ⟨.nil, rfl⟩
  · refine (ComparisonFrame.drawOperands_parallel _ _ hoperands 0 comparisons).bind
      fun q ⟨placed, operands⟩ ⟨placed', operands'⟩ _ hdrawn => ?_
    obtain ⟨hplaced, hoperands⟩ := hdrawn
    dsimp only
    rw [hoperands.placed_eq]
    refine (ComparisonFrame.drawOperators_parallel _ _ (hoperators q) hplaced).bind
      fun q operators operators' hle₁ hoperators => ?_
    rw [hoperators.placed_eq]
    refine (extend_parallel q _).bind fun q _ _ hle₂ _ => ?_
    refine (Parallel.lift q _).bind fun q quotient _ hle₃ heq => ?_
    subst heq
    refine (Parallel.lift q _).bind fun q rows _ hle₄ heq => ?_
    subst heq
    refine .pure fun q hle₅ => ⟨?_, rfl⟩
    have hle := (((hle₁.trans hle₂).trans hle₃).trans hle₄).trans hle₅
    exact hoperands.uses.imp fun _ _ hu => hu.mono hle

omit [Mul α] in
/-- Drawing the descriptions. -/
theorem drawSidebar_parallel {g g' : String} (hgroups : p.Groups g g') (problem : Problem)
    (x y objectBottom : α) :
    Parallel p (fun q _ _ =>
        q.Pairs (sanitize (g ++ "-init-description")) (sanitize (g' ++ "-init-description")) ∧
        q.Pairs (sanitize (g ++ "-goal-description")) (sanitize (g' ++ "-goal-description")))
      (drawSidebar f problem x y objectBottom) (drawSidebar f problem x y objectBottom) := by
  unfold drawSidebar
  refine (group_parallel p).bind fun q k k' hle hk => ?_
  obtain ⟨rfl, rfl⟩ := hk.unique (hgroups.mono hle)
  refine (description_parallel q f.cfg _ _ _ _ _ _ _).bind fun q init init' _ hinit => ?_
  refine (description_parallel q f.cfg _ _ _ _ _ _ _).bind fun q goal goal' hle hgoal => ?_
  obtain ⟨hinit, hid, hid'⟩ := hinit
  obtain ⟨hgoal, hid₂, hid₂'⟩ := hgoal
  have hinit := hinit.1
  have hgoal := hgoal.1
  rw [hid, hid'] at hinit
  rw [hid₂, hid₂'] at hgoal
  exact .pure fun _ hle' => ⟨hinit.mono (hle.trans hle'), hgoal.mono hle'⟩

omit [Add α] [Mul α] [LT α] [DecidableLT α] [Scalar α] in
/-- The functions of comparisons match if their uses do. -/
theorem drawnFunctions_match {uses uses' : List (FunctionUse α)}
    (h : List.Forall₂ (FunctionUse.Matches p) uses uses') :
    NodesMatch p (drawnFunctions uses) (drawnFunctions uses') := by
  rw [NodesMatch, drawnFunctions, drawnFunctions, List.forall₂_map_left_iff,
    List.forall₂_map_right_iff]
  refine h.imp fun u v huv => ⟨huv.1, ?_⟩
  rw [huv.2]

/-- The data of groups match if the descriptions correspond. -/
theorem groupData_matches {g g' : String}
    (hinit : p.Pairs (sanitize (g ++ "-init-description")) (sanitize (g' ++ "-init-description")))
    (hgoal : p.Pairs (sanitize (g ++ "-goal-description")) (sanitize (g' ++ "-goal-description")))
    (problem : Problem) :
    List.Forall₂ (EntryMatches p) (groupData problem g) (groupData problem g') :=
  .cons (.same _ (by decide)) <| .cons (.same _ (by decide)) <| .cons (.same _ (by decide)) <|
    .cons (.description (by decide) hinit) <| .cons (.description (by decide) hgoal) .nil

/-- Drawing the block of a problem. -/
theorem draw_parallel [Sub α] (p : Pairing) (cfg : Config α) (problem : Problem) (x y : α) :
    Parallel p (fun _ b c => b.Matches c) (draw cfg problem x y) (draw cfg problem x y) := by
  unfold draw
  refine (group_parallel p).bind fun q₀ group group' _ hgroups => ?_
  refine (drawComparisonBand_parallel _ q₀ .init _ _).bind
    fun q₁ ⟨initUses, cursor⟩ ⟨initUses', _⟩ hle₁ hinitUses => ?_
  obtain ⟨hinitUses, rfl⟩ := hinitUses
  refine (drawLiteralBand_parallel _ q₁ .init _ cursor).bind
    fun q₂ ⟨initNodes, cursor⟩ ⟨initNodes', _⟩ hle₂ hinit => ?_
  obtain ⟨hinit, rfl⟩ := hinit
  refine (drawObjectBand_parallel _ q₂ _ cursor).bind
    fun q₃ ⟨anchors, cursor⟩ ⟨anchors', _⟩ hle₃ hanchors => ?_
  obtain ⟨hanchors, rfl⟩ := hanchors
  refine (drawLiteralBand_parallel _ q₃ .goal _ cursor).bind
    fun q₄ ⟨goalNodes, cursor⟩ ⟨goalNodes', _⟩ hle₄ hgoal => ?_
  obtain ⟨hgoal, rfl⟩ := hgoal
  refine (drawComparisonBand_parallel _ q₄ .goal _ cursor).bind
    fun q₅ ⟨goalUses, cursor⟩ ⟨goalUses', _⟩ hle₅ hgoalUses => ?_
  obtain ⟨hgoalUses, rfl⟩ := hgoalUses
  have hbands := (((hle₁.trans hle₂).trans hle₃).trans hle₄).trans hle₅
  refine (drawSidebar_parallel _ (hgroups.mono hbands) problem x y _).bind
    fun q₆ _ _ hle₆ hdescriptions => ?_
  -- what the bands hand on still matches when the arrows are drawn
  have hanchors := hanchors.mono ((hle₄.trans hle₅).trans hle₆)
  have hinit := drawnLiterals_matches (hinit.mono (((hle₃.trans hle₄).trans hle₅).trans hle₆))
  have hgoal := drawnLiterals_matches (hgoal.mono (hle₅.trans hle₆))
  refine (connectAll_parallel cfg hanchors _ _ 0 ((hinit _).append (hgoal _))).bind
    fun q₇ ⟨number, skipped⟩ _ hle₇ heq => ?_
  subst heq
  have hbands := (((hle₂.trans hle₃).trans hle₄).trans hle₅).trans (hle₆.trans hle₇)
  have hinitUses := hinitUses.imp fun _ _ hu => hu.mono hbands
  have hgoalUses := hgoalUses.imp fun _ _ hu => hu.mono (hle₆.trans hle₇)
  refine (connectAll_parallel cfg (hanchors.mono hle₇) _ _ number
    (drawnFunctions_match (List.rel_append hinitUses hgoalUses))).bind
    fun q₈ ⟨last, others⟩ _ hle₈ heq => ?_
  subst heq
  refine (get_parallel q₈).bind fun q₉ d d' hle₉ hd => ?_
  obtain ⟨rfl, hd⟩ := hd
  have hlast := (hle₇.trans hle₈).trans hle₉
  dsimp only
  rw [hd.bottom_eq]
  exact .pure fun _ _ => hd.finish
    (groupData_matches (hdescriptions.1.mono hlast) (hdescriptions.2.mono hlast) problem)

end PlanDiagram.Diagram.ProblemBlock
