import PlanDiagram.Diagram.ActionBlock
import PlanDiagram.Proofs.Diagram.Parallel.Connection
import PlanDiagram.Proofs.Diagram.Parallel.NumericBand

/-!
# Blocks of actions in parallel

The block of an action is drawn in parallel, band by band. What one band hands on to the next are
positions, which are the same on both sides, and nodes that match.
-/

namespace PlanDiagram.Diagram

variable {α : Type} {p q : Pairing}

/-- There is one pair of groups only. -/
theorem Pairing.Groups.unique {g g' h h' : String} (hg : p.Groups g g') (hh : p.Groups h h') :
    g = h ∧ g' = h' :=
  ⟨Option.some.inj (hg.1.symm.trans hh.1), Option.some.inj (hg.2.symm.trans hh.2)⟩

/-- A block made of what has been drawn matches another one that is made so. -/
theorem Drawing.Matches.finish {d d' : Drawing α} (hd : d.Matches d') {description : String}
    {data data' : List (String × Value)}
    (hdata : List.Forall₂ (EntryMatches (.ofDrawings d d')) data data') {width height : α}
    {skipped : List Skipped} :
    Block.Matches ⟨d.canvas.finish description data, width, height, skipped⟩
      ⟨d'.canvas.finish description data', width, height, skipped⟩ := by
  refine ⟨rfl, rfl, rfl, fun hdistinct => ?_⟩
  have helements := hd.elements hdistinct
  have hgroups : (Pairing.ofDrawings d d').Groups d.canvas.group d'.canvas.group := ⟨rfl, rfl⟩
  refine .cons (.group hgroups.pairs ?_ hdata rfl) helements
  rw [List.forall₂_map_left_iff, List.forall₂_map_right_iff]
  exact helements.imp fun _ _ he => he.id

namespace ActionBlock

open Draw

/-- The literals that have a node match if the nodes do. -/
theorem drawnLiterals_matches {nodes nodes' : List (String × Box α)} (h : KeyedMatch p nodes nodes')
    (uses : List LiteralUse) :
    NodesMatch p (drawnLiterals nodes uses) (drawnLiterals nodes' uses) := by
  induction uses with
  | nil => exact .nil
  | cons use rest ih =>
    have hlookup := h.lookup use.label
    simp only [drawnLiterals, List.filterMap_cons] at ih ⊢
    generalize nodes.lookup use.label = box?, nodes'.lookup use.label = box?' at hlookup
    cases hlookup with
    | none => exact ih
    | some hbox => exact .cons ⟨hbox, rfl⟩ ih

/-- The functions of numeric bands match if the bands do. -/
theorem functions_match {band band' : NumericBand α} (h : band.Matches p band') :
    NodesMatch p (band.functions.map fun f => (f.box, f.name, f.arguments))
      (band'.functions.map fun f => (f.box, f.name, f.arguments)) := by
  rw [NodesMatch, List.forall₂_map_left_iff, List.forall₂_map_right_iff]
  refine h.functions.imp fun f g hfg => ⟨hfg.1, ?_⟩
  rw [hfg.2]

variable [Add α] [Mul α] [LT α] [DecidableLT α] [Scalar α] (cfg : Config α)

/-- Drawing literals. -/
theorem drawLiterals_parallel (p : Pairing) (left top : α) (index : Nat) (uses : List LiteralUse) :
    Parallel p KeyedMatch (drawLiterals cfg left top index uses)
      (drawLiterals cfg left top index uses) := by
  refine row_parallel (drawLiterals cfg left top) (fun _ => rfl) (fun _ _ _ => rfl) ?_ p index uses
  intro q index use group group'
  exact inCell_parallel cfg fun corner => ellipse_parallel q cfg use.label corner _ _ use.role.name

/-- Drawing parameters. -/
theorem drawParameters_parallel (p : Pairing) (left top : α) (index : Nat)
    (parameters : List Parameter) :
    Parallel p KeyedMatch (drawParameters cfg left top index parameters)
      (drawParameters cfg left top index parameters) := by
  refine row_parallel (drawParameters cfg left top) (fun _ => rfl) (fun _ _ _ => rfl) ?_ p index
    parameters
  intro q index parameter group group'
  exact inCell_parallel cfg fun corner => rectangle_parallel q cfg parameter.label corner _ _ _ _

/-- Positions that are the same, with nodes that match. -/
def BandMatch (q : Pairing) (b c : List (String × Box α) × Cursor α) : Prop :=
  KeyedMatch q b.1 c.1 ∧ b.2 = c.2

/-- Drawing the title and the description. -/
theorem drawHead_parallel [Sub α] {g g' : String} (hgroups : p.Groups g g') (action : Action)
    (x y : α) :
    Parallel p (fun q b c => b = c ∧
        q.Pairs (sanitize (g ++ "-description")) (sanitize (g' ++ "-description")))
      (drawHead cfg action x y) (drawHead cfg action x y) := by
  unfold drawHead
  refine (group_parallel p).bind fun q k k' hle hk => ?_
  obtain ⟨rfl, rfl⟩ := hk.unique (hgroups.mono hle)
  refine (Parallel.lift q cfg.actionWidth).bind fun q width _ _ heq => ?_
  subst heq
  refine (rectangle_parallel q cfg _ _ _ _ _ _).bind fun q _ _ _ _ => ?_
  refine (description_parallel q cfg _ _ _ _ _ _ _).bind fun q box box' _ hbox => ?_
  obtain ⟨hbox, hid, hid'⟩ := hbox
  have hpairs := hbox.1
  rw [hid, hid'] at hpairs
  refine (Parallel.lift q _).bind fun q₁ quotient _ hle₁ heq => ?_
  subst heq
  refine (Parallel.lift q₁ _).bind fun q₂ rows _ hle₂ heq => ?_
  subst heq
  exact .pure fun q hle => ⟨rfl, hpairs.mono ((hle₁.trans hle₂).trans hle)⟩

/-- Drawing the preconditions. -/
theorem drawPreconditions_parallel (p : Pairing) (x : α) (literals : List LiteralUse)
    (cursor : Cursor α) :
    Parallel p BandMatch (drawPreconditions cfg x literals cursor)
      (drawPreconditions cfg x literals cursor) :=
  band_parallel (drawLiterals_parallel cfg p x cursor.next 0 literals) cursor _

/-- Drawing the parameters. -/
theorem drawParameterBand_parallel (p : Pairing) (x : α) (parameters : List Parameter)
    (after : Bool) (cursor : Cursor α) :
    Parallel p BandMatch (drawParameterBand cfg x parameters after cursor)
      (drawParameterBand cfg x parameters after cursor) := by
  have hnodes := drawParameters_parallel cfg p x cursor.next 0 parameters
  unfold drawParameterBand
  split
  · split <;> exact .pure fun _ _ => ⟨.nil, rfl⟩
  · exact hnodes.bind fun q _ _ _ hnodes => .pure fun _ hle => ⟨hnodes.mono hle, rfl⟩

/-- Drawing the effects. -/
theorem drawEffects_parallel (p : Pairing) (x : α) (literals : List LiteralUse)
    (cursor : Cursor α) :
    Parallel p BandMatch (drawEffects cfg x literals cursor)
      (drawEffects cfg x literals cursor) := by
  have hnodes := drawLiterals_parallel cfg p x cursor.next 0 literals
  unfold drawEffects
  split
  · exact .pure fun _ _ => ⟨.nil, rfl⟩
  · refine hnodes.bind fun q nodes nodes' _ hnodes => ?_
    refine (extend_parallel q _).bind fun q _ _ hle _ => ?_
    exact .pure fun _ hle' => ⟨hnodes.mono (hle.trans hle'), rfl⟩

/-- Drawing the numeric effects and comparisons. -/
theorem drawNumericBand_parallel {anchors anchors' : List (String × Box α)}
    (hanchors : KeyedMatch p anchors anchors') (x : α) (changes : List ChangeUse)
    (comparisons : List ComparisonUse) (after : Bool) (cursor : Cursor α) :
    Parallel p (fun q b c => b.1.Matches q c.1 ∧ b.2 = c.2)
      (drawNumericBand cfg x anchors changes comparisons after cursor)
      (drawNumericBand cfg x anchors' changes comparisons after cursor) := by
  have hempty : NumericBand.Matches p ({} : NumericBand α) {} := ⟨rfl, .nil⟩
  unfold drawNumericBand
  split
  · exact .pure fun _ hle => ⟨hempty.mono hle, rfl⟩
  · refine (NumericFrame.drawChanges_parallel _ hanchors hempty 0 changes).bind
      fun q band band' hle hband => ?_
    refine (NumericFrame.drawComparisons_parallel _ (hanchors.mono hle) hband 0 comparisons).bind
      fun q band band' _ hband => ?_
    rw [hband.placed_eq]
    exact .pure fun _ hle => ⟨hband.mono hle, rfl⟩

/-- The data of groups match if the descriptions correspond. -/
theorem groupData_matches {g g' : String}
    (h : p.Pairs (sanitize (g ++ "-description")) (sanitize (g' ++ "-description")))
    (action : Action) (description : String) :
    List.Forall₂ (EntryMatches p) (groupData action description g)
      (groupData action description g') :=
  .cons (.same _ (by decide)) <| .cons (.same _ (by decide)) <| .cons (.same _ (by decide)) <|
    .cons (.same _ (by decide)) <| .cons (.description (by decide) h) .nil

/-- Drawing the block of an action. -/
theorem draw_parallel [Sub α] (p : Pairing) (action : Action) (x y : α) :
    Parallel p (fun _ b c => b.Matches c) (draw cfg action x y) (draw cfg action x y) := by
  unfold draw
  refine (group_parallel p).bind fun q₀ group group' _ hgroups => ?_
  refine (drawHead_parallel cfg hgroups action x y).bind fun q₁ cursor _ hle₁ hhead => ?_
  obtain ⟨rfl, hdescription⟩ := hhead
  refine (drawPreconditions_parallel cfg q₁ x _ cursor).bind
    fun q₂ ⟨conditionNodes, cursor⟩ ⟨conditionNodes', _⟩ hle₂ hconditions => ?_
  obtain ⟨hconditions, rfl⟩ := hconditions
  refine (drawParameterBand_parallel cfg q₂ x _ _ cursor).bind
    fun q₃ ⟨anchors, cursor⟩ ⟨anchors', _⟩ hle₃ hanchors => ?_
  obtain ⟨hanchors, rfl⟩ := hanchors
  refine (drawEffects_parallel cfg q₃ x _ cursor).bind
    fun q₄ ⟨effectNodes, cursor⟩ ⟨effectNodes', _⟩ hle₄ heffects => ?_
  obtain ⟨heffects, rfl⟩ := heffects
  refine (drawNumericBand_parallel cfg (hanchors.mono hle₄) x _ _ _ cursor).bind
    fun q₅ ⟨band, cursor⟩ ⟨band', _⟩ hle₅ hband => ?_
  obtain ⟨hband, rfl⟩ := hband
  have hconditions := drawnLiterals_matches (hconditions.mono ((hle₃.trans hle₄).trans hle₅))
  have heffects := drawnLiterals_matches (heffects.mono hle₅)
  refine (connectAll_parallel cfg (hanchors.mono (hle₄.trans hle₅)) _ _ 0
    (((hconditions _).append (heffects _)).append (functions_match hband))).bind
    fun q₆ result _ hle₆ heq => ?_
  subst heq
  refine (get_parallel q₆).bind fun q₇ d d' hle₇ hd => ?_
  obtain ⟨rfl, hd⟩ := hd
  have hlast := (((((hle₂.trans hle₃).trans hle₄).trans hle₅).trans hle₆).trans hle₇)
  refine (Parallel.lift _ cfg.actionWidth).bind fun q₈ width _ _ heq => ?_
  subst heq
  rw [hd.bottom_eq]
  exact .pure fun _ _ => hd.finish (groupData_matches (hdescription.mono hlast) action _)

end ActionBlock

end PlanDiagram.Diagram
