import PlanDiagram.Proofs.Diagram.OperandTrees

/-!
# Cells in the block of an action

Band by band, the nodes of an action are added to its block: the title and the description, each in
a box of its own, and then the cells of one grid for each band. A band that is left out fills no
cell of its grid.
-/

namespace PlanDiagram.Diagram.ActionBlock

variable {α : Type} [Add α] [Mul α] [LT α] [DecidableLT α] [Scalar α] {cfg : Config α}
  {d d' : Drawing α} {x : α}

/-- Literals fill the cells of a grid. -/
theorem drawLiterals_fills {top : α} {uses : List LiteralUse} {index : Nat}
    {boxes : List (String × Box α)}
    (hdraw : drawLiterals cfg x top index uses d = .ok (boxes, d')) :
    ∃ ns, (ellipseGrid cfg x top cfg.actionColumns).Fills index (index + uses.length) ns d d' :=
  Draw.row_fills hdraw (fun _ => rfl) (fun _ _ _ => rfl) fun hcell =>
    Draw.ellipse_fills (Draw.inCell_ok_iff.mp hcell).2

/-- Parameters fill the cells of a grid. -/
theorem drawParameters_fills {top : α} {parameters : List Parameter} {index : Nat}
    {boxes : List (String × Box α)}
    (hdraw : drawParameters cfg x top index parameters d = .ok (boxes, d')) :
    ∃ ns, (rectangleGrid cfg x top cfg.actionColumns).Fills index (index + parameters.length) ns
      d d' :=
  Draw.row_fills hdraw (fun _ => rfl) (fun _ _ _ => rfl) fun hcell =>
    Draw.rectangle_fills (Draw.inCell_ok_iff.mp hcell).2

/-- The title and the description of an action stand one below the other, above the first band. -/
structure Heads [Sub α] (cfg : Config α) (x y : α) (next : α) (title description : Node α) :
    Prop where
  width_eq : cfg.actionWidth = .ok title.box.width
  title_origin : title.box.origin = ⟨x, y⟩
  title_height : title.box.height = cfg.nodeHeight
  title_shape : title.box.shape = .rectangle
  description_origin : description.box.origin = ⟨x, y + cfg.spacingY⟩
  description_width : description.box.width = title.box.width
  description_height : description.box.height = cfg.nodeHeight * Scalar.ofNat 2
  description_shape : description.box.shape = .rectangle
  next_eq : next = y + cfg.spacingY + (cfg.nodeHeight * Scalar.ofNat 2 + cfg.sectionGap)

/-- Drawing the title and the description. -/
theorem drawHead_adds [Sub α] {action : Action} {y : α} {cursor : Cursor α}
    (hdraw : drawHead cfg action x y d = .ok (cursor, d')) :
    ∃ title description, Heads cfg x y cursor.next title description ∧
      Adds [title, description] d d' := by
  obtain ⟨width, title, description, d₁, hwidth, htitle, hdescription, hnext⟩ := drawHead_ok hdraw
  obtain ⟨n, hn, hadds, -, rfl⟩ := Draw.rectangle_adds htitle
  obtain ⟨m, hm, hadds', -, rfl⟩ := Draw.description_adds hdescription
  refine ⟨n, m, ⟨?_, ?_, ?_, ?_, ?_, ?_, ?_, ?_, hnext⟩, hadds.trans hadds'⟩ <;>
    simp only [hn, hm] <;> first | rfl | exact hwidth

/-- Drawing the preconditions. -/
theorem drawPreconditions_fills {literals : List LiteralUse} {cursor : Cursor α}
    {result : List (String × Box α) × Cursor α}
    (hdraw : drawPreconditions cfg x literals cursor d = .ok (result, d')) :
    (∃ ns, (ellipseGrid cfg x cursor.next cfg.actionColumns).Fills 0 literals.length ns d d') ∧
      result.2.next = if literals.isEmpty then cursor.next
        else (advance cfg cursor literals.length).next := by
  unfold drawPreconditions at hdraw
  cases literals with
  | nil =>
    obtain ⟨rfl, rfl⟩ := Draw.pure_ok_iff.mp hdraw
    exact ⟨⟨[], .refl d⟩, rfl⟩
  | cons l rest =>
    obtain ⟨boxes, d₁, hboxes, hdraw⟩ := Draw.bind_ok_iff.mp hdraw
    obtain ⟨rfl, rfl⟩ := Draw.pure_ok_iff.mp hdraw
    have hfills := drawLiterals_fills hboxes
    rw [Nat.zero_add] at hfills
    exact ⟨hfills, rfl⟩

/-- Drawing the parameters. -/
theorem drawParameterBand_fills {parameters : List Parameter} {after : Bool} {cursor : Cursor α}
    {result : List (String × Box α) × Cursor α}
    (hdraw : drawParameterBand cfg x parameters after cursor d = .ok (result, d')) :
    (∃ ns, (rectangleGrid cfg x cursor.next cfg.actionColumns).Fills 0 parameters.length ns d d') ∧
      result.2.next = if parameters.isEmpty then
          if after then cursor.next + cfg.sectionGap else cursor.next
        else (advance cfg cursor parameters.length).next := by
  unfold drawParameterBand at hdraw
  cases parameters with
  | nil =>
    cases after <;>
      · obtain ⟨rfl, rfl⟩ := Draw.pure_ok_iff.mp hdraw
        exact ⟨⟨[], .refl d⟩, rfl⟩
  | cons p rest =>
    obtain ⟨boxes, d₁, hboxes, hdraw⟩ := Draw.bind_ok_iff.mp hdraw
    obtain ⟨rfl, rfl⟩ := Draw.pure_ok_iff.mp hdraw
    have hfills := drawParameters_fills hboxes
    rw [Nat.zero_add] at hfills
    exact ⟨hfills, rfl⟩

/-- Drawing the effects. -/
theorem drawEffects_fills {literals : List LiteralUse} {cursor : Cursor α}
    {result : List (String × Box α) × Cursor α}
    (hdraw : drawEffects cfg x literals cursor d = .ok (result, d')) :
    (∃ ns, (ellipseGrid cfg x cursor.next cfg.actionColumns).Fills 0 literals.length ns d d') ∧
      result.2.next = if literals.isEmpty then cursor.next
        else cursor.next +
          Scalar.ofNat (rowCount literals.length cfg.actionColumns) * cfg.spacingY := by
  unfold drawEffects at hdraw
  cases literals with
  | nil =>
    obtain ⟨rfl, rfl⟩ := Draw.pure_ok_iff.mp hdraw
    exact ⟨⟨[], .refl d⟩, rfl⟩
  | cons l rest =>
    obtain ⟨boxes, d₁, hboxes, hdraw⟩ := Draw.bind_ok_iff.mp hdraw
    obtain ⟨u, d₂, hextend, hdraw⟩ := Draw.bind_ok_iff.mp hdraw
    obtain ⟨rfl, rfl⟩ := Draw.pure_ok_iff.mp hdraw
    obtain ⟨ns, hns⟩ := drawLiterals_fills hboxes
    rw [Nat.zero_add] at hns
    exact ⟨⟨ns, hns.before (Draw.extend_adds hextend)⟩, rfl⟩

/-- Drawing the numeric effects and comparisons. -/
theorem drawNumericBand_plants {anchors : List (String × Box α)} {changes : List ChangeUse}
    {comparisons : List ComparisonUse} {after : Bool} {cursor : Cursor α}
    {result : NumericBand α × Cursor α}
    (hdraw : drawNumericBand cfg x anchors changes comparisons after cursor d = .ok (result, d'))
    (hempty : nodesIn [NumericFrame.functionFamily] d.canvas.elements = []) :
    NumericFrame.Plants ⟨cfg, x, numericTop cfg after cursor, anchors⟩ ShowsOperation
      ((changes.map fun use => (NumericFrame.changeText use, use.arguments)) ++
        comparisons.map fun use => (Formula.literalLabel use.sign use.negated, use.arguments))
      {} d result.1 d' := by
  have hband : NumericFrame.Recorded ({} : NumericBand α) d := .of_empty hempty
  obtain ⟨rfl, rfl, rfl, rfl⟩ | ⟨band, d₁, hchanges, hcomparisons, -⟩ := drawNumericBand_ok hdraw
  · exact .nil _ _ _ d'
  · obtain ⟨-, hband₁⟩ := NumericFrame.drawChanges_grows hchanges hband
    obtain ⟨hgrows, -⟩ := NumericFrame.drawComparisons_grows hcomparisons hband₁
    exact (NumericFrame.drawChanges_plants hchanges hband).append
      (NumericFrame.drawComparisons_plants hcomparisons hband₁) hgrows

end PlanDiagram.Diagram.ActionBlock
