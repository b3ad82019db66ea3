import PlanDiagram.Proofs.Diagram.ActionCells
import PlanDiagram.Proofs.Diagram.ActionContents
import PlanDiagram.Proofs.Diagram.Exact
import PlanDiagram.Proofs.Diagram.Geometry

/-!
# The layout of actions

The bands of an action are stacked, each below the one before, and the blocks of a domain stand side
by side. Main statement: over rational scalars, if the distances leave room for nodes, then no two
nodes of a domain overlap, every node lies within the extent of its block, and the blocks are
disjoint from left to right.
-/

namespace PlanDiagram.Diagram

namespace ActionBlock

variable {cfg : Config Rat} {d d' : Drawing Rat} {x y width : Rat}

section

variable (hwidth : cfg.actionWidth = .ok width)
include hwidth

/-- The columns of an action end within its width. -/
theorem columns_le (hcolumns : 0 < cfg.actionColumns) :
    x + (cfg.actionColumns - 1 : Nat) * cfg.spacingX + cfg.nodeWidth ≤ x + width := by
  rw [Config.actionWidth_eq hcolumns, Except.ok.injEq] at hwidth
  linarith

variable (hvalid : cfg.Valid) (hroomy : cfg.Roomy)
include hvalid hroomy

/-- The title and the description are stacked. -/
theorem drawHead_stacks {action : Action} {cursor : Cursor Rat}
    (hdraw : drawHead cfg action x y d = .ok (cursor, d')) :
    ∃ ns, Stacks x (x + width) y cursor.next ns d d' := by
  obtain ⟨title, description, heads, hadds⟩ := drawHead_adds hdraw
  have htitle : title.box.width = width := Except.ok.inj (heads.width_eq.symm.trans hwidth)
  have htitleX : title.box.x = x := congrArg Point.x heads.title_origin
  have htitleY : title.box.y = y := congrArg Point.y heads.title_origin
  have hdescriptionX : description.box.x = x := congrArg Point.x heads.description_origin
  have hdescriptionY : description.box.y = y + cfg.spacingY :=
    congrArg Point.y heads.description_origin
  have hheight : description.box.height = cfg.nodeHeight * 2 := heads.description_height
  have hnext : cursor.next = y + cfg.spacingY + (cfg.nodeHeight * 2 + cfg.sectionGap) :=
    heads.next_eq
  have hpos := hvalid.nodeHeight_pos
  have hgap := hvalid.sectionGap_pos
  have hfirst : (Region.mk x (x + width) y (y + cfg.nodeHeight)).Lays [title] := by
    refine .singleton ⟨htitleX.ge, ?_, htitleY.ge, ?_⟩
    · rw [htitleX, htitle]
    · rw [Box.bottom, htitleY, heads.title_height]
  have hsecond : (Region.mk x (x + width) (y + cfg.spacingY) cursor.next).Lays [description] := by
    refine .singleton ⟨hdescriptionX.ge, ?_, hdescriptionY.ge, ?_⟩
    · rw [hdescriptionX, heads.description_width, htitle]
    · simp only [Box.bottom, hdescriptionY, hheight, hnext]
      linarith
  have hspacing := hvalid.spacingY_pos
  have hroom := hroomy.nodeHeight_le
  refine ⟨_, hadds, ?_, hfirst.below hsecond ?_ ?_ ?_⟩ <;> linarith

/-- The preconditions are stacked below what is above them. -/
theorem drawPreconditions_stacks {literals : List LiteralUse} {cursor : Cursor Rat}
    {result : List (String × Box Rat) × Cursor Rat}
    (hdraw : drawPreconditions cfg x literals cursor d = .ok (result, d')) :
    ∃ ns, Stacks x (x + width) cursor.next result.2.next ns d d' := by
  obtain ⟨⟨ns, hns⟩, hnext⟩ := drawPreconditions_fills hdraw
  refine ⟨ns, .of_ellipses hvalid hroomy hvalid.actionColumns_pos
    (columns_le hwidth hvalid.actionColumns_pos) hns ?_⟩
  rw [hnext]
  refine rows_le_of_isEmpty hvalid.actionColumns_pos le_rfl ?_
  simp only [advance, scalar_ofNat]
  linarith [hvalid.sectionGap_pos]

/-- The parameters are stacked below what is above them. -/
theorem drawParameterBand_stacks {parameters : List Parameter} {after : Bool} {cursor : Cursor Rat}
    {result : List (String × Box Rat) × Cursor Rat}
    (hdraw : drawParameterBand cfg x parameters after cursor d = .ok (result, d')) :
    ∃ ns, Stacks x (x + width) cursor.next result.2.next ns d d' := by
  obtain ⟨⟨ns, hns⟩, hnext⟩ := drawParameterBand_fills hdraw
  have hgap := hvalid.sectionGap_pos
  refine ⟨ns, .of_rectangles hvalid hroomy hvalid.actionColumns_pos
    (columns_le hwidth hvalid.actionColumns_pos) hns ?_⟩
  rw [hnext]
  refine rows_le_of_isEmpty hvalid.actionColumns_pos ?_ ?_
  · split <;> linarith
  · simp only [advance, scalar_ofNat]
    linarith

/-- The effects are stacked below what is above them. -/
theorem drawEffects_stacks {literals : List LiteralUse} {cursor : Cursor Rat}
    {result : List (String × Box Rat) × Cursor Rat}
    (hdraw : drawEffects cfg x literals cursor d = .ok (result, d')) :
    ∃ ns, Stacks x (x + width) cursor.next result.2.next ns d d' := by
  obtain ⟨⟨ns, hns⟩, hnext⟩ := drawEffects_fills hdraw
  refine ⟨ns, .of_ellipses hvalid hroomy hvalid.actionColumns_pos
    (columns_le hwidth hvalid.actionColumns_pos) hns ?_⟩
  rw [hnext]
  exact rows_le_of_isEmpty hvalid.actionColumns_pos le_rfl le_rfl

/-- The numeric band is stacked below what is above it. -/
theorem drawNumericBand_stacks {anchors : List (String × Box Rat)} {changes : List ChangeUse}
    {comparisons : List ComparisonUse} {after : Bool} {cursor : Cursor Rat}
    {result : NumericBand Rat × Cursor Rat}
    (hdraw : drawNumericBand cfg x anchors changes comparisons after cursor d = .ok (result, d'))
    (hempty : nodesIn [NumericFrame.functionFamily] d.canvas.elements = []) :
    ∃ ns, Stacks x (x + width) cursor.next result.2.next ns d d' := by
  obtain ⟨-, -, rfl, rfl⟩ | ⟨band, d₁, -, -, hnext⟩ := drawNumericBand_ok hdraw
  · exact ⟨[], .of_adds (.refl d') le_rfl⟩
  · obtain ⟨ns, hns, -⟩ := drawNumericBand_plants hdraw hempty
    have htop : cursor.next ≤ numericTop cfg after cursor := by
      unfold numericTop
      split <;> linarith [hvalid.sectionGap_pos]
    have hrows := Grid.mul_le_mul_of_le hvalid.spacingY_pos.le
      (rowCount_mono (Nat.le_max_right 1 result.1.placed) cfg.actionColumns)
    have hstacks : Stacks x (x + width) (numericTop cfg after cursor) result.2.next ns d d' := by
      refine .of_ellipses hvalid hroomy hvalid.actionColumns_pos
        (columns_le hwidth hvalid.actionColumns_pos) hns ?_
      rw [hnext]
      simpa using hrows
    exact ⟨ns, hstacks.mono htop le_rfl⟩

variable {action : Action} {block : Block Rat}

omit hwidth in
/-- The nodes of a block are laid within its extent. -/
theorem Stages.lays (stages : Stages cfg action x y d d' block)
    (helements : d.canvas.elements = []) :
    (Region.mk x (x + block.width) y (y + block.height)).Lays (nodesOf block.elements) := by
  have hwidth := stages.width_eq
  have hempty : nodesIn [NumericFrame.functionFamily] stages.afterEffects.canvas.elements = [] :=
    nodesIn_eq_nil (by simp [NumericFrame.nodeFamilies]) (stages.nodesIn_numeric_eq_nil helements)
  obtain ⟨head, hhead⟩ := drawHead_stacks hwidth hvalid hroomy stages.head_eq
  obtain ⟨conditions, hconditions⟩ :=
    drawPreconditions_stacks hwidth hvalid hroomy stages.conditions_eq
  obtain ⟨parameters, hparameters⟩ :=
    drawParameterBand_stacks hwidth hvalid hroomy stages.parameters_eq
  obtain ⟨effects, heffects⟩ := drawEffects_stacks hwidth hvalid hroomy stages.effects_eq
  obtain ⟨numeric, hnumeric⟩ :=
    drawNumericBand_stacks hwidth hvalid hroomy stages.numeric_eq hempty
  have hall := (((hhead.trans hconditions).trans hparameters).trans heffects).trans hnumeric
  have hadds := hall.adds.trans (Draw.connectAll_adds stages.connected_eq)
  rw [List.append_nil] at hadds
  have hnodes := hadds.nodes_eq
  rw [helements] at hnodes
  rw [stages.nodesOf_eq, hnodes]
  have hbottom := bottom_le_of_height stages.height_eq hvalid.nodeHeight_pos
  exact hall.lays.mono le_rfl fun n hn => (hadds.bottom_le n hn).trans hbottom

omit hwidth hroomy in
/-- A block has a width. -/
theorem Stages.width_nonneg (stages : Stages cfg action x y d d' block) : 0 ≤ block.width := by
  have hwidth := stages.width_eq
  rw [Config.actionWidth_eq hvalid.actionColumns_pos, Except.ok.injEq] at hwidth
  rw [← hwidth]
  exact add_nonneg hvalid.nodeWidth_pos.le
    (mul_nonneg hvalid.spacingX_pos.le (Nat.cast_nonneg _))

end

end ActionBlock

variable {cfg : Config Rat} {session : Session} {actions : List Action}

/-- The extent of a block that stands at a left end. -/
def Block.extent (cfg : Config Rat) (block : Block Rat) (left : Rat) : Region :=
  ⟨left, left + block.width, cfg.startY, cfg.startY + block.height⟩

/-- The blocks of actions are laid out side by side, each with its left end. -/
structure LaidOut (cfg : Config Rat) (actions : List Action) (places : List (Block Rat × Rat)) :
    Prop where
  /-- Each block is that of an action, which is drawn from the left end on. -/
  drawn : List.Forall₂ (fun action place => ∃ session,
    (actionBlock cfg session action place.2 cfg.startY).2 = .ok place.1) actions places
  /-- Every node lies within the extent of its block. -/
  within : ∀ place ∈ places, ∀ n ∈ nodesOf place.1.elements,
    n.box.Within (place.1.extent cfg place.2)
  /-- Each block ends before the next ones start. -/
  successive : places.Pairwise fun place next => place.2 + place.1.width < next.2
  /-- No two nodes of all blocks overlap. -/
  apart : (nodesOf (blockElements (places.map Prod.fst))).Pairwise fun m n => m.box.Apart n.box

/-- Blocks whose nodes are laid in extents that follow each other do not overlap. -/
theorem pairwise_apart_of_lays {places : List (Block Rat × Rat)}
    (hlays : ∀ place ∈ places, (place.1.extent cfg place.2).Lays (nodesOf place.1.elements))
    (hsuccessive : places.Pairwise fun place next => place.2 + place.1.width < next.2) :
    (nodesOf (blockElements (places.map Prod.fst))).Pairwise fun m n => m.box.Apart n.box := by
  have hnodes : nodesOf (blockElements (places.map Prod.fst)) =
      places.flatMap fun place => nodesOf place.1.elements := by
    rw [blockElements, nodesOf, List.filterMap_flatMap, List.flatMap_map]
    rfl
  rw [hnodes, List.pairwise_flatMap]
  refine ⟨fun place hplace => (hlays place hplace).apart, ?_⟩
  refine hsuccessive.imp_of_mem fun {place next} hplace hnext hlt m hm n hn => ?_
  exact Box.apart_of_left ((((hlays place hplace).within m hm).right.trans hlt.le).trans
    ((hlays next hnext).within n hn).left)

/-- Drawing the blocks of actions from a left end on: the nodes of each are laid in its extent, and
the extents follow each other. -/
theorem actionBlocks_lays (hvalid : cfg.Valid) (hroomy : cfg.Roomy) {x : Rat}
    {blocks : List (Block Rat)} (h : (actionBlocks cfg session x actions).2 = .ok blocks) :
    ∃ places : List (Block Rat × Rat), places.map Prod.fst = blocks ∧
      List.Forall₂ (fun action place => ∃ session,
        (actionBlock cfg session action place.2 cfg.startY).2 = .ok place.1) actions places ∧
      (∀ place ∈ places, (place.1.extent cfg place.2).Lays (nodesOf place.1.elements)) ∧
      (places.Pairwise fun place next => place.2 + place.1.width < next.2) ∧
      ∀ place ∈ places, x ≤ place.2 := by
  induction actions generalizing session x blocks with
  | nil =>
    obtain rfl : [] = blocks := Except.ok.inj h
    exact ⟨[], rfl, .nil, by simp, .nil, by simp⟩
  | cons action rest ih =>
    unfold actionBlocks at h
    split at h
    · cases h
    · rename_i session' block hblock
      obtain ⟨others, hothers, rfl⟩ := map_eq_ok_iff.mp h
      obtain ⟨places, rfl, hdrawn, hlays, hsuccessive, hstart⟩ := ih hothers
      have hblock : (actionBlock cfg session action x cfg.startY).2 = .ok block :=
        congrArg Prod.snd hblock
      obtain ⟨d', hdraw⟩ := Draw.exists_of_run hblock
      obtain ⟨stages⟩ := ActionBlock.nonempty_stages hdraw
      have hwidth := stages.width_nonneg hvalid
      have hspacing := hvalid.spacingX_pos
      refine ⟨(block, x) :: places, rfl, .cons ⟨session, hblock⟩ hdrawn,
        List.forall_mem_cons.mpr ⟨stages.lays hvalid hroomy rfl, hlays⟩,
        List.pairwise_cons.mpr ⟨fun next hnext => ?_, hsuccessive⟩,
        List.forall_mem_cons.mpr ⟨le_rfl, fun next hnext => ?_⟩⟩
      · have hnext := hstart next hnext
        change x + block.width < next.2
        linarith
      · have hnext := hstart next hnext
        linarith

/-- Every domain has blocks, which are laid out side by side without overlaps. -/
theorem domainBlocks_laidOut (hvalid : cfg.Valid) (hroomy : cfg.Roomy) (session : Session)
    (domain : Domain) :
    ∃ places, (domainBlocks cfg session domain).2 = .ok (places.map Prod.fst) ∧
      LaidOut cfg domain.actions places := by
  obtain ⟨blocks, h⟩ := exists_domainBlocks hvalid.spacingY_pos.ne'
    hvalid.actionColumns_pos session domain
  obtain ⟨places, rfl, hdrawn, hlays, hsuccessive, -⟩ := actionBlocks_lays hvalid hroomy h
  exact ⟨places, h, hdrawn, fun place hplace => (hlays place hplace).within, hsuccessive,
    pairwise_apart_of_lays hlays hsuccessive⟩

/-- The default configuration is valid. -/
theorem Config.valid_rational : Config.rational.Valid := by
  constructor <;> decide +kernel

/-- The default configuration leaves room for nodes. -/
theorem Config.roomy_rational : Config.rational.Roomy := by
  constructor <;> decide +kernel

/-- A domain with two actions, one of which fills all bands and one of which has few. -/
def tankDomain : Domain where
  name := "tanks"
  actions := [
    { name := "pour"
      parameters := [{ name := "from" }, { name := "to" }, { name := "by" }, { name := "at" }]
      preconditions := [.predicate "connected" [.parameter "from" .null, .parameter "to" .null],
        .comparison ">" [.function "level" [.parameter "from" .null], .parameter "limit" .null]]
      effects := [.predicate "wet" [.parameter "to" .null],
        .numeric .increase [.function "level" [.parameter "to" .null], .parameter "1" .null]] },
    { name := "wait" }]

/-- The domain is drawn, and its two blocks are laid out side by side. -/
theorem domainBlocks_laidOut_tankDomain :
    ∃ first second left right,
      (domainBlocks Config.rational {} tankDomain).2 = .ok [first, second] ∧
        LaidOut Config.rational tankDomain.actions [(first, left), (second, right)] := by
  obtain ⟨places, hblocks, hlaidOut⟩ :=
    domainBlocks_laidOut Config.valid_rational Config.roomy_rational {} tankDomain
  obtain ⟨first, second, rfl⟩ := List.length_eq_two.mp hlaidOut.drawn.length_eq.symm
  exact ⟨first.1, second.1, first.2, second.2, hblocks, hlaidOut⟩

end PlanDiagram.Diagram
