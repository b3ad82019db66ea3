import Mathlib.Data.List.Perm.Subperm
import PlanDiagram.Proofs.Diagram.ActionLayout
import PlanDiagram.Proofs.Diagram.ProblemCells
import PlanDiagram.Proofs.Diagram.ProblemContents

/-!
# The layout of problems

The bands of a problem are stacked, each below the one before, and the sidebar stands to the left of
them. All bands have the same columns. Main statement: over rational scalars, if the distances leave
room for nodes, then no two nodes of a problem overlap, every node lies within the extent of the
block, and no row beside the sidebar has more nodes than the configuration allows columns.
-/

namespace PlanDiagram.Diagram

/-- A frame is sound: there is room for nodes in its columns, which end within its width, and for
the sidebar. -/
structure ProblemFrame.Sound (f : ProblemFrame Rat) : Prop where
  valid : f.cfg.Valid
  roomy : f.cfg.Roomy
  columns_pos : 0 < f.columns
  width_eq : f.width = f.cfg.nodeWidth + f.cfg.spacingX * (f.columns - 1 : Nat)
  sidebarWidth_pos : 0 < f.sidebarWidth
  sidebarHeight_pos : 0 < f.sidebarHeight
  sidebarGap_pos : 0 < f.sidebarGap

/-- A node of a band stands in one of the columns. -/
structure ProblemFrame.Holds (f : ProblemFrame Rat) (n : Node Rat) : Prop where
  column : ∃ k < f.columns, n.box.x = f.left + k * f.cfg.spacingX
  width_pos : 0 < n.box.width
  height_pos : 0 < n.box.height
  describes_eq : n.describes = none

namespace ProblemFrame

variable {f : ProblemFrame Rat} {nodes nodes' : List (Node Rat)} {top middle bottom : Rat}
  {d d' d'' : Drawing Rat}

/-- The columns end within the width of the frame. -/
theorem Sound.columns_le (hf : f.Sound) :
    f.left + (f.columns - 1 : Nat) * f.cfg.spacingX + f.cfg.nodeWidth ≤ f.left + f.width := by
  rw [hf.width_eq]
  linarith

/-- Comparisons are drawn in the same columns as all else. -/
theorem Sound.comparisonColumns_eq (hf : f.Sound) : f.comparisonColumns = f.columns :=
  Nat.max_eq_right hf.columns_pos

/-- A row has at most as many nodes as there are columns, if no two nodes overlap. -/
theorem row_length_le (hholds : ∀ n ∈ nodes, f.Holds n)
    (hapart : nodes.Pairwise fun m n => m.box.Apart n.box) (height : Rat) :
    (nodes.filter fun n => n.box.y = height).length ≤ f.columns := by
  have hrow : (nodes.filter fun n => n.box.y = height).Pairwise fun m n => m.box.x ≠ n.box.x := by
    refine (hapart.filter _).imp_of_mem fun {m n} hm hn hapart hx => ?_
    obtain ⟨hm, hmy⟩ := List.mem_filter.mp hm
    obtain ⟨hn, hny⟩ := List.mem_filter.mp hn
    have hy : m.box.y = n.box.y := (of_decide_eq_true hmy).trans (of_decide_eq_true hny).symm
    exact hapart.origin_ne (hholds m hm).width_pos (hholds m hm).height_pos
      (hholds n hn).width_pos (hholds n hn).height_pos (by simp only [Box.origin, hx, hy])
  have hnodup : ((nodes.filter fun n => n.box.y = height).map fun n => n.box.x).Nodup :=
    List.pairwise_map.mpr hrow
  have hsubset : ((nodes.filter fun n => n.box.y = height).map fun n => n.box.x) ⊆
      (List.range f.columns).map fun k : Nat => f.left + k * f.cfg.spacingX := by
    intro x hx
    obtain ⟨n, hn, rfl⟩ := List.mem_map.mp hx
    obtain ⟨k, hk, hcolumn⟩ := (hholds n (List.mem_of_mem_filter hn)).column
    exact List.mem_map.mpr ⟨k, List.mem_range.mpr hk, hcolumn.symm⟩
  have hlength := (List.subperm_of_subset hnodup hsubset).length_le
  rwa [List.length_map, List.length_map, List.length_range] at hlength

/-- A drawing of a band adds nodes in the columns, between two heights. -/
structure Stacks (f : ProblemFrame Rat) (top bottom : Rat) (nodes : List (Node Rat))
    (d d' : Drawing Rat) : Prop
    extends Diagram.Stacks f.left (f.left + f.width) top bottom nodes d d' where
  holds : ∀ n ∈ nodes, f.Holds n

namespace Stacks

/-- A drawing that adds no nodes. -/
theorem of_adds (h : Adds [] d d') (htop : top ≤ bottom) : f.Stacks top bottom [] d d' :=
  ⟨.of_adds h htop, by simp⟩

/-- Two bands in turn, the second below the first. -/
theorem trans (h : f.Stacks top middle nodes d d') (h' : f.Stacks middle bottom nodes' d' d'') :
    f.Stacks top bottom (nodes ++ nodes') d d'' :=
  ⟨h.toStacks.trans h'.toStacks, fun n hn => (List.mem_append.mp hn).elim (h.holds n) (h'.holds n)⟩

/-- Nodes that fill cells of a grid with these columns stand in them. -/
theorem holds_of_filled {g : Grid Rat} (hf : f.Sound) (h : g.Filled 0 nodes) (hcfg : g.cfg = f.cfg)
    (hleft : g.left = f.left) (hcolumns : g.columns = f.columns) (hwidth : 0 < g.width)
    (hheight : 0 < g.height) : ∀ n ∈ nodes, f.Holds n := by
  intro n hn
  obtain ⟨i, hi⟩ := List.getElem?_of_mem hn
  have hcell := h i n hi
  refine ⟨⟨(0 + i) % g.columns, ?_, ?_⟩, hcell.width_eq ▸ hwidth, hcell.height_eq ▸ hheight,
    hcell.describes_eq⟩
  · rw [hcolumns]
    exact Nat.mod_lt _ hf.columns_pos
  · rw [hcell.x_eq, hleft, hcfg]

variable {last : Nat}

/-- Ellipses that fill cells are stacked in as many rows as they need. -/
theorem of_ellipses (hf : f.Sound)
    (h : (ellipseGrid f.cfg f.left top f.columns).Fills 0 last nodes d d')
    (hbottom : top + rowCount last f.columns * f.cfg.spacingY ≤ bottom) :
    f.Stacks top bottom nodes d d' :=
  ⟨.of_ellipses hf.valid hf.roomy hf.columns_pos hf.columns_le h hbottom,
    holds_of_filled hf h.filled rfl rfl rfl hf.valid.nodeWidth_pos hf.valid.nodeHeight_pos⟩

/-- Rectangles of objects that fill cells are stacked in as many rows as they need. -/
theorem of_rectangles (hf : f.Sound)
    (h : (rectangleGrid f.cfg f.left top f.columns).Fills 0 last nodes d d')
    (hbottom : top + rowCount last f.columns * f.cfg.spacingY ≤ bottom) :
    f.Stacks top bottom nodes d d' :=
  ⟨.of_rectangles hf.valid hf.roomy hf.columns_pos hf.columns_le h hbottom,
    holds_of_filled hf h.filled rfl rfl rfl
      (mul_pos hf.valid.nodeWidth_pos hf.valid.parameterScale_pos)
      (mul_pos hf.valid.nodeHeight_pos hf.valid.parameterScale_pos)⟩

end Stacks

end ProblemFrame

namespace ProblemBlock

variable {f : ProblemFrame Rat} {cursor : BandCursor Rat} {d d' : Drawing Rat}

/-- A band of literals is stacked below what is above it. -/
theorem drawLiteralBand_stacks (hf : f.Sound) {role : Role} {literals : List LiteralUse}
    {result : List (String × Box Rat) × BandCursor Rat}
    (hdraw : drawLiteralBand f role literals cursor d = .ok (result, d')) :
    ∃ ns, f.Stacks cursor.next result.2.next ns d d' := by
  obtain ⟨⟨ns, hns⟩, hnext⟩ := drawLiteralBand_fills hdraw
  refine ⟨ns, .of_ellipses hf hns ?_⟩
  rw [hnext]
  refine rows_le_of_isEmpty hf.columns_pos le_rfl ?_
  rw [scalar_ofNat]
  linarith [hf.valid.sectionGap_pos]

/-- The objects are stacked below what is above them. -/
theorem drawObjectBand_stacks (hf : f.Sound) {objects : List Parameter}
    {result : List (String × Box Rat) × BandCursor Rat}
    (hdraw : drawObjectBand f objects cursor d = .ok (result, d')) :
    ∃ ns, f.Stacks cursor.next result.2.next ns d d' := by
  obtain ⟨⟨ns, hns⟩, hnext⟩ := drawObjectBand_fills hdraw
  refine ⟨ns, .of_rectangles hf hns ?_⟩
  rw [hnext]
  refine rows_le_of_isEmpty hf.columns_pos le_rfl ?_
  rw [scalar_ofNat]
  linarith [hf.valid.sectionGap_pos]

/-- The operators of a band of comparisons do not start above the end of its operands. -/
theorem operandGap_nonneg (hf : f.Sound) (operands : Nat) : 0 ≤ operandGap f operands := by
  unfold operandGap
  split
  · exact hf.valid.sectionGap_pos.le
  · exact le_rfl

/-- A band of comparisons is stacked below what is above it. -/
theorem drawComparisonBand_stacks (hf : f.Sound) {role : Role} {comparisons : List ComparisonUse}
    {result : List (FunctionUse Rat) × BandCursor Rat}
    (hdraw : drawComparisonBand f role comparisons cursor d = .ok (result, d')) :
    ∃ ns, f.Stacks cursor.next result.2.next ns d d' := by
  rcases drawComparisonBand_fills hdraw with ⟨rfl, hnext⟩ | ⟨ns, ms, middle, hfills⟩
  · exact ⟨[], .of_adds (.refl d) hnext.ge⟩
  · have hgap := operandGap_nonneg hf ns.length
    obtain ⟨hfirst, hsecond, hnext⟩ := hfills
    rw [hf.comparisonColumns_eq] at hfirst hsecond
    have hoperands : f.Stacks cursor.next
        (cursor.next + rowsHeight f ns.length + operandGap f ns.length) ns d middle := by
      refine .of_ellipses hf hfirst ?_
      simp only [rowsHeight, hf.comparisonColumns_eq, scalar_ofNat]
      linarith
    have hoperators : f.Stacks (cursor.next + rowsHeight f ns.length + operandGap f ns.length)
        result.2.next ms middle d' := by
      refine .of_ellipses hf hsecond ?_
      rw [hnext]
      simp only [rowsHeight, hf.comparisonColumns_eq, scalar_ofNat]
      linarith [hf.valid.sectionGap_pos]
    exact ⟨ns ++ ms, hoperands.trans hoperators⟩

/-- The descriptions are laid in the sidebar, up to where the lower one ends. -/
theorem Sidebar.lays (hf : f.Sound) {x y objectBottom : Rat} {init goal : Node Rat}
    (h : Sidebar f x y objectBottom init goal) :
    (Region.mk x (x + f.sidebarWidth) y goal.box.bottom).Lays [init, goal] := by
  have hinitX : init.box.x = x := congrArg Point.x h.init_origin
  have hinitY : init.box.y = y := congrArg Point.y h.init_origin
  have hgoalX : goal.box.x = x := congrArg Point.x h.goal_origin
  have hgoalY : y + f.sidebarHeight + f.cfg.sectionGap ≤ goal.box.y := by
    have hy : goal.box.y = greater (objectBottom + f.cfg.sectionGap)
      (y + f.sidebarHeight + f.cfg.sectionGap) := congrArg Point.y h.goal_origin
    rw [hy, greater_eq_max]
    exact le_max_right _ _
  have hgap := hf.valid.sectionGap_pos
  have hheight := hf.sidebarHeight_pos
  have hbottom : goal.box.y ≤ goal.box.bottom := by
    rw [Box.bottom, h.goal_height, scalar_half]
    linarith
  have hinit : (Region.mk x (x + f.sidebarWidth) y (y + f.sidebarHeight)).Lays [init] := by
    refine .singleton ⟨hinitX.ge, ?_, hinitY.ge, ?_⟩
    · rw [hinitX, h.init_width]
    · rw [Box.bottom, hinitY, h.init_height]
  have hgoal : (Region.mk x (x + f.sidebarWidth) goal.box.y goal.box.bottom).Lays [goal] := by
    refine .singleton ⟨hgoalX.ge, ?_, le_rfl, le_rfl⟩
    rw [hgoalX, h.goal_width]
  refine hinit.below hgoal ?_ ?_ ?_ <;> linarith

/-- The columns of a problem are some, and no more than the configuration allows. -/
theorem columns_bounds {cfg : Config Rat} (hvalid : cfg.Valid) (problem : Problem) :
    0 < columns cfg problem ∧ columns cfg problem ≤ cfg.problemMaxColumns :=
  ⟨columnCount_pos hvalid.problemMaxColumns_pos _, min_le_left _ _⟩

/-- The frame of a problem is sound. -/
theorem frame_sound {cfg : Config Rat} (hvalid : cfg.Valid) (hroomy : cfg.Roomy)
    (problem : Problem) (x : Rat) : (frame cfg (columns cfg problem) x).Sound := by
  have hnodeWidth := hvalid.nodeWidth_pos
  have hcolumns := (columns_bounds hvalid problem).1
  have hwidth_eq : (frame cfg (columns cfg problem) x).width =
      cfg.nodeWidth + cfg.spacingX * (columns cfg problem - 1 : Nat) :=
    if_neg (Nat.ne_of_gt hcolumns)
  have hwidth : 0 < (frame cfg (columns cfg problem) x).width := by
    rw [hwidth_eq]
    exact add_pos_of_pos_of_nonneg hnodeWidth
      (mul_nonneg hvalid.spacingX_pos.le (Nat.cast_nonneg _))
  have hlimit : 0 < cfg.nodeWidth * Scalar.ofNat 6 := mul_pos hnodeWidth (by decide +kernel)
  refine ⟨hvalid, hroomy, hcolumns, hwidth_eq, ?_, ?_, ?_⟩
  · exact (lt_min hwidth hlimit).trans_eq (lesser_eq_min _ _).symm
  · exact mul_pos hvalid.nodeHeight_pos (by decide +kernel)
  · exact div_pos hvalid.spacingX_pos two_pos

/-- The block of a problem with its upper left corner at `(x, y)` is laid out without overlaps. -/
structure LaidOut (cfg : Config Rat) (x y : Rat) (block : Block Rat) : Prop where
  /-- Every node lies within the extent of the block. -/
  within : ∀ n ∈ nodesOf block.elements,
    n.box.Within ⟨x, x + block.width, y, y + block.height⟩
  /-- No two nodes overlap. -/
  apart : (nodesOf block.elements).Pairwise fun m n => m.box.Apart n.box
  /-- The sidebar describes the facts and the goal. -/
  described : (nodesOf block.elements).filterMap Node.describes = ["problem-init", "problem-goal"]
  /-- Each row of nodes beside the sidebar keeps to the columns of the configuration. -/
  row_le : ∀ height, ((nodesOf block.elements).filter fun n =>
    n.describes.isNone ∧ n.box.y = height).length ≤ cfg.problemMaxColumns

variable {cfg : Config Rat} {problem : Problem} {x y : Rat} {block : Block Rat}

/-- The bands beside the sidebar and the descriptions in it are laid side by side. -/
theorem lays_of_stacks (hf : f.Sound) (hleft : f.left = x + f.sidebarWidth + f.sidebarGap)
    {next objectBottom bottom : Rat} {content : List (Node Rat)} {init goal : Node Rat}
    (hcontent : f.Stacks y next content d d') (hsidebar : Sidebar f x y objectBottom init goal)
    (hbottom : ∀ n ∈ content ++ [init, goal], n.box.bottom ≤ bottom) :
    (Region.mk x (f.left + f.width) y bottom).Lays (content ++ [init, goal]) := by
  have hwidth : 0 ≤ f.width := by
    rw [hf.width_eq]
    exact add_nonneg hf.valid.nodeWidth_pos.le
      (mul_nonneg hf.valid.spacingX_pos.le (Nat.cast_nonneg _))
  have hsidebarWidth := hf.sidebarWidth_pos
  have hsidebarGap := hf.sidebarGap_pos
  have hright := hcontent.lays.mono le_rfl fun n hn => hbottom n (List.mem_append_left _ hn)
  have hfirst := (hsidebar.lays hf).mono le_rfl fun n hn => hbottom n (List.mem_append_right _ hn)
  refine (hfirst.beside hright ?_ ?_ ?_).perm List.perm_append_comm <;> linarith

/-- What a block consists of: bands that are stacked, and the descriptions. -/
theorem Stages.exists_content (stages : Stages cfg problem x y d d' block) (hvalid : cfg.Valid)
    (hroomy : cfg.Roomy) : ∃ content init goal,
      (frame cfg (columns cfg problem) x).Stacks y stages.goalComparisons.2.next content d
        stages.afterGoalComparisons ∧
      Sidebar (frame cfg (columns cfg problem) x) x y
        (objectBottom cfg problem stages.initLiterals.2.next) init goal ∧
      Adds (content ++ [init, goal]) d d' := by
  have hf := frame_sound hvalid hroomy problem x
  obtain ⟨initNodes, hinitNodes⟩ := drawComparisonBand_stacks hf stages.initComparisons_eq
  obtain ⟨initRow, hinitRow⟩ := drawLiteralBand_stacks hf stages.initLiterals_eq
  obtain ⟨objectRow, hobjectRow⟩ := drawObjectBand_stacks hf stages.objects_eq
  obtain ⟨goalRow, hgoalRow⟩ := drawLiteralBand_stacks hf stages.goalLiterals_eq
  obtain ⟨goalNodes, hgoalNodes⟩ := drawComparisonBand_stacks hf stages.goalComparisons_eq
  have hcontent := (((hinitNodes.trans hinitRow).trans hobjectRow).trans hgoalRow).trans hgoalNodes
  obtain ⟨init, goal, hsidebar, hdescriptions⟩ := drawSidebar_adds stages.sidebar_eq
  have hadds := ((hcontent.adds.trans hdescriptions).trans
    (Draw.connectAll_adds stages.literalArrows_eq)).trans
    (Draw.connectAll_adds stages.functionArrows_eq)
  rw [List.append_nil, List.append_nil] at hadds
  exact ⟨_, init, goal, hcontent, hsidebar, hadds⟩

/-- A block is laid out without overlaps. -/
theorem Stages.laidOut (stages : Stages cfg problem x y d d' block) (hvalid : cfg.Valid)
    (hroomy : cfg.Roomy) (helements : d.canvas.elements = []) : LaidOut cfg x y block := by
  obtain ⟨content, init, goal, hcontent, hsidebar, hadds⟩ := stages.exists_content hvalid hroomy
  have hnodes : nodesOf block.elements = content ++ [init, goal] := by
    rw [stages.nodesOf_eq, hadds.nodes_eq, helements]
    rfl
  have hlays := lays_of_stacks (frame_sound hvalid hroomy problem x) rfl hcontent hsidebar
    fun n hn => (hadds.bottom_le n hn).trans
      (bottom_le_of_height stages.height_eq hvalid.nodeHeight_pos)
  have hright : (frame cfg (columns cfg problem) x).left +
      (frame cfg (columns cfg problem) x).width = x + block.width := by
    rw [stages.width_eq]
    simp only [frame, add_assoc]
  rw [hright, ← hnodes] at hlays
  have hplain : ∀ n ∈ content, n.describes = none :=
    fun n hn => (hcontent.holds n hn).describes_eq
  refine ⟨hlays.within, hlays.apart, ?_, fun height => ?_⟩
  · rw [hnodes, List.filterMap_append, List.filterMap_eq_nil_iff.mpr hplain]
    simp [hsidebar.init_describes, hsidebar.goal_describes]
  · have hrow : (nodesOf block.elements).filter (fun n => n.describes.isNone ∧ n.box.y = height) =
        content.filter fun n => n.box.y = height := by
      have hsame : content.filter (fun n => n.describes.isNone ∧ n.box.y = height) =
          content.filter fun n => n.box.y = height :=
        List.filter_congr fun n hn => by simp [hplain n hn]
      rw [hnodes, List.filter_append, hsame]
      simp [hsidebar.init_describes, hsidebar.goal_describes]
    rw [hrow]
    have hapart := (List.pairwise_append.mp (hnodes ▸ hlays.apart)).1
    exact (ProblemFrame.row_length_le hcontent.holds hapart height).trans
      (columns_bounds hvalid problem).2

end ProblemBlock

/-- Every problem has a block, which is laid out without overlaps. -/
theorem problemBlock_laidOut {cfg : Config Rat} (hvalid : cfg.Valid) (hroomy : cfg.Roomy)
    (session : Session) (problem : Problem) (x y : Rat) :
    ∃ block, (problemBlock cfg session problem x y).2 = .ok block ∧
      ProblemBlock.LaidOut cfg x y block := by
  obtain ⟨block, h⟩ := exists_problemBlock hvalid.spacingY_pos.ne'
    hvalid.problemMaxColumns_pos session problem x y
  obtain ⟨d', hdraw⟩ := Draw.exists_of_run h
  obtain ⟨stages⟩ := ProblemBlock.nonempty_stages hdraw
  exact ⟨block, h, stages.laidOut hvalid hroomy rfl⟩

/-- A problem that fills all bands, and that of the objects with two rows. -/
def harborProblem : Problem where
  name := "harbor"
  objects := ["north", "south", "east", "west", "crane", "barge", "tug", "pilot", "pier"].map
    fun name => { name }
  init := [
    .predicate "moored" [.parameter "barge" .null, .parameter "north" .null],
    .comparison "=" [.function "load" [.parameter "barge" .null], .parameter "5" .null],
    .comparison "=" [.function "load" [.parameter "tug" .null], .parameter "5" .null]]
  goal := some (.composite "and" [
    .predicate "moored" [.parameter "barge" .null, .parameter "south" .null],
    .comparison "<" [.function "load" [.parameter "barge" .null],
      .function "load" [.parameter "tug" .null]]] [])

/-- The problem is drawn, and its block is laid out from the given corner on. -/
theorem problemBlock_laidOut_harborProblem :
    ∃ block, (problemBlock Config.rational {} harborProblem 100 100).2 = .ok block ∧
      ProblemBlock.LaidOut Config.rational 100 100 block :=
  problemBlock_laidOut Config.valid_rational Config.roomy_rational {} harborProblem 100 100

end PlanDiagram.Diagram
