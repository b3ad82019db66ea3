import Mathlib.Tactic.Linarith
import PlanDiagram.Proofs.Diagram.Cells
import PlanDiagram.Proofs.Diagram.Rational

/-!
# Boxes that do not overlap

Over rational scalars the places of nodes can be compared. Nodes are laid in a region if they lie
within it and no point is inside two of them; regions that lie side by side or one below the other
are put together. Main statement: nodes that fill cells of a grid are laid in the region of as many
rows as they need, if a cell has room for a node.
-/

namespace PlanDiagram.Diagram

/-- Small natural numbers are what they are. -/
@[simp] theorem scalar_ofNat (n : Nat) : (Scalar.ofNat n : Rat) = n := rfl

/-- Half of a rational number. -/
@[simp] theorem scalar_half (x : Rat) : Scalar.half x = x / 2 := rfl

/-- The greater of two numbers is their maximum. -/
theorem greater_eq_max (a b : Rat) : greater a b = max a b := by
  unfold greater
  split
  · rw [max_eq_right (le_of_lt ‹_›)]
  · rw [max_eq_left (not_lt.mp ‹_›)]

/-- The lesser of two numbers is their minimum. -/
theorem lesser_eq_min (a b : Rat) : lesser a b = min a b := by
  unfold lesser
  split
  · rw [min_eq_right (le_of_lt ‹_›)]
  · rw [min_eq_left (not_lt.mp ‹_›)]

/-- A block is high enough for the lowest point of its canvas. -/
theorem bottom_le_of_height {bottom lastBottom top height nodeHeight : Rat}
    (h : height = greater bottom lastBottom - top + nodeHeight) (hpos : 0 < nodeHeight) :
    bottom ≤ top + height := by
  rw [h, greater_eq_max]
  linarith [le_max_left bottom lastBottom]

/-- The greatest of some heights is at least the first and all others. -/
theorem le_foldl_greater (heights : List Rat) (a : Rat) :
    a ≤ heights.foldl greater a ∧ ∀ h ∈ heights, h ≤ heights.foldl greater a := by
  induction heights generalizing a with
  | nil => simp
  | cons h rest ih =>
    obtain ⟨hfirst, hrest⟩ := ih (greater a h)
    rw [List.foldl_cons, List.forall_mem_cons]
    rw [greater_eq_max] at hfirst hrest ⊢
    exact ⟨(le_max_left a h).trans hfirst, (le_max_right a h).trans hfirst, hrest⟩

/-- What is added to a canvas lies above its lowest point. -/
theorem Adds.bottom_le {nodes : List (Node Rat)} {d d' : Drawing Rat} (h : Adds nodes d d') :
    ∀ n ∈ nodes, n.box.bottom ≤ d'.canvas.bottom := by
  obtain ⟨heights, hbottom, hnodes⟩ := h.reaches
  intro n hn
  rw [hbottom]
  exact (le_foldl_greater heights _).2 _ (hnodes n hn)

namespace Box

/-- A point lies inside a box, and not on its border. -/
structure Inside (b : Box Rat) (p : Point Rat) : Prop where
  left : b.x < p.x
  right : p.x < b.x + b.width
  top : b.y < p.y
  bottom : p.y < b.bottom

/-- No point lies inside both of two boxes. -/
def Apart (a b : Box Rat) : Prop :=
  ∀ p, a.Inside p → ¬ b.Inside p

/-- Being apart is symmetric. -/
theorem Apart.symm {a b : Box Rat} (h : a.Apart b) : b.Apart a :=
  fun p hb ha => h p ha hb

/-- A box to the left of another one. -/
theorem apart_of_left {a b : Box Rat} (h : a.x + a.width ≤ b.x) : a.Apart b :=
  fun _ ha hb => absurd (ha.right.trans_le (h.trans hb.left.le)) (lt_irrefl _)

/-- A box above another one. -/
theorem apart_of_above {a b : Box Rat} (h : a.bottom ≤ b.y) : a.Apart b :=
  fun _ ha hb => absurd (ha.bottom.trans_le (h.trans hb.top.le)) (lt_irrefl _)

/-- Boxes with an inside do not start at the same point if they are apart. -/
theorem Apart.origin_ne {a b : Box Rat} (h : a.Apart b) (haw : 0 < a.width) (hah : 0 < a.height)
    (hbw : 0 < b.width) (hbh : 0 < b.height) : a.origin ≠ b.origin := by
  intro horigin
  have hx : a.x = b.x := congrArg Point.x horigin
  have hy : a.y = b.y := congrArg Point.y horigin
  have hwidth : 0 < min a.width b.width := lt_min haw hbw
  have hheight : 0 < min a.height b.height := lt_min hah hbh
  have hinside (c : Box Rat) (hcx : c.x = a.x) (hcy : c.y = a.y)
      (hw : min a.width b.width ≤ c.width) (hh : min a.height b.height ≤ c.height) :
      c.Inside ⟨a.x + min a.width b.width / 2, a.y + min a.height b.height / 2⟩ := by
    constructor <;> simp only [Box.bottom] <;> linarith
  exact h _ (hinside a rfl rfl (min_le_left _ _) (min_le_left _ _))
    (hinside b hx.symm hy.symm (min_le_right _ _) (min_le_right _ _))

end Box

/-- A part of the plane, from left to right and from top to bottom. -/
structure Region where
  left : Rat
  right : Rat
  top : Rat
  bottom : Rat

/-- A box lies within a region. -/
structure Box.Within (b : Box Rat) (r : Region) : Prop where
  left : r.left ≤ b.x
  right : b.x + b.width ≤ r.right
  top : r.top ≤ b.y
  bottom : b.bottom ≤ r.bottom

/-- Nodes are laid in a region: they lie within it, and no two of them overlap. -/
structure Region.Lays (r : Region) (nodes : List (Node Rat)) : Prop where
  within : ∀ n ∈ nodes, n.box.Within r
  apart : nodes.Pairwise fun m n => m.box.Apart n.box

namespace Region.Lays

variable {r : Region} {nodes nodes' : List (Node Rat)} {left right left' right' top middle middle'
  bottom : Rat}

/-- No nodes are laid anywhere. -/
theorem nil (r : Region) : r.Lays [] :=
  ⟨by simp, .nil⟩

/-- One node is laid where it lies. -/
theorem singleton {n : Node Rat} (h : n.box.Within r) : r.Lays [n] :=
  ⟨by simpa using h, by simp⟩

/-- The order of the nodes does not matter. -/
theorem perm (h : r.Lays nodes) (hperm : nodes.Perm nodes') : r.Lays nodes' :=
  ⟨fun n hn => h.within n (hperm.mem_iff.mpr hn),
    (hperm.pairwise_iff Box.Apart.symm).mp h.apart⟩

/-- Nodes in two regions, the second below the first. -/
theorem below (h : (Region.mk left right top middle).Lays nodes)
    (h' : (Region.mk left right middle' bottom).Lays nodes') (htop : top ≤ middle')
    (hmiddle : middle ≤ middle') (hbottom : middle ≤ bottom) :
    (Region.mk left right top bottom).Lays (nodes ++ nodes') := by
  refine ⟨fun n hn => ?_, List.pairwise_append.mpr ⟨h.apart, h'.apart, fun m hm n hn => ?_⟩⟩
  · rcases List.mem_append.mp hn with hn | hn
    · have hw := h.within n hn
      exact ⟨hw.left, hw.right, hw.top, hw.bottom.trans hbottom⟩
    · have hw := h'.within n hn
      exact ⟨hw.left, hw.right, htop.trans hw.top, hw.bottom⟩
  · exact Box.apart_of_above (((h.within m hm).bottom.trans hmiddle).trans (h'.within n hn).top)

/-- Nodes in two regions, the second to the right of the first. -/
theorem beside (h : (Region.mk left right top bottom).Lays nodes)
    (h' : (Region.mk left' right' top bottom).Lays nodes') (hleft : left ≤ left')
    (hmiddle : right ≤ left') (hright : right ≤ right') :
    (Region.mk left right' top bottom).Lays (nodes ++ nodes') := by
  refine ⟨fun n hn => ?_, List.pairwise_append.mpr ⟨h.apart, h'.apart, fun m hm n hn => ?_⟩⟩
  · rcases List.mem_append.mp hn with hn | hn
    · have hw := h.within n hn
      exact ⟨hw.left, hw.right.trans hright, hw.top, hw.bottom⟩
    · have hw := h'.within n hn
      exact ⟨hleft.trans hw.left, hw.right, hw.top, hw.bottom⟩
  · exact Box.apart_of_left (((h.within m hm).right.trans hmiddle).trans (h'.within n hn).left)

/-- The region may start higher, and it ends anywhere below the nodes. -/
theorem mono {top' bottom' : Rat} (h : (Region.mk left right top bottom).Lays nodes)
    (htop : top' ≤ top) (hbottom : ∀ n ∈ nodes, n.box.bottom ≤ bottom') :
    (Region.mk left right top' bottom').Lays nodes :=
  ⟨fun n hn => ⟨(h.within n hn).left, (h.within n hn).right, htop.trans (h.within n hn).top,
    hbottom n hn⟩, h.apart⟩

end Region.Lays

/-- A cell that is counted lies in one of the rows. -/
theorem div_succ_le_rowCount {i cells columns : Nat} (hcolumns : 0 < columns) (hi : i < cells) :
    i / columns + 1 ≤ rowCount cells columns := by
  have hrow : (i + columns) / columns = i / columns + 1 := Nat.add_div_right i hcolumns
  rw [← hrow, rowCount]
  exact Nat.div_le_div_right (by omega)

/-- Without cells there are no rows. -/
theorem rowCount_zero {columns : Nat} (h : 0 < columns) : rowCount 0 columns = 0 := by
  rw [rowCount, Nat.zero_add]
  exact Nat.div_eq_of_lt (Nat.sub_lt h Nat.one_pos)

/-- More cells need no fewer rows. -/
theorem rowCount_mono {cells cells' : Nat} (h : cells ≤ cells') (columns : Nat) :
    rowCount cells columns ≤ rowCount cells' columns :=
  Nat.div_le_div_right (by omega)

/-- What comes next is below the rows of a band, also if the band is left out. -/
theorem rows_le_of_isEmpty {γ : Type} {xs : List γ} {columns : Nat} (hcolumns : 0 < columns)
    {top distance otherwise next : Rat} (hotherwise : top ≤ otherwise)
    (hnext : top + rowCount xs.length columns * distance ≤ next) :
    top + rowCount xs.length columns * distance ≤ if xs.isEmpty then otherwise else next := by
  cases xs with
  | nil => simpa [rowCount_zero hcolumns] using hotherwise
  | cons => exact hnext

namespace Grid

/-- The cells of a grid have room for its nodes, up to the right end of a region. -/
structure Fits (g : Grid Rat) (right : Rat) : Prop where
  columns_pos : 0 < g.columns
  spacingX_nonneg : 0 ≤ g.cfg.spacingX
  spacingY_nonneg : 0 ≤ g.cfg.spacingY
  width_le : g.width ≤ g.cfg.spacingX
  height_le : g.height ≤ g.cfg.spacingY
  right_le : g.left + (g.columns - 1 : Nat) * g.cfg.spacingX + g.width ≤ right

variable {g : Grid Rat} {nodes : List (Node Rat)} {right : Rat}

/-- The left end of a node in a cell. -/
theorem Holds.x_eq {index : Nat} {n : Node Rat} (h : g.Holds index n) :
    n.box.x = g.left + (index % g.columns : Nat) * g.cfg.spacingX :=
  congrArg Point.x h.origin_eq

/-- The upper end of a node in a cell. -/
theorem Holds.y_eq {index : Nat} {n : Node Rat} (h : g.Holds index n) :
    n.box.y = g.top + (index / g.columns : Nat) * g.cfg.spacingY :=
  congrArg Point.y h.origin_eq

/-- Multiples of a distance are in the order of their factors. -/
theorem mul_le_mul_of_le {i j : Nat} {distance : Rat} (hdistance : 0 ≤ distance) (h : i ≤ j) :
    (i : Rat) * distance ≤ j * distance :=
  mul_le_mul_of_nonneg_right (by exact_mod_cast h) hdistance

/-- A node ends before the next multiple of a distance that has room for it. -/
theorem add_le_of_succ_le {i j : Nat} {size distance : Rat} (hsize : size ≤ distance)
    (hdistance : 0 ≤ distance) (h : i + 1 ≤ j) : (i : Rat) * distance + size ≤ j * distance := by
  have hnext := mul_le_mul_of_le hdistance h
  push_cast at hnext
  linarith

/-- Nodes that fill cells are laid in as many rows as they need. -/
theorem Filled.lays (h : g.Filled 0 nodes) (hfits : g.Fits right) :
    (Region.mk g.left right g.top
      (g.top + rowCount nodes.length g.columns * g.cfg.spacingY)).Lays nodes := by
  have hholds (i : Nat) (hi : i < nodes.length) : g.Holds i nodes[i] := by
    have hcell := h i nodes[i] (List.getElem?_eq_getElem hi)
    rwa [Nat.zero_add] at hcell
  constructor
  · intro n hn
    obtain ⟨i, hi, rfl⟩ := List.mem_iff_getElem.mp hn
    have hcell := hholds i hi
    have hcolumn := mul_le_mul_of_le hfits.spacingX_nonneg
      (Nat.le_sub_one_of_lt (Nat.mod_lt i hfits.columns_pos))
    have hrow := add_le_of_succ_le hfits.height_le hfits.spacingY_nonneg
      (div_succ_le_rowCount hfits.columns_pos hi)
    have hx : (0 : Rat) ≤ (i % g.columns : Nat) * g.cfg.spacingX :=
      mul_nonneg (Nat.cast_nonneg _) hfits.spacingX_nonneg
    have hy : (0 : Rat) ≤ (i / g.columns : Nat) * g.cfg.spacingY :=
      mul_nonneg (Nat.cast_nonneg _) hfits.spacingY_nonneg
    have hright := hfits.right_le
    constructor <;>
      simp only [Box.bottom, hcell.x_eq, hcell.y_eq, hcell.width_eq, hcell.height_eq] <;> linarith
  · refine List.pairwise_iff_getElem.mpr fun i j hi hj hij => ?_
    have hcell := hholds i hi
    have hcell' := hholds j hj
    -- an earlier cell lies in a row above, or in the same row further to the left
    rcases (Nat.div_le_div_right hij.le : i / g.columns ≤ j / g.columns).lt_or_eq with hrow | hrow
    · refine Box.apart_of_above ?_
      have hbelow := add_le_of_succ_le hfits.height_le hfits.spacingY_nonneg hrow
      simp only [Box.bottom, hcell.y_eq, hcell'.y_eq, hcell.height_eq]
      linarith
    · refine Box.apart_of_left ?_
      have hcolumn : i % g.columns < j % g.columns := by
        have hi := Nat.div_add_mod i g.columns
        have hj := Nat.div_add_mod j g.columns
        rw [hrow] at hi
        omega
      have hright := add_le_of_succ_le hfits.width_le hfits.spacingX_nonneg hcolumn
      simp only [hcell.x_eq, hcell'.x_eq, hcell.width_eq]
      linarith

end Grid

namespace Config

/-- A configuration is valid: sizes are positive, and blocks have at least one column. -/
structure Valid (cfg : Config Rat) : Prop where
  nodeWidth_pos : 0 < cfg.nodeWidth
  nodeHeight_pos : 0 < cfg.nodeHeight
  parameterScale_pos : 0 < cfg.parameterScale
  spacingX_pos : 0 < cfg.spacingX
  spacingY_pos : 0 < cfg.spacingY
  actionColumns_pos : 0 < cfg.actionColumns
  problemMaxColumns_pos : 0 < cfg.problemMaxColumns

/-- The distances of a configuration leave room for nodes. -/
structure Roomy (cfg : Config Rat) : Prop where
  nodeWidth_le : cfg.nodeWidth ≤ cfg.spacingX
  nodeHeight_le : cfg.nodeHeight ≤ cfg.spacingY
  parameterScale_le : cfg.parameterScale ≤ 1

variable {cfg : Config Rat}

/-- There is a gap between bands. -/
theorem Valid.sectionGap_pos (h : cfg.Valid) : 0 < cfg.sectionGap :=
  div_pos h.spacingY_pos two_pos

end Config

/-- A drawing adds nodes that are laid in a region. -/
structure Stacks (left right top bottom : Rat) (nodes : List (Node Rat)) (d d' : Drawing Rat) :
    Prop where
  adds : Adds nodes d d'
  top_le : top ≤ bottom
  lays : (Region.mk left right top bottom).Lays nodes

namespace Stacks

variable {left right top middle bottom : Rat} {nodes nodes' : List (Node Rat)}
  {d d' d'' : Drawing Rat}

/-- A drawing that adds no nodes. -/
theorem of_adds (h : Adds [] d d') (htop : top ≤ bottom) :
    Stacks left right top bottom [] d d' :=
  ⟨h, htop, .nil _⟩

/-- Two drawings in turn, the second below the first. -/
theorem trans (h : Stacks left right top middle nodes d d')
    (h' : Stacks left right middle bottom nodes' d' d'') :
    Stacks left right top bottom (nodes ++ nodes') d d'' :=
  ⟨h.adds.trans h'.adds, h.top_le.trans h'.top_le,
    h.lays.below h'.lays h.top_le le_rfl h'.top_le⟩

/-- The region may start higher and end lower. -/
theorem mono {top' bottom' : Rat} (h : Stacks left right top bottom nodes d d')
    (htop : top' ≤ top) (hbottom : bottom ≤ bottom') :
    Stacks left right top' bottom' nodes d d' :=
  ⟨h.adds, (htop.trans h.top_le).trans hbottom,
    h.lays.mono htop fun n hn => (h.lays.within n hn).bottom.trans hbottom⟩

/-- Filling cells of a grid lays nodes in as many rows as they need. -/
theorem of_fills {g : Grid Rat} {last : Nat} (h : g.Fills 0 last nodes d d') (hfits : g.Fits right)
    (hbottom : g.top + rowCount last g.columns * g.cfg.spacingY ≤ bottom) :
    Stacks g.left right g.top bottom nodes d d' := by
  have hlast : last = nodes.length := h.last_eq.trans (Nat.zero_add _)
  have hrows : (0 : Rat) ≤ rowCount last g.columns * g.cfg.spacingY :=
    mul_nonneg (Nat.cast_nonneg _) hfits.spacingY_nonneg
  refine ⟨h.adds, by linarith, (h.filled.lays hfits).mono le_rfl fun n hn => ?_⟩
  exact ((h.filled.lays hfits).within n hn).bottom.trans (hlast ▸ hbottom)

variable {cfg : Config Rat} {columns last : Nat}

/-- Ellipses that fill cells are laid in as many rows as they need. -/
theorem of_ellipses (hvalid : cfg.Valid) (hroomy : cfg.Roomy) (hcolumns : 0 < columns)
    (hright : left + (columns - 1 : Nat) * cfg.spacingX + cfg.nodeWidth ≤ right)
    (h : (ellipseGrid cfg left top columns).Fills 0 last nodes d d')
    (hbottom : top + rowCount last columns * cfg.spacingY ≤ bottom) :
    Stacks left right top bottom nodes d d' :=
  of_fills h ⟨hcolumns, hvalid.spacingX_pos.le, hvalid.spacingY_pos.le, hroomy.nodeWidth_le,
    hroomy.nodeHeight_le, hright⟩ hbottom

/-- Rectangles of parameters or objects that fill cells are laid in as many rows as they need. -/
theorem of_rectangles (hvalid : cfg.Valid) (hroomy : cfg.Roomy) (hcolumns : 0 < columns)
    (hright : left + (columns - 1 : Nat) * cfg.spacingX + cfg.nodeWidth ≤ right)
    (h : (rectangleGrid cfg left top columns).Fills 0 last nodes d d')
    (hbottom : top + rowCount last columns * cfg.spacingY ≤ bottom) :
    Stacks left right top bottom nodes d d' := by
  have hwidth : cfg.parameterWidth ≤ cfg.nodeWidth :=
    mul_le_of_le_one_right hvalid.nodeWidth_pos.le hroomy.parameterScale_le
  have hheight : cfg.parameterHeight ≤ cfg.nodeHeight :=
    mul_le_of_le_one_right hvalid.nodeHeight_pos.le hroomy.parameterScale_le
  have hright : left + (columns - 1 : Nat) * cfg.spacingX + cfg.parameterWidth ≤ right := by
    linarith
  exact of_fills h ⟨hcolumns, hvalid.spacingX_pos.le, hvalid.spacingY_pos.le,
    hwidth.trans hroomy.nodeWidth_le, hheight.trans hroomy.nodeHeight_le, hright⟩ hbottom

end Stacks

end PlanDiagram.Diagram
