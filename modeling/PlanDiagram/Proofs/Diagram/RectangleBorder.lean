import Mathlib.Algebra.Order.Ring.Abs
import Mathlib.Tactic.Positivity
import PlanDiagram.Proofs.Diagram.Geometry

/-!
# The border of a rectangle

Over rational scalars the place where a ray leaves a rectangle is exact. The part of the way at
which it does is the lesser of two quotients, one for each axis; along an axis in which the ray does
not advance, there is no bound. Main statement: the ray from the centre towards another point meets
the border at exactly one point, which is the one that is computed, and relative to the box this
point lies on the border of the unit square.
-/

namespace PlanDiagram.Diagram

/-- A scalar that is zero. -/
theorem scalar_isZero {x : Rat} : Scalar.isZero x = true ↔ x = 0 :=
  beq_iff_eq

/-- Absolute values of rational numbers. -/
@[simp] theorem scalar_magnitude (x : Rat) : Scalar.magnitude x = |x| := by
  change Rat.abs x = |x|
  rcases le_total 0 x with h | h
  · rw [abs_of_nonneg h, Rat.abs_of_nonneg h]
  · rw [abs_of_nonpos h, Rat.abs_of_nonpos h]

/-- Quotients of rational numbers are exact. -/
theorem scalar_quotient (x : Rat) {y : Rat} (hy : y ≠ 0) : Scalar.quotient x y = .ok (x / y) :=
  if_neg hy

/-- A point lies on the border of a region: on one of its sides, between the ends of the others. -/
structure Region.Border (r : Region) (p : Point Rat) : Prop where
  left : r.left ≤ p.x
  right : p.x ≤ r.right
  top : r.top ≤ p.y
  bottom : p.y ≤ r.bottom
  side : p.x = r.left ∨ p.x = r.right ∨ p.y = r.top ∨ p.y = r.bottom

/-- A rectangle with an extent. -/
structure Box.IsRectangle (b : Box Rat) : Prop where
  shape_eq : b.shape = .rectangle
  width_pos : 0 < b.width
  height_pos : 0 < b.height

/-- The unit square, to which places relative to a box refer. -/
def Region.unit : Region := ⟨0, 1, 0, 1⟩

/-- The part of the plane that a box fills. -/
def Box.region (b : Box Rat) : Region := ⟨b.x, b.x + b.width, b.y, b.bottom⟩

/-- The point at a part of the way to another point, or beyond it. -/
def Point.towards (p target : Point Rat) (t : Rat) : Point Rat :=
  ⟨p.x + (target.x - p.x) * t, p.y + (target.y - p.y) * t⟩

/-- A point lies on the ray that starts at a point and leads through another one. -/
def Point.OnRay (start target p : Point Rat) : Prop :=
  ∃ t, 0 ≤ t ∧ p = start.towards target t

section Axis

variable {size d t : Rat}

/-- What lies in an interval is at most half of its length away from its middle. -/
theorem mem_interval_iff {start length e : Rat} :
    start ≤ start + length / 2 + e ∧ start + length / 2 + e ≤ start + length ↔
      |e| ≤ length / 2 := by
  rw [abs_le]
  constructor <;> rintro ⟨h, h'⟩ <;> constructor <;> linarith

/-- The ends of an interval are half of its length away from its middle. -/
theorem interval_end_iff (start e : Rat) {length : Rat} (hlength : 0 < length) :
    start + length / 2 + e = start ∨ start + length / 2 + e = start + length ↔
      |e| = length / 2 := by
  rw [abs_eq (half_pos hlength).le, or_comm]
  constructor <;> rintro (h | h)
  all_goals first | exact .inl (by linarith) | exact .inr (by linarith)

/-- How far one can go along an axis without leaving an interval. -/
theorem abs_mul_le_iff (hd : d ≠ 0) (ht : 0 ≤ t) : |d * t| ≤ size ↔ t ≤ size / |d| := by
  rw [abs_mul, abs_of_nonneg ht, le_div_iff₀ (abs_pos.mpr hd), mul_comm]

/-- Where one reaches the end of an interval along an axis. -/
theorem abs_mul_eq_iff (hd : d ≠ 0) (ht : 0 ≤ t) : |d * t| = size ↔ t = size / |d| := by
  rw [abs_mul, abs_of_nonneg ht, eq_div_iff (abs_pos.mpr hd).ne', mul_comm]

/-- Behind the end of an interval there is no other point of it. -/
theorem le_of_reached {t' : Rat} (hsize : 0 < size) (ht : 0 ≤ t) (ht' : 0 ≤ t')
    (hreached : |d * t| = size) (h : |d * t'| ≤ size) : t' ≤ t := by
  have hd : d ≠ 0 := by
    rintro rfl
    simp [hsize.ne] at hreached
  rw [(abs_mul_eq_iff hd ht).mp hreached]
  exact (abs_mul_le_iff hd ht').mp h

end Axis

/-- A rectangle with the half sides `hw` and `hh` is left at a part of the way in direction
`(dx, dy)`: neither side is passed, and one is reached. -/
structure Leaves (hw hh dx dy t : Rat) : Prop where
  nonneg : 0 ≤ t
  across : |dx * t| ≤ hw
  down : |dy * t| ≤ hh
  side : |dx * t| = hw ∨ |dy * t| = hh

namespace Leaves

variable {hw hh dx dy t t' : Rat}

/-- Behind the part of the way at which a rectangle is left, there is no other one. -/
theorem le (h : Leaves hw hh dx dy t) (h' : Leaves hw hh dx dy t') (hhw : 0 < hw) (hhh : 0 < hh) :
    t' ≤ t := by
  rcases h.side with hside | hside
  · exact le_of_reached hhw h.nonneg h'.nonneg hside h'.across
  · exact le_of_reached hhh h.nonneg h'.nonneg hside h'.down

/-- A rectangle is left once. -/
theorem unique (h : Leaves hw hh dx dy t) (h' : Leaves hw hh dx dy t') (hhw : 0 < hw)
    (hhh : 0 < hh) : t' = t :=
  le_antisymm (h.le h' hhw hhh) (h'.le h hhw hhh)

end Leaves

namespace Box

/-- The part of the way that is computed for a rectangle is the one at which it is left. -/
theorem exists_leaves {hw hh dx dy : Rat} (hhw : 0 < hw) (hhh : 0 < hh)
    (hway : ¬(dx = 0 ∧ dy = 0)) :
    ∃ t, rectangleScale hw hh dx dy = .ok t ∧ Leaves hw hh dx dy t := by
  have hquotient (size : Rat) {d : Rat} (hd : d ≠ 0) :
      Scalar.quotient size (Scalar.magnitude d) = .ok (size / |d|) := by
    rw [scalar_magnitude, scalar_quotient size (abs_ne_zero.mpr hd)]
  simp only [rectangleScale, scalar_isZero]
  -- where the way does not advance along an axis, the other axis alone bounds it
  by_cases hdx : dx = 0
  · have hdy : dy ≠ 0 := fun hdy => hway ⟨hdx, hdy⟩
    have hnonneg : 0 ≤ hh / |dy| := by positivity
    have hdown : |dy * (hh / |dy|)| = hh := (abs_mul_eq_iff hdy hnonneg).mpr rfl
    refine ⟨hh / |dy|, by rw [if_pos hdx, hquotient hh hdy], hnonneg, ?_, hdown.le, .inr hdown⟩
    simp [hdx, hhw.le]
  · have hdxmax : 0 ≤ hw / |dx| := by positivity
    by_cases hdy : dy = 0
    · have hacross : |dx * (hw / |dx|)| = hw := (abs_mul_eq_iff hdx hdxmax).mpr rfl
      refine ⟨hw / |dx|, by rw [if_neg hdx, if_pos hdy, hquotient hw hdx], hdxmax, hacross.le, ?_,
        .inl hacross⟩
      simp [hdy, hhh.le]
    · have hdymax : 0 ≤ hh / |dy| := by positivity
      have hnonneg : 0 ≤ min (hw / |dx|) (hh / |dy|) := le_min hdxmax hdymax
      refine ⟨min (hw / |dx|) (hh / |dy|), ?_, hnonneg,
        (abs_mul_le_iff hdx hnonneg).mpr (min_le_left _ _),
        (abs_mul_le_iff hdy hnonneg).mpr (min_le_right _ _),
        (min_choice _ _).imp (abs_mul_eq_iff hdx hnonneg).mpr (abs_mul_eq_iff hdy hnonneg).mpr⟩
      rw [if_neg hdx, if_neg hdy, hquotient hw hdx, hquotient hh hdy, ← lesser_eq_min]
      rfl

variable {b : Box Rat} {target p : Point Rat}

/-- A point on the way from the centre lies on the border if the rectangle is left there. -/
theorem border_towards_iff (hb : b.IsRectangle) {t : Rat} (ht : 0 ≤ t) :
    b.region.Border (b.center.towards target t) ↔
      Leaves (b.width / 2) (b.height / 2) (target.x - b.center.x) (target.y - b.center.y) t := by
  have hx := interval_end_iff b.x ((target.x - b.center.x) * t) hb.width_pos
  have hy := interval_end_iff b.y ((target.y - b.center.y) * t) hb.height_pos
  constructor
  · intro h
    refine ⟨ht, mem_interval_iff.mp ⟨h.left, h.right⟩, mem_interval_iff.mp ⟨h.top, h.bottom⟩, ?_⟩
    rcases h.side with h | h | h | h
    exacts [.inl (hx.mp (.inl h)), .inl (hx.mp (.inr h)), .inr (hy.mp (.inl h)),
      .inr (hy.mp (.inr h))]
  · intro h
    obtain ⟨hleft, hright⟩ := mem_interval_iff.mpr h.across
    obtain ⟨htop, hbottom⟩ := mem_interval_iff.mpr h.down
    refine ⟨hleft, hright, htop, hbottom, ?_⟩
    rw [← or_assoc]
    exact h.side.imp hx.mpr hy.mpr

/-- The ray towards any other point than the centre meets the border where it is computed. -/
theorem exists_borderTowards (hb : b.IsRectangle) (htarget : target ≠ b.center) :
    ∃ t, b.borderTowards target = .ok (b.center.towards target t) ∧
      Leaves (b.width / 2) (b.height / 2) (target.x - b.center.x) (target.y - b.center.y) t := by
  have hway : ¬(target.x - b.center.x = 0 ∧ target.y - b.center.y = 0) := by
    rintro ⟨hx, hy⟩
    exact htarget (congrArg₂ Point.mk (sub_eq_zero.mp hx) (sub_eq_zero.mp hy))
  have hhw := half_pos hb.width_pos
  have hhh := half_pos hb.height_pos
  obtain ⟨t, hscale, hleaves⟩ := exists_leaves hhw hhh hway
  refine ⟨t, ?_, hleaves⟩
  simp only [borderTowards, scalar_half, Bool.and_eq_true, Bool.or_eq_true, scalar_isZero,
    if_neg hway, hhw.ne', hhh.ne', hb.shape_eq, hscale]
  rfl

/-- Relative to a box, its border is that of the unit square. -/
theorem exists_connection_of_border (hb : b.IsRectangle) (hborder : b.region.Border p) :
    ∃ q, b.connection p = .ok q ∧ Region.unit.Border q := by
  have hrelative (start coordinate : Rat) {length : Rat} (hlength : 0 < length) :
      relative start length coordinate = .ok ((coordinate - start) / length) := by
    rw [relative, if_neg (mt scalar_isZero.mp hlength.ne'), scalar_quotient _ hlength.ne']
  obtain ⟨-, hwidth, hheight⟩ := hb
  refine ⟨⟨(p.x - b.x) / b.width, (p.y - b.y) / b.height⟩, ?_, ?_, ?_, ?_, ?_, ?_⟩
  · rw [connection, hrelative b.x p.x hwidth, hrelative b.y p.y hheight]
    rfl
  · exact div_nonneg (sub_nonneg.mpr hborder.left) hwidth.le
  · exact (div_le_one hwidth).mpr (sub_le_iff_le_add'.mpr hborder.right)
  · exact div_nonneg (sub_nonneg.mpr hborder.top) hheight.le
  · exact (div_le_one hheight).mpr (sub_le_iff_le_add'.mpr hborder.bottom)
  · simp only [Region.unit, div_eq_iff hwidth.ne', div_eq_iff hheight.ne', zero_mul, one_mul,
      sub_eq_iff_eq_add', add_zero]
    exact hborder.side

/-- The way out of a rectangle ends on its border, and relative to the rectangle on the border of
the unit square. -/
theorem exists_border (hb : b.IsRectangle) (htarget : target ≠ b.center) :
    ∃ p q, b.borderTowards target = .ok p ∧ b.connection p = .ok q ∧
      b.region.Border p ∧ b.center.OnRay target p ∧ Region.unit.Border q := by
  obtain ⟨t, hborder, hleaves⟩ := exists_borderTowards hb htarget
  have honborder := (border_towards_iff hb hleaves.nonneg).mpr hleaves
  obtain ⟨q, hplace, hunit⟩ := exists_connection_of_border hb honborder
  exact ⟨_, q, hborder, hplace, honborder, ⟨t, hleaves.nonneg, rfl⟩, hunit⟩

/-- A ray from the centre of a rectangle meets its border once. -/
theorem border_unique {p' : Point Rat} (hb : b.IsRectangle) (hborder : b.region.Border p)
    (hray : b.center.OnRay target p) (hborder' : b.region.Border p')
    (hray' : b.center.OnRay target p') : p' = p := by
  obtain ⟨t, ht, rfl⟩ := hray
  obtain ⟨t', ht', rfl⟩ := hray'
  have hleaves := (border_towards_iff hb ht).mp hborder
  have hleaves' := (border_towards_iff hb ht').mp hborder'
  rw [hleaves.unique hleaves' (half_pos hb.width_pos) (half_pos hb.height_pos)]

end Box

/-- From the centre of a rectangle, the way towards any other point leads over its border. The point
that is computed lies on the border and on the ray towards the target, and it is the only such
point. Relative to the rectangle, both its coordinates lie between zero and one, and one of them is
zero or one. -/
theorem Box.borderTowards_rectangle {b : Box Rat} {target : Point Rat}
    (hshape : b.shape = .rectangle) (hwidth : 0 < b.width) (hheight : 0 < b.height)
    (htarget : target ≠ b.center) :
    ∃ p q, b.borderTowards target = .ok p ∧ b.connection p = .ok q ∧
      b.region.Border p ∧ b.center.OnRay target p ∧
      (∀ p', b.region.Border p' → b.center.OnRay target p' → p' = p) ∧
      0 ≤ q.x ∧ q.x ≤ 1 ∧ 0 ≤ q.y ∧ q.y ≤ 1 ∧ (q.x = 0 ∨ q.x = 1 ∨ q.y = 0 ∨ q.y = 1) := by
  have hb : b.IsRectangle := ⟨hshape, hwidth, hheight⟩
  obtain ⟨p, q, hp, hq, hborder, hray, hunit⟩ := exists_border hb htarget
  exact ⟨p, q, hp, hq, hborder, hray,
    fun _ hborder' hray' => border_unique hb hborder hray hborder' hray',
    hunit.left, hunit.right, hunit.top, hunit.bottom, hunit.side⟩

/-- A rectangle that is twice as wide as high. -/
def wideRectangle : Box Rat := ⟨"node", 0, 0, 4, 2, .rectangle⟩

/-- A point to the right of a rectangle: its right side is met, below the middle. -/
theorem Box.borderTowards_rectangle_wideRectangle :
    wideRectangle.shape = .rectangle ∧ 0 < wideRectangle.width ∧ 0 < wideRectangle.height ∧
      (⟨8, 3⟩ : Point Rat) ≠ wideRectangle.center ∧
      wideRectangle.borderTowards ⟨8, 3⟩ = .ok ⟨4, 5 / 3⟩ ∧
      wideRectangle.region.Border ⟨4, 5 / 3⟩ ∧ wideRectangle.center.OnRay ⟨8, 3⟩ ⟨4, 5 / 3⟩ ∧
      wideRectangle.connection ⟨4, 5 / 3⟩ = .ok ⟨1, 5 / 6⟩ := by
  have hwidth : 0 < wideRectangle.width := by decide +kernel
  have hheight : 0 < wideRectangle.height := by decide +kernel
  have htarget : (⟨8, 3⟩ : Point Rat) ≠ wideRectangle.center := by decide +kernel
  have hcomputed : wideRectangle.borderTowards ⟨8, 3⟩ = .ok ⟨4, 5 / 3⟩ := by decide +kernel
  have hplace : wideRectangle.connection ⟨4, 5 / 3⟩ = .ok ⟨1, 5 / 6⟩ := by decide +kernel
  obtain ⟨p, q, hp, -, hborder, hray, -⟩ := borderTowards_rectangle rfl hwidth hheight htarget
  obtain rfl : p = ⟨4, 5 / 3⟩ := Except.ok.inj (hp.symm.trans hcomputed)
  exact ⟨rfl, hwidth, hheight, htarget, hp, hborder, hray, hplace⟩

end PlanDiagram.Diagram
