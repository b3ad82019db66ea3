/-!
# The order of doubles

All doubles that are numbers are ordered, with the infinities at the ends and the two zeros side by
side. Main statement: of two doubles that are numbers, one is less than the other exactly if the
other is not at most the first. What is no number is neither less than anything nor at most
anything.
-/

namespace PlanDiagram.Number

open Float.Model

/-- Comparing in the other direction turns the result. -/
theorem compare_swap (u v : UnpackedFloat) : v.compare u = (u.compare v).map Ordering.swap := by
  have hfinite (m n : Nat) (e f : Int) :
      (compare f e).then (compare n m) = ((compare e f).then (compare m n)).swap := by
    rw [Ordering.swap_then, ← Std.OrientedOrd.eq_swap, ← Std.OrientedOrd.eq_swap]
  cases u with
  | notANumber => cases v <;> rfl
  | infinity s => cases v with
    | infinity t => cases s <;> cases t <;> rfl
    | _ => cases s <;> rfl
  | zero s => cases v with
    | infinity t => cases t <;> rfl
    | finite t n f hn => cases t <;> rfl
    | _ => rfl
  | finite s m e hm => cases v with
    | infinity t => cases s <;> cases t <;> rfl
    | finite t n f hn => cases s with
      | positive => cases t with
        | positive => exact congrArg some (hfinite m n e f)
        | negative => rfl
      | negative => cases t with
        | positive => rfl
        | negative => exact congrArg (fun o => some o.swap) (hfinite m n e f)
    | _ => cases s <;> rfl

/-- Only what is no number cannot be compared. -/
theorem compare_isSome (u v : UnpackedFloat) :
    (u.compare v).isSome = (!u.isNaN && !v.isNaN) := by
  cases u with
  | notANumber => rfl
  | infinity s => cases v with
    | infinity t => rfl
    | _ => cases s <;> rfl
  | zero s => cases v with
    | infinity t => cases t <;> rfl
    | finite t n f hn => cases t <;> rfl
    | _ => rfl
  | finite s m e hm => cases v with
    | infinity t => cases s <;> cases t <;> rfl
    | finite t n f hn => cases s <;> cases t <;> rfl
    | _ => cases s <;> rfl

/-- One double is less than another if the numbers they stand for compare so. -/
theorem lt_iff_compare (x y : Float) :
    x < y ↔ x.toModel.unpack.compare y.toModel.unpack = some .lt :=
  decide_eq_true_iff.trans beq_iff_eq

/-- One double is at most another if the numbers they stand for compare so. -/
theorem le_iff_compare (x y : Float) :
    x ≤ y ↔ (x.toModel.unpack.compare y.toModel.unpack).any (·.isLE) = true :=
  decide_eq_true_iff

/-- Of two numbers one is less than the other if the other is not at most the first. -/
theorem lt_iff_not_le {x y : Float} (hx : x.isNaN = false) (hy : y.isNaN = false) :
    x < y ↔ ¬ y ≤ x := by
  have hsome : (y.toModel.unpack.compare x.toModel.unpack).isSome = true := by
    rw [compare_isSome]
    change (!y.isNaN && !x.isNaN) = true
    rw [hx, hy]
    rfl
  obtain ⟨o, ho⟩ := Option.isSome_iff_exists.mp hsome
  rw [lt_iff_compare, le_iff_compare, compare_swap y.toModel.unpack, ho]
  cases o <;> decide

/-- Of two numbers one is at most the other if the other is not less than the first. -/
theorem le_iff_not_lt {x y : Float} (hx : x.isNaN = false) (hy : y.isNaN = false) :
    x ≤ y ↔ ¬ y < x := by
  rw [lt_iff_not_le hy hx, Decidable.not_not]

/-- What is equal to a double is at most that double. -/
theorem le_of_beq {x y : Float} (h : (x == y) = true) : x ≤ y := by
  have hcompare : x.toModel.unpack.compare y.toModel.unpack = some .eq := eq_of_beq h
  rw [le_iff_compare, hcompare]
  rfl

end PlanDiagram.Number
