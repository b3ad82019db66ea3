import Mathlib
import PlanDiagram.Proofs.Number.Order
import PlanDiagram.Diagram.Scalar

/-!
# The magnitude of doubles

A finite double has a significand below `2 ^ 53` and an exponent. As long as exponents stay small,
results of the operations on doubles are finite: a product adds exponents, a quotient subtracts
them, a sum keeps to the greater one, each up to the length of a significand. Main statement: a
double with a bounded exponent has a ceiling.
-/

namespace PlanDiagram.Number

open Float.Model Float.Model.UnpackedFloat

/-- What a double stands for is zero, or finite with an exponent of at most `k`. -/
inductive UnpackedBounded (k : Int) : UnpackedFloat → Prop
  | zero (s : Sign) : UnpackedBounded k (.zero s)
  | finite {s : Sign} {m : Nat} {e : Int} {hm : 0 < m} (hlt : m < 2 ^ 53) (hle : e ≤ k) :
    UnpackedBounded k (.finite s m e hm)

/-- A double is zero, or finite with an exponent of at most `k`. -/
def Bounded (k : Int) (x : Float) : Prop :=
  UnpackedBounded k x.toModel.unpack

/-- A double is positive, and finite with an exponent between `i` and `k`. -/
def Ranges (i k : Int) (x : Float) : Prop :=
  ∃ m e h, x.toModel.unpack = .finite .positive m e h ∧ m < 2 ^ 53 ∧ i ≤ e ∧ e ≤ k

/-- The exponent of a positive finite double. -/
def exponent? (x : Float) : Option Int :=
  match x.toModel.unpack with
  | .finite .positive _ e _ => some e
  | _ => none

/-- A greater bound is a bound. -/
theorem UnpackedBounded.mono {j k : Int} {u : UnpackedFloat} (h : UnpackedBounded j u)
    (hjk : j ≤ k) : UnpackedBounded k u := by
  cases h with
  | zero s => exact .zero s
  | finite hlt hle => exact .finite hlt (hle.trans hjk)

/-- A greater bound is a bound. -/
theorem Bounded.mono {j k : Int} {x : Float} (h : Bounded j x) (hjk : j ≤ k) : Bounded k x :=
  UnpackedBounded.mono h hjk

theorem Ranges.bounded {i k : Int} {x : Float} (h : Ranges i k x) : Bounded k x := by
  obtain ⟨m, e, hm, hx, hlt, -, hle⟩ := h
  rw [Bounded, hx]
  exact .finite hlt hle

/-! ### Rounding -/

theorem targetExponent_binary64 (t : Int) :
    Format.binary64.targetExponent t = max (t - 53) (-1074) := by
  simp only [Format.targetExponent]
  rfl

/-- Shifting to the right halves the significand again and again. -/
theorem mantissa_shiftRight (em : ExtendedMantissa) (n : Nat) :
    (em >>> n).mantissa = em.mantissa / 2 ^ n := by
  induction n with
  | zero => simp [HShiftRight.hShiftRight, Nat.repeat]
  | succ n ih =>
    change (em >>> n).mantissa / 2 = _
    rw [ih, Nat.div_div_eq_div_mul, Nat.pow_succ]

theorem mantissa_ofMantissaAndAccuracy (m : Nat) (a : Accuracy) :
    (ExtendedMantissa.ofMantissaAndAccuracy m a).mantissa = m := by
  cases a with
  | exact => rfl
  | inexact o => cases o <;> rfl

/-- Rounding adds at most one. -/
theorem roundedMantissa_le (em : ExtendedMantissa) : em.roundedMantissa ≤ em.mantissa + 1 := by
  obtain ⟨m, r, s⟩ := em
  cases r <;> cases s <;>
    simp only [ExtendedMantissa.roundedMantissa, ExtendedMantissa.accuracy,
      Accuracy.roundToNearestEven] <;> omega

/-- The shift to the exponent of the format leaves a significand below `2 ^ 53`. -/
theorem div_lt_of_targetExponent (m : Nat) (e : Int) :
    m / 2 ^ (Format.binary64.targetExponent (totalExponent m e) - e).toNat < 2 ^ 53 := by
  rw [targetExponent_binary64, totalExponent]
  have hlt : m < 2 ^ (m.log2 + 1) := Nat.lt_log2_self
  generalize hk : (max ((m.log2 : Int) + 1 + e - 53) (-1074) - e).toNat = k
  have hlog : m.log2 + 1 ≤ 53 + k := by omega
  rw [Nat.div_lt_iff_lt_mul (Nat.two_pow_pos k), ← Nat.pow_add]
  exact hlt.trans_le (Nat.pow_le_pow_right (by decide) hlog)

/-- Rounding raises an exponent by at most one. -/
theorem unpackedBounded_roundWithAccuracy {k : Int} {s : Sign} {m : Nat} {e : Int} {a : Accuracy}
    (htotal : (m.log2 : Int) + 1 + e ≤ k + 53) (he : e ≤ k) (hk : -1074 ≤ k) :
    UnpackedBounded (k + 1) (roundWithAccuracy Format.binary64 s m e a) := by
  unfold roundWithAccuracy shiftToTargetExponent shiftToExponent
  simp only [mantissa_shiftRight, mantissa_ofMantissaAndAccuracy]
  have hfirst := div_lt_of_targetExponent m e
  generalize hn : (Format.binary64.targetExponent (totalExponent m e) - e).toNat = n at *
  have hn' : e + n ≤ k := by
    rw [targetExponent_binary64, totalExponent] at hn
    omega
  generalize hr : ExtendedMantissa.roundedMantissa _ = r
  have hrounded : r ≤ 2 ^ 53 := by
    rw [← hr]
    refine (roundedMantissa_le _).trans ?_
    rw [mantissa_shiftRight, mantissa_ofMantissaAndAccuracy]
    exact hfirst
  have hsecond := div_lt_of_targetExponent r (e + n)
  have hlog : r.log2 ≤ 53 := by
    rcases Nat.eq_zero_or_pos r with rfl | hpos
    · decide
    · exact Nat.lt_succ_iff.mp ((Nat.log2_lt hpos.ne').mpr (hrounded.trans_lt (by decide)))
  split
  · exact .zero s
  · refine .finite hsecond ?_
    rw [targetExponent_binary64, totalExponent]
    omega

/-- Shifting to the left adds to the length of a significand. -/
theorem log2_shiftLeft_le (m n : Nat) : (m <<< n).log2 ≤ m.log2 + n := by
  rcases Nat.eq_zero_or_pos m with rfl | hpos
  · simp
  · refine Nat.lt_succ_iff.mp ((Nat.log2_lt ?_).mpr ?_)
    · rw [Nat.shiftLeft_eq]
      exact (Nat.mul_pos hpos (Nat.two_pow_pos n)).ne'
    · rw [Nat.shiftLeft_eq, Nat.succ_eq_add_one, Nat.add_right_comm, Nat.pow_add]
      exact Nat.mul_lt_mul_of_pos_right Nat.lt_log2_self (Nat.two_pow_pos n)

/-- Rounding that may lower the exponent first raises it by at most one. -/
theorem unpackedBounded_round {k : Int} {s : Sign} {m : Nat} {e : Int}
    (htotal : (m.log2 : Int) + 1 + e ≤ k + 53) (he : e ≤ k) (hk : -1074 ≤ k) :
    UnpackedBounded (k + 1) (UnpackedFloat.round Format.binary64 s m e) := by
  unfold UnpackedFloat.round decreaseExponent
  have hlog := log2_shiftLeft_le m
    (e - Format.binary64.targetExponent (totalExponent m e)).toNat
  refine unpackedBounded_roundWithAccuracy ?_ ?_ hk <;> omega

/-- Giving an integer a sign and rounding it raises the exponent by at most one. -/
theorem unpackedBounded_normalize {k m e : Int} {s : Sign}
    (htotal : (m.natAbs.log2 : Int) + 1 + e ≤ k + 53) (he : e ≤ k) (hk : -1074 ≤ k) :
    UnpackedBounded (k + 1) (UnpackedFloat.normalize Format.binary64 m e s) := by
  unfold UnpackedFloat.normalize
  cases hm : compare m 0 with
  | lt =>
    have hneg : (-m).toNat = m.natAbs := by
      have := Int.compare_eq_lt.mp hm
      omega
    exact unpackedBounded_round (by rw [hneg]; exact htotal) he hk
  | eq => exact .zero s
  | gt =>
    have hpos : m.toNat = m.natAbs := by
      have := Int.compare_eq_gt.mp hm
      omega
    exact unpackedBounded_round (by rw [hpos]; exact htotal) he hk

/-! ### Packing -/

/-- What is unpacked has a significand below `2 ^ 53`, and its exponent is told by the bits. -/
theorem unpackedBounded_unpack {k : Int} {b : BitVec Format.binary64.numBits}
    (hfinite : unpackExponent b ≠ -1#_) (hk : -1074 ≤ k)
    (hexponent : ((unpackExponent b).toNat : Int) - 1075 ≤ k) :
    UnpackedBounded k (UnpackedFloat.unpack Format.binary64 b) := by
  unfold UnpackedFloat.unpack
  simp only [hfinite, if_false]
  have hmantissa : (unpackMantissa b).toNat < 2 ^ 52 := (unpackMantissa b).isLt
  split
  · rename_i hzero
    split
    · exact .zero _
    · refine .finite (hmantissa.trans (by decide)) ?_
      rw [hzero]
      exact hk
  · exact .finite (1#1 ++ unpackMantissa b).isLt hexponent

/-- The bits into which a finite double is packed. -/
theorem pack_finite (s : Sign) (m : Nat) (e : Int) (hm : 0 < m) :
    UnpackedFloat.pack Format.binary64 (.finite s m e hm) =
      if 2 ^ 11 ≤ (e + 1023 + 52).toNat + 1 then packedInfinity Format.binary64 s
      else if m.log2 + 1 = 53 then
        packComponents Format.binary64 s (BitVec.ofNat 11 (e + 1023 + 52).toNat) (BitVec.ofNat 52 m)
      else packComponents Format.binary64 s 0#11 (BitVec.ofNat 52 m) := rfl

/-- Packing keeps the bound of an exponent that fits. -/
theorem unpackedBounded_pack {k : Int} {u : UnpackedFloat} (h : UnpackedBounded k u)
    (hlow : -1074 ≤ k) (hhigh : k ≤ 971) :
    UnpackedBounded k (Float.Model.pack u).unpack := by
  change UnpackedBounded k (UnpackedFloat.unpack _ (UnpackedFloat.pack Format.binary64 u))
  cases u with
  | infinity s => cases h
  | notANumber => cases h
  | zero s =>
    have hzero : unpackExponent (UnpackedFloat.pack Format.binary64 (.zero s)) = 0#11 :=
      unpackExponent_packComponents
    refine unpackedBounded_unpack ?_ hlow ?_
    · rw [hzero]
      decide
    · rw [hzero]
      change (0 : Int) - 1075 ≤ k
      omega
  | finite s m e hm =>
    obtain ⟨⟩ | ⟨-, he⟩ := h
    rw [pack_finite]
    generalize hb : (e + 1023 + 52 : Int).toNat = b
    have hfits : ¬ 2 ^ 11 ≤ b + 1 := by omega
    rw [if_neg hfits]
    split
    · have hexponent : unpackExponent (packComponents Format.binary64 s (BitVec.ofNat 11 b)
          (BitVec.ofNat 52 m)) = BitVec.ofNat 11 b := unpackExponent_packComponents
      have htoNat : (BitVec.ofNat 11 b).toNat = b := Nat.mod_eq_of_lt (by omega)
      refine unpackedBounded_unpack ?_ hlow ?_
      · rw [hexponent]
        intro hnot
        have := congrArg BitVec.toNat hnot
        rw [htoNat] at this
        change b = 2047 at this
        omega
      · rw [hexponent]
        change ((BitVec.ofNat 11 b).toNat : Int) - 1075 ≤ k
        rw [htoNat]
        omega
    · have hexponent : unpackExponent (packComponents Format.binary64 s 0#11
          (BitVec.ofNat 52 m)) = 0#11 := unpackExponent_packComponents
      refine unpackedBounded_unpack ?_ hlow ?_
      · rw [hexponent]
        decide
      · rw [hexponent]
        change (0 : Int) - 1075 ≤ k
        omega

/-! ### Operations -/

variable {i j k l : Int} {x y : Float}

/-- The length of a significand below `2 ^ n`. -/
theorem log2_succ_le {m n : Nat} (h : m < 2 ^ n) (hn : 0 < n) : m.log2 + 1 ≤ n := by
  rcases Nat.eq_zero_or_pos m with rfl | hpos
  · rw [Nat.log2_zero]
    exact hn
  · exact (Nat.log2_lt hpos.ne').mpr h

/-- The exponent of a product of finite numbers is bounded by the length of the product. -/
theorem unpackedBounded_mul {k : Int} {s t : Sign} {m n : Nat} {e f : Int} {hm : 0 < m}
    {hn : 0 < n} (htotal : ((m * n).log2 : Int) + 1 + (e + f) ≤ k + 53) (he : e + f ≤ k)
    (hk : -1074 ≤ k) :
    UnpackedBounded (k + 1)
      (UnpackedFloat.mul Format.binary64 (.finite s m e hm) (.finite t n f hn)) :=
  unpackedBounded_roundWithAccuracy htotal he hk

/-- A significand that is moved over a gap keeps to the length of a significand and the gap. -/
theorem shiftLeft_lt {m n gap : Nat} (h : m < 2 ^ 53) (hn : n ≤ gap) :
    m <<< n < 2 ^ (53 + gap) := by
  rw [Nat.shiftLeft_eq, Nat.pow_add]
  exact Nat.mul_lt_mul_of_lt_of_le h (Nat.pow_le_pow_right (by decide) hn)
    (Nat.two_pow_pos gap)

theorem natAbs_apply (s : Sign) (n : Int) : (s.apply n).natAbs = n.natAbs := by
  cases s
  · exact Int.natAbs_neg n
  · rfl

/-- The exponent of a product is the sum of the exponents, up to the length of a significand. -/
theorem Bounded.mul (hx : Bounded j x) (hy : Bounded k y) (hsum : j + k + 53 ≤ l)
    (hlow : -1074 ≤ l) (hhigh : l ≤ 970) : Bounded (l + 1) (x * y) := by
  refine unpackedBounded_pack ?_ (by omega) (by omega)
  rw [Bounded] at hx hy
  generalize x.toModel.unpack = u at *
  generalize y.toModel.unpack = v at *
  cases hx with
  | zero s => cases hy <;> exact .zero _
  | @finite s m e hm hm53 he =>
    cases hy with
    | zero t => exact .zero _
    | @finite t n f hn hn53 hf =>
      have hproduct : m * n < 2 ^ (53 + 53) := by
        rw [Nat.pow_add]
        exact Nat.mul_lt_mul'' hm53 hn53
      have hlog := log2_succ_le hproduct (by decide)
      exact unpackedBounded_mul (by omega) (by omega) hlow

/-- The exponent of a quotient is the difference of the exponents. -/
theorem Bounded.div (hx : Bounded j x) (hy : Ranges i k y) (hdifference : j - i ≤ l)
    (hlow : -1074 ≤ l) (hhigh : l ≤ 970) : Bounded (l + 1) (x / y) := by
  refine unpackedBounded_pack ?_ (by omega) (by omega)
  obtain ⟨n, f, hn, hv, hn53, hf, -⟩ := hy
  rw [Bounded] at hx
  rw [hv]
  generalize x.toModel.unpack = u at *
  cases hx with
  | zero s => exact .zero _
  | @finite s m e hm hm53 he =>
    simp only [UnpackedFloat.div, divCore]
    generalize ht : min (e - f) _ = t
    have htle : t ≤ e - f := ht ▸ min_le_left _ _
    generalize hshift : (e - f - t).toNat = shift
    have hquotient : m <<< shift / n < 2 ^ (53 + shift) :=
      (Nat.div_le_self _ _).trans_lt (shiftLeft_lt hm53 (Nat.le_refl shift))
    have hlog := log2_succ_le hquotient (by omega)
    exact unpackedBounded_roundWithAccuracy (by omega) (by omega) hlow

/-- The exponent of a sum is at most two more than the greater exponent. -/
theorem Bounded.add (hx : Bounded k x) (hy : Bounded k y) (hlow : -1074 ≤ k) (hhigh : k ≤ 969) :
    Bounded (k + 2) (x + y) := by
  refine unpackedBounded_pack ?_ (by omega) (by omega)
  rw [Bounded] at hx hy
  generalize x.toModel.unpack = u at *
  generalize y.toModel.unpack = v at *
  cases hx with
  | zero s =>
    cases hy with
    | zero t =>
      rw [UnpackedFloat.add]
      split <;> exact .zero _
    | finite hn53 hf => exact .finite hn53 (by omega)
  | @finite s m e hm hm53 he =>
    cases hy with
    | zero t => exact .finite hm53 (by omega)
    | @finite t n f hn hn53 hf =>
      simp only [UnpackedFloat.add, decreaseExponent]
      have hgap : min e f ≤ k := (min_le_left e f).trans he
      generalize min e f = g at *
      -- both significands at the exponent `g`, which is the smaller one
      have hfirst := shiftLeft_lt hm53 (by omega : (e - g).toNat ≤ (k - g).toNat)
      have hsecond := shiftLeft_lt hn53 (by omega : (f - g).toNat ≤ (k - g).toNat)
      have hsum : (s.apply (m <<< (e - g).toNat : Nat) +
          t.apply (n <<< (f - g).toNat : Nat)).natAbs < 2 ^ (54 + (k - g).toNat) := by
        refine (Int.natAbs_add_le _ _).trans_lt ?_
        rw [natAbs_apply, natAbs_apply, Int.natAbs_natCast, Int.natAbs_natCast]
        have hdouble : 2 ^ (54 + (k - g).toNat) = 2 * 2 ^ (53 + (k - g).toNat) := by
          rw [← Nat.pow_succ']
          congr 1
          omega
        omega
      have hlog := log2_succ_le hsum (by omega)
      exact (unpackedBounded_normalize (k := k + 1) (by omega) (by omega) (by omega)).mono
        (by omega)

/-- The bits of what is not finite have the greatest exponent. -/
theorem isFinite_unpack_eq_false {b : BitVec Format.binary64.numBits}
    (h : unpackExponent b = -1#_) : (UnpackedFloat.unpack Format.binary64 b).isFinite = false := by
  unfold UnpackedFloat.unpack
  simp only [h, if_true]
  split <;> rfl

/-- What is unpacked has a significand below `2 ^ 53`. -/
theorem mantissa_lt {b : BitVec Format.binary64.numBits} {s : Sign} {m : Nat} {e : Int}
    {hm : 0 < m} (h : UnpackedFloat.unpack Format.binary64 b = .finite s m e hm) :
    m < 2 ^ 53 := by
  have hfinite : unpackExponent b ≠ -1#_ := by
    intro hmax
    have := isFinite_unpack_eq_false hmax
    rw [h] at this
    cases this
  have hexponent : (unpackExponent b).toNat < 2 ^ 11 := (unpackExponent b).isLt
  have hbounded := unpackedBounded_unpack (k := 973) hfinite (by decide) (by omega)
  rw [h] at hbounded
  obtain ⟨⟩ | ⟨hlt, -⟩ := hbounded
  exact hlt

/-- A double with an exponent is positive and finite. -/
theorem exists_of_exponent? (h : exponent? x = some i) :
    ∃ m hm, x.toModel.unpack = .finite .positive m i hm := by
  unfold exponent? at h
  split at h
  · rename_i m e hm hx
    obtain rfl := Option.some.inj h
    exact ⟨m, hm, hx⟩
  · cases h

/-- A double with an exponent has just that exponent. -/
theorem ranges_of_exponent? (h : exponent? x = some i) : Ranges i i x := by
  obtain ⟨m, hm, hx⟩ := exists_of_exponent? h
  exact ⟨m, i, hm, hx, mantissa_lt hx, le_refl i, le_refl i⟩

/-- A double between two positive ones has an exponent between theirs. -/
theorem ranges_of_le {lower upper : Float} (hlower : exponent? lower = some i)
    (hupper : exponent? upper = some k) (hlow : lower ≤ x) (hhigh : x ≤ upper) : Ranges i k x := by
  obtain ⟨m, hm, hlower⟩ := exists_of_exponent? hlower
  obtain ⟨n, hn, hupper⟩ := exists_of_exponent? hupper
  rw [le_iff_compare, hlower] at hlow
  rw [le_iff_compare, hupper] at hhigh
  have hexponent {e f : Int} {m n : Nat}
      (h : ((compare e f).then (compare m n)).isLE = true) : e ≤ f := by
    rw [Ordering.isLE_then_iff_and] at h
    exact Int.isLE_compare.mp h.1
  cases hu : x.toModel.unpack with
  | notANumber => rw [hu] at hlow; cases hlow
  | infinity s =>
    rw [hu] at hlow hhigh
    cases s
    · cases hlow
    · cases hhigh
  | zero s => rw [hu] at hlow; cases hlow
  | finite s p e hp =>
    rw [hu] at hlow hhigh
    cases s with
    | negative => cases hlow
    | positive => exact ⟨p, e, hp, hu, mantissa_lt hu, hexponent hlow, hexponent hhigh⟩

/-- A count is bounded by its length. -/
theorem bounded_ofNat {n r : Nat} (h : n < 2 ^ r) (hr : r ≤ 900) :
    Bounded (r + 3) (Float.ofNat n) := by
  change Bounded (r + 3) (Float.ofScientific n false 0)
  unfold Float.ofScientific
  split
  · rename_i hsmall
    have hconverted : Bounded 1 n.toUInt64.toFloat := by
      refine unpackedBounded_pack ?_ (by decide) (by decide)
      refine unpackedBounded_normalize (k := 0) ?_ (by decide) (by decide)
      have hlt : n.toUInt64.toNat < 2 ^ 53 := (Nat.mod_le n _).trans_lt hsmall.1
      rw [Int.natAbs_natCast]
      have := log2_succ_le hlt (by decide)
      omega
    have hone : Bounded (-52) Float.exactlyRepresentablePowersOfTen[0] := by
      have hunpack : Float.exactlyRepresentablePowersOfTen[0].toModel.unpack =
          .finite .positive (2 ^ 52) (-52) (by decide) := rfl
      rw [Bounded, hunpack]
      exact .finite (by decide) (by decide)
    exact (hconverted.mul hone (l := 2) (by decide) (by decide) (by decide)).mono (by omega)
  · rename_i hbig
    have hpos : n ≠ 0 := by
      rintro rfl
      exact hbig (by decide)
    refine unpackedBounded_pack ?_ (by omega) (by omega)
    change UnpackedBounded _ (UnpackedFloat.ofScientific Format.binary64 n 0)
    have hrange : ¬ (0 : Int) < -((2 ^ Format.binary64.exponentBits : Int) + n.log2) := by
      have : (0 : Int) < 2 ^ Format.binary64.exponentBits := by decide
      omega
    rw [UnpackedFloat.ofScientific, dif_neg hpos, if_neg (by decide), if_neg hrange,
      if_pos (by decide)]
    have hlog : n.log2 + 1 ≤ r + 1 :=
      log2_succ_le (h.trans (Nat.pow_lt_pow_right (by decide) (by omega))) (by omega)
    have hbits : Format.binary64.mantissaBits = 53 := rfl
    have hshift := log2_shiftLeft_le n Format.binary64.mantissaBits
    have hone (m : Nat) : m * 10 ^ (0 : Int).toNat = m := Nat.mul_one m
    refine UnpackedBounded.mono (unpackedBounded_mul (k := r) ?_ ?_ ?_) (by omega)
    · rw [hone]
      omega
    · omega
    · omega

/-- A positive double is not zero. -/
theorem Ranges.ne_zero (h : Ranges i k x) : (x == 0.0) = false := by
  obtain ⟨m, e, hm, hx, -⟩ := h
  change (x.toModel.unpack.compare (.zero .positive) == some .eq) = false
  rw [hx]
  rfl

/-- A bounded double is not infinite. -/
theorem Bounded.isInf_eq_false (h : Bounded k x) : x.isInf = false := by
  change x.toModel.unpack.isInf = false
  rw [Bounded] at h
  generalize x.toModel.unpack = u at *
  cases h <;> rfl

/-- A bounded double is finite when its bits are decoded. -/
theorem Bounded.ofFloat (h : Bounded k x) :
    ∃ negative m e, Binary.ofFloat x = .finite negative m e := by
  have hexponent : x.toBits.toNat / Nat.pow 2 52 % Nat.pow 2 11 ≠ 2047 := by
    intro hmax
    have hexponent : @unpackExponent Format.binary64 x.toBits.toBitVec = -1#11 := by
      refine BitVec.eq_of_toNat_eq ?_
      have hbits : (@unpackExponent Format.binary64 x.toBits.toBitVec).toNat =
          x.toBits.toNat / 2 ^ 52 % 2 ^ 11 := by
        simp [unpackExponent, Nat.shiftRight_eq_div_pow]
      rw [hbits]
      exact hmax
    have hfinite := isFinite_unpack_eq_false hexponent
    change x.toModel.unpack.isFinite = false at hfinite
    rw [Bounded] at h
    generalize x.toModel.unpack = u at *
    cases h <;> cases hfinite
  unfold Binary.ofFloat
  simp only [beq_iff_eq, hexponent, if_false]
  split <;> exact ⟨_, _, _, rfl⟩

/-- A bounded double has a ceiling. -/
theorem Bounded.ceiling (h : Bounded k x) : ∃ n, ceiling x = .ok n := by
  obtain ⟨negative, m, e, hx⟩ := h.ofFloat
  unfold Number.ceiling
  rw [hx]
  simp only
  split <;> exact ⟨_, rfl⟩

end PlanDiagram.Number
