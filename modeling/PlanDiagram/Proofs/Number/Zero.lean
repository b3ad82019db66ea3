import PlanDiagram.Proofs.Number.Magnitude

/-!
# Zero among the doubles

A double is compared with zero before it is divided by. Main statement: if it is not zero, its
absolute value is not zero either. Doubles that differ by their signs only are packed into bits that
differ by the sign only, and packing gives back the bits that were unpacked.
-/

namespace PlanDiagram.Number

open Float.Model Float.Model.UnpackedFloat

/-- A double equals zero if it stands for a zero of either sign. -/
theorem beq_zero_iff (x : Float) : (x == 0.0) = true ↔ ∃ s, x.toModel.unpack = .zero s := by
  change (x.toModel.unpack.compare (.zero .positive) == some .eq) = true ↔ _
  rw [beq_iff_eq]
  cases x.toModel.unpack with
  | zero s => exact iff_of_true rfl ⟨s, rfl⟩
  | notANumber => exact iff_of_false nofun nofun
  | infinity s => cases s <;> exact iff_of_false nofun nofun
  | finite s m e hm => cases s <;> exact iff_of_false nofun nofun

/-- Bits without exponent and significand are those of a zero, whatever their sign. -/
theorem packComponents_eq_zero {s t : Sign} {exponent : BitVec 11} {mantissa : BitVec 52}
    (h : packComponents Format.binary64 s exponent mantissa = packedZero Format.binary64 t)
    (s' : Sign) :
    packComponents Format.binary64 s' exponent mantissa = packedZero Format.binary64 s' := by
  have hexponent := congrArg unpackExponent h
  have hmantissa := congrArg unpackMantissa h
  rw [packedZero, unpackExponent_packComponents, unpackExponent_packComponents] at hexponent
  rw [packedZero, unpackMantissa_packComponents, unpackMantissa_packComponents] at hmantissa
  rw [hexponent, hmantissa]
  rfl

/-- A finite double that is packed into the bits of a zero is so with either sign. -/
theorem pack_finite_eq_zero {s t : Sign} {m : Nat} {e : Int} {hm : 0 < m}
    (h : UnpackedFloat.pack Format.binary64 (.finite s m e hm) = packedZero Format.binary64 t)
    (s' : Sign) :
    UnpackedFloat.pack Format.binary64 (.finite s' m e hm) = packedZero Format.binary64 s' := by
  rw [pack_finite] at h ⊢
  split at h
  · have hexponent := congrArg unpackExponent h
    rw [packedInfinity, packedZero, unpackExponent_packComponents,
      unpackExponent_packComponents] at hexponent
    exact absurd hexponent (by decide)
  · rename_i hfits
    rw [if_neg hfits]
    split at h
    · rename_i hnormal
      rw [if_pos hnormal]
      exact packComponents_eq_zero h s'
    · rename_i hsubnormal
      rw [if_neg hsubnormal]
      exact packComponents_eq_zero h s'

/-- The absolute value of what is not zero is not zero. -/
theorem abs_ne_zero {x : Float} (h : (x == 0.0) = false) : (x.abs == 0.0) = false := by
  refine Bool.eq_false_iff.mpr fun habs => Bool.eq_false_iff.mp h ((beq_zero_iff x).mpr ?_)
  obtain ⟨s, hs⟩ := (beq_zero_iff _).mp habs
  have hbits : UnpackedFloat.pack Format.binary64 x.toModel.unpack.abs = packedZero _ s :=
    (unpack_eq_zero_iff_of_valid valid_pack).mp hs
  cases hx : x.toModel.unpack with
  | zero t => exact ⟨t, rfl⟩
  | finite t m e hm =>
    rw [hx] at hbits
    have hpacked : UnpackedFloat.pack Format.binary64 x.toModel.unpack = packedZero _ t :=
      hx ▸ pack_finite_eq_zero hbits t
    have hzero : x.toModel.unpack = .zero t :=
      (unpack_eq_zero_iff_of_valid x.toModel.valid).mpr
        ((pack_unpack_of_valid x.toModel.valid).symm.trans hpacked)
    exact ⟨t, hx.symm.trans hzero⟩
  | infinity t =>
    rw [hx] at hbits
    change packedInfinity Format.binary64 .positive = packedZero Format.binary64 s at hbits
    exact absurd hbits (by cases s <;> decide)
  | notANumber =>
    rw [hx] at hbits
    exact absurd hbits (by cases s <;> decide)

end PlanDiagram.Number
