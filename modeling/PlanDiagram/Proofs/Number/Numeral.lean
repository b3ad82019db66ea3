import Mathlib.Data.List.TakeWhile
import PlanDiagram.Number.Numeral

/-!
# The values of numerals

A text is recognised as a numeral by one rule and read as a real number by another one, which knows
underscores between digits and other blanks. Main statement: on texts without blanks the second rule
covers the first, so a numeral always has a value.
-/

namespace PlanDiagram.Number

/-- A character that numerals are made of. -/
def IsNumeralChar (c : Char) : Prop :=
  Text.isDigit c = true ∨ c ∈ ['+', '-', '.', 'e', 'E']

/-- The underscore is none of them. -/
theorem not_isNumeralChar_underscore : ¬ IsNumeralChar '_' := by
  unfold IsNumeralChar
  decide

/-- A sign is made of such characters. -/
theorem isNumeralChar_of_splitSign {cs : List Char} {c : Char} (hc : c ∈ cs) :
    IsNumeralChar c ∨ c ∈ (splitSign cs).2 := by
  unfold splitSign
  split
  · rcases List.mem_cons.mp hc with rfl | hrest
    · exact .inl (.inr (by simp))
    · exact .inr hrest
  · rcases List.mem_cons.mp hc with rfl | hrest
    · exact .inl (.inr (by simp))
    · exact .inr hrest
  · exact .inr hc

/-- A list consists of its digits at the start and the rest. -/
theorem isNumeralChar_or_mem_dropWhile {cs : List Char} {c : Char} (hc : c ∈ cs) :
    IsNumeralChar c ∨ c ∈ cs.dropWhile Text.isDigit := by
  rw [← List.takeWhile_append_dropWhile (p := Text.isDigit) (l := cs)] at hc
  rcases List.mem_append.mp hc with hdigit | hrest
  · exact .inl (.inl (List.mem_takeWhile_imp hdigit))
  · exact .inr hrest

/-- A mantissa is made of such characters. -/
theorem isNumeralChar_of_readMantissa? {cs rest : List Char} {mantissa places : Nat} {c : Char}
    (h : readMantissa? cs = some (mantissa, places, rest)) (hc : c ∈ cs) :
    IsNumeralChar c ∨ c ∈ rest := by
  rcases isNumeralChar_or_mem_dropWhile hc with hdigit | hc
  · exact .inl hdigit
  · unfold readMantissa? at h
    simp only at h
    split at h
    · rename_i fraction hpoint
      rw [hpoint] at hc
      split at h
      · cases h
      · simp only [Option.some.injEq, Prod.mk.injEq] at h
        obtain ⟨-, -, rfl⟩ := h
        rcases List.mem_cons.mp hc with rfl | hfraction
        · exact .inl (.inr (by simp))
        · exact isNumeralChar_or_mem_dropWhile hfraction
    · split at h
      · cases h
      · simp only [Option.some.injEq, Prod.mk.injEq] at h
        obtain ⟨-, -, rfl⟩ := h
        exact .inr hc

/-- An exponent is made of such characters. -/
theorem isNumeralChar_of_readExponent? {cs : List Char} {exponent : Int} {c : Char}
    (h : readExponent? cs = some exponent) (hc : c ∈ cs) : IsNumeralChar c := by
  unfold readExponent? at h
  split at h
  · simp at hc
  · rename_i first rest
    split at h
    · rename_i hletter
      rcases List.mem_cons.mp hc with rfl | hrest
      · exact .inr (by simp_all)
      · rcases isNumeralChar_of_splitSign hrest with hsign | hdigit
        · exact hsign
        · simp only at h
          split at h
          · cases h
          · rename_i hdigits
            simp only [Bool.or_eq_true, Bool.not_eq_true', not_or, Bool.not_eq_true,
              Bool.not_eq_false, List.all_eq_true] at hdigits
            exact .inl (hdigits.2 c hdigit)
    · cases h

/-- A numeral is made of such characters. -/
theorem isNumeralChar_of_read? {cs : List Char} {numeral : Numeral} {c : Char}
    (h : Numeral.read? cs = some numeral) (hc : c ∈ cs) : IsNumeralChar c := by
  unfold Numeral.read? at h
  obtain ⟨⟨mantissa, places, rest⟩, hmantissa, h⟩ := Option.bind_eq_some_iff.mp h
  obtain ⟨exponent, hexponent, -⟩ := Option.bind_eq_some_iff.mp h
  rcases isNumeralChar_of_splitSign hc with hsign | hc
  · exact hsign
  · rcases isNumeralChar_of_readMantissa? hmantissa hc with hmantissa | hc
    · exact hmantissa
    · exact isNumeralChar_of_readExponent? hexponent hc

/-- A text without underscores has none to be removed. -/
theorem dropSeparators?_of_not_mem {cs : List Char} (h : '_' ∉ cs) :
    dropSeparators? cs = some cs := by
  induction cs with
  | nil => rfl
  | cons c rest ih =>
    simp only [List.mem_cons, not_or] at h
    cases rest with
    | nil => simp [dropSeparators?, Ne.symm h.1]
    | cons d rest =>
      simp only [List.mem_cons, not_or] at h
      simp [dropSeparators?, Ne.symm h.1, Ne.symm h.2.1, ih (by simp [h.2])]

/-- Nothing is dropped at the end of a list without elements of a kind. -/
theorem dropEndWhile_of_forall_not {p : Char → Bool} {cs : List Char} (h : ∀ c ∈ cs, p c = false) :
    Text.dropEndWhile p cs = cs := by
  induction cs with
  | nil => rfl
  | cons c rest ih =>
    obtain ⟨hc, hrest⟩ := List.forall_mem_cons.mp h
    rw [Text.dropEndWhile, ih hrest]
    cases rest <;> simp [hc]

/-- The blanks around a value are blanks. -/
theorem isBlank_of_isValueBlank {c : Char} (h : isValueBlank c = true) : Text.isBlank c = true := by
  simp only [isValueBlank, Bool.or_eq_true, Bool.and_eq_true, beq_iff_eq, decide_eq_true_eq] at h
  rcases h with (rfl | ⟨hlow, hhigh⟩) | ⟨-, h⟩
  · rfl
  · simp [Text.isBlank, hlow, hhigh]
  · exact h

/-- Nothing is dropped at the ends of a text without characters of a kind. -/
theorem dropEnds_of_forall_not {p : Char → Bool} {cs : List Char} (h : ∀ c ∈ cs, p c = false) :
    Text.dropEndWhile p (cs.dropWhile p) = cs := by
  have hstart : cs.dropWhile p = cs := by
    cases cs with
    | nil => rfl
    | cons c rest => simp [h c List.mem_cons_self]
  rw [hstart, dropEndWhile_of_forall_not h]

/-- A numeral without blanks has a value. -/
theorem exists_readReal?_of_isNumeral {s : String} (hblank : ∀ c ∈ s.toList, Text.isBlank c = false)
    (h : isNumeral s = true) : ∃ x, readReal? s = some x := by
  rw [isNumeral, Text.trimChars, dropEnds_of_forall_not hblank] at h
  obtain ⟨numeral, hnumeral⟩ := Option.isSome_iff_exists.mp h
  have hvalue (c : Char) (hc : c ∈ s.toList) : isValueBlank c = false := by
    cases hcase : isValueBlank c with
    | false => rfl
    | true => exact absurd (isBlank_of_isValueBlank hcase) (by simp [hblank c hc])
  have hseparators : '_' ∉ s.toList := fun hc =>
    not_isNumeralChar_underscore (isNumeralChar_of_read? hnumeral hc)
  have hchars : valueChars? s = some s.toList := by
    rw [valueChars?, dropEnds_of_forall_not hvalue, dropSeparators?_of_not_mem hseparators]
  refine ⟨numeral.toFloat, ?_⟩
  simp [readReal?, hchars, hnumeral]

end PlanDiagram.Number
