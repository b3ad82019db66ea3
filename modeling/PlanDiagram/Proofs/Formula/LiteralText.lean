import PlanDiagram.Formula.Label
import PlanDiagram.Proofs.Number.Written

/-!
# Texts of literals

A literal among operands is shown by its text, which is a numeral or the name of infinity or of no
number. Main statement: such a text is a word without blanks and without bars, so it can stand
between bars and is not changed when blanks are squeezed.
-/

namespace PlanDiagram

namespace Text

/-- Digits are no blanks and no bars. -/
theorem isBlank_of_isDigit {c : Char} (h : isDigit c = true) : isBlank c = false ∧ c ≠ '|' := by
  obtain ⟨value, hvalue⟩ := Option.isSome_iff_exists.mp h
  obtain ⟨first, hfirst, -⟩ := Option.map_eq_some_iff.mp hvalue
  have hrange := List.find?_some hfirst
  simp only [Bool.and_eq_true, decide_eq_true_eq] at hrange
  have hall : ∀ first ∈ digitZeros, ∀ k < 10,
      isBlank (Char.ofNat (first + k)) = false ∧ Char.ofNat (first + k) ≠ '|' := by
    decide +kernel
  have hc := hall first (List.mem_of_find?_eq_some hfirst) (c.toNat - first) (by omega)
  rwa [Nat.add_sub_cancel' hrange.1, Char.ofNat_toNat] at hc

/-- A word that can stand between bars. -/
structure IsField (s : String) : Prop where
  nonempty : s ≠ ""
  blank : ∀ c ∈ s.toList, isBlank c = false
  bar : '|' ∉ s.toList

instance (s : String) : Decidable (IsField s) :=
  have h : (s ≠ "" ∧ s.toList.all (fun c => !isBlank c && c != '|') = true) ↔ IsField s := by
    simp only [List.all_eq_true, Bool.and_eq_true, Bool.not_eq_true', bne_iff_ne]
    exact ⟨fun h => ⟨h.1, fun c hc => (h.2 c hc).1, fun hbar => (h.2 _ hbar).2 rfl⟩,
      fun h => ⟨h.nonempty, fun c hc => ⟨h.blank c hc, fun hbar => h.bar (hbar ▸ hc)⟩⟩⟩
  decidable_of_iff _ h

/-- Nothing is trimmed from a text without blanks. -/
theorem trimChars_of_forall_not {cs : List Char} (h : ∀ c ∈ cs, isBlank c = false) :
    trimChars cs = cs :=
  Number.dropEnds_of_forall_not h

/-- Nothing is squeezed in a text without blanks. -/
theorem squeezeChars_of_forall_not {cs : List Char} (h : ∀ c ∈ cs, isBlank c = false)
    (afterBlank : Bool) : squeezeChars afterBlank cs = cs := by
  induction cs generalizing afterBlank with
  | nil => rfl
  | cons c rest ih =>
    obtain ⟨hc, hrest⟩ := List.forall_mem_cons.mp h
    rw [squeezeChars, hc, if_neg (by simp), ih hrest]

/-- Trimming leaves a word as it is. -/
theorem IsField.trim_eq {s : String} (h : IsField s) : trim s = s := by
  rw [trim, trimChars_of_forall_not h.blank, String.ofList_toList]

/-- Squeezing leaves a word as it is. -/
theorem IsField.squeeze_eq {s : String} (h : IsField s) : squeeze s = s := by
  rw [squeeze, squeezeChars_of_forall_not h.blank, trimChars_of_forall_not h.blank,
    String.ofList_toList]

/-- Dropping at the end once is enough. -/
theorem dropEndWhile_dropEndWhile {α : Type} (p : α → Bool) (cs : List α) :
    dropEndWhile p (dropEndWhile p cs) = dropEndWhile p cs := by
  induction cs with
  | nil => rfl
  | cons c rest ih =>
    cases hrest : dropEndWhile p rest with
    | nil => cases hc : p c <;> simp [dropEndWhile, hrest, hc]
    | cons d kept =>
      have hkept : dropEndWhile p (c :: rest) = c :: d :: kept := by rw [dropEndWhile, hrest]
      rw [hrest] at ih
      rw [hkept, dropEndWhile, ih]

/-- Trimming once is enough. -/
theorem trimChars_trimChars (cs : List Char) : trimChars (trimChars cs) = trimChars cs := by
  unfold trimChars
  cases hstart : cs.dropWhile isBlank with
  | nil => rfl
  | cons c rest =>
    have hne : cs.dropWhile isBlank ≠ [] := by simp [hstart]
    have hc : isBlank c = false := by
      simpa [hstart] using List.head_dropWhile_not isBlank hne
    have hkept : ∃ kept, dropEndWhile isBlank (c :: rest) = c :: kept := by
      rw [dropEndWhile]
      split
      · exact ⟨[], by simp [hc]⟩
      · exact ⟨_, rfl⟩
    obtain ⟨kept, hkept⟩ := hkept
    have hagain := dropEndWhile_dropEndWhile isBlank (c :: rest)
    rw [hkept] at hagain ⊢
    rwa [List.dropWhile_cons_of_neg (by simp [hc])]

/-- Trimming once is enough. -/
@[simp] theorem trim_trim (s : String) : trim (trim s) = trim s := by
  rw [trim, trim, String.toList_ofList, trimChars_trimChars]

end Text

/-- There are no blanks at the ends of the sign of a comparison. -/
@[simp] theorem Keyword.trim_comparisonSign (op : String) :
    Text.trim (comparisonSign op) = comparisonSign op := by
  have hsigns : ∀ entry ∈ comparisonSigns, Text.trim entry.2 = entry.2 := by
    decide +kernel
  have hlookup {op sign : String} (h : comparisonSigns.lookup op = some sign) :
      Text.trim sign = sign := by
    obtain ⟨front, back, hentries, -⟩ := List.lookup_eq_some_iff.mp h
    exact hsigns (op, sign) (by simp [hentries])
  unfold comparisonSign
  split
  · decide
  · dsimp only
    split
    · exact hlookup ‹_›
    · cases hlower : comparisonSigns.lookup (Text.lower (Text.trim op)) with
      | some sign => exact hlookup hlower
      | none => exact Text.trim_trim op

namespace Number

/-- The characters of numerals are no blanks and no bars. -/
theorem IsNumeralChar.isBlank_eq_false {c : Char} (h : IsNumeralChar c) :
    Text.isBlank c = false ∧ c ≠ '|' := by
  rcases h with hdigit | hother
  · exact Text.isBlank_of_isDigit hdigit
  · have hall : ['+', '-', '.', 'e', 'E'].all (fun c => !Text.isBlank c && c != '|') = true := by
      decide
    simpa using List.all_eq_true.mp hall c hother

/-- A numeral, without the blanks around it, is a word. -/
theorem isField_trim_of_isNumeral {s : String} (h : isNumeral s = true) :
    Text.IsField (Text.trim s) := by
  obtain ⟨numeral, hnumeral⟩ := Option.isSome_iff_exists.mp h
  have hchar (c : Char) (hc : c ∈ (Text.trim s).toList) : Text.isBlank c = false ∧ c ≠ '|' := by
    rw [Text.trim, String.toList_ofList] at hc
    exact (isNumeralChar_of_read? hnumeral hc).isBlank_eq_false
  refine ⟨fun hempty => ?_, fun c hc => (hchar c hc).1, fun hbar => (hchar _ hbar).2 rfl⟩
  have hnil : Text.trimChars s.toList = [] := by
    simpa [Text.trim] using congrArg String.toList hempty
  rw [hnil] at hnumeral
  cases hnumeral

/-- A written number is a word. -/
theorem IsWritten.isField {s : String} (h : IsWritten s) : Text.IsField s := by
  have hblank : ∀ c ∈ s.toList, Text.isBlank c = false := by
    intro c hc
    have := h.plain.2 c hc
    simp only [Token.isPlainChar, Bool.and_eq_true, Bool.not_eq_true'] at this
    exact this.1.1.1
  have hfield := isField_trim_of_isNumeral h.numeral
  rwa [Text.trim, Text.trimChars_of_forall_not hblank, String.ofList_toList] at hfield

/-- The label of any double is a word. -/
theorem isField_label (x : Float) : Text.IsField (label x) := by
  cases hx : Binary.ofFloat x with
  | finite negative significand exponent =>
    exact (isWritten_label ⟨negative, significand, exponent, hx⟩).isField
  | infinite negative =>
    simp only [label, integer?, writeFloat, hx]
    cases negative <;> decide
  | notANumber =>
    simp only [label, integer?, writeFloat, hx]
    decide

end Number

/-- The text of a literal is a word. -/
theorem Formula.isField_of_literalText? {f : Formula} {text : String}
    (h : f.literalText? = some text) : Text.IsField text := by
  cases f with
  | number value =>
    obtain rfl := Option.some.inj h
    exact Number.isField_label value
  | parameter name type =>
    simp only [literalText?] at h
    split at h
    · rename_i hnumeral
      obtain rfl := Option.some.inj h
      exact Number.isField_trim_of_isNumeral hnumeral
    · cases h
  | _ => cases h

end PlanDiagram
