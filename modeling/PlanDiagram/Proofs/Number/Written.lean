import PlanDiagram.Number.Written
import PlanDiagram.Proofs.Form.RoundTrip
import PlanDiagram.Proofs.Number.Numeral

/-!
# Written numbers are numerals

Whatever the digits are that the search for a shortest decimal ends with, a finite double is written
as a numeral that can stand as a word of a text. The only case that needs more than the layout is an
exponent, which has to follow a digit: a decimal that is written with an exponent has digits, since
a positive value never rounds to zero on a grid.
-/

namespace PlanDiagram.Number

/-- A usual digit is a decimal digit. -/
theorem isDigit_of_isDigit {c : Char} (h : c.isDigit = true) : Text.isDigit c = true := by
  have hrange : 48 ≤ c.toNat ∧ c.toNat < 58 := by
    simp only [Char.isDigit, Bool.and_eq_true, decide_eq_true_eq, UInt32.le_iff_toNat_le] at h
    have hlow : 48 ≤ c.toNat := h.1
    have hhigh : c.toNat ≤ 57 := h.2
    omega
  simp [Text.isDigit, Text.digitValue?, Text.digitZeros, hrange]

/-- The digits of a number are usual digits. -/
theorem isDigit_of_mem_natDigits {n : Nat} {c : Char} (h : c ∈ natDigits n) : c.isDigit = true :=
  Nat.isDigit_of_mem_toDigits (by omega) (by omega) h

/-- A text that starts with no digit, as what follows the digits of a number does. -/
def EndsDigits : List Char → Prop
  | [] => True
  | c :: _ => Text.isDigit c = false

/-- Digits at the start of a text are taken as far as they go. -/
theorem takeWhile_digits {digits rest : List Char} (h : ∀ c ∈ digits, c.isDigit = true)
    (hrest : EndsDigits rest) :
    (digits ++ rest).takeWhile Text.isDigit = digits ∧
      (digits ++ rest).dropWhile Text.isDigit = rest := by
  have hdigits : ∀ c ∈ digits, Text.isDigit c = true := fun c hc => isDigit_of_isDigit (h c hc)
  rw [List.takeWhile_append_of_pos hdigits, List.dropWhile_append_of_pos hdigits]
  cases rest with
  | nil => simp
  | cons c rest =>
    have hc : Text.isDigit c = false := hrest
    simp [hc]

/-- Digits with a point after the first ones are read as a mantissa. -/
theorem exists_readMantissa?_point {whole fraction rest : List Char}
    (hwhole : ∀ c ∈ whole, c.isDigit = true) (hfraction : ∀ c ∈ fraction, c.isDigit = true)
    (hne : whole ≠ []) (hrest : EndsDigits rest) :
    ∃ mantissa, readMantissa? (whole ++ '.' :: (fraction ++ rest)) =
      some (mantissa, fraction.length, rest) := by
  have hdot : Text.isDigit '.' = false := by
    decide
  have hpoint : EndsDigits ('.' :: (fraction ++ rest)) := hdot
  obtain ⟨htake, hdrop⟩ := takeWhile_digits hwhole hpoint
  obtain ⟨htake', hdrop'⟩ := takeWhile_digits hfraction hrest
  refine ⟨ofDigits (whole ++ fraction), ?_⟩
  simp [readMantissa?, htake, hdrop, htake', hdrop', hne]

/-- Digits are read as a mantissa. -/
theorem readMantissa?_digits {digits rest : List Char} (h : ∀ c ∈ digits, c.isDigit = true)
    (hne : digits ≠ []) (hrest : EndsDigits rest) (hpoint : rest.head? ≠ some '.') :
    readMantissa? (digits ++ rest) = some (ofDigits digits, 0, rest) := by
  obtain ⟨htake, hdrop⟩ := takeWhile_digits h hrest
  unfold readMantissa?
  simp only [htake, hdrop]
  split
  · simp at hpoint
  · simp [hne]

/-- What is written without a sign: a text of the usual characters of numerals that starts with a
digit and is read as a numeral. -/
structure Unsigned (cs : List Char) : Prop where
  chars : ∀ c ∈ cs, c.isDigit = true ∨ c ∈ ['.', 'e', '+', '-']
  starts : ∃ first rest, cs = first :: rest ∧ first.isDigit = true
  reads : ∃ mantissa places rest exponent, readMantissa? cs = some (mantissa, places, rest) ∧
    readExponent? rest = some exponent

/-- The digits of a natural number are a numeral. -/
theorem unsigned_digits {digits : List Char} (h : ∀ c ∈ digits, c.isDigit = true)
    (hne : digits ≠ []) : Unsigned digits := by
  refine ⟨fun c hc => .inl (h c hc), ?_, ofDigits digits, 0, [], 0, ?_, rfl⟩
  · obtain ⟨first, rest, rfl⟩ := List.exists_cons_of_ne_nil hne
    exact ⟨first, rest, rfl, h first List.mem_cons_self⟩
  · simpa using @readMantissa?_digits digits [] h hne trivial (by simp)

/-- Digits with a point between them are a numeral. -/
theorem unsigned_point {whole fraction : List Char} (hwhole : ∀ c ∈ whole, c.isDigit = true)
    (hfraction : ∀ c ∈ fraction, c.isDigit = true) (hne : whole ≠ []) :
    Unsigned (whole ++ '.' :: fraction) := by
  refine ⟨fun c hc => ?_, ?_, ?_⟩
  · rcases List.mem_append.mp hc with hc | hc
    · exact .inl (hwhole c hc)
    · rcases List.mem_cons.mp hc with rfl | hc
      · exact .inr (by simp)
      · exact .inl (hfraction c hc)
  · obtain ⟨first, rest, rfl⟩ := List.exists_cons_of_ne_nil hne
    exact ⟨first, _, rfl, hwhole first List.mem_cons_self⟩
  · obtain ⟨mantissa, hmantissa⟩ :=
      @exists_readMantissa?_point whole fraction [] hwhole hfraction hne trivial
    exact ⟨mantissa, fraction.length, [], 0, by simpa using hmantissa, rfl⟩

/-- An exponent behind its letter. -/
theorem readExponent?_written {sign : Char} {digits : List Char} (hsign : sign = '-' ∨ sign = '+')
    (h : ∀ c ∈ digits, c.isDigit = true) (hne : digits ≠ []) :
    ∃ exponent, readExponent? ('e' :: sign :: digits) = some exponent := by
  have hall : digits.all Text.isDigit = true :=
    List.all_eq_true.mpr fun c hc => isDigit_of_isDigit (h c hc)
  rcases hsign with rfl | rfl <;> simp [readExponent?, splitSign, hall, hne]

/-- A mantissa with an exponent is a numeral. -/
theorem unsigned_exponent {mantissa digits : List Char} {sign : Char}
    (hsign : sign = '-' ∨ sign = '+')
    (hchars : ∀ c ∈ mantissa, c.isDigit = true ∨ c ∈ ['.', 'e', '+', '-'])
    (hstarts : ∃ first rest, mantissa = first :: rest ∧ first.isDigit = true)
    (hreads : ∀ rest, EndsDigits rest → rest.head? ≠ some '.' →
      ∃ m places, readMantissa? (mantissa ++ rest) = some (m, places, rest))
    (hdigits : ∀ c ∈ digits, c.isDigit = true) (hne : digits ≠ []) :
    Unsigned (mantissa ++ 'e' :: sign :: digits) := by
  refine ⟨fun c hc => ?_, ?_, ?_⟩
  · rcases List.mem_append.mp hc with hc | hc
    · exact hchars c hc
    · rcases List.mem_cons.mp hc with rfl | hc
      · exact .inr (by simp)
      · rcases List.mem_cons.mp hc with rfl | hc
        · exact .inr (by rcases hsign with rfl | rfl <;> simp)
        · exact .inl (hdigits c hc)
  · obtain ⟨first, rest, rfl, hfirst⟩ := hstarts
    exact ⟨first, _, rfl, hfirst⟩
  · have hletter : Text.isDigit 'e' = false := by
      decide
    obtain ⟨m, places, hm⟩ := hreads ('e' :: sign :: digits) hletter (by simp)
    obtain ⟨exponent, hexponent⟩ := readExponent?_written hsign hdigits hne
    exact ⟨m, places, _, exponent, hm, hexponent⟩

/-- Decimals whose digits are the usual ones. -/
def Decimal.Digital (d : Decimal) : Prop :=
  ∀ c ∈ d.digits, c.isDigit = true

/-- Zeros are digits. -/
theorem isDigit_of_mem_replicate {n : Nat} {c : Char} (h : c ∈ List.replicate n '0') :
    c.isDigit = true := by
  rw [(List.mem_replicate.mp h).2]
  rfl

/-- A decimal without an exponent is a numeral. -/
theorem Decimal.unsigned_positional {d : Decimal} (h : d.Digital) : Unsigned d.positional := by
  unfold positional
  split
  · refine @unsigned_point ['0'] _ (by simp) (fun c hc => ?_) (by simp)
    rcases List.mem_append.mp hc with hc | hc
    · exact isDigit_of_mem_replicate hc
    · exact h c hc
  · rename_i hpoint
    split
    · rename_i hlength
      refine @unsigned_point _ ['0'] (fun c hc => ?_) (by simp) ?_
      · rcases List.mem_append.mp hc with hc | hc
        · exact h c hc
        · exact isDigit_of_mem_replicate hc
      · rw [← List.length_pos_iff, List.length_append, List.length_replicate]
        omega
    · rename_i hlength
      refine unsigned_point (fun c hc => h c (List.mem_of_mem_take hc))
        (fun c hc => h c (List.mem_of_mem_drop hc)) ?_
      rw [← List.length_pos_iff, List.length_take]
      omega

/-- A decimal with digits is a numeral when it is written with an exponent. -/
theorem Decimal.unsigned_scientific {d : Decimal} (h : d.Digital) (hne : d.digits ≠ [])
    (width : Nat) : Unsigned (d.scientific width) := by
  obtain ⟨first, others, hd⟩ := List.exists_cons_of_ne_nil hne
  have hdigits : ∀ c ∈ first :: others, c.isDigit = true := by
    intro c hc
    exact h c (hd ▸ hc)
  have hfirst : first.isDigit = true := hdigits first List.mem_cons_self
  have hexponent (n : Nat) : ∀ c ∈ List.replicate (width - (natDigits n).length) '0' ++ natDigits n,
      c.isDigit = true := by
    intro c hc
    rcases List.mem_append.mp hc with hc | hc
    · exact isDigit_of_mem_replicate hc
    · exact isDigit_of_mem_natDigits hc
  have hsign : (if d.point - 1 < 0 then '-' else '+') = '-' ∨
      (if d.point - 1 < 0 then '-' else '+') = '+' := by
    split <;> simp
  unfold scientific
  rw [hd]
  cases others with
  | nil =>
    refine unsigned_exponent hsign (fun c hc => .inl (hdigits c hc)) ⟨first, [], rfl, hfirst⟩ ?_
      (hexponent _) (by simp [natDigits])
    intro rest hrest hpoint
    exact ⟨_, _, readMantissa?_digits hdigits (by simp) hrest hpoint⟩
  | cons second others =>
    refine unsigned_exponent hsign (fun c hc => ?_) ⟨first, _, rfl, hfirst⟩ ?_
      (hexponent _) (by simp [natDigits])
    · rcases List.mem_cons.mp hc with rfl | hc
      · exact .inl hfirst
      · rcases List.mem_cons.mp hc with rfl | hc
        · exact .inr (by simp)
        · exact .inl (hdigits c (List.mem_cons_of_mem first hc))
    · intro rest hrest _
      obtain ⟨mantissa, hmantissa⟩ := @exists_readMantissa?_point [first] _ _
        (fun c hc => hdigits c (by simp_all))
        (fun c hc => hdigits c (List.mem_cons_of_mem first hc)) (by simp) hrest
      exact ⟨mantissa, _, by simpa using hmantissa⟩

/-- What is dropped at the end of a list has the property that it is dropped for. -/
theorem forall_of_dropEndWhile_eq_nil {p : Char → Bool} {cs : List Char}
    (h : Text.dropEndWhile p cs = []) : ∀ c ∈ cs, p c = true := by
  induction cs with
  | nil => simp
  | cons c rest ih =>
    rw [Text.dropEndWhile] at h
    split at h
    · rename_i hrest
      split at h
      · rename_i hc
        exact List.forall_mem_cons.mpr ⟨hc, ih hrest⟩
      · cases h
    · cases h

/-- What is kept of a list is part of it. -/
theorem mem_of_mem_dropEndWhile {p : Char → Bool} {cs : List Char} {c : Char}
    (h : c ∈ Text.dropEndWhile p cs) : c ∈ cs := by
  induction cs with
  | nil => exact h
  | cons d rest ih =>
    rw [Text.dropEndWhile] at h
    split at h
    · split at h
      · cases h
      · rw [List.mem_singleton.mp h]
        exact List.mem_cons_self
    · rcases List.mem_cons.mp h with rfl | h
      · exact List.mem_cons_self
      · exact List.mem_cons_of_mem d (ih h)

/-- A positive number has a digit other than zero. -/
theorem eq_zero_of_forall_toDigits {n : Nat} (h : ∀ c ∈ Nat.toDigits 10 n, c = '0') : n = 0 := by
  rw [← Nat.ofDigitChars_ten_toDigits (n := n), List.eq_replicate_of_mem h]
  simp

/-- The decimals of a grid have the usual digits. -/
theorem Decimal.digital_ofGrid (n : Nat) (power : Int) : (Decimal.ofGrid n power).Digital := by
  intro c hc
  exact Nat.isDigit_of_mem_toDigits (by omega) (by omega) (mem_of_mem_dropEndWhile hc)

/-- A positive decimal of a grid has digits. -/
theorem Decimal.digits_ofGrid_ne_nil {n : Nat} (h : n ≠ 0) (power : Int) :
    (Decimal.ofGrid n power).digits ≠ [] := by
  intro hnil
  exact h (eq_zero_of_forall_toDigits fun c hc => by
    simpa using forall_of_dropEndWhile_eq_nil hnil c hc)

/-- The whole number that is found lies in the interval. -/
theorem Rounding.holds_of_nearest? {r : Rounding} {n : Nat} (h : r.nearest? = some n) :
    r.holds n = true := by
  unfold nearest? at h
  simp only at h
  split at h
  · rename_i hbelow
    split at h
    · rename_i habove
      split at h <;> simp_all
    · simp_all
  · split at h
    · simp_all
    · cases h

/-- Zero does not lie in an interval of positive reals. -/
theorem Rounding.ne_zero_of_holds {r : Rounding} {n : Nat} (hlower : 0 < r.lower)
    (h : r.holds n = true) : n ≠ 0 := by
  rintro rfl
  unfold holds at h
  split at h <;> simp only [Nat.zero_mul, Bool.and_eq_true, decide_eq_true_eq] at h <;> omega

/-- The reals that round to a positive double are positive, on any scale. -/
theorem Rounding.lower_pos {significand : Nat} (h : significand ≠ 0) (exponent power : Int) :
    0 < ((Rounding.of significand exponent).shift power).lower := by
  have hscale (n : Nat) : 0 < Nat.pow 2 n := Nat.pow_pos (by omega)
  have hup (n : Nat) : 0 < Nat.pow 10 n := Nat.pow_pos (by omega)
  refine Nat.mul_pos (Nat.mul_pos ?_ (hscale _)) (hup _)
  split <;> omega

/-- The shortest decimal has the usual digits, and there are some unless its point is after the
first place. -/
theorem digital_shortest {significand : Nat} (h : significand ≠ 0) (exponent : Int) :
    (shortest significand exponent).Digital ∧
      ((shortest significand exponent).digits ≠ [] ∨
        (shortest significand exponent).point = 1) := by
  unfold shortest
  simp only
  split
  · rename_i decimal hfound
    obtain ⟨power, -, hpower⟩ := List.exists_of_findSome?_eq_some hfound
    obtain ⟨n, hn, rfl⟩ := Option.map_eq_some_iff.mp hpower
    have hne : n ≠ 0 :=
      Rounding.ne_zero_of_holds (Rounding.lower_pos h exponent power)
        (Rounding.holds_of_nearest? hn)
    exact ⟨Decimal.digital_ofGrid n power, .inl (Decimal.digits_ofGrid_ne_nil hne power)⟩
  · -- if no grid had a decimal, zero would be written as `0.0`
    refine ⟨Decimal.digital_ofGrid _ 0, ?_⟩
    by_cases hzero : wholePart significand exponent = 0
    · right
      rw [hzero]
      rfl
    · exact .inl (Decimal.digits_ofGrid_ne_nil hzero 0)

/-- The shortest decimal of a positive double is written as a numeral. -/
theorem unsigned_shortest {significand : Nat} (h : significand ≠ 0) (exponent : Int) :
    Unsigned ((shortest significand exponent).write plainLayout) := by
  obtain ⟨hdigital, hdigits⟩ := digital_shortest h exponent
  unfold Decimal.write
  simp only
  split
  · exact Decimal.unsigned_positional hdigital
  · rename_i hexponent
    refine Decimal.unsigned_scientific hdigital ?_ _
    rcases hdigits with hdigits | hpoint
    · exact hdigits
    · rw [hpoint] at hexponent
      exact absurd rfl hexponent

/-- How numbers are written: as a numeral that can stand as a word, with a digit or a minus as its
first character. -/
structure IsWritten (s : String) : Prop where
  numeral : isNumeral s = true
  plain : Token.IsPlain s
  starts : ∃ c rest, s.toList = c :: rest ∧ (c.isDigit = true ∨ c = '-')

/-- The usual characters of numerals can stand in words. -/
theorem isPlainChar_of_unsigned {c : Char} (h : c.isDigit = true ∨ c ∈ ['.', 'e', '+', '-']) :
    Token.isPlainChar c = true := by
  rcases h with hdigit | hother
  · have hrange : 48 ≤ c.toNat ∧ c.toNat ≤ 57 := by
      simpa [Char.isDigit, UInt32.le_iff_toNat_le] using hdigit
    have hne (d : Char) (hd : d.toNat < 48 ∨ 57 < d.toNat) : (c != d) = true := by
      rw [bne_iff_ne]
      rintro rfl
      omega
    have hblank : Text.isBlank c = false := by
      simp [Text.isBlank]
      omega
    simp only [Token.isPlainChar, hblank, hne '(' (by decide), hne ')' (by decide),
      hne ';' (by decide), Bool.not_false, Bool.and_self]
  · simp only [List.mem_cons, List.not_mem_nil, or_false] at hother
    rcases hother with rfl | rfl | rfl | rfl <;> decide

/-- What is written without a sign is a written number, and so it is with a minus in front. -/
theorem Unsigned.isWritten {cs : List Char} (h : Unsigned cs) (negative : Bool) :
    IsWritten (String.ofList (if negative then '-' :: cs else cs)) := by
  obtain ⟨first, rest, rfl, hfirst⟩ := h.starts
  obtain ⟨mantissa, places, others, exponent, hmantissa, hexponent⟩ := h.reads
  have hchars : ∀ c ∈ (if negative then '-' :: first :: rest else first :: rest),
      Token.isPlainChar c = true := by
    intro c hc
    refine isPlainChar_of_unsigned ?_
    split at hc
    · rcases List.mem_cons.mp hc with rfl | hc
      · exact .inr (by simp)
      · exact h.chars c hc
    · exact h.chars c hc
  have hblank : ∀ c ∈ (if negative then '-' :: first :: rest else first :: rest),
      Text.isBlank c = false := by
    intro c hc
    have := hchars c hc
    simp only [Token.isPlainChar, Bool.and_eq_true, Bool.not_eq_true'] at this
    exact this.1.1.1
  have hsplit : splitSign (if negative then '-' :: first :: rest else first :: rest) =
      (negative, first :: rest) := by
    cases negative with
    | true => rfl
    | false =>
      have hplus : first ≠ '+' := by
        rintro rfl
        exact absurd hfirst (by decide)
      have hminus : first ≠ '-' := by
        rintro rfl
        exact absurd hfirst (by decide)
      simp [splitSign, hplus, hminus]
  refine ⟨?_, ⟨?_, by simpa using hchars⟩, ?_⟩
  · rw [isNumeral, String.toList_ofList, Text.trimChars, dropEnds_of_forall_not hblank]
    simp [Numeral.read?, hsplit, hmantissa, hexponent]
  · rw [ne_eq, ← String.toList_inj, String.toList_ofList]
    cases negative <;> simp
  · rw [String.toList_ofList]
    cases negative with
    | true => exact ⟨'-', _, rfl, .inr rfl⟩
    | false => exact ⟨first, rest, rfl, .inl hfirst⟩

/-- Tells whether a double stands for a number. -/
def IsFinite (x : Float) : Prop :=
  ∃ negative significand exponent, Binary.ofFloat x = .finite negative significand exponent

/-- An integer is written as a numeral. -/
theorem isWritten_writeInt (n : Int) : IsWritten (writeInt n) := by
  have hdigits : Unsigned (natDigits n.natAbs) :=
    unsigned_digits (fun c hc => isDigit_of_mem_natDigits hc) (by simp [natDigits])
  unfold writeInt
  split
  · exact hdigits.isWritten true
  · exact hdigits.isWritten false

/-- A finite double is written as a numeral, whether or not it is whole. -/
theorem isWritten_label {x : Float} (h : IsFinite x) : IsWritten (label x) := by
  obtain ⟨negative, significand, exponent, hx⟩ := h
  unfold label
  split
  · exact isWritten_writeInt _
  · have hdigits : Unsigned (if significand == 0 then ['0', '.', '0']
        else (shortest significand exponent).write plainLayout) := by
      split
      · exact @unsigned_point ['0'] ['0'] (by simp) (by simp) (by simp)
      · rename_i hzero
        exact unsigned_shortest (by simpa using hzero) exponent
    simpa only [writeFloat, hx] using hdigits.isWritten negative

end PlanDiagram.Number
