import PlanDiagram.Diagram.Element

/-!
# Families of identifiers

Every identifier in a block extends the identifier of its group, by a text that is fixed or has a
number in it: right behind a fixed stem, or at the end. Names chosen by a user stand only where they
cannot be mistaken for the number. So an identifier tells the number inside its family, and families
whose stems do not extend one another have no identifier in common. Replacing characters does not
blur this, since neither stems nor digits nor hyphens are replaced.
-/

namespace PlanDiagram.Diagram

/-- A character of an identifier, or what stands for it. -/
def sanitizeChar (c : Char) : Char :=
  if c.isAlphanum || c == '_' || c == '-' then c else '_'

/-- An identifier is sanitized character by character. -/
theorem toList_sanitize (id : String) : (sanitize id).toList = id.toList.map sanitizeChar := by
  rw [sanitize, String.toList_ofList]
  rfl

/-- Texts are sanitized one by one. -/
theorem sanitize_append (s t : String) : sanitize (s ++ t) = sanitize s ++ sanitize t := by
  rw [← String.toList_inj]
  simp [toList_sanitize]

/-- Sanitizing keeps the number of characters. -/
theorem length_sanitize (id : String) : (sanitize id).length = id.length := by
  rw [← String.length_toList, toList_sanitize, List.length_map, String.length_toList]

/-- A hyphen is kept as it is. -/
theorem sanitize_hyphen : sanitize "-" = "-" := by
  decide

/-- Numerals are kept as they are. -/
theorem sanitize_toString (n : Nat) : sanitize (toString n) = toString n := by
  rw [← String.toList_inj, toList_sanitize, Nat.toString_eq_repr, Nat.toList_repr]
  have hkeep : ∀ c ∈ Nat.toDigits 10 n, sanitizeChar c = c := by
    intro c hc
    have hdigit : c.isDigit = true := Nat.isDigit_of_mem_toDigits (by omega) (by omega) hc
    simp [sanitizeChar, Char.isAlphanum, hdigit]
  rw [List.map_congr_left hkeep, List.map_id']

/-- A family of identifiers of one block, by what follows the identifier of the group and a
hyphen. -/
inductive Family where
  /-- One identifier, without a number. -/
  | single (text : String)
  /-- The number follows the stem, and a hyphen follows the number. -/
  | leading (stem : String)
  /-- The number is at the end, after a hyphen. -/
  | trailing (stem : String)
deriving DecidableEq

namespace Family

/-- The characters of an identifier, after those of its group and a hyphen, under a number of the
family. -/
def Spells : Family → Nat → List Char → Prop
  | single text, n, tail => n = 0 ∧ tail = text.toList
  | leading stem, n, tail =>
    ∃ name, tail = stem.toList ++ (Nat.toDigits 10 n ++ '-' :: name)
  | trailing stem, n, tail =>
    ∃ middle, tail = stem.toList ++ (middle ++ '-' :: Nat.toDigits 10 n)

/-- The digits of a number. -/
theorem isDigit_of_mem {n : Nat} {c : Char} (h : c ∈ Nat.toDigits 10 n) : c.isDigit = true :=
  Nat.isDigit_of_mem_toDigits (by omega) (by omega) h

/-- Digits are those of one number only. -/
theorem eq_of_toDigits_eq {m n : Nat} (h : Nat.toDigits 10 m = Nat.toDigits 10 n) : m = n := by
  have hvalue := congrArg (fun digits => Nat.ofDigitChars 10 digits 0) h
  simpa using hvalue

/-- The digits of a number end at a hyphen. -/
theorem takeWhile_isDigit {digits : List Char} (h : ∀ c ∈ digits, c.isDigit = true)
    (rest : List Char) : (digits ++ '-' :: rest).takeWhile Char.isDigit = digits := by
  have hhyphen : '-'.isDigit = false := by decide
  rw [List.takeWhile_append_of_pos h, List.takeWhile_cons_of_neg (by simp [hhyphen]),
    List.append_nil]

/-- An identifier of a family has one number. -/
theorem Spells.number_unique {f : Family} {m n : Nat} {tail : List Char} (hm : f.Spells m tail)
    (hn : f.Spells n tail) : m = n := by
  cases f with
  | single text => exact hm.1.trans hn.1.symm
  | leading stem =>
    obtain ⟨front, rfl⟩ := hm
    obtain ⟨back, h⟩ := hn
    have htake := congrArg (List.takeWhile Char.isDigit) (List.append_cancel_left h)
    rw [takeWhile_isDigit fun c => isDigit_of_mem, takeWhile_isDigit fun c => isDigit_of_mem]
      at htake
    exact eq_of_toDigits_eq htake
  | trailing stem =>
    obtain ⟨front, rfl⟩ := hm
    obtain ⟨back, h⟩ := hn
    -- seen from the end, the digits come first
    have hreverse := congrArg List.reverse (List.append_cancel_left h)
    simp only [List.reverse_append, List.reverse_cons, List.append_assoc, List.singleton_append]
      at hreverse
    have htake := congrArg (List.takeWhile Char.isDigit) hreverse
    have hdigit (n : Nat) : ∀ c ∈ (Nat.toDigits 10 n).reverse, c.isDigit = true :=
      fun c hc => isDigit_of_mem (List.mem_reverse.mp hc)
    rw [takeWhile_isDigit (hdigit m), takeWhile_isDigit (hdigit n)] at htake
    exact eq_of_toDigits_eq (List.reverse_inj.mp htake)

/-- The ten digits. -/
def digits : List Char :=
  ['0', '1', '2', '3', '4', '5', '6', '7', '8', '9']

/-- There are no other digits. -/
theorem mem_digits {c : Char} (h : c.isDigit = true) : c ∈ digits := by
  have hc : c.toNat - 48 < 10 ∧ 48 ≤ c.toNat := by
    simp only [Char.isDigit, Bool.and_eq_true, decide_eq_true_eq, UInt32.le_iff_toNat_le] at h
    have hlow : 48 ≤ c.toNat := h.1
    have hhigh : c.toNat ≤ 57 := h.2
    omega
  have hall : ∀ k : Fin 10, Char.ofNat (k.val + 48) ∈ digits := by decide
  have hmem := hall ⟨c.toNat - 48, hc.1⟩
  rwa [Nat.sub_add_cancel hc.2, Char.ofNat_toNat] at hmem

/-- The beginnings that the identifiers of a family can have. -/
def heads : Family → List (List Char)
  | single text => [text.toList]
  | leading stem => digits.map fun digit => stem.toList ++ [digit]
  | trailing stem => [stem.toList]

/-- Two families are apart if no beginning of one extends a beginning of the other. -/
def Apart (f g : Family) : Prop :=
  ∀ head ∈ f.heads, ∀ other ∈ g.heads, ¬ head <+: other ∧ ¬ other <+: head

instance (f g : Family) : Decidable (Apart f g) :=
  inferInstanceAs (Decidable (∀ _ ∈ _, ∀ _ ∈ _, _))

/-- Being apart does not depend on the order. -/
theorem Apart.symm {f g : Family} (h : f.Apart g) : g.Apart f :=
  fun head hhead other hother => (h other hother head hhead).symm

/-- An identifier of a family has one of its beginnings. -/
theorem Spells.exists_head {f : Family} {n : Nat} {tail : List Char} (h : f.Spells n tail) :
    ∃ head ∈ f.heads, head <+: tail := by
  cases f with
  | single text =>
    obtain ⟨-, rfl⟩ := h
    exact ⟨text.toList, by simp [heads], List.prefix_rfl⟩
  | leading stem =>
    obtain ⟨name, rfl⟩ := h
    cases hn : Nat.toDigits 10 n with
    | nil => exact absurd hn Nat.toDigits_ne_nil
    | cons digit others =>
      have hdigit : digit.isDigit = true := isDigit_of_mem (hn ▸ List.mem_cons_self)
      refine ⟨stem.toList ++ [digit], List.mem_map.mpr ⟨digit, mem_digits hdigit, rfl⟩, ?_⟩
      simp
  | trailing stem =>
    obtain ⟨middle, rfl⟩ := h
    exact ⟨stem.toList, by simp [heads], List.prefix_append _ _⟩

/-- Families that are apart have no identifier in common. -/
theorem Spells.not_of_apart {f g : Family} {m n : Nat} {tail : List Char} (h : f.Spells m tail)
    (hapart : f.Apart g) : ¬ g.Spells n tail := by
  intro hg
  obtain ⟨head, hhead, hprefix⟩ := h.exists_head
  obtain ⟨other, hother, hprefix'⟩ := hg.exists_head
  obtain ⟨hnot, hnot'⟩ := hapart head hhead other hother
  rcases List.prefix_or_prefix_of_prefix hprefix hprefix' with h | h
  · exact hnot h
  · exact hnot' h

end Family

/-- An identifier is that of a family under a number, in the block of a group. -/
def Names (group : String) (f : Family) (n : Nat) (id : String) : Prop :=
  ∃ tail, id.toList = (sanitize group).toList ++ '-' :: tail ∧ f.Spells n tail

namespace Names

variable {group id : String} {f g : Family} {m n : Nat}

/-- An identifier has one number in its family. -/
theorem number_unique (h : Names group f m id) (h' : Names group f n id) : m = n := by
  obtain ⟨tail, htail, hspell⟩ := h
  obtain ⟨tail', htail', hspell'⟩ := h'
  rw [htail] at htail'
  obtain ⟨-, rfl⟩ := List.cons.inj (List.append_cancel_left htail')
  exact hspell.number_unique hspell'

/-- An identifier does not belong to two families that are apart. -/
theorem not_of_apart (h : Names group f m id) (hapart : f.Apart g) : ¬ Names group g n id := by
  intro h'
  obtain ⟨tail, htail, hspell⟩ := h
  obtain ⟨tail', htail', hspell'⟩ := h'
  rw [htail] at htail'
  obtain ⟨-, rfl⟩ := List.cons.inj (List.append_cancel_left htail')
  exact hspell.not_of_apart hapart hspell'

/-- An identifier in a block is longer than that of the group. -/
theorem ne_group (h : Names group f n id) : id ≠ group := by
  rintro rfl
  obtain ⟨tail, htail, -⟩ := h
  have hlength := congrArg List.length htail
  simp only [String.length_toList, List.length_append, List.length_cons, length_sanitize] at hlength
  omega

variable {head stem : String}

/-- The only identifier of a family without numbers. -/
theorem single (group : String) (hhead : head = "-" ++ stem) (h : sanitize stem = stem) :
    Names group (.single stem) 0 (sanitize (group ++ head)) := by
  refine ⟨stem.toList, ?_, rfl, rfl⟩
  simp only [hhead, sanitize_append, sanitize_hyphen, h]
  simp

/-- An identifier with the number behind the stem. -/
theorem leading (group : String) (hhead : head = "-" ++ stem) (h : sanitize stem = stem) (n : Nat)
    (name : String) :
    Names group (.leading stem) n (sanitize (group ++ head ++ toString n ++ "-" ++ name)) := by
  refine ⟨stem.toList ++ (Nat.toDigits 10 n ++ '-' :: (sanitize name).toList), ?_, _, rfl⟩
  simp only [hhead, sanitize_append, sanitize_toString, sanitize_hyphen, h]
  simp

/-- An identifier with the number at the end. -/
theorem trailing (group : String) (hhead : head = "-" ++ stem) (h : sanitize stem = stem)
    (middle : String) (n : Nat) :
    Names group (.trailing stem) n
      (sanitize (group ++ head ++ middle ++ "-" ++ toString n)) := by
  refine ⟨stem.toList ++ ((sanitize middle).toList ++ '-' :: Nat.toDigits 10 n), ?_, _, rfl⟩
  simp only [hhead, sanitize_append, sanitize_toString, sanitize_hyphen, h]
  simp

end Names

end PlanDiagram.Diagram
