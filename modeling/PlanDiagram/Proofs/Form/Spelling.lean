import PlanDiagram.Form.Reader

/-!
# Forms spelled as tokens

The tokens that spell a sequence of forms, and the two ways of reading them back. The reader is
exact: it accepts a sequence of tokens precisely when they spell forms, and gives those forms. The
invariant behind this keeps the tokens read so far as the spelling of the lists that are still open.
-/

namespace PlanDiagram.Form

mutual

/-- The tokens that spell a form. -/
def spell : Form → List Token
  | .atom text => [.word text]
  | .list entries => .opening :: (spellAll entries ++ [.closing])

/-- The tokens that spell several forms, one after the other. -/
def spellAll : List Form → List Token
  | [] => []
  | form :: rest => form.spell ++ spellAll rest

end

mutual

/-- The atoms of a form, from left to right. -/
def atoms : Form → List String
  | .atom text => [text]
  | .list entries => atomsOfAll entries

/-- The atoms of several forms, from left to right. -/
def atomsOfAll : List Form → List String
  | [] => []
  | form :: rest => form.atoms ++ atomsOfAll rest

end

/-- The spelling of no form is empty. -/
@[simp] theorem spellAll_nil : spellAll [] = [] := rfl

/-- Forms are spelled one after the other. -/
@[simp] theorem spellAll_cons (form : Form) (rest : List Form) :
    spellAll (form :: rest) = form.spell ++ spellAll rest := rfl

/-- Two sequences of forms are spelled one after the other. -/
@[simp] theorem spellAll_append (front back : List Form) :
    spellAll (front ++ back) = spellAll front ++ spellAll back := by
  induction front with
  | nil => rfl
  | cons form front ih => simp [ih]

/-- Each form contributes its own atoms. -/
theorem atomsOfAll_eq_flatMap (forms : List Form) : atomsOfAll forms = forms.flatMap atoms := by
  induction forms with
  | nil => rfl
  | cons form rest ih => simp [atomsOfAll, ih]

mutual

/-- The words in the spelling of a form are its atoms. -/
theorem word_mem_spell (text : String) :
    (form : Form) → (Token.word text ∈ form.spell ↔ text ∈ form.atoms)
  | .atom other => by simp [spell, atoms]
  | .list entries => by simp [spell, atoms, word_mem_spellAll text entries]

/-- The words in the spelling of several forms are their atoms. -/
theorem word_mem_spellAll (text : String) :
    (forms : List Form) → (Token.word text ∈ spellAll forms ↔ text ∈ atomsOfAll forms)
  | [] => by simp [atomsOfAll]
  | form :: rest => by
    simp [atomsOfAll, word_mem_spell text form, word_mem_spellAll text rest]

end

mutual

/-- Reading the spelling of a form adds the form to the innermost open list. -/
theorem fold_spell (form : Form) (outer : List (List Form)) (current : List Form)
    (position : Nat) (rest : List Token) :
    fold outer current position (form.spell ++ rest) =
      fold outer (form :: current) (position + form.spell.length) rest := by
  cases form with
  | atom text => rfl
  | list entries =>
    have hinner := fold_spellAll entries (current :: outer) [] (position + 1) (.closing :: rest)
    simp only [spell, List.cons_append, List.append_assoc, List.nil_append, fold]
    rw [hinner]
    simp only [fold, List.append_nil, List.reverse_reverse, List.length_cons, List.length_append,
      List.length_nil]
    congr 1
    omega

/-- Reading the spelling of several forms adds them to the innermost open list. -/
theorem fold_spellAll (forms : List Form) (outer : List (List Form)) (current : List Form)
    (position : Nat) (rest : List Token) :
    fold outer current position (spellAll forms ++ rest) =
      fold outer (forms.reverse ++ current) (position + (spellAll forms).length) rest := by
  cases forms with
  | nil => rfl
  | cons form forms =>
    rw [spellAll_cons, List.append_assoc, fold_spell form, fold_spellAll forms]
    simp [Nat.add_assoc]

end

/-- The tokens read so far, given the entries of the open lists: those of each enclosing list, its
parenthesis, and those of the innermost list. -/
def readSoFar (current : List Form) : List (List Form) → List Token
  | [] => spellAll current.reverse
  | enclosing :: outer => readSoFar enclosing outer ++ .opening :: spellAll current.reverse

/-- A form that is added to the innermost open list adds its spelling to what has been read. -/
theorem readSoFar_cons (form : Form) (current : List Form) (outer : List (List Form)) :
    readSoFar (form :: current) outer = readSoFar current outer ++ form.spell := by
  cases outer <;> simp [readSoFar]

/-- What the reader accepts is the spelling of what it gives. -/
theorem spellAll_of_fold {outer : List (List Form)} {current forms : List Form} {position : Nat}
    {tokens : List Token} (h : fold outer current position tokens = .ok forms) :
    spellAll forms = readSoFar current outer ++ tokens := by
  induction tokens generalizing outer current position with
  | nil =>
    cases outer with
    | nil =>
      simp only [fold, List.isEmpty_nil, if_true, Except.ok.injEq] at h
      simp [readSoFar, ← h]
    | cons enclosing outer => simp [fold] at h
  | cons token rest ih =>
    cases token with
    | opening => simpa [readSoFar] using ih h
    | word text => simpa [readSoFar_cons, spell] using ih h
    | closing =>
      cases outer with
      | nil => simp [fold] at h
      | cons enclosing outer => simpa [readSoFar, readSoFar_cons, spell] using ih h

/-- The reader accepts exactly the spellings of forms. -/
theorem fold_eq_ok_iff {tokens : List Token} {forms : List Form} :
    fold [] [] 0 tokens = .ok forms ↔ tokens = spellAll forms := by
  constructor
  · intro h
    simpa [readSoFar] using (spellAll_of_fold h).symm
  · rintro rfl
    simpa [fold] using fold_spellAll forms [] [] 0 []

/-- The lists that tokens spell are the lists among the forms that they spell. -/
theorem ofTokens_eq_ok_iff {tokens : List Token} {forms : List Form} :
    ofTokens tokens = .ok forms ↔ ∃ all, tokens = spellAll all ∧ forms = all.filter isList := by
  unfold ofTokens
  cases h : fold [] [] 0 tokens with
  | error e =>
    have hnone (all : List Form) : tokens ≠ spellAll all := by
      intro hall
      rw [fold_eq_ok_iff.mpr hall] at h
      cases h
    simp [Except.map, hnone]
  | ok all =>
    have hall := fold_eq_ok_iff.mp h
    constructor
    · intro heq
      exact ⟨all, hall, (Except.ok.inj heq).symm⟩
    · rintro ⟨other, hother, rfl⟩
      rw [fold_eq_ok_iff.mpr hother] at h
      cases h
      rfl

/-- A list is a form that is kept by the reader. -/
@[simp] theorem isList_list (entries : List Form) : (Form.list entries).isList = true := rfl

end PlanDiagram.Form
