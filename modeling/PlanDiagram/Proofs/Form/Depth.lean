import PlanDiagram.Proofs.Form.Balance

/-!
# Where parentheses fail

The depth of a place among tokens is known from counts alone: no list is open there if the tokens
before it close as many lists as they open. A closing parenthesis at such a place is stray. Main
statement: the reader reports the first stray parenthesis and nothing else by its place, it reports
open lists without a place if there is no stray one and more is opened than closed, and all other
tokens it reads as lists, whose spelling is that of the tokens without the words outside of lists.
The statements count from `depth` lists that are open before the tokens, so that they can be proved
token by token.
-/

namespace PlanDiagram.Token

/-- With `depth` lists open at the start, none is open at a place. -/
def Outside (depth : Nat) (tokens : List Token) (place : Nat) : Prop :=
  (tokens.take place).count .closing = depth + (tokens.take place).count .opening

instance (depth : Nat) (tokens : List Token) (place : Nat) :
    Decidable (Outside depth tokens place) :=
  inferInstanceAs (Decidable (_ = _))

/-- At a place a list is closed, and none is open. -/
def Stray (depth : Nat) (tokens : List Token) (place : Nat) : Prop :=
  tokens[place]? = some .closing ∧ Outside depth tokens place

/-- A place is the first one at which a list is closed and none is open. -/
def FirstStray (depth : Nat) (tokens : List Token) (place : Nat) : Prop :=
  Stray depth tokens place ∧ ∀ earlier < place, ¬ Stray depth tokens earlier

/-- Tells whether a token is a word. -/
def isWord : Token → Bool
  | .word _ => true
  | _ => false

/-- The tokens without the words outside of lists. -/
def enclosed (depth : Nat) (tokens : List Token) : List Token :=
  (tokens.zipIdx.filter fun (token, place) =>
    !(token.isWord && decide (Outside depth tokens place))).map Prod.fst

variable {depth : Nat} {rest : List Token}

/-- At the start as many lists are open as were before. -/
theorem outside_zero {tokens : List Token} : Outside depth tokens 0 ↔ depth = 0 := by
  simp [Outside, eq_comm]

/-- Behind an opening parenthesis one more list is open. -/
theorem outside_opening {place : Nat} :
    Outside depth (.opening :: rest) (place + 1) ↔ Outside (depth + 1) rest place := by
  simp only [Outside, List.take_succ_cons, List.count_cons_self,
    List.count_cons_of_ne (by decide : Token.opening ≠ .closing)]
  omega

/-- Behind a word the same lists are open. -/
theorem outside_word {text : String} {place : Nat} :
    Outside depth (.word text :: rest) (place + 1) ↔ Outside depth rest place := by
  simp only [Outside, List.take_succ_cons,
    List.count_cons_of_ne (by simp : Token.word text ≠ .closing),
    List.count_cons_of_ne (by simp : Token.word text ≠ .opening)]

/-- Behind a closing parenthesis one list less is open. -/
theorem outside_closing {place : Nat} :
    Outside (depth + 1) (.closing :: rest) (place + 1) ↔ Outside depth rest place := by
  simp only [Outside, List.take_succ_cons, List.count_cons_self,
    List.count_cons_of_ne (by decide : Token.closing ≠ .opening)]
  omega

/-- If the lists that are open behind the first token are known and this token is not stray, then
the stray places are those behind it. -/
theorem stray_cons {less : Nat} {token : Token}
    (hstart : ¬ Stray depth (token :: rest) 0)
    (hnext : ∀ place, Outside depth (token :: rest) (place + 1) ↔ Outside less rest place)
    {place : Nat} :
    Stray depth (token :: rest) place ↔ ∃ behind, place = behind + 1 ∧ Stray less rest behind := by
  cases place with
  | zero => simpa using hstart
  | succ behind => simp [Stray, hnext]

/-- If the lists that are open behind the first token are known and this token is not stray, then
nothing is stray exactly if nothing is behind it. -/
theorem forall_not_stray_cons {less : Nat} {token : Token}
    (hstart : ¬ Stray depth (token :: rest) 0)
    (hnext : ∀ place, Outside depth (token :: rest) (place + 1) ↔ Outside less rest place) :
    (∀ place, ¬ Stray depth (token :: rest) place) ↔ ∀ place, ¬ Stray less rest place := by
  simp only [stray_cons hstart hnext]
  constructor
  · intro h place hstray
    exact h (place + 1) ⟨place, rfl, hstray⟩
  · rintro h - ⟨place, rfl, hstray⟩
    exact h place hstray

/-- If the lists that are open behind the first token are known and this token is not stray, then
the first stray place is the first one behind it. -/
theorem firstStray_cons {less : Nat} {token : Token}
    (hstart : ¬ Stray depth (token :: rest) 0)
    (hnext : ∀ place, Outside depth (token :: rest) (place + 1) ↔ Outside less rest place)
    {place : Nat} :
    FirstStray depth (token :: rest) place ↔
      ∃ behind, place = behind + 1 ∧ FirstStray less rest behind := by
  simp only [FirstStray, stray_cons hstart hnext]
  constructor
  · rintro ⟨⟨behind, rfl, hstray⟩, hfirst⟩
    refine ⟨behind, rfl, hstray, fun earlier hearlier hstray' => ?_⟩
    exact hfirst (earlier + 1) (by omega) ⟨earlier, rfl, hstray'⟩
  · rintro ⟨behind, rfl, hstray, hfirst⟩
    refine ⟨⟨behind, rfl, hstray⟩, ?_⟩
    rintro earlier hearlier ⟨earlier, rfl, hstray'⟩
    exact hfirst earlier (by omega) hstray'

/-- If something is stray, then something is so first. -/
theorem exists_firstStray {tokens : List Token} {place : Nat} (h : Stray depth tokens place) :
    ∃ first, FirstStray depth tokens first := by
  induction place using Nat.strongRecOn with
  | ind place ih =>
    by_cases hearlier : ∃ earlier < place, Stray depth tokens earlier
    · obtain ⟨earlier, hlt, hstray⟩ := hearlier
      exact ih earlier hlt hstray
    · exact ⟨place, h, fun earlier hlt hstray => hearlier ⟨earlier, hlt, hstray⟩⟩

/-- Only closing parentheses are stray. -/
theorem not_stray_of_ne {token : Token} (h : token ≠ .closing) :
    ¬ Stray depth (token :: rest) 0 := by
  simp [Stray, h]

/-- Where a list is open, a closing parenthesis is not stray. -/
theorem not_stray_of_open : ¬ Stray (depth + 1) (.closing :: rest) 0 := by
  simp [Stray, outside_zero]

/-- With no list open, a closing parenthesis is stray at once. -/
theorem firstStray_closing {place : Nat} : FirstStray 0 (.closing :: rest) place ↔ place = 0 := by
  have hstray : Stray 0 (.closing :: rest) 0 := ⟨rfl, outside_zero.mpr rfl⟩
  constructor
  · rintro ⟨-, hfirst⟩
    exact Nat.eq_zero_of_not_pos fun hpos => hfirst 0 hpos hstray
  · rintro rfl
    exact ⟨hstray, by simp⟩

/-- If the lists that are open behind the first token are known, then so are the words that stand
outside of lists. -/
theorem enclosed_cons {less : Nat} {token : Token}
    (hnext : ∀ place, Outside depth (token :: rest) (place + 1) ↔ Outside less rest place) :
    enclosed depth (token :: rest) =
      (if token.isWord && depth == 0 then [] else [token]) ++ enclosed less rest := by
  have hrest : ((rest.zipIdx 1).filter fun (token', place) =>
      !(token'.isWord && decide (Outside depth (token :: rest) place))).map Prod.fst =
        enclosed less rest := by
    rw [List.zipIdx_succ, List.filter_map, List.map_map, enclosed]
    simp only [Function.comp_def, hnext]
  rw [← hrest, enclosed, List.zipIdx_cons, List.filter_cons]
  simp only [outside_zero, Nat.zero_add]
  by_cases hzero : depth = 0 <;> cases token.isWord <;> simp [hzero]

/-- An opening parenthesis is kept. -/
theorem enclosed_opening :
    enclosed depth (.opening :: rest) = .opening :: enclosed (depth + 1) rest :=
  enclosed_cons fun _ => outside_opening

/-- A closing parenthesis is kept. -/
theorem enclosed_closing :
    enclosed (depth + 1) (.closing :: rest) = .closing :: enclosed depth rest :=
  enclosed_cons fun _ => outside_closing

/-- A word in a list is kept. -/
theorem enclosed_word_inside (text : String) :
    enclosed (depth + 1) (.word text :: rest) = .word text :: enclosed (depth + 1) rest :=
  enclosed_cons fun _ => outside_word

/-- A word outside of lists is left out. -/
theorem enclosed_word_outside (text : String) :
    enclosed 0 (.word text :: rest) = enclosed 0 rest :=
  enclosed_cons fun _ => outside_word

end PlanDiagram.Token

namespace PlanDiagram.Form

open Token (Stray FirstStray enclosed)

/-- The reader reports a place exactly if it is the first stray one; places are counted from where
the reading started. -/
theorem fold_eq_unexpectedClosing_iff {outer : List (List Form)} {current : List Form}
    {position place : Nat} {tokens : List Token} :
    fold outer current position tokens = .error (.unexpectedClosing place) ↔
      ∃ behind, place = position + behind ∧ FirstStray outer.length tokens behind := by
  induction tokens generalizing outer current position with
  | nil => cases outer <;> simp [fold, FirstStray, Stray]
  | cons token rest ih =>
    have hshift {p : Nat → Prop} :
        (∃ behind, place = position + 1 + behind ∧ p behind) ↔
          ∃ behind, place = position + behind ∧ ∃ less, behind = less + 1 ∧ p less := by
      constructor
      · rintro ⟨behind, rfl, hp⟩
        exact ⟨behind + 1, by omega, behind, rfl, hp⟩
      · rintro ⟨-, rfl, behind, rfl, hp⟩
        exact ⟨behind, by omega, hp⟩
    cases token with
    | opening =>
      simp only [fold, ih, hshift, List.length_cons, Token.firstStray_cons
        (Token.not_stray_of_ne (by simp)) fun _ => Token.outside_opening]
    | word text =>
      simp only [fold, ih, hshift, Token.firstStray_cons
        (Token.not_stray_of_ne (by simp)) fun _ => Token.outside_word]
    | closing =>
      cases outer with
      | nil => simp [fold, Token.firstStray_closing, eq_comm]
      | cons enclosing outer =>
        simp only [fold, ih, hshift, List.length_cons, Token.firstStray_cons
          Token.not_stray_of_open fun _ => Token.outside_closing]

/-- The reader reports open lists exactly if no parenthesis is stray and more lists are opened than
closed. -/
theorem fold_eq_unclosed_iff {outer : List (List Form)} {current : List Form} {position : Nat}
    {tokens : List Token} :
    fold outer current position tokens = .error .unclosed ↔
      (∀ place, ¬ Stray outer.length tokens place) ∧
        tokens.count .closing < outer.length + tokens.count .opening := by
  induction tokens generalizing outer current position with
  | nil => cases outer <;> simp [fold, Stray]
  | cons token rest ih =>
    cases token with
    | opening =>
      rw [fold, ih, Token.forall_not_stray_cons (Token.not_stray_of_ne (by simp)) fun _ =>
        Token.outside_opening, List.length_cons, List.count_cons_self,
        List.count_cons_of_ne (by simp)]
      simp only [Nat.add_comm, Nat.add_left_comm]
    | word text =>
      rw [fold, ih, Token.forall_not_stray_cons (Token.not_stray_of_ne (by simp)) fun _ =>
        Token.outside_word, List.count_cons_of_ne (by simp), List.count_cons_of_ne (by simp)]
    | closing =>
      cases outer with
      | nil =>
        have hstray : Stray 0 (.closing :: rest) 0 := (Token.firstStray_closing.mpr rfl).1
        simp only [fold, List.length_nil, Except.error.injEq, reduceCtorEq, false_iff, not_and]
        exact fun h => absurd hstray (h 0)
      | cons enclosing outer =>
        rw [fold, ih, List.length_cons, Token.forall_not_stray_cons Token.not_stray_of_open fun _ =>
          Token.outside_closing, List.count_cons_self, List.count_cons_of_ne (by simp),
          Nat.add_right_comm, Nat.add_lt_add_iff_right]

mutual

/-- The spelling of a form that stands in a list is kept. -/
theorem enclosed_spell (form : Form) (depth : Nat) (rest : List Token) :
    enclosed (depth + 1) (form.spell ++ rest) = form.spell ++ enclosed (depth + 1) rest := by
  cases form with
  | atom text => exact Token.enclosed_word_inside text
  | list entries =>
    simp only [spell, List.cons_append, List.append_assoc, List.nil_append]
    rw [Token.enclosed_opening, enclosed_spellAll entries, Token.enclosed_closing]

/-- The spelling of forms that stand in a list is kept. -/
theorem enclosed_spellAll (forms : List Form) (depth : Nat) (rest : List Token) :
    enclosed (depth + 1) (spellAll forms ++ rest) =
      spellAll forms ++ enclosed (depth + 1) rest := by
  cases forms with
  | nil => rfl
  | cons form forms =>
    rw [spellAll_cons, List.append_assoc, List.append_assoc, enclosed_spell form,
      enclosed_spellAll forms]

end

/-- Of the spelling of forms outside of lists, that of the lists is kept. -/
theorem enclosed_zero_spellAll (forms : List Form) :
    enclosed 0 (spellAll forms) = spellAll (forms.filter isList) := by
  induction forms with
  | nil => rfl
  | cons form forms ih =>
    cases form with
    | atom text =>
      have houtside : enclosed 0 (.word text :: spellAll forms) = enclosed 0 (spellAll forms) :=
        Token.enclosed_word_outside text
      simpa [spell, isList, ih] using houtside
    | list entries =>
      rw [List.filter_cons_of_pos rfl, spellAll_cons, spellAll_cons, ← ih]
      simp only [spell, List.cons_append, List.append_assoc, List.nil_append]
      rw [Token.enclosed_opening, enclosed_spellAll, Token.enclosed_closing]

/-- Among the results for tokens, errors are those of the fold. -/
theorem ofTokens_eq_error_iff {tokens : List Token} {e : ReadError} :
    ofTokens tokens = .error e ↔ fold [] [] 0 tokens = .error e := by
  unfold ofTokens
  cases fold [] [] 0 tokens <;> simp [Except.map]

/-- The counts of parentheses decide what becomes of tokens. A place is reported exactly if it is
the first at which a list is closed and none is open; open lists are reported exactly if there is no
such place and more lists are opened than closed; and in all other cases, and only in these, the
tokens are read as lists, of which the spelling is that of the tokens without the words outside of
lists. -/
theorem ofTokens_by_counts (tokens : List Token) :
    (∀ place, ofTokens tokens = .error (.unexpectedClosing place) ↔ FirstStray 0 tokens place) ∧
    (ofTokens tokens = .error .unclosed ↔
      (∀ place, ¬ Stray 0 tokens place) ∧ tokens.count .closing < tokens.count .opening) ∧
    ((∃ forms, ofTokens tokens = .ok forms ∧ (∀ form ∈ forms, form.isList = true) ∧
        spellAll forms = enclosed 0 tokens) ↔
      (∀ place, ¬ Stray 0 tokens place) ∧ tokens.count .opening ≤ tokens.count .closing) := by
  have hplace (place : Nat) :
      ofTokens tokens = .error (.unexpectedClosing place) ↔ FirstStray 0 tokens place := by
    rw [ofTokens_eq_error_iff, fold_eq_unexpectedClosing_iff]
    simp
  have hunclosed : ofTokens tokens = .error .unclosed ↔
      (∀ place, ¬ Stray 0 tokens place) ∧ tokens.count .closing < tokens.count .opening := by
    rw [ofTokens_eq_error_iff, fold_eq_unclosed_iff, List.length_nil, Nat.zero_add]
  refine ⟨hplace, hunclosed, ?_, ?_⟩
  · rintro ⟨forms, hread, -⟩
    have hstray : ∀ place, ¬ Stray 0 tokens place := by
      intro place hplace'
      obtain ⟨first, hfirst⟩ := Token.exists_firstStray hplace'
      rw [(hplace first).mpr hfirst] at hread
      cases hread
    refine ⟨hstray, Nat.not_lt.mp fun hcount => ?_⟩
    rw [hunclosed.mpr ⟨hstray, hcount⟩] at hread
    cases hread
  · rintro ⟨hstray, hcount⟩
    cases hread : ofTokens tokens with
    | error e =>
      cases (ofTokens_eq_error hread).1 with
      | unexpectedClosing place => exact absurd ((hplace place).mp hread).1 (hstray place)
      | unclosed => exact absurd (hunclosed.mp hread).2 (Nat.not_lt.mpr hcount)
    | ok forms =>
      obtain ⟨all, rfl, rfl⟩ := ofTokens_eq_ok_iff.mp hread
      exact ⟨_, rfl, fun form hform => (List.mem_filter.mp hform).2,
        (enclosed_zero_spellAll all).symm⟩

/-- A word in front of a list is left out, and one in the list is kept. -/
example : enclosed 0 [.word "a", .opening, .word "b", .closing] =
    [.opening, .word "b", .closing] := by decide

end PlanDiagram.Form
