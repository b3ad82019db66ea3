import PlanDiagram.Proofs.Form.Balance
import PlanDiagram.Proofs.Form.RoundTrip

/-!
# Forms of a text that follows another

A text that can be read is followed by a line feed and a second text. The line feed ends a comment
that was left open, so the tokens of the whole are those of the one followed by those of the other.
The forms are then joined, and an error in the second text stays, only that its place is counted
from the start of the whole.
-/

namespace PlanDiagram.Token

/-- A line feed ends a comment: what follows it is stripped on its own. -/
theorem stripFrom_append_newline (inside : Bool) (front back : List Char) :
    stripFrom inside (front ++ '\n' :: back) =
      stripFrom inside front ++ '\n' :: stripComments back := by
  induction front generalizing inside with
  | nil => cases inside <;> rfl
  | cons c front ih =>
    simp only [List.cons_append, stripFrom]
    split
    · split
      · rw [ih, List.cons_append]
      · exact ih true
    · split
      · exact ih true
      · rw [ih, List.cons_append]

/-- The tokens of two texts joined by a line feed, both with comments. -/
theorem ofString_newline (s t : String) :
    ofString (s ++ "\n" ++ t) = ofString s ++ ofString t := by
  have hlist : (s ++ "\n" ++ t).toList = s.toList ++ '\n' :: t.toList := by simp
  rw [ofString, hlist, stripComments, stripFrom_append_newline]
  exact scan_append_blank [] _ _ Text.isBlank_newline

end PlanDiagram.Token

namespace PlanDiagram.Form

/-- The same error in a text that stands behind a number of tokens. -/
def ReadError.shift (count : Nat) : ReadError → ReadError
  | .unexpectedClosing position => .unexpectedClosing (position + count)
  | e => e

/-- Whether reading fails, and where, depends on the number of open lists only; the place of an
error is counted from where the reading started. -/
theorem fold_shift {outer outer' : List (List Form)} {current current' : List Form}
    {position : Nat} {tokens : List Token} {e : ReadError} (count : Nat)
    (hdepth : outer'.length = outer.length) (h : fold outer current position tokens = .error e) :
    fold outer' current' (position + count) tokens = .error (e.shift count) := by
  induction tokens generalizing outer outer' current current' position with
  | nil =>
    cases outer with
    | nil => simp [fold] at h
    | cons enclosing outer =>
      obtain ⟨enclosing', outer', rfl⟩ := List.exists_cons_of_length_eq_add_one hdepth
      simp only [fold, List.isEmpty_cons, Bool.false_eq_true, if_false, Except.error.injEq] at h ⊢
      rw [← h]
      rfl
  | cons token rest ih =>
    cases token with
    | opening =>
      have hrest : fold (current' :: outer') [] (position + 1 + count) rest =
          .error (e.shift count) := ih (by simpa using hdepth) h
      rw [Nat.add_right_comm] at hrest
      exact hrest
    | word text =>
      have hrest : fold outer' (.atom text :: current') (position + 1 + count) rest =
          .error (e.shift count) := ih hdepth h
      rw [Nat.add_right_comm] at hrest
      exact hrest
    | closing =>
      cases outer with
      | nil =>
        obtain rfl := List.length_eq_zero_iff.mp hdepth
        simp only [fold, Except.error.injEq] at h ⊢
        rw [← h]
        rfl
      | cons enclosing outer =>
        obtain ⟨enclosing', outer', rfl⟩ := List.exists_cons_of_length_eq_add_one hdepth
        have hrest :
            fold outer' (.list current'.reverse :: enclosing') (position + 1 + count) rest =
              .error (e.shift count) := ih (by simpa using hdepth) h
        rw [Nat.add_right_comm] at hrest
        exact hrest

/-- Tokens behind the spelling of forms are read on their own. -/
theorem ofTokens_spellAll_append (forms : List Form) (tokens : List Token) :
    ofTokens (spellAll forms ++ tokens) =
      match ofTokens tokens with
      | .ok others => .ok (forms.filter isList ++ others)
      | .error e => .error (e.shift (spellAll forms).length) := by
  cases h : ofTokens tokens with
  | ok others =>
    obtain ⟨all, rfl, rfl⟩ := ofTokens_eq_ok_iff.mp h
    rw [← spellAll_append, ofTokens_eq_ok_iff]
    exact ⟨forms ++ all, rfl, (List.filter_append ..).symm⟩
  | error e =>
    unfold ofTokens at h ⊢
    rw [fold_spellAll]
    cases hfold : fold [] [] 0 tokens with
    | ok all => simp [hfold, Except.map] at h
    | error e' =>
      rw [hfold] at h
      obtain rfl : e' = e := Except.error.inj h
      rw [fold_shift (spellAll forms).length (by rfl) hfold]
      rfl

/-- A text behind one that can be read, on a line of its own: the lists are joined, a blank second
text adds nothing, and another error stays with its place shifted. -/
theorem readAll_newline {s : String} {forms : List Form} (h : readAll s = .ok forms) (t : String) :
    readAll (s ++ "\n" ++ t) =
      match readAll t with
      | .ok others => .ok (forms ++ others)
      | .error .empty => .ok forms
      | .error e => .error (e.shift (Token.ofString s).length) := by
  obtain ⟨hne, all, hspell, rfl⟩ := readAll_eq_ok_iff.mp h
  rw [readAll_eq, Token.ofString_newline, if_neg (by simp [hne]), hspell, ofTokens_spellAll_append,
    readAll_eq t]
  by_cases hblank : Token.ofString t = []
  · have hnone : ofTokens [] = .ok [] := rfl
    simp [hblank, hnone]
  · rw [if_neg hblank]
    cases hread : ofTokens (Token.ofString t) with
    | ok others => rfl
    | error e =>
      obtain ⟨hunbalanced, -⟩ := ofTokens_eq_error hread
      cases hunbalanced <;> rfl

end PlanDiagram.Form
