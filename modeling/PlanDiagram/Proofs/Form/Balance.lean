import PlanDiagram.Proofs.Form.Spelling

/-!
# Balanced parentheses

Tokens are balanced if no front part of them closes more lists than it opens, and all of them
together close as many as they open. This is said by counting, without reading any form. Main
statement: the tokens that spell forms are the balanced ones, and whatever else the reader refuses
is refused as unbalanced.
-/

namespace PlanDiagram.Token

/-- With `depth` lists open, no front part closes more lists than are open, and in the end none is
open. -/
def BalancedFrom (depth : Nat) (tokens : List Token) : Prop :=
  (∀ front, front <+: tokens → front.count .closing ≤ depth + front.count .opening) ∧
    tokens.count .closing = depth + tokens.count .opening

/-- No front part of the tokens closes more lists than it opens, and in all as many are closed as
are opened. -/
def Balanced (tokens : List Token) : Prop :=
  (∀ front, front <+: tokens → front.count .closing ≤ front.count .opening) ∧
    tokens.count .closing = tokens.count .opening

/-- Tokens are balanced if they are so with no list open. -/
theorem balancedFrom_zero {tokens : List Token} : BalancedFrom 0 tokens ↔ Balanced tokens := by
  simp [BalancedFrom, Balanced]

/-- With no token left, no list may be open. -/
theorem balancedFrom_nil {depth : Nat} : BalancedFrom depth [] ↔ depth = 0 := by
  simp [BalancedFrom, eq_comm]

/-- The front parts of a list of tokens are the empty one and those that start with its head. -/
theorem forall_front_cons {p : List Token → Prop} {token : Token} {rest : List Token} :
    (∀ front, front <+: token :: rest → p front) ↔
      p [] ∧ ∀ front, front <+: rest → p (token :: front) := by
  constructor
  · intro h
    exact ⟨h [] List.nil_prefix, fun front hfront => h _ (List.cons_prefix_cons.mpr ⟨rfl, hfront⟩)⟩
  · rintro ⟨hnil, hcons⟩ front hfront
    rcases List.prefix_cons_iff.mp hfront with rfl | ⟨tail, rfl, htail⟩
    · exact hnil
    · exact hcons tail htail

/-- An opening parenthesis opens one more list. -/
theorem balancedFrom_opening {depth : Nat} {rest : List Token} :
    BalancedFrom depth (.opening :: rest) ↔ BalancedFrom (depth + 1) rest := by
  simp only [BalancedFrom, forall_front_cons, List.count_cons_self, List.count_nil,
    List.count_cons_of_ne (by decide : Token.opening ≠ .closing)]
  simp only [Nat.add_comm, Nat.add_left_comm, Nat.zero_le, true_and]

/-- A word leaves all lists open. -/
theorem balancedFrom_word {depth : Nat} {text : String} {rest : List Token} :
    BalancedFrom depth (.word text :: rest) ↔ BalancedFrom depth rest := by
  simp only [BalancedFrom, forall_front_cons, List.count_nil,
    List.count_cons_of_ne (by simp : Token.word text ≠ .closing),
    List.count_cons_of_ne (by simp : Token.word text ≠ .opening)]
  simp

/-- A closing parenthesis closes one of the open lists. -/
theorem balancedFrom_closing {depth : Nat} {rest : List Token} :
    BalancedFrom depth (.closing :: rest) ↔ ∃ less, depth = less + 1 ∧ BalancedFrom less rest := by
  simp only [BalancedFrom, forall_front_cons, List.count_cons_self, List.count_nil,
    List.count_cons_of_ne (by decide : Token.closing ≠ .opening)]
  constructor
  · rintro ⟨⟨-, hfronts⟩, htotal⟩
    have hpositive := hfronts [] List.nil_prefix
    simp only [List.count_nil] at hpositive
    refine ⟨depth - 1, by omega, fun front hfront => ?_, by omega⟩
    have := hfronts front hfront
    omega
  · rintro ⟨less, rfl, hfronts, htotal⟩
    refine ⟨⟨by omega, fun front hfront => ?_⟩, by omega⟩
    have := hfronts front hfront
    omega

end PlanDiagram.Token

namespace PlanDiagram.Form

open Token (Balanced BalancedFrom)

/-- An error about parentheses. -/
inductive ReadError.IsUnbalanced : ReadError → Prop
  | unexpectedClosing (position : Nat) : IsUnbalanced (.unexpectedClosing position)
  | unclosed : IsUnbalanced .unclosed

/-- Tokens are read to the end exactly if they are balanced. -/
theorem exists_fold_eq_ok_iff {outer : List (List Form)} {current : List Form} {position : Nat}
    {tokens : List Token} :
    (∃ forms, fold outer current position tokens = .ok forms) ↔
      BalancedFrom outer.length tokens := by
  induction tokens generalizing outer current position with
  | nil =>
    rw [Token.balancedFrom_nil]
    cases outer <;> simp [fold]
  | cons token rest ih =>
    cases token with
    | opening => rw [Token.balancedFrom_opening, fold, ih, List.length_cons]
    | word text => rw [Token.balancedFrom_word, fold, ih]
    | closing =>
      rw [Token.balancedFrom_closing]
      cases outer with
      | nil => simp [fold]
      | cons enclosing outer =>
        rw [fold, ih, List.length_cons]
        simp

/-- The only errors among tokens are about parentheses. -/
theorem isUnbalanced_of_fold {outer : List (List Form)} {current : List Form} {position : Nat}
    {tokens : List Token} {e : ReadError} (h : fold outer current position tokens = .error e) :
    e.IsUnbalanced := by
  induction tokens generalizing outer current position with
  | nil =>
    cases outer with
    | nil => simp [fold] at h
    | cons enclosing outer =>
      obtain rfl : .unclosed = e := Except.error.inj h
      exact .unclosed
  | cons token rest ih =>
    cases token with
    | opening => exact ih h
    | word text => exact ih h
    | closing =>
      cases outer with
      | nil =>
        obtain rfl : .unexpectedClosing position = e := Except.error.inj h
        exact .unexpectedClosing position
      | cons enclosing outer => exact ih h

/-- The spellings of forms are the balanced lists of tokens. -/
theorem exists_spellAll_iff {tokens : List Token} :
    (∃ forms, tokens = spellAll forms) ↔ Balanced tokens := by
  have hread : (∃ forms, fold [] [] 0 tokens = .ok forms) ↔ BalancedFrom 0 tokens :=
    exists_fold_eq_ok_iff
  rw [← Token.balancedFrom_zero, ← hread]
  exact exists_congr fun forms => fold_eq_ok_iff.symm

/-- Tokens are refused exactly if they are unbalanced, with an error about parentheses. -/
theorem ofTokens_eq_error {tokens : List Token} {e : ReadError} (h : ofTokens tokens = .error e) :
    e.IsUnbalanced ∧ ¬ Balanced tokens := by
  unfold ofTokens at h
  cases hfold : fold [] [] 0 tokens with
  | ok forms => simp [hfold, Except.map] at h
  | error e' =>
    rw [hfold] at h
    obtain rfl : e' = e := Except.error.inj h
    refine ⟨isUnbalanced_of_fold hfold, ?_⟩
    rw [← exists_spellAll_iff]
    rintro ⟨forms, hforms⟩
    rw [fold_eq_ok_iff.mpr hforms] at hfold
    cases hfold

end PlanDiagram.Form
