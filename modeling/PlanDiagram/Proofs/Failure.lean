import Mathlib.Data.List.Forall2

/-!
# Computations that may fail

How a computation ends that is put together from others: it succeeds if all of them do, and it fails
with the first failure. A computation over a list is characterised by what happens to each element.
-/

namespace PlanDiagram

variable {ε α β : Type}

/-- A computation that only gives a result succeeds with it. -/
theorem pure_eq_ok_iff {a b : α} : (pure a : Except ε α) = .ok b ↔ a = b := by
  change Except.ok a = .ok b ↔ a = b
  rw [Except.ok.injEq]

/-- A computation goes on with a result that is there. -/
theorem ok_bind (a : α) (f : α → Except ε β) : (Except.ok a >>= f) = f a := rfl

/-- Two computations in turn succeed if the first does and the second does with its result. -/
theorem bind_eq_ok_iff {x : Except ε α} {f : α → Except ε β} {b : β} :
    x >>= f = .ok b ↔ ∃ a, x = .ok a ∧ f a = .ok b := by
  cases x <;> simp [bind, Except.bind]

/-- Two computations in turn fail if the first does or if the second does with its result. -/
theorem bind_eq_error_iff {x : Except ε α} {f : α → Except ε β} {e : ε} :
    x >>= f = .error e ↔ x = .error e ∨ ∃ a, x = .ok a ∧ f a = .error e := by
  cases x <;> simp [bind, Except.bind]

/-- A computation that is known not to fail has a result. -/
theorem exists_of_isOk {x : Except ε α} (h : x.isOk = true) : ∃ a, x = .ok a := by
  cases x with
  | error e => simp [Except.isOk, Except.toBool] at h
  | ok a => exact ⟨a, rfl⟩

/-- A computation with a result that passes a test has such a result. -/
theorem exists_of_any_toOption {x : Except ε α} {p : α → Bool} (h : x.toOption.any p = true) :
    ∃ a, x = .ok a ∧ p a = true := by
  cases x with
  | error e => cases h
  | ok a => exact ⟨a, rfl, h⟩

/-- A result that is converted is missing exactly for the failures of the computation. -/
theorem map_eq_error_iff {x : Except ε α} {f : α → β} {e : ε} :
    x.map f = .error e ↔ x = .error e := by
  cases x <;> simp [Except.map]

/-- A result that is converted comes from a result. -/
theorem map_eq_ok_iff {x : Except ε α} {f : α → β} {b : β} :
    x.map f = .ok b ↔ ∃ a, x = .ok a ∧ f a = b := by
  cases x <;> simp [Except.map]

/-- A failure that is converted plays no part in a success. -/
theorem mapError_eq_ok_iff {ε' : Type} {x : Except ε α} {f : ε → ε'} {a : α} :
    x.mapError f = .ok a ↔ x = .ok a := by
  cases x <;> simp [Except.mapError]

/-- A computation over a list succeeds if it does so for each element. -/
theorem mapM_eq_ok_iff {f : α → Except ε β} {as : List α} {bs : List β} :
    as.mapM f = .ok bs ↔ List.Forall₂ (fun a b => f a = .ok b) as bs := by
  induction as generalizing bs with
  | nil =>
    constructor
    · intro h
      cases h
      exact .nil
    · intro h
      cases h
      rfl
  | cons a as ih =>
    rw [List.mapM_cons, bind_eq_ok_iff]
    constructor
    · rintro ⟨b, hb, h⟩
      obtain ⟨rest, hrest, h⟩ := bind_eq_ok_iff.mp h
      cases h
      exact .cons hb (ih.mp hrest)
    · intro h
      cases h with
      | cons hb hrest => exact ⟨_, hb, bind_eq_ok_iff.mpr ⟨_, ih.mpr hrest, rfl⟩⟩

/-- What stands in the second of two related lists is related to something in the first. -/
theorem exists_of_mem_right {γ : Type} {R : α → γ → Prop} {as : List α} {cs : List γ}
    (h : List.Forall₂ R as cs) {c : γ} (hc : c ∈ cs) : ∃ a ∈ as, R a c := by
  induction h with
  | nil => cases hc
  | @cons a b as cs hab _ ih =>
    rcases List.mem_cons.mp hc with rfl | hc
    · exact ⟨a, List.mem_cons_self, hab⟩
    · obtain ⟨a', ha', hR⟩ := ih hc
      exact ⟨a', List.mem_cons_of_mem a ha', hR⟩

/-- A computation over a list fails with the failure of the first element for which it fails. -/
theorem mapM_eq_error_iff {f : α → Except ε β} {as : List α} {e : ε} :
    as.mapM f = .error e ↔
      ∃ front a back, as = front ++ a :: back ∧ (∀ a' ∈ front, ∃ b, f a' = .ok b) ∧
        f a = .error e := by
  induction as with
  | nil =>
    constructor
    · intro h
      cases h
    · rintro ⟨front, a, back, h, -⟩
      simp at h
  | cons a as ih =>
    rw [List.mapM_cons, bind_eq_error_iff]
    constructor
    · rintro (h | ⟨b, hb, h⟩)
      · exact ⟨[], a, as, rfl, by simp, h⟩
      · rcases bind_eq_error_iff.mp h with hrest | ⟨rest, -, h⟩
        · obtain ⟨front, a', back, rfl, hfront, ha'⟩ := ih.mp hrest
          exact ⟨a :: front, a', back, rfl, List.forall_mem_cons.mpr ⟨⟨b, hb⟩, hfront⟩, ha'⟩
        · cases h
    · rintro ⟨front, a', back, h, hfront, ha'⟩
      cases front with
      | nil =>
        simp only [List.nil_append, List.cons.injEq] at h
        obtain ⟨rfl, rfl⟩ := h
        exact .inl ha'
      | cons first front =>
        simp only [List.cons_append, List.cons.injEq] at h
        obtain ⟨rfl, rfl⟩ := h
        obtain ⟨⟨b, hb⟩, hfront⟩ := List.forall_mem_cons.mp hfront
        have hrest := ih.mpr ⟨front, a', back, rfl, hfront, ha'⟩
        exact .inr ⟨b, hb, bind_eq_error_iff.mpr (.inl hrest)⟩

/-- A result that is converted, as far as there is one. -/
theorem toOption_map (x : Except ε α) (f : α → β) :
    (x.map f).toOption = x.toOption.map f := by
  cases x <;> rfl

/-- What follows a computation depends only on its result. -/
theorem toOption_bind_congr {x y : Except ε α} {f g : α → Except ε β}
    (h : x.toOption = y.toOption) (hnext : ∀ a, x = .ok a → (f a).toOption = (g a).toOption) :
    (x >>= f).toOption = (y >>= g).toOption := by
  cases x <;> cases y <;> cases h
  · rfl
  · exact hnext _ rfl

/-- Two computations over lists give the same results if they do so element by element. -/
theorem toOption_mapM_congr {f : α → Except ε β} {R : α → α → Prop}
    {as bs : List α} (h : List.Forall₂ R as bs)
    (hf : ∀ a ∈ as, ∀ b, R a b → (f a).toOption = (f b).toOption) :
    (as.mapM f).toOption = (bs.mapM f).toOption := by
  induction h with
  | nil => rfl
  | cons hab _ ih =>
    obtain ⟨ha, has⟩ := List.forall_mem_cons.mp hf
    rw [List.mapM_cons, List.mapM_cons]
    exact toOption_bind_congr (ha _ hab) fun _ _ => toOption_bind_congr (ih has) fun _ _ => rfl

/-- A computation fails, if at all, in an expected way. -/
def FailsOnly (x : Except ε α) (expected : ε → Prop) : Prop :=
  ∀ e, x = .error e → expected e

namespace FailsOnly

variable {expected : ε → Prop}

/-- A result is no failure. -/
theorem ok (a : α) : FailsOnly (.ok a) expected :=
  fun e he => by cases he

/-- A computation that only gives a result does not fail. -/
theorem pure (a : α) : FailsOnly (Pure.pure a : Except ε α) expected :=
  ok a

/-- An expected failure. -/
theorem error {e : ε} (h : expected e) : FailsOnly (.error e : Except ε α) expected := by
  intro e' he
  cases he
  exact h

/-- A failure that is expected is expected by whoever expects more. -/
theorem mono {wider : ε → Prop} {x : Except ε α} (h : FailsOnly x expected)
    (hwider : ∀ e, expected e → wider e) : FailsOnly x wider :=
  fun e he => hwider e (h e he)

/-- Two computations in turn. -/
theorem bind {x : Except ε α} {f : α → Except ε β} (hx : FailsOnly x expected)
    (hf : ∀ a, x = .ok a → FailsOnly (f a) expected) : FailsOnly (x >>= f) expected := by
  intro e he
  rcases bind_eq_error_iff.mp he with h | ⟨a, ha, h⟩
  · exact hx e h
  · exact hf a ha e h

/-- A computation whose result is converted. -/
theorem map {x : Except ε α} (hx : FailsOnly x expected) (f : α → β) :
    FailsOnly (x.map f) expected :=
  fun e he => hx e (map_eq_error_iff.mp he)

/-- A computation whose failure is converted. -/
theorem mapError {ε' : Type} {f : ε' → ε} {x : Except ε' α}
    (hx : FailsOnly x fun e => expected (f e)) : FailsOnly (x.mapError f) expected := by
  cases x with
  | ok a => exact ok a
  | error e => exact error (hx e rfl)

/-- A computation over a list. -/
theorem mapM {f : α → Except ε β} {as : List α} (h : ∀ a ∈ as, FailsOnly (f a) expected) :
    FailsOnly (as.mapM f) expected := by
  intro e he
  obtain ⟨front, a, back, rfl, -, ha⟩ := mapM_eq_error_iff.mp he
  exact h a (by simp) e ha

/-- A computation that cannot fail gives a result. -/
theorem exists_of_false {x : Except ε α} (h : FailsOnly x fun _ => False) : ∃ a, x = .ok a := by
  cases x with
  | error e => exact (h e rfl).elim
  | ok a => exact ⟨a, rfl⟩

end FailsOnly

/-- Two computations fail in the same way, or both succeed. -/
def FailsAlike {γ : Type} (x : Except ε α) (y : Except ε γ) : Prop :=
  ∀ e, x = .error e ↔ y = .error e

namespace FailsAlike

variable {γ δ : Type}

/-- Two results are no failures. -/
theorem ok (a : α) (c : γ) : FailsAlike (.ok a : Except ε α) (.ok c : Except ε γ) :=
  fun e => by simp

/-- A failure is like itself. -/
theorem error (e : ε) : FailsAlike (.error e : Except ε α) (.error e : Except ε γ) :=
  fun e' => by simp

/-- Where one computation has a result, so has the other. -/
theorem exists_ok {x : Except ε α} {y : Except ε γ} (h : FailsAlike x y) {a : α} (hx : x = .ok a) :
    ∃ c, y = .ok c := by
  cases y with
  | ok c => exact ⟨c, rfl⟩
  | error e => exact absurd (hx.symm.trans ((h e).mpr rfl)) (by simp)

/-- Two computations, each followed by another one. -/
theorem bind {x : Except ε α} {y : Except ε γ} {f : α → Except ε β} {g : γ → Except ε δ}
    (h : FailsAlike x y) (hnext : ∀ a c, x = .ok a → y = .ok c → FailsAlike (f a) (g c)) :
    FailsAlike (x >>= f) (y >>= g) := by
  cases x with
  | error e =>
    obtain rfl := (h e).mp rfl
    exact error e
  | ok a =>
    obtain ⟨c, rfl⟩ := h.exists_ok rfl
    exact hnext a c rfl rfl

/-- Two computations whose results are converted. -/
theorem map {x : Except ε α} {y : Except ε γ} (h : FailsAlike x y) (f : α → β) (g : γ → δ) :
    FailsAlike (x.map f) (y.map g) :=
  fun e => map_eq_error_iff.trans ((h e).trans map_eq_error_iff.symm)

/-- Two computations over a list that fail alike for each element. -/
theorem mapM {f : α → Except ε β} {g : α → Except ε δ} {as : List α}
    (h : ∀ a ∈ as, FailsAlike (f a) (g a)) : FailsAlike (as.mapM f) (as.mapM g) := by
  induction as with
  | nil => exact ok _ _
  | cons a as ih =>
    obtain ⟨ha, has⟩ := List.forall_mem_cons.mp h
    rw [List.mapM_cons, List.mapM_cons]
    exact ha.bind fun _ _ _ _ => (ih has).bind fun _ _ _ _ => ok _ _

end FailsAlike

end PlanDiagram
