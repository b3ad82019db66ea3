import PlanDiagram.Proofs.Failure
import Mathlib.Data.List.Perm.Basic

/-!
# Orders that keep the buckets

The elements of a list fall into buckets, and the order inside each bucket is kept while elements of
different buckets may change places. Main statements: such an order is a permutation, what is
collected from one bucket does not depend on it, and a computation that respects the buckets
succeeds in one order exactly if it does in the other, with results that are ordered alike.
-/

namespace PlanDiagram

variable {ε α β γ κ : Type} [DecidableEq κ]

/-- Two lists have the same elements in each bucket and in the same order there. -/
def Reordered (bucket : α → κ) (xs ys : List α) : Prop :=
  ∀ b, xs.filter (fun x => bucket x = b) = ys.filter (fun y => bucket y = b)

namespace Reordered

variable {bucket : α → κ} {xs ys : List α}

/-- Orders that keep the buckets can be taken back. -/
theorem symm (h : Reordered bucket xs ys) : Reordered bucket ys xs :=
  fun b => (h b).symm

/-- An order that keeps the buckets is a permutation. -/
theorem perm (h : Reordered bucket xs ys) : xs.Perm ys := by
  classical
  rw [List.perm_iff_count]
  intro a
  have hcount (zs : List α) :
      (zs.filter fun z => bucket z = bucket a).count a = zs.count a :=
    List.count_filter (by simp)
  rw [← hcount xs, h, hcount]

/-- The elements outside of one bucket keep the buckets as well. -/
theorem filter (h : Reordered bucket xs ys) (p : κ → Bool) :
    Reordered bucket (xs.filter fun x => p (bucket x)) (ys.filter fun y => p (bucket y)) := by
  intro b
  have hcomm (zs : List α) :
      (zs.filter fun z => p (bucket z)).filter (fun z => bucket z = b) =
        (zs.filter fun z => bucket z = b).filter fun z => p (bucket z) := by
    rw [List.filter_filter, List.filter_filter]
    congr 1
    funext z
    apply Bool.and_comm
  rw [hcomm, hcomm, h]

/-- The images of elements are ordered like the elements. -/
theorem map {f : α → β} {bucket' : β → κ} (h : Reordered (fun x => bucket' (f x)) xs ys) :
    Reordered bucket' (xs.map f) (ys.map f) := by
  intro b
  rw [List.filter_map, List.filter_map]
  exact congrArg (List.map f) (h b)

/-- A permutation keeps the buckets if all but one of them have at most one element, and that one is
kept. -/
theorem of_perm (h : xs.Perm ys) (b : κ)
    (hb : xs.filter (fun x => bucket x = b) = ys.filter (fun y => bucket y = b))
    (hone : ∀ b' ≠ b, (xs.filter fun x => bucket x = b').length ≤ 1) :
    Reordered bucket xs ys := by
  intro b'
  by_cases hb' : b' = b
  · rw [hb', hb]
  · have hperm := h.filter fun x => decide (bucket x = b')
    match hxs : xs.filter fun x => bucket x = b' with
    | [] =>
      rw [hxs] at hperm
      exact hperm.nil_eq
    | [x] =>
      rw [hxs] at hperm
      exact hperm.singleton_eq
    | x :: y :: rest =>
      have hlength := hone b' hb'
      rw [hxs] at hlength
      simp at hlength

/-- What only one bucket contributes to is collected from that bucket. -/
theorem flatMap_filter (g : α → List γ) (b : κ) (hg : ∀ x, bucket x ≠ b → g x = [])
    (zs : List α) : (zs.filter fun z => bucket z = b).flatMap g = zs.flatMap g := by
  induction zs with
  | nil => rfl
  | cons z zs ih =>
    by_cases hz : bucket z = b
    · rw [List.filter_cons_of_pos (by simpa using hz), List.flatMap_cons, List.flatMap_cons, ih]
    · rw [List.filter_cons_of_neg (by simpa using hz), List.flatMap_cons, ih, hg z hz]
      rfl

/-- What is collected from one bucket does not depend on the order. -/
theorem flatMap_eq (h : Reordered bucket xs ys) {g : α → List γ} (b : κ)
    (hg : ∀ x, bucket x ≠ b → g x = []) : xs.flatMap g = ys.flatMap g := by
  rw [← flatMap_filter g b hg xs, h, flatMap_filter g b hg]

/-- What is picked from one bucket does not depend on the order. -/
theorem filterMap_eq (h : Reordered bucket xs ys) {g : α → Option γ} (b : κ)
    (hg : ∀ x, bucket x ≠ b → g x = none) : xs.filterMap g = ys.filterMap g := by
  rw [List.filterMap_eq_flatMap_toList, List.filterMap_eq_flatMap_toList]
  apply h.flatMap_eq b
  intro x hx
  rw [hg x hx]
  rfl

end Reordered

/-- A computation that respects the buckets computes each bucket from the one it comes from. -/
theorem mapM_filter_bucket {f : α → Except ε β} {bucket : α → κ} {bucket' : β → κ}
    {xs : List α} {ps : List β} (hf : ∀ x ∈ xs, ∀ p, f x = .ok p → bucket' p = bucket x)
    (h : xs.mapM f = .ok ps) (b : κ) :
    (xs.filter fun x => bucket x = b).mapM f = .ok (ps.filter fun p => bucket' p = b) := by
  rw [mapM_eq_ok_iff] at h ⊢
  induction h with
  | nil => exact .nil
  | @cons x p xs ps hp _ ih =>
    obtain ⟨hx, hxs⟩ := List.forall_mem_cons.mp hf
    have hbucket := hx p hp
    by_cases hb : bucket x = b
    · rw [List.filter_cons_of_pos (by simpa using hb),
        List.filter_cons_of_pos (by simpa [hbucket] using hb)]
      exact .cons hp (ih hxs)
    · rw [List.filter_cons_of_neg (by simpa using hb),
        List.filter_cons_of_neg (by simpa [hbucket] using hb)]
      exact ih hxs

/-- A computation over a list succeeds if it does so for each element. -/
theorem exists_mapM_of_forall {f : α → Except ε β} {xs : List α}
    (h : ∀ x ∈ xs, ∃ p, f x = .ok p) : ∃ ps, xs.mapM f = .ok ps := by
  induction xs with
  | nil => exact ⟨[], rfl⟩
  | cons x xs ih =>
    obtain ⟨⟨p, hp⟩, hxs⟩ := List.forall_mem_cons.mp h
    obtain ⟨ps, hps⟩ := ih hxs
    exact ⟨p :: ps, mapM_eq_ok_iff.mpr (.cons hp (mapM_eq_ok_iff.mp hps))⟩

/-- A computation that respects the buckets succeeds in any order that keeps them, and its results
are ordered alike. -/
theorem Reordered.mapM {f : α → Except ε β} {bucket : α → κ} {bucket' : β → κ} {xs ys : List α}
    {ps : List β} (h : Reordered bucket xs ys)
    (hf : ∀ x ∈ xs, ∀ p, f x = .ok p → bucket' p = bucket x) (hps : xs.mapM f = .ok ps) :
    ∃ qs, ys.mapM f = .ok qs ∧ Reordered bucket' ps qs := by
  have hmem (y : α) : y ∈ ys → y ∈ xs := h.perm.mem_iff.mpr
  have hsome : ∀ y ∈ ys, ∃ q, f y = .ok q := by
    intro y hy
    obtain ⟨p, -, hp⟩ := exists_of_mem_right (mapM_eq_ok_iff.mp hps).flip (hmem y hy)
    exact ⟨p, hp⟩
  obtain ⟨qs, hqs⟩ := exists_mapM_of_forall hsome
  refine ⟨qs, hqs, ?_⟩
  intro b
  have hp := mapM_filter_bucket hf hps b
  have hq := mapM_filter_bucket (fun y hy => hf y (hmem y hy)) hqs b
  rw [h b, hq] at hp
  exact (Except.ok.inj hp).symm

end PlanDiagram
