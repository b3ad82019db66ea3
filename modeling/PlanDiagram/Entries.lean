/-!
# Ordered entries

A table from keys to values that keeps the order in which keys were first given. Main statements:
what is put under a key is found there, and what is under other keys stays.
-/

namespace PlanDiagram.Entries

variable {κ β : Type} [BEq κ]

/-- Puts a value under a key. A key that is there keeps its place, a new one comes last. -/
def put (key : κ) (value : β) : List (κ × β) → List (κ × β)
  | [] => [(key, value)]
  | (other, old) :: rest =>
    if other == key then (key, value) :: rest else (other, old) :: put key value rest

/-- Puts several values under their keys, one after the other. -/
def putAll (entries : List (κ × β)) (news : List (κ × β)) : List (κ × β) :=
  news.foldl (fun entries entry => put entry.1 entry.2 entries) entries

/-- What is put under a key is found there. -/
theorem lookup_put [LawfulBEq κ] (key : κ) (value : β) (entries : List (κ × β)) :
    (put key value entries).lookup key = some value := by
  induction entries with
  | nil => simp [put]
  | cons entry rest ih =>
    obtain ⟨other, old⟩ := entry
    by_cases h : other = key
    · simp [put, h]
    · have hne : (key == other) = false := by simp [Ne.symm h]
      simp [put, h, List.lookup_cons, hne, ih]

/-- What is under another key stays. -/
theorem lookup_put_of_ne [LawfulBEq κ] {key other : κ} (value : β) (entries : List (κ × β))
    (h : other ≠ key) : (put key value entries).lookup other = entries.lookup other := by
  induction entries with
  | nil =>
    have hne : (other == key) = false := by simp [h]
    simp [put, List.lookup_cons, hne]
  | cons entry rest ih =>
    obtain ⟨first, old⟩ := entry
    by_cases hfirst : first = key
    · subst hfirst
      have hne : (other == first) = false := by simp [h]
      simp [put, List.lookup_cons, hne]
    · simp only [put, beq_iff_eq, hfirst, if_false, List.lookup_cons]
      rw [ih]

end PlanDiagram.Entries
