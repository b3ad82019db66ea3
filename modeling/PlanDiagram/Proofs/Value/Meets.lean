import Mathlib.Logic.Relation
import PlanDiagram.CommandLine.Failure
import PlanDiagram.Proofs.Failure

/-!
# What is met in a value

A reader of values walks down from a value to its entries and fields, and makes numbers of what it
meets. Main statements: whatever a reader takes from a value is met in it; and a value that cannot
be used where it stands makes a fault that is reported, except for an integer beyond the doubles
where a real number is wanted, and for an infinite double where an integer is wanted.
-/

namespace PlanDiagram.Value

/-- The second value is an entry of the first or the value of one of its fields. -/
inductive Holds (v w : Value) : Prop
  | entry {ws : List Value} (h : v.entries = .ok ws) (hw : w ∈ ws)
  | field {name : String} (h : v.field? name = some w)

/-- The second value is met in walking down from the first. -/
def Meets : Value → Value → Prop :=
  Relation.ReflTransGen Holds

variable {v w : Value}

theorem Meets.refl (v : Value) : v.Meets v :=
  Relation.ReflTransGen.refl

/-- What is present is not nothing. -/
theorem ne_null_of_isPresent (h : v.isPresent = true) : v ≠ .null := by
  rintro rfl
  cases h

/-- The value of a field is met. -/
theorem meets_of_field? {name : String} (h : v.field? name = some w) : v.Meets w :=
  .single (.field h)

/-- The value of a field that is there is met. -/
theorem meets_of_field {name : String} (h : v.field name = w) (hw : w ≠ .null) : v.Meets w := by
  cases hfield : v.field? name with
  | none =>
    rw [field, hfield] at h
    exact absurd h.symm hw
  | some other =>
    rw [field, hfield] at h
    exact meets_of_field? (hfield.trans (congrArg some h))

/-- The entries of a value are met. -/
theorem meets_of_entries {ws : List Value} (h : v.entries = .ok ws) (hw : w ∈ ws) : v.Meets w :=
  .single (.entry h hw)

/-- The entries of a value, if there are any, are met. -/
theorem meets_of_entriesIfPresent {ws : List Value} (h : v.entriesIfPresent = .ok ws)
    (hw : w ∈ ws) : v.Meets w := by
  rw [entriesIfPresent] at h
  split at h
  · exact meets_of_entries h hw
  · cases h
    cases hw

/-- The entries of a field are met. -/
theorem meets_of_field_entries {name : String} {ws : List Value}
    (h : (v.field name).entriesIfPresent = .ok ws) (hw : w ∈ ws) : v.Meets w := by
  by_cases hnull : v.field name = .null
  · rw [hnull] at h
    cases h
    cases hw
  · exact (meets_of_field rfl hnull).trans (meets_of_entriesIfPresent h hw)

/-- Only a list has objects among its entries. -/
theorem eq_list_of_object_mem {fields : List (String × Value)} {ws : List Value}
    (h : v.entriesIfPresent = .ok ws) (hmem : .object fields ∈ ws) : v = .list ws := by
  rw [entriesIfPresent] at h
  split at h
  · cases v with
    | list entries => exact congrArg Value.list (Except.ok.inj h)
    | object other =>
      cases h
      simp at hmem
    | text s =>
      cases h
      simp at hmem
    | _ => cases h
  · cases h
    cases hmem

/-- The packed value of a field is met. -/
theorem meets_of_fieldBelow? {name : String} {w : v.Below} (h : v.fieldBelow? name = some w) :
    v.Meets w.1 := by
  unfold fieldBelow? at h
  split at h
  · cases h
  · rename_i hfield
    cases h
    exact meets_of_field? hfield
  · cases h

/-- The first entry of a value is met. -/
theorem meets_of_firstEntry (h : v.firstEntry = .ok w) : v.Meets w := by
  cases v with
  | list entries =>
    cases entries with
    | nil => cases h
    | cons first rest =>
      cases h
      exact meets_of_entries rfl List.mem_cons_self
  | text s =>
    rw [firstEntry] at h
    cases hs : s.toList with
    | nil =>
      rw [hs] at h
      cases h
    | cons c rest =>
      rw [hs] at h
      cases h
      have hentries : (Value.text s).entries = .ok ((c :: rest).map fun c => .text c.toString) :=
        hs ▸ rfl
      exact meets_of_entries hentries List.mem_cons_self
  | _ => cases h

/-- To walk through a value that has no entries is reported. -/
theorem failsOnly_entries (v : Value) : FailsOnly v.entries fun f => f.isReported = true := by
  cases v with
  | list entries => exact .ok _
  | object fields => exact .ok _
  | text s => exact .ok _
  | _ => exact .error rfl

theorem failsOnly_entriesIfPresent (v : Value) :
    FailsOnly v.entriesIfPresent fun f => f.isReported = true := by
  unfold entriesIfPresent
  split
  · exact failsOnly_entries v
  · exact .ok _

/-- A value is no real number for a reason that is reported, or is an integer beyond the doubles. -/
theorem failsOnly_toReal (v : Value) : FailsOnly v.toReal fun f => f.isReported = true ∨
    f = .hugeInteger ∧ ∃ n, v = .int n ∧ (Float.ofInt n).isInf = true := by
  cases v with
  | bool b => exact .ok _
  | int n =>
    rw [toReal, realOfInt]
    split
    · rename_i hhuge
      exact .error (.inr ⟨rfl, n, rfl, hhuge⟩)
    · exact .ok _
  | float x => exact .ok _
  | text s =>
    rw [toReal]
    cases Number.readReal? s with
    | some x => exact .ok _
    | none => exact .error (.inl rfl)
  | _ => exact .error (.inl rfl)

/-- A value is no integer for a reason that is reported, or is an infinite double. -/
theorem failsOnly_toInteger (v : Value) : FailsOnly v.toInteger fun f => f.isReported = true ∨
    f = .infiniteInteger ∧ ∃ x, v = .float x ∧ Number.truncate x = .error .infinite := by
  cases v with
  | bool b => exact .ok _
  | int n => exact .ok _
  | float x =>
    rw [toInteger, integerOfReal]
    split
    · exact .ok _
    · rename_i hinfinite
      exact .error (.inr ⟨rfl, x, rfl, hinfinite⟩)
    · exact .error (.inl rfl)
  | text s =>
    rw [toInteger]
    cases Number.readInteger? s with
    | some n => exact .ok _
    | none => exact .error (.inl rfl)
  | _ => exact .error (.inl rfl)

end PlanDiagram.Value
