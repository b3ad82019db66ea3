import PlanDiagram.Value.Convert

/-!
# Values below a value

A reader of payloads descends from an object to the entries of its fields. What it meets is packed
with the proof that it lies less deep, so that the reader can recurse on the depth. Main statement:
the packed entries of a field are the entries of that field.
-/

namespace PlanDiagram.Value

/-- The values that lie less deep than `v`. -/
abbrev Below (v : Value) := { w : Value // w.depth < v.depth }

/-- The entries of a field lie below its object. -/
theorem depth_lt_of_field_entries {name : String} {v w : Value} {ws : List Value}
    (h : (v.field name).entriesIfPresent = .ok ws) (hw : w ∈ ws) : w.depth < v.depth := by
  cases hfield : v.field? name with
  | none =>
    simp only [field, hfield, Option.getD_none, entriesIfPresent, isPresent] at h
    cases h
    simp at hw
  | some f =>
    simp only [field, hfield, Option.getD_some] at h
    have := depth_le_of_entriesIfPresent h hw
    have := depth_lt_of_field? hfield
    omega

/-- The entries of a field; a field that is missing or counts as absent has none. -/
def fieldEntries (name : String) (v : Value) : Except Fault (List v.Below) :=
  match h : (v.field name).entriesIfPresent with
  | .ok ws => .ok (ws.attach.map fun w => ⟨w.1, depth_lt_of_field_entries h w.2⟩)
  | .error fault => .error fault

/-- The packed entries of a field are its entries. -/
theorem fieldEntries_map_val (name : String) (v : Value) :
    (v.fieldEntries name).map (·.map Subtype.val) = (v.field name).entriesIfPresent := by
  unfold fieldEntries
  split
  · next ws h => exact Eq.trans (by simp [Except.map]) h.symm
  · next fault h => exact h.symm

/-- The value of a field, unless it is missing or nothing. -/
def fieldBelow? (name : String) (v : Value) : Option v.Below :=
  match h : v.field? name with
  | some .null => none
  | some w => some ⟨w, depth_lt_of_field? h⟩
  | none => none

/-- The value of a field, unless it is missing or counts as absent. -/
def presentField? (name : String) (v : Value) : Option v.Below :=
  (v.fieldBelow? name).filter fun w => w.1.isPresent

/-- The only entry of a list or the only character of a text; none if there are several or none at
all. An object has no entry that is found by its place. -/
def onlyEntry : Value → Except Fault (Option Value)
  | .list [w] => .ok (some w)
  | .list _ => .ok none
  | .text s => .ok (if s.length == 1 then some (.text s) else none)
  | .object [_] => .error (.missingField "0")
  | .object _ => .ok none
  | v => .error (.noLength v.kind)

/-- The only entry of a value is no deeper than the value. -/
theorem depth_le_of_onlyEntry {v w : Value} (h : v.onlyEntry = .ok (some w)) :
    w.depth ≤ v.depth := by
  unfold onlyEntry at h
  split at h
  · cases h
    exact Nat.le_of_lt (depth_lt_of_mem (by simp))
  · cases h
  · split at h
    · cases h
      exact Nat.le_refl _
    · cases h
  · cases h
  · cases h
  · cases h

/-- The only entry of a value that lies below `v`. -/
def Below.onlyEntry {v : Value} (f : v.Below) : Except Fault (Option v.Below) :=
  match h : f.1.onlyEntry with
  | .ok (some w) => .ok (some ⟨w, Nat.lt_of_le_of_lt (depth_le_of_onlyEntry h) f.2⟩)
  | .ok none => .ok none
  | .error fault => .error fault

end PlanDiagram.Value
