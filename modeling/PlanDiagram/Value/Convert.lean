import PlanDiagram.Value.Fault

/-!
# Reading values as what is wanted

Entries, fields, numbers and optional texts taken from a value that may be of any kind. Main
statement: the entries of a value are no deeper than the value.
-/

namespace PlanDiagram.Value

/-- The double nearest to an integer, unless the integer lies beyond the range of doubles. -/
def realOfInt (n : Int) : Except Fault Float :=
  let x := Float.ofInt n
  if x.isInf then .error .hugeInteger else .ok x

/-- The integer in which rounding toward zero ends. -/
def integerOfReal (x : Float) : Except Fault Int :=
  match Number.truncate x with
  | .ok n => .ok n
  | .error .infinite => .error .infiniteInteger
  | .error .notANumber => .error .nanInteger

/-- A value as a real number; numerals and truth values count. -/
def toReal : Value → Except Fault Float
  | .bool b => .ok (if b then 1.0 else 0.0)
  | .int n => realOfInt n
  | .float x => .ok x
  | .text s =>
    match Number.readReal? s with
    | some x => .ok x
    | none => .error (.unreadableReal s)
  | v => .error (.notReal v.kind)

/-- A value as an integer: doubles are rounded toward zero; numerals and truth values count. -/
def toInteger : Value → Except Fault Int
  | .bool b => .ok (if b then 1 else 0)
  | .int n => .ok n
  | .float x => integerOfReal x
  | .text s =>
    match Number.readInteger? s with
    | some n => .ok n
    | none => .error (.unreadableInteger s)
  | v => .error (.notInteger v.kind)

/-- What is met in walking through a value: the entries of a list, the names of the fields of an
object, the characters of a text. -/
def entries : Value → Except Fault (List Value)
  | .list entries => .ok entries
  | .object fields => .ok (fields.map fun entry => .text entry.1)
  | .text s => .ok (s.toList.map fun c => .text c.toString)
  | v => .error (.notIterable v.kind)

/-- The entries of a value, of which there are none if the value counts as absent. -/
def entriesIfPresent (v : Value) : Except Fault (List Value) :=
  if v.isPresent then v.entries else .ok []

/-- Requires an object, whose fields are about to be read. -/
def requireFields (v : Value) : Except Fault Unit :=
  match v with
  | .object _ => .ok ()
  | v => .error (.noFields v.kind)

/-- The field of a value that has to be there. -/
def demandField (name : String) (v : Value) : Except Fault Value :=
  match v with
  | .object fields =>
    match fields.lookup name with
    | some w => .ok w
    | none => .error (.missingField name)
  | v => .error (.noEntryNamed v.kind)

/-- The text of a value without blanks around it, if something is left. -/
def trimmed? (v : Value) : Option String :=
  match v with
  | .null => none
  | v =>
    let s := Text.trim v.display
    if s == "" then none else some s

/-- The entries of a value are no deeper than the value. -/
theorem depth_le_of_entries {v w : Value} {ws : List Value} (h : v.entries = .ok ws)
    (hw : w ∈ ws) : w.depth ≤ v.depth := by
  cases v with
  | list entries =>
    cases h
    exact Nat.le_of_lt (depth_lt_of_mem hw)
  | object fields =>
    cases h
    obtain ⟨entry, _, rfl⟩ := List.mem_map.mp hw
    simp [depth]
  | text s =>
    cases h
    obtain ⟨c, _, rfl⟩ := List.mem_map.mp hw
    simp [depth]
  | _ => simp [entries] at h

/-- The entries of a value, if there are any, are no deeper than the value. -/
theorem depth_le_of_entriesIfPresent {v w : Value} {ws : List Value}
    (h : v.entriesIfPresent = .ok ws) (hw : w ∈ ws) : w.depth ≤ v.depth := by
  rw [entriesIfPresent] at h
  split at h
  · exact depth_le_of_entries h hw
  · cases h
    simp at hw

end PlanDiagram.Value
