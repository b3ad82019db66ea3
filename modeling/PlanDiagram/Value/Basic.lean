import PlanDiagram.Number.Written
import PlanDiagram.Number.Numeral

/-!
# Values

Payloads and settings arrive as values: nothing, truth values, numbers, texts, lists, and objects
whose fields keep their order. This module holds the type, the questions that any value answers, and
the nesting depth, on which the readers of payloads recurse. Main statements: a field of an object
and an entry of a list lie strictly less deep than the object or the list.
-/

namespace PlanDiagram

/-- A value of a payload or of settings. Integers are unbounded and apart from doubles. -/
inductive Value where
  | null
  | bool (b : Bool)
  | int (n : Int)
  | float (x : Float)
  | text (s : String)
  | list (entries : List Value)
  | object (fields : List (String × Value))
deriving Repr, Inhabited

namespace Value

/-- The kinds of values. -/
inductive Kind where
  | null
  | bool
  | int
  | float
  | text
  | list
  | object
deriving DecidableEq, Repr

/-- The name of a kind in messages. -/
def Kind.name : Kind → String
  | .null => "NoneType"
  | .bool => "bool"
  | .int => "int"
  | .float => "float"
  | .text => "str"
  | .list => "list"
  | .object => "dict"

/-- The kind of a value. -/
def kind : Value → Kind
  | .null => .null
  | .bool _ => .bool
  | .int _ => .int
  | .float _ => .float
  | .text _ => .text
  | .list _ => .list
  | .object _ => .object

/-- Nothing, `false`, zero and everything empty count as absent. -/
def isPresent : Value → Bool
  | .null => false
  | .bool b => b
  | .int n => n != 0
  | .float x => x != 0.0
  | .text s => s != ""
  | .list entries => !entries.isEmpty
  | .object fields => !fields.isEmpty

/-- A text, or nothing. -/
def ofText? : Option String → Value
  | some s => .text s
  | none => .null

/-- The field of an object with the given name; values of other kinds have no fields. -/
def field? (name : String) : Value → Option Value
  | .object fields => fields.lookup name
  | _ => none

/-- The field of an object with the given name, or nothing. -/
def field (name : String) (v : Value) : Value :=
  (v.field? name).getD .null

/-- Tells whether an object has a field with the given name. -/
def hasField (name : String) (v : Value) : Bool :=
  (v.field? name).isSome

/-- The first value unless it counts as absent, else the second. -/
def orElse (first second : Value) : Value :=
  if first.isPresent then first else second

mutual

/-- How deep lists and objects are nested in a value. -/
def depth : Value → Nat
  | .list entries => depthOfList entries + 1
  | .object fields => depthOfFields fields + 1
  | _ => 0

/-- The greatest depth of the entries. -/
def depthOfList : List Value → Nat
  | [] => 0
  | v :: rest => max v.depth (depthOfList rest)

/-- The greatest depth of the values of the fields. -/
def depthOfFields : List (String × Value) → Nat
  | [] => 0
  | (_, v) :: rest => max v.depth (depthOfFields rest)

end

/-- No entry is deeper than the deepest. -/
theorem depth_le_depthOfList {v : Value} {entries : List Value} (h : v ∈ entries) :
    v.depth ≤ depthOfList entries := by
  induction entries with
  | nil => simp at h
  | cons w rest ih =>
    rw [depthOfList]
    rcases List.mem_cons.mp h with rfl | h
    · exact Nat.le_max_left _ _
    · exact Nat.le_trans (ih h) (Nat.le_max_right _ _)

/-- An entry lies less deep than its list. -/
theorem depth_lt_of_mem {v : Value} {entries : List Value} (h : v ∈ entries) :
    v.depth < (Value.list entries).depth := by
  have := depth_le_depthOfList h
  rw [depth]
  omega

/-- No field is deeper than the deepest. -/
theorem depth_le_depthOfFields {name : String} {v : Value} {fields : List (String × Value)}
    (h : fields.lookup name = some v) : v.depth ≤ depthOfFields fields := by
  induction fields with
  | nil => simp at h
  | cons entry rest ih =>
    obtain ⟨other, w⟩ := entry
    rw [depthOfFields]
    by_cases hname : name = other
    · subst hname
      simp only [List.lookup_cons, beq_self_eq_true, Option.some.injEq] at h
      subst h
      exact Nat.le_max_left _ _
    · have hne : (name == other) = false := by simp [hname]
      simp only [List.lookup_cons, hne] at h
      exact Nat.le_trans (ih h) (Nat.le_max_right _ _)

/-- A field lies less deep than its object. -/
theorem depth_lt_of_field? {name : String} {v w : Value} (h : v.field? name = some w) :
    w.depth < v.depth := by
  cases v with
  | object fields =>
    have := depth_le_depthOfFields (h : fields.lookup name = some w)
    rw [depth]
    omega
  | _ => simp [field?] at h

end Value

end PlanDiagram
