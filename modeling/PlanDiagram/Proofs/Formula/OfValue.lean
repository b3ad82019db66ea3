import PlanDiagram.Formula.OfValue
import PlanDiagram.Proofs.Formula.Built

/-!
# How objects are read as formulas

The type of an object says what formula the object describes. The entries of its fields are packed
with the proof that they lie below the object, but they are read as if they were not. Main
statements: an object is read by what its arguments are read as, and there is one statement for each
kind of type: predicates, functions, numbers, negations, numeric effects, and the operators of
comparisons, arithmetic and composites.
-/

namespace PlanDiagram

open PlanDiagram.Payload (Error)

/-- An object has the entries of a list in a field, also if there are none. -/
theorem Value.entriesIfPresent_list (ws : List Value) :
    (Value.list ws).entriesIfPresent = .ok ws := by
  cases ws <;> rfl

namespace Keyword

/-- The types of descriptions that are operators, other than keywords of numeric effects. -/
def operators : List String :=
  comparisonSigns.map Prod.fst ++ arithmeticOperators ++ compositeOperators

/-- Comparisons are operators. -/
theorem mem_operators_of_comparison {op : String} (h : isComparison op = true) :
    op ∈ operators :=
  List.mem_append_left _ (List.mem_append_left _ (mem_signs_of_comparison h))

/-- Arithmetic operators are operators. -/
theorem mem_operators_of_arithmetic {op : String} (h : op ∈ arithmeticOperators) :
    op ∈ operators :=
  List.mem_append_left _ (List.mem_append_right _ h)

/-- Operators are in lower case, without blanks around them. -/
theorem lower_trim_operator : ∀ op ∈ operators, Text.lower (Text.trim op) = op := by
  decide +kernel

/-- Operators are neither kinds nor keywords of numeric effects. -/
theorem operator_not_kind : ∀ op ∈ operators, (op == "predicate") = false ∧
    (op == "function") = false ∧ (op == "number") = false ∧ (op == "not") = false ∧
      NumericChange.ofName? op = none := by
  decide

/-- Arithmetic operators are no comparisons. -/
theorem arithmetic_not_comparison : ∀ op ∈ arithmeticOperators, isComparison op = false := by
  decide

/-- Operators of formulas are neither comparisons nor arithmetic. -/
theorem composite_not_comparison : ∀ op ∈ compositeOperators,
    isComparison op = false ∧ isArithmetic op = false := by
  decide

end Keyword

namespace Formula

/-- Reads what is listed in a field. -/
def readField (read : Value → Except Error Formula) (name : String) (v : Value) :
    Except Error (List Formula) := do
  (← (v.field name).entriesIfPresent).mapM read

/-- Packed with the proof that they lie below the object or not, the entries of a field are read
alike. -/
theorem fieldEntries_mapM (read : Value → Except Error Formula) (name : String) (v : Value) :
    (do (← v.fieldEntries name).mapM fun w => read w.1) = readField read name v := by
  unfold readField
  rw [← Value.fieldEntries_map_val]
  cases v.fieldEntries name with
  | error fault => rfl
  | ok ws =>
    change (ws.mapM fun w => read w.1) = (ws.map Subtype.val).mapM read
    rw [List.mapM_map]
    rfl

/-- What an object describes below it. -/
def belowOf (v : Value) : Below where
  children := fun _ => readField ofValue "children" v
  items := fun _ => readField ofValue "items" v
  argument := (v.fieldBelow? "argument").map fun w _ => ofValue w.1

/-- An object is read by its arguments and by what is below it. -/
theorem ofValue_object (fields : List (String × Value)) :
    ofValue (.object fields) =
      readField argumentOfValue "arguments" (.object fields) >>= fun arguments =>
        formulaOfObject (.object fields) arguments (belowOf (.object fields)) := by
  rw [← fieldEntries_mapM, ofValue, bind_assoc]
  simp only [argumentsOfValues, ofValues, fieldEntries_mapM]
  rfl

/-- An object is read by what its arguments are read as. -/
theorem ofValue_of_arguments {fields : List (String × Value)} {arguments : List Formula}
    (h : readField argumentOfValue "arguments" (.object fields) = .ok arguments) :
    ofValue (.object fields) =
      formulaOfObject (.object fields) arguments (belowOf (.object fields)) := by
  rw [ofValue_object, h, ok_bind]

variable {v : Value} {op name : String} {arguments items : List Formula} {below : Below}

/-- A list in a field is read entry by entry. -/
theorem readField_of_list {read : Value → Except Error Formula} {ws : List Value}
    (h : v.field name = .list ws) : readField read name v = ws.mapM read := by
  unfold readField
  rw [h, Value.entriesIfPresent_list]
  rfl

/-- A field that is missing lists nothing. -/
theorem readField_of_null {read : Value → Except Error Formula} (h : v.field name = .null) :
    readField read name v = .ok [] := by
  unfold readField
  rw [h]
  rfl

/-- The type of an object with a text in this field. -/
theorem typeText_of_text {type : String} (h : v.field "type" = .text type) :
    typeText v = type := by
  unfold typeText
  rw [h]
  by_cases hempty : type = ""
  · rw [hempty]
    rfl
  · simp [Value.isPresent, hempty]

/-- An object with a field that only a formula has is read as a formula. -/
theorem argumentOfValue_of_hint {fields : List (String × Value)}
    (h : formulaFields.any (Value.object fields).hasField = true) :
    argumentOfValue (.object fields) = ofValue (.object fields) := by
  rw [argumentOfValue, argumentOfObject]
  simp only [h, Bool.true_or, if_true]

/-- An object with a name and without other hints is read as a parameter. -/
theorem argumentOfObject_parameter {formula : Unit → Except Error Formula}
    (hhint : formulaFields.any v.hasField = false) (hvalue : v.hasField "value" = false)
    (hname : v.hasField "name" = true)
    (htype : Text.lower (typeText v) ∉ ["predicate", "function"]) :
    argumentOfObject v formula =
      .ok (.parameter (Parameter.bareName (v.field "name").display) (v.field "type")) := by
  simp only [List.mem_cons, List.not_mem_nil, or_false, not_or] at htype
  obtain ⟨hpredicate, hfunction⟩ := htype
  unfold argumentOfObject
  simp only [hhint, hvalue, hname, beq_eq_false_iff_ne.mpr hpredicate,
    beq_eq_false_iff_ne.mpr hfunction, Bool.or_self, Bool.and_false, Bool.false_eq_true, if_false,
    if_true]

/-- An object with the type and the value of a number is read as this number. -/
theorem argumentOfObject_number {formula : Unit → Except Error Formula} {x : Float}
    (hhint : formulaFields.any v.hasField = false) (htype : typeText v = "number")
    (hvalue : v.field? "value" = some (.float x)) :
    argumentOfObject v formula = .ok (.number x) := by
  have hlower : Text.lower "number" = "number" := by decide +kernel
  have hpredicate : ("number" == "predicate") = false := by decide
  have hfunction : ("number" == "function") = false := by decide
  have hfield : v.hasField "value" = true := by simp [Value.hasField, hvalue]
  have hread : v.field "value" = .float x := by simp [Value.field, hvalue]
  unfold argumentOfObject
  simp only [htype, hlower, hhint, hfield, hread, hpredicate, hfunction, beq_self_eq_true,
    Bool.or_self, Bool.and_self, Bool.false_eq_true, if_false, if_true]
  rfl

/-- The kinds of formulas are in lower case, without blanks around them. -/
theorem lower_trim_kind : ∀ kind ∈ ["predicate", "function", "number", "not"],
    Text.lower (Text.trim kind) = kind := by
  decide +kernel

/-- The type says that an object describes a predicate. -/
theorem formulaOfObject_predicate (h : typeText v = "predicate") :
    formulaOfObject v arguments below =
      .ok (.predicate ((v.field? "name").elim "" Value.display) arguments) := by
  unfold formulaOfObject
  simp only [h, lower_trim_kind "predicate" (by decide), beq_self_eq_true, if_true]

/-- The type says that an object describes a function. -/
theorem formulaOfObject_function (h : typeText v = "function") :
    formulaOfObject v arguments below =
      .ok (.function ((v.field? "name").elim "" Value.display) arguments) := by
  have hpredicate : ("function" == "predicate") = false := by decide
  unfold formulaOfObject
  simp only [h, lower_trim_kind "function" (by decide), hpredicate, beq_self_eq_true,
    Bool.false_eq_true, if_false, if_true]

/-- The type says that an object describes a number. -/
theorem formulaOfObject_number {x : Float} (h : typeText v = "number")
    (hvalue : v.field? "value" = some (.float x)) :
    formulaOfObject v arguments below = .ok (.number x) := by
  have hpredicate : ("number" == "predicate") = false := by decide
  have hfunction : ("number" == "function") = false := by decide
  unfold formulaOfObject
  simp only [h, lower_trim_kind "number" (by decide), hpredicate, hfunction, hvalue,
    beq_self_eq_true, Bool.false_eq_true, if_false, if_true]
  rfl

/-- The type says that an object describes a negation. -/
theorem formulaOfObject_not (h : typeText v = "not") :
    formulaOfObject v arguments below = negationOfObject v below := by
  have hpredicate : ("not" == "predicate") = false := by decide
  have hfunction : ("not" == "function") = false := by decide
  have hnumber : ("not" == "number") = false := by decide
  unfold formulaOfObject
  simp only [h, lower_trim_kind "not" (by decide), hpredicate, hfunction, hnumber,
    beq_self_eq_true, Bool.false_eq_true, if_false, if_true]

/-- The type says which numeric effect an object describes. -/
theorem formulaOfObject_numeric {change : NumericChange} (h : typeText v = change.name) :
    formulaOfObject v arguments below = .ok (.numeric change arguments) := by
  unfold formulaOfObject
  rw [h]
  cases change <;> rfl

/-- An operator says what an object describes: a comparison, arithmetic or a composite. -/
theorem formulaOfObject_operator (h : typeText v = op) (hop : op ∈ Keyword.operators) :
    formulaOfObject v arguments below =
      if Keyword.isComparison op then (compare op arguments).mapError .misfit
      else if Keyword.isArithmetic op then .ok (.arithmetic op arguments)
      else compositeOfObject op arguments below := by
  obtain ⟨hpredicate, hfunction, hnumber, hnot, hchange⟩ := Keyword.operator_not_kind op hop
  unfold formulaOfObject
  simp only [h, Keyword.lower_trim_operator op hop, hpredicate, hfunction, hnumber, hnot, hchange,
    Bool.false_eq_true, if_false]

/-- An object with nothing but children describes their composite. -/
theorem compositeOfObject_of_children (hop : op ≠ "") (hchildren : below.children () = .ok items)
    (hitems : below.items () = .ok []) (hargument : below.argument = none) :
    compositeOfObject op [] below = .ok (.composite op items []) := by
  have hempty : (op == "") = false := beq_eq_false_iff_ne.mpr hop
  unfold compositeOfObject
  rw [hchildren, ok_bind, hitems, ok_bind, hargument]
  simp only [hempty, List.filter_nil, Bool.false_eq_true, if_false]
  rw [pure_bind, List.append_nil, List.append_nil, List.append_nil]
  rfl

end Formula

end PlanDiagram
