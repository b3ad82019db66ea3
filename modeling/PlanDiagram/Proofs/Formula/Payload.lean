import PlanDiagram.Proofs.Formula.OfValue
import PlanDiagram.Proofs.Parameter.TypedList

/-!
# Formulas are read back from payloads

The parsing service describes a formula by an object with a type: a parameter by its name and its
own type, any other formula by its kind or operator with what is directly below it. The same object
can be met as an argument or as a formula, and the two readers tell what it describes by different
hints. Main statement: a formula that was read from a form and binds no variables is read back from
its description, and so is as an argument everything that stands in it, provided that no name has
the mark of a variable and no type reads like the kind of a formula.
-/

namespace PlanDiagram

open PlanDiagram.Payload (Error)

namespace Formula

mutual

/-- The description of a formula. -/
def toValue : Formula → Value
  | .parameter name type => .object [("name", .text name), ("type", type)]
  | .number x => .object [("type", .text "number"), ("value", .float x)]
  | .predicate name arguments =>
    .object [("type", .text "predicate"), ("name", .text name),
      ("arguments", .list (toValues arguments))]
  | .function name arguments =>
    .object [("type", .text "function"), ("name", .text name),
      ("arguments", .list (toValues arguments))]
  | .negation argument => .object [("type", .text "not"), ("argument", argument.toValue)]
  | .numeric change arguments =>
    .object [("type", .text change.name), ("arguments", .list (toValues arguments))]
  | .comparison op arguments =>
    .object [("type", .text op), ("arguments", .list (toValues arguments))]
  | .arithmetic op arguments =>
    .object [("type", .text op), ("arguments", .list (toValues arguments))]
  | .composite op items _ =>
    .object [("type", .text op), ("children", .list (toValues items))]

/-- The descriptions of several formulas. -/
def toValues : List Formula → List Value
  | [] => []
  | f :: rest => f.toValue :: toValues rest

end

/-- The descriptions of formulas that are read back one by one are read back. -/
theorem mapM_toValues {read : Value → Except Error Formula} {fs : List Formula}
    (h : ∀ f ∈ fs, read f.toValue = .ok f) : (toValues fs).mapM read = .ok fs := by
  induction fs with
  | nil => rfl
  | cons f rest ih =>
    obtain ⟨hf, hrest⟩ := List.forall_mem_cons.mp h
    rw [toValues, List.mapM_cons, hf, ih hrest]
    rfl

/-- What may stand in a formula for its description to tell what it is: no variables are bound, no
name has the mark of a variable, and no type of a name reads like a kind of formulas. -/
structure Describable (e : Formula) : Prop where
  unbound : ∀ op items bound, e.Has (.composite op items bound) → bound = []
  unmarked : ∀ name type, e.Has (.parameter name type) → name.toList.head? ≠ some '?'
  type : ∀ name type, e.Has (.parameter name type) →
    Text.lower (typeText (parameter name type).toValue) ∉ ["predicate", "function"]

/-- What stands in a formula that can be described can be described. -/
theorem Describable.of_has {e f : Formula} (h : e.Describable) (hf : e.Has f) : f.Describable where
  unbound op items bound hhas := h.unbound op items bound (hf.trans hhas)
  unmarked name type hhas := h.unmarked name type (hf.trans hhas)
  type name type hhas := h.type name type (hf.trans hhas)

/-- The operands of a formula that can be described can be described. -/
theorem Describable.operand {e a : Formula} (h : e.Describable) (ha : a ∈ e.operands) :
    a.Describable :=
  h.of_has (Relation.ReflTransGen.single ha)

/-- A parameter can be described. -/
theorem Describable.parameter {name : String} {type : Value}
    (hname : name.toList.head? ≠ some '?')
    (htype : Text.lower (typeText (parameter name type).toValue) ∉ ["predicate", "function"]) :
    (Formula.parameter name type).Describable := by
  have hself : ∀ f, (Formula.parameter name type).Has f → f = .parameter name type := by
    intro f hhas
    rcases hhas.cases_head with heq | ⟨a, ha, -⟩
    · exact heq.symm
    · cases ha
  refine ⟨fun op items bound hhas => ?_, fun other type' hhas => ?_, fun other type' hhas => ?_⟩
  · cases hself _ hhas
  · cases hself _ hhas
    exact hname
  · cases hself _ hhas
    exact htype

/-- A formula other than a parameter can be described if its operands can, and it binds nothing. -/
theorem Describable.of_operands {e : Formula} (hparameter : e.isParameter = false)
    (hunbound : ∀ op items bound, e = .composite op items bound → bound = [])
    (h : ∀ a ∈ e.operands, a.Describable) : e.Describable where
  unbound op items bound hhas := by
    rcases hhas.cases_head with rfl | ⟨a, ha, hhas⟩
    · exact hunbound op items bound rfl
    · exact (h a ha).unbound op items bound hhas
  unmarked name type hhas := by
    rcases hhas.cases_head with rfl | ⟨a, ha, hhas⟩
    · cases hparameter
    · exact (h a ha).unmarked name type hhas
  type name type hhas := by
    rcases hhas.cases_head with rfl | ⟨a, ha, hhas⟩
    · cases hparameter
    · exact (h a ha).type name type hhas

/-- A formula that is read back from its description: as an argument, and as a formula unless it is
a parameter. -/
structure Decodes (f : Formula) : Prop where
  argument : argumentOfValue f.toValue = .ok f
  formula : f.isParameter = false → ofValue f.toValue = .ok f

/-- A description with a field that only a formula has is read back as an argument if it is read
back as a formula. -/
theorem Decodes.of_hint {f : Formula} {fields : List (String × Value)}
    (hvalue : f.toValue = .object fields)
    (hhint : formulaFields.any (Value.object fields).hasField = true)
    (h : ofValue (.object fields) = .ok f) : f.Decodes where
  argument := by rw [hvalue, argumentOfValue_of_hint hhint, h]
  formula _ := by rw [hvalue, h]

/-- A description by arguments is read back if its type says what it describes. -/
theorem Decodes.of_arguments {f : Formula} {fields : List (String × Value)}
    {arguments : List Formula} (hvalue : f.toValue = .object fields)
    (hfield : (Value.object fields).field? "arguments" = some (.list (toValues arguments)))
    (harguments : ∀ a ∈ arguments, a.Decodes)
    (h : formulaOfObject (.object fields) arguments (belowOf (.object fields)) = .ok f) :
    f.Decodes := by
  have hhint : formulaFields.any (Value.object fields).hasField = true := by
    simp [formulaFields, Value.hasField, hfield]
  have hlist : (Value.object fields).field "arguments" = .list (toValues arguments) := by
    rw [Value.field, hfield]
    rfl
  have hread : readField argumentOfValue "arguments" (.object fields) = .ok arguments := by
    rw [readField_of_list hlist]
    exact mapM_toValues fun a ha => (harguments a ha).argument
  exact Decodes.of_hint hvalue hhint ((ofValue_of_arguments hread).trans h)

/-- Descriptions are objects. -/
theorem exists_toValue (f : Formula) : ∃ fields, f.toValue = .object fields := by
  cases f <;> exact ⟨_, by rw [toValue]⟩

/-- An object in the field of an argument is read when it is wanted. -/
theorem argument_belowOf {fields : List (String × Value)}
    (h : v.field? "argument" = some (.object fields)) :
    (belowOf v).argument = some fun _ => ofValue (.object fields) := by
  unfold belowOf Value.fieldBelow?
  dsimp only
  split
  · rename_i hnull
    rw [h] at hnull
    cases hnull
  · rename_i w _ hw
    rw [h] at hw
    cases hw
    rfl
  · rename_i hnone
    rw [h] at hnone
    cases hnone

/-- A parameter is read back as an argument. -/
theorem decodes_parameter {name : String} {type : Value} (hname : name.toList.head? ≠ some '?')
    (htype : Text.lower (typeText (parameter name type).toValue) ∉ ["predicate", "function"]) :
    (parameter name type).Decodes where
  argument := by
    have hbare : Parameter.bareName name = name := by
      apply Parameter.bareName_of_toList
      intro rest heq
      rw [heq] at hname
      exact hname rfl
    rw [toValue] at htype ⊢
    rw [argumentOfValue, argumentOfObject_parameter rfl rfl rfl htype]
    exact congrArg (fun name => Except.ok (Formula.parameter name type)) hbare
  formula h := by cases h

/-- A number is read back. -/
theorem decodes_number (x : Float) : (number x).Decodes where
  argument := by
    rw [toValue, argumentOfValue]
    exact argumentOfObject_number rfl (typeText_of_text rfl) rfl
  formula _ := by
    rw [toValue, ofValue_of_arguments (readField_of_null rfl)]
    exact formulaOfObject_number (typeText_of_text rfl) rfl

/-- A negation is read back if its formula is. -/
theorem decodes_negation {f : Formula} (hformula : f.isParameter = false) (h : f.Decodes) :
    (negation f).Decodes := by
  apply Decodes.of_hint (by rw [toValue]) rfl
  obtain ⟨fields, hfields⟩ := exists_toValue f
  have hargument : (belowOf (.object [("type", .text "not"), ("argument", f.toValue)])).argument =
      some fun _ => ofValue f.toValue := by
    rw [hfields]
    exact argument_belowOf rfl
  rw [ofValue_of_arguments (readField_of_null rfl), formulaOfObject_not (typeText_of_text rfl),
    negationOfObject, hargument]
  dsimp only
  rw [h.formula hformula, ok_bind]
  rfl

/-- A composite without variables is read back if its formulas are. -/
theorem decodes_composite {op : String} {items : List Formula}
    (hop : op ∈ Keyword.compositeOperators) (hformulas : ∀ f ∈ items, f.isParameter = false)
    (h : ∀ f ∈ items, f.Decodes) : (composite op items []).Decodes := by
  apply Decodes.of_hint (by rw [toValue]) rfl
  have hitems : readField ofValue "children"
      (.object [("type", .text op), ("children", .list (toValues items))]) = .ok items := by
    rw [readField_of_list rfl]
    exact mapM_toValues fun f hf => (h f hf).formula (hformulas f hf)
  have hnone : readField ofValue "items"
      (.object [("type", .text op), ("children", .list (toValues items))]) = .ok [] :=
    readField_of_null rfl
  have hne : op ≠ "" := by
    rintro rfl
    exact absurd hop (by decide)
  obtain ⟨hcomparison, harithmetic⟩ := Keyword.composite_not_comparison op hop
  rw [ofValue_of_arguments (readField_of_null rfl),
    formulaOfObject_operator (typeText_of_text rfl) (List.mem_append_right _ hop),
    if_neg (by simp [hcomparison]), if_neg (by simp [harithmetic])]
  exact compositeOfObject_of_children hne hitems hnone rfl

/-- A tree that is built and can be described is read back from its description. By induction on how
it is built. -/
theorem Built.decodes {e : Formula} (h : e.Built) (hdescribable : e.Describable) : e.Decodes := by
  induction h with
  | parameter name type =>
    exact decodes_parameter (hdescribable.unmarked name type .refl)
      (hdescribable.type name type .refl)
  | number x => exact decodes_number x
  | @predicate name arguments h ih =>
    apply Decodes.of_arguments (by rw [toValue]) rfl fun a ha => ih a ha (hdescribable.operand ha)
    exact formulaOfObject_predicate (typeText_of_text rfl)
  | @function name arguments h ih =>
    apply Decodes.of_arguments (by rw [toValue]) rfl fun a ha => ih a ha (hdescribable.operand ha)
    exact formulaOfObject_function (typeText_of_text rfl)
  | negation hformula h ih =>
    exact decodes_negation hformula (ih (hdescribable.operand (List.mem_singleton_self _)))
  | @numeric change arguments h ih =>
    apply Decodes.of_arguments (by rw [toValue]) rfl fun a ha => ih a ha (hdescribable.operand ha)
    exact formulaOfObject_numeric (typeText_of_text rfl)
  | @comparison op arguments hop hcount h ih =>
    apply Decodes.of_arguments (by rw [toValue]) rfl fun a ha => ih a ha (hdescribable.operand ha)
    have hcompare : compare op arguments = .ok (.comparison op arguments) :=
      if_neg (Nat.not_lt.mpr hcount)
    rw [formulaOfObject_operator (typeText_of_text rfl) (Keyword.mem_operators_of_comparison hop),
      if_pos hop, hcompare]
    rfl
  | @arithmetic op arguments hop h ih =>
    apply Decodes.of_arguments (by rw [toValue]) rfl fun a ha => ih a ha (hdescribable.operand ha)
    have hmem : op ∈ Keyword.arithmeticOperators := by simpa [Keyword.isArithmetic] using hop
    have hcomparison := Keyword.arithmetic_not_comparison op hmem
    rw [formulaOfObject_operator (typeText_of_text rfl) (Keyword.mem_operators_of_arithmetic hmem),
      if_neg (by simp [hcomparison]), if_pos hop]
  | @composite op items bound hop hformulas h ih =>
    obtain rfl := hdescribable.unbound op items bound .refl
    exact decodes_composite hop hformulas fun f hf => ih f hf (hdescribable.operand hf)

/-- A formula that is read from a form and can be described is read back from its description, and
so is as an argument everything that stands in it. -/
theorem ofValue_toValue {scope : Scope} {form : Form} {e : Formula}
    (h : ofForm scope form = .ok e) (hdescribable : e.Describable) :
    ofValue e.toValue = .ok e ∧ ∀ a, e.Has a → argumentOfValue a.toValue = .ok a := by
  obtain ⟨hbuilt, hformula⟩ := built_of_ofForm h
  refine ⟨(hbuilt.decodes hdescribable).formula hformula, fun a ha => ?_⟩
  exact ((hbuilt.of_has ha).decodes (hdescribable.of_has ha)).argument

/-- A condition about a truck and its fuel. -/
def fuelForm : Form :=
  .list [.atom "And", .list [.atom "not", .list [.atom "at", .atom "?x", .atom "home"]],
    .list [.atom "<=", .list [.atom "fuel", .atom "?x"], .atom "15e-1"]]

/-- What it is read as. -/
def fuelFormula : Formula :=
  .composite "and" [.negation (.predicate "at" [.parameter "x" (.text "truck"),
    .parameter "home" .null]), .comparison "<=" [.function "fuel" [.parameter "x" (.text "truck")],
      .number 1.5]] []

/-- It is read by the heads of its lists. -/
theorem ofForm_fuelForm : ofForm [("x", .text "truck")] fuelForm = .ok fuelFormula := by
  have hnumber (scope : Scope) : operandOfForm scope (.atom "15e-1") = .ok (.number 1.5) :=
    term_of_isNumeral (by decide) (by decide +kernel)
  have hcomparison : ofForm [("x", .text "truck")]
      (.list [.atom "<=", .list [.atom "fuel", .atom "?x"], .atom "15e-1"]) =
        .ok (.comparison "<=" [.function "fuel" [.parameter "x" (.text "truck")], .number 1.5]) := by
    rw [ofForm_atomic (by decide) (by decide), atomicOfForm_eq, List.mapM_cons, List.mapM_cons,
      hnumber]
    rfl
  rw [fuelForm, ofForm_connective (by decide) (by decide), List.mapM_cons, List.mapM_cons,
    hcomparison]
  rfl

/-- It can be described. -/
theorem describable_fuelFormula : fuelFormula.Describable := by
  have htruck : (parameter "x" (.text "truck")).Describable :=
    .parameter (by decide) (by decide +kernel)
  have hhome : (parameter "home" .null).Describable := .parameter (by decide) (by decide +kernel)
  have hat : (predicate "at" [.parameter "x" (.text "truck"), .parameter "home" .null]).Describable :=
    .of_operands rfl (by simp) (by simp [operands, htruck, hhome])
  have hnot := Describable.of_operands (e := .negation _) rfl (by simp)
    (List.forall_mem_singleton.mpr hat)
  have hfuel : (function "fuel" [.parameter "x" (.text "truck")]).Describable :=
    .of_operands rfl (by simp) (by simp [operands, htruck])
  have hnumber : (number 1.5).Describable := .of_operands rfl (by simp) (by simp [operands])
  have hcomparison : (comparison "<=" [.function "fuel" [.parameter "x" (.text "truck")],
      .number 1.5]).Describable := .of_operands rfl (by simp) (by simp [operands, hfuel, hnumber])
  apply Describable.of_operands rfl
  · rintro op items bound ⟨⟩
    rfl
  · simp [fuelFormula, operands, hnot, hcomparison]

/-- The condition is read back, and the quantity in it as an argument. -/
theorem ofValue_toValue_fuel :
    ofForm [("x", .text "truck")] fuelForm = .ok fuelFormula ∧ fuelFormula.Describable ∧
      ofValue fuelFormula.toValue = .ok fuelFormula ∧
      argumentOfValue (function "fuel" [.parameter "x" (.text "truck")]).toValue =
        .ok (.function "fuel" [.parameter "x" (.text "truck")]) := by
  obtain ⟨hformula, harguments⟩ := ofValue_toValue ofForm_fuelForm describable_fuelFormula
  have hcomparison : fuelFormula.Has (.comparison "<=" [.function "fuel"
      [.parameter "x" (.text "truck")], .number 1.5]) :=
    Relation.ReflTransGen.single (by simp [fuelFormula, operands])
  exact ⟨ofForm_fuelForm, describable_fuelFormula, hformula,
    harguments _ (hcomparison.tail List.mem_cons_self)⟩

end Formula

end PlanDiagram
