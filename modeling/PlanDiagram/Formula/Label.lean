import PlanDiagram.Formula.Basic
import PlanDiagram.Formula.Keyword
import PlanDiagram.Value.Display

/-!
# Labels of formulas

The short texts by which nodes of a diagram name formulas. A function is named with the labels of
its arguments in parentheses; predicates and operators are named without their operands.
-/

namespace PlanDiagram.Formula

/-- A function with the labels of its arguments; empty and unknown ones are left out. -/
def functionLabel (name : String) (arguments : List String) : String :=
  let shown := arguments.filter fun text => text != "" && text != "?"
  if shown.isEmpty then name else name ++ "(" ++ ", ".intercalate shown ++ ")"

mutual

/-- The short text for a formula. -/
def label : Formula → String
  | .parameter name _ => name
  | .number value => Number.label value
  | .function name arguments => functionLabel name (labels arguments)
  | .predicate name _ => name
  | .numeric change _ => Keyword.operatorSign change.name ""
  | .arithmetic op _ => Keyword.operatorSign op ""
  | .comparison op _ => Keyword.comparisonSign op
  | .negation _ => "not"
  | .composite .. => "composite"

/-- The short texts for several formulas. -/
def labels : List Formula → List String
  | [] => []
  | f :: rest => f.label :: labels rest

end

/-- Each formula is labelled on its own. -/
theorem labels_eq_map (formulas : List Formula) : labels formulas = formulas.map label := by
  induction formulas with
  | nil => rfl
  | cons f rest ih => simp [labels, ih]

/-- The label of an operand that may be missing. -/
def label? : Option Formula → String
  | some f => f.label
  | none => "?"

/-- The label of a literal for a predicate. -/
def literalLabel (name : String) (negated : Bool) : String :=
  if negated then "not " ++ name else name

/-- The sign on the node of an operator: its own, or for a formula without one the name of its
kind. -/
def sign : Formula → String
  | .predicate name _ => if name == "" then "predicate" else name
  | .comparison op _ => Keyword.comparisonSign op
  | .numeric change _ => Keyword.operatorSign change.name "numeric"
  | .arithmetic op _ => Keyword.operatorSign op "arithmetic"
  | .composite op _ _ => Keyword.operatorSign op "composite"
  | f => f.kindName

/-- The text of an operand that stands for a number: a number, or a name that is a numeral. -/
def literalText? : Formula → Option String
  | .number value => some (Number.label value)
  | .parameter name _ => if Number.isNumeral name then some (Text.trim name) else none
  | _ => none

/-- The label of a parameter as an argument: the name, and the type after a colon. -/
def parameterLabel (name : String) (type : Value) : String :=
  if type.isPresent then name ++ ": " ++ type.display else name

end PlanDiagram.Formula
