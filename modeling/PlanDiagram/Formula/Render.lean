import PlanDiagram.Formula.Basic
import PlanDiagram.Value.Display

/-!
# Formulas as text

`render` writes a formula in the notation of planning texts. A formula does not record which of its
names are variables, so the marks of variables are put back for the names of a given list and for
those that an enclosing quantifier binds.
-/

namespace PlanDiagram.Formula

/-- The parts of a list of the notation, between parentheses. -/
def parenthesise (parts : List String) : String :=
  "(" ++ " ".intercalate parts ++ ")"

/-- The list of variables of a quantifier, which is left out when it is empty. -/
def variableParts (bound : List Parameter) : List String :=
  if bound.isEmpty then []
  else [parenthesise (bound.map Parameter.variableDeclaration)]

mutual

/-- A formula in the notation of planning texts; `names` are those that get the mark of a
variable. -/
def render (names : List String) : Formula → String
  | .parameter name _ => if names.contains name then "?" ++ name else name
  | .number value => Number.label value
  | .negation argument => "(not " ++ argument.render names ++ ")"
  | .composite op items bound =>
    parenthesise (op :: variableParts bound ++ renderAll (bound.map Parameter.name ++ names) items)
  | .predicate name arguments => parenthesise (name :: renderAll names arguments)
  | .function name arguments => parenthesise (name :: renderAll names arguments)
  | .numeric change arguments => parenthesise (change.name :: renderAll names arguments)
  | .comparison op arguments => parenthesise (op :: renderAll names arguments)
  | .arithmetic op arguments => parenthesise (op :: renderAll names arguments)

/-- Several formulas in the notation of planning texts. -/
def renderAll (names : List String) : List Formula → List String
  | [] => []
  | f :: rest => f.render names :: renderAll names rest

end

/-- Each formula is rendered on its own. -/
theorem renderAll_eq_map (names : List String) (formulas : List Formula) :
    renderAll names formulas = formulas.map (render names) := by
  induction formulas with
  | nil => rfl
  | cons f rest ih => simp [renderAll, ih]

end PlanDiagram.Formula
