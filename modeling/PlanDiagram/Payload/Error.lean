import PlanDiagram.Formula.Basic
import PlanDiagram.Value.Fault

/-!
# Faulty payloads

Payloads are values in the shape in which a parsing service describes domains and problems. Each way
in which a value can fail to be one is an `Error`, and `Error.message` words it.
-/

namespace PlanDiagram.Payload

/-- Why a value is no payload. -/
inductive Error where
  /-- A value inside cannot be used where it stands. -/
  | fault (cause : Value.Fault)
  /-- Operands do not make the formula that its type announces. -/
  | misfit (cause : Formula.Misfit)
  /-- A value describes no argument. -/
  | argumentExpected (found : Value)
  /-- A value describes no formula. -/
  | formulaExpected (found : Value)
  /-- A negation has no argument or several. -/
  | negationArity
  /-- A value describes no parameter. -/
  | parameterExpected (found : Value)
  /-- A value describes no type. -/
  | typeExpected (found : Value)
  /-- An action has no name. -/
  | namelessAction
  /-- A value is no description of a domain. -/
  | domainExpected
  /-- A value is no description of a problem. -/
  | problemExpected
deriving Repr

/-- The wording of an error. -/
def Error.message : Error → String
  | .fault cause => cause.message
  | .misfit cause => cause.message
  | .argumentExpected found => "Bad expression argument: " ++ found.literal
  | .formulaExpected found => "Expected an expression object, got " ++ found.literal
  | .negationArity => "'not' expects exactly one argument"
  | .parameterExpected found => "Bad typed parameter entry: " ++ found.literal
  | .typeExpected found => "Bad type entry: " ++ found.literal
  | .namelessAction => "Action entry missing 'name'."
  | .domainExpected => "Domain payload needs a 'name' and an 'actions' list."
  | .problemExpected => "Problem payload needs a 'name' and an 'objects' list."

/-- A faulty value makes a faulty payload. -/
instance : MonadLift (Except Value.Fault) (Except Error) where
  monadLift result := result.mapError .fault

/-- A formula that cannot be built makes a faulty payload. -/
instance : MonadLift (Except Formula.Misfit) (Except Error) where
  monadLift result := result.mapError .misfit

end PlanDiagram.Payload
