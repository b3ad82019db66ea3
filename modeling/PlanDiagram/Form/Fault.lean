import PlanDiagram.Form.Basic
import PlanDiagram.Formula.Basic
import PlanDiagram.Value.Fault

/-!
# Misplaced forms

A form that cannot be read as what its place demands. Each way this can happen is a `Fault`, and
`Fault.message` words it.
-/

namespace PlanDiagram.Form

/-- Why a form cannot be read as what its place demands. -/
inductive Fault where
  /-- A typed list ends with the dash before a type. -/
  | danglingDash
  /-- A type in a typed list has no names before it. -/
  | typeWithoutNames (type : String)
  /-- A list stands where a typed list wants a name. -/
  | nestedName (form : Form)
  /-- An atom passes for a numeral and has no value. -/
  | unreadableNumber (atom : String)
  /-- The empty list stands for an operand. -/
  | emptyOperand
  /-- An operand is a list that does not start with a name. -/
  | functionExpected (form : Form)
  /-- A formula is a list that does not start with a name. -/
  | operatorExpected (form : Form)
  /-- A negation has no argument or several. -/
  | negationArity (form : Form)
  /-- A quantifier is not followed by a list of variables. -/
  | variablesExpected (op : String) (form : Form)
  /-- Operands do not make the formula that its keyword announces. -/
  | misfit (cause : Formula.Misfit)
  /-- An action has no name. -/
  | namelessAction (form : Form)
  /-- A form stands where an action wants a keyword. -/
  | keywordExpected (action : String) (form : Form)
  /-- A keyword ends an action. -/
  | keywordWithoutValue (keyword action : String)
  /-- The parameters of an action are no list. -/
  | parametersNotList (action : String)
  /-- A form declares no predicate. -/
  | predicateExpected (form : Form)
  /-- A list of functions ends with the dash before a type. -/
  | danglingFunctionDash
  /-- A form declares no function. -/
  | functionDeclarationExpected (form : Form)
deriving Repr

/-- The wording of a fault. -/
def Fault.message : Fault → String
  | .danglingDash => "Typed list ends with '-' and no type"
  | .typeWithoutNames type => "Type '" ++ type ++ "' has no names before it"
  | .nestedName form => "Unexpected nested list in typed list: " ++ form.render
  | .unreadableNumber s => (Value.Fault.unreadableReal s).message
  | .emptyOperand => "Empty numeric expression '()'"
  | .functionExpected form => "Expected a function name, got " ++ form.render
  | .operatorExpected form => "Expected an operator or predicate name, got " ++ form.render
  | .negationArity form => "'not' expects exactly one argument: " ++ form.render
  | .variablesExpected op form => "'" ++ op ++ "' expects a variable list: " ++ form.render
  | .misfit cause => cause.message
  | .namelessAction form => "Action is missing a name: " ++ form.render
  | .keywordExpected action form =>
    "Expected a keyword in action '" ++ action ++ "', got " ++ form.render
  | .keywordWithoutValue keyword action =>
    "Keyword " ++ keyword ++ " in action '" ++ action ++ "' has no value"
  | .parametersNotList action => ":parameters of action '" ++ action ++ "' must be a list"
  | .predicateExpected form => "Bad predicate declaration: " ++ form.render
  | .danglingFunctionDash => "Function list ends with '-' and no type"
  | .functionDeclarationExpected form => "Bad function declaration: " ++ form.render

end PlanDiagram.Form
