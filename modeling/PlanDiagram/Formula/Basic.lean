import PlanDiagram.Parameter.Basic
import PlanDiagram.Value.Basic

/-!
# Formulas

Conditions, effects, facts, goals and the terms inside them are one type of trees. A parameter may
stand as an argument; every other node counts as an expression, and `children` are the expressions
directly below one.
-/

namespace PlanDiagram

/-- The ways in which an effect changes a number. -/
inductive NumericChange where
  | increase
  | decrease
  | assign
  | scaleUp
  | scaleDown
deriving DecidableEq, Repr

/-- The keyword of a change. -/
def NumericChange.name : NumericChange → String
  | .increase => "increase"
  | .decrease => "decrease"
  | .assign => "assign"
  | .scaleUp => "scale-up"
  | .scaleDown => "scale-down"

/-- The change with the given keyword. -/
def NumericChange.ofName? : String → Option NumericChange
  | "increase" => some .increase
  | "decrease" => some .decrease
  | "assign" => some .assign
  | "scale-up" => some .scaleUp
  | "scale-down" => some .scaleDown
  | _ => none

/-- Each change is found by its keyword. -/
@[simp] theorem NumericChange.ofName?_name (change : NumericChange) :
    NumericChange.ofName? change.name = some change := by
  cases change <;> rfl

/-- Conditions, effects and facts, with the terms inside them. The type of a parameter is a text or
nothing, or whatever value a payload gives for it. -/
inductive Formula where
  | parameter (name : String) (type : Value)
  | number (value : Float)
  | predicate (name : String) (arguments : List Formula)
  | function (name : String) (arguments : List Formula)
  | negation (argument : Formula)
  | numeric (change : NumericChange) (arguments : List Formula)
  | comparison (op : String) (arguments : List Formula)
  | arithmetic (op : String) (arguments : List Formula)
  | composite (op : String) (items : List Formula) (bound : List Parameter)
deriving Repr, Inhabited

namespace Formula

/-- Why operands do not make a formula. -/
inductive Misfit where
  /-- A comparison has more than two operands. -/
  | tooManyOperands (op : String) (count : Nat)
  /-- A keyword names no numeric change. -/
  | unknownChange (name : String)
deriving DecidableEq, Repr

/-- The wording of a misfit. -/
def Misfit.message : Misfit → String
  | .tooManyOperands op count =>
    "Comparator '" ++ op ++ "' takes at most two arguments, got " ++ toString count
  | .unknownChange name => "Unknown numeric effect '" ++ name ++ "'"

/-- A comparison, which has at most two operands. -/
def compare (op : String) (arguments : List Formula) : Except Misfit Formula :=
  if 2 < arguments.length then .error (.tooManyOperands op arguments.length)
  else .ok (.comparison op arguments)

/-- A numeric effect by its keyword. -/
def change (name : String) (arguments : List Formula) : Except Misfit Formula :=
  match NumericChange.ofName? name with
  | some change => .ok (.numeric change arguments)
  | none => .error (.unknownChange name)

/-- The name of the kind of a formula. -/
def kindName : Formula → String
  | .parameter .. => "parameter"
  | .number _ => "number"
  | .predicate .. => "predicate"
  | .function .. => "function"
  | .negation _ => "not"
  | .numeric .. => "numeric"
  | .comparison .. => "comparator"
  | .arithmetic .. => "arithmetic"
  | .composite .. => "composite"

/-- Tells whether a formula is a parameter that stands as an argument. -/
def isParameter : Formula → Bool
  | .parameter .. => true
  | _ => false

/-- The operands directly below a formula, parameters included. -/
def operands : Formula → List Formula
  | .parameter .. => []
  | .number _ => []
  | .predicate _ arguments => arguments
  | .function _ arguments => arguments
  | .negation argument => [argument]
  | .numeric _ arguments => arguments
  | .comparison _ arguments => arguments
  | .arithmetic _ arguments => arguments
  | .composite _ items _ => items

/-- The expressions directly below a formula. -/
def children : Formula → List Formula
  | .negation argument => [argument]
  | .composite _ items _ => items
  | f => f.operands.filter (!·.isParameter)

/-- The name of a parameter. -/
def parameterName? : Formula → Option String
  | .parameter name _ => some name
  | _ => none

/-- The names of the parameters among the arguments of a predicate or function. -/
def argumentNames : Formula → List String
  | .predicate _ arguments | .function _ arguments => arguments.filterMap parameterName?
  | _ => []

/-- The quantity that a numeric effect changes. -/
def target? : Formula → Option Formula
  | .numeric _ arguments => arguments.head?
  | _ => none

end Formula

end PlanDiagram
