import PlanDiagram.Parameter.Basic
import PlanDiagram.Value.Basic

/-!
# Scopes

A scope gives types to names. Inner bindings hide outer ones, and of several bindings of a name in
one list the last counts.
-/

namespace PlanDiagram

/-- Names with their types, the binding that counts first. -/
abbrev Scope := List (String × Value)

namespace Scope

/-- The type of a name, which is nothing for a name without a binding. -/
def typeOf (scope : Scope) (name : String) : Value :=
  (scope.lookup name).getD .null

/-- Binds the parameters of a list. -/
def bind (scope : Scope) (parameters : List Parameter) : Scope :=
  (parameters.map fun p => (p.name, Value.ofText? p.type)).reverse ++ scope

/-- The scope of a list of declarations. -/
def ofParameters (parameters : List Parameter) : Scope :=
  bind [] parameters

/-- A list without parameters binds nothing. -/
@[simp] theorem bind_nil (scope : Scope) : scope.bind [] = scope := rfl

end Scope

end PlanDiagram
