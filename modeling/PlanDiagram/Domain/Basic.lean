import PlanDiagram.Action.Basic
import PlanDiagram.Schema

/-!
# Domains
-/

namespace PlanDiagram

/-- A planning domain: its declarations and its actions. -/
structure Domain where
  name : String
  requirements : List String := []
  types : List TypeDeclaration := []
  constants : List Parameter := []
  predicates : List PredicateSchema := []
  functions : List FunctionSchema := []
  actions : List Action := []
  sections : List Section := []
deriving Inhabited

end PlanDiagram
