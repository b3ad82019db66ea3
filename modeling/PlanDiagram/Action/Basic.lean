import PlanDiagram.Formula.Basic
import PlanDiagram.Section

/-!
# Actions

An action has parameters, conditions and effects. An action of a planning text also keeps the text
of its conditions and effects, and the keywords that were not understood.
-/

namespace PlanDiagram

/-- An action of a domain. -/
structure Action where
  name : String
  parameters : List Parameter := []
  preconditions : List Formula := []
  effects : List Formula := []
  description : Option String := none
  durative : Bool := false
  extras : List Section := []
  preconditionText : Option String := none
  effectText : Option String := none
deriving Inhabited

end PlanDiagram
