import PlanDiagram.Formula.Basic
import PlanDiagram.Section

/-!
# Problems
-/

namespace PlanDiagram

/-- What a plan should minimise or maximise. -/
structure Metric where
  direction : String
  expression : Option Formula
deriving Inhabited

/-- A planning problem: objects, facts and a goal for a domain. -/
structure Problem where
  name : String
  domainName : Option String := none
  requirements : List String := []
  objects : List Parameter := []
  init : List Formula := []
  goal : Option Formula := none
  initDescription : Option String := none
  goalDescription : Option String := none
  metric : Option Metric := none
  sections : List Section := []
deriving Inhabited

end PlanDiagram
