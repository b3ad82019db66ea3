import PlanDiagram.Action.Basic
import PlanDiagram.Formula.OfValue
import PlanDiagram.Parameter.OfValue

/-!
# Actions from payloads
-/

namespace PlanDiagram

open PlanDiagram.Payload (Error)

/-- Reads formulas: nothing, one object, or a sequence of them. -/
def Formula.listOfValue (v : Value) : Except Error (List Formula) := do
  match v with
  | .null => return []
  | .object fields => return [← Formula.ofValue (.object fields)]
  | v => (← v.entries).mapM Formula.ofValue

/-- Reads the description of an action. -/
def Action.ofValue (v : Value) : Except Error Action := do
  v.requireFields
  match (v.field "name").trimmed? with
  | none => throw .namelessAction
  | some name =>
    let parameters ← Parameter.listOfField "parameters" v
    let preconditions ← Formula.listOfValue (v.field "preconditions")
    let effects ← Formula.listOfValue (v.field "effects")
    return {
      name
      parameters
      preconditions
      effects
      description := (v.field "description").trimmed?.or (v.field "actionDescription").trimmed? }

end PlanDiagram
