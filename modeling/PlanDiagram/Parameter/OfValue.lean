import PlanDiagram.Parameter.Basic
import PlanDiagram.Payload.Error
import PlanDiagram.Value.Convert

/-!
# Parameters from payloads

A payload gives a parameter as a name, or as an object with a name and a type.
-/

namespace PlanDiagram.Parameter

open PlanDiagram.Payload (Error)

/-- Reads the description of a parameter. -/
def ofValue (v : Value) : Except Error Parameter :=
  match v with
  | .text s => .ok { name := bareName (Text.trim s) }
  | v =>
    match v.field? "name" with
    | some name => .ok { name := bareName name.display, type := (v.field "type").trimmed? }
    | none => .error (.parameterExpected v)

/-- Reads the descriptions of parameters in a field. -/
def listOfField (name : String) (v : Value) : Except Error (List Parameter) := do
  (← (v.field name).entriesIfPresent).mapM ofValue

end PlanDiagram.Parameter
