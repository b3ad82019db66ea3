import PlanDiagram.Action.OfValue
import PlanDiagram.Domain.Basic
import PlanDiagram.Problem.Basic

/-!
# Domains and problems from payloads
-/

namespace PlanDiagram

open PlanDiagram.Payload (Error)

/-- Cuts a text at its first colon. -/
def Text.cutAtColon? (cs : List Char) : Option (List Char × List Char) :=
  match cs.dropWhile (· != ':') with
  | _ :: rest => some (cs.takeWhile (· != ':'), rest)
  | [] => none

/-- Reads the description of a type: a name, a name and a parent around a colon, or an object. -/
def TypeDeclaration.ofValue (v : Value) : Except Error TypeDeclaration :=
  match v with
  | .text s =>
    match Text.cutAtColon? s.toList with
    | some (name, parent) =>
      .ok {
        name := String.ofList (Text.trimChars name)
        parent := (Value.text (String.ofList parent)).trimmed? }
    | none => .ok { name := Text.trim s }
  | v =>
    if (v.field "name").isPresent then
      .ok { name := (v.field "name").display, parent := (v.field "parent").trimmed? }
    else .error (.typeExpected v)

/-- Reads the description of a predicate. -/
def PredicateSchema.ofValue (v : Value) : Except Error PredicateSchema := do
  let name ← v.demandField "name"
  return { name := name.display, arguments := ← Parameter.listOfField "arguments" v }

/-- Reads the description of a function. -/
def FunctionSchema.ofValue (v : Value) : Except Error FunctionSchema := do
  let name ← v.demandField "name"
  let arguments ← Parameter.listOfField "arguments" v
  return { name := name.display, arguments, returnType := (v.field "return_type").trimmed? }

/-- The texts of the entries of a field. -/
def Value.textsOfField (name : String) (v : Value) : Except Error (List String) := do
  return (← (v.field name).entriesIfPresent).map Value.display

/-- Reads the description of a domain. -/
def Domain.ofValue (v : Value) : Except Error Domain := do
  match v.field? "name", v.field? "actions" with
  | some (.text name), some (.list actions) =>
    let types ← (← (v.field "types").entriesIfPresent).mapM TypeDeclaration.ofValue
    let predicates ← (← (v.field "predicates").entriesIfPresent).mapM PredicateSchema.ofValue
    let functions ← (← (v.field "functions").entriesIfPresent).mapM FunctionSchema.ofValue
    let requirements ← v.textsOfField "requirements"
    let actions ← actions.mapM Action.ofValue
    return { name, requirements, types, predicates, functions, actions }
  | _, _ => throw .domainExpected

/-- The first entry of a value that does not count as absent. -/
def Value.firstEntry : Value → Except Value.Fault Value
  | .list (v :: _) => .ok v
  | .list [] => .error (.noEntryNamed .list)
  | .text s =>
    match s.toList with
    | c :: _ => .ok (.text c.toString)
    | [] => .error (.noEntryNamed .text)
  | .object _ => .error (.missingField "0")
  | v => .error (.noEntryNamed v.kind)

/-- Reads the description of a metric. -/
def Metric.ofValue (v : Value) : Except Error Metric := do
  let direction := ((v.field "type").orElse (.text "minimize")).display
  let arguments := v.field "arguments"
  if arguments.isPresent then
    let first ← arguments.firstEntry
    return { direction, expression := some (← Formula.argumentOfValue first) }
  else return { direction, expression := none }

/-- Reads the description of a problem. -/
def Problem.ofValue (v : Value) : Except Error Problem := do
  match v.field? "name", v.field? "objects" with
  | some (.text name), some (.list objects) =>
    let requirements ← v.textsOfField "requirements"
    let objects ← objects.mapM Parameter.ofValue
    let init ← Formula.listOfValue (v.field "init")
    let goal ←
      if (v.field "goal").isPresent then do pure (some (← Formula.ofValue (v.field "goal")))
      else pure none
    let metric ←
      match (v.field "metrics").orElse (v.field "metric") with
      | .object fields => do pure (some (← Metric.ofValue (.object fields)))
      | _ => pure none
    return {
      name
      domainName := (v.field "domain_name").trimmed?.or (v.field "domain").trimmed?
      requirements
      objects
      init
      goal
      initDescription := (v.field "initDescription").trimmed?
      goalDescription := (v.field "goalDescription").trimmed?
      metric }
  | _, _ => throw .problemExpected

end PlanDiagram
