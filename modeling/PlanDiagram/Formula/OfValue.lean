import PlanDiagram.Formula.Keyword
import PlanDiagram.Payload.Error
import PlanDiagram.Value.Below

/-!
# Formulas from payloads

A payload describes a formula by an object with a type: the kind of the formula or its operator,
with the operands under `arguments`, and formulas below under `argument`, `children` or `items`.
Numbers and texts stand for arguments too. An object of any other type is a composite of everything
below it.
-/

namespace PlanDiagram.Formula

open PlanDiagram.Payload (Error)

/-- The fields that only a formula has. -/
def formulaFields : List String :=
  ["arguments", "children", "argument", "items"]

/-- The types of formulas that need no fields of their own. -/
def isFormulaType (type : String) : Bool :=
  ["predicate", "function", "not", "number"].contains type ||
    (NumericChange.ofName? type).isSome || Keyword.isComparison type || Keyword.isArithmetic type

/-- The type of an object, as a text. -/
def typeText (v : Value) : String :=
  if (v.field "type").isPresent then (v.field "type").display else ""

/-- A text as an argument: a number if it is a numeral, else a name. -/
def argumentOfText (s : String) : Except Error Formula :=
  let text := Text.trim s
  if Number.isNumeral text then do return .number (← (Value.text text).toReal)
  else .ok (.parameter (Parameter.bareName text) .null)

/-- Reads an object of the given type as an argument, when its fields say nothing else; `formula` is
the reading of the object as a formula. -/
def argumentOfObject (v : Value) (formula : Unit → Except Error Formula) :
    Except Error Formula :=
  let type := Text.lower (typeText v)
  if formulaFields.any v.hasField || type == "predicate" || type == "function" then formula ()
  else if type == "number" && v.hasField "value" then do
    return .number (← (v.field "value").toReal)
  else if v.hasField "name" then
    .ok (.parameter (Parameter.bareName (v.field "name").display) (v.field "type"))
  else if isFormulaType type then formula ()
  else .error (.argumentExpected v)

/-- The formulas that an object describes below it, each read when it is wanted. -/
structure Below where
  children : Unit → Except Error (List Formula)
  items : Unit → Except Error (List Formula)
  argument : Option (Unit → Except Error Formula)

/-- The negation that an object describes: of its `argument`, or of the only entry of its
`children`, or of its `items` if it has no children. -/
def negationOfObject (v : Value) (below : Below) : Except Error Formula :=
  match below.argument with
  | some argument => do return .negation (← argument ())
  | none => do
    let fromChildren := (v.field "children").isPresent
    let raw := if fromChildren then v.field "children" else v.field "items"
    match ← (raw.orElse (.list [])).onlyEntry with
    | none => throw .negationArity
    | some _ =>
      match ← if fromChildren then below.children () else below.items () with
      | [f] => return .negation f
      | _ => throw .negationArity

/-- The composite that an object describes: everything below it that is a formula. -/
def compositeOfObject (op : String) (arguments : List Formula) (below : Below) :
    Except Error Formula := do
  let children ← below.children ()
  let items ← below.items ()
  let argument ←
    match below.argument with
    | some argument => do pure [← argument ()]
    | none => pure []
  let formulas := arguments.filter (!·.isParameter)
  return .composite (if op == "" then "and" else op) (children ++ items ++ argument ++ formulas) []

/-- The formula that an object describes, with the given arguments and formulas below. -/
def formulaOfObject (v : Value) (arguments : List Formula) (below : Below) :
    Except Error Formula :=
  let op := Text.lower (Text.trim (typeText v))
  let name := (v.field? "name").elim "" Value.display
  if op == "predicate" then .ok (.predicate name arguments)
  else if op == "function" then .ok (.function name arguments)
  else if op == "number" then do
    return .number (← ((v.field? "value").getD (.int 0)).toReal)
  else if op == "not" then negationOfObject v below
  else
    match NumericChange.ofName? op with
    | some change => .ok (.numeric change arguments)
    | none =>
      if Keyword.isComparison op then (compare op arguments).mapError .misfit
      else if Keyword.isArithmetic op then .ok (.arithmetic op arguments)
      else compositeOfObject op arguments below

mutual

/-- Reads the description of an argument. -/
def argumentOfValue (v : Value) : Except Error Formula :=
  match v with
  | .int n => do return .number (← Value.realOfInt n)
  | .float x => .ok (.number x)
  | .text s => argumentOfText s
  | .object fields => argumentOfObject (.object fields) fun _ => ofValue (.object fields)
  | v => .error (.argumentExpected v)
termination_by (v.depth, 2)

/-- Reads the description of a formula. -/
def ofValue (v : Value) : Except Error Formula :=
  match v with
  | .object fields => do
    let entries ← (Value.object fields).fieldEntries "arguments"
    let arguments ← argumentsOfValues (.object fields) entries
    formulaOfObject (.object fields) arguments {
      children := fun _ => do
        ofValues (.object fields) (← (Value.object fields).fieldEntries "children")
      items := fun _ => do
        ofValues (.object fields) (← (Value.object fields).fieldEntries "items")
      argument := ((Value.object fields).fieldBelow? "argument").map fun w _ => ofValue w.1 }
  | v => .error (.formulaExpected v)
termination_by (v.depth, 1)

/-- Reads the descriptions of arguments that lie below `v`. -/
def argumentsOfValues (v : Value) (ws : List v.Below) : Except Error (List Formula) :=
  ws.mapM fun w => argumentOfValue w.1
termination_by (v.depth, 0)
decreasing_by exact Prod.Lex.left _ _ w.2

/-- Reads the descriptions of formulas that lie below `v`. -/
def ofValues (v : Value) (ws : List v.Below) : Except Error (List Formula) :=
  ws.mapM fun w => ofValue w.1
termination_by (v.depth, 0)
decreasing_by exact Prod.Lex.left _ _ w.2

end

end PlanDiagram.Formula
