import PlanDiagram.Formula.Keyword
import PlanDiagram.Formula.Scope
import PlanDiagram.Parameter.TypedList

/-!
# Formulas from forms

A form is read as a formula by its head: a connective, a quantifier, a comparison, a numeric effect,
else a predicate. Operands are numbers, names, arithmetic or function terms. Keywords are recognised
in any letter case, and names take the types that the scope gives them.
-/

namespace PlanDiagram.Formula

/-- The value of an atom that is a numeral. -/
def numberOf? (atom : String) : Except Form.Fault (Option Float) :=
  if Number.isNumeral atom then
    match Number.readReal? atom with
    | some value => .ok (some value)
    | none => .error (.unreadableNumber atom)
  else .ok none

/-- An atom as an argument: a number, or a name with the type that the scope gives it. -/
def term (scope : Scope) (atom : String) : Except Form.Fault Formula := do
  match ← numberOf? atom with
  | some value => return .number value
  | none =>
    let name := Parameter.bareName atom
    return .parameter name (scope.typeOf name)

mutual

/-- Reads a form as an operand. -/
def operandOfForm (scope : Scope) : Form → Except Form.Fault Formula
  | .atom atom => term scope atom
  | .list [] => .error .emptyOperand
  | .list (.list head :: rest) => .error (.functionExpected (.list (.list head :: rest)))
  | .list (.atom head :: rest) => do
    let op := Text.lower head
    let arguments ← operandsOfForms scope rest
    return if Keyword.isArithmetic op then .arithmetic op arguments else .function head arguments

/-- Reads forms as operands. -/
def operandsOfForms (scope : Scope) : List Form → Except Form.Fault (List Formula)
  | [] => .ok []
  | form :: rest => do
    let operand ← operandOfForm scope form
    return operand :: (← operandsOfForms scope rest)

end

/-- The word that a timed condition or effect adds to its head. -/
def timeWord? (op : String) : List Form → Option String
  | [.atom word, .list _] =>
    let word := Text.lower word
    if Keyword.timeSpecifiers.contains (op, word) then some word else none
  | _ => none

/-- Reads a form with neither connective nor quantifier at its head. -/
def atomicOfForm (scope : Scope) (head : String) (rest : List Form) :
    Except Form.Fault Formula := do
  let op := Text.lower head
  let arguments ← operandsOfForms scope rest
  if Keyword.isComparison op then (compare op arguments).mapError .misfit
  else
    match NumericChange.ofName? op with
    | some change => return .numeric change arguments
    | none => return .predicate head arguments

mutual

/-- Reads a form as a formula. -/
def ofForm (scope : Scope) : Form → Except Form.Fault Formula
  | .atom atom => do
    match ← numberOf? atom with
    | some value => return .number value
    | none => return .predicate atom []
  | .list [] => .ok (.composite "and" [] [])
  | .list (.list head :: rest) => .error (.operatorExpected (.list (.list head :: rest)))
  | .list (.atom head :: rest) =>
    let op := Text.lower head
    if op == "not" then
      match rest with
      | [form] => do return .negation (← ofForm scope form)
      | _ => .error (.negationArity (.list (.atom head :: rest)))
    else if Keyword.connectives.contains op then
      match rest with
      | .atom atom :: named => do
        if op == "preference" then return .composite op (← ofForms scope named) []
        else return .composite op (← ofForms scope (.atom atom :: named)) []
      | rest => do return .composite op (← ofForms scope rest) []
    else if Keyword.quantifiers.contains op then
      match rest with
      | .list declared :: body => do
        let bound ← Parameter.readList true declared
        return .composite op (← ofForms (scope.bind bound) body) bound
      | _ => .error (.variablesExpected op (.list (.atom head :: rest)))
    else if op == "when" then do return .composite op (← ofForms scope rest) []
    else
      match timeWord? op rest with
      | some word =>
        match rest with
        | [_, form] => do return .composite (op ++ " " ++ word) [← ofForm scope form] []
        | _ => atomicOfForm scope head rest
      | none => atomicOfForm scope head rest

/-- Reads forms as formulas. -/
def ofForms (scope : Scope) : List Form → Except Form.Fault (List Formula)
  | [] => .ok []
  | form :: rest => do
    let f ← ofForm scope form
    return f :: (← ofForms scope rest)

end

end PlanDiagram.Formula
