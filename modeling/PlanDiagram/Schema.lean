import PlanDiagram.Parameter.TypedList

/-!
# Schemas

The declarations of a domain: types with their parents, predicates and functions with their
parameters. Each has a line of text in the notation of planning texts.
-/

namespace PlanDiagram

/-- A type, and the type that it belongs to. -/
structure TypeDeclaration where
  name : String
  parent : Option String := none
deriving DecidableEq, Repr

/-- The line for a type. -/
def TypeDeclaration.line (t : TypeDeclaration) : String :=
  (Parameter.mk t.name t.parent).declaration

/-- The name of a predicate or function with its parameters, between parentheses. -/
def signatureText (name : String) (arguments : List Parameter) : String :=
  "(" ++ " ".intercalate (name :: arguments.map Parameter.variableDeclaration) ++ ")"

/-- A predicate with its parameters. -/
structure PredicateSchema where
  name : String
  arguments : List Parameter := []
deriving DecidableEq, Repr

/-- The line for a predicate. -/
def PredicateSchema.signature (p : PredicateSchema) : String :=
  signatureText p.name p.arguments

/-- A function with its parameters and the type of its values. -/
structure FunctionSchema where
  name : String
  arguments : List Parameter := []
  returnType : Option String := none
deriving DecidableEq, Repr

/-- The line for a function. -/
def FunctionSchema.signature (f : FunctionSchema) : String :=
  match f.returnType.filter (· != "") with
  | some type => signatureText f.name f.arguments ++ " - " ++ type
  | none => signatureText f.name f.arguments

/-- Reads the declaration of a predicate. -/
def PredicateSchema.ofForm : Form → Except Form.Fault PredicateSchema
  | .list (.atom name :: rest) => do
    return { name, arguments := ← Parameter.readList true rest }
  | form => .error (.predicateExpected form)

/-- Reads declarations of functions. A type after a dash is given to the functions of `pending`,
which are those since the last type. -/
def FunctionSchema.readFrom (pending : List FunctionSchema) :
    List Form → Except Form.Fault (List FunctionSchema)
  | [] => .ok pending
  | [.atom "-"] => .error .danglingFunctionDash
  | .atom "-" :: type :: rest => do
    let typed := pending.map fun f => { f with returnType := some type.render }
    return typed ++ (← readFrom [] rest)
  | .list (.atom name :: parameters) :: rest => do
    let arguments ← Parameter.readList true parameters
    readFrom (pending ++ [{ name, arguments }]) rest
  | form :: _ => .error (.functionDeclarationExpected form)

/-- Reads declarations of functions. -/
def FunctionSchema.readList (entries : List Form) : Except Form.Fault (List FunctionSchema) :=
  readFrom [] entries

end PlanDiagram
