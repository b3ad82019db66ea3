/-!
# Parameters

A parameter is a name with an optional type: a variable of an action or quantifier, an object, a
constant.
-/

namespace PlanDiagram

/-- A name with an optional type. -/
structure Parameter where
  name : String
  type : Option String := none
deriving DecidableEq, Repr, Inhabited

namespace Parameter

/-- The type, unless it is missing or the empty text. -/
def shownType (p : Parameter) : Option String :=
  p.type.filter (· != "")

/-- The text on a node: the name, and the type after a colon. -/
def label (p : Parameter) : String :=
  match p.shownType with
  | some type => p.name ++ ": " ++ type
  | none => p.name

/-- The parameter in a declaration: the name, and the type after a dash. -/
def declaration (p : Parameter) : String :=
  match p.shownType with
  | some type => p.name ++ " - " ++ type
  | none => p.name

/-- The declaration of the parameter as a variable. -/
def variableDeclaration (p : Parameter) : String :=
  "?" ++ p.declaration

/-- A name without the mark of a variable. -/
def bareName (name : String) : String :=
  match name.toList with
  | '?' :: rest => String.ofList rest
  | _ => name

end Parameter

end PlanDiagram
