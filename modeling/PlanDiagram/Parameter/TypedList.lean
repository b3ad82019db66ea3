import PlanDiagram.Form.Fault

/-!
# Typed lists

In `a b - t c - u d` the names before a dash take the type after it, and names at the end stay
untyped. A type is one form, of which the text is kept.
-/

namespace PlanDiagram.Parameter

/-- Reads a typed list; `pending` holds the names that wait for a type. With `marked` the mark of a
variable is dropped from names. -/
def readFrom (marked : Bool) (pending : List String) :
    List Form → Except Form.Fault (List Parameter)
  | [] => .ok (pending.map fun name => { name })
  | [.atom "-"] => .error .danglingDash
  | .atom "-" :: type :: rest =>
    if pending.isEmpty then .error (.typeWithoutNames type.render)
    else do
      let typed := pending.map fun name => { name, type := some type.render }
      return typed ++ (← readFrom marked [] rest)
  | .list entries :: _ => .error (.nestedName (.list entries))
  | .atom atom :: rest =>
    readFrom marked (pending ++ [if marked then bareName atom else atom]) rest

/-- Reads a typed list. -/
def readList (marked : Bool) (entries : List Form) : Except Form.Fault (List Parameter) :=
  readFrom marked [] entries

end PlanDiagram.Parameter
