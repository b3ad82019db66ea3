import PlanDiagram.Value.Basic

/-!
# Outlines

An outline is a tree of texts with a root. It can be searched along a path, and it has a form as
data.
-/

namespace PlanDiagram

/-- A tree of texts. -/
inductive Outline where
  | node (text : String) (children : List Outline)
deriving Inhabited

namespace Outline

/-- The text of a node. -/
def text : Outline → String
  | node text _ => text

/-- The nodes below a node. -/
def children : Outline → List Outline
  | node _ children => children

/-- A node without nodes below. -/
def leaf (text : String) : Outline :=
  node text []

/-- The first node below with the given text. -/
def find? (o : Outline) (text : String) : Option Outline :=
  o.children.find? fun child => child.text == text

/-- The node that is reached from a node along a path of texts. -/
def follow? (o : Outline) : List String → Option Outline
  | [] => some o
  | text :: rest =>
    match o.find? text with
    | some child => child.follow? rest
    | none => none

mutual

/-- A node below the root as data. -/
def toValue : Outline → Value
  | node text children => .object [
      ("type", .text "mind_child"),
      ("text", .text text),
      ("children", .list (toValues children))]

/-- Several nodes as data. -/
def toValues : List Outline → List Value
  | [] => []
  | o :: rest => o.toValue :: toValues rest

end

/-- An outline as data, with its node as the root. -/
def rootValue : Outline → Value
  | node text children => .object [
      ("type", .text "mindmap"),
      ("text", .text text),
      ("children", .list (toValues children)),
      ("isRoot", .bool true),
      ("layout", .text "right"),
      ("points", .list [.list [.int 0, .int 0]])]

end Outline

end PlanDiagram
