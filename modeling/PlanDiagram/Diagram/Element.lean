import PlanDiagram.Diagram.Box
import PlanDiagram.Value.Basic

/-!
# Elements

A diagram is a list of elements: nodes with a text in a box, arrows between boxes, and groups that
hold the elements of a block together.
-/

namespace PlanDiagram.Diagram

/-- An identifier with every character replaced that is no letter, digit, underscore or hyphen of
ASCII. -/
def sanitize (id : String) : String :=
  String.ofList (id.toList.map fun c => if c.isAlphanum || c == '_' || c == '-' then c else '_')

/-- How a text is placed in its node. -/
inductive Align where
  | left
  | center
deriving DecidableEq, Repr

/-- The name of an alignment. -/
def Align.name : Align → String
  | .left => "left"
  | .center => "center"

/-- A text in a box. A node that holds a description tells of what. -/
structure Node (α : Type) where
  box : Box α
  text : String
  fill : String
  stroke : String
  align : Align := .center
  describes : Option String := none
  group : String

/-- An arrow from one box to another. -/
structure Arrow (α : Type) where
  id : String
  source : Box α
  target : Box α
  stroke : String
  label : Option String := none
  group : Option String := none

/-- The wrapper around the elements of a block. -/
structure Group where
  id : String
  description : String
  members : List String
  data : List (String × Value)

/-- A node, an arrow or a group. -/
inductive Element (α : Type) where
  | node (node : Node α)
  | arrow (arrow : Arrow α)
  | group (group : Group)

/-- The identifier of an element. -/
def Element.id {α : Type} : Element α → String
  | .node n => n.box.id
  | .arrow a => a.id
  | .group g => g.id

end PlanDiagram.Diagram
