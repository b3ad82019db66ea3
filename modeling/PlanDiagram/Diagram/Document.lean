import PlanDiagram.Diagram.Element
import PlanDiagram.Entries

/-!
# Diagrams as data

The elements of a diagram as objects, in the form in which a canvas reads them. Where the arrows
start and end is worked out here.
-/

namespace PlanDiagram.Diagram

/-- A point as a list of two numbers. -/
def Point.toValue (p : Point Float) : Value :=
  .list [.float p.x, .float p.y]

/-- A text as a paragraph. -/
def paragraph (text : String) (align : Align) : Value :=
  .object [("children", .list [.object [
    ("type", .text "paragraph"),
    ("align", .text align.name),
    ("children", .list [.object [("text", .text text)]])]])]

/-- The field for the group of an element, if it has one. -/
def groupField (group : Option String) : List (String × Value) :=
  match group.filter (· != "") with
  | some group => [("groupId", .text group)]
  | none => []

/-- A node as an object. -/
def Node.toValue (n : Node Float) : Value :=
  let data :=
    match n.describes with
    | some role => [("data", Value.object [
        ("role", .text (role ++ "-description")),
        ("showOnHover", .bool true),
        ("editable", .bool true)])]
    | none => []
  .object ([
    ("id", .text n.box.id),
    ("type", .text "geometry"),
    ("shape", .text n.box.shape.name),
    ("points", .list [n.box.origin.toValue, n.box.corner.toValue]),
    ("angle", .int 0),
    ("opacity", .int 1),
    ("fill", .text n.fill),
    ("strokeColor", .text n.stroke),
    ("strokeWidth", .int 2),
    ("text", paragraph n.text n.align)] ++ groupField (some n.group) ++ data)

/-- An end of an arrow as an object. -/
def arrowEnd (box : Box Float) (point : Point Float) (marker : String) : Except Fault Value := do
  return .object [
    ("boundId", .text box.id),
    ("connection", (← box.connection point).toValue),
    ("marker", .text marker)]

/-- An arrow as an object. It runs from border to border along the line between the centres. -/
def Arrow.toValue (a : Arrow Float) : Except Fault Value := do
  let start ← a.source.borderTowards a.target.center
  let stop ← a.target.borderTowards a.source.center
  let texts :=
    match a.label.filter (· != "") with
    | some label => [Value.object [("text", paragraph label .center), ("position", .float 0.5)]]
    | none => []
  return .object ([
    ("id", .text a.id),
    ("type", .text "arrow-line"),
    ("shape", .text "straight"),
    ("points", .list [start.toValue, stop.toValue]),
    ("source", ← arrowEnd a.source start "none"),
    ("target", ← arrowEnd a.target stop "arrow"),
    ("strokeColor", .text a.stroke),
    ("strokeWidth", .int 2),
    ("opacity", .int 1),
    ("texts", .list texts)] ++ groupField a.group)

/-- A group as an object; its data list the elements that belong to it. -/
def Group.toValue (g : Group) : Value :=
  .object [
    ("id", .text g.id),
    ("type", .text "group"),
    ("description", .text g.description),
    ("data", .object (Entries.put "elementIds" (.list (g.members.map .text)) g.data))]

/-- An element as an object. -/
def Element.toValue : Element Float → Except Fault Value
  | .node n => .ok n.toValue
  | .arrow a => a.toValue
  | .group g => .ok g.toValue

end PlanDiagram.Diagram
