import PlanDiagram.Document
import PlanDiagram.Formula.Render
import PlanDiagram.Outline.Basic

/-!
# Outlines of documents

The outline of a document has the primary domain or problem at its root; every other definition
hangs on it as a labelled node. Typed blocks without content show `(none)`, sections without content
`(empty)`.
-/

namespace PlanDiagram.Outline

/-- What stands for the content of a block without content. -/
def noneText : String :=
  "(none)"

/-- What stands for the content of a section without content. -/
def emptyText : String :=
  "(empty)"

/-- Leaves for texts, or the one leaf that says that there are none. -/
def leavesOrNone (texts : List String) : List Outline :=
  if texts.isEmpty then [leaf noneText] else texts.map leaf

/-- The node of a section. -/
def ofSection (s : Section) : Outline :=
  node s.label (if s.entries.isEmpty then [leaf emptyText] else s.entries.map leaf)

/-- A text, or another one if it is empty. -/
def orText (text otherwise : String) : String :=
  if text == "" then otherwise else text

/-- The label of a section of an action: without colons in front, with a capital letter. -/
def extraLabel (label : String) : String :=
  Text.capitalize (String.ofList (label.toList.dropWhile (· == ':')))

/-- The line for the conditions or effects of an action: the text that was kept, else the
formulas. -/
def formulaLines (textHeading formulaHeading : String) (text : Option String)
    (names : List String) (formulas : List Formula) : List Outline :=
  match text with
  | some text => [leaf (textHeading ++ ": " ++ text)]
  | none =>
    if formulas.isEmpty then []
    else [leaf (formulaHeading ++ ": " ++ " ".intercalate (Formula.renderAll names formulas))]

/-- The node of an action. -/
def ofAction (a : Action) : Outline :=
  let description :=
    match a.description.filter (· != "") with
    | some text => [leaf ("Description: " ++ text)]
    | none => []
  let parameters :=
    if a.parameters.isEmpty then noneText
    else ", ".intercalate (a.parameters.map Parameter.variableDeclaration)
  let extras := a.extras.map fun s => leaf (extraLabel s.label ++ ": " ++ orText s.text emptyText)
  let names := a.parameters.map Parameter.name
  let condition := if a.durative then "Condition" else "Precondition"
  node (orText a.name "Unnamed Action")
    (description ++ [leaf ("Parameters: " ++ parameters)] ++ extras ++
      formulaLines condition "Precondition" a.preconditionText names a.preconditions ++
      formulaLines "Effect" "Effect" a.effectText names a.effects)

/-- A node for texts, unless there are none. -/
def nodeUnlessEmpty (label : String) (texts : List String) : List Outline :=
  if texts.isEmpty then [] else [node label (texts.map leaf)]

/-- The nodes of a domain. -/
def ofDomain (d : Domain) : List Outline :=
  [node "Requirements" (leavesOrNone d.requirements),
    node "Types" (leavesOrNone (d.types.map TypeDeclaration.line))] ++
  nodeUnlessEmpty "Constants" (d.constants.map Parameter.declaration) ++
  [node "Predicates" (leavesOrNone (d.predicates.map PredicateSchema.signature))] ++
  nodeUnlessEmpty "Functions" (d.functions.map FunctionSchema.signature) ++
  [node "Actions" (if d.actions.isEmpty then [leaf noneText] else d.actions.map ofAction)] ++
  d.sections.map ofSection

/-- The type under which an object is listed. -/
def objectType (p : Parameter) : String :=
  p.shownType.getD "object"

/-- Adds a name to the group of its type; a type that is new comes last. -/
def addToGroup (type name : String) : List (String × List String) → List (String × List String)
  | [] => [(type, [name])]
  | (other, names) :: rest =>
    if other == type then (other, names ++ [name]) :: rest
    else (other, names) :: addToGroup type name rest

/-- The names of objects by type, types and names in the order of their declaration. -/
def objectGroups (objects : List Parameter) : List (String × List String) :=
  objects.foldl (fun groups p => addToGroup (objectType p) p.name groups) []

/-- The lines for the metric of a problem. -/
def ofMetric (m : Metric) : Outline :=
  let text :=
    match m.expression with
    | some f => m.direction ++ " " ++ f.render []
    | none => m.direction
  node "Metric" [leaf text]

/-- The sections of a problem that are shown: all but those of a metric that was understood. -/
def shownSections (p : Problem) : List Section :=
  p.sections.filter fun s => !(p.metric.isSome && Text.lower s.label == ":metric")

/-- The nodes of a problem. -/
def ofProblem (p : Problem) : List Outline :=
  let groups := objectGroups p.objects
  let objects :=
    if groups.isEmpty then [leaf noneText]
    else groups.map fun group => node group.1 (group.2.map leaf)
  [leaf ("Domain Reference: " ++ orText (p.domainName.getD "") "(unknown)"),
    node "Objects" objects,
    node "Init" (leavesOrNone (Formula.renderAll [] p.init)),
    node "Goal" (leavesOrNone (Formula.renderAll [] p.goal.toList))] ++
  (p.metric.map ofMetric).toList ++ (shownSections p).map ofSection

/-- The node of a domain that is not primary. -/
def domainNode (d : Domain) : Outline :=
  node ("Domain: " ++ orText d.name "Unnamed Domain") (ofDomain d)

/-- The node of a problem that is not primary. -/
def problemNode (p : Problem) : Outline :=
  node ("Problem: " ++ orText p.name "Unnamed Problem") (ofProblem p)

/-- The node of a definition that is neither a domain nor a problem. -/
def unknownNode (d : UnknownDefinition) : Outline :=
  node "Definition" [leaf d.text]

/-- The text of the root: the name of the first domain, else of the first problem, that is not
empty. -/
def rootText (d : Document) : String :=
  let domainName := (d.domains.head?.map Domain.name).getD ""
  let problemName := (d.problems.head?.map Problem.name).getD ""
  if domainName != "" then "Domain: " ++ domainName
  else if problemName != "" then "Problem: " ++ problemName
  else "PDDL Diagram"

/-- The outline of a document. -/
def ofDocument (d : Document) : Outline :=
  let problems :=
    match d.domains, d.problems with
    | [], p :: rest => ofProblem p ++ rest.map problemNode
    | _, ps => ps.map problemNode
  let domains :=
    match d.domains with
    | [] => []
    | first :: rest => ofDomain first ++ rest.map domainNode
  node (rootText d) (domains ++ problems ++ d.unknown.map unknownNode)

end PlanDiagram.Outline
