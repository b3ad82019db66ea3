import PlanDiagram.Definition
import PlanDiagram.Formula.OfForm
import PlanDiagram.Problem.Basic

/-!
# Problems from definitions

Each segment of a definition contributes one part to the problem. Objects, facts and requirements of
several segments are joined in the order of the text; of several goals, metrics and names of the
domain the last counts. Objects are read first, since facts refer to them.
-/

namespace PlanDiagram.Problem

/-- What a segment contributes to a problem. -/
inductive Part where
  | domainName (name : Option String)
  | requirements (names : List String)
  | objects (parameters : List Parameter)
  | init (facts : List Formula)
  | goal (goals : List Formula)
  | metric (metric : Option Metric) (kept : Section)
  | other (kept : Section)

/-- Tells whether a segment declares objects. -/
def isObjects (segment : Form) : Bool :=
  Section.keyword? segment == some ":objects"

/-- Reads the entries of a metric: a direction and an expression. -/
def readMetric (scope : Scope) : List Form → Except Form.Fault (Option Metric)
  | .atom direction :: form :: _ => do
    let expression ← Formula.operandOfForm scope form
    return some { direction := Text.lower direction, expression := some expression }
  | _ => .ok none

/-- Reads a segment. -/
def Part.ofForm (scope : Scope) (segment : Form) : Except Form.Fault Part := do
  let entries := Section.entriesOf segment
  match Section.keyword? segment with
  | some ":domain" =>
    match entries with
    | .atom name :: _ => return .domainName (some name)
    | _ => return .domainName none
  | some ":requirements" => return .requirements (entries.map Form.render)
  | some ":objects" => return .objects (← Parameter.readList false entries)
  | some ":init" => return .init (← Formula.ofForms scope entries)
  | some ":goal" => return .goal (← Formula.ofForms scope entries)
  | some ":metric" => return .metric (← readMetric scope entries) (Section.ofForm segment)
  | _ => return .other (Section.ofForm segment)

/-- The goal that the entries of a segment make: the entry itself if there is one only, else their
conjunction. -/
def goalOf? : List Formula → Option Formula
  | [] => none
  | [goal] => some goal
  | goals => some (.composite "and" goals [])

/-- Joins the parts of a problem. -/
def ofParts (name : String) (parts : List Part) : Problem where
  name
  domainName := (parts.filterMap fun | .domainName name => name | _ => none).getLast?
  requirements := parts.flatMap fun | .requirements names => names | _ => []
  objects := parts.flatMap fun | .objects parameters => parameters | _ => []
  init := parts.flatMap fun | .init facts => facts | _ => []
  goal := (parts.filterMap fun | .goal goals => goalOf? goals | _ => none).getLast?
  metric := (parts.filterMap fun | .metric metric _ => metric | _ => none).getLast?
  sections := parts.filterMap fun
    | .metric _ kept | .other kept => some kept
    | _ => none

/-- Reads a definition of a problem. -/
def ofDefinition (d : Definition) : Except Form.Fault Problem := do
  let declared ← (d.body.filter isObjects).mapM fun segment =>
    Parameter.readList false (Section.entriesOf segment)
  let scope := Scope.ofParameters declared.flatten
  return ofParts (d.name.getD "") (← d.body.mapM (Part.ofForm scope))

/-- The keywords of segments that are understood. -/
def knownKeywords : List String :=
  [":domain", ":requirements", ":objects", ":init", ":goal", ":metric"]

/-- The topic of notices about what definitions contain. -/
def topic : String :=
  "pddlviz.pddl.structure"

/-- The notices about a problem: the segments that were kept as text, and a summary. -/
def notices (d : Definition) (problem : Problem) : List Notice :=
  let kept := d.body.filter fun segment =>
    !((Section.keyword? segment).any fun key => knownKeywords.contains key)
  (kept.map fun segment => ⟨.debug, topic, "Problem '" ++ problem.name ++ "': keeping " ++
      Section.headText segment ++ " as a generic section"⟩) ++
    [⟨.debug, topic, "Problem '" ++ problem.name ++ "': " ++ toString problem.objects.length ++
      " objects, " ++ toString problem.init.length ++ " init facts"⟩]

end PlanDiagram.Problem
