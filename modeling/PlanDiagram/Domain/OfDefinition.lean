import PlanDiagram.Action.OfForm
import PlanDiagram.Definition
import PlanDiagram.Domain.Basic

/-!
# Domains from definitions

Each segment of a definition contributes one part to the domain, and the parts of one kind are
joined in the order of the text. Constants are read first, since actions refer to them.
-/

namespace PlanDiagram.Domain

/-- What a segment contributes to a domain. -/
inductive Part where
  | requirements (names : List String)
  | types (declarations : List TypeDeclaration)
  | constants (parameters : List Parameter)
  | predicates (schemas : List PredicateSchema)
  | functions (schemas : List FunctionSchema)
  | action (action : Action)
  | other (kept : Section)

/-- Tells whether a segment declares constants. -/
def isConstants (segment : Form) : Bool :=
  Section.keyword? segment == some ":constants"

/-- Reads a segment. -/
def Part.ofForm (constants : Scope) (segment : Form) : Except Form.Fault Part := do
  let entries := Section.entriesOf segment
  match Section.keyword? segment with
  | some ":requirements" => return .requirements (entries.map Form.render)
  | some ":types" =>
    let parameters ← Parameter.readList false entries
    return .types (parameters.map fun p => { name := p.name, parent := p.type })
  | some ":constants" => return .constants (← Parameter.readList false entries)
  | some ":predicates" => return .predicates (← entries.mapM PredicateSchema.ofForm)
  | some ":functions" => return .functions (← FunctionSchema.readList entries)
  | some ":action" => return .action (← Action.ofForm constants segment)
  | some ":durative-action" => return .action (← Action.ofForm constants segment)
  | _ => return .other (Section.ofForm segment)

/-- Joins the parts of a domain. -/
def ofParts (name : String) (parts : List Part) : Domain where
  name
  requirements := parts.flatMap fun | .requirements names => names | _ => []
  types := parts.flatMap fun | .types declarations => declarations | _ => []
  constants := parts.flatMap fun | .constants parameters => parameters | _ => []
  predicates := parts.flatMap fun | .predicates schemas => schemas | _ => []
  functions := parts.flatMap fun | .functions schemas => schemas | _ => []
  actions := parts.filterMap fun | .action action => some action | _ => none
  sections := parts.filterMap fun | .other kept => some kept | _ => none

/-- Reads a definition of a domain. -/
def ofDefinition (d : Definition) : Except Form.Fault Domain := do
  let declared ← (d.body.filter isConstants).mapM fun segment =>
    Parameter.readList false (Section.entriesOf segment)
  let constants := Scope.ofParameters declared.flatten
  return ofParts (d.name.getD "") (← d.body.mapM (Part.ofForm constants))

/-- The keywords of segments that are understood. -/
def knownKeywords : List String :=
  [":requirements", ":types", ":constants", ":predicates", ":functions", ":action",
    ":durative-action"]

/-- The topic of notices about what definitions contain. -/
def topic : String :=
  "pddlviz.pddl.structure"

/-- The notices about a domain: the segments that were kept as text, and a summary. -/
def notices (d : Definition) (domain : Domain) : List Notice :=
  let kept := d.body.filter fun segment =>
    !((Section.keyword? segment).any fun key => knownKeywords.contains key)
  (kept.map fun segment => ⟨.debug, topic, "Domain '" ++ domain.name ++ "': keeping " ++
      Section.headText segment ++ " as a generic section"⟩) ++
    [⟨.debug, topic, "Domain '" ++ domain.name ++ "': " ++ toString domain.predicates.length ++
      " predicates, " ++ toString domain.functions.length ++ " functions, " ++
      toString domain.actions.length ++ " actions"⟩]

end PlanDiagram.Domain
