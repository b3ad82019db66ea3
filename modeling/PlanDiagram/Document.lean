import PlanDiagram.Domain.OfDefinition
import PlanDiagram.Form.Reader
import PlanDiagram.Problem.OfDefinition

/-!
# Documents

A document is what a planning text defines: domains, problems, and definitions of neither, each in
the order of the text. One definition that cannot be read makes the whole text unreadable.
-/

namespace PlanDiagram

/-- A definition that is neither a domain nor a problem. -/
structure UnknownDefinition where
  text : String
  name : Option String := none
deriving DecidableEq, Repr

/-- What a planning text defines. -/
structure Document where
  domains : List Domain := []
  problems : List Problem := []
  unknown : List UnknownDefinition := []

/-- A domain or a problem. -/
inductive Structure where
  | domain (domain : Domain)
  | problem (problem : Problem)
deriving Inhabited

namespace Document

/-- Why a text is no document. -/
inductive Error where
  /-- The text is no sequence of forms. -/
  | form (cause : Form.ReadError)
  /-- No form of the text is a definition. -/
  | noDefinitions
  /-- The text defines neither a domain nor a problem. -/
  | noStructure
  /-- A definition of a domain or problem cannot be read. -/
  | definition (kind : DefinitionKind) (cause : Form.Fault)
deriving Repr

/-- The wording of an error. -/
def Error.message : Error → String
  | .form cause => cause.message
  | .noDefinitions => "No PDDL definitions were detected."
  | .noStructure => "No domain or problem definition was found."
  | .definition kind cause =>
    "Failed to parse the " ++ kind.name ++ " definition: " ++ cause.message

/-- What a definition defines. -/
inductive Entry where
  | domain (domain : Domain)
  | problem (problem : Problem)
  | unknown (definition : UnknownDefinition)

/-- Reads a definition. -/
def Entry.ofDefinition (d : Definition) : Except Error Entry :=
  match d.kind with
  | .domain => ((Domain.ofDefinition d).map .domain).mapError (.definition .domain)
  | .problem => ((Problem.ofDefinition d).map .problem).mapError (.definition .problem)
  | .unknown => .ok (.unknown { text := d.form.render, name := d.name })

/-- The definitions of a text, of which there is at least one. -/
def definitions (s : String) : Except Error (List Definition) := do
  let forms ← (Form.readAll s).mapError .form
  match Definition.ofForms forms with
  | [] => throw .noDefinitions
  | ds => return ds

/-- Sorts what definitions define, keeping the order within each kind. -/
def ofEntries (entries : List Entry) : Document where
  domains := entries.filterMap fun | .domain domain => some domain | _ => none
  problems := entries.filterMap fun | .problem problem => some problem | _ => none
  unknown := entries.filterMap fun | .unknown definition => some definition | _ => none

/-- Reads a planning text. -/
def read (s : String) : Except Error Document := do
  return ofEntries (← (← definitions s).mapM Entry.ofDefinition)

/-- What a document is mainly about: its first domain, else its first problem. -/
def primary? (d : Document) : Option Structure :=
  match d.domains, d.problems with
  | domain :: _, _ => some (.domain domain)
  | [], problem :: _ => some (.problem problem)
  | [], [] => none

/-- Reads what a planning text is mainly about. -/
def readPrimary (s : String) : Except Error Structure := do
  match (← read s).primary? with
  | some found => return found
  | none => throw .noStructure

/-- The notices about what one definition defines. -/
def entryNotices (d : Definition) : Entry → List Notice
  | .domain domain => domain.notices d
  | .problem problem => problem.notices d
  | .unknown _ => []

/-- The notices on reading a text, as far as reading gets. -/
def notices (s : String) : List Notice :=
  match definitions s with
  | .error _ => []
  | .ok ds =>
    match ds.mapM Entry.ofDefinition with
    | .error _ => Definition.notices ds
    | .ok entries =>
      let document := ofEntries entries
      Definition.notices ds ++ (List.zipWith entryNotices ds entries).flatten ++
        [⟨.debug, "pddlviz.pddl.parser", "Parsed " ++ toString document.domains.length ++
          " domain(s), " ++ toString document.problems.length ++ " problem(s), " ++
          toString document.unknown.length ++ " unclassified definition(s)"⟩]

end Document

end PlanDiagram
