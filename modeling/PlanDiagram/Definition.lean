import PlanDiagram.Form.Basic
import PlanDiagram.Notice
import PlanDiagram.Text.LetterCase

/-!
# Definitions

A planning text is a sequence of definitions: lists headed by `define`. The first of its segments
that is headed by `domain` or `problem` says what is defined and names it, wherever it stands among
the segments. A definition without such a header is kept as it is.
-/

namespace PlanDiagram

/-- What a definition defines. -/
inductive DefinitionKind where
  | domain
  | problem
  | unknown
deriving DecidableEq, Repr

/-- The name of a kind of definition. -/
def DefinitionKind.name : DefinitionKind → String
  | .domain => "domain"
  | .problem => "problem"
  | .unknown => "unknown"

/-- The kind that the head of a header announces. -/
def DefinitionKind.ofHeader? (head : String) : Option DefinitionKind :=
  let word := Text.lower head
  if word == "domain" then some .domain
  else if word == "problem" then some .problem
  else none

/-- A list headed by `define`. -/
structure Definition where
  kind : DefinitionKind
  form : Form
  segments : List Form
  name : Option String := none
  headerIndex : Option Nat := none

namespace Definition

/-- The kind and the name that a segment gives, if it is a header. -/
def header? : Form → Option (DefinitionKind × Option String)
  | .list (.atom head :: rest) => do
    let kind ← DefinitionKind.ofHeader? head
    match rest with
    | .atom name :: _ => return (kind, some name)
    | _ => return (kind, none)
  | _ => none

/-- The first header among segments, with its place; `index` is the place of the first segment. -/
def findHeader? (index : Nat) : List Form → Option (Nat × DefinitionKind × Option String)
  | [] => none
  | segment :: rest =>
    match header? segment with
    | some (kind, name) => some (index, kind, name)
    | none => findHeader? (index + 1) rest

/-- The definition that a form is, if it is headed by `define`. -/
def ofForm? : Form → Option Definition
  | .list (.atom head :: segments) =>
    let form := Form.list (.atom head :: segments)
    if Text.lower head == "define" then
      match findHeader? 0 segments with
      | some (index, kind, name) => some { kind, form, segments, name, headerIndex := some index }
      | none => some { kind := .unknown, form, segments }
    else none
  | _ => none

/-- The segments other than the header. -/
def body (d : Definition) : List Form :=
  match d.headerIndex with
  | some index => d.segments.eraseIdx index
  | none => d.segments

/-- The definitions among forms. -/
def ofForms (forms : List Form) : List Definition :=
  forms.filterMap ofForm?

/-- A definition in the summary of a text. -/
def summary (d : Definition) : String :=
  d.kind.name ++ ":" ++ ((d.name.filter (· != "")).getD "?")

/-- The topic of notices about definitions. -/
def topic : String :=
  "pddlviz.pddl.definitions"

/-- Warnings about definitions without a header. -/
def warnings (ds : List Definition) : List Notice :=
  (ds.filter fun d => d.kind == .unknown).map fun _ =>
    ⟨.warning, topic,
      "Definition without a domain/problem header; rendering it generically."⟩

/-- The notices about the definitions of a text. -/
def notices (ds : List Definition) : List Notice :=
  warnings ds ++
    [⟨.debug, topic, "Classified " ++ toString ds.length ++ " definition(s): " ++
      ", ".intercalate (ds.map summary)⟩]

end Definition

end PlanDiagram
