import PlanDiagram.Document
import PlanDiagram.Json.Reader
import PlanDiagram.Payload.Structure
import PlanDiagram.Source.Packaged
import PlanDiagram.Yaml.Failure

/-!
# Loading sources

A source is a planning text, or a payload in JSON or YAML. It is looked for on disk first and then
among the packaged examples. What opening the path on disk gives is an argument here, and so is the
reader of YAML, so that loading is a function of them.
-/

namespace PlanDiagram.Source

/-- Why a source cannot be loaded. -/
inductive Error where
  /-- There is no such file on disk or among the examples. -/
  | notFound (path : String)
  /-- The path leads to a directory. -/
  | directory (path : Path)
  /-- The file is no JSON. -/
  | json (cause : Json.ReadError)
  /-- The file cannot be read as YAML. -/
  | yaml (cause : Yaml.Failure)
  /-- The file holds something other than an object. -/
  | notMapping (path : String)
  /-- The object is no payload. -/
  | payload (cause : Payload.Error)
deriving Repr

/-- The path by which the examples are searched. -/
def packagedPath (path : String) : Path :=
  (Path.ofText path).dropLeading Packaged.directory

/-- The wording of an error. -/
def Error.message : Error → String
  | .notFound path =>
    "Source not found: " ++ path ++ " (looked on disk and under pddlviz.assets.examples/" ++
      (packagedPath path).text ++ ")"
  | .directory path => OpenFault.isDirectory.message path.text
  | .json cause => cause.message
  | .yaml cause => cause.message
  | .notMapping path => "Structured source " ++ path ++ " must contain a mapping."
  | .payload cause => cause.message

/-- The text of a source, if it is on disk or among the examples. -/
def locate (path : String) (onDisk : Opened) : Except Error String :=
  match onDisk with
  | .ok text => .ok text
  | .error .isDirectory => .error (.directory (Path.ofText path))
  | .error _ =>
    match Packaged.find? (packagedPath path) with
    | some text => .ok text
    | none => .error (.notFound path)

/-- The notice that an example is used. -/
def notices (path : String) (onDisk : Opened) : List Notice :=
  match onDisk, Packaged.find? (packagedPath path) with
  | .error .missing, some _ | .error .notDirectory, some _ =>
    [⟨.debug, "pddlviz.io.loader", "Using packaged example " ++ (packagedPath path).text⟩]
  | _, _ => []

/-- Loads a planning text. -/
def loadText (path : String) (onDisk : Opened) : Except Error String := do
  return String.ofList (unifyLineEnds (← locate path onDisk).toList)

/-- Reads the value that the text of a payload writes. -/
def readValueWith (yaml : Yaml.Reader) (path text : String) : Except Error Value :=
  if (Path.ofText path).namesJson then (Json.read text).mapError .json
  else (yaml text).mapError .yaml

/-- Reads a payload. It may be wrapped in a field that tells what it is; else an object with objects
or with the name of a domain is a problem. -/
def structureOf (v : Value) : Except Payload.Error Structure :=
  match v.field "problem", v.field "domain" with
  | .object fields, _ => (Problem.ofValue (.object fields)).map .problem
  | _, .object fields => (Domain.ofValue (.object fields)).map .domain
  | _, _ =>
    if v.hasField "objects" || v.hasField "domain_name" then (Problem.ofValue v).map .problem
    else (Domain.ofValue v).map .domain

/-- Loads a payload. -/
def loadStructureWith (yaml : Yaml.Reader) (path : String) (onDisk : Opened) :
    Except Error Structure := do
  let text ← loadText path onDisk
  match ← readValueWith yaml path text with
  | .object fields => (structureOf (.object fields)).mapError .payload
  | _ => throw (.notMapping path)

end PlanDiagram.Source
