import PlanDiagram.Diagram.Scalar
import PlanDiagram.Settings.Load
import PlanDiagram.Source.Load

/-!
# Failures of the command line

Everything that can go wrong in converting a source, in one type. Most failures are reported in a
line, and the program ends with status one. A payload of an unexpected shape, a text that is no YAML
and arithmetic that has no result are not foreseen: they end the program without a report. Data that
are no values are no concern of this library, which counts them as not reported.
-/

namespace PlanDiagram

/-- Tells whether a faulty use of a value is reported. -/
def Value.Fault.isReported : Value.Fault → Bool
  | .missingField _ | .noFields _ | .infiniteInteger | .hugeInteger => false
  | _ => true

/-- Tells whether a faulty payload is reported. -/
def Payload.Error.isReported : Payload.Error → Bool
  | .fault cause => cause.isReported
  | _ => true

/-- Tells whether a failure to load a source is reported. -/
def Source.Error.isReported : Source.Error → Bool
  | .json cause => cause.cause != .loneUnit
  | .yaml cause => cause.isReported
  | .payload cause => cause.isReported
  | _ => true

/-- Tells whether a failure to load settings is reported. -/
def Settings.LoadError.isReported : Settings.LoadError → Bool
  | .yaml cause => cause.isReported
  | .settings (.fault cause) => cause.isReported
  | _ => true

/-- Tells whether a failure to draw a diagram is reported. -/
def Diagram.Fault.isReported : Diagram.Fault → Bool
  | .nanCount => true
  | _ => false

namespace CommandLine

/-- Why a source is not converted. -/
inductive Failure where
  /-- The settings cannot be loaded. -/
  | settings (cause : Settings.LoadError)
  /-- The source cannot be loaded. -/
  | source (cause : Source.Error)
  /-- The planning text cannot be read. -/
  | document (cause : Document.Error)
  /-- The diagram cannot be drawn. -/
  | drawing (cause : Diagram.Fault)
  /-- An outline is wanted of a payload. -/
  | outlineOfPayload
  /-- The name of a level of notices names something else: a text, or no text at all. -/
  | reservedLevel (found : Option String)
  /-- The file for the output cannot be written. -/
  | output (cause : Source.OpenFault) (path : String)
deriving Repr

/-- The wording of a failure. -/
def Failure.message : Failure → String
  | .settings cause => cause.message
  | .source cause => cause.message
  | .document cause => cause.message
  | .drawing cause => cause.message
  | .outlineOfPayload => "Mind-map mode needs PDDL text, not a structured payload."
  | .reservedLevel (some text) => "Unknown level: " ++ Text.quoted text
  | .reservedLevel none => "Level not an integer or a valid string"
  | .output cause path => cause.message path

/-- Tells whether a failure is reported. -/
def Failure.isReported : Failure → Bool
  | .settings cause => cause.isReported
  | .source cause => cause.isReported
  | .document _ => true
  | .drawing cause => cause.isReported
  | .outlineOfPayload => true
  | .reservedLevel _ => false
  | .output .. => false

end CommandLine

end PlanDiagram
