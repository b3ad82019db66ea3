import PlanDiagram.Value.Basic

/-!
# Readers of YAML

Settings and payloads may be written in YAML, and whatever loads them takes the reader of YAML as an
argument: a function from texts to values that may fail. Values are the data that JSON has, and YAML
has more, so a reader may also tell that the data of a text are no value.
-/

namespace PlanDiagram.Yaml

/-- Why a text gives no value. -/
inductive Failure where
  /-- The text is no YAML, or something in it does not fit its tag. This is not reported. -/
  | malformed
  /-- A scalar is spelt like a number, a date or an escape but is none. This is reported. -/
  | scalar (message : String)
  /-- The data are no value, such as a date, a list that holds itself, an object with a name that is
  no text, a text with half of a pair of code units, or an integer too long to be displayed; or the
  text is written in a way that the reader does not know. -/
  | unsupported
deriving DecidableEq, Repr

/-- The wording of a failure. -/
def Failure.message : Failure → String
  | .malformed => "The text is no YAML."
  | .scalar message => message
  | .unsupported => "The text holds more than values do."

/-- Tells whether a failure is reported. -/
def Failure.isReported : Failure → Bool
  | .scalar _ => true
  | _ => false

/-- A reader of YAML. -/
abbrev Reader : Type :=
  String → Except Failure Value

end PlanDiagram.Yaml
