import PlanDiagram.Settings.OfValue
import PlanDiagram.Source.FileTree
import PlanDiagram.Yaml.Failure

/-!
# Loading settings

Settings are kept in files in YAML, of which the reader is an argument.
-/

namespace PlanDiagram.Settings

/-- Why settings cannot be loaded. -/
inductive LoadError where
  /-- The file cannot be opened. -/
  | opening (cause : Source.OpenFault) (path : String)
  /-- The file cannot be read as YAML. -/
  | yaml (cause : Yaml.Failure)
  /-- The value in the file is no settings. -/
  | settings (cause : Error)
deriving Repr

/-- The wording of an error. -/
def LoadError.message : LoadError → String
  | .opening cause path => cause.message path
  | .yaml cause => cause.message
  | .settings cause => cause.message

/-- Loads settings from a file that has been opened. -/
def loadWith (yaml : Yaml.Reader) (path : String) (file : Source.Opened) :
    Except LoadError Settings := do
  let text ← file.mapError (.opening · path)
  let v ← (yaml (String.ofList (Source.unifyLineEnds text.toList))).mapError .yaml
  (ofFile path v).mapError .settings

end PlanDiagram.Settings
