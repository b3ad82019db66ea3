/-!
# Notices

Remarks made on the way, for a reader who wants to follow what happened. They are values with a
level and a topic; the command line decides which of them are shown.
-/

namespace PlanDiagram

/-- How much a notice matters. -/
inductive Level where
  | debug
  | info
  | warning
deriving DecidableEq, Repr

/-- The name of a level. -/
def Level.name : Level → String
  | .debug => "DEBUG"
  | .info => "INFO"
  | .warning => "WARNING"

/-- The weight of a level, by which notices are selected. -/
def Level.weight : Level → Nat
  | .debug => 10
  | .info => 20
  | .warning => 30

/-- A remark on a topic. -/
structure Notice where
  level : Level
  topic : String
  text : String
deriving DecidableEq, Repr

/-- The line that shows a notice. -/
def Notice.line (n : Notice) : String :=
  n.level.name ++ " " ++ n.topic ++ ": " ++ n.text

end PlanDiagram
