import PlanDiagram.Settings.Amount

/-!
# Settings of the layout

Sizes, distances, starting point, numbers of columns, and a palette that gives colours to roles. The
sizes and distances have to be positive, and there has to be a column at least; `validate` checks
this and names the first setting that is wrong.
-/

namespace PlanDiagram

/-- The colours of the roles that every palette has. -/
def defaultPalette : List (String × String) := [
  ("precondition", "#f28b82"),
  ("effect", "#81c995"),
  ("function", "#b39ddb"),
  ("operator", "#4a90e2"),
  ("literal", "#ffcc80"),
  ("rectangle-fill", "#e8f4fd"),
  ("rectangle-stroke", "#1e88e5"),
  ("ellipse-stroke", "#444444"),
  ("edge", "#666666"),
  ("action-description-fill", "#fff7e6"),
  ("action-description-stroke", "#d48806"),
  ("problem-init-description-fill", "#fdecea"),
  ("problem-init-description-stroke", "#d93025"),
  ("problem-goal-description-fill", "#ecf8f1"),
  ("problem-goal-description-stroke", "#0f9d58")]

/-- The settings of the layout. -/
structure Settings where
  nodeWidth : Amount := .real 120.0
  nodeHeight : Amount := .real 60.0
  parameterScale : Amount := .real 0.7
  spacingX : Amount := .real 200.0
  spacingY : Amount := .real 110.0
  startX : Amount := .real 100.0
  startY : Amount := .real 100.0
  actionColumns : Amount := .int 3
  problemMaxColumns : Amount := .int 8
  palette : List (String × Value) := defaultPalette.map fun entry => (entry.1, .text entry.2)
deriving Repr, Inhabited

namespace Settings

/-- The settings that are numbers. -/
inductive Key where
  | nodeWidth
  | nodeHeight
  | parameterScale
  | spacingX
  | spacingY
  | startX
  | startY
  | actionColumns
  | problemMaxColumns
deriving DecidableEq, Repr

/-- The name of a setting. -/
def Key.name : Key → String
  | .nodeWidth => "node_width"
  | .nodeHeight => "node_height"
  | .parameterScale => "parameter_scale"
  | .spacingX => "spacing_x"
  | .spacingY => "spacing_y"
  | .startX => "start_x"
  | .startY => "start_y"
  | .actionColumns => "action_columns"
  | .problemMaxColumns => "problem_max_columns"

/-- All settings that are numbers, in the order in which they are checked. -/
def Key.all : List Key :=
  [.nodeWidth, .nodeHeight, .parameterScale, .spacingX, .spacingY, .startX, .startY,
    .actionColumns, .problemMaxColumns]

/-- The setting with the given name. -/
def Key.ofName? (name : String) : Option Key :=
  Key.all.find? fun key => key.name == name

/-- Tells whether a setting counts columns. -/
def Key.isCount : Key → Bool
  | .actionColumns | .problemMaxColumns => true
  | _ => false

/-- The value of a setting. -/
def get (s : Settings) : Key → Amount
  | .nodeWidth => s.nodeWidth
  | .nodeHeight => s.nodeHeight
  | .parameterScale => s.parameterScale
  | .spacingX => s.spacingX
  | .spacingY => s.spacingY
  | .startX => s.startX
  | .startY => s.startY
  | .actionColumns => s.actionColumns
  | .problemMaxColumns => s.problemMaxColumns

/-- Gives a setting a value. -/
def set (s : Settings) (key : Key) (a : Amount) : Settings :=
  match key with
  | .nodeWidth => { s with nodeWidth := a }
  | .nodeHeight => { s with nodeHeight := a }
  | .parameterScale => { s with parameterScale := a }
  | .spacingX => { s with spacingX := a }
  | .spacingY => { s with spacingY := a }
  | .startX => { s with startX := a }
  | .startY => { s with startY := a }
  | .actionColumns => { s with actionColumns := a }
  | .problemMaxColumns => { s with problemMaxColumns := a }

/-- The value of a setting is the one that was given last. -/
@[simp] theorem get_set (s : Settings) (key : Key) (a : Amount) : (s.set key a).get key = a := by
  cases key <;> rfl

/-- Giving one setting a value leaves the others as they are. -/
theorem get_set_of_ne (s : Settings) {key other : Key} (a : Amount) (h : other ≠ key) :
    (s.set key a).get other = s.get other := by
  cases key <;> cases other <;> first | rfl | exact absurd rfl h

/-- The palette plays no part in the numbers. -/
@[simp] theorem palette_set (s : Settings) (key : Key) (a : Amount) :
    (s.set key a).palette = s.palette := by
  cases key <;> rfl

/-- Why values are no settings. -/
inductive Error where
  /-- A value inside cannot be used where it stands. -/
  | fault (cause : Value.Fault)
  /-- A number is wanted for a setting. -/
  | numberExpected (key : Key) (found : Value)
  /-- A size or distance is not positive. -/
  | notPositive (key : Key) (found : Amount)
  /-- There is no column. -/
  | noColumns
  /-- No setting has the given name. -/
  | unknownSetting (name : String)
  /-- The file with the given name holds something other than settings. -/
  | notMapping (path : String)
deriving Repr

/-- The wording of an error. -/
def Error.message : Error → String
  | .fault cause => cause.message
  | .numberExpected key found => key.name ++ " must be a number, got " ++ found.literal
  | .notPositive key found => key.name ++ " must be positive, got " ++ found.text
  | .noColumns => "Column counts must be at least 1."
  | .unknownSetting name => "unexpected setting " ++ Text.quoted name
  | .notMapping path => "Layout config " ++ path ++ " must be a mapping."

/-- A faulty value makes faulty settings. -/
instance : MonadLift (Except Value.Fault) (Except Error) where
  monadLift result := result.mapError .fault

/-- The settings that have to be positive. -/
def positiveKeys : List Key :=
  [.nodeWidth, .nodeHeight, .parameterScale, .spacingX, .spacingY]

/-- Checks that sizes and distances are positive and that there are columns. -/
def validate (s : Settings) : Except Error Unit :=
  match positiveKeys.find? fun key => (s.get key).atMost 0 with
  | some key => .error (.notPositive key (s.get key))
  | none =>
    if s.actionColumns.isBelow 1 || s.problemMaxColumns.isBelow 1 then .error .noColumns
    else .ok ()

/-- The width of the node of a parameter. -/
def parameterWidth (s : Settings) : Except Value.Fault Amount :=
  s.nodeWidth.mul s.parameterScale

/-- The height of the node of a parameter. -/
def parameterHeight (s : Settings) : Except Value.Fault Amount :=
  s.nodeHeight.mul s.parameterScale

/-- The distance between two bands. -/
def sectionGap (s : Settings) : Except Value.Fault Amount :=
  s.spacingY.half

/-- The width of the block of an action. -/
def actionWidth (s : Settings) : Except Value.Fault Amount := do
  s.nodeWidth.add (← s.spacingX.mul (← s.actionColumns.sub (.int 1)))

/-- The colour of a role: the one in the palette unless it counts as absent, else the default
one. -/
def colour (s : Settings) (role : String) : Except Value.Fault Value :=
  let chosen := (s.palette.lookup role).getD .null
  if chosen.isPresent then .ok chosen
  else
    match defaultPalette.lookup role with
    | some colour => .ok (.text colour)
    | none => .error (.missingField role)

end Settings

end PlanDiagram
