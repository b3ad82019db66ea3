import PlanDiagram.Diagram.Scalar
import PlanDiagram.Settings.Basic

/-!
# Configuration of a drawing

The settings in the form in which the layout uses them: sizes as scalars, numbers of columns as
natural numbers, and a palette of texts.
-/

namespace PlanDiagram.Diagram

/-- Sizes, numbers of columns and colours for a drawing. -/
structure Config (α : Type) where
  nodeWidth : α
  nodeHeight : α
  parameterScale : α
  spacingX : α
  spacingY : α
  startX : α
  startY : α
  actionColumns : Nat
  problemMaxColumns : Nat
  palette : List (String × String)

namespace Config

variable {α : Type}

/-- The colour of a role: the one in the palette unless it is the empty text, else the default
one. -/
def colour (cfg : Config α) (role : String) : Except Fault String :=
  match (cfg.palette.lookup role).filter (· != "") with
  | some colour => .ok colour
  | none =>
    match defaultPalette.lookup role with
    | some colour => .ok colour
    | none => .error (.unknownRole role)

variable [Add α] [Sub α] [Mul α] [Scalar α]

/-- The width of the node of a parameter. -/
def parameterWidth (cfg : Config α) : α :=
  cfg.nodeWidth * cfg.parameterScale

/-- The height of the node of a parameter. -/
def parameterHeight (cfg : Config α) : α :=
  cfg.nodeHeight * cfg.parameterScale

/-- The distance between two bands. -/
def sectionGap (cfg : Config α) : α :=
  Scalar.half cfg.spacingY

/-- The width of the block of an action: a node in each column. Without columns the last of them
lies one spacing before the first. -/
def actionWidth (cfg : Config α) : Except Fault α := do
  if cfg.actionColumns = 0 then return cfg.nodeWidth - cfg.spacingX
  return cfg.nodeWidth + cfg.spacingX * (← Scalar.ofCount (cfg.actionColumns - 1))

end Config

/-- The configuration that settings give for a drawing in doubles. -/
def Config.ofSettings (s : Settings) : Config Float where
  nodeWidth := s.nodeWidth.nearestReal
  nodeHeight := s.nodeHeight.nearestReal
  parameterScale := s.parameterScale.nearestReal
  spacingX := s.spacingX.nearestReal
  spacingY := s.spacingY.nearestReal
  startX := s.startX.nearestReal
  startY := s.startY.nearestReal
  actionColumns := s.actionColumns.count
  problemMaxColumns := s.problemMaxColumns.count
  palette := s.palette.filterMap fun entry =>
    if entry.2.isPresent then some (entry.1, entry.2.display) else none

end PlanDiagram.Diagram
