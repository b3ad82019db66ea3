import PlanDiagram.Diagram.NumericBand
import PlanDiagram.Domain.Basic

/-!
# Blocks of actions

The block of an action is a column of bands: title, description, preconditions, parameters, effects,
and a numeric band. Every band but the first two is there only if it has something to show, and its
nodes are laid out row by row. The blocks of a domain stand side by side.
-/

namespace PlanDiagram.Diagram

/-- Where the next band starts, and which rows the last one fills. -/
structure Cursor (α : Type) where
  next : α
  lastTop : α
  lastRows : Nat

/-- A text without blanks around it, or another text if nothing is left. -/
def shownText (text : Option String) (otherwise : String) : String :=
  let trimmed := Text.trim (text.getD "")
  if trimmed == "" then otherwise else trimmed

namespace ActionBlock

variable {α : Type} [Add α] [Sub α] [Mul α] [LT α] [DecidableLT α] [Scalar α]

/-- Draws literals in a band; `index` is the place of the first. Gives the nodes by label. -/
def drawLiterals (cfg : Config α) (left top : α) (index : Nat) :
    List LiteralUse → Draw α (List (String × Box α))
  | [] => return []
  | use :: rest => do
    let id := (← Draw.group) ++ "-" ++ use.role.name ++ "-" ++ toString index ++ "-" ++ use.name
    let box ← Draw.inCell cfg left top cfg.actionColumns index fun corner =>
      Draw.ellipse cfg use.label corner id use.role.name
    return (use.label, box) :: (← drawLiterals cfg left top (index + 1) rest)

/-- Draws parameters in a band; `index` is the place of the first. Gives the nodes by name. -/
def drawParameters (cfg : Config α) (left top : α) (index : Nat) :
    List Parameter → Draw α (List (String × Box α))
  | [] => return []
  | p :: rest => do
    let id := (← Draw.group) ++ "-param-" ++ toString index ++ "-" ++ p.name
    let box ← Draw.inCell cfg left top cfg.actionColumns index fun corner =>
      Draw.rectangle cfg p.label corner id cfg.parameterWidth cfg.parameterHeight
    return (p.name, box) :: (← drawParameters cfg left top (index + 1) rest)

omit [Sub α] [LT α] [DecidableLT α] in
/-- The cursor after a band of some cells with a gap below it. -/
def advance (cfg : Config α) (cursor : Cursor α) (cells : Nat) : Cursor α :=
  let rows := rowCount cells cfg.actionColumns
  { next := cursor.next + (Scalar.ofNat rows * cfg.spacingY + cfg.sectionGap)
    lastTop := cursor.next
    lastRows := rows }

/-- Draws the title and the description of an action. -/
def drawHead (cfg : Config α) (action : Action) (x y : α) : Draw α (Cursor α) := do
  let group ← Draw.group
  let width ← cfg.actionWidth
  let _ ← Draw.rectangle cfg ("Action: " ++ action.name) ⟨x, y⟩ (group ++ "-title") width
    cfg.nodeHeight
  let top := y + cfg.spacingY
  let height := cfg.nodeHeight * Scalar.ofNat 2
  let _ ← Draw.description cfg (shownText action.description "Action description") ⟨x, top⟩
    (group ++ "-description") width height "action"
  let rows ← Scalar.ceiling (← Scalar.quotient height cfg.spacingY)
  return {
    next := top + (height + cfg.sectionGap)
    lastTop := top
    lastRows := max 1 rows.toNat }

/-- Draws the preconditions, if there are any. -/
def drawPreconditions (cfg : Config α) (x : α) (literals : List LiteralUse) (cursor : Cursor α) :
    Draw α (List (String × Box α) × Cursor α) := do
  if literals.isEmpty then return ([], cursor)
  let nodes ← drawLiterals cfg x cursor.next 0 literals
  return (nodes, advance cfg cursor literals.length)

/-- Draws the parameters. Without parameters a gap is left below preconditions. -/
def drawParameterBand (cfg : Config α) (x : α) (parameters : List Parameter)
    (afterPreconditions : Bool) (cursor : Cursor α) :
    Draw α (List (String × Box α) × Cursor α) := do
  if parameters.isEmpty then
    if afterPreconditions then
      return ([], { cursor with next := cursor.next + cfg.sectionGap })
    else return ([], cursor)
  let nodes ← drawParameters cfg x cursor.next 0 parameters
  return (nodes, advance cfg cursor parameters.length)

/-- Draws the effects, if there are any. No gap is left below them. -/
def drawEffects (cfg : Config α) (x : α) (literals : List LiteralUse) (cursor : Cursor α) :
    Draw α (List (String × Box α) × Cursor α) := do
  if literals.isEmpty then return ([], cursor)
  let nodes ← drawLiterals cfg x cursor.next 0 literals
  let rows := rowCount literals.length cfg.actionColumns
  let bottom := cursor.next + Scalar.ofNat rows * cfg.spacingY
  Draw.extend bottom
  return (nodes, { next := bottom, lastTop := cursor.next, lastRows := rows })

/-- Draws the numeric effects and comparisons, if there are any, with a gap above them when effects
were drawn. -/
def drawNumericBand (cfg : Config α) (x : α) (anchors : List (String × Box α))
    (changes : List ChangeUse) (comparisons : List ComparisonUse) (afterEffects : Bool)
    (cursor : Cursor α) : Draw α (NumericBand α × Cursor α) := do
  if changes.isEmpty && comparisons.isEmpty then return ({}, cursor)
  let top := if afterEffects then cursor.next + cfg.sectionGap else cursor.next
  let frame : NumericFrame α := { cfg, left := x, top, anchors }
  let band ← frame.drawChanges 0 {} changes
  let band ← frame.drawComparisons 0 band comparisons
  let rows := rowCount (max 1 band.placed) cfg.actionColumns
  let next := top + Scalar.ofNat rows * cfg.spacingY
  return (band, { next, lastTop := top, lastRows := rows })

/-- The literals of a role that have a node, with their nodes. -/
def drawnLiterals (nodes : List (String × Box α)) (uses : List LiteralUse) :
    List (Box α × String × List Formula) :=
  uses.filterMap fun use => (nodes.lookup use.label).map (·, use.name, use.arguments)

/-- The data that the group of an action carries. -/
def groupData (action : Action) (description group : String) : List (String × Value) := [
  ("type", .text "action"),
  ("name", .text action.name),
  ("description", .text description),
  ("editableDescription", .bool true),
  ("descriptionElementId", .text (sanitize (group ++ "-description")))]

/-- Draws the block of an action with its upper left corner at `(x, y)`. -/
def draw (cfg : Config α) (action : Action) (x y : α) : Draw α (Block α) := do
  let group ← Draw.group
  let cursor ← drawHead cfg action x y
  let conditions := ({} : Occurrences).collect .precondition (action.preconditions.map some)
  let effects := ({} : Occurrences).collect .effect (action.effects.map some)
  let conditionLiterals := conditions.distinctLiterals
  let effectLiterals := effects.distinctLiterals
  let (conditionNodes, cursor) ← drawPreconditions cfg x conditionLiterals cursor
  let (anchors, cursor) ←
    drawParameterBand cfg x action.parameters (!conditionLiterals.isEmpty) cursor
  let (effectNodes, cursor) ← drawEffects cfg x effectLiterals cursor
  let (band, cursor) ← drawNumericBand cfg x anchors effects.changes conditions.comparisons
    (!effectLiterals.isEmpty) cursor
  let drawn := drawnLiterals conditionNodes conditions.literals ++
    drawnLiterals effectNodes effects.literals ++
    band.functions.map fun f => (f.box, f.name, f.arguments)
  let (_, skipped) ← Draw.connectAll cfg anchors (group ++ "-edge") 0 drawn
  let description := shownText action.description "Action description"
  let canvas := (← get).canvas
  let bottom := greater canvas.bottom (cursor.lastTop + Scalar.ofNat cursor.lastRows * cfg.spacingY)
  return {
    elements := canvas.finish description (groupData action description group)
    width := ← cfg.actionWidth
    height := bottom - y + cfg.nodeHeight
    skipped }

end ActionBlock

variable {α : Type} [Add α] [Sub α] [Mul α] [LT α] [DecidableLT α] [Scalar α]

/-- Runs a drawing on an empty canvas. The session that is given keeps its count of groups when the
drawing fails. -/
def Draw.run {α : Type} (session : Session) (group : String) (bottom : α)
    (draw : Draw α (Block α)) : Session × Except Fault (Block α) :=
  match draw { canvas := { group, bottom }, session } with
  | .ok (block, drawing) => (drawing.session, .ok block)
  | .error fault => (session, .error fault)

/-- The block of an action with its upper left corner at `(x, y)`, and the session after it. -/
def actionBlock (cfg : Config α) (session : Session) (action : Action) (x y : α) :
    Session × Except Fault (Block α) :=
  let (number, session) := session.nextActionGroup
  let group := sanitize ("group-" ++ action.name ++ "-" ++ toString number)
  Draw.run session group (Scalar.ofNat 0) (ActionBlock.draw cfg action x y)

/-- The blocks of actions side by side from `x` on, and the session after them. -/
def actionBlocks (cfg : Config α) (session : Session) (x : α) :
    List Action → Session × Except Fault (List (Block α))
  | [] => (session, .ok [])
  | action :: rest =>
    match actionBlock cfg session action x cfg.startY with
    | (session, .error fault) => (session, .error fault)
    | (session, .ok block) =>
      let (session, blocks) := actionBlocks cfg session (x + (block.width + cfg.spacingX)) rest
      (session, blocks.map (block :: ·))

/-- The blocks of a domain: one for each action, side by side. -/
def domainBlocks (cfg : Config α) (session : Session) (domain : Domain) :
    Session × Except Fault (List (Block α)) :=
  actionBlocks cfg session cfg.startX domain.actions

end PlanDiagram.Diagram
