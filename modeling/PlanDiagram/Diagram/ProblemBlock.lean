import PlanDiagram.Diagram.ActionBlock
import PlanDiagram.Diagram.ComparisonBand
import PlanDiagram.Problem.Basic

/-!
# Blocks of problems

The block of a problem has a sidebar with the descriptions of facts and goal, and beside it bands of
comparisons and predicates of the facts, the objects, and predicates and comparisons of the goal.
Bands without content are left out. The number of columns is the greatest number of nodes that a
band may need, up to the limit of the configuration.
-/

namespace PlanDiagram.Diagram

/-- The bands drawn so far: where the next one starts, where the last one starts, and the greatest
number of rows of a band. -/
structure BandCursor (α : Type) where
  next : α
  lastTop : α
  lastRows : Nat := 1

/-- The measures of the block of a problem. -/
structure ProblemFrame (α : Type) where
  cfg : Config α
  columns : Nat
  width : α
  sidebarWidth : α
  sidebarHeight : α
  sidebarGap : α
  left : α

/-- The number of columns for comparisons, which is at least one. -/
def ProblemFrame.comparisonColumns {α : Type} (f : ProblemFrame α) : Nat :=
  max 1 f.columns

namespace ProblemBlock

variable {α : Type} [Add α] [Sub α] [Mul α] [LT α] [DecidableLT α] [Scalar α]

/-- The number of columns: the greatest number of nodes of a band, at least one, but at most the
limit of the configuration. -/
def columnCount (cfg : Config α) (counts : List Nat) : Nat :=
  min cfg.problemMaxColumns (counts.foldl max 1)

/-- The measures of a block with the given number of columns that starts at `x`. Without columns the
last of them lies one spacing before the first. -/
def frame (cfg : Config α) (columns : Nat) (x : α) : ProblemFrame α :=
  let width :=
    if columns = 0 then cfg.nodeWidth - cfg.spacingX
    else cfg.nodeWidth + cfg.spacingX * Scalar.ofNat (columns - 1)
  let sidebarWidth := lesser width (cfg.nodeWidth * Scalar.ofNat 6)
  let sidebarGap := Scalar.half cfg.spacingX
  { cfg, columns, width, sidebarWidth
    sidebarHeight := cfg.nodeHeight * Scalar.ofNat 8
    sidebarGap
    left := x + sidebarWidth + sidebarGap }

/-- The fill of literals by role. -/
def literalFill : Role → String
  | .init => "precondition"
  | _ => "effect"

/-- Draws literals in a band; `index` is the place of the first. Gives the nodes by label. -/
def drawLiterals (f : ProblemFrame α) (role : Role) (top : α) (index : Nat) :
    List LiteralUse → Draw α (List (String × Box α))
  | [] => return []
  | use :: rest => do
    let id := (← Draw.group) ++ "-" ++ role.name ++ "-" ++ toString index ++ "-" ++ use.name
    let box ← Draw.inCell f.cfg f.left top f.columns index fun corner =>
      Draw.ellipse f.cfg use.label corner id (literalFill role)
    return (use.label, box) :: (← drawLiterals f role top (index + 1) rest)

/-- Draws a band of literals, if there are any. -/
def drawLiteralBand (f : ProblemFrame α) (role : Role) (literals : List LiteralUse)
    (cursor : BandCursor α) : Draw α (List (String × Box α) × BandCursor α) := do
  if literals.isEmpty then return ([], cursor)
  let nodes ← drawLiterals f role cursor.next 0 literals
  let rows := rowCount literals.length f.columns
  return (nodes, {
    next := cursor.next + Scalar.ofNat rows * f.cfg.spacingY + f.cfg.sectionGap
    lastTop := cursor.next
    lastRows := max cursor.lastRows rows })

/-- Draws a band of comparisons, if there are any. Gives the uses of functions. -/
def drawComparisonBand (f : ProblemFrame α) (role : Role) (comparisons : List ComparisonUse)
    (cursor : BandCursor α) : Draw α (List (FunctionUse α) × BandCursor α) := do
  if comparisons.isEmpty then return ([], cursor)
  let cfg := f.cfg
  let top := cursor.next
  let columns := f.comparisonColumns
  let frame : ComparisonFrame α := { cfg, role, left := f.left, columns }
  let (placed, operands) ← frame.drawOperands top 0 {} comparisons
  let operandHeight := Scalar.ofNat (rowCount operands.placed columns) * cfg.spacingY
  let rowGap := if Scalar.ofNat 0 < operandHeight then cfg.sectionGap else Scalar.ofNat 0
  let operatorTop := top + operandHeight + rowGap
  let operators ← frame.drawOperators operatorTop {} placed
  let operatorHeight := Scalar.ofNat (rowCount operators.placed columns) * cfg.spacingY
  let height := operandHeight + rowGap + operatorHeight
  Draw.extend (operatorTop + operatorHeight)
  let rows ← Scalar.ceiling (← Scalar.quotient height cfg.spacingY)
  return (operands.uses, {
    next := top + height + cfg.sectionGap
    lastTop := top
    lastRows := max cursor.lastRows rows.toNat })

/-- Draws objects in a band; `index` is the place of the first. Gives the nodes by name. -/
def drawObjects (f : ProblemFrame α) (top : α) (index : Nat) :
    List Parameter → Draw α (List (String × Box α))
  | [] => return []
  | p :: rest => do
    let id := (← Draw.group) ++ "-object-" ++ toString index ++ "-" ++ p.name
    let box ← Draw.inCell f.cfg f.left top f.columns index fun corner =>
      Draw.rectangle f.cfg p.label corner id f.cfg.parameterWidth f.cfg.parameterHeight
    return (p.name, box) :: (← drawObjects f top (index + 1) rest)

/-- Draws the band of objects, if there are any. -/
def drawObjectBand (f : ProblemFrame α) (objects : List Parameter) (cursor : BandCursor α) :
    Draw α (List (String × Box α) × BandCursor α) := do
  if objects.isEmpty then return ([], cursor)
  let nodes ← drawObjects f cursor.next 0 objects
  let rows := rowCount objects.length f.columns
  return (nodes, {
    next := cursor.next + (Scalar.ofNat rows * f.cfg.spacingY + f.cfg.sectionGap)
    lastTop := cursor.next
    lastRows := max cursor.lastRows rows })

/-- Draws the descriptions of facts and goal; `objectBottom` is where the objects end. -/
def drawSidebar (f : ProblemFrame α) (problem : Problem) (x y objectBottom : α) : Draw α Unit := do
  let group ← Draw.group
  let gap := f.cfg.sectionGap
  let _ ← Draw.description f.cfg (shownText problem.initDescription "Init description") ⟨x, y⟩
    (group ++ "-init-description") f.sidebarWidth f.sidebarHeight "problem-init"
  let goalTop := greater (objectBottom + gap) (y + f.sidebarHeight + gap)
  let _ ← Draw.description f.cfg (shownText problem.goalDescription "Goal description")
    ⟨x, goalTop⟩ (group ++ "-goal-description") f.sidebarWidth (Scalar.half f.sidebarHeight)
    "problem-goal"

/-- The name by which a problem is shown. -/
def shownName (problem : Problem) : String :=
  if problem.name == "" then "noname" else problem.name

/-- The data that the group of a problem carries. -/
def groupData (problem : Problem) (group : String) : List (String × Value) := [
  ("type", .text "problem"),
  ("name", .text problem.name),
  ("domain", Value.ofText? problem.domainName),
  ("initDescriptionId", .text (sanitize (group ++ "-init-description"))),
  ("goalDescriptionId", .text (sanitize (group ++ "-goal-description")))]

/-- The uses of functions, in the form in which their arguments are connected. -/
def drawnFunctions (uses : List (FunctionUse α)) : List (Box α × String × List Formula) :=
  uses.map fun use => (use.box, use.name, use.arguments)

/-- Draws the block of a problem with its upper left corner at `(x, y)`. -/
def draw (cfg : Config α) (problem : Problem) (x y : α) : Draw α (Block α) := do
  let group ← Draw.group
  let init := ({} : Occurrences).collect .init (problem.init.map some)
  let goal := ({} : Occurrences).collect .goal [problem.goal]
  let initLiterals := init.distinctLiterals
  let goalLiterals := goal.distinctLiterals
  let columns := columnCount cfg [
    initLiterals.length + init.comparisons.length,
    problem.objects.length,
    goalLiterals.length + goal.comparisons.length]
  let f := frame cfg columns x
  let cursor : BandCursor α := { next := y, lastTop := y }
  let (initUses, cursor) ← drawComparisonBand f .init init.comparisons cursor
  let (initNodes, cursor) ← drawLiteralBand f .init initLiterals cursor
  let objectTop := cursor.next
  let objectRows := rowCount problem.objects.length columns
  let (anchors, cursor) ← drawObjectBand f problem.objects cursor
  let (goalNodes, cursor) ← drawLiteralBand f .goal goalLiterals cursor
  let (goalUses, cursor) ← drawComparisonBand f .goal goal.comparisons cursor
  drawSidebar f problem x y (objectTop + Scalar.ofNat objectRows * cfg.spacingY)
  let literals := ActionBlock.drawnLiterals initNodes init.literals ++
    ActionBlock.drawnLiterals goalNodes goal.literals
  let (number, skippedLiterals) ← Draw.connectAll cfg anchors (group ++ "-edge") 0 literals
  let (_, skippedFunctions) ← Draw.connectAll cfg anchors (group ++ "-function-edge") number
    (drawnFunctions (initUses ++ goalUses))
  let canvas := (← get).canvas
  let bottom := greater canvas.bottom (cursor.lastTop + Scalar.ofNat cursor.lastRows * cfg.spacingY)
  return {
    elements := canvas.finish ("Problem: " ++ shownName problem) (groupData problem group)
    width := f.sidebarWidth + f.sidebarGap + f.width
    height := bottom - y + cfg.nodeHeight
    skipped := skippedLiterals ++ skippedFunctions }

end ProblemBlock

variable {α : Type} [Add α] [Sub α] [Mul α] [LT α] [DecidableLT α] [Scalar α]

/-- The block of a problem with its upper left corner at `(x, y)`, and the session after it. -/
def problemBlock (cfg : Config α) (session : Session) (problem : Problem) (x y : α) :
    Session × Except Fault (Block α) :=
  let (number, session) := session.nextProblemGroup
  let group :=
    sanitize ("problem-" ++ ProblemBlock.shownName problem ++ "-" ++ toString number)
  Draw.run session group y (ProblemBlock.draw cfg problem x y)

end PlanDiagram.Diagram
