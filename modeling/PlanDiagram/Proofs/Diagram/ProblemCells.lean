import PlanDiagram.Proofs.Diagram.Cells
import PlanDiagram.Proofs.Diagram.ComparisonTerms
import PlanDiagram.Proofs.Diagram.Stages

/-!
# Cells in the block of a problem

Band by band, the nodes of a problem are added to its block: literals and objects in the cells of
one grid each, and comparisons in those of two grids, first the operands and then the operators. The
descriptions of the sidebar have boxes of their own. Operands and operators that are found again
fill no cell.
-/

namespace PlanDiagram.Diagram

variable {α : Type} [Add α] [Mul α] [LT α] [DecidableLT α] [Scalar α] {d d' : Drawing α}

namespace ComparisonFrame

variable {frame : ComparisonFrame α} {top : α}

/-- The cells of a grid of operands or operators. -/
def grid (frame : ComparisonFrame α) (top : α) : Grid α :=
  ellipseGrid frame.cfg frame.left top frame.columns

/-- The node of a function fills the next cell, unless it is found. -/
theorem functionNode_fills {grid grid' : OperandGrid α} {suffix name : String}
    {arguments : List Formula} {box : Box α}
    (hdraw : frame.functionNode top grid suffix name arguments d = .ok ((box, grid'), d')) :
    ∃ ns, (frame.grid top).Fills grid.placed grid'.placed ns d d' := by
  cases functionNode_ok hdraw with
  | found hlookup => exact ⟨[], .refl d⟩
  | drawn hlookup hticket hellipse =>
    obtain ⟨n, -, hn⟩ := Draw.ellipse_fills hellipse
    exact ⟨[n], hn.after (Draw.ticket_adds hticket)⟩

/-- An operand fills at most the next cell. -/
theorem operand_fills {grid grid' : OperandGrid α} {suffix : String} {f? : Option Formula}
    {box? : Option (Box α)} {text? : Option String}
    (hdraw : frame.operand top grid suffix f? d = .ok ((box?, text?, grid'), d')) :
    ∃ ns, (frame.grid top).Fills grid.placed grid'.placed ns d d' := by
  cases operand_ok hdraw with
  | missing => exact ⟨[], .refl d⟩
  | literal hf hliteral => exact ⟨[], .refl d⟩
  | function hnode => exact functionNode_fills hnode
  | node hf hliteral hticket hellipse =>
    obtain ⟨n, -, hn⟩ := Draw.ellipse_fills hellipse
    exact ⟨[n], hn.after (Draw.ticket_adds hticket)⟩

/-- The operands of comparisons fill the next cells. -/
theorem drawOperands_fills {uses : List ComparisonUse} {index : Nat} {grid grid' : OperandGrid α}
    {placed : List (PlacedComparison α)}
    (hdraw : frame.drawOperands top index grid uses d = .ok ((placed, grid'), d')) :
    ∃ ns, (frame.grid top).Fills grid.placed grid'.placed ns d d' := by
  induction uses generalizing index grid d placed with
  | nil =>
    obtain ⟨heq, rfl⟩ := Draw.pure_ok_iff.mp hdraw
    obtain ⟨rfl, rfl⟩ := Prod.mk.inj heq
    exact ⟨[], .refl d⟩
  | cons use rest ih =>
    obtain ⟨⟨left, leftText, grid₁⟩, d₁, hleft, hdraw⟩ := Draw.bind_ok_iff.mp hdraw
    obtain ⟨⟨right, rightText, grid₂⟩, d₂, hright, hdraw⟩ := Draw.bind_ok_iff.mp hdraw
    obtain ⟨⟨others, grid₃⟩, d₃, hrest, hdraw⟩ := Draw.bind_ok_iff.mp hdraw
    obtain ⟨heq, rfl⟩ := Draw.pure_ok_iff.mp hdraw
    obtain ⟨rfl, rfl⟩ := Prod.mk.inj heq
    obtain ⟨first, hfirst⟩ := operand_fills hleft
    obtain ⟨second, hsecond⟩ := operand_fills hright
    obtain ⟨ns, hns⟩ := ih hrest
    exact ⟨_, (hfirst.trans hsecond).trans hns⟩

/-- The node of an operator fills the next cell, unless it is found. -/
theorem operatorNode_fills {grid grid' : OperatorGrid α} {c : PlacedComparison α} {box : Box α}
    (hdraw : frame.operatorNode top grid c d = .ok ((box, grid'), d')) :
    ∃ ns, (frame.grid top).Fills grid.placed grid'.placed ns d d' := by
  cases operatorNode_ok hdraw with
  | found hfind => exact ⟨[], .refl d⟩
  | drawn hfind hticket hellipse =>
    obtain ⟨n, -, hn⟩ := Draw.ellipse_fills hellipse
    exact ⟨[n], hn.after (Draw.ticket_adds hticket)⟩

omit [Mul α] [Scalar α] in
/-- An arrow of a comparison adds no node. -/
theorem comparisonEdge_adds {direction : String} {source target : Box α} {u : Unit}
    (hdraw : frame.comparisonEdge direction source target d = .ok (u, d')) : Adds [] d d' := by
  obtain ⟨number, d₁, hticket, hdraw⟩ := Draw.bind_ok_iff.mp hdraw
  obtain ⟨group, d₂, hgroup, hedge⟩ := Draw.bind_ok_iff.mp hdraw
  obtain ⟨rfl, rfl⟩ := Draw.group_ok_iff.mp hgroup
  exact (Draw.ticket_adds hticket).trans (Draw.edge_adds hedge)

omit [Mul α] [Scalar α] in
/-- An arrow adds no node, whether it is drawn or left out. -/
theorem ArrowDrawing.adds {box? : Option (Box α)} {draw : Box α → Draw α Unit}
    (h : ArrowDrawing box? draw d d') (hedge : ∀ box, draw box d = .ok ((), d') → Adds [] d d') :
    Adds [] d d' := by
  rcases h with ⟨-, rfl⟩ | ⟨box, -, hdrawn⟩
  · exact .refl d'
  · exact hedge box hdrawn

/-- The operators of comparisons fill the next cells. -/
theorem drawOperators_fills {cs : List (PlacedComparison α)} {grid grid' : OperatorGrid α}
    (hdraw : frame.drawOperators top grid cs d = .ok (grid', d')) :
    ∃ ns, (frame.grid top).Fills grid.placed grid'.placed ns d d' := by
  induction cs generalizing grid d with
  | nil =>
    obtain ⟨rfl, rfl⟩ := Draw.pure_ok_iff.mp hdraw
    exact ⟨[], .refl d⟩
  | cons c rest ih =>
    obtain ⟨box, grid₁, d₁, d₂, d₃, hnode, hleft, hright, hdraw⟩ := drawOperators_cons_ok hdraw
    obtain ⟨first, hfirst⟩ := operatorNode_fills hnode
    have hadds : Adds [] d₁ d₂ := hleft.adds fun left hedge => comparisonEdge_adds hedge
    have hadds' : Adds [] d₂ d₃ := hright.adds fun right hedge => comparisonEdge_adds hedge
    obtain ⟨ns, hns⟩ := ih hdraw
    exact ⟨_, (hfirst.before (hadds.trans hadds')).trans hns⟩

end ComparisonFrame

namespace ProblemBlock

variable {f : ProblemFrame α}

/-- Literals fill the cells of a grid. -/
theorem drawLiterals_fills {role : Role} {top : α} {uses : List LiteralUse} {index : Nat}
    {boxes : List (String × Box α)}
    (hdraw : drawLiterals f role top index uses d = .ok (boxes, d')) :
    ∃ ns, (ellipseGrid f.cfg f.left top f.columns).Fills index (index + uses.length) ns d d' :=
  Draw.row_fills hdraw (fun _ => rfl) (fun _ _ _ => rfl) fun hcell =>
    Draw.ellipse_fills (Draw.inCell_ok_iff.mp hcell).2

/-- Objects fill the cells of a grid. -/
theorem drawObjects_fills {top : α} {objects : List Parameter} {index : Nat}
    {boxes : List (String × Box α)}
    (hdraw : drawObjects f top index objects d = .ok (boxes, d')) :
    ∃ ns, (rectangleGrid f.cfg f.left top f.columns).Fills index (index + objects.length) ns d d' :=
  Draw.row_fills hdraw (fun _ => rfl) (fun _ _ _ => rfl) fun hcell =>
    Draw.rectangle_fills (Draw.inCell_ok_iff.mp hcell).2

/-- Drawing a band of literals. -/
theorem drawLiteralBand_fills {role : Role} {literals : List LiteralUse} {cursor : BandCursor α}
    {result : List (String × Box α) × BandCursor α}
    (hdraw : drawLiteralBand f role literals cursor d = .ok (result, d')) :
    (∃ ns, (ellipseGrid f.cfg f.left cursor.next f.columns).Fills 0 literals.length ns d d') ∧
      result.2.next = if literals.isEmpty then cursor.next
        else cursor.next + Scalar.ofNat (rowCount literals.length f.columns) * f.cfg.spacingY +
          f.cfg.sectionGap := by
  unfold drawLiteralBand at hdraw
  cases literals with
  | nil =>
    obtain ⟨rfl, rfl⟩ := Draw.pure_ok_iff.mp hdraw
    exact ⟨⟨[], .refl d⟩, rfl⟩
  | cons l rest =>
    obtain ⟨boxes, d₁, hboxes, hdraw⟩ := Draw.bind_ok_iff.mp hdraw
    obtain ⟨rfl, rfl⟩ := Draw.pure_ok_iff.mp hdraw
    have hfills := drawLiterals_fills hboxes
    rw [Nat.zero_add] at hfills
    exact ⟨hfills, rfl⟩

/-- Drawing the objects. -/
theorem drawObjectBand_fills {objects : List Parameter} {cursor : BandCursor α}
    {result : List (String × Box α) × BandCursor α}
    (hdraw : drawObjectBand f objects cursor d = .ok (result, d')) :
    (∃ ns, (rectangleGrid f.cfg f.left cursor.next f.columns).Fills 0 objects.length ns d d') ∧
      result.2.next = if objects.isEmpty then cursor.next
        else cursor.next + (Scalar.ofNat (rowCount objects.length f.columns) * f.cfg.spacingY +
          f.cfg.sectionGap) := by
  unfold drawObjectBand at hdraw
  cases objects with
  | nil =>
    obtain ⟨rfl, rfl⟩ := Draw.pure_ok_iff.mp hdraw
    exact ⟨⟨[], .refl d⟩, rfl⟩
  | cons p rest =>
    obtain ⟨boxes, d₁, hboxes, hdraw⟩ := Draw.bind_ok_iff.mp hdraw
    obtain ⟨rfl, rfl⟩ := Draw.pure_ok_iff.mp hdraw
    have hfills := drawObjects_fills hboxes
    rw [Nat.zero_add] at hfills
    exact ⟨hfills, rfl⟩

/-- A band of comparisons fills the cells of two grids, that of its operands and below it that of
its operators. -/
structure FillsComparisons (f : ProblemFrame α) (top next : α) (operands operators : List (Node α))
    (d middle d' : Drawing α) : Prop where
  first : (ellipseGrid f.cfg f.left top f.comparisonColumns).Fills 0 operands.length operands d middle
  second : (ellipseGrid f.cfg f.left
    (top + rowsHeight f operands.length + operandGap f operands.length)
      f.comparisonColumns).Fills 0 operators.length operators middle d'
  next_eq : next = top + (rowsHeight f operands.length + operandGap f operands.length +
    rowsHeight f operators.length) + f.cfg.sectionGap

/-- Drawing a band of comparisons. -/
theorem drawComparisonBand_fills {role : Role} {comparisons : List ComparisonUse}
    {cursor : BandCursor α} {result : List (FunctionUse α) × BandCursor α}
    (hdraw : drawComparisonBand f role comparisons cursor d = .ok (result, d')) :
    (d = d' ∧ result.2.next = cursor.next) ∨ ∃ operands operators middle,
      FillsComparisons f cursor.next result.2.next operands operators d middle d' := by
  obtain ⟨-, rfl, rfl⟩ | ⟨⟨stages⟩⟩ := comparisonStages_or hdraw
  · exact .inl ⟨rfl, rfl⟩
  · obtain ⟨ns, hns⟩ := ComparisonFrame.drawOperands_fills stages.operands_eq
    obtain ⟨ms, hms⟩ := ComparisonFrame.drawOperators_fills stages.operators_eq
    have hoperands : stages.operands.placed = ns.length := hns.last_eq.trans (Nat.zero_add _)
    have hoperators : stages.operators.placed = ms.length := hms.last_eq.trans (Nat.zero_add _)
    have hnext := stages.next_eq
    rw [hoperands, hoperators] at hnext
    rw [hoperands] at hns hms
    rw [hoperators] at hms
    exact .inr ⟨ns, ms, stages.afterOperands, hns,
      hms.before (Draw.extend_adds stages.extend_eq), hnext⟩

/-- The descriptions of the sidebar stand one below the other. -/
structure Sidebar (f : ProblemFrame α) (x y objectBottom : α) (init goal : Node α) : Prop where
  init_origin : init.box.origin = ⟨x, y⟩
  init_width : init.box.width = f.sidebarWidth
  init_height : init.box.height = f.sidebarHeight
  init_describes : init.describes = some "problem-init"
  goal_origin : goal.box.origin = ⟨x, greater (objectBottom + f.cfg.sectionGap)
    (y + f.sidebarHeight + f.cfg.sectionGap)⟩
  goal_width : goal.box.width = f.sidebarWidth
  goal_height : goal.box.height = Scalar.half f.sidebarHeight
  goal_describes : goal.describes = some "problem-goal"

omit [Mul α] in
/-- Drawing the descriptions. -/
theorem drawSidebar_adds {problem : Problem} {x y objectBottom : α} {u : Unit}
    (hdraw : drawSidebar f problem x y objectBottom d = .ok (u, d')) :
    ∃ init goal, Sidebar f x y objectBottom init goal ∧ Adds [init, goal] d d' := by
  obtain ⟨box, box', d₁, hfirst, hsecond⟩ := drawSidebar_ok hdraw
  obtain ⟨init, hinit, hadds, hdescribes, rfl⟩ := Draw.description_adds hfirst
  obtain ⟨goal, hgoal, hadds', hdescribes', rfl⟩ := Draw.description_adds hsecond
  refine ⟨init, goal, ?_, hadds.trans hadds'⟩
  constructor <;> simp only [hinit, hgoal, hdescribes, hdescribes'] <;> rfl

end ProblemBlock

end PlanDiagram.Diagram
