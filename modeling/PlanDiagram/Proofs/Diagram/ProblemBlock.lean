import PlanDiagram.Proofs.Diagram.ActionBlock
import PlanDiagram.Proofs.Diagram.ComparisonBand

/-!
# Blocks of problems

Band by band, the block of a problem is a sequence of steps, as that of an action is. The bands of
facts and of goals are drawn by the same functions under the names of their roles, which keep their
families apart. The descriptions are drawn between the bands and the arrows.
-/

namespace PlanDiagram.Diagram.ProblemBlock

open ActionBlock (connectable_drawnLiterals)
open ComparisonFrame (tickets operandFamilies operatorFamilies)

/-- The identifiers of objects. -/
def objectFamily : Family := .leading "object-"

/-- The identifier of the description of the facts. -/
def initDescriptionFamily : Family := .single "init-description"

/-- The identifier of the description of the goal. -/
def goalDescriptionFamily : Family := .single "goal-description"

variable {α : Type} [Add α] [Mul α] [LT α] [DecidableLT α] [Scalar α] {f : ProblemFrame α}
  {d d' : Drawing α}

/-- Drawing literals of a role. -/
theorem drawLiterals_step {role : Role} {top : α} {uses : List LiteralUse} {index : Nat}
    {nodes : List (String × Box α)}
    (hdraw : drawLiterals f role top index uses d = .ok (nodes, d')) (hd : d.Sound tickets)
    (hunused : d.canvas.Unused (roleFamily role) index) :
    Step tickets [roleFamily role] [] d d' ∧
      ∀ node ∈ nodes, Placed d' (roleFamily role) node.2 := by
  have hspared : ∀ t ∈ tickets, (roleFamily role).Apart t.2 := by
    cases role <;> decide +kernel
  refine Draw.row_step hdraw (fun _ => rfl) (fun _ _ _ => rfl) (fun _ _ => trivial) ?_ hd hunused
  intro index use d d' box hcell _ hd hunused
  obtain ⟨-, hellipse⟩ := Draw.inCell_ok_iff.mp hcell
  have hnames := Names.literal d.canvas.group role index use.name
  exact Draw.ellipse_drawn hellipse hd hnames ⟨hunused, fun t ht => .inl (hspared t ht)⟩

/-- Drawing objects. -/
theorem drawObjects_step {top : α} {objects : List Parameter} {index : Nat}
    {nodes : List (String × Box α)} (hdraw : drawObjects f top index objects d = .ok (nodes, d'))
    (hd : d.Sound tickets) (hunused : d.canvas.Unused objectFamily index) :
    Step tickets [objectFamily] [] d d' ∧ ∀ node ∈ nodes, Placed d' objectFamily node.2 := by
  have hspared : ∀ t ∈ tickets, objectFamily.Apart t.2 := by
    decide +kernel
  refine Draw.row_step hdraw (fun _ => rfl) (fun _ _ _ => rfl) (fun _ _ => trivial) ?_ hd hunused
  intro index p d d' box hcell _ hd hunused
  obtain ⟨-, hrectangle⟩ := Draw.inCell_ok_iff.mp hcell
  have hnames : Names d.canvas.group objectFamily index
      (sanitize (d.canvas.group ++ "-object-" ++ toString index ++ "-" ++ p.name)) :=
    Names.leading d.canvas.group (by decide) (by decide) index p.name
  exact Draw.rectangle_drawn hrectangle hd hnames ⟨hunused, fun t ht => .inl (hspared t ht)⟩

/-- Drawing a band of literals. -/
theorem drawLiteralBand_step {role : Role} {literals : List LiteralUse} {cursor : BandCursor α}
    {result : List (String × Box α) × BandCursor α}
    (hdraw : drawLiteralBand f role literals cursor d = .ok (result, d')) (hd : d.Sound tickets)
    (hunused : d.canvas.Unused (roleFamily role) 0) :
    Step tickets [roleFamily role] [] d d' ∧
      ∀ node ∈ result.1, Placed d' (roleFamily role) node.2 := by
  unfold drawLiteralBand at hdraw
  exact Draw.band_step hdraw hd fun nodes hnodes => drawLiterals_step hnodes hd hunused

/-- Drawing the objects. -/
theorem drawObjectBand_step {objects : List Parameter} {cursor : BandCursor α}
    {result : List (String × Box α) × BandCursor α}
    (hdraw : drawObjectBand f objects cursor d = .ok (result, d')) (hd : d.Sound tickets)
    (hunused : d.canvas.Unused objectFamily 0) :
    Step tickets [objectFamily] [] d d' ∧ ∀ node ∈ result.1, Placed d' objectFamily node.2 := by
  unfold drawObjectBand at hdraw
  exact Draw.band_step hdraw hd fun nodes hnodes => drawObjects_step hnodes hd hunused

/-- Drawing a band of comparisons. -/
theorem drawComparisonBand_step {role : Role} {comparisons : List ComparisonUse}
    {cursor : BandCursor α} {result : List (FunctionUse α) × BandCursor α}
    (hdraw : drawComparisonBand f role comparisons cursor d = .ok (result, d'))
    (hd : d.Sound tickets)
    (hunused : ∀ side, d.canvas.Unused (ComparisonFrame.functionFamily role side) 0) :
    Step tickets (operandFamilies role ++ operatorFamilies role) [] d d' ∧
      ∀ use ∈ result.1, ComparisonFrame.Operand d' role use.box := by
  obtain ⟨-, rfl, rfl⟩ | ⟨⟨stages⟩⟩ := comparisonStages_or hdraw
  · exact ⟨.refl hd, by simp⟩
  · have hknown : ComparisonFrame.Known ({} : OperandGrid α) role d :=
      ⟨by simp, by simp⟩
    obtain ⟨hstep, hready, hknown'⟩ :=
      ComparisonFrame.drawOperands_step stages.operands_eq hd hknown hunused
    have hstep' :=
      ComparisonFrame.drawOperators_step stages.operators_eq hstep.sound hready (by simp)
    have hlast := hstep'.trans (Draw.extend_step stages.extend_eq hstep'.sound)
    rw [stages.uses_eq]
    exact ⟨hstep.append hlast, (hknown'.step hlast).uses⟩

omit [Mul α] in
/-- Drawing the descriptions. -/
theorem drawSidebar_step {problem : Problem} {x y objectBottom : α} {u : Unit}
    (hdraw : drawSidebar f problem x y objectBottom d = .ok (u, d')) (hd : d.Sound tickets)
    (hinit : d.canvas.Unused initDescriptionFamily 0)
    (hgoal : d.canvas.Unused goalDescriptionFamily 0) :
    Step tickets [initDescriptionFamily, goalDescriptionFamily]
      [("problem-init", sanitize (d.canvas.group ++ "-init-description")),
        ("problem-goal", sanitize (d.canvas.group ++ "-goal-description"))] d d' := by
  have hspared : ∀ g ∈ [initDescriptionFamily, goalDescriptionFamily], ∀ t ∈ tickets,
      g.Apart t.2 := by
    decide +kernel
  obtain ⟨box, box', d₁, hfirst, hsecond⟩ := drawSidebar_ok hdraw
  have hinit_name : Names d.canvas.group initDescriptionFamily 0
      (sanitize (d.canvas.group ++ "-init-description")) :=
    Names.single d.canvas.group (by decide) (by decide)
  have hinit_drawn := Draw.description_drawn hfirst hd hinit_name
    ⟨hinit, fun t ht => .inl (hspared _ (by simp) t ht)⟩
  have hunused : d₁.canvas.Unused goalDescriptionFamily 0 :=
    hinit_drawn.step.unused (by decide +kernel) hgoal
  have hgoal_name : Names d₁.canvas.group goalDescriptionFamily 0
      (sanitize (d.canvas.group ++ "-goal-description")) := by
    rw [hinit_drawn.step.group_eq]
    exact Names.single d.canvas.group (by decide) (by decide)
  have hgoal_drawn := Draw.description_drawn hsecond hinit_drawn.step.sound hgoal_name
    ⟨hunused, fun t ht => .inl (hspared _ (by simp) t ht)⟩
  exact (hinit_drawn.step.mono (by simp)).trans (hgoal_drawn.step.mono (by simp))

omit [Add α] [Mul α] [LT α] [DecidableLT α] [Scalar α] in
/-- The functions of comparisons can be connected with objects. -/
theorem connectable_drawnFunctions {uses : List (FunctionUse α)}
    (huses : ∀ use ∈ uses, ∃ role, ComparisonFrame.Operand d role use.box) :
    Connectable d objectFamily (drawnFunctions uses) := by
  intro drawn hdrawn
  obtain ⟨use, huse, rfl⟩ := List.mem_map.mp hdrawn
  obtain ⟨role, g, hg, hplaced⟩ := huses use huse
  have hapart : ∀ g ∈ operandFamilies role, objectFamily.Apart g := by
    cases role <;> decide +kernel
  exact ⟨g, hapart g hg, hplaced⟩

/-- The families of a block of a problem. -/
def families : List Family :=
  (operandFamilies .init ++ operatorFamilies .init) ++ [roleFamily .init] ++ [objectFamily] ++
    [roleFamily .goal] ++ (operandFamilies .goal ++ operatorFamilies .goal) ++
    [initDescriptionFamily, goalDescriptionFamily] ++ [connectionFamily "edge"] ++
    [connectionFamily "function-edge"]

/-- The stages of a block on an empty canvas. -/
theorem Stages.step [Sub α] {cfg : Config α} {problem : Problem} {x y : α} {block : Block α}
    (stages : Stages cfg problem x y d d' block) (helements : d.canvas.elements = [])
    (hconnected : d.canvas.connected = []) :
    Step tickets families
      [("problem-init", sanitize (d.canvas.group ++ "-init-description")),
        ("problem-goal", sanitize (d.canvas.group ++ "-goal-description"))] d d' := by
  have hd : d.Sound tickets := Drawing.sound_of_empty helements hconnected
  obtain ⟨hstep₁, hinitUses⟩ := drawComparisonBand_step stages.initComparisons_eq hd
    fun side => Canvas.unused_of_empty helements
  obtain ⟨hstep₂, hinitNodes⟩ := drawLiteralBand_step stages.initLiterals_eq hstep₁.sound
    (hstep₁.unused_of_empty helements (by decide +kernel))
  have hall := hstep₁.append hstep₂
  obtain ⟨hstep₃, hanchors⟩ := drawObjectBand_step stages.objects_eq hall.sound
    (hall.unused_of_empty helements (by decide +kernel))
  have hall := hall.append hstep₃
  obtain ⟨hstep₄, hgoalNodes⟩ := drawLiteralBand_step stages.goalLiterals_eq hall.sound
    (hall.unused_of_empty helements (by decide +kernel))
  have hall := hall.append hstep₄
  obtain ⟨hstep₅, hgoalUses⟩ := drawComparisonBand_step stages.goalComparisons_eq hall.sound
    fun side => hall.unused_of_empty helements (by cases side <;> decide +kernel)
  have hall := hall.append hstep₅
  have hstep₆ := drawSidebar_step stages.sidebar_eq hall.sound
    (hall.unused_of_empty helements (by decide +kernel))
    (hall.unused_of_empty helements (by decide +kernel))
  rw [hall.group_eq] at hstep₆
  have hall := hall.append hstep₆
  have hunused : stages.afterSidebar.canvas.Unused (connectionFamily "edge") 0 :=
    hall.unused_of_empty helements (by decide +kernel)
  -- what the bands hand on is on the canvas when the arrows are drawn
  have hlast := (hstep₄.append hstep₅).append hstep₆
  have hanchored : ∀ anchor ∈ stages.objects.1, Placed stages.afterSidebar objectFamily anchor.2 :=
    fun anchor hanchor => hlast.placed (hanchors anchor hanchor)
  have hinitNodes := connectable_drawnLiterals (f := objectFamily)
    (fun node hnode => (hstep₃.append hlast).placed (hinitNodes node hnode)) (by decide +kernel)
  have hgoalNodes := connectable_drawnLiterals (f := objectFamily)
    (fun node hnode => (hstep₅.append hstep₆).placed (hgoalNodes node hnode)) (by decide +kernel)
  obtain ⟨hstep₇, -⟩ := Draw.connectAll_step (by decide) (by decide +kernel)
    stages.literalArrows_eq (by rw [hall.group_eq, String.append_assoc]; rfl) hall.sound hanchored
    ((hinitNodes _).append (hgoalNodes _)) hunused
  have hall := hall.append hstep₇
  have hunused : stages.afterLiteralArrows.canvas.Unused (connectionFamily "function-edge")
      stages.literalArrows.1 :=
    (hall.unused_of_empty helements (by decide +kernel)).mono (Nat.zero_le _)
  have huses : ∀ use ∈ stages.initComparisons.1 ++ stages.goalComparisons.1,
      ∃ role, ComparisonFrame.Operand stages.afterLiteralArrows role use.box := by
    intro use huse
    rcases List.mem_append.mp huse with huse | huse
    · exact ⟨.init, (hinitUses use huse).step
        (((hstep₂.append hstep₃).append hlast).append hstep₇)⟩
    · exact ⟨.goal, (hgoalUses use huse).step (hstep₆.append hstep₇)⟩
  obtain ⟨hstep₈, -⟩ := Draw.connectAll_step (by decide) (by decide +kernel)
    stages.functionArrows_eq (by rw [hall.group_eq, String.append_assoc]; rfl) hall.sound
    (fun anchor hanchor => hstep₇.placed (hanchored anchor hanchor))
    (connectable_drawnFunctions huses) hunused
  exact hall.append hstep₈

/-- Drawing the block of a problem on an empty canvas. -/
theorem draw_step [Sub α] {cfg : Config α} {problem : Problem} {x y : α} {block : Block α}
    (hdraw : draw cfg problem x y d = .ok (block, d')) (helements : d.canvas.elements = [])
    (hconnected : d.canvas.connected = []) :
    Step tickets families
      [("problem-init", sanitize (d.canvas.group ++ "-init-description")),
        ("problem-goal", sanitize (d.canvas.group ++ "-goal-description"))] d d' ∧
      ∃ description, block.elements =
        d'.canvas.finish description (groupData problem d.canvas.group) := by
  obtain ⟨stages⟩ := nonempty_stages hdraw
  exact ⟨stages.step helements hconnected, _, stages.elements_eq⟩

end PlanDiagram.Diagram.ProblemBlock
