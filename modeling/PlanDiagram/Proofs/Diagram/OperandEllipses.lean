import PlanDiagram.Proofs.Diagram.ActionCells
import PlanDiagram.Proofs.Diagram.Exact
import PlanDiagram.Proofs.Diagram.FunctionEllipses

/-!
# One node for each operand

The numeric band of an action shows its operations. Main statement: in whatever is drawn for an
action, each numeric effect and each comparison among the preconditions has an operator of its own,
every operand of an operator is represented by a node with an arrow into it, the band has no other
ellipses, and in the order in which they are drawn its ellipses fill a grid row by row.
-/

namespace PlanDiagram.Diagram

variable {α : Type}

open NumericFrame (parameterFamily functionFamily nodeFamilies termKey)

/-- What operands find in the block of an action, with the given ellipses for function terms. -/
def surroundings (action : Action) (ellipse? : FunctionTerm → Option (Node α))
    (elements : List (Element α)) : Surroundings α where
  rectangle? := anchor? action.parameters (nodesIn [parameterFamily] elements)
  ellipse?
  elements

/-- A name has an anchor if something is declared with it. -/
theorem isSome_anchor?_iff {declared : List Parameter} {rectangles : List (Node α)}
    (h : declared.length = rectangles.length) (x : String) :
    (anchor? declared rectangles x).isSome = true ↔ ∃ p ∈ declared, p.name = x := by
  have hkeys : ((declared.map Parameter.name).zip rectangles).map Prod.fst =
      declared.map Parameter.name :=
    List.map_fst_zip (by simpa using Nat.le_of_eq h)
  calc (anchor? declared rectangles x).isSome = true
      ↔ x ∈ ((declared.map Parameter.name).zip rectangles).map Prod.fst := by
        rw [anchor?, List.lookup_isSome_iff, List.mem_map]
        exact exists_congr fun entry => and_congr_right fun _ => by rw [beq_iff_eq, eq_comm]
    _ ↔ ∃ p ∈ declared, p.name = x := by rw [hkeys, List.mem_map]

/-- The numeric band of a block shows the operations of an action: `trees` represent the operations,
and `ellipse?` finds the ellipses of function terms. -/
structure ShowsOperations (cfg : Config α) (x : α) (action : Action) (elements : List (Element α))
    (ellipse? : FunctionTerm → Option (Node α)) (trees : List (OperandTree α))
    [Add α] [Mul α] [Scalar α] : Prop where
  /-- There is one rectangle for each parameter, in order. -/
  rectangles : List.Forall₂ (fun p n => n.text = p.label ∧ n.box.shape = .rectangle)
    action.parameters (nodesIn [parameterFamily] elements)
  /-- A name has a rectangle if it is that of a parameter. -/
  declared_iff : ∀ name, ((surroundings action ellipse? elements).rectangle? name).isSome = true ↔
    ∃ p ∈ action.parameters, p.name = name
  /-- Function terms with the same key have the same ellipse, and others have different ones. -/
  shared_iff : ∀ t e, ellipse? t = some e → e ∈ nodesIn [functionFamily] elements ∧
    ∀ u, ellipse? t = ellipse? u ↔ termKey t = termKey u
  /-- Each operation is represented by a tree, in order. -/
  operations : List.Forall₂ (ShowsOperation (surroundings action ellipse? elements))
    action.operations trees
  /-- No two nodes have the same identifier, so each ellipse is drawn for one operand. -/
  ids_nodup : (nodeIds elements).Nodup
  /-- The ellipses of the band are those that are drawn for the trees, in order. -/
  band_eq : nodesIn nodeFamilies elements = OperandTree.drawnForEach trees
  /-- There are no other ellipses but those of literals. -/
  ellipses : ∀ n ∈ nodesOf elements, n.box.shape = .ellipse →
    n ∈ OperandTree.drawnForEach trees ∨ ∃ role, n ∈ nodesIn [roleFamily role] elements
  /-- The ellipses of literals show one literal each, in order. -/
  literals : ∀ role, ShowsLiterals (action.found role) role elements
  /-- The ellipses of the band fill the cells of a grid, row by row. -/
  cells : ∃ top, (ellipseGrid cfg x top cfg.actionColumns).Filled 0 (OperandTree.drawnForEach trees)

namespace ActionBlock

variable [Add α] [Sub α] [Mul α] [LT α] [DecidableLT α] [Scalar α] {cfg : Config α}
  {action : Action} {x y : α} {d d' : Drawing α} {block : Block α}

/-- The arrows add no nodes. -/
theorem Stages.later_draws (stages : Stages cfg action x y d d' block) :
    ∃ asked, Draws [] [] asked stages.afterNumeric d' :=
  ⟨_, Draw.connectAll_draws stages.connected_eq⟩

/-- In the end, the block knows what has been drawn in the numeric band. -/
theorem Stages.know (stages : Stages cfg action x y d d' block)
    (helements : d.canvas.elements = []) (hconnected : d.canvas.connected = []) :
    (surroundings action (Contents.ellipse? stages.numeric.1.functions block.elements)
      block.elements).Know
        ⟨cfg, x, numericTop cfg (!(action.found .effect).distinctLiterals.isEmpty) stages.effects.2,
          stages.parameters.1⟩ stages.numeric.1 stages.afterNumeric := by
  have hsound := (stages.step helements hconnected).sound.canvas
  have hcontents := stages.contents helements hconnected
  obtain ⟨asked, hlater⟩ := stages.later_draws
  obtain ⟨-, -, atOperators, hbands, -⟩ := stages.bands_drawn hlater helements hconnected
  refine ⟨hcontents.wired.ids_nodup, fun name => ?_, fun known hknown t hkey => ?_,
    fun n hn => ?_, fun p hp => ?_⟩
  · rw [hbands.anchors_eq, lookup_zip_map_box, stages.elements_eq]
    rfl
  · obtain ⟨e, he⟩ := hcontents.exists_ellipse hknown
    exact ⟨e, mem_nodesOf_of_mem_nodesIn (List.of_mem_zip he).2,
      hcontents.ellipse?_eq_some_iff.mpr ⟨known, he, hkey.symm⟩, (hcontents.shows_function he).1⟩
  · rw [surroundings, stages.nodesOf_eq, hlater.nodes_eq, List.append_nil]
    exact hn
  · rw [surroundings, stages.elements_eq]
    exact (hsound.connected_iff p).mp (hlater.mem_connected hp)

/-- An ellipse of a block is one of the numeric band or of a literal. -/
theorem Stages.ellipse_cases (stages : Stages cfg action x y d d' block)
    (helements : d.canvas.elements = []) {nodes : List (Node α)}
    {asked : String × String → Prop}
    (hnumeric : Draws nodeFamilies nodes asked stages.afterEffects stages.afterNumeric) {n : Node α}
    (hn : n ∈ nodesOf block.elements) (hshape : n.box.shape = .ellipse) :
    n ∈ nodes ∨ ∃ role, n ∈ nodesIn [roleFamily role] block.elements := by
  obtain ⟨head, conditions, parameters, effects, hhead, hconditions, hparameters, heffects⟩ :=
    stages.exists_front
  obtain ⟨title, description, heads, hadds⟩ := drawHead_adds stages.head_eq
  obtain rfl := hadds.eq_of_draws hhead
  obtain ⟨asked', hlater⟩ := stages.later_draws
  have hend := hnumeric.append hlater
  have hkeep {role : Role} (hmem : n ∈ nodesIn [roleFamily role] d'.canvas.elements) :
      ∃ role, n ∈ nodesIn [roleFamily role] block.elements :=
    ⟨role, by rw [stages.elements_eq]; exact hmem⟩
  rw [stages.nodesOf_eq, hend.nodes_eq, heffects.draws.nodes_eq, hparameters.draws.nodes_eq,
    hconditions.draws.nodes_eq, hhead.nodes_eq, helements] at hn
  simp only [List.mem_append, List.mem_cons] at hn
  rcases hn with ((((hn | (rfl | rfl | hn)) | hn) | hn) | hn) | (hn | hn)
  · cases hn
  · rw [heads.title_shape] at hshape
    cases hshape
  · rw [heads.description_shape] at hshape
    cases hshape
  · cases hn
  · have hmem : n ∈ nodesIn [roleFamily .precondition] stages.afterConditions.canvas.elements := by
      rw [hconditions.draws.nodesIn_append (List.Subset.refl _)]
      exact List.mem_append_right _ hn
    exact .inr (hkeep
      (((hparameters.draws.append heffects.draws).append hend).mem_nodesIn hmem))
  · obtain ⟨p, -, -, hrectangle⟩ := exists_of_mem_right hparameters.shows hn
    rw [hrectangle] at hshape
    cases hshape
  · have hmem : n ∈ nodesIn [roleFamily .effect] stages.afterEffects.canvas.elements := by
      rw [heffects.draws.nodesIn_append (List.Subset.refl _)]
      exact List.mem_append_right _ hn
    exact .inr (hkeep (hend.mem_nodesIn hmem))
  · exact .inl hn
  · cases hn

/-- The numeric band of a block on an empty canvas shows the operations. -/
theorem Stages.showsOperations (stages : Stages cfg action x y d d' block)
    (helements : d.canvas.elements = []) (hconnected : d.canvas.connected = []) :
    ∃ trees, ShowsOperations cfg x action block.elements
      (Contents.ellipse? stages.numeric.1.functions block.elements) trees := by
  have hcontents := stages.contents helements hconnected
  have hempty := stages.nodesIn_numeric_eq_nil helements
  obtain ⟨asked, hlater⟩ := stages.later_draws
  obtain ⟨hgrows, -⟩ := stages.bands_drawn hlater helements hconnected
  obtain ⟨numeric, arrows, hdraws, -⟩ := hgrows.draws
  obtain ⟨nodes, hfills, htrees⟩ := drawNumericBand_plants stages.numeric_eq
    (nodesIn_eq_nil (by simp [nodeFamilies]) hempty)
  obtain rfl := hfills.adds.eq_of_draws hdraws
  obtain ⟨trees, rfl, hshows⟩ := htrees _ (stages.know helements hconnected)
  refine ⟨trees, hcontents.wired.rectangles,
    isSome_anchor?_iff hcontents.wired.rectangles.length_eq, fun t e ht => ⟨?_, fun u => ?_⟩,
    hshows, hcontents.wired.ids_nodup, ?_,
    fun n hn hshape => stages.ellipse_cases helements hdraws hn hshape, hcontents.literals,
    _, hfills.filled⟩
  · obtain ⟨known, hmem, -⟩ := hcontents.ellipse?_eq_some_iff.mp ht
    exact (List.of_mem_zip hmem).2
  · exact hcontents.ellipse?_eq_iff ht
  · rw [nodesIn, stages.nodesOf_eq, ← nodesIn, hlater.nodesIn_eq (by simp),
      hdraws.nodesIn_append (List.Subset.refl _), hempty, List.nil_append]

end ActionBlock

variable [Add α] [Sub α] [Mul α] [LT α] [DecidableLT α] [Scalar α] {cfg : Config α}
  {session : Session} {x y : α}

/-- Whatever is drawn for an action shows its operations: each by an operator of its own, and their
operands by nodes with arrows into the operators. -/
theorem actionBlock_showsOperations {action : Action} {block : Block α}
    (h : (actionBlock cfg session action x y).2 = .ok block) :
    ∃ ellipse? trees, ShowsOperations cfg x action block.elements ellipse? trees := by
  obtain ⟨d', hdraw⟩ := Draw.exists_of_run h
  obtain ⟨stages⟩ := ActionBlock.nonempty_stages hdraw
  exact ⟨_, stages.showsOperations rfl rfl⟩

/-- An action that fills a tank at a rate that depends on its level, below a limit. -/
def fillAction : Action where
  name := "fill"
  parameters := [{ name := "tank" }]
  preconditions := [.negation (.comparison ">=" [.function "level" [.parameter "tank" .null],
    .arithmetic "-" [.parameter "limit" .null, .number 1.0]])]
  effects := [.numeric .increase [.function "level" [.parameter "tank" .null],
    .arithmetic "*" [.function "rate" [.parameter "tank" .null],
      .function "level" [.parameter "tank" .null], .parameter "tank" .null]]]

/-- The action is drawn, and its effect and its comparison are shown by one tree each. -/
theorem actionBlock_showsOperations_fillAction :
    ∃ block, (actionBlock Config.rational {} fillAction 0 0).2 = .ok block ∧
      ∃ ellipse? trees,
        ShowsOperations Config.rational 0 fillAction block.elements ellipse? trees ∧
          trees.length = 2 := by
  have hspacing : Config.rational.spacingY ≠ 0 := by decide
  obtain ⟨block, h⟩ := exists_actionBlock hspacing (by decide) {} fillAction 0 0
  obtain ⟨ellipse?, trees, hshows⟩ := actionBlock_showsOperations h
  exact ⟨block, h, ellipse?, trees, hshows, hshows.operations.length_eq.symm⟩

end PlanDiagram.Diagram
