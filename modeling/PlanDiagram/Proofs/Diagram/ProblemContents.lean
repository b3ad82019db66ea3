import PlanDiagram.Proofs.Diagram.ComparisonTerms
import PlanDiagram.Proofs.Diagram.Integrity
import PlanDiagram.Proofs.Diagram.LiteralEllipses

/-!
# What stands in the block of a problem

As for an action, the nodes of the block are read off family by family: an ellipse for each label
among the literals of a role, a rectangle for each object, and an ellipse for each name among the
function terms of a role. All arrows that are not at operators connect literals and functions with
objects.
-/

namespace PlanDiagram

/-- The function terms that are drawn for a role of a problem. -/
def Problem.functionTerms (problem : Problem) (role : Role) : List FunctionTerm :=
  (problem.found role).comparisons.flatMap ComparisonUse.operandTerms

namespace Diagram

variable {α : Type}

open ComparisonFrame (functionFamilies operandFamilies operatorFamily AtOperators)

/-- The function terms of a role are shown: there is one ellipse for each name. -/
structure ShowsFunctions (role : Role) (elements : List (Element α)) : Prop where
  texts_nodup : ((nodesIn (functionFamilies role) elements).map Node.text).Nodup
  shapes : ∀ n ∈ nodesIn (functionFamilies role) elements, n.box.shape = .ellipse

/-- Where there are no ellipses, those there are differ. -/
theorem ShowsFunctions.of_empty {role : Role} {elements : List (Element α)}
    (h : nodesIn (functionFamilies role) elements = []) : ShowsFunctions role elements := by
  constructor <;> simp [h]

namespace ComparisonFrame

variable {grid : OperandGrid α} {role : Role} {d : Drawing α}

/-- The ellipses of a grid have different names. -/
theorem Recorded.showsFunctions (h : Recorded grid role d) :
    ShowsFunctions role d.canvas.elements := by
  have htexts : grid.functions.map Prod.fst =
      (nodesIn (functionFamilies role) d.canvas.elements).map Node.text :=
    map_eq_map_of_forall₂ h.nodes fun _ _ hn => hn.2.2.symm
  refine ⟨htexts ▸ h.names_nodup, fun n hn => ?_⟩
  obtain ⟨entry, -, -, hshape, -⟩ := exists_of_mem_right h.nodes hn
  exact hshape

/-- Every use of a function is drawn on the ellipse with its name. -/
theorem Recorded.exists_node (h : Recorded grid role d) {use : FunctionUse α}
    (huse : use ∈ grid.uses) :
    ∃ n ∈ nodesIn (functionFamilies role) d.canvas.elements,
      n.text = use.name ∧ n.box = use.box := by
  obtain ⟨front, back, hfunctions, -⟩ := List.lookup_eq_some_iff.mp (h.uses use huse)
  obtain ⟨n, hn, hbox, -, htext⟩ := exists_of_mem_right h.nodes.flip
    (c := (use.name, use.box)) (by simp [hfunctions])
  exact ⟨n, hn, htext, hbox⟩

/-- Every function term is drawn on the ellipse with its name. -/
theorem Recorded.mem_drawnFunctions_iff (h : Recorded grid role d)
    {node : Box α × String × List Formula} :
    node ∈ ProblemBlock.drawnFunctions grid.uses ↔
      ∃ t ∈ grid.uses.map FunctionUse.term,
        ∃ n ∈ nodesIn (functionFamilies role) d.canvas.elements,
          n.text = t.name ∧ node = (n.box, t.name, t.arguments) := by
  constructor
  · intro hmem
    obtain ⟨use, huse, rfl⟩ := List.mem_map.mp hmem
    obtain ⟨n, hn, htext, hbox⟩ := h.exists_node huse
    exact ⟨use.term, List.mem_map_of_mem huse, n, hn, htext, by rw [hbox]; rfl⟩
  · rintro ⟨t, ht, n, hn, htext, rfl⟩
    obtain ⟨use, huse, rfl⟩ := List.mem_map.mp ht
    obtain ⟨m, hm, htext', hbox⟩ := h.exists_node huse
    obtain rfl : n = m := List.inj_on_of_nodup_map h.showsFunctions.texts_nodup hn hm
      (htext.trans htext'.symm)
    exact List.mem_map.mpr ⟨use, huse, by rw [← hbox]; rfl⟩

end ComparisonFrame

namespace ProblemBlock

variable [Add α] [Mul α] [LT α] [DecidableLT α] [Scalar α] {f : ProblemFrame α} {d d' : Drawing α}

/-- Drawing literals of a role. -/
theorem drawLiterals_draws {role : Role} {top : α} {uses : List LiteralUse} {index : Nat}
    {boxes : List (String × Box α)}
    (hdraw : drawLiterals f role top index uses d = .ok (boxes, d')) :
    ∃ ns, DrawsRow (roleFamily role) LiteralUse.label LiteralUse.label .ellipse uses boxes d d'
      ns := by
  refine Draw.row_draws hdraw (fun _ => rfl) (fun _ _ _ => rfl) (fun _ _ => trivial) ?_
  intro index use d d' box hcell _
  obtain ⟨-, hellipse⟩ := Draw.inCell_ok_iff.mp hcell
  exact Draw.ellipse_draws hellipse (Names.literal d.canvas.group role index use.name)

/-- Drawing objects. -/
theorem drawObjects_draws {top : α} {objects : List Parameter} {index : Nat}
    {boxes : List (String × Box α)}
    (hdraw : drawObjects f top index objects d = .ok (boxes, d')) :
    ∃ ns, DrawsRow objectFamily Parameter.name Parameter.label .rectangle objects boxes d d'
      ns := by
  refine Draw.row_draws hdraw (fun _ => rfl) (fun _ _ _ => rfl) (fun _ _ => trivial) ?_
  intro index p d d' box hcell _
  obtain ⟨-, hrectangle⟩ := Draw.inCell_ok_iff.mp hcell
  exact Draw.rectangle_draws hrectangle
    (Names.leading d.canvas.group (by decide) (by decide) index p.name)

/-- Drawing a band of literals. -/
theorem drawLiteralBand_draws {role : Role} {literals : List LiteralUse} {cursor : BandCursor α}
    {result : List (String × Box α) × BandCursor α}
    (hdraw : drawLiteralBand f role literals cursor d = .ok (result, d')) :
    ∃ ns, DrawsRow (roleFamily role) LiteralUse.label LiteralUse.label .ellipse literals result.1
      d d' ns := by
  unfold drawLiteralBand at hdraw
  exact Draw.band_draws hdraw fun boxes hboxes => drawLiterals_draws hboxes

/-- Drawing the objects. -/
theorem drawObjectBand_draws {objects : List Parameter} {cursor : BandCursor α}
    {result : List (String × Box α) × BandCursor α}
    (hdraw : drawObjectBand f objects cursor d = .ok (result, d')) :
    ∃ ns, DrawsRow objectFamily Parameter.name Parameter.label .rectangle objects result.1 d d'
      ns := by
  unfold drawObjectBand at hdraw
  exact Draw.band_draws hdraw fun boxes hboxes => drawObjects_draws hboxes

/-- The families of the nodes of a band of comparisons. -/
def comparisonFamilies (role : Role) : List Family :=
  operandFamilies role ++ [operatorFamily role]

/-- Operators are told apart from functions. -/
theorem operator_apart_function (role : Role) :
    ∀ g ∈ [operatorFamily role], ∀ f ∈ functionFamilies role, g.Apart f := by
  cases role <;> decide +kernel

omit [Add α] [Mul α] [LT α] [DecidableLT α] [Scalar α] in
/-- A band of comparisons has been drawn: nodes and arrows at operators, with the functions that a
grid has recorded. -/
structure DrawsComparisons (role : Role) (comparisons : List ComparisonUse)
    (uses : List (FunctionUse α)) (d d' : Drawing α) (nodes : List (Node α))
    (asked : String × String → Prop) (grid : OperandGrid α) : Prop where
  draws : Draws (comparisonFamilies role) nodes asked d d'
  atOperators : AtOperators role asked d'
  recorded : ComparisonFrame.Recorded grid role d'
  uses_eq : uses = grid.uses
  terms_eq : grid.uses.map FunctionUse.term = comparisons.flatMap ComparisonUse.operandTerms

/-- Drawing a band of comparisons. -/
theorem drawComparisonBand_draws {role : Role} {comparisons : List ComparisonUse}
    {cursor : BandCursor α} {result : List (FunctionUse α) × BandCursor α}
    (hdraw : drawComparisonBand f role comparisons cursor d = .ok (result, d'))
    (hempty : nodesIn (functionFamilies role) d.canvas.elements = []) :
    ∃ nodes asked grid, DrawsComparisons role comparisons result.1 d d' nodes asked grid := by
  have hgrid : ComparisonFrame.Recorded ({} : OperandGrid α) role d := .of_empty hempty
  obtain ⟨rfl, rfl, rfl⟩ | ⟨⟨stages⟩⟩ := comparisonStages_or hdraw
  · exact ⟨[], noArrow, {}, .refl d', by simp [AtOperators, noArrow], hgrid, rfl, rfl⟩
  · obtain ⟨⟨nodes, hdraws⟩, hgrid', huses⟩ :=
      ComparisonFrame.drawOperands_draws stages.operands_eq hgrid
    obtain ⟨nodes', asked, hdraws', hasked⟩ :=
      ComparisonFrame.drawOperators_draws stages.operators_eq
        (by simp [ComparisonFrame.OperatorsDrawn])
    have hextended : Draws [operatorFamily role] [] noArrow stages.afterOperators d' :=
      Draw.extend_draws stages.extend_eq
    have hlast := hdraws'.trans hextended
    refine ⟨_, _, stages.operands, hdraws.append hlast, ?_, ?_, stages.uses_eq, huses⟩
    · rintro p (hp | hp | hp)
      · exact hp.elim
      · obtain ⟨o, ho, hid⟩ := hasked p hp
        exact ⟨o, hextended.mem_nodesIn ho, hid⟩
      · exact hp.elim
    · exact hgrid'.of_eq rfl rfl (hlast.nodesIn_eq (operator_apart_function role))

omit [Mul α] in
/-- Drawing the descriptions. -/
theorem drawSidebar_draws {problem : Problem} {x y objectBottom : α} {u : Unit}
    (hdraw : drawSidebar f problem x y objectBottom d = .ok (u, d')) :
    ∃ nodes, Draws [initDescriptionFamily, goalDescriptionFamily] nodes noArrow d d' := by
  obtain ⟨box, box', d₁, hfirst, hsecond⟩ := drawSidebar_ok hdraw
  obtain ⟨n, -, hn⟩ := Draw.description_draws (f := initDescriptionFamily) hfirst
    (Names.single d.canvas.group (by decide) (by decide))
  obtain ⟨m, -, hm⟩ := Draw.description_draws (f := goalDescriptionFamily) hsecond (by
    rw [hn.draws.group_eq]
    exact Names.single d.canvas.group (by decide) (by decide))
  exact ⟨_, (hn.draws.append hm.draws).congr (by simp [arrowsOf, noArrow])⟩

/-- All families of nodes, with those of the roles that only actions have. -/
def nodeFamilies : List Family :=
  [Role.init, .goal, .precondition, .effect].flatMap
      (fun role => roleFamily role :: comparisonFamilies role) ++
    [objectFamily, initDescriptionFamily, goalDescriptionFamily]

/-- Different families of nodes are apart. -/
theorem nodeFamilies_distinct : Family.Distinct nodeFamilies := by
  decide +kernel

/-- The families of operators. -/
def allOperators : List Family :=
  [operatorFamily .init, operatorFamily .goal]

/-- The families of functions of all roles. -/
def allFunctionFamilies : List Family :=
  allRoles.flatMap functionFamilies

/-- The literals and functions of a block, with their arguments. -/
def drawn (problem : Problem) (functions : List (Box α × String × List Formula))
    (elements : List (Element α)) : List (Box α × String × List Formula) :=
  drawnOn problem.found functions elements

/-- What stands in the block of a problem, in which functions are drawn on the given boxes. -/
structure Contents (problem : Problem) (functions : List (Box α × String × List Formula))
    (elements : List (Element α)) : Prop where
  literals : ∀ role, ShowsLiterals (problem.found role) role elements
  showsFunctions : ∀ role, ShowsFunctions role elements
  mem_functions_iff : ∀ node, node ∈ functions ↔ ∃ role, ∃ t ∈ problem.functionTerms role,
    ∃ n ∈ nodesIn (functionFamilies role) elements,
      n.text = t.name ∧ node = (n.box, t.name, t.arguments)
  wired : Wired [objectFamily] allOperators (userFamilies allFunctionFamilies) problem.objects
    (drawn problem functions elements) elements

omit [Add α] [Mul α] [LT α] [DecidableLT α] [Scalar α] in
/-- A group in front of the elements does not matter. -/
theorem Contents.cons_group {problem : Problem} {functions : List (Box α × String × List Formula)}
    {elements : List (Element α)} (h : Contents problem functions elements) (g : Group) :
    Contents problem functions (.group g :: elements) :=
  ⟨h.literals, fun role => ⟨(h.showsFunctions role).texts_nodup, (h.showsFunctions role).shapes⟩,
    h.mem_functions_iff, h.wired.cons_group g⟩

omit [Add α] [Mul α] [LT α] [DecidableLT α] [Scalar α] in
/-- Every function term of a role is drawn on the ellipse of the role with its name. -/
theorem mem_drawnFunctions_iff {problem : Problem} {initGrid goalGrid : OperandGrid α}
    (hinit : ComparisonFrame.Recorded initGrid .init d)
    (hgoal : ComparisonFrame.Recorded goalGrid .goal d)
    (hinitTerms : initGrid.uses.map FunctionUse.term = problem.functionTerms .init)
    (hgoalTerms : goalGrid.uses.map FunctionUse.term = problem.functionTerms .goal)
    (node : Box α × String × List Formula) :
    node ∈ drawnFunctions (initGrid.uses ++ goalGrid.uses) ↔
      ∃ role, ∃ t ∈ problem.functionTerms role,
        ∃ n ∈ nodesIn (functionFamilies role) d.canvas.elements,
          n.text = t.name ∧ node = (n.box, t.name, t.arguments) := by
  rw [drawnFunctions, List.map_append, List.mem_append]
  refine (or_congr hinit.mem_drawnFunctions_iff hgoal.mem_drawnFunctions_iff).trans ?_
  rw [hinitTerms, hgoalTerms]
  constructor
  · rintro (h | h)
    · exact ⟨.init, h⟩
    · exact ⟨.goal, h⟩
  · rintro ⟨role, t, ht, h⟩
    cases role with
    | init => exact .inl ⟨t, ht, h⟩
    | goal => exact .inr ⟨t, ht, h⟩
    | precondition => cases ht
    | effect => cases ht

omit [Add α] [Mul α] [LT α] [DecidableLT α] [Scalar α] in
/-- The ellipses of a role's functions are ellipses of functions. -/
theorem mem_nodesIn_functions {role : Role} {elements : List (Element α)} {n : Node α}
    (hn : n ∈ nodesIn (functionFamilies role) elements) :
    n ∈ nodesIn allFunctionFamilies elements :=
  nodesIn_mono (fun _ hf => List.mem_flatMap.mpr ⟨role, mem_allRoles role, hf⟩) hn

/-- What the bands of a block have drawn, with what they hand on: the boxes of literals and objects
and the uses of functions. Arrows at operators have been drawn as far as `atOperators` tells. -/
structure BandsDrawn (problem : Problem) (initUses goalUses : List (FunctionUse α))
    (initBoxes anchors goalBoxes : List (String × Box α)) (atOperators : String × String → Prop)
    (elements : List (Element α)) : Prop where
  literals : ∀ role, ShowsLiterals (problem.found role) role elements
  showsFunctions : ∀ role, ShowsFunctions role elements
  mem_functions_iff : ∀ node, node ∈ drawnFunctions (initUses ++ goalUses) ↔
    ∃ role, ∃ t ∈ problem.functionTerms role, ∃ n ∈ nodesIn (functionFamilies role) elements,
      n.text = t.name ∧ node = (n.box, t.name, t.arguments)
  drawn_eq : drawn problem (drawnFunctions (initUses ++ goalUses)) elements =
    ActionBlock.drawnLiterals initBoxes (problem.found .init).literals ++
      (ActionBlock.drawnLiterals goalBoxes (problem.found .goal).literals ++ []) ++
        drawnFunctions (initUses ++ goalUses)
  anchors_eq : anchors = (problem.objects.map Parameter.name).zip
    ((nodesIn [objectFamily] elements).map Node.box)
  rectangles : List.Forall₂ (fun p n => n.text = p.label ∧ n.box.shape = .rectangle)
    problem.objects (nodesIn [objectFamily] elements)
  operators : ∀ p, atOperators p →
    ∃ o ∈ nodesIn allOperators elements, p.1 = o.box.id ∨ p.2 = o.box.id

section

variable [Sub α] {cfg : Config α} {problem : Problem} {x y : α} {block : Block α}

/-- The nodes of a block are those of its canvas. -/
theorem Stages.nodesOf_eq (stages : Stages cfg problem x y d d' block) :
    nodesOf block.elements = nodesOf d'.canvas.elements := by
  rw [stages.elements_eq]
  rfl

/-- What the stages of a block have drawn, band by band. -/
structure Bands (stages : Stages cfg problem x y d d' block)
    (initNodes initRow objectRow goalRow goalNodes sidebar : List (Node α))
    (initArrows goalArrows : String × String → Prop) (initGrid goalGrid : OperandGrid α) :
    Prop where
  initComparisons : DrawsComparisons .init (problem.found .init).comparisons
    stages.initComparisons.1 d stages.afterInitComparisons initNodes initArrows initGrid
  initLiterals : DrawsRow (roleFamily .init) LiteralUse.label LiteralUse.label .ellipse
    (problem.found .init).distinctLiterals stages.initLiterals.1 stages.afterInitComparisons
    stages.afterInitLiterals initRow
  objects : DrawsRow objectFamily Parameter.name Parameter.label .rectangle problem.objects
    stages.objects.1 stages.afterInitLiterals stages.afterObjects objectRow
  goalLiterals : DrawsRow (roleFamily .goal) LiteralUse.label LiteralUse.label .ellipse
    (problem.found .goal).distinctLiterals stages.goalLiterals.1 stages.afterObjects
    stages.afterGoalLiterals goalRow
  goalComparisons : DrawsComparisons .goal (problem.found .goal).comparisons
    stages.goalComparisons.1 stages.afterGoalLiterals stages.afterGoalComparisons goalNodes
    goalArrows goalGrid
  sidebar : Draws [initDescriptionFamily, goalDescriptionFamily] sidebar noArrow
    stages.afterGoalComparisons stages.afterSidebar

/-- The bands of a block on an empty canvas have been drawn. -/
theorem Stages.exists_bands (stages : Stages cfg problem x y d d' block)
    (helements : d.canvas.elements = []) :
    ∃ initNodes initRow objectRow goalRow goalNodes sidebar initArrows goalArrows initGrid goalGrid,
      Bands stages initNodes initRow objectRow goalRow goalNodes sidebar initArrows goalArrows
        initGrid goalGrid := by
  have hempty (fs : List Family) : nodesIn fs d.canvas.elements = [] := by
    rw [helements]
    rfl
  obtain ⟨initNodes, initArrows, initGrid, hinitBand⟩ :=
    drawComparisonBand_draws stages.initComparisons_eq (hempty _)
  obtain ⟨initRow, hinit⟩ := drawLiteralBand_draws stages.initLiterals_eq
  obtain ⟨objectRow, hobjects⟩ := drawObjectBand_draws stages.objects_eq
  obtain ⟨goalRow, hgoal⟩ := drawLiteralBand_draws stages.goalLiterals_eq
  have hfront := ((hinitBand.draws.append hinit.draws).append hobjects.draws).append hgoal.draws
  obtain ⟨goalNodes, goalArrows, goalGrid, hgoalBand⟩ :=
    drawComparisonBand_draws stages.goalComparisons_eq (by
      rw [hfront.nodesIn_eq (nodeFamilies_distinct.apart (by decide +kernel) (by decide +kernel))]
      exact hempty _)
  obtain ⟨sidebar, hsidebar⟩ := drawSidebar_draws stages.sidebar_eq
  exact ⟨initNodes, initRow, objectRow, goalRow, goalNodes, sidebar, initArrows, goalArrows,
    initGrid, goalGrid, hinitBand, hinit, hobjects, hgoal, hgoalBand, hsidebar⟩

/-- The stages of a block on an empty canvas have drawn the bands, and only arrows afterwards. -/
theorem Stages.bands_drawn (stages : Stages cfg problem x y d d' block)
    {asked : String × String → Prop} (hlater : Draws [] [] asked stages.afterSidebar d')
    (helements : d.canvas.elements = []) (hconnected : d.canvas.connected = []) :
    ∃ atOperators, BandsDrawn problem stages.initComparisons.1 stages.goalComparisons.1
        stages.initLiterals.1 stages.objects.1 stages.goalLiterals.1 atOperators
        d'.canvas.elements ∧
      ∀ p, p ∈ d'.canvas.connected ↔ atOperators p ∨ asked p := by
  obtain ⟨initNodes, initRow, objectRow, goalRow, goalNodes, sidebar, initArrows, goalArrows,
    initGrid, goalGrid, hinitBand, hinit, hobjects, hgoal, hgoalBand, hsidebar⟩ :=
    stages.exists_bands helements
  have hinitDraws := hinitBand.draws
  have hgoalDraws := hgoalBand.draws
  have hfront := ((hinitDraws.append hinit.draws).append hobjects.draws).append hgoal.draws
  have hlast := hsidebar.append hlater
  have hall := (hfront.append hgoalDraws).append hlast
  -- the nodes of each family are those that its band has drawn
  have hafterInit := ((hobjects.draws.append hgoal.draws).append hgoalDraws).append hlast
  have hinitNodes := Draws.nodesIn_of_empty helements hinitDraws hinit.draws hafterInit
    (nodeFamilies_distinct.apart (by decide +kernel) (by decide +kernel))
  have hobjectNodes := Draws.nodesIn_of_empty helements (hinitDraws.append hinit.draws)
    hobjects.draws ((hgoal.draws.append hgoalDraws).append hlast)
    (nodeFamilies_distinct.apart (by decide +kernel) (by decide +kernel))
  have hgoalNodes := Draws.nodesIn_of_empty helements
    ((hinitDraws.append hinit.draws).append hobjects.draws) hgoal.draws
    (hgoalDraws.append hlast) (nodeFamilies_distinct.apart (by decide +kernel) (by decide +kernel))
  have hinitGrid : ComparisonFrame.Recorded initGrid .init d' := hinitBand.recorded.of_eq rfl rfl
    ((hinit.draws.append hafterInit).nodesIn_eq
      (nodeFamilies_distinct.apart (by decide +kernel) (by decide +kernel)))
  have hgoalGrid : ComparisonFrame.Recorded goalGrid .goal d' := hgoalBand.recorded.of_eq rfl rfl
    (hlast.nodesIn_eq (nodeFamilies_distinct.apart (by decide +kernel) (by decide +kernel)))
  have hnone (role : Role) (hrole : role = .precondition ∨ role = .effect) :
      nodesIn (roleFamily role :: functionFamilies role) d'.canvas.elements = [] := by
    refine (hall.nodesIn_eq ?_).trans (by rw [helements]; rfl)
    rcases hrole with rfl | rfl <;>
      exact nodeFamilies_distinct.apart (by decide +kernel) (by decide +kernel)
  refine ⟨fun p => initArrows p ∨ goalArrows p,
    ⟨fun role => ?_, fun role => ?_, ?_, ?_, ?_, hobjectNodes ▸ hobjects.shows, ?_⟩, fun p => ?_⟩
  · -- the literals of each role
    cases role with
    | init =>
      rw [ShowsLiterals, hinitNodes]
      exact hinit.shows
    | goal =>
      rw [ShowsLiterals, hgoalNodes]
      exact hgoal.shows
    | precondition => exact .of_empty (nodesIn_eq_nil (by simp) (hnone _ (.inl rfl)))
    | effect => exact .of_empty (nodesIn_eq_nil (by simp) (hnone _ (.inr rfl)))
  · -- the functions of each role
    cases role with
    | init => exact hinitGrid.showsFunctions
    | goal => exact hgoalGrid.showsFunctions
    | precondition => exact .of_empty (nodesIn_eq_nil (by simp) (hnone _ (.inl rfl)))
    | effect => exact .of_empty (nodesIn_eq_nil (by simp) (hnone _ (.inr rfl)))
  · rw [hinitBand.uses_eq, hgoalBand.uses_eq]
    exact mem_drawnFunctions_iff hinitGrid hgoalGrid hinitBand.terms_eq hgoalBand.terms_eq
  · rw [hinit.boxes_eq, hgoal.boxes_eq, ← hinitNodes, ← hgoalNodes]
    rfl
  · rw [hobjectNodes]
    exact hobjects.boxes_eq
  · rintro p (hp | hp)
    · obtain ⟨o, ho, hid⟩ := hinitBand.atOperators p hp
      have ho := (hinit.draws.append hafterInit).mem_nodesIn ho
      exact ⟨o, nodesIn_mono (by simp [allOperators]) ho, hid⟩
    · obtain ⟨o, ho, hid⟩ := hgoalBand.atOperators p hp
      exact ⟨o, nodesIn_mono (by simp [allOperators]) (hlast.mem_nodesIn ho), hid⟩
  · rw [hall.connected_iff, hconnected]
    simp [arrowsOf, noArrow, or_assoc]

/-- What the stages of a block have drawn on an empty canvas. -/
theorem Stages.contents (stages : Stages cfg problem x y d d' block)
    (helements : d.canvas.elements = []) (hconnected : d.canvas.connected = []) :
    Contents problem (drawnFunctions (stages.initComparisons.1 ++ stages.goalComparisons.1))
      block.elements := by
  have hsound := (stages.step helements hconnected).sound.canvas
  have hliteralArrows : Draws [] [] _ stages.afterSidebar stages.afterLiteralArrows :=
    Draw.connectAll_draws stages.literalArrows_eq
  have hfunctionArrows : Draws [] [] _ stages.afterLiteralArrows d' :=
    Draw.connectAll_draws stages.functionArrows_eq
  obtain ⟨atOperators, hbands, hiff⟩ :=
    stages.bands_drawn (hliteralArrows.trans hfunctionArrows) helements hconnected
  have hconnections (p : String × String) : p ∈ connections d'.canvas.elements ↔
      atOperators p ∨ argumentArrows ((problem.objects.map Parameter.name).zip
        ((nodesIn [objectFamily] d'.canvas.elements).map Node.box))
          (drawn problem (drawnFunctions (stages.initComparisons.1 ++ stages.goalComparisons.1))
            d'.canvas.elements) p := by
    rw [← hsound.connected_iff, hiff, hbands.drawn_eq, ← hbands.anchors_eq, argumentArrows_append,
      List.append_nil]
    rfl
  have hon : ∀ node ∈ drawnFunctions (stages.initComparisons.1 ++ stages.goalComparisons.1),
      ∃ n ∈ nodesIn allFunctionFamilies d'.canvas.elements, n.box = node.1 := by
    intro node hnode
    obtain ⟨role, t, -, n, hn, -, rfl⟩ := (hbands.mem_functions_iff node).mp hnode
    exact ⟨n, mem_nodesIn_functions hn, rfl⟩
  rw [stages.elements_eq]
  exact Contents.cons_group ⟨hbands.literals, hbands.showsFunctions, hbands.mem_functions_iff,
    .of_connections_iff (hsound.ids_nodup.sublist (nodeIds_sublist _)) hsound.connections_nodup
      hbands.rectangles (exists_of_mem_drawnOn hbands.literals hon) hbands.operators
      hconnections⟩ _

/-- What is drawn on an empty canvas for a problem. -/
theorem draw_contents (hdraw : draw cfg problem x y d = .ok (block, d'))
    (helements : d.canvas.elements = []) (hconnected : d.canvas.connected = []) :
    ∃ functions, Contents problem functions block.elements := by
  obtain ⟨stages⟩ := nonempty_stages hdraw
  exact ⟨_, stages.contents helements hconnected⟩

end

end ProblemBlock

end Diagram

end PlanDiagram
