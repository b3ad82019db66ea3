import PlanDiagram.Proofs.Diagram.ActionBlock
import PlanDiagram.Proofs.Diagram.FunctionTerms
import PlanDiagram.Proofs.Diagram.Integrity
import PlanDiagram.Proofs.Diagram.LiteralEllipses

/-!
# What stands in the block of an action

The nodes of the block are read off family by family: an ellipse for each label among the literals
of a role, a rectangle for each parameter, and an ellipse for each key among the function terms of
the numeric band. All arrows that are not at operators connect literals and functions with
parameters.
-/

namespace PlanDiagram

/-- The function terms that are drawn for an action. -/
def Action.functionOperands (action : Action) : List FunctionOperand :=
  (action.found .effect).changes.flatMap ChangeUse.functionOperands ++
    (action.found .precondition).comparisons.flatMap ComparisonUse.functionOperands

namespace Diagram

variable {α : Type}

namespace ActionBlock

open NumericFrame (tickets parameterFamily functionFamily operatorFamily)

variable [Add α] [Mul α] [LT α] [DecidableLT α] [Scalar α] {cfg : Config α} {d d' : Drawing α}

/-- Drawing literals of a role. -/
theorem drawLiterals_draws {left top : α} {role : Role} {uses : List LiteralUse} {index : Nat}
    {boxes : List (String × Box α)}
    (hdraw : drawLiterals cfg left top index uses d = .ok (boxes, d'))
    (huses : ∀ use ∈ uses, use.role = role) :
    ∃ ns, DrawsRow (roleFamily role) LiteralUse.label LiteralUse.label .ellipse uses boxes d d'
      ns := by
  refine Draw.row_draws hdraw (fun _ => rfl) (fun _ _ _ => rfl) huses ?_
  intro index use d d' box hcell hrole
  subst hrole
  obtain ⟨-, hellipse⟩ := Draw.inCell_ok_iff.mp hcell
  exact Draw.ellipse_draws hellipse (Names.literal d.canvas.group use.role index use.name)

/-- Drawing parameters. -/
theorem drawParameters_draws {left top : α} {parameters : List Parameter} {index : Nat}
    {boxes : List (String × Box α)}
    (hdraw : drawParameters cfg left top index parameters d = .ok (boxes, d')) :
    ∃ ns, DrawsRow parameterFamily Parameter.name Parameter.label .rectangle parameters boxes d d'
      ns := by
  refine Draw.row_draws hdraw (fun _ => rfl) (fun _ _ _ => rfl) (fun _ _ => trivial) ?_
  intro index p d d' box hcell _
  obtain ⟨-, hrectangle⟩ := Draw.inCell_ok_iff.mp hcell
  exact Draw.rectangle_draws hrectangle
    (Names.leading d.canvas.group (by decide) (by decide) index p.name)

/-- Drawing the title and the description. -/
theorem drawHead_draws [Sub α] {action : Action} {x y : α} {cursor : Cursor α}
    (hdraw : drawHead cfg action x y d = .ok (cursor, d')) :
    ∃ nodes, Draws [titleFamily, descriptionFamily] nodes noArrow d d' := by
  obtain ⟨width, title, box, d₁, -, hrectangle, hbox, -⟩ := drawHead_ok hdraw
  obtain ⟨n, -, hn⟩ := Draw.rectangle_draws (f := titleFamily) hrectangle
    (Names.single d.canvas.group (by decide) (by decide))
  obtain ⟨m, -, hm⟩ := Draw.description_draws (f := descriptionFamily) hbox (by
    rw [hn.draws.group_eq]
    exact Names.single d.canvas.group (by decide) (by decide))
  exact ⟨_, (hn.draws.append hm.draws).congr (by simp [arrowsOf, noArrow])⟩

/-- Drawing the preconditions. -/
theorem drawPreconditions_draws {x : α} {literals : List LiteralUse} {cursor : Cursor α}
    {result : List (String × Box α) × Cursor α}
    (hdraw : drawPreconditions cfg x literals cursor d = .ok (result, d'))
    (hroles : ∀ use ∈ literals, use.role = .precondition) :
    ∃ ns, DrawsRow (roleFamily .precondition) LiteralUse.label LiteralUse.label .ellipse literals
      result.1 d d' ns := by
  unfold drawPreconditions at hdraw
  exact Draw.band_draws hdraw fun boxes hboxes => drawLiterals_draws hboxes hroles

/-- Drawing the parameters. -/
theorem drawParameterBand_draws {x : α} {parameters : List Parameter} {after : Bool}
    {cursor : Cursor α} {result : List (String × Box α) × Cursor α}
    (hdraw : drawParameterBand cfg x parameters after cursor d = .ok (result, d')) :
    ∃ ns, DrawsRow parameterFamily Parameter.name Parameter.label .rectangle parameters result.1
      d d' ns := by
  unfold drawParameterBand at hdraw
  cases parameters with
  | nil =>
    cases after <;>
      · obtain ⟨rfl, rfl⟩ := Draw.pure_ok_iff.mp hdraw
        exact ⟨[], Draw.drawsRow_nil d⟩
  | cons p rest =>
    obtain ⟨boxes, d₁, hboxes, hdraw⟩ := Draw.bind_ok_iff.mp hdraw
    obtain ⟨rfl, rfl⟩ := Draw.pure_ok_iff.mp hdraw
    exact drawParameters_draws hboxes

/-- Drawing the effects. -/
theorem drawEffects_draws {x : α} {literals : List LiteralUse} {cursor : Cursor α}
    {result : List (String × Box α) × Cursor α}
    (hdraw : drawEffects cfg x literals cursor d = .ok (result, d'))
    (hroles : ∀ use ∈ literals, use.role = .effect) :
    ∃ ns, DrawsRow (roleFamily .effect) LiteralUse.label LiteralUse.label .ellipse literals
      result.1 d d' ns := by
  unfold drawEffects at hdraw
  cases literals with
  | nil =>
    obtain ⟨rfl, rfl⟩ := Draw.pure_ok_iff.mp hdraw
    exact ⟨[], Draw.drawsRow_nil d⟩
  | cons l rest =>
    obtain ⟨boxes, d₁, hboxes, hdraw⟩ := Draw.bind_ok_iff.mp hdraw
    obtain ⟨u, d₂, hextend, hdraw⟩ := Draw.bind_ok_iff.mp hdraw
    obtain ⟨rfl, rfl⟩ := Draw.pure_ok_iff.mp hdraw
    obtain ⟨ns, hns⟩ := drawLiterals_draws hboxes hroles
    exact ⟨ns, hns.trans (Draw.extend_draws hextend)⟩

/-- Drawing the numeric effects and comparisons. -/
theorem drawNumericBand_draws {x : α} {anchors : List (String × Box α)} {changes : List ChangeUse}
    {comparisons : List ComparisonUse} {after : Bool} {cursor : Cursor α}
    {result : NumericBand α × Cursor α}
    (hdraw : drawNumericBand cfg x anchors changes comparisons after cursor d = .ok (result, d'))
    (hempty : nodesIn [functionFamily] d.canvas.elements = []) :
    NumericFrame.Grows (changes.flatMap ChangeUse.functionOperands ++
        comparisons.flatMap ComparisonUse.functionOperands) {} d result.1 d' ∧
      NumericFrame.Recorded result.1 d' := by
  have hband : NumericFrame.Recorded ({} : NumericBand α) d := .of_empty hempty
  obtain ⟨rfl, rfl, rfl, rfl⟩ | ⟨band, d₁, hchanges, hcomparisons, -⟩ := drawNumericBand_ok hdraw
  · exact ⟨.of_draws (.refl d') (by simp [noArrow]) rfl, hband⟩
  · obtain ⟨hgrows, hband₁⟩ := NumericFrame.drawChanges_grows hchanges hband
    obtain ⟨hgrows', hband'⟩ := NumericFrame.drawComparisons_grows hcomparisons hband₁
    exact ⟨hgrows.trans hgrows', hband'⟩

/-- The functions of a band, with what is drawn on them. -/
def drawnFunctions (functions : List (FunctionNode α)) : List (Box α × String × List Formula) :=
  functions.map fun known => (known.box, known.name, known.arguments)

/-- The literals and functions of a block, with their arguments. -/
def drawn (action : Action) (functions : List (FunctionNode α)) (elements : List (Element α)) :
    List (Box α × String × List Formula) :=
  drawnOn action.found (drawnFunctions functions) elements

/-- What stands in the block of an action, whose numeric band has the given functions. -/
structure Contents (action : Action) (functions : List (FunctionNode α))
    (elements : List (Element α)) : Prop where
  literals : ∀ role, ShowsLiterals (action.found role) role elements
  wired : Wired [parameterFamily] [operatorFamily] (userFamilies [functionFamily])
    action.parameters (drawn action functions elements) elements
  keys_nodup : (functions.map FunctionNode.key).Nodup
  keys_eq : ∀ known ∈ functions, known.key = NumericFrame.termKey known.term
  nodes : List.Forall₂ (fun known n =>
      n.box = known.box ∧ n.box.shape = .ellipse ∧ n.text = known.term.label)
    functions (nodesIn [functionFamily] elements)
  terms : ∀ known ∈ functions, ∃ t ∈ action.functionOperands, known.term = t.term
  shown : ∀ t ∈ action.functionOperands, ∃ known ∈ functions,
    known.key = NumericFrame.termKey t.term ∧
      ∃ o ∈ nodesIn [operatorFamily] elements, o.text = t.operator ∧
        (known.box.id, o.box.id) ∈ connections elements

omit [Add α] [Mul α] [LT α] [DecidableLT α] [Scalar α] in
/-- A group in front of the elements does not matter. -/
theorem Contents.cons_group {action : Action} {functions : List (FunctionNode α)}
    {elements : List (Element α)} (h : Contents action functions elements) (g : Group) :
    Contents action functions (.group g :: elements) :=
  ⟨h.literals, h.wired.cons_group g, h.keys_nodup, h.keys_eq, h.nodes, h.terms, h.shown⟩

omit [Add α] [Mul α] [LT α] [DecidableLT α] [Scalar α] in
/-- The functions of a band are drawn on ellipses of functions. -/
theorem exists_of_mem_drawnFunctions {functions : List (FunctionNode α)}
    {elements : List (Element α)}
    (hnodes : List.Forall₂ (fun known n =>
        n.box = known.box ∧ n.box.shape = .ellipse ∧ n.text = known.term.label)
      functions (nodesIn [functionFamily] elements)) :
    ∀ node ∈ drawnFunctions functions,
      ∃ n ∈ nodesIn [functionFamily] elements, n.box = node.1 := by
  intro node hnode
  obtain ⟨known, hknown, rfl⟩ := List.mem_map.mp hnode
  obtain ⟨n, hn, hbox, -⟩ := exists_of_mem_right hnodes.flip hknown
  exact ⟨n, hn, hbox⟩

/-- What the bands of a block have drawn, with what they hand on: the boxes of literals and
parameters and the functions of the numeric band. Arrows at operators have been drawn as far as
`atOperators` tells. -/
structure BandsDrawn (action : Action) (functions : List (FunctionNode α))
    (conditionBoxes anchors effectBoxes : List (String × Box α))
    (atOperators : String × String → Prop) (elements : List (Element α)) : Prop where
  literals : ∀ role, ShowsLiterals (action.found role) role elements
  drawn_eq : drawn action functions elements =
    drawnLiterals conditionBoxes (action.found .precondition).literals ++
      (drawnLiterals effectBoxes (action.found .effect).literals ++ []) ++
        drawnFunctions functions
  anchors_eq : anchors = (action.parameters.map Parameter.name).zip
    ((nodesIn [parameterFamily] elements).map Node.box)
  rectangles : List.Forall₂ (fun p n => n.text = p.label ∧ n.box.shape = .rectangle)
    action.parameters (nodesIn [parameterFamily] elements)
  operators : ∀ p, atOperators p →
    ∃ o ∈ nodesIn [operatorFamily] elements, p.1 = o.box.id ∨ p.2 = o.box.id

section

variable [Sub α] {action : Action} {x y : α} {block : Block α}

/-- The nodes of a block are those of its canvas. -/
theorem Stages.nodesOf_eq (stages : Stages cfg action x y d d' block) :
    nodesOf block.elements = nodesOf d'.canvas.elements := by
  rw [stages.elements_eq]
  rfl

/-- The nodes in front of the numeric band, band by band. -/
structure Front (stages : Stages cfg action x y d d' block)
    (head conditions parameters effects : List (Node α)) : Prop where
  head : Draws [titleFamily, descriptionFamily] head noArrow d stages.afterHead
  conditions : DrawsRow (roleFamily .precondition) LiteralUse.label LiteralUse.label .ellipse
    (action.found .precondition).distinctLiterals stages.conditions.1 stages.afterHead
    stages.afterConditions conditions
  parameters : DrawsRow parameterFamily Parameter.name Parameter.label .rectangle
    action.parameters stages.parameters.1 stages.afterConditions stages.afterParameters parameters
  effects : DrawsRow (roleFamily .effect) LiteralUse.label LiteralUse.label .ellipse
    (action.found .effect).distinctLiterals stages.effects.1 stages.afterParameters
    stages.afterEffects effects

/-- The bands in front of the numeric band have been drawn. -/
theorem Stages.exists_front (stages : Stages cfg action x y d d' block) :
    ∃ head conditions parameters effects, Front stages head conditions parameters effects := by
  obtain ⟨head, hhead⟩ := drawHead_draws stages.head_eq
  obtain ⟨conditions, hconditions⟩ := drawPreconditions_draws stages.conditions_eq
    fun use => Occurrences.role_of_mem_distinctLiterals
  obtain ⟨parameters, hparameters⟩ := drawParameterBand_draws stages.parameters_eq
  obtain ⟨effects, heffects⟩ := drawEffects_draws stages.effects_eq
    fun use => Occurrences.role_of_mem_distinctLiterals
  exact ⟨head, conditions, parameters, effects, hhead, hconditions, hparameters, heffects⟩

/-- No node in front of the numeric band is one of its families. -/
theorem Stages.nodesIn_numeric_eq_nil (stages : Stages cfg action x y d d' block)
    (helements : d.canvas.elements = []) :
    nodesIn NumericFrame.nodeFamilies stages.afterEffects.canvas.elements = [] := by
  obtain ⟨head, conditions, parameters, effects, front⟩ := stages.exists_front
  have hfront := ((front.head.append front.conditions.draws).append
    front.parameters.draws).append front.effects.draws
  rw [hfront.nodesIn_eq (by decide +kernel), helements]
  rfl

/-- The stages of a block on an empty canvas have drawn the bands, and only arrows afterwards. -/
theorem Stages.bands_drawn (stages : Stages cfg action x y d d' block)
    {asked : String × String → Prop} (hlater : Draws [] [] asked stages.afterNumeric d')
    (helements : d.canvas.elements = []) (hconnected : d.canvas.connected = []) :
    NumericFrame.Grows action.functionOperands {} stages.afterEffects stages.numeric.1
        stages.afterNumeric ∧
      NumericFrame.Recorded stages.numeric.1 d' ∧
      ∃ atOperators, BandsDrawn action stages.numeric.1.functions stages.conditions.1
          stages.parameters.1 stages.effects.1 atOperators d'.canvas.elements ∧
        ∀ p, p ∈ d'.canvas.connected ↔ atOperators p ∨ asked p := by
  obtain ⟨head, conditionNodes, parameterNodes, effectNodes, hhead, hconditions, hparameters,
    heffects⟩ := stages.exists_front
  have hfront := ((hhead.append hconditions.draws).append hparameters.draws).append heffects.draws
  obtain ⟨hgrows, hband⟩ := drawNumericBand_draws stages.numeric_eq
    (nodesIn_eq_nil (by simp [NumericFrame.nodeFamilies]) (stages.nodesIn_numeric_eq_nil helements))
  obtain ⟨numericNodes, numericArrows, hdraws, hoperators⟩ := hgrows.draws
  have hall := (hfront.append hdraws).append hlater
  -- the nodes of each family are those that its band has drawn
  have hconditionNodes := Draws.nodesIn_of_empty helements hhead hconditions.draws
    (((hparameters.draws.append heffects.draws).append hdraws).append hlater)
    (by decide +kernel)
  have hparameterNodes := Draws.nodesIn_of_empty helements (hhead.append hconditions.draws)
    hparameters.draws ((heffects.draws.append hdraws).append hlater) (by decide +kernel)
  have heffectNodes := Draws.nodesIn_of_empty helements
    ((hhead.append hconditions.draws).append hparameters.draws) heffects.draws
    (hdraws.append hlater) (by decide +kernel)
  have hnone (role : Role) (hrole : role = .init ∨ role = .goal) :
      nodesIn [roleFamily role] d'.canvas.elements = [] := by
    refine (hall.nodesIn_eq ?_).trans (by rw [helements]; rfl)
    rcases hrole with rfl | rfl <;> decide +kernel
  refine ⟨hgrows, hband.of_eq rfl (hlater.nodesIn_eq (by simp)), numericArrows,
    ⟨fun role => ?_, ?_, ?_, hparameterNodes ▸ hparameters.shows, fun p hp => ?_⟩, fun p => ?_⟩
  · -- the literals of each role
    cases role with
    | precondition =>
      rw [ShowsLiterals, hconditionNodes]
      exact hconditions.shows
    | effect =>
      rw [ShowsLiterals, heffectNodes]
      exact heffects.shows
    | init => exact .of_empty (hnone _ (.inl rfl))
    | goal => exact .of_empty (hnone _ (.inr rfl))
  · rw [hconditions.boxes_eq, heffects.boxes_eq, ← hconditionNodes, ← heffectNodes]
    rfl
  · rw [hparameterNodes]
    exact hparameters.boxes_eq
  · obtain ⟨o, ho, hid⟩ := hoperators p hp
    exact ⟨o, hlater.mem_nodesIn ho, .inr hid⟩
  · rw [hall.connected_iff, hconnected]
    simp [arrowsOf, noArrow]

/-- What the stages of a block have drawn on an empty canvas. -/
theorem Stages.contents (stages : Stages cfg action x y d d' block)
    (helements : d.canvas.elements = []) (hconnected : d.canvas.connected = []) :
    Contents action stages.numeric.1.functions block.elements := by
  have hsound := (stages.step helements hconnected).sound.canvas
  have hconnect : Draws [] [] _ stages.afterNumeric d' :=
    Draw.connectAll_draws stages.connected_eq
  obtain ⟨hgrows, hband, atOperators, hbands, hiff⟩ :=
    stages.bands_drawn hconnect helements hconnected
  have hconnections (p : String × String) : p ∈ connections d'.canvas.elements ↔
      atOperators p ∨ argumentArrows ((action.parameters.map Parameter.name).zip
        ((nodesIn [parameterFamily] d'.canvas.elements).map Node.box))
          (drawn action stages.numeric.1.functions d'.canvas.elements) p := by
    rw [← hsound.connected_iff, hiff, hbands.drawn_eq, ← hbands.anchors_eq, List.append_nil]
    rfl
  have hwired : Wired [parameterFamily] [operatorFamily] (userFamilies [functionFamily])
      action.parameters (drawn action stages.numeric.1.functions d'.canvas.elements)
      d'.canvas.elements :=
    .of_connections_iff (hsound.ids_nodup.sublist (nodeIds_sublist _)) hsound.connections_nodup
      hbands.rectangles
      (exists_of_mem_drawnOn hbands.literals (exists_of_mem_drawnFunctions hband.nodes))
      hbands.operators hconnections
  rw [stages.elements_eq]
  refine Contents.cons_group ⟨hbands.literals, hwired, hband.keys_nodup, hband.keys_eq,
    hband.nodes, ?_, fun t ht => ?_⟩ _
  · obtain ⟨new, hnew, hterms⟩ := hgrows.functions
    have hnew : stages.numeric.1.functions = new := hnew
    exact hnew ▸ hterms
  · obtain ⟨known, hknown, hkey, o, ho, htext, harrow⟩ := hgrows.shown t ht
    refine ⟨known, hknown, hkey, o, hconnect.mem_nodesIn ho, htext, ?_⟩
    exact (hsound.connected_iff _).mp (hconnect.mem_connected harrow)

/-- What is drawn on an empty canvas for an action. -/
theorem draw_contents (hdraw : draw cfg action x y d = .ok (block, d'))
    (helements : d.canvas.elements = []) (hconnected : d.canvas.connected = []) :
    ∃ functions, Contents action functions block.elements := by
  obtain ⟨stages⟩ := nonempty_stages hdraw
  exact ⟨_, stages.contents helements hconnected⟩

end

end ActionBlock

end Diagram

end PlanDiagram
