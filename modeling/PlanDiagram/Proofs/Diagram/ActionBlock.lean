import PlanDiagram.Proofs.Diagram.Connection
import PlanDiagram.Proofs.Diagram.NumericBand
import PlanDiagram.Proofs.Diagram.Stages
import PlanDiagram.Proofs.Formula.Occurrence

/-!
# Blocks of actions

Band by band, the block of an action is a sequence of steps: each band has families of its own, so
none disturbs the numbers of another. The nodes that a band hands on are on the canvas, with
identifiers of its family, and the arrows at the end connect them with the parameters.
-/

namespace PlanDiagram.Diagram

/-- The identifiers of literals of a role. -/
def roleFamily (role : Role) : Family := .leading (role.name ++ "-")

/-- An identifier of a literal. -/
theorem Names.literal (group : String) (role : Role) (n : Nat) (name : String) :
    Names group (roleFamily role) n
      (sanitize (group ++ "-" ++ role.name ++ "-" ++ toString n ++ "-" ++ name)) := by
  have hclean : sanitize (role.name ++ "-") = role.name ++ "-" := by
    cases role <;> decide
  have hnames := Names.leading group rfl hclean n name
  simpa only [roleFamily, String.append_assoc] using hnames

namespace ActionBlock

open NumericFrame (tickets parameterFamily)

variable {α : Type} [Add α] [Mul α] [LT α] [DecidableLT α] [Scalar α] {cfg : Config α}
  {d d' : Drawing α}

/-- Drawing literals of a role. -/
theorem drawLiterals_step {left top : α} {role : Role} {uses : List LiteralUse} {index : Nat}
    {nodes : List (String × Box α)}
    (hdraw : drawLiterals cfg left top index uses d = .ok (nodes, d'))
    (huses : ∀ use ∈ uses, use.role = role) (hd : d.Sound tickets)
    (hunused : d.canvas.Unused (roleFamily role) index) :
    Step tickets [roleFamily role] [] d d' ∧
      ∀ node ∈ nodes, Placed d' (roleFamily role) node.2 := by
  have hspared : ∀ t ∈ tickets, (roleFamily role).Apart t.2 := by
    cases role <;> decide +kernel
  refine Draw.row_step hdraw (fun _ => rfl) (fun _ _ _ => rfl) huses ?_ hd hunused
  intro index use d d' box hcell hrole hd hunused
  subst hrole
  obtain ⟨-, hellipse⟩ := Draw.inCell_ok_iff.mp hcell
  have hnames := Names.literal d.canvas.group use.role index use.name
  exact Draw.ellipse_drawn hellipse hd hnames ⟨hunused, fun t ht => .inl (hspared t ht)⟩

/-- Drawing parameters. -/
theorem drawParameters_step {left top : α} {parameters : List Parameter} {index : Nat}
    {nodes : List (String × Box α)}
    (hdraw : drawParameters cfg left top index parameters d = .ok (nodes, d'))
    (hd : d.Sound tickets) (hunused : d.canvas.Unused parameterFamily index) :
    Step tickets [parameterFamily] [] d d' ∧
      ∀ node ∈ nodes, Placed d' parameterFamily node.2 := by
  have hspared : ∀ t ∈ tickets, parameterFamily.Apart t.2 := by
    decide +kernel
  refine Draw.row_step hdraw (fun _ => rfl) (fun _ _ _ => rfl) (fun _ _ => trivial) ?_ hd hunused
  intro index p d d' box hcell _ hd hunused
  obtain ⟨-, hrectangle⟩ := Draw.inCell_ok_iff.mp hcell
  have hnames : Names d.canvas.group parameterFamily index
      (sanitize (d.canvas.group ++ "-param-" ++ toString index ++ "-" ++ p.name)) :=
    Names.leading d.canvas.group (by decide) (by decide) index p.name
  exact Draw.rectangle_drawn hrectangle hd hnames ⟨hunused, fun t ht => .inl (hspared t ht)⟩

/-- The identifier of the title. -/
def titleFamily : Family := .single "title"

/-- The identifier of the description. -/
def descriptionFamily : Family := .single "description"

/-- Drawing the title and the description. -/
theorem drawHead_step [Sub α] {action : Action} {x y : α} {cursor : Cursor α}
    (hdraw : drawHead cfg action x y d = .ok (cursor, d')) (hd : d.Sound tickets)
    (htitle : d.canvas.Unused titleFamily 0) (hdescription : d.canvas.Unused descriptionFamily 0) :
    Step tickets [titleFamily, descriptionFamily]
      [("action", sanitize (d.canvas.group ++ "-description"))] d d' := by
  have hspared : ∀ f ∈ [titleFamily, descriptionFamily], ∀ t ∈ tickets, f.Apart t.2 := by
    decide +kernel
  obtain ⟨width, title, box, d₁, -, hrectangle, hbox, -⟩ := drawHead_ok hdraw
  have htitle_name : Names d.canvas.group titleFamily 0
      (sanitize (d.canvas.group ++ "-title")) :=
    Names.single d.canvas.group (by decide) (by decide)
  have htitle_drawn := Draw.rectangle_drawn hrectangle hd htitle_name
    ⟨htitle, fun t ht => .inl (hspared _ (by simp) t ht)⟩
  have hunused : d₁.canvas.Unused descriptionFamily 0 :=
    htitle_drawn.step.unused (by decide +kernel) hdescription
  have hdescription_name : Names d₁.canvas.group descriptionFamily 0
      (sanitize (d.canvas.group ++ "-description")) := by
    rw [htitle_drawn.step.group_eq]
    exact Names.single d.canvas.group (by decide) (by decide)
  have hdrawn := Draw.description_drawn hbox htitle_drawn.step.sound hdescription_name
    ⟨hunused, fun t ht => .inl (hspared _ (by simp) t ht)⟩
  exact (htitle_drawn.step.mono (by simp)).trans (hdrawn.step.mono (by simp))

/-- Drawing the preconditions. -/
theorem drawPreconditions_step {x : α} {literals : List LiteralUse} {cursor : Cursor α}
    {result : List (String × Box α) × Cursor α}
    (hdraw : drawPreconditions cfg x literals cursor d = .ok (result, d')) (hd : d.Sound tickets)
    (hroles : ∀ use ∈ literals, use.role = .precondition)
    (hunused : d.canvas.Unused (roleFamily .precondition) 0) :
    Step tickets [roleFamily .precondition] [] d d' ∧
      ∀ node ∈ result.1, Placed d' (roleFamily .precondition) node.2 := by
  unfold drawPreconditions at hdraw
  exact Draw.band_step hdraw hd fun nodes hnodes => drawLiterals_step hnodes hroles hd hunused

/-- Drawing the parameters. -/
theorem drawParameterBand_step {x : α} {parameters : List Parameter} {after : Bool}
    {cursor : Cursor α} {result : List (String × Box α) × Cursor α}
    (hdraw : drawParameterBand cfg x parameters after cursor d = .ok (result, d'))
    (hd : d.Sound tickets) (hunused : d.canvas.Unused parameterFamily 0) :
    Step tickets [parameterFamily] [] d d' ∧
      ∀ node ∈ result.1, Placed d' parameterFamily node.2 := by
  unfold drawParameterBand at hdraw
  by_cases hempty : parameters.isEmpty = true
  · rw [if_pos hempty] at hdraw
    cases after <;>
      · obtain ⟨rfl, rfl⟩ := Draw.pure_ok_iff.mp hdraw
        exact ⟨.refl hd, by simp⟩
  · rw [if_neg hempty] at hdraw
    obtain ⟨nodes, d₁, hnodes, hdraw⟩ := Draw.bind_ok_iff.mp hdraw
    obtain ⟨rfl, rfl⟩ := Draw.pure_ok_iff.mp hdraw
    exact drawParameters_step hnodes hd hunused

/-- Drawing the effects. -/
theorem drawEffects_step {x : α} {literals : List LiteralUse} {cursor : Cursor α}
    {result : List (String × Box α) × Cursor α}
    (hdraw : drawEffects cfg x literals cursor d = .ok (result, d')) (hd : d.Sound tickets)
    (hroles : ∀ use ∈ literals, use.role = .effect)
    (hunused : d.canvas.Unused (roleFamily .effect) 0) :
    Step tickets [roleFamily .effect] [] d d' ∧
      ∀ node ∈ result.1, Placed d' (roleFamily .effect) node.2 := by
  unfold drawEffects at hdraw
  by_cases hempty : literals.isEmpty = true
  · rw [if_pos hempty] at hdraw
    obtain ⟨rfl, rfl⟩ := Draw.pure_ok_iff.mp hdraw
    exact ⟨.refl hd, by simp⟩
  · rw [if_neg hempty] at hdraw
    obtain ⟨nodes, d₁, hnodes, hdraw⟩ := Draw.bind_ok_iff.mp hdraw
    obtain ⟨u, d₂, hextend, hdraw⟩ := Draw.bind_ok_iff.mp hdraw
    obtain ⟨rfl, rfl⟩ := Draw.pure_ok_iff.mp hdraw
    obtain ⟨hstep, hplaced⟩ := drawLiterals_step hnodes hroles hd hunused
    have hstep' : Step tickets [roleFamily .effect] [] d₁ d₂ :=
      Draw.extend_step hextend hstep.sound
    exact ⟨hstep.trans hstep', fun node hnode => hstep'.placed (hplaced node hnode)⟩

/-- Drawing the numeric effects and comparisons. -/
theorem drawNumericBand_step {x : α} {anchors : List (String × Box α)} {changes : List ChangeUse}
    {comparisons : List ComparisonUse} {after : Bool} {cursor : Cursor α}
    {result : NumericBand α × Cursor α}
    (hdraw : drawNumericBand cfg x anchors changes comparisons after cursor d = .ok (result, d'))
    (hd : d.Sound tickets) (hanchors : ∀ anchor ∈ anchors, Placed d parameterFamily anchor.2) :
    Step tickets NumericFrame.families [] d d' ∧ NumericFrame.Known result.1 d' := by
  have hknown : NumericFrame.Known ({} : NumericBand α) d := by
    simp [NumericFrame.Known]
  obtain ⟨-, -, rfl, rfl⟩ | ⟨band, d₁, hchanges, hcomparisons, -⟩ := drawNumericBand_ok hdraw
  · exact ⟨.refl hd, hknown⟩
  · obtain ⟨hstep, hknown₁⟩ := NumericFrame.drawChanges_step hchanges hd hanchors hknown
    obtain ⟨hstep', hknown'⟩ := NumericFrame.drawComparisons_step hcomparisons hstep.sound
      (fun anchor hanchor => hstep.placed (hanchors anchor hanchor)) hknown₁
    exact ⟨hstep.trans hstep', hknown'⟩

omit [Add α] [Mul α] [LT α] [DecidableLT α] [Scalar α] in
/-- The nodes of literals can be connected with anchors of another family. -/
theorem connectable_drawnLiterals {f g : Family} {nodes : List (String × Box α)}
    (hnodes : ∀ node ∈ nodes, Placed d g node.2) (hapart : f.Apart g) (uses : List LiteralUse) :
    Connectable d f (drawnLiterals nodes uses) := by
  intro drawn hdrawn
  obtain ⟨use, -, hmap⟩ := List.mem_filterMap.mp hdrawn
  obtain ⟨box, hlookup, rfl⟩ := Option.map_eq_some_iff.mp hmap
  exact ⟨g, hapart, placed_of_lookup hlookup hnodes⟩

omit [Add α] [Mul α] [LT α] [DecidableLT α] [Scalar α] in
/-- The functions of a numeric band can be connected with parameters. -/
theorem connectable_functions {band : NumericBand α} (h : NumericFrame.Known band d) :
    Connectable d parameterFamily (band.functions.map fun f => (f.box, f.name, f.arguments)) := by
  intro drawn hdrawn
  obtain ⟨known, hknown, rfl⟩ := List.mem_map.mp hdrawn
  exact ⟨NumericFrame.functionFamily, by decide +kernel, h known hknown⟩

/-- The families of a block of an action. -/
def families : List Family :=
  [titleFamily, descriptionFamily] ++ [roleFamily .precondition] ++ [parameterFamily] ++
    [roleFamily .effect] ++ NumericFrame.families ++ [connectionFamily "edge"]

/-- The stages of a block on an empty canvas. -/
theorem Stages.step [Sub α] {action : Action} {x y : α} {block : Block α}
    (stages : Stages cfg action x y d d' block) (helements : d.canvas.elements = [])
    (hconnected : d.canvas.connected = []) :
    Step tickets families [("action", sanitize (d.canvas.group ++ "-description"))] d d' := by
  have hd : d.Sound tickets := Drawing.sound_of_empty helements hconnected
  have hhead := drawHead_step stages.head_eq hd (Canvas.unused_of_empty helements)
    (Canvas.unused_of_empty helements)
  obtain ⟨hstep, hconditions⟩ := drawPreconditions_step stages.conditions_eq hhead.sound
    (fun use => Occurrences.role_of_mem_distinctLiterals)
    (hhead.unused_of_empty helements (by decide +kernel))
  have hall := hhead.append hstep
  obtain ⟨hstep₃, hanchors⟩ := drawParameterBand_step stages.parameters_eq hall.sound
    (hall.unused_of_empty helements (by decide +kernel))
  have hall := hall.append hstep₃
  obtain ⟨hstep₄, heffects⟩ := drawEffects_step stages.effects_eq hall.sound
    (fun use => Occurrences.role_of_mem_distinctLiterals)
    (hall.unused_of_empty helements (by decide +kernel))
  have hall := hall.append hstep₄
  obtain ⟨hstep₅, hknown⟩ := drawNumericBand_step stages.numeric_eq hall.sound
    fun anchor hanchor => hstep₄.placed (hanchors anchor hanchor)
  have hall := hall.append hstep₅
  have hunused : stages.afterNumeric.canvas.Unused (connectionFamily "edge") 0 :=
    hall.unused_of_empty helements (by decide +kernel)
  have hconditionNodes := connectable_drawnLiterals (f := parameterFamily)
    (fun node hnode => hstep₅.placed (hstep₄.placed (hstep₃.placed (hconditions node hnode))))
    (by decide +kernel)
  have heffectNodes := connectable_drawnLiterals (f := parameterFamily)
    (fun node hnode => hstep₅.placed (heffects node hnode)) (by decide +kernel)
  obtain ⟨hstep₆, -⟩ := Draw.connectAll_step (by decide) (by decide +kernel)
    stages.connected_eq (by rw [hall.group_eq, String.append_assoc]; rfl) hall.sound
    (fun anchor hanchor => hstep₅.placed (hstep₄.placed (hanchors anchor hanchor)))
    (((hconditionNodes _).append (heffectNodes _)).append (connectable_functions hknown)) hunused
  exact hall.append hstep₆

/-- Drawing the block of an action on an empty canvas. -/
theorem draw_step [Sub α] {action : Action} {x y : α} {block : Block α}
    (hdraw : draw cfg action x y d = .ok (block, d')) (helements : d.canvas.elements = [])
    (hconnected : d.canvas.connected = []) :
    Step tickets families [("action", sanitize (d.canvas.group ++ "-description"))] d d' ∧
      ∃ description, block.elements =
        d'.canvas.finish description (groupData action description d.canvas.group) := by
  obtain ⟨stages⟩ := nonempty_stages hdraw
  exact ⟨stages.step helements hconnected, _, stages.elements_eq⟩

end ActionBlock

end PlanDiagram.Diagram
