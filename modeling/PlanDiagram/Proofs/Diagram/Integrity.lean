import PlanDiagram.Diagram.Conversion
import PlanDiagram.Proofs.Diagram.ProblemBlock
import PlanDiagram.Proofs.Diagram.Rational

/-!
# Referential integrity of diagrams

The elements of a diagram fall into blocks, one for each action of a domain, or one for a problem. A
block is a group followed by its members, and everything in it that refers to an element by its
identifier refers to exactly one element of the block: the list of members, the ends of arrows, and
the entries for descriptions. Main statement: this holds for whatever is drawn, from any domain or
problem, in any session and under any configuration.
-/

namespace PlanDiagram.Diagram

variable {α : Type}

/-- The entries of a group that refer to descriptions, with what these tell of. -/
def descriptionKeys : List (String × String) := [
  ("descriptionElementId", "action"),
  ("initDescriptionId", "problem-init"),
  ("goalDescriptionId", "problem-goal")]

/-- The descriptions to which a group refers. -/
def Group.descriptions (g : Group) : List (String × String) :=
  descriptionKeys.filterMap fun (key, role) =>
    match g.data.lookup key with
    | some (.text id) => some (role, id)
    | _ => none

/-- A group with the other elements of its block. -/
structure Group.Holds (g : Group) (members : List (Element α)) : Prop where
  /-- The group is the only one. -/
  no_group : ∀ other, .group other ∉ members
  /-- The group lists its members in order. -/
  members_eq : g.members = members.map Element.id
  /-- The members say to belong to the group. -/
  owner_eq : ∀ e ∈ members, e.owner? = some g.id
  /-- No two elements have the same identifier. -/
  ids_nodup : (g.id :: members.map Element.id).Nodup
  /-- An arrow leads from one node to another one. -/
  ends : ∀ a, .arrow a ∈ members → (nodeIds members).count a.source.id = 1 ∧
    (nodeIds members).count a.target.id = 1 ∧ a.source.id ≠ a.target.id
  /-- No two arrows lead from the same node to the same node. -/
  connections_nodup : (connections members).Nodup
  /-- The group refers to the descriptions. -/
  descriptions_eq : g.descriptions = Diagram.descriptions members

/-- The identifiers of nodes are among those of elements, in order. -/
theorem nodeIds_sublist (elements : List (Element α)) :
    (nodeIds elements).Sublist (elements.map Element.id) := by
  induction elements with
  | nil => exact .slnil
  | cons e rest ih =>
    cases e with
    | node n => exact ih.cons_cons _
    | arrow a => exact ih.cons _
    | group g => exact ih.cons _

/-- What has been drawn on an empty canvas is held by its group. -/
theorem Step.holds {tickets : List (String × Family)} {families : List Family}
    {told : List (String × String)} {d d' : Drawing α} (h : Step tickets families told d d')
    (helements : d.canvas.elements = []) {g : Group} (hid : g.id = d'.canvas.group)
    (hmembers : g.members = d'.canvas.elements.map Element.id)
    (hdescriptions : g.descriptions = told) :
    g.Holds d'.canvas.elements := by
  have hsound := h.sound.canvas
  have hnodup : (nodeIds d'.canvas.elements).Nodup :=
    hsound.ids_nodup.sublist (nodeIds_sublist _)
  constructor
  · intro other hother
    have howner := hsound.owner_eq _ hother
    cases howner
  · exact hmembers
  · rw [hid]
    exact hsound.owner_eq
  · rw [List.nodup_cons]
    refine ⟨?_, hsound.ids_nodup⟩
    rw [List.mem_map]
    rintro ⟨e, he, heq⟩
    exact hsound.ne_group e he (heq.trans hid)
  · intro a ha
    have hmem : (a.source.id, a.target.id) ∈ connections d'.canvas.elements :=
      List.mem_filterMap.mpr ⟨_, ha, rfl⟩
    obtain ⟨hsource, htarget, hne⟩ := hsound.ends _ hmem
    exact ⟨List.count_eq_one_of_mem hnodup hsource, List.count_eq_one_of_mem hnodup htarget, hne⟩
  · exact hsound.connections_nodup
  · rw [h.descriptions_eq, helements, hdescriptions]
    rfl

/-- The elements of a block are about a subject, given by its kind and name: they are a group and
the members that it holds, and the group names the subject. -/
def IsAbout (block : List (Element α)) (subject : String × String) : Prop :=
  ∃ g members, block = .group g :: members ∧ g.Holds members ∧
    g.data.lookup "type" = some (.text subject.1) ∧ g.data.lookup "name" = some (.text subject.2)

/-- A drawing that is run to its end starts on an empty canvas. -/
theorem Draw.exists_of_run {session : Session} {group : String} {bottom : α}
    {draw : Draw α (Block α)} {block : Block α}
    (h : (Draw.run session group bottom draw).2 = .ok block) :
    ∃ d', draw { canvas := { group, bottom }, session } = .ok (block, d') := by
  unfold Draw.run at h
  split at h
  · rename_i block' d' hdraw
    obtain rfl : block' = block := Except.ok.inj h
    exact ⟨d', hdraw⟩
  · cases h

variable [Add α] [Sub α] [Mul α] [LT α] [DecidableLT α] [Scalar α] {cfg : Config α}
  {session : Session}

/-- The block of an action is about the action. -/
theorem actionBlock_isAbout {action : Action} {x y : α} {block : Block α}
    (h : (actionBlock cfg session action x y).2 = .ok block) :
    IsAbout block.elements ("action", action.name) := by
  obtain ⟨d', hdraw⟩ := Draw.exists_of_run h
  obtain ⟨hstep, description, helements⟩ := ActionBlock.draw_step hdraw rfl rfl
  exact ⟨_, _, helements, hstep.holds rfl rfl rfl rfl, rfl, rfl⟩

/-- The block of a problem is about the problem. -/
theorem problemBlock_isAbout {problem : Problem} {x y : α} {block : Block α}
    (h : (problemBlock cfg session problem x y).2 = .ok block) :
    IsAbout block.elements ("problem", problem.name) := by
  obtain ⟨d', hdraw⟩ := Draw.exists_of_run h
  obtain ⟨hstep, description, helements⟩ := ProblemBlock.draw_step hdraw rfl rfl
  exact ⟨_, _, helements, hstep.holds rfl rfl rfl rfl, rfl, rfl⟩

/-- The blocks of actions are about the actions, in order. -/
theorem actionBlocks_isAbout {x : α} {actions : List Action} {blocks : List (Block α)}
    (h : (actionBlocks cfg session x actions).2 = .ok blocks) :
    List.Forall₂ (fun block action => IsAbout block.elements ("action", action.name)) blocks
      actions := by
  induction actions generalizing session x blocks with
  | nil =>
    obtain rfl : [] = blocks := Except.ok.inj h
    exact .nil
  | cons action rest ih =>
    unfold actionBlocks at h
    split at h
    · cases h
    · rename_i session' block hblock
      obtain ⟨others, hothers, rfl⟩ := map_eq_ok_iff.mp h
      exact .cons (actionBlock_isAbout (congrArg Prod.snd hblock)) (ih hothers)

/-- What the blocks of a diagram are about: the actions of a domain, or the problem itself. -/
def structureSubjects : Structure → List (String × String)
  | .domain domain => domain.actions.map fun action => ("action", action.name)
  | .problem problem => [("problem", problem.name)]

/-- Every diagram that is drawn consists of one block for each subject, in order, in which all
references between elements are sound. -/
theorem structureBlocks_integrity {s : Structure} {blocks : List (Block α)}
    (h : (structureBlocks cfg session s).2 = .ok blocks) :
    blockElements blocks = (blocks.map Block.elements).flatten ∧
      List.Forall₂ IsAbout (blocks.map Block.elements) (structureSubjects s) := by
  refine ⟨List.flatMap_def .., ?_⟩
  cases s with
  | domain domain =>
    have hactions : (actionBlocks cfg session cfg.startX domain.actions).2 = .ok blocks := h
    rw [structureSubjects, List.forall₂_map_left_iff, List.forall₂_map_right_iff]
    exact actionBlocks_isAbout hactions
  | problem problem =>
    obtain ⟨block, hblock, rfl⟩ := map_eq_ok_iff.mp h
    exact .cons (problemBlock_isAbout hblock) .nil

/-- An action that moves a vehicle while there is fuel left. -/
def moveAction : Action where
  name := "move"
  parameters := [{ name := "v" }, { name := "to" }]
  preconditions := [
    .predicate "ready" [.parameter "v" .null],
    .comparison ">=" [.function "fuel" [.parameter "v" .null], .number 1.0]]
  effects := [
    .predicate "at" [.parameter "v" .null, .parameter "to" .null],
    .negation (.predicate "ready" [.parameter "v" .null])]

/-- A domain with an action is drawn, in a session with earlier diagrams, and the references between
its elements are sound. -/
theorem structureBlocks_integrity_moveAction :
    ∃ blocks, (structureBlocks Config.rational { actionGroups := 1, counters := [("fuel", 2)] }
        (.domain { name := "transport", actions := [moveAction] })).2 = .ok blocks ∧
      blockElements blocks = (blocks.map Block.elements).flatten ∧
      List.Forall₂ IsAbout (blocks.map Block.elements) [("action", "move")] := by
  obtain ⟨blocks, h⟩ : ∃ blocks,
      (structureBlocks Config.rational { actionGroups := 1, counters := [("fuel", 2)] }
        (.domain { name := "transport", actions := [moveAction] })).2 = .ok blocks :=
    exists_of_isOk (by decide +kernel)
  exact ⟨blocks, h, structureBlocks_integrity h⟩

end PlanDiagram.Diagram
