import Mathlib.Data.Set.Function
import PlanDiagram.Proofs.Diagram.Separation

/-!
# Diagrams up to renaming

The session from which a block is drawn shows only in its identifiers. Main statement: from any two
sessions the same fault arises or the blocks differ by a one-to-one renaming of identifiers; all
blocks of a diagram are renamed at once if they have no identifiers in common. That proviso is
needed, since an element of one action can get the identifier of the group of another.
-/

namespace PlanDiagram.Diagram

variable {α β γ β' γ' : Type}

/-- An entry of a group under a renaming: a reference to a description is renamed. -/
def renameEntry (ρ : String → String) : String × Value → String × Value
  | (key, .text id) => (key, .text (if key ∈ descriptionKeys.map Prod.fst then ρ id else id))
  | (key, value) => (key, value)

/-- A box under a renaming. -/
def Box.rename (ρ : String → String) (b : Box α) : Box α :=
  { b with id := ρ b.id }

/-- An element under a renaming: its identifier, those of its group and of its members, those of the
boxes that it connects, and those of the descriptions to which it refers. -/
def Element.rename (ρ : String → String) : Element α → Element α
  | .node n => .node { n with box := n.box.rename ρ, group := ρ n.group }
  | .arrow a => .arrow { a with
      id := ρ a.id, source := a.source.rename ρ, target := a.target.rename ρ
      group := a.group.map ρ }
  | .group g => .group { g with
      id := ρ g.id, members := g.members.map ρ, data := g.data.map (renameEntry ρ) }

/-- A block under a renaming. -/
def Block.rename (ρ : String → String) (b : Block α) : Block α :=
  { b with elements := b.elements.map (Element.rename ρ) }

@[simp] theorem Element.id_rename (ρ : String → String) (e : Element α) :
    (e.rename ρ).id = ρ e.id := by
  cases e <;> rfl

@[simp] theorem Block.ids_rename (ρ : String → String) (b : Block α) :
    (b.rename ρ).ids = b.ids.map ρ := by
  simp [Block.ids, Block.rename, Function.comp_def]

section

variable {p : Pairing} {ρ : String → String}

/-- Where identifiers are renamed in order, each goes to the one at its place. -/
theorem Pairing.Pairs.eq_of_map_eq (hp : p.Distinct) (hρ : p.first.map ρ = p.second) {a b : String}
    (h : p.Pairs a b) : b = ρ a := by
  obtain ⟨place, ha, hb⟩ := h hp
  rw [← hρ, List.getElem?_map, ha] at hb
  exact (Option.some.inj hb).symm

/-- Lists that are related entry by entry through a function are mapped to one another. -/
theorem eq_map_of_forall₂ {R : β → γ → Prop} {f : β → γ} (hR : ∀ {b c}, R b c → c = f b)
    {bs : List β} {cs : List γ} (h : List.Forall₂ R bs cs) : cs = bs.map f := by
  induction h with
  | nil => rfl
  | cons hbc _ ih => rw [List.map_cons, ← hR hbc, ih]

theorem Box.Matches.eq_rename (hp : p.Distinct) (hρ : p.first.map ρ = p.second) {b c : Box α}
    (h : b.Matches p c) : c = b.rename ρ := by
  rw [h.2, h.1.eq_of_map_eq hp hρ]
  rfl

theorem EntryMatches.eq_rename (hp : p.Distinct) (hρ : p.first.map ρ = p.second)
    {a b : String × Value} (h : EntryMatches p a b) : b = renameEntry ρ a := by
  cases h with
  | same value hkey =>
    cases value with
    | text id => simp [renameEntry, if_neg hkey]
    | _ => rfl
  | description hkey hid => simp [renameEntry, if_pos hkey, hid.eq_of_map_eq hp hρ]

theorem Element.Matches.eq_rename (hp : p.Distinct) (hρ : p.first.map ρ = p.second)
    {e e' : Element α} (h : e.Matches p e') : e' = e.rename ρ := by
  cases h with
  | node hbox hgroup heq =>
    rw [heq, hbox.eq_rename hp hρ, hgroup.eq_of_map_eq hp hρ]
    rfl
  | @arrow a a' hid hsource htarget hgroup heq =>
    have hgroup : a'.group = a.group.map ρ := by
      generalize a.group = g?, a'.group = g?' at hgroup
      cases hgroup with
      | none => rfl
      | some hgroup => rw [hgroup.eq_of_map_eq hp hρ]; rfl
    rw [heq, hid.eq_of_map_eq hp hρ, hsource.eq_rename hp hρ, htarget.eq_rename hp hρ, hgroup]
    rfl
  | group hid hmembers hdata heq =>
    rw [heq, hid.eq_of_map_eq hp hρ,
      eq_map_of_forall₂ (fun hab => Pairing.Pairs.eq_of_map_eq hp hρ hab) hmembers,
      eq_map_of_forall₂ (fun hab => EntryMatches.eq_rename hp hρ hab) hdata]
    rfl

end

/-- One list of identifiers is renamed to another one of the same length. -/
theorem exists_map_eq {first second : List String} (hfirst : first.Nodup)
    (hlength : first.length = second.length) : ∃ ρ : String → String, first.map ρ = second := by
  refine ⟨fun id => (second[first.idxOf id]?).getD id, List.ext_getElem (by simpa) ?_⟩
  intro i hi hi'
  rw [List.length_map] at hi
  simp [hfirst.idxOf_getElem i hi, hi']

/-- Two blocks without repeated identifiers are the same up to these. Whatever renames the
identifiers in order renames the block. -/
structure Block.Mirrors (b c : Block α) : Prop where
  distinct : (Pairing.ofBlocks b c).Distinct
  length_eq : b.ids.length = c.ids.length
  eq_rename : ∀ ρ, b.ids.map ρ = c.ids → c = b.rename ρ

/-- A block is another one under a one-to-one renaming of its identifiers. -/
def Block.IsRenamed (b c : Block α) : Prop :=
  ∃ ρ, Set.InjOn ρ {id | id ∈ b.ids} ∧ c = b.rename ρ

/-- Blocks that match are the same up to identifiers. -/
theorem Block.Matches.mirrors {b c : Block α} (h : b.Matches c)
    (hdistinct : (Pairing.ofBlocks b c).Distinct) : b.Mirrors c := by
  have helements := h.elements hdistinct
  refine ⟨hdistinct, by simpa [Block.ids] using helements.length_eq, fun ρ hρ => ?_⟩
  have heq := eq_map_of_forall₂ (fun he => Element.Matches.eq_rename hdistinct hρ he) helements
  rw [Block.rename, ← heq, ← h.width_eq, ← h.height_eq, ← h.skipped_eq]

/-- A renaming that gives no identifier twice is one to one. -/
theorem injOn_of_map_eq {ρ : String → String} {first second : List String}
    (h : first.map ρ = second) (hsecond : second.Nodup) : Set.InjOn ρ {id | id ∈ first} :=
  fun _ ha _ hb heq => List.inj_on_of_nodup_map (h ▸ hsecond) ha hb heq

/-- Blocks that are the same up to identifiers are renamed one to one. -/
theorem Block.Mirrors.isRenamed {b c : Block α} (h : b.Mirrors c) : b.IsRenamed c := by
  obtain ⟨ρ, hρ⟩ := exists_map_eq h.distinct.1 h.length_eq
  exact ⟨ρ, injOn_of_map_eq hρ h.distinct.2, h.eq_rename ρ hρ⟩

/-- Two computations fail with the same fault, or give results that are related. -/
inductive Agree (R : β → γ → Prop) : Except Fault β → Except Fault γ → Prop
  | fault (fault : Fault) : Agree R (.error fault) (.error fault)
  | result {b : β} {c : γ} (h : R b c) : Agree R (.ok b) (.ok c)

/-- Results that are related may be converted on both sides. -/
theorem Agree.map {R : β → γ → Prop} {S : β' → γ' → Prop} {f : β → β'} {g : γ → γ'}
    {x : Except Fault β} {y : Except Fault γ} (h : Agree R x y)
    (hRS : ∀ {b c}, R b c → S (f b) (g c)) : Agree S (x.map f) (y.map g) := by
  cases h with
  | fault fault => exact .fault fault
  | result h => exact .result (hRS h)

theorem Agree.imp {R S : β → γ → Prop} (hRS : ∀ {b c}, R b c → S b c) {x : Except Fault β}
    {y : Except Fault γ} (h : Agree R x y) : Agree S x y := by
  cases h with
  | fault fault => exact .fault fault
  | result h => exact .result (hRS h)

/-- Drawings that are run in parallel from empty canvases agree, if no block repeats an
identifier. -/
theorem Draw.run_agree {session session' : Session} {group group' : String} {bottom : α}
    {draw draw' : Draw α (Block α)}
    (hparallel : ∀ p, Parallel p (fun _ b c => b.Matches c) draw draw')
    (hnodup : ∀ {b}, (Draw.run session group bottom draw).2 = .ok b → b.ids.Nodup)
    (hnodup' : ∀ {c}, (Draw.run session' group' bottom draw').2 = .ok c → c.ids.Nodup) :
    Agree Block.Mirrors (Draw.run session group bottom draw).2
      (Draw.run session' group' bottom draw').2 := by
  have halike := hparallel _ { canvas := { group, bottom }, session }
    { canvas := { group := group', bottom }, session := session' } (.refl _)
    ⟨rfl, fun _ => .nil, fun _ => .nil⟩
  unfold Draw.run at hnodup hnodup' ⊢
  generalize draw _ = r, draw' _ = r' at halike hnodup hnodup'
  cases halike with
  | fault fault => exact .fault fault
  | drawn _ _ _ hmatches => exact .result (hmatches.mirrors ⟨hnodup rfl, hnodup' rfl⟩)

/-- No identifier is repeated in what is about a subject. -/
theorem IsAbout.nodup {elements : List (Element α)} {subject : String × String}
    (h : IsAbout elements subject) : (elements.map Element.id).Nodup := by
  obtain ⟨g, members, rfl, hholds, -⟩ := h
  exact hholds.ids_nodup

variable [Add α] [Sub α] [Mul α] [LT α] [DecidableLT α] [Scalar α] (cfg : Config α)

/-- From two sessions the blocks of an action are the same up to identifiers. -/
theorem actionBlock_mirrors (session session' : Session) (action : Action) (x y : α) :
    Agree Block.Mirrors (actionBlock cfg session action x y).2
      (actionBlock cfg session' action x y).2 :=
  Draw.run_agree (fun p => ActionBlock.draw_parallel cfg p action x y)
    (fun h => (actionBlock_isAbout h).nodup)
    (fun h => (actionBlock_isAbout h).nodup)

/-- From two sessions the blocks of a problem are the same up to identifiers. -/
theorem problemBlock_mirrors (session session' : Session) (problem : Problem) (x y : α) :
    Agree Block.Mirrors (problemBlock cfg session problem x y).2
      (problemBlock cfg session' problem x y).2 :=
  Draw.run_agree (fun p => ProblemBlock.draw_parallel p cfg problem x y)
    (fun h => (problemBlock_isAbout h).nodup)
    (fun h => (problemBlock_isAbout h).nodup)

/-- From two sessions the blocks of actions are the same up to identifiers. -/
theorem actionBlocks_mirrors (session session' : Session) (x : α) (actions : List Action) :
    Agree (List.Forall₂ Block.Mirrors) (actionBlocks cfg session x actions).2
      (actionBlocks cfg session' x actions).2 := by
  induction actions generalizing session session' x with
  | nil => exact .result .nil
  | cons action rest ih =>
    have hblock := actionBlock_mirrors cfg session session' action x cfg.startY
    simp only [actionBlocks]
    generalize actionBlock cfg session action x cfg.startY = r,
      actionBlock cfg session' action x cfg.startY = r' at hblock
    obtain ⟨session, result⟩ := r
    obtain ⟨session', result'⟩ := r'
    cases hblock with
    | fault fault => exact .fault fault
    | @result b c hbc =>
      -- the blocks are equally wide, so the others start at the same place
      obtain ⟨ρ, -, rfl⟩ := hbc.isRenamed
      exact (ih session session' (x + (b.width + cfg.spacingX))).map fun hothers =>
        .cons hbc hothers

omit [Add α] [Sub α] [Mul α] [LT α] [DecidableLT α] [Scalar α] in
/-- What renames all identifiers in order renames every block. -/
theorem eq_map_rename {ρ : String → String} {bs cs : List (Block α)}
    (h : List.Forall₂ Block.Mirrors bs cs)
    (hρ : (bs.flatMap Block.ids).map ρ = cs.flatMap Block.ids) : cs = bs.map (Block.rename ρ) := by
  induction h with
  | nil => rfl
  | @cons b c bs cs hbc _ ih =>
    rw [List.flatMap_cons, List.flatMap_cons, List.map_append] at hρ
    obtain ⟨hfirst, hrest⟩ := List.append_inj hρ (by rw [List.length_map, hbc.length_eq])
    rw [List.map_cons, ← hbc.eq_rename ρ hfirst, ← ih hrest]

/-- The identifiers in blocks. -/
def blockIds (blocks : List (Block α)) : List String :=
  (blockElements blocks).map Element.id

omit [Add α] [Sub α] [Mul α] [LT α] [DecidableLT α] [Scalar α] in
theorem blockIds_eq (blocks : List (Block α)) : blockIds blocks = blocks.flatMap Block.ids :=
  List.map_flatMap ..

omit [Add α] [Sub α] [Mul α] [LT α] [DecidableLT α] [Scalar α] in
theorem blockIds_map_rename (ρ : String → String) (blocks : List (Block α)) :
    blockIds (blocks.map (Block.rename ρ)) = (blockIds blocks).map ρ := by
  simp [blockIds_eq, List.flatMap_map, List.map_flatMap]

/-- Blocks are the others under one renaming of all identifiers, which is one to one. -/
def RenamedTogether (bs cs : List (Block α)) : Prop :=
  ∃ ρ, Set.InjOn ρ {id | id ∈ blockIds bs} ∧ cs = bs.map (Block.rename ρ)

omit [Add α] [Sub α] [Mul α] [LT α] [DecidableLT α] [Scalar α] in
/-- Blocks that are the same up to identifiers are renamed together, if no identifier is repeated in
either list of blocks. -/
theorem renamedTogether_of_mirrors {bs cs : List (Block α)} (h : List.Forall₂ Block.Mirrors bs cs)
    (hbs : (blockIds bs).Nodup) (hcs : (blockIds cs).Nodup) : RenamedTogether bs cs := by
  have hlength : (blockIds bs).length = (blockIds cs).length := by
    rw [blockIds_eq, blockIds_eq]
    clear hbs hcs
    induction h with
    | nil => rfl
    | cons hbc _ ih => simp [ih, hbc.length_eq]
  obtain ⟨ρ, hρ⟩ := exists_map_eq hbs hlength
  refine ⟨ρ, injOn_of_map_eq hρ hcs, eq_map_rename h ?_⟩
  rwa [← blockIds_eq, ← blockIds_eq]

/-- The session does not show in a diagram but for the identifiers. From any two sessions the block
of an action or problem differs by a one-to-one renaming, wherever it is drawn, and so do the blocks
of a domain or problem, one by one, and all at once if no two of them share an identifier. -/
theorem session_renames (session session' : Session) :
    (∀ action x y, Agree Block.IsRenamed (actionBlock cfg session action x y).2
      (actionBlock cfg session' action x y).2) ∧
    (∀ problem x y, Agree Block.IsRenamed (problemBlock cfg session problem x y).2
      (problemBlock cfg session' problem x y).2) ∧
    (∀ s, Agree
      (fun bs cs => List.Forall₂ Block.IsRenamed bs cs ∧
        ((blockIds bs).Nodup → (blockIds cs).Nodup → RenamedTogether bs cs))
      (structureBlocks cfg session s).2 (structureBlocks cfg session' s).2) := by
  refine ⟨fun action x y => ?_, fun problem x y => ?_, fun s => ?_⟩
  · exact (actionBlock_mirrors cfg session session' action x y).imp fun h => h.isRenamed
  · exact (problemBlock_mirrors cfg session session' problem x y).imp fun h => h.isRenamed
  · have hblocks : Agree (List.Forall₂ Block.Mirrors) (structureBlocks cfg session s).2
        (structureBlocks cfg session' s).2 := by
      cases s with
      | domain domain => exact actionBlocks_mirrors cfg session session' cfg.startX domain.actions
      | problem problem =>
        have hblock := problemBlock_mirrors cfg session session' problem cfg.startX cfg.startY
        exact hblock.map fun hbc => .cons hbc .nil
    exact hblocks.imp fun h => ⟨h.imp fun _ _ hbc => hbc.isRenamed, renamedTogether_of_mirrors h⟩

/-- The blocks of a domain are renamed together between two sessions that keep them apart. -/
theorem session_renames_imitatingDomain :
    ∃ bs cs,
      (structureBlocks Config.rational { actionGroups := 2 } (.domain imitatingDomain)).2 = .ok bs ∧
      (structureBlocks Config.rational { actionGroups := 7 } (.domain imitatingDomain)).2 = .ok cs ∧
      RenamedTogether bs cs := by
  have hrenames := (session_renames Config.rational { actionGroups := 2 }
    { actionGroups := 7 }).2.2 (.domain imitatingDomain)
  have hdistinct (n : Nat) (hn : n = 2 ∨ n = 7) :
      ((structureBlocks Config.rational { actionGroups := n } (.domain imitatingDomain)).2.map
        fun bs => decide (blockIds bs).Nodup).toOption = some true := by
    rcases hn with rfl | rfl <;> decide +kernel
  have hbs := hdistinct 2 (.inl rfl)
  have hcs := hdistinct 7 (.inr rfl)
  generalize (structureBlocks Config.rational { actionGroups := 2 } _).2 = x at hrenames hbs ⊢
  generalize (structureBlocks Config.rational { actionGroups := 7 } _).2 = y at hrenames hcs ⊢
  cases hrenames with
  | fault => cases hbs
  | result h =>
    exact ⟨_, _, rfl, rfl, h.2 (of_decide_eq_true (Option.some.inj hbs))
      (of_decide_eq_true (Option.some.inj hcs))⟩

/-- The blocks of a domain are not renamed together when only one of two sessions makes an
identifier of one block equal to that of another. -/
theorem not_renamedTogether_imitatingDomain :
    ∃ bs cs, (structureBlocks Config.rational {} (.domain imitatingDomain)).2 = .ok bs ∧
      (structureBlocks Config.rational { actionGroups := 2 } (.domain imitatingDomain)).2 = .ok cs ∧
      ¬ RenamedTogether bs cs := by
  have hrepeated : ((structureBlocks Config.rational {} (.domain imitatingDomain)).2.map
      fun bs => decide (blockIds bs).Nodup).toOption = some false := by
    decide +kernel
  have hdistinct : ((structureBlocks Config.rational { actionGroups := 2 }
      (.domain imitatingDomain)).2.map fun cs => decide (blockIds cs).Nodup).toOption =
        some true := by
    decide +kernel
  generalize (structureBlocks Config.rational {} (.domain imitatingDomain)).2 = x at hrepeated ⊢
  generalize (structureBlocks Config.rational { actionGroups := 2 }
    (.domain imitatingDomain)).2 = y at hdistinct ⊢
  cases x with
  | error fault => cases hrepeated
  | ok bs =>
    cases y with
    | error fault => cases hdistinct
    | ok cs =>
      refine ⟨bs, cs, rfl, rfl, fun ⟨ρ, _, hcs⟩ => ?_⟩
      have hbs : ¬ (blockIds bs).Nodup := of_decide_eq_false (Option.some.inj hrepeated)
      have hcs' : (blockIds cs).Nodup := of_decide_eq_true (Option.some.inj hdistinct)
      rw [hcs, blockIds_map_rename] at hcs'
      exact hbs hcs'.of_map

end PlanDiagram.Diagram
