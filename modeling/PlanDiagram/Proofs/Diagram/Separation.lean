import PlanDiagram.Proofs.Diagram.Parallel.ProblemBlock

/-!
# Blocks drawn in one session

The diagrams that are drawn in one session, one after another, have groups with different
identifiers, since the session numbers the groups throughout. The identifiers of the elements extend
that of their group, after a hyphen. So blocks have identifiers in common only if the name of one
action or problem goes on where the identifier of another group ends: behind the other name it has a
hyphen and a digit. Main statement: the blocks have no identifier in common if no name does this to
another. One that does can make the identifier of an element equal to that of another group.
-/

namespace PlanDiagram.Diagram

variable {α : Type}

/-- Characters are not replaced twice. -/
theorem sanitize_sanitize (id : String) : sanitize (sanitize id) = sanitize id := by
  have hkeep (c : Char) : sanitizeChar (sanitizeChar c) = sanitizeChar c := by
    simp only [sanitizeChar]
    split <;> simp_all
  rw [← String.toList_inj, toList_sanitize, toList_sanitize, List.map_map]
  exact List.map_congr_left fun c _ => hkeep c

/-- What a block shows: an action or a problem. -/
inductive BlockKind where
  | action
  | problem
deriving DecidableEq

/-- How many blocks of a kind a session has counted. -/
def Session.count (s : Session) : BlockKind → Nat
  | .action => s.actionGroups
  | .problem => s.problemGroups

/-- What the identifier of a group begins with. -/
def BlockKind.stem : BlockKind → String
  | .action => "group-"
  | .problem => "problem-"

/-- The label of a block: its kind, the name of the action or problem, and the number of the
group. -/
structure BlockLabel where
  kind : BlockKind
  name : String
  number : Nat

/-- The identifier of the group under a label. -/
def BlockLabel.group (l : BlockLabel) : String :=
  sanitize (l.kind.stem ++ l.name ++ "-" ++ toString l.number)

/-- The identifier of a group up to the number. -/
def BlockLabel.front (l : BlockLabel) : List Char :=
  (sanitize (l.kind.stem ++ l.name)).toList

theorem BlockLabel.toList_group (l : BlockLabel) :
    l.group.toList = l.front ++ '-' :: Nat.toDigits 10 l.number := by
  rw [group, front, sanitize_append, sanitize_append _ "-", sanitize_hyphen, sanitize_toString]
  simp

/-- The name of one action or problem goes on with a hyphen and a digit behind the name of another
one of the same kind, once they are sanitized. -/
def Imitates (s t : BlockKind × String) : Prop :=
  s.1 = t.1 ∧
    ∃ digit ∈ Family.digits, (sanitize t.2).toList ++ ['-', digit] <+: (sanitize s.2).toList

instance (s t : BlockKind × String) : Decidable (Imitates s t) :=
  @instDecidableAnd _ _ (inferInstanceAs (Decidable (_ = _))) (List.decidableBEx _ _)

namespace BlockLabel

variable {l m : BlockLabel}

/-- The identifiers of groups begin according to their kind. -/
theorem front_eq (l : BlockLabel) : l.front = l.kind.stem.toList ++ (sanitize l.name).toList := by
  have hstem : sanitize l.kind.stem = l.kind.stem := by
    cases l.kind <;> decide
  rw [front, sanitize_append, hstem, String.toList_append]

/-- A kind is told from what an identifier begins with. -/
theorem kind_eq_of_front {rest : List Char} (h : m.front ++ rest <+: l.front) :
    m.kind = l.kind := by
  rw [front_eq, front_eq] at h
  obtain ⟨others, h⟩ := h
  have hhead := congrArg List.head? h
  cases hm : m.kind <;> cases hl : l.kind
  · rfl
  · rw [hm, hl] at hhead
    simp [BlockKind.stem] at hhead
  · rw [hm, hl] at hhead
    simp [BlockKind.stem] at hhead
  · rfl

/-- The identifier of a group tells the kind and the number. -/
theorem eq_of_group_eq (h : l.group = m.group) : l.kind = m.kind ∧ l.number = m.number := by
  have hlist := congrArg String.toList h
  rw [toList_group, toList_group] at hlist
  have hnumber : l.number = m.number := by
    have hl : (Family.trailing "").Spells l.number (l.front ++ '-' :: Nat.toDigits 10 l.number) :=
      ⟨l.front, by simp⟩
    have hm : (Family.trailing "").Spells m.number (l.front ++ '-' :: Nat.toDigits 10 l.number) :=
      ⟨m.front, by simp [hlist]⟩
    exact hl.number_unique hm
  rw [hnumber] at hlist
  have hfront : l.front ++ [] <+: m.front := by
    simp [List.append_cancel_right hlist]
  exact ⟨kind_eq_of_front hfront, hnumber⟩

/-- What goes on behind the identifier of a group, with a hyphen, is the front of another identifier
at first, since no hyphen follows that. -/
theorem prefix_front {start : List Char}
    (h : start ++ ['-'] <+: l.group.toList) : start <+: l.front := by
  rw [toList_group] at h
  have hsplit : l.front ++ '-' :: Nat.toDigits 10 l.number =
      (l.front ++ ['-']) ++ Nat.toDigits 10 l.number := by
    simp
  rw [hsplit] at h
  rcases List.prefix_or_prefix_of_prefix h (List.prefix_append _ _) with hprefix | hprefix
  · rcases List.prefix_concat_iff.mp hprefix with heq | hprefix
    · exact List.append_cancel_right heq ▸ List.prefix_rfl
    · exact (List.prefix_append _ _).trans hprefix
  · -- otherwise the hyphen is among the digits of the number
    obtain ⟨rest, hrest⟩ := hprefix
    rw [← hrest, List.prefix_append_right_inj] at h
    rcases List.eq_nil_or_concat rest with rfl | ⟨others, last, rfl⟩
    · rw [List.append_nil] at hrest
      exact List.append_cancel_right hrest ▸ List.prefix_rfl
    · rw [List.concat_eq_append, ← List.append_assoc] at hrest
      obtain ⟨-, hlast⟩ := List.append_inj' hrest rfl
      obtain rfl : last = '-' := (List.cons.inj hlast).1
      have hmem : '-' ∈ Nat.toDigits 10 l.number := h.subset (by simp)
      exact absurd (Family.isDigit_of_mem hmem) (by decide)

/-- The identifier of a group, with a hyphen behind it, is the beginning of the identifier of
another group only if a name goes on behind another one. -/
theorem imitates_of_prefix (h : m.group.toList ++ ['-'] <+: l.group.toList) :
    Imitates (l.kind, l.name) (m.kind, m.name) := by
  have hfront := prefix_front h
  rw [toList_group] at hfront
  obtain hkind := kind_eq_of_front hfront
  cases hdigits : Nat.toDigits 10 m.number with
  | nil => exact absurd hdigits Nat.toDigits_ne_nil
  | cons digit others =>
    have hdigit : digit.isDigit = true := Family.isDigit_of_mem (hdigits ▸ List.mem_cons_self)
    refine ⟨hkind.symm, digit, Family.mem_digits hdigit, ?_⟩
    rw [hdigits, front_eq, front_eq, hkind, List.append_assoc,
      List.prefix_append_right_inj] at hfront
    exact List.IsPrefix.trans (by simp) hfront

end BlockLabel

/-- The identifiers of a block: that of its group, and others that go on behind it with a hyphen. -/
def Block.Under (block : Block α) (group : String) : Prop :=
  ∃ members, block.ids = group :: members ∧ ∀ id ∈ members, group.toList ++ ['-'] <+: id.toList

/-- An identifier in a block is that of the group up to a hyphen. -/
theorem Block.Under.prefix_of_mem {block : Block α} {group id : String} (h : block.Under group)
    (hid : id ∈ block.ids) : group.toList ++ ['-'] <+: id.toList ++ ['-'] := by
  obtain ⟨members, hids, hmembers⟩ := h
  rw [hids] at hid
  rcases List.mem_cons.mp hid with rfl | hid
  · exact List.prefix_rfl
  · exact (hmembers id hid).trans (List.prefix_append _ _)

/-- Blocks with different groups have no identifier in common, unless a name goes on behind
another. -/
theorem Block.Under.disjoint {b c : Block α} {l m : BlockLabel} (hb : b.Under l.group)
    (hc : c.Under m.group) (hne : l.group ≠ m.group)
    (hl : ¬ Imitates (l.kind, l.name) (m.kind, m.name))
    (hm : ¬ Imitates (m.kind, m.name) (l.kind, l.name)) : b.ids.Disjoint c.ids := by
  intro id hid hid'
  rcases List.prefix_or_prefix_of_prefix (hb.prefix_of_mem hid) (hc.prefix_of_mem hid') with h | h
  · rcases List.prefix_concat_iff.mp h with heq | h
    · exact hne (String.toList_inj.mp (List.append_cancel_right heq))
    · exact hm (BlockLabel.imitates_of_prefix h)
  · rcases List.prefix_concat_iff.mp h with heq | h
    · exact hne (String.toList_inj.mp (List.append_cancel_right heq)).symm
    · exact hl (BlockLabel.imitates_of_prefix h)

/-- The blocks that are drawn between two states of a session: they stand under labels whose names
are among the given ones, and whose numbers the session counts in between. -/
structure Labelled (s s' : Session) (names : List (BlockKind × String)) (blocks : List (Block α))
    (labels : List BlockLabel) : Prop where
  le : ∀ kind, s.count kind ≤ s'.count kind
  under : List.Forall₂ (fun b l => b.Under l.group) blocks labels
  numbers : labels.Pairwise fun l m => l.kind = m.kind → l.number < m.number
  bounds : ∀ l ∈ labels, s.count l.kind ≤ l.number ∧ l.number < s'.count l.kind
  names : ∀ l ∈ labels, (l.kind, l.name) ∈ names

namespace Labelled

variable {s s' s'' : Session} {names names' : List (BlockKind × String)}
  {blocks blocks' : List (Block α)} {labels labels' : List BlockLabel}

/-- Drawing nothing. -/
theorem nil (h : ∀ kind, s.count kind ≤ s'.count kind) :
    Labelled s s' names ([] : List (Block α)) [] :=
  ⟨h, .nil, .nil, by simp, by simp⟩

/-- Drawing in turn. -/
theorem append (h : Labelled s s' names blocks labels)
    (h' : Labelled s' s'' names' blocks' labels') :
    Labelled s s'' (names ++ names') (blocks ++ blocks') (labels ++ labels') := by
  refine ⟨fun kind => Nat.le_trans (h.le kind) (h'.le kind), List.rel_append h.under h'.under,
    ?_, ?_, ?_⟩
  · refine List.pairwise_append.mpr ⟨h.numbers, h'.numbers, fun l hl m hm hkind => ?_⟩
    have hlater := (h'.bounds m hm).1
    rw [← hkind] at hlater
    exact Nat.lt_of_lt_of_le (h.bounds l hl).2 hlater
  · intro l hl
    rcases List.mem_append.mp hl with hl | hl
    · exact ⟨(h.bounds l hl).1, Nat.lt_of_lt_of_le (h.bounds l hl).2 (h'.le l.kind)⟩
    · exact ⟨Nat.le_trans (h.le l.kind) (h'.bounds l hl).1, (h'.bounds l hl).2⟩
  · intro l hl
    rcases List.mem_append.mp hl with hl | hl
    · exact List.mem_append_left _ (h.names l hl)
    · exact List.mem_append_right _ (h'.names l hl)

/-- Labels under which different blocks stand give different groups. -/
theorem pairwise_ne (h : Labelled s s' names blocks labels) :
    labels.Pairwise fun l m => l.group ≠ m.group :=
  h.numbers.imp fun hlt heq => by
    obtain ⟨hkind, hnumber⟩ := BlockLabel.eq_of_group_eq heq
    exact Nat.ne_of_lt (hlt hkind) hnumber

end Labelled

/-- What holds of labels pair by pair holds of the blocks that stand under them. -/
theorem pairwise_of_forall₂ {β γ : Type} {R : β → γ → Prop} {P : γ → γ → Prop} {Q : β → β → Prop}
    {bs : List β} {cs : List γ} (h : List.Forall₂ R bs cs) (hP : cs.Pairwise P)
    (hQ : ∀ {b b' c c'}, R b c → R b' c' → c ∈ cs → c' ∈ cs → P c c' → Q b b') :
    bs.Pairwise Q := by
  obtain ⟨hlength, hget⟩ := List.forall₂_iff_get.mp h
  rw [List.pairwise_iff_getElem] at hP ⊢
  intro i j hi hj hij
  have hi' : i < cs.length := hlength ▸ hi
  have hj' : j < cs.length := hlength ▸ hj
  exact hQ (hget i hi hi') (hget j hj hj') (List.getElem_mem hi') (List.getElem_mem hj')
    (hP i j hi' hj' hij)

/-- A drawing that is run leaves the counts of groups alone. -/
theorem Draw.count_of_run (session : Session) (group : String) (bottom : α)
    {draw : Draw α (Block α)} (hparallel : ∀ p, Parallel p (fun _ b c => b.Matches c) draw draw)
    (kind : BlockKind) :
    (Draw.run session group bottom draw).1.count kind = session.count kind := by
  -- the drawing is compared with itself, only to see what it does to the session
  have halike := hparallel _ { canvas := { group, bottom }, session }
    { canvas := { group, bottom }, session } (.refl _) ⟨rfl, fun _ => .nil, fun _ => .nil⟩
  unfold Draw.run
  cases hdraw : draw { canvas := { group, bottom }, session } with
  | error fault => rfl
  | ok result =>
    rw [hdraw] at halike
    cases halike with
    | drawn hgrows _ _ _ =>
      cases kind
      · exact hgrows.actionGroups_eq
      · exact hgrows.problemGroups_eq

/-- What has been drawn on an empty canvas stands under its group. -/
theorem Step.under {tickets : List (String × Family)} {families : List Family}
    {told : List (String × String)} {d d' : Drawing α} (h : Step tickets families told d d')
    (helements : d.canvas.elements = []) (hgroup : sanitize d.canvas.group = d.canvas.group)
    {description : String} {data : List (String × Value)} {block : Block α}
    (hblock : block.elements = d'.canvas.finish description data) :
    block.Under d.canvas.group := by
  obtain ⟨new, hnew, hnames⟩ := h.exists_new
  rw [helements, List.nil_append] at hnew
  refine ⟨new.map Element.id, ?_, fun id hid => ?_⟩
  · rw [Block.ids, hblock, Canvas.finish, hnew, List.map_cons, Element.id, h.group_eq]
  · obtain ⟨e, he, rfl⟩ := List.mem_map.mp hid
    obtain ⟨f, -, n, tail, htail, -⟩ := hnames e he
    rw [htail, hgroup]
    exact ⟨tail, by simp⟩

/-- The label of the block of an action or problem that is drawn next. -/
def Session.label (s : Session) (subject : BlockKind × String) : BlockLabel :=
  ⟨subject.1, subject.2, s.count subject.1⟩

/-- A block that is drawn under the next label, if it is. -/
theorem labelled_of_run (s s₁ : Session) (subject : BlockKind × String) {bottom : α}
    {draw : Draw α (Block α)}
    (hparallel : ∀ p, Draw.Parallel p (fun _ b c => b.Matches c) draw draw)
    (hnext : ∀ kind, s₁.count kind = s.count kind + if kind = subject.1 then 1 else 0)
    (hunder : ∀ {block}, (Draw.run s₁ (s.label subject).group bottom draw).2 = .ok block →
      block.Under (s.label subject).group) :
    ∃ labels, Labelled s (Draw.run s₁ (s.label subject).group bottom draw).1 [subject]
      (Draw.run s₁ (s.label subject).group bottom draw).2.toOption.toList labels := by
  have hcount := Draw.count_of_run s₁ (s.label subject).group bottom hparallel
  have hle (kind : BlockKind) :
      s.count kind ≤ (Draw.run s₁ (s.label subject).group bottom draw).1.count kind := by
    rw [hcount, hnext]
    exact Nat.le_add_right _ _
  cases hrun : (Draw.run s₁ (s.label subject).group bottom draw).2 with
  | error fault => exact ⟨[], .nil hle⟩
  | ok block =>
    refine ⟨[s.label subject], hle, .cons (hunder hrun) .nil, List.pairwise_singleton _ _, ?_, ?_⟩
    · intro l hl
      rw [List.mem_singleton] at hl
      subst hl
      refine ⟨Nat.le_refl _, ?_⟩
      have hkind : (s.label subject).kind = subject.1 := rfl
      rw [hcount, hnext, if_pos hkind]
      exact Nat.lt_succ_self _
    · intro l hl
      rw [List.mem_singleton] at hl
      subst hl
      exact List.mem_singleton_self _

variable [Add α] [Sub α] [Mul α] [LT α] [DecidableLT α] [Scalar α]

/-- The block of an action stands under the next label. -/
theorem labelled_actionBlock (cfg : Config α) (s : Session) (action : Action) (x y : α) :
    ∃ labels, Labelled s (actionBlock cfg s action x y).1 [(.action, action.name)]
      (actionBlock cfg s action x y).2.toOption.toList labels := by
  refine labelled_of_run s s.nextActionGroup.2 (.action, action.name)
    (fun p => ActionBlock.draw_parallel cfg p action x y) ?_ fun h => ?_
  · intro kind
    cases kind <;> rfl
  · obtain ⟨d', hdraw⟩ := Draw.exists_of_run h
    obtain ⟨hstep, description, helements⟩ := ActionBlock.draw_step hdraw rfl rfl
    exact hstep.under rfl (sanitize_sanitize _) helements

/-- The block of a problem stands under the next label. -/
theorem labelled_problemBlock (cfg : Config α) (s : Session) (problem : Problem) (x y : α) :
    ∃ labels, Labelled s (problemBlock cfg s problem x y).1
      [(.problem, ProblemBlock.shownName problem)]
      (problemBlock cfg s problem x y).2.toOption.toList labels := by
  refine labelled_of_run s s.nextProblemGroup.2 (.problem, ProblemBlock.shownName problem)
    (fun p => ProblemBlock.draw_parallel p cfg problem x y) ?_ fun h => ?_
  · intro kind
    cases kind <;> rfl
  · obtain ⟨d', hdraw⟩ := Draw.exists_of_run h
    obtain ⟨hstep, description, helements⟩ := ProblemBlock.draw_step hdraw rfl rfl
    exact hstep.under rfl (sanitize_sanitize _) helements

/-- The blocks of actions stand under the next labels. -/
theorem labelled_actionBlocks (cfg : Config α) (s : Session) (x : α) (actions : List Action) :
    ∃ labels, Labelled s (actionBlocks cfg s x actions).1
      (actions.map fun action => (.action, action.name))
      ((actionBlocks cfg s x actions).2.toOption.getD []) labels := by
  induction actions generalizing s x with
  | nil => exact ⟨[], .nil fun _ => Nat.le_refl _⟩
  | cons action rest ih =>
    obtain ⟨labels, hlabels⟩ := labelled_actionBlock cfg s action x cfg.startY
    simp only [actionBlocks]
    generalize actionBlock cfg s action x cfg.startY = r at hlabels
    obtain ⟨s₁, result⟩ := r
    cases result with
    | error fault => exact ⟨[], .nil hlabels.le⟩
    | ok block =>
      obtain ⟨others, hothers⟩ := ih s₁ (x + (block.width + cfg.spacingX))
      have hall := hlabels.append hothers
      dsimp only
      generalize actionBlocks cfg s₁ (x + (block.width + cfg.spacingX)) rest = r at hall
      obtain ⟨s₂, blocks⟩ := r
      cases blocks with
      | error fault => exact ⟨[], .nil hall.le⟩
      | ok blocks => exact ⟨_, hall⟩

/-- The actions of a domain, or a problem, by kind and name. -/
def structureNames : Structure → List (BlockKind × String)
  | .domain domain => domain.actions.map fun action => (.action, action.name)
  | .problem problem => [(.problem, ProblemBlock.shownName problem)]

/-- The blocks of a diagram stand under the next labels. -/
theorem labelled_structureBlocks (cfg : Config α) (session : Session) (s : Structure) :
    ∃ labels, Labelled session (structureBlocks cfg session s).1 (structureNames s)
      ((structureBlocks cfg session s).2.toOption.getD []) labels := by
  cases s with
  | domain domain => exact labelled_actionBlocks cfg session cfg.startX domain.actions
  | problem problem =>
    obtain ⟨labels, hlabels⟩ := labelled_problemBlock cfg session problem cfg.startX cfg.startY
    simp only [structureBlocks, structureNames]
    generalize problemBlock cfg session problem cfg.startX cfg.startY = r at hlabels ⊢
    obtain ⟨session', result⟩ := r
    cases result <;> exact ⟨labels, hlabels⟩

/-- The blocks of diagrams that are drawn one after another in a session; one that cannot be drawn
has no blocks. -/
def drawnBlocks (session : Session) : List (Config α × Structure) → List (Block α)
  | [] => []
  | (cfg, s) :: rest =>
    let (session, blocks) := structureBlocks cfg session s
    blocks.toOption.getD [] ++ drawnBlocks session rest

/-- The blocks that are drawn one after another stand under labels with increasing numbers. -/
theorem labelled_drawnBlocks (session : Session) (diagrams : List (Config α × Structure)) :
    ∃ session' labels, Labelled session session'
      (diagrams.flatMap fun diagram => structureNames diagram.2) (drawnBlocks session diagrams)
      labels := by
  induction diagrams generalizing session with
  | nil => exact ⟨session, [], .nil fun _ => Nat.le_refl _⟩
  | cons diagram rest ih =>
    obtain ⟨cfg, s⟩ := diagram
    obtain ⟨labels, hlabels⟩ := labelled_structureBlocks cfg session s
    obtain ⟨session', others, hothers⟩ := ih (structureBlocks cfg session s).1
    exact ⟨session', _, hlabels.append hothers⟩

/-- The blocks that are drawn in one session, one diagram after another, have groups with different
identifiers. They have no identifiers in common if no name of an action or problem goes on with a
hyphen and a digit behind the name of another one of the same kind. -/
theorem drawnBlocks_separate (session : Session) (diagrams : List (Config α × Structure)) :
    (drawnBlocks session diagrams).Pairwise (fun b c => b.ids.head? ≠ c.ids.head?) ∧
    ((∀ s ∈ diagrams.flatMap fun diagram => structureNames diagram.2,
        ∀ t ∈ diagrams.flatMap fun diagram => structureNames diagram.2, ¬ Imitates s t) →
      (drawnBlocks session diagrams).Pairwise fun b c => b.ids.Disjoint c.ids) := by
  obtain ⟨session', labels, hlabels⟩ := labelled_drawnBlocks session diagrams
  constructor
  · refine pairwise_of_forall₂ hlabels.under hlabels.pairwise_ne fun hb hc _ _ hne => ?_
    obtain ⟨members, hids, -⟩ := hb
    obtain ⟨members', hids', -⟩ := hc
    rw [hids, hids', List.head?_cons, List.head?_cons]
    exact fun heq => hne (Option.some.inj heq)
  · intro hnames
    refine pairwise_of_forall₂ hlabels.under hlabels.pairwise_ne fun hb hc hl hm hne => ?_
    have hl := hlabels.names _ hl
    have hm := hlabels.names _ hm
    exact hb.disjoint hc hne (hnames _ hl _ hm) (hnames _ hm _ hl)

/-- A problem with one object, whose name ends in a number. -/
def deliveryProblem : Problem where
  name := "delivery-2"
  objects := [{ name := "truck-1" }]
  init := [.predicate "ready" [.parameter "truck-1" .null]]
  goal := some (.predicate "delivered" [.parameter "truck-1" .null])

/-- A domain that is drawn twice and a problem have no identifiers in common. -/
theorem drawnBlocks_separate_moveAction :
    (drawnBlocks {} [
      (Config.rational, .domain { name := "transport", actions := [moveAction] }),
      (Config.rational, .problem deliveryProblem),
      (Config.rational, .domain { name := "transport", actions := [moveAction] })]).Pairwise
        fun b c => b.ids.Disjoint c.ids := by
  have hnames : ∀ s ∈ [(BlockKind.action, "move"), (.problem, "delivery-2"), (.action, "move")],
      ∀ t ∈ [(BlockKind.action, "move"), (.problem, "delivery-2"), (.action, "move")],
        ¬ Imitates s t := by
    decide
  exact (drawnBlocks_separate {} _).2 hnames

/-- A domain with two actions. The name of the second goes on behind that of the first with what
follows in the identifier of its parameter. -/
def imitatingDomain : Domain where
  name := "d"
  actions := [
    { name := "a", parameters := [{ name := "x-1" }] },
    { name := "a-0-param-0-x" }]

/-- In a new session the parameter of one action gets the identifier of the group of another. -/
theorem drawnBlocks_not_disjoint_imitatingDomain :
    ¬ (drawnBlocks {} [(Config.rational, .domain imitatingDomain)]).Pairwise
      fun b c => b.ids.Disjoint c.ids := by
  intro h
  have hshared : ¬ (drawnBlocks {} [(Config.rational, .domain imitatingDomain)]).Pairwise
      fun b c => ∀ id ∈ b.ids, id ∉ c.ids := by
    decide +kernel
  exact hshared (h.imp fun hdisjoint id hid hid' => hdisjoint hid hid')

end PlanDiagram.Diagram
