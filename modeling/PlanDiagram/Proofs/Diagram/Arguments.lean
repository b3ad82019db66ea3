import PlanDiagram.Proofs.Diagram.Connection
import PlanDiagram.Proofs.Diagram.Contents

/-!
# Arrows between nodes and the anchors of their arguments

The arguments of a literal or function ask for an arrow from the anchor of the first name, and for
arrows to the anchors of the other names. What is asked for by all that is drawn on one node is the
set of its arrows, apart from arrows of operators. Names without an anchor ask for nothing, but they
have their place among the names.
-/

namespace PlanDiagram

/-- The names among arguments. -/
def Formula.names (arguments : List Formula) : List String :=
  arguments.filterMap Formula.parameterName?

namespace Diagram

variable {α : Type}

/-- The pairs of nodes for which the names among the arguments on a node ask: from the anchor of the
first name to the node, and from the node to the anchors of the others. -/
def argumentArrow (anchors : List (String × Box α)) (node : Box α) (names : List String)
    (p : String × String) : Prop :=
  (∃ x anchor, names.head? = some x ∧ anchors.lookup x = some anchor ∧ p = (anchor.id, node.id)) ∨
    ∃ x anchor, x ∈ names.tail ∧ anchors.lookup x = some anchor ∧ p = (node.id, anchor.id)

/-- The pairs of nodes for which the arguments on several nodes ask. -/
def argumentArrows (anchors : List (String × Box α)) (drawn : List (Box α × String × List Formula))
    (p : String × String) : Prop :=
  ∃ node ∈ drawn, argumentArrow anchors node.1 (Formula.names node.2.2) p

/-- What is asked for on the first nodes, and on the others. -/
theorem argumentArrows_append {anchors : List (String × Box α)}
    {first others : List (Box α × String × List Formula)} {p : String × String} :
    argumentArrows anchors (first ++ others) p ↔
      argumentArrows anchors first p ∨ argumentArrows anchors others p := by
  simp only [argumentArrows, List.mem_append, or_and_right, exists_or]

namespace Draw

variable {cfg : Config α} {anchors : List (String × Box α)} {edgeId : String} {node : Box α}
  {families : List Family} {d d' : Drawing α}

/-- All names but the first ask for arrows to their anchors. -/
theorem connectNames_draws_later {names : List String} {place number : Nat}
    {result : Nat × List String}
    (hdraw : connectNames cfg anchors edgeId node (place + 1) number names d = .ok (result, d')) :
    Draws families [] (fun p => ∃ x anchor, x ∈ names ∧ anchors.lookup x = some anchor ∧
      p = (node.id, anchor.id)) d d' := by
  induction names generalizing d place number result with
  | nil =>
    obtain ⟨rfl, rfl⟩ := pure_ok_iff.mp hdraw
    exact (Draws.refl d).congr (by simp [noArrow])
  | cons x rest ih =>
    cases hanchor : anchors.lookup x with
    | none =>
      simp only [connectNames, hanchor] at hdraw
      obtain ⟨⟨next, skipped⟩, d₁, hrest, hdraw⟩ := bind_ok_iff.mp hdraw
      obtain ⟨rfl, rfl⟩ := pure_ok_iff.mp hdraw
      refine (ih hrest).congr fun p => ?_
      simp [hanchor]
    | some anchor =>
      have hplace : ¬ (place + 1 == 0) = true := by simp
      simp only [connectNames, hanchor, if_neg hplace] at hdraw
      obtain ⟨u, d₁, hedge, hrest⟩ := bind_ok_iff.mp hdraw
      refine ((edge_draws hedge).trans (ih hrest)).congr fun p => ?_
      simp [arrowsOf, hanchor]

/-- The arrows between a node and the anchors of its arguments. -/
theorem connectNames_draws {names : List String} {number : Nat} {result : Nat × List String}
    (hdraw : connectNames cfg anchors edgeId node 0 number names d = .ok (result, d')) :
    Draws families [] (argumentArrow anchors node names) d d' := by
  cases names with
  | nil =>
    obtain ⟨rfl, rfl⟩ := pure_ok_iff.mp hdraw
    exact (Draws.refl d).congr (by simp [noArrow, argumentArrow])
  | cons x rest =>
    cases hanchor : anchors.lookup x with
    | none =>
      simp only [connectNames, hanchor] at hdraw
      obtain ⟨⟨next, skipped⟩, d₁, hrest, hdraw⟩ := bind_ok_iff.mp hdraw
      obtain ⟨rfl, rfl⟩ := pure_ok_iff.mp hdraw
      refine (connectNames_draws_later hrest).congr fun p => ?_
      simp [argumentArrow, hanchor]
    | some anchor =>
      simp only [connectNames, hanchor, beq_self_eq_true, if_true] at hdraw
      obtain ⟨u, d₁, hedge, hrest⟩ := bind_ok_iff.mp hdraw
      refine ((edge_draws hedge).trans (connectNames_draws_later hrest)).congr fun p => ?_
      simp [arrowsOf, argumentArrow, hanchor]

/-- The arrows between nodes and the anchors of their arguments. -/
theorem connectAll_draws {drawn : List (Box α × String × List Formula)} {number : Nat}
    {result : Nat × List Skipped}
    (hdraw : connectAll cfg anchors edgeId number drawn d = .ok (result, d')) :
    Draws families [] (argumentArrows anchors drawn) d d' := by
  induction drawn generalizing d number result with
  | nil =>
    obtain ⟨rfl, rfl⟩ := pure_ok_iff.mp hdraw
    exact (Draws.refl d).congr (by simp [noArrow, argumentArrows])
  | cons first rest ih =>
    obtain ⟨node, owner, arguments⟩ := first
    obtain ⟨⟨next, skipped⟩, d₁, hnames, hdraw⟩ := bind_ok_iff.mp hdraw
    obtain ⟨⟨last, others⟩, d₂, hrest, hdraw⟩ := bind_ok_iff.mp hdraw
    obtain ⟨rfl, rfl⟩ := pure_ok_iff.mp hdraw
    refine ((connectNames_draws hnames).trans (ih hrest)).congr fun p => ?_
    simp [arrowsOf, argumentArrows, Formula.names]

end Draw

/-- The rectangle of the first of some parameters or objects that is declared with a name. -/
def anchor? (declared : List Parameter) (rectangles : List (Node α)) (x : String) :
    Option (Node α) :=
  ((declared.map Parameter.name).zip rectangles).lookup x

/-- The arrows at a node are those for which the arguments that are drawn on it ask. -/
structure ArgumentArrows (anchor? : String → Option (Node α)) (operators : List (Node α))
    (uses : List (List Formula)) (elements : List (Element α)) (e : Node α) : Prop where
  /-- An arrow leads from the anchor of a name to the node if the name is the first of a use. -/
  into_iff : ∀ x a, anchor? x = some a → ((a.box.id, e.box.id) ∈ connections elements ↔
    ∃ arguments ∈ uses, (Formula.names arguments).head? = some x)
  /-- An arrow leads from the node to the anchor of a name if the name is a later one of a use. -/
  outof_iff : ∀ x a, anchor? x = some a → ((e.box.id, a.box.id) ∈ connections elements ↔
    ∃ arguments ∈ uses, x ∈ (Formula.names arguments).tail)
  /-- There are no arrows to or from anything else but operators. -/
  other_end : ∀ id, (id, e.box.id) ∈ connections elements ∨ (e.box.id, id) ∈ connections elements →
    (∃ x a, anchor? x = some a ∧ id = a.box.id) ∨ ∃ o ∈ operators, id = o.box.id

/-- What is found under a key among boxes is the box of what is found among the nodes. -/
theorem lookup_zip_map_box (keys : List String) (ns : List (Node α)) (x : String) :
    (keys.zip (ns.map Node.box)).lookup x = ((keys.zip ns).lookup x).map Node.box := by
  induction keys generalizing ns with
  | nil => rfl
  | cons key keys ih =>
    cases ns with
    | nil => rfl
    | cons n ns =>
      simp only [List.map_cons, List.zip_cons_cons, List.lookup_cons, ih]
      cases x == key <;> rfl

/-- What is found under a key stands at the place of the key. -/
theorem exists_of_lookup_zip {β γ : Type} [BEq β] [LawfulBEq β] {keys : List β} {xs : List γ}
    {key : β} {x : γ} (h : (keys.zip xs).lookup key = some x) :
    ∃ i : Nat, keys[i]? = some key ∧ xs[i]? = some x := by
  obtain ⟨front, back, heq, -⟩ := List.lookup_eq_some_iff.mp h
  have hmem : (keys.zip xs)[front.length]? = some (key, x) := by simp [heq]
  rw [List.getElem?_zip_eq_some] at hmem
  exact ⟨front.length, hmem⟩

/-- What is found under a key among things with different keys is the thing with the key. -/
theorem lookup_zip_map_eq_some_iff {β γ : Type} [BEq β] [LawfulBEq β] {key : γ → β} {xs : List γ}
    (h : (xs.map key).Nodup) {k : β} {x : γ} :
    ((xs.map key).zip xs).lookup k = some x ↔ x ∈ xs ∧ key x = k := by
  constructor
  · intro hlookup
    obtain ⟨i, hkey, hx⟩ := exists_of_lookup_zip hlookup
    rw [List.getElem?_map, hx] at hkey
    exact ⟨List.mem_of_getElem? hx, Option.some.inj hkey⟩
  · rintro ⟨hx, rfl⟩
    induction xs with
    | nil => cases hx
    | cons first rest ih =>
      rw [List.map_cons, List.nodup_cons] at h
      rw [List.map_cons, List.zip_cons_cons, List.lookup_cons]
      rcases List.mem_cons.mp hx with rfl | hx
      · rw [beq_self_eq_true]
      · have hne : (key x == key first) = false := by
          rw [beq_eq_false_iff_ne]
          intro heq
          exact h.1 (heq ▸ List.mem_map_of_mem hx)
        rw [hne]
        exact ih h.2 hx

/-- Different names have different anchors. -/
theorem anchor?_injective {declared : List Parameter} {rectangles : List (Node α)}
    (h : rectangles.Nodup) {x y : String} {a : Node α}
    (hx : anchor? declared rectangles x = some a) (hy : anchor? declared rectangles y = some a) :
    x = y := by
  obtain ⟨i, hkey, hi⟩ := exists_of_lookup_zip hx
  obtain ⟨j, hkey', hj⟩ := exists_of_lookup_zip hy
  obtain rfl : i = j := by
    obtain ⟨hilt, -⟩ := List.getElem?_eq_some_iff.mp hi
    exact (List.getElem?_inj hilt h).mp (hi.trans hj.symm)
  exact Option.some.inj (hkey.symm.trans hkey')

/-- An anchor is one of the rectangles. -/
theorem mem_of_anchor? {declared : List Parameter} {rectangles : List (Node α)} {x : String}
    {a : Node α} (h : anchor? declared rectangles x = some a) : a ∈ rectangles := by
  obtain ⟨i, -, hi⟩ := exists_of_lookup_zip h
  exact List.mem_of_getElem? hi

/-- The wiring of a block: the rectangles of what is declared, in families `anchors`, and nodes of
families `users` on which arguments are drawn. All arrows that are not at operators are asked for by
arguments. -/
structure Wired (anchors operators users : List Family) (declared : List Parameter)
    (drawn : List (Box α × String × List Formula)) (elements : List (Element α)) : Prop where
  ids_nodup : (nodeIds elements).Nodup
  connections_nodup : (connections elements).Nodup
  rectangles : List.Forall₂ (fun p n => n.text = p.label ∧ n.box.shape = .rectangle) declared
    (nodesIn anchors elements)
  drawn_on : ∀ node ∈ drawn, ∃ n ∈ nodesIn users elements, n.box = node.1
  asked : ∀ p, argumentArrows
    ((declared.map Parameter.name).zip ((nodesIn anchors elements).map Node.box)) drawn p →
      p ∈ connections elements
  asked_or_operator : ∀ p ∈ connections elements, argumentArrows
    ((declared.map Parameter.name).zip ((nodesIn anchors elements).map Node.box)) drawn p ∨
      ∃ o ∈ nodesIn operators elements, p.1 = o.box.id ∨ p.2 = o.box.id

/-- A node does not belong to families that are apart. -/
theorem Family.covers_of_apart {f g : Family} {n : Node α} (h : f.covers n = true)
    (hapart : f.Apart g) : g.covers n = false := by
  obtain ⟨head, hhead, hprefix⟩ := List.any_eq_true.mp h
  refine List.any_eq_false.mpr fun other hother hprefix' => ?_
  obtain ⟨hnot, hnot'⟩ := hapart head hhead other hother
  rw [List.isPrefixOf_iff_prefix] at hprefix hprefix'
  rcases List.prefix_or_prefix_of_prefix hprefix hprefix' with h | h <;>
    rw [List.prefix_append_right_inj, List.cons_prefix_cons] at h
  · exact hnot h.2
  · exact hnot' h.2

/-- Nodes of families that are apart have different identifiers. -/
theorem id_ne_of_apart {fs gs : List Family} {elements : List (Element α)}
    (hids : (nodeIds elements).Nodup) (hapart : ∀ f ∈ fs, ∀ g ∈ gs, f.Apart g) {m n : Node α}
    (hm : m ∈ nodesIn fs elements) (hn : n ∈ nodesIn gs elements) : m.box.id ≠ n.box.id := by
  intro heq
  obtain ⟨hm, hcovers⟩ := List.mem_filter.mp hm
  obtain ⟨hn, hcovers'⟩ := List.mem_filter.mp hn
  obtain rfl := node_eq_of_id_eq hids hm hn heq
  obtain ⟨f, hf, hf'⟩ := List.any_eq_true.mp hcovers
  obtain ⟨g, hg, hg'⟩ := List.any_eq_true.mp hcovers'
  rw [Family.covers_of_apart hf' (hapart f hf g hg)] at hg'
  cases hg'

namespace Wired

variable {anchors operators users : List Family} {declared : List Parameter}
  {drawn : List (Box α × String × List Formula)} {elements : List (Element α)}

/-- The arrows of a block are those at operators and those for which arguments ask. -/
theorem of_connections_iff {atOperators : String × String → Prop}
    (hids : (nodeIds elements).Nodup) (hconnections : (connections elements).Nodup)
    (hrectangles : List.Forall₂ (fun p n => n.text = p.label ∧ n.box.shape = .rectangle) declared
      (nodesIn anchors elements))
    (hdrawn : ∀ node ∈ drawn, ∃ n ∈ nodesIn users elements, n.box = node.1)
    (hoperators : ∀ p, atOperators p →
      ∃ o ∈ nodesIn operators elements, p.1 = o.box.id ∨ p.2 = o.box.id)
    (hiff : ∀ p, p ∈ connections elements ↔ atOperators p ∨ Diagram.argumentArrows
      ((declared.map Parameter.name).zip ((nodesIn anchors elements).map Node.box)) drawn p) :
    Wired anchors operators users declared drawn elements where
  ids_nodup := hids
  connections_nodup := hconnections
  rectangles := hrectangles
  drawn_on := hdrawn
  asked p hp := (hiff p).mpr (.inr hp)
  asked_or_operator p hp := ((hiff p).mp hp).symm.imp_right (hoperators p)

/-- A group in front of the elements does not matter. -/
theorem cons_group (h : Wired anchors operators users declared drawn elements) (g : Group) :
    Wired anchors operators users declared drawn (.group g :: elements) :=
  ⟨h.ids_nodup, h.connections_nodup, h.rectangles, h.drawn_on, h.asked, h.asked_or_operator⟩

/-- An anchor of a name is what drawings find under the name. -/
theorem lookup_eq_some_iff {x : String} {box : Box α} :
    ((declared.map Parameter.name).zip ((nodesIn anchors elements).map Node.box)).lookup x =
        some box ↔ ∃ a, anchor? declared (nodesIn anchors elements) x = some a ∧ a.box = box := by
  rw [lookup_zip_map_box]
  exact Option.map_eq_some_iff

/-- An arrow is one from the anchor of a first name, one to the anchor of a later name, or one of an
operator. -/
theorem cases_of_connection (h : Wired anchors operators users declared drawn elements)
    {source target : String} (hp : (source, target) ∈ connections elements) :
    (∃ node ∈ drawn, ∃ x a, (Formula.names node.2.2).head? = some x ∧
      anchor? declared (nodesIn anchors elements) x = some a ∧
      source = a.box.id ∧ target = node.1.id) ∨
    (∃ node ∈ drawn, ∃ x a, x ∈ (Formula.names node.2.2).tail ∧
      anchor? declared (nodesIn anchors elements) x = some a ∧
      source = node.1.id ∧ target = a.box.id) ∨
    ∃ o ∈ nodesIn operators elements, source = o.box.id ∨ target = o.box.id := by
  rcases h.asked_or_operator _ hp with ⟨node, hnode, hasked⟩ | hoperator
  · rcases hasked with ⟨x, box, hx, hbox, heq⟩ | ⟨x, box, hx, hbox, heq⟩
    · obtain ⟨a, ha, rfl⟩ := lookup_eq_some_iff.mp hbox
      exact .inl ⟨node, hnode, x, a, hx, ha, Prod.mk.inj heq⟩
    · obtain ⟨a, ha, rfl⟩ := lookup_eq_some_iff.mp hbox
      exact .inr (.inl ⟨node, hnode, x, a, hx, ha, Prod.mk.inj heq⟩)
  · exact .inr (.inr hoperator)

/-- Anchors with the same identifier are those of one name. -/
theorem name_eq_of_id_eq (h : Wired anchors operators users declared drawn elements)
    {x y : String} {a b : Node α} (ha : anchor? declared (nodesIn anchors elements) x = some a)
    (hb : anchor? declared (nodesIn anchors elements) y = some b) (heq : a.box.id = b.box.id) :
    x = y := by
  have hnodup : (nodesIn anchors elements).Nodup :=
    (List.Nodup.of_map _ (nodeIds_eq_map elements ▸ h.ids_nodup)).filter _
  obtain rfl := node_eq_of_id_eq h.ids_nodup (mem_nodesOf_of_mem_nodesIn (mem_of_anchor? ha))
    (mem_nodesOf_of_mem_nodesIn (mem_of_anchor? hb)) heq
  exact anchor?_injective hnodup ha hb

/-- The arrows at a node are those for which the arguments drawn on it ask. -/
theorem argumentArrows (h : Wired anchors operators users declared drawn elements)
    (hanchors : ∀ f ∈ anchors, ∀ g ∈ operators ++ users, f.Apart g)
    (husers : ∀ f ∈ users, ∀ g ∈ operators, f.Apart g) {e : Node α}
    (he : e ∈ nodesIn users elements) {uses : List (List Formula)}
    (huses : ∀ arguments, arguments ∈ uses ↔
      ∃ node ∈ drawn, node.1.id = e.box.id ∧ node.2.2 = arguments) :
    ArgumentArrows (anchor? declared (nodesIn anchors elements)) (nodesIn operators elements) uses
      elements e := by
  -- anchors, operators and the nodes on which arguments are drawn are told apart
  have hanchor_user {x : String} {a n : Node α}
      (ha : anchor? declared (nodesIn anchors elements) x = some a)
      (hn : n ∈ nodesIn users elements) : a.box.id ≠ n.box.id :=
    id_ne_of_apart h.ids_nodup
      (fun f hf g hg => hanchors f hf g (List.mem_append_right _ hg)) (mem_of_anchor? ha) hn
  have hanchor_operator {x : String} {a o : Node α}
      (ha : anchor? declared (nodesIn anchors elements) x = some a)
      (ho : o ∈ nodesIn operators elements) : a.box.id ≠ o.box.id :=
    id_ne_of_apart h.ids_nodup
      (fun f hf g hg => hanchors f hf g (List.mem_append_left _ hg)) (mem_of_anchor? ha) ho
  have huser_operator {o : Node α} (ho : o ∈ nodesIn operators elements) :
      e.box.id ≠ o.box.id :=
    id_ne_of_apart h.ids_nodup husers he ho
  have hanchor_drawn {x : String} {a : Node α} {node : Box α × String × List Formula}
      (ha : anchor? declared (nodesIn anchors elements) x = some a) (hnode : node ∈ drawn) :
      a.box.id ≠ node.1.id := by
    obtain ⟨n, hn, hbox⟩ := h.drawn_on node hnode
    rw [← hbox]
    exact hanchor_user ha hn
  constructor
  · intro x a ha
    constructor
    · intro hp
      rcases h.cases_of_connection hp with ⟨node, hnode, y, b, hy, hb, hab, hid⟩ |
        ⟨node, hnode, y, b, -, hb, hab, hid⟩ | ⟨o, ho, hab | hid⟩
      · obtain rfl := h.name_eq_of_id_eq ha hb hab
        exact ⟨_, (huses _).mpr ⟨node, hnode, hid.symm, rfl⟩, hy⟩
      · exact absurd hab (hanchor_drawn ha hnode)
      · exact absurd hab (hanchor_operator ha ho)
      · exact absurd hid (huser_operator ho)
    · rintro ⟨arguments, harguments, hx⟩
      obtain ⟨node, hnode, hid, rfl⟩ := (huses arguments).mp harguments
      refine h.asked _ ⟨node, hnode, .inl ⟨x, a.box, hx, ?_, by rw [hid]⟩⟩
      exact lookup_eq_some_iff.mpr ⟨a, ha, rfl⟩
  · intro x a ha
    constructor
    · intro hp
      rcases h.cases_of_connection hp with ⟨node, hnode, y, b, -, hb, hid, hab⟩ |
        ⟨node, hnode, y, b, hy, hb, hid, hab⟩ | ⟨o, ho, hid | hab⟩
      · exact absurd hab (hanchor_drawn ha hnode)
      · obtain rfl := h.name_eq_of_id_eq ha hb hab
        exact ⟨_, (huses _).mpr ⟨node, hnode, hid.symm, rfl⟩, hy⟩
      · exact absurd hid (huser_operator ho)
      · exact absurd hab (hanchor_operator ha ho)
    · rintro ⟨arguments, harguments, hx⟩
      obtain ⟨node, hnode, hid, rfl⟩ := (huses arguments).mp harguments
      refine h.asked _ ⟨node, hnode, .inr ⟨x, a.box, hx, ?_, by rw [hid]⟩⟩
      exact lookup_eq_some_iff.mpr ⟨a, ha, rfl⟩
  · rintro id (hp | hp)
    · rcases h.cases_of_connection hp with ⟨node, hnode, x, a, -, ha, hid, -⟩ |
        ⟨node, hnode, x, a, -, ha, -, hid⟩ | ⟨o, ho, hid | hid⟩
      · exact .inl ⟨x, a, ha, hid⟩
      · exact absurd hid.symm (hanchor_user ha he)
      · exact .inr ⟨o, ho, hid⟩
      · exact absurd hid (huser_operator ho)
    · rcases h.cases_of_connection hp with ⟨node, hnode, x, a, -, ha, hid, -⟩ |
        ⟨node, hnode, x, a, -, ha, -, hid⟩ | ⟨o, ho, hid | hid⟩
      · exact absurd hid.symm (hanchor_user ha he)
      · exact .inl ⟨x, a, ha, hid⟩
      · exact absurd hid (huser_operator ho)
      · exact .inr ⟨o, ho, hid⟩

end Wired

end Diagram

end PlanDiagram
