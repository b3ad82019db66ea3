import PlanDiagram.Proofs.Diagram.Draw

/-!
# What a drawing adds

The nodes of a drawing are told apart by the families of their identifiers. A drawing is described
by the nodes that it adds, in order, and by the pairs of nodes between which it asks for an arrow:
afterwards exactly these pairs are connected, besides those that were so before. Nothing here needs
the identifiers to differ.
-/

namespace PlanDiagram.Diagram

variable {α β γ : Type}

/-- The node that an element is. -/
def Element.node? : Element α → Option (Node α)
  | .node n => some n
  | _ => none

/-- The nodes among elements. -/
def nodesOf (elements : List (Element α)) : List (Node α) :=
  elements.filterMap Element.node?

/-- Tells by its identifier whether a node belongs to a family. -/
def Family.covers (f : Family) (n : Node α) : Bool :=
  f.heads.any fun head => ((sanitize n.group).toList ++ '-' :: head).isPrefixOf n.box.id.toList

/-- The nodes of some families among elements. -/
def nodesIn (families : List Family) (elements : List (Element α)) : List (Node α) :=
  (nodesOf elements).filter fun n => families.any (·.covers n)

/-- A node under a number of a family belongs to it. -/
theorem Family.covers_of_names {f : Family} {k : Nat} {n : Node α}
    (h : Names n.group f k n.box.id) : f.covers n = true := by
  obtain ⟨tail, htail, hspell⟩ := h
  obtain ⟨head, hhead, hprefix⟩ := hspell.exists_head
  refine List.any_eq_true.mpr ⟨head, hhead, List.isPrefixOf_iff_prefix.mpr ?_⟩
  rw [htail]
  exact (List.prefix_append_right_inj _).mpr (List.cons_prefix_cons.mpr ⟨rfl, hprefix⟩)

/-- A node under a number of a family belongs to none that is apart from it. -/
theorem Family.covers_eq_false {f g : Family} {k : Nat} {n : Node α}
    (h : Names n.group g k n.box.id) (hapart : g.Apart f) : f.covers n = false := by
  obtain ⟨tail, htail, hspell⟩ := h
  obtain ⟨head, hhead, hprefix⟩ := hspell.exists_head
  refine List.any_eq_false.mpr fun other hother hcovers => ?_
  have hprefix' := List.isPrefixOf_iff_prefix.mp hcovers
  rw [htail, List.prefix_append_right_inj, List.cons_prefix_cons] at hprefix'
  obtain ⟨hnot, hnot'⟩ := hapart head hhead other hother
  rcases List.prefix_or_prefix_of_prefix hprefix hprefix'.2 with h | h
  · exact hnot h
  · exact hnot' h

/-- What all beginnings of the identifiers of a family extend. -/
def Family.stem : Family → List Char
  | single text => text.toList
  | leading stem => stem.toList
  | trailing stem => stem.toList

/-- Families are apart if neither stem extends the other. -/
theorem Family.apart_of_stem {f g : Family} (h : ¬ f.stem <+: g.stem ∧ ¬ g.stem <+: f.stem) :
    f.Apart g := by
  have hstem (f : Family) : ∀ head ∈ f.heads, f.stem <+: head := by
    intro head hhead
    cases f with
    | single text => rw [List.mem_singleton.mp hhead]; exact List.prefix_rfl
    | leading stem =>
      obtain ⟨digit, -, rfl⟩ := List.mem_map.mp hhead
      exact List.prefix_append _ _
    | trailing stem => rw [List.mem_singleton.mp hhead]; exact List.prefix_rfl
  intro head hhead other hother
  have hf := hstem f head hhead
  have hg := hstem g other hother
  constructor <;> intro hprefix
  · exact (List.prefix_or_prefix_of_prefix (hf.trans hprefix) hg).elim h.1 h.2
  · exact (List.prefix_or_prefix_of_prefix hf (hg.trans hprefix)).elim h.1 h.2

/-- Different families of a list are apart. The stems are compared first, which is quicker. -/
def Family.Distinct (table : List Family) : Prop :=
  ∀ f ∈ table, ∀ g ∈ table,
    f = g ∨ (¬ f.stem <+: g.stem ∧ ¬ g.stem <+: f.stem) ∨ f.Apart g

instance (table : List Family) : Decidable (Family.Distinct table) :=
  inferInstanceAs (Decidable (∀ _ ∈ _, ∀ _ ∈ _, _))

/-- Two families of a list are apart if they differ. -/
theorem Family.Distinct.apart_of_ne {table : List Family} (h : Family.Distinct table)
    {f g : Family} (hf : f ∈ table) (hg : g ∈ table) (hne : f ≠ g) : f.Apart g := by
  rcases h f hf g hg with heq | hstem | hapart
  · exact absurd heq hne
  · exact Family.apart_of_stem hstem
  · exact hapart

/-- Families from different parts of a list are apart. -/
theorem Family.Distinct.apart {table fs gs : List Family} (h : Family.Distinct table)
    (hfs : ∀ f ∈ fs, f ∈ table ∧ f ∉ gs) (hgs : ∀ g ∈ gs, g ∈ table) :
    ∀ f ∈ fs, ∀ g ∈ gs, f.Apart g :=
  fun f hf g hg => h.apart_of_ne (hfs f hf).1 (hgs g hg) fun heq => (hfs f hf).2 (heq ▸ hg)

/-- A node of a family is a node. -/
theorem mem_nodesOf_of_mem_nodesIn {families : List Family} {elements : List (Element α)}
    {n : Node α} (h : n ∈ nodesIn families elements) : n ∈ nodesOf elements :=
  (List.mem_filter.mp h).1

/-- What is read off two lists agrees if it agrees for what is related in them. -/
theorem map_eq_map_of_forall₂ {δ : Type} {R : β → γ → Prop} {f : β → δ} {g : γ → δ} {bs : List β}
    {cs : List γ} (h : List.Forall₂ R bs cs) (hR : ∀ b c, R b c → f b = g c) :
    bs.map f = cs.map g := by
  induction h with
  | nil => rfl
  | cons hbc _ ih => rw [List.map_cons, List.map_cons, hR _ _ hbc, ih]

/-- A node of some families is one of more families. -/
theorem nodesIn_mono {families families' : List Family} {elements : List (Element α)}
    (hsub : families ⊆ families') {n : Node α} (h : n ∈ nodesIn families elements) :
    n ∈ nodesIn families' elements := by
  obtain ⟨hn, hcovers⟩ := List.mem_filter.mp h
  obtain ⟨f, hf, hcovers⟩ := List.any_eq_true.mp hcovers
  exact List.mem_filter.mpr ⟨hn, List.any_eq_true.mpr ⟨f, hsub hf, hcovers⟩⟩

/-- Where there are no nodes of some families, there are none of fewer families. -/
theorem nodesIn_eq_nil {families families' : List Family} {elements : List (Element α)}
    (hsub : families ⊆ families') (h : nodesIn families' elements = []) :
    nodesIn families elements = [] :=
  List.eq_nil_iff_forall_not_mem.mpr fun _ hn => by
    simpa [h] using nodesIn_mono hsub hn

/-- The identifiers of nodes. -/
theorem nodeIds_eq_map (elements : List (Element α)) :
    nodeIds elements = (nodesOf elements).map fun n => n.box.id := by
  rw [nodeIds, nodesOf, List.map_filterMap]
  refine congrArg (fun f => elements.filterMap f) (funext fun e => ?_)
  cases e <;> rfl

/-- Where identifiers differ, a node is known by its identifier. -/
theorem node_eq_of_id_eq {elements : List (Element α)} (h : (nodeIds elements).Nodup) {m n : Node α}
    (hm : m ∈ nodesOf elements) (hn : n ∈ nodesOf elements) (heq : m.box.id = n.box.id) : m = n :=
  List.inj_on_of_nodup_map (nodeIds_eq_map elements ▸ h) hm hn heq

/-- A drawing adds nodes of some families, and connects the pairs of nodes for which it asks. -/
structure Draws (families : List Family) (nodes : List (Node α)) (asked : String × String → Prop)
    (d d' : Drawing α) : Prop where
  group_eq : d'.canvas.group = d.canvas.group
  nodes_eq : nodesOf d'.canvas.elements = nodesOf d.canvas.elements ++ nodes
  names : ∀ n ∈ nodes, n.group = d.canvas.group ∧ ∃ f ∈ families, ∃ k,
    Names d.canvas.group f k n.box.id
  connected_iff : ∀ p, p ∈ d'.canvas.connected ↔ p ∈ d.canvas.connected ∨ asked p

/-- Nothing is asked for. -/
def noArrow : String × String → Prop :=
  fun _ => False

/-- Some pairs are asked for, and then some others. -/
def arrowsOf (first next : String × String → Prop) : String × String → Prop :=
  fun p => first p ∨ next p

namespace Draws

variable {families families' fs : List Family} {nodes nodes' : List (Node α)}
  {asked asked' : String × String → Prop} {d d' d'' : Drawing α}

/-- A drawing that changes nothing on the canvas. -/
theorem of_canvas_eq (h : d'.canvas = d.canvas) : Draws families [] noArrow d d' := by
  constructor <;> simp [h, noArrow]

/-- A drawing that changes nothing. -/
theorem refl (d : Drawing α) : Draws families [] noArrow d d :=
  of_canvas_eq rfl

/-- Two drawings in turn. -/
theorem trans (h : Draws families nodes asked d d') (h' : Draws families nodes' asked' d' d'') :
    Draws families (nodes ++ nodes') (arrowsOf asked asked') d d'' where
  group_eq := h'.group_eq.trans h.group_eq
  nodes_eq := by rw [h'.nodes_eq, h.nodes_eq, List.append_assoc]
  names n hn := by
    rcases List.mem_append.mp hn with hn | hn
    · exact h.names n hn
    · rw [← h.group_eq]
      exact h'.names n hn
  connected_iff p := by rw [h'.connected_iff, h.connected_iff, arrowsOf, or_assoc]

/-- A drawing may be said to add nodes of more families than it does. -/
theorem mono (h : Draws families nodes asked d d') (hsub : families ⊆ families') :
    Draws families' nodes asked d d' :=
  { h with names := fun n hn => (h.names n hn).imp_right fun ⟨f, hf, hk⟩ => ⟨f, hsub hf, hk⟩ }

/-- The pairs that are asked for may be described in another way. -/
theorem congr (h : Draws families nodes asked d d') (hasked : ∀ p, asked p ↔ asked' p) :
    Draws families nodes asked' d d' :=
  { h with connected_iff := fun p => by rw [h.connected_iff, hasked] }

/-- Two drawings in turn add nodes of the families of both. -/
theorem append (h : Draws families nodes asked d d') (h' : Draws families' nodes' asked' d' d'') :
    Draws (families ++ families') (nodes ++ nodes') (arrowsOf asked asked') d d'' :=
  (h.mono (List.subset_append_left _ _)).trans (h'.mono (List.subset_append_right _ _))

/-- The nodes of families apart from those that are added stay the same. -/
theorem nodesIn_eq (h : Draws families nodes asked d d')
    (hapart : ∀ g ∈ families, ∀ f ∈ fs, g.Apart f) :
    nodesIn fs d'.canvas.elements = nodesIn fs d.canvas.elements := by
  have hnone : (nodes.filter fun n => fs.any (·.covers n)) = [] := by
    refine List.filter_eq_nil_iff.mpr fun n hn hcovers => ?_
    obtain ⟨hgroup, g, hg, k, hk⟩ := h.names n hn
    obtain ⟨f, hf, hcovers⟩ := List.any_eq_true.mp hcovers
    rw [← hgroup] at hk
    rw [Family.covers_eq_false hk (hapart g hg f hf)] at hcovers
    cases hcovers
  rw [nodesIn, h.nodes_eq, List.filter_append, hnone, List.append_nil]
  rfl

/-- The nodes of the families that are added come behind those that are there. -/
theorem nodesIn_append (h : Draws families nodes asked d d') (hsub : families ⊆ fs) :
    nodesIn fs d'.canvas.elements = nodesIn fs d.canvas.elements ++ nodes := by
  have hall : (nodes.filter fun n => fs.any (·.covers n)) = nodes := by
    refine List.filter_eq_self.mpr fun n hn => ?_
    obtain ⟨hgroup, f, hf, k, hk⟩ := h.names n hn
    rw [← hgroup] at hk
    exact List.any_eq_true.mpr ⟨f, hsub hf, Family.covers_of_names hk⟩
  rw [nodesIn, h.nodes_eq, List.filter_append, hall]
  rfl

/-- The nodes of a family stay. -/
theorem mem_nodesIn (h : Draws families nodes asked d d') {n : Node α}
    (hn : n ∈ nodesIn fs d.canvas.elements) : n ∈ nodesIn fs d'.canvas.elements := by
  rw [nodesIn, h.nodes_eq, List.filter_append]
  exact List.mem_append_left _ hn

/-- On what was an empty canvas, the nodes of a family are those of its row. -/
theorem nodesIn_of_empty {f : Family} {row after : List (Node α)} {asked'' : String × String → Prop}
    {d₁ d₂ : Drawing α} (hempty : d.canvas.elements = []) (h : Draws families nodes asked d d₁)
    (hrow : Draws [f] row asked' d₁ d₂) (hafter : Draws families' after asked'' d₂ d')
    (hapart : ∀ g ∈ families ++ families', ∀ f' ∈ [f], g.Apart f') :
    nodesIn [f] d'.canvas.elements = row := by
  rw [hafter.nodesIn_eq fun g hg => hapart g (List.mem_append_right _ hg),
    hrow.nodesIn_append (List.Subset.refl _),
    h.nodesIn_eq fun g hg => hapart g (List.mem_append_left _ hg), hempty]
  rfl

/-- Arrows stay. -/
theorem mem_connected (h : Draws families nodes asked d d') {p : String × String}
    (hp : p ∈ d.canvas.connected) : p ∈ d'.canvas.connected :=
  (h.connected_iff p).mpr (.inl hp)

end Draws

/-- A node with a text in a shape has been drawn, in a family. -/
structure DrawsNode (f : Family) (text : String) (shape : Shape) (d d' : Drawing α)
    (n : Node α) : Prop where
  draws : Draws [f] [n] noArrow d d'
  text_eq : n.text = text
  shape_eq : n.box.shape = shape

/-- A node that has been drawn is on the canvas. -/
theorem DrawsNode.mem_nodesIn {f : Family} {text : String} {shape : Shape} {d d' : Drawing α}
    {n : Node α} (h : DrawsNode f text shape d d' n) : n ∈ nodesIn [f] d'.canvas.elements := by
  rw [h.draws.nodesIn_append (List.Subset.refl _)]
  exact List.mem_append_right _ List.mem_cons_self

namespace Draw

variable {cfg : Config α} {families : List Family} {f : Family} {k : Nat} {d d' : Drawing α}

/-- Handing out a number adds nothing. -/
theorem ticket_draws {key : String} {n : Nat} (hdraw : ticket key d = .ok (n, d')) :
    Draws families [] noArrow d d' :=
  .of_canvas_eq (canvas_eq_of_ticket hdraw)

/-- Drawing an arrow asks for it. -/
theorem edge_draws {source target : Box α} {id : String} {u : Unit}
    (hdraw : edge cfg source target id d = .ok (u, d')) :
    Draws families [] (· = (source.id, target.id)) d d' := by
  obtain ⟨canvas, hcanvas, rfl⟩ := onCanvas_ok_iff.mp hdraw
  obtain ⟨⟨arrow?, canvas'⟩, hedge, hcanvas⟩ := bind_eq_ok_iff.mp hcanvas
  obtain ⟨-, rfl⟩ := Prod.mk.inj (Except.ok.inj hcanvas)
  unfold Canvas.edge at hedge
  split at hedge
  · rename_i hold
    obtain ⟨-, rfl⟩ := Prod.mk.inj (Except.ok.inj hedge)
    refine ⟨rfl, (List.append_nil _).symm, by simp, fun p => ?_⟩
    have hmem : (source.id, target.id) ∈ d.canvas.connected := by simpa using hold
    exact ⟨.inl, fun hp => hp.elim (fun hp => hp) fun heq => heq ▸ hmem⟩
  · obtain ⟨stroke, -, hedge⟩ := bind_eq_ok_iff.mp hedge
    obtain ⟨-, rfl⟩ := Prod.mk.inj (Except.ok.inj hedge)
    refine ⟨rfl, ?_, by simp, fun p => ?_⟩
    · rw [nodesOf, List.filterMap_append]
      rfl
    · rw [List.mem_cons, or_comm]

variable [Add α] [LT α] [DecidableLT α] {text id : String} {corner : Point α} {box : Box α}

/-- Placing a node adds it. -/
theorem drawsNode_of_place {node : Node α} {canvas : Canvas α}
    (hplace : d.canvas.place node = (box, canvas)) (hgroup : node.group = d.canvas.group)
    (hnames : Names d.canvas.group f k node.box.id) :
    node.box = box ∧ DrawsNode f node.text node.box.shape d { d with canvas } node := by
  obtain ⟨rfl, rfl⟩ := Prod.mk.inj hplace
  refine ⟨rfl, ⟨rfl, ?_, ?_, fun p => ?_⟩, rfl, rfl⟩
  · exact List.filterMap_append
  · intro n hn
    rw [List.mem_singleton.mp hn]
    exact ⟨hgroup, f, List.mem_cons_self, k, hnames⟩
  · exact (or_false _).symm.to_iff

/-- Drawing a rectangle adds a node. -/
theorem rectangle_draws {width height : α}
    (hdraw : rectangle cfg text corner id width height d = .ok (box, d'))
    (hnames : Names d.canvas.group f k (sanitize id)) :
    ∃ n : Node α, n.box = box ∧ DrawsNode f text .rectangle d d' n := by
  obtain ⟨canvas, hcanvas, rfl⟩ := onCanvas_ok_iff.mp hdraw
  obtain ⟨fill, -, hcanvas⟩ := bind_eq_ok_iff.mp hcanvas
  obtain ⟨stroke, -, hcanvas⟩ := bind_eq_ok_iff.mp hcanvas
  exact ⟨_, drawsNode_of_place (pure_eq_ok_iff.mp hcanvas) rfl hnames⟩

/-- Drawing an ellipse adds a node. -/
theorem ellipse_draws {role : String}
    (hdraw : ellipse cfg text corner id role d = .ok (box, d'))
    (hnames : Names d.canvas.group f k (sanitize id)) :
    ∃ n : Node α, n.box = box ∧ DrawsNode f text .ellipse d d' n := by
  obtain ⟨canvas, hcanvas, rfl⟩ := onCanvas_ok_iff.mp hdraw
  obtain ⟨fill, -, hcanvas⟩ := bind_eq_ok_iff.mp hcanvas
  obtain ⟨stroke, -, hcanvas⟩ := bind_eq_ok_iff.mp hcanvas
  exact ⟨_, drawsNode_of_place (pure_eq_ok_iff.mp hcanvas) rfl hnames⟩

/-- Drawing a description adds a node. -/
theorem description_draws {width height : α} {role : String}
    (hdraw : description cfg text corner id width height role d = .ok (box, d'))
    (hnames : Names d.canvas.group f k (sanitize id)) :
    ∃ n : Node α, n.box = box ∧ DrawsNode f text .rectangle d d' n := by
  obtain ⟨canvas, hcanvas, rfl⟩ := onCanvas_ok_iff.mp hdraw
  obtain ⟨fill, -, hcanvas⟩ := bind_eq_ok_iff.mp hcanvas
  obtain ⟨stroke, -, hcanvas⟩ := bind_eq_ok_iff.mp hcanvas
  exact ⟨_, drawsNode_of_place (pure_eq_ok_iff.mp hcanvas) rfl hnames⟩

omit [Add α] in
/-- Lowering the lowest point adds nothing. -/
theorem extend_draws {height : α} {u : Unit} (hdraw : extend height d = .ok (u, d')) :
    Draws families [] noArrow d d' := by
  obtain ⟨canvas, hcanvas, rfl⟩ := onCanvas_ok_iff.mp hdraw
  obtain ⟨-, rfl⟩ := Prod.mk.inj (Except.ok.inj hcanvas)
  exact ⟨rfl, (List.append_nil _).symm, by simp, fun p => (or_false _).symm.to_iff⟩

end Draw

/-- A row of nodes has been drawn in a family, one node with a text in a shape for each of some
things. The boxes that it hands on are found by the keys of the things. -/
structure DrawsRow (f : Family) (key text : γ → String) (shape : Shape) (xs : List γ)
    (boxes : List (String × Box α)) (d d' : Drawing α) (ns : List (Node α)) : Prop where
  draws : Draws [f] ns noArrow d d'
  boxes_eq : boxes = (xs.map key).zip (ns.map Node.box)
  shows : List.Forall₂ (fun x n => n.text = text x ∧ n.box.shape = shape) xs ns

/-- What follows a row leaves it as it is, if it asks for nothing and adds nothing. -/
theorem DrawsRow.trans {f : Family} {key text : γ → String} {shape : Shape}
    {xs : List γ} {boxes : List (String × Box α)} {d d' d'' : Drawing α} {ns : List (Node α)}
    (h : DrawsRow f key text shape xs boxes d d' ns) (h' : Draws [f] [] noArrow d' d'') :
    DrawsRow f key text shape xs boxes d d'' ns := by
  have hdraws : Draws [f] (ns ++ []) noArrow d d'' :=
    (h.draws.trans h').congr (by simp [arrowsOf, noArrow])
  rw [List.append_nil] at hdraws
  exact ⟨hdraws, h.boxes_eq, h.shows⟩

namespace Draw

variable {f : Family} {key text : γ → String} {shape : Shape} {d d' : Drawing α}

/-- No row is drawn where there is nothing to draw. -/
theorem drawsRow_nil (d : Drawing α) : DrawsRow f key text shape [] [] d d [] :=
  ⟨.refl d, rfl, .nil⟩

/-- A row of nodes, each under its place in the row, is drawn by a function that draws a node for
the first of some things and goes on with the next place. -/
theorem row_draws {draw : Nat → List γ → Draw α (List (String × Box α))}
    {node : Nat → γ → String → Draw α (Box α)} {p : γ → Prop} {xs : List γ}
    {index : Nat} {boxes : List (String × Box α)} (hdraw : draw index xs d = .ok (boxes, d'))
    (hnil : ∀ index, draw index [] = pure [])
    (hcons : ∀ index x rest, draw index (x :: rest) = do
      let box ← node index x (← group)
      return (key x, box) :: (← draw (index + 1) rest))
    (hxs : ∀ x ∈ xs, p x)
    (hnode : ∀ {index x d d' box}, node index x d.canvas.group d = .ok (box, d') → p x →
      ∃ n : Node α, n.box = box ∧ DrawsNode f (text x) shape d d' n) :
    ∃ ns, DrawsRow f key text shape xs boxes d d' ns := by
  induction xs generalizing index d boxes with
  | nil =>
    rw [hnil] at hdraw
    obtain ⟨rfl, rfl⟩ := pure_ok_iff.mp hdraw
    exact ⟨[], drawsRow_nil d⟩
  | cons x rest ih =>
    obtain ⟨hx, hrest⟩ := List.forall_mem_cons.mp hxs
    rw [hcons] at hdraw
    obtain ⟨g, d₁, hgroup, hdraw⟩ := bind_ok_iff.mp hdraw
    obtain ⟨rfl, rfl⟩ := group_ok_iff.mp hgroup
    obtain ⟨box, d₁, hbox, hdraw⟩ := bind_ok_iff.mp hdraw
    obtain ⟨others, d₂, hothers, hdraw⟩ := bind_ok_iff.mp hdraw
    obtain ⟨rfl, rfl⟩ := pure_ok_iff.mp hdraw
    obtain ⟨n, rfl, hn⟩ := hnode hbox hx
    obtain ⟨ns, hns⟩ := ih hothers hrest
    refine ⟨n :: ns, (hn.draws.trans hns.draws).congr fun p => or_self_iff, ?_, ?_⟩
    · rw [hns.boxes_eq]
      rfl
    · exact .cons ⟨hn.text_eq, hn.shape_eq⟩ hns.shows

/-- A band is a row, which is left out if there is nothing to draw. -/
theorem band_draws {xs : List γ} {cursor : β} {row : Draw α (List (String × Box α))}
    {next : List (String × Box α) → β} {result : List (String × Box α) × β}
    (hdraw : (if xs.isEmpty then return ([], cursor) else do
      let boxes ← row
      return (boxes, next boxes) : Draw α (List (String × Box α) × β)) d = .ok (result, d'))
    (hrow : ∀ boxes, row d = .ok (boxes, d') → ∃ ns, DrawsRow f key text shape xs boxes d d' ns) :
    ∃ ns, DrawsRow f key text shape xs result.1 d d' ns := by
  cases xs with
  | nil =>
    obtain ⟨rfl, rfl⟩ := pure_ok_iff.mp hdraw
    exact ⟨[], drawsRow_nil d⟩
  | cons x rest =>
    obtain ⟨boxes, d₁, hboxes, hdraw⟩ := bind_ok_iff.mp hdraw
    obtain ⟨rfl, rfl⟩ := pure_ok_iff.mp hdraw
    exact hrow boxes hboxes

end Draw

end PlanDiagram.Diagram
