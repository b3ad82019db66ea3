import Mathlib.Data.List.Nodup
import PlanDiagram.Diagram.Draw
import PlanDiagram.Proofs.Diagram.Identifier
import PlanDiagram.Proofs.Failure

/-!
# Steps of a drawing

What a step of a drawing does to the canvas, as far as identifiers are concerned. A canvas is sound
if the identifiers on it differ from one another and from that of the group, and if its arrows run
between two of its nodes, no two of them in the same way. A step adds elements whose identifiers
belong to given families. Soundness is kept since the number under which an identifier is formed is
not in use yet: it is counted up by the band that is drawn, or it is handed out by the session.
-/

namespace PlanDiagram.Diagram

variable {α β γ : Type}

/-- The group that an element says to belong to. -/
def Element.owner? : Element α → Option String
  | .node n => some n.group
  | .arrow a => a.group
  | .group _ => none

/-- The identifier of a node. -/
def Element.nodeId? : Element α → Option String
  | .node n => some n.box.id
  | _ => none

/-- The identifiers of the nodes that an arrow connects. -/
def Element.ends? : Element α → Option (String × String)
  | .arrow a => some (a.source.id, a.target.id)
  | _ => none

/-- What a description tells of, with its identifier. -/
def Element.description? : Element α → Option (String × String)
  | .node n => n.describes.map fun role => (role, n.box.id)
  | _ => none

/-- The identifiers of the nodes among elements. -/
def nodeIds (elements : List (Element α)) : List String :=
  elements.filterMap Element.nodeId?

/-- The pairs of nodes that arrows among elements connect. -/
def connections (elements : List (Element α)) : List (String × String) :=
  elements.filterMap Element.ends?

/-- The descriptions among elements. -/
def descriptions (elements : List (Element α)) : List (String × String) :=
  elements.filterMap Element.description?

/-- The nodes of elements have their identifiers. -/
theorem mem_ids_of_mem_nodeIds {elements : List (Element α)} {id : String}
    (h : id ∈ nodeIds elements) : id ∈ elements.map Element.id := by
  obtain ⟨e, he, hid⟩ := List.mem_filterMap.mp h
  cases e with
  | node n => exact List.mem_map.mpr ⟨_, he, Option.some.inj hid⟩
  | arrow a => cases hid
  | group g => cases hid

namespace Canvas

/-- The elements of a canvas have identifiers of their own and belong to its group, and its arrows
run between different nodes, no two between the same nodes in the same direction. -/
structure Sound (c : Canvas α) : Prop where
  ids_nodup : (c.elements.map Element.id).Nodup
  ne_group : ∀ e ∈ c.elements, e.id ≠ c.group
  owner_eq : ∀ e ∈ c.elements, e.owner? = some c.group
  ends : ∀ p ∈ connections c.elements,
    p.1 ∈ nodeIds c.elements ∧ p.2 ∈ nodeIds c.elements ∧ p.1 ≠ p.2
  connected_iff : ∀ p, p ∈ c.connected ↔ p ∈ connections c.elements
  connections_nodup : (connections c.elements).Nodup

/-- The identifiers of a family are not in use from a number on. -/
def Unused (c : Canvas α) (f : Family) (n : Nat) : Prop :=
  ∀ e ∈ c.elements, ∀ m, n ≤ m → ¬ Names c.group f m e.id

variable {c c' : Canvas α} {f g : Family} {m n : Nat} {e : Element α}

/-- What is not in use from a number on is not in use from a later number on. -/
theorem Unused.mono (h : c.Unused f m) (hle : m ≤ n) : c.Unused f n :=
  fun e he k hk => h e he k (Nat.le_trans hle hk)

/-- On an empty canvas no numbers are in use. -/
theorem unused_of_empty (h : c.elements = []) : c.Unused f n := by
  intro e he
  rw [h] at he
  cases he

/-- An empty canvas is sound. -/
theorem sound_of_empty (helements : c.elements = []) (hconnected : c.connected = []) :
    c.Sound := by
  constructor <;> simp [helements, hconnected, connections]

/-- An identifier that is not in use is different from all that are. -/
theorem Unused.id_not_mem (h : c.Unused f n) {id : String} (hid : Names c.group f n id) :
    id ∉ c.elements.map Element.id := by
  intro hmem
  obtain ⟨e, he, rfl⟩ := List.mem_map.mp hmem
  exact h e he n (Nat.le_refl n) hid

/-- A new element takes one number of its family and none of the families apart from it. -/
theorem Unused.append (h : c.Unused g m) (hgroup : c'.group = c.group)
    (helements : c'.elements = c.elements ++ [e]) (he : Names c.group f n e.id)
    (hnumber : f.Apart g ∨ g = f ∧ n < m) : c'.Unused g m := by
  intro other hother k hk hnames
  rw [hgroup] at hnames
  rw [helements, List.mem_append, List.mem_singleton] at hother
  rcases hother with hother | rfl
  · exact h other hother k hk hnames
  · rcases hnumber with hapart | ⟨rfl, hlt⟩
    · exact he.not_of_apart hapart hnames
    · have := he.number_unique hnames
      omega

/-- A new element has an identifier of its own. -/
theorem Sound.ids_append (h : c.Sound) (hgroup : c'.group = c.group)
    (helements : c'.elements = c.elements ++ [e]) (he : Names c.group f n e.id)
    (hunused : c.Unused f n) :
    (c'.elements.map Element.id).Nodup ∧ ∀ e ∈ c'.elements, e.id ≠ c'.group := by
  rw [helements, hgroup]
  constructor
  · rw [List.map_append, List.map_singleton, ← List.concat_eq_append]
    exact h.ids_nodup.concat (hunused.id_not_mem he)
  · intro other hother
    rw [List.mem_append, List.mem_singleton] at hother
    rcases hother with hother | rfl
    · exact h.ne_group other hother
    · exact he.ne_group

/-- A new node keeps a canvas sound. -/
theorem Sound.append_node {node : Node α} (h : c.Sound) (hgroup : c'.group = c.group)
    (helements : c'.elements = c.elements ++ [.node node]) (hconnected : c'.connected = c.connected)
    (howner : node.group = c.group) (hnames : Names c.group f n node.box.id)
    (hunused : c.Unused f n) : c'.Sound := by
  have hnodes : nodeIds c'.elements = nodeIds c.elements ++ [node.box.id] := by
    rw [helements]
    exact List.filterMap_append
  have hconnections : connections c'.elements = connections c.elements := by
    rw [helements, connections, List.filterMap_append]
    exact List.append_nil _
  obtain ⟨hnodup, hne⟩ := h.ids_append hgroup helements hnames hunused
  refine ⟨hnodup, hne, ?_, ?_, ?_, ?_⟩
  · intro e he
    rw [helements, List.mem_append, List.mem_singleton] at he
    rw [hgroup]
    rcases he with he | rfl
    · exact h.owner_eq e he
    · exact congrArg some howner
  · intro p hp
    rw [hconnections] at hp
    obtain ⟨hsource, htarget, hne⟩ := h.ends p hp
    rw [hnodes]
    exact ⟨List.mem_append_left _ hsource, List.mem_append_left _ htarget, hne⟩
  · rw [hconnected, hconnections]
    exact h.connected_iff
  · rw [hconnections]
    exact h.connections_nodup

/-- A new arrow keeps a canvas sound, if it runs between different nodes that no arrow connects. -/
theorem Sound.append_arrow {arrow : Arrow α} (h : c.Sound) (hgroup : c'.group = c.group)
    (helements : c'.elements = c.elements ++ [.arrow arrow])
    (hconnected : c'.connected = (arrow.source.id, arrow.target.id) :: c.connected)
    (howner : arrow.group = some c.group) (hnames : Names c.group f n arrow.id)
    (hunused : c.Unused f n) (hsource : arrow.source.id ∈ nodeIds c.elements)
    (htarget : arrow.target.id ∈ nodeIds c.elements) (hne : arrow.source.id ≠ arrow.target.id)
    (hnew : (arrow.source.id, arrow.target.id) ∉ c.connected) : c'.Sound := by
  have hnodes : nodeIds c'.elements = nodeIds c.elements := by
    rw [helements, nodeIds, List.filterMap_append]
    exact List.append_nil _
  have hconnections : connections c'.elements =
      connections c.elements ++ [(arrow.source.id, arrow.target.id)] := by
    rw [helements]
    exact List.filterMap_append
  obtain ⟨hnodup, hne_group⟩ := h.ids_append hgroup helements hnames hunused
  refine ⟨hnodup, hne_group, ?_, ?_, ?_, ?_⟩
  · intro e he
    rw [helements, List.mem_append, List.mem_singleton] at he
    rw [hgroup]
    rcases he with he | rfl
    · exact h.owner_eq e he
    · exact howner
  · intro p hp
    rw [hconnections, List.mem_append, List.mem_singleton] at hp
    rw [hnodes]
    rcases hp with hp | rfl
    · exact h.ends p hp
    · exact ⟨hsource, htarget, hne⟩
  · intro p
    rw [hconnected, hconnections, List.mem_cons, List.mem_append, List.mem_singleton,
      h.connected_iff, or_comm]
  · rw [hconnections, ← List.concat_eq_append]
    exact h.connections_nodup.concat (mt (h.connected_iff _).mpr hnew)

end Canvas

/-- A drawing is sound if its canvas is, and no number is in use in a family for which the session
is about to hand it out. -/
structure Drawing.Sound (tickets : List (String × Family)) (d : Drawing α) : Prop where
  canvas : d.canvas.Sound
  unused : ∀ t ∈ tickets,
    d.canvas.Unused t.2 (d.session.upcoming (d.canvas.group ++ ":" ++ t.1))

/-- A drawing on an empty canvas is sound. -/
theorem Drawing.sound_of_empty {tickets : List (String × Family)} {d : Drawing α}
    (helements : d.canvas.elements = []) (hconnected : d.canvas.connected = []) :
    d.Sound tickets :=
  ⟨Canvas.sound_of_empty helements hconnected, fun _ _ => Canvas.unused_of_empty helements⟩

/-- A step of a drawing keeps it sound and adds elements of the given families, with the given
descriptions among them. -/
structure Step (tickets : List (String × Family)) (families : List Family)
    (told : List (String × String)) (d d' : Drawing α) : Prop where
  sound : d'.Sound tickets
  group_eq : d'.canvas.group = d.canvas.group
  exists_new : ∃ new, d'.canvas.elements = d.canvas.elements ++ new ∧
    ∀ e ∈ new, ∃ f ∈ families, ∃ n, Names d.canvas.group f n e.id
  descriptions_eq :
    descriptions d'.canvas.elements = descriptions d.canvas.elements ++ told

/-- The box is that of a node on the canvas, with an identifier of the family. -/
def Placed (d : Drawing α) (f : Family) (box : Box α) : Prop :=
  box.id ∈ nodeIds d.canvas.elements ∧ ∃ n, Names d.canvas.group f n box.id

/-- Nodes of families that are apart are different. -/
theorem Placed.ne {d : Drawing α} {f g : Family} {box other : Box α} (h : Placed d f box)
    (h' : Placed d g other) (hapart : f.Apart g) : box.id ≠ other.id := by
  intro heq
  obtain ⟨m, hm⟩ := h.2
  obtain ⟨n, hn⟩ := h'.2
  rw [← heq] at hn
  exact hm.not_of_apart hapart hn

/-- What is found among nodes on the canvas is a node on the canvas. -/
theorem placed_of_lookup {κ : Type} [BEq κ] [LawfulBEq κ] {d : Drawing α} {f : Family}
    {entries : List (κ × Box α)} {key : κ} {box : Box α} (h : entries.lookup key = some box)
    (hall : ∀ entry ∈ entries, Placed d f entry.2) : Placed d f box := by
  obtain ⟨front, back, rfl, -⟩ := List.lookup_eq_some_iff.mp h
  exact hall (key, box) (by simp)

namespace Step

variable {tickets : List (String × Family)} {families families' : List Family}
  {told told' : List (String × String)} {d d' d'' : Drawing α}

/-- A step that draws nothing. -/
theorem refl (h : d.Sound tickets) : Step tickets families [] d d :=
  ⟨h, rfl, ⟨[], by simp, by simp⟩, by simp⟩

/-- Two steps in turn are a step. -/
theorem trans (h : Step tickets families told d d') (h' : Step tickets families told' d' d'') :
    Step tickets families (told ++ told') d d'' := by
  obtain ⟨new, hnew, hnames⟩ := h.exists_new
  obtain ⟨new', hnew', hnames'⟩ := h'.exists_new
  refine ⟨h'.sound, h'.group_eq.trans h.group_eq, ⟨new ++ new', ?_, ?_⟩, ?_⟩
  · rw [hnew', hnew, List.append_assoc]
  · intro e he
    rcases List.mem_append.mp he with he | he
    · exact hnames e he
    · rw [← h.group_eq]
      exact hnames' e he
  · rw [h'.descriptions_eq, h.descriptions_eq, List.append_assoc]

/-- A step may be said to draw elements of more families than it does. -/
theorem mono (h : Step tickets families told d d') (hsub : families ⊆ families') :
    Step tickets families' told d d' := by
  obtain ⟨new, hnew, hnames⟩ := h.exists_new
  refine ⟨h.sound, h.group_eq, ⟨new, hnew, fun e he => ?_⟩, h.descriptions_eq⟩
  obtain ⟨f, hf, hn⟩ := hnames e he
  exact ⟨f, hsub hf, hn⟩

/-- Two steps in turn draw elements of the families of both. -/
theorem append (h : Step tickets families told d d') (h' : Step tickets families' told' d' d'') :
    Step tickets (families ++ families') (told ++ told') d d'' :=
  (h.mono (List.subset_append_left _ _)).trans (h'.mono (List.subset_append_right _ _))

/-- A step does not use numbers of families apart from its own. -/
theorem unused (h : Step tickets families told d d') {f : Family} {n : Nat}
    (hapart : ∀ g ∈ families, g.Apart f) (hunused : d.canvas.Unused f n) :
    d'.canvas.Unused f n := by
  obtain ⟨new, hnew, hnames⟩ := h.exists_new
  intro e he m hm
  rw [h.group_eq]
  rw [hnew, List.mem_append] at he
  rcases he with he | he
  · exact hunused e he m hm
  · obtain ⟨g, hg, k, hk⟩ := hnames e he
    exact hk.not_of_apart (hapart g hg)

/-- On what was an empty canvas no numbers are in use of families apart from those drawn. -/
theorem unused_of_empty (h : Step tickets families told d d') (hempty : d.canvas.elements = [])
    {f : Family} (hapart : ∀ g ∈ families, g.Apart f) : d'.canvas.Unused f 0 :=
  h.unused hapart (Canvas.unused_of_empty hempty)

/-- The nodes before a step are there after it. -/
theorem placed (h : Step tickets families told d d') {f : Family} {box : Box α}
    (hplaced : Placed d f box) : Placed d' f box := by
  obtain ⟨new, hnew, -⟩ := h.exists_new
  refine ⟨?_, ?_⟩
  · rw [hnew, nodeIds, List.filterMap_append]
    exact List.mem_append_left _ hplaced.1
  · rw [h.group_eq]
    exact hplaced.2

end Step

end PlanDiagram.Diagram
