import PlanDiagram.Proofs.Diagram.ActionBlock
import PlanDiagram.Proofs.Diagram.Arguments

/-!
# Ellipses of literals

The literals of a role are shown by one ellipse for each label, in the order in which the labels
come first. The arguments of a literal are drawn on the ellipse with its label.
-/

namespace PlanDiagram.Diagram

variable {α : Type}

/-- All roles. -/
def allRoles : List Role :=
  [.precondition, .effect, .init, .goal]

/-- Every role is among them. -/
theorem mem_allRoles (role : Role) : role ∈ allRoles := by
  cases role <;> decide

/-- Literals of different roles are told apart. -/
theorem roleFamily_apart {role role' : Role} (h : role ≠ role') :
    (roleFamily role).Apart (roleFamily role') := by
  have hdistinct : Family.Distinct (allRoles.map roleFamily) := by decide +kernel
  refine hdistinct.apart_of_ne (List.mem_map_of_mem (mem_allRoles role))
    (List.mem_map_of_mem (mem_allRoles role')) ?_
  revert h
  cases role <;> cases role' <;> decide +kernel

/-- The literals of a role are shown: there is one ellipse for each label, in order. -/
def ShowsLiterals (found : Occurrences) (role : Role) (elements : List (Element α)) : Prop :=
  List.Forall₂ (fun l n => n.text = l.label ∧ n.box.shape = .ellipse) found.distinctLiterals
    (nodesIn [roleFamily role] elements)

/-- Where there are no ellipses, no literals are shown. -/
theorem ShowsLiterals.of_empty {role : Role} {elements : List (Element α)}
    (h : nodesIn [roleFamily role] elements = []) : ShowsLiterals {} role elements := by
  rw [ShowsLiterals, h]
  exact .nil

/-- The boxes that are found for the literals of a role, with what is drawn on them. -/
def literalsOn (found : Occurrences) (role : Role) (elements : List (Element α)) :
    List (Box α × String × List Formula) :=
  ActionBlock.drawnLiterals ((found.distinctLiterals.map LiteralUse.label).zip
    ((nodesIn [roleFamily role] elements).map Node.box)) found.literals

namespace ShowsLiterals

variable {found : Occurrences} {role : Role} {elements : List (Element α)}

/-- The texts of the ellipses are the different labels. -/
theorem texts_eq (h : ShowsLiterals found role elements) :
    (nodesIn [roleFamily role] elements).map Node.text =
      found.distinctLiterals.map LiteralUse.label :=
  (map_eq_map_of_forall₂ h fun _ _ hn => hn.1.symm).symm

/-- No two ellipses of a role have the same text. -/
theorem texts_nodup (h : ShowsLiterals found role elements) :
    ((nodesIn [roleFamily role] elements).map Node.text).Nodup := by
  rw [h.texts_eq]
  exact found.labels_nodup

/-- Every literal is drawn on the ellipse with its label. -/
theorem mem_literalsOn_iff (h : ShowsLiterals found role elements)
    {node : Box α × String × List Formula} :
    node ∈ literalsOn found role elements ↔ ∃ l ∈ found.literals,
      ∃ n ∈ nodesIn [roleFamily role] elements,
        n.text = l.label ∧ node = (n.box, l.name, l.arguments) := by
  have hlookup (l : LiteralUse) (box : Box α) :
      ((found.distinctLiterals.map LiteralUse.label).zip
        ((nodesIn [roleFamily role] elements).map Node.box)).lookup l.label = some box ↔
      ∃ n, (n ∈ nodesIn [roleFamily role] elements ∧ n.text = l.label) ∧ n.box = box := by
    rw [lookup_zip_map_box, ← h.texts_eq, Option.map_eq_some_iff]
    exact exists_congr fun n => and_congr_left fun _ => lookup_zip_map_eq_some_iff h.texts_nodup
  rw [literalsOn, ActionBlock.drawnLiterals, List.mem_filterMap]
  refine exists_congr fun l => and_congr_right fun _ => ?_
  rw [Option.map_eq_some_iff]
  constructor
  · rintro ⟨box, hbox, rfl⟩
    obtain ⟨n, ⟨hn, htext⟩, rfl⟩ := (hlookup l box).mp hbox
    exact ⟨n, hn, htext, rfl⟩
  · rintro ⟨n, hn, htext, rfl⟩
    exact ⟨n.box, (hlookup l n.box).mpr ⟨n, ⟨hn, htext⟩, rfl⟩, rfl⟩

end ShowsLiterals

/-- The families of nodes on which arguments are drawn: literals, and functions of some families. -/
def userFamilies (families : List Family) : List Family :=
  allRoles.map roleFamily ++ families

/-- The boxes of literals and functions, with what is drawn on them. -/
def drawnOn (found : Role → Occurrences) (functions : List (Box α × String × List Formula))
    (elements : List (Element α)) : List (Box α × String × List Formula) :=
  allRoles.flatMap (fun role => literalsOn (found role) role elements) ++ functions

section Uses

variable {found : Role → Occurrences} {functions : List (Box α × String × List Formula)}
  {elements : List (Element α)} {families : List Family} {node : Box α × String × List Formula}

/-- What is drawn on is an ellipse of a literal or function. -/
theorem mem_drawnOn_iff : node ∈ drawnOn found functions elements ↔
    (∃ role, node ∈ literalsOn (found role) role elements) ∨ node ∈ functions := by
  simp [drawnOn, mem_allRoles]

/-- Literals have families on which arguments are drawn. -/
theorem mem_nodesIn_users {role : Role} {n : Node α}
    (hn : n ∈ nodesIn [roleFamily role] elements) : n ∈ nodesIn (userFamilies families) elements := by
  have hmem : roleFamily role ∈ userFamilies families :=
    List.mem_append_left _ (List.mem_map_of_mem (mem_allRoles role))
  exact nodesIn_mono (by simpa using hmem) hn

/-- What is drawn on is a node of one of the families. -/
theorem exists_of_mem_drawnOn (hliterals : ∀ role, ShowsLiterals (found role) role elements)
    (hfunctions : ∀ node ∈ functions, ∃ n ∈ nodesIn families elements, n.box = node.1) :
    ∀ node ∈ drawnOn found functions elements,
      ∃ n ∈ nodesIn (userFamilies families) elements, n.box = node.1 := by
  intro node hnode
  rcases mem_drawnOn_iff.mp hnode with ⟨role, hnode⟩ | hnode
  · obtain ⟨l, -, n, hn, -, rfl⟩ := (hliterals role).mem_literalsOn_iff.mp hnode
    exact ⟨n, mem_nodesIn_users hn, rfl⟩
  · obtain ⟨n, hn, hbox⟩ := hfunctions node hnode
    exact ⟨n, nodesIn_mono (List.subset_append_right _ _) hn, hbox⟩

/-- The arguments of the literals with a label, in order. -/
def labelledUses (literals : List LiteralUse) (label : String) : List (List Formula) :=
  (literals.filter (·.label == label)).map LiteralUse.arguments

/-- The arguments that are drawn on the ellipse of a literal are those of the literals of its role
with its text as label. -/
theorem literal_uses_iff (hids : (nodeIds elements).Nodup)
    (hliterals : ∀ role, ShowsLiterals (found role) role elements)
    (hfunctions : ∀ node ∈ functions, ∃ n ∈ nodesIn families elements, n.box = node.1)
    (hapart : ∀ role, ∀ f ∈ families, f.Apart (roleFamily role)) {role : Role} {e : Node α}
    (he : e ∈ nodesIn [roleFamily role] elements) (arguments : List Formula) :
    arguments ∈ labelledUses (found role).literals e.text ↔
      ∃ node ∈ drawnOn found functions elements, node.1.id = e.box.id ∧ node.2.2 = arguments := by
  constructor
  · intro hmem
    obtain ⟨l, hl, rfl⟩ := List.mem_map.mp hmem
    obtain ⟨hl, hlabel⟩ := List.mem_filter.mp hl
    refine ⟨(e.box, l.name, l.arguments), mem_drawnOn_iff.mpr (.inl ⟨role, ?_⟩), rfl, rfl⟩
    exact (hliterals role).mem_literalsOn_iff.mpr ⟨l, hl, e, he, (beq_iff_eq.mp hlabel).symm, rfl⟩
  · rintro ⟨node, hnode, hid, rfl⟩
    rcases mem_drawnOn_iff.mp hnode with ⟨role', hnode⟩ | hnode
    · obtain ⟨l, hl, n, hn, htext, rfl⟩ := (hliterals role').mem_literalsOn_iff.mp hnode
      obtain rfl : role' = role := by
        by_contra hne
        refine id_ne_of_apart hids (fun f hf g hg => ?_) hn he hid
        rw [List.mem_singleton.mp hf, List.mem_singleton.mp hg]
        exact roleFamily_apart hne
      obtain rfl := node_eq_of_id_eq hids (mem_nodesOf_of_mem_nodesIn hn)
        (mem_nodesOf_of_mem_nodesIn he) hid
      exact List.mem_map_of_mem (List.mem_filter.mpr ⟨hl, beq_iff_eq.mpr htext.symm⟩)
    · obtain ⟨n, hn, hbox⟩ := hfunctions node hnode
      rw [← hbox] at hid
      refine absurd hid (id_ne_of_apart hids (fun f hf g hg => ?_) hn he)
      rw [List.mem_singleton.mp hg]
      exact hapart role f hf

end Uses

end PlanDiagram.Diagram
