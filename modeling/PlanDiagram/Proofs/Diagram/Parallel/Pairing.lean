import Mathlib.Data.List.Forall2
import Mathlib.Data.List.Nodup
import PlanDiagram.Proofs.Diagram.Integrity

/-!
# Two diagrams side by side

Two drawings of the same thing give different identifiers to its elements when they start from
different sessions. Identifiers correspond to one another if they were given at the same place. As
long as neither drawing gives an identifier twice, this pairs them one to one; nothing is said about
drawings that do, so that what corresponds once goes on to do so while both drawings continue.
Boxes, elements and blocks match if they are the same up to identifiers that correspond.
-/

namespace PlanDiagram.Diagram

/-- The identifiers that two drawings have given, in order. -/
structure Pairing where
  first : List String
  second : List String

namespace Pairing

/-- Neither drawing has given an identifier twice. -/
def Distinct (p : Pairing) : Prop :=
  p.first.Nodup ∧ p.second.Nodup

/-- Both drawings have gone on. -/
def Before (p q : Pairing) : Prop :=
  p.first <+: q.first ∧ p.second <+: q.second

/-- Two identifiers were given at the same place, if every identifier was given once. -/
def Pairs (p : Pairing) (a b : String) : Prop :=
  p.Distinct → ∃ place : Nat, p.first[place]? = some a ∧ p.second[place]? = some b

variable {p q r : Pairing} {a b c d : String}

theorem Before.refl (p : Pairing) : p.Before p :=
  ⟨List.prefix_rfl, List.prefix_rfl⟩

theorem Before.trans (h : p.Before q) (h' : q.Before r) : p.Before r :=
  ⟨h.1.trans h'.1, h.2.trans h'.2⟩

/-- If no identifier has been given twice in the end, none was before. -/
theorem Before.distinct (h : p.Before q) (hq : q.Distinct) : p.Distinct :=
  ⟨hq.1.sublist h.1.sublist, hq.2.sublist h.2.sublist⟩

/-- What stands at a place of a list stands there in every list that goes on from it. -/
theorem getElem?_of_prefix {l l' : List String} (h : l <+: l') {place : Nat} {a : String}
    (ha : l[place]? = some a) : l'[place]? = some a := by
  obtain ⟨rest, rfl⟩ := h
  obtain ⟨hplace, -⟩ := List.getElem?_eq_some_iff.mp ha
  rwa [List.getElem?_append_left hplace]

/-- Identifiers that correspond go on to do so. -/
theorem Pairs.mono (h : p.Before q) (hab : p.Pairs a b) : q.Pairs a b := by
  intro hq
  obtain ⟨place, ha, hb⟩ := hab (h.distinct hq)
  exact ⟨place, getElem?_of_prefix h.1 ha, getElem?_of_prefix h.2 hb⟩

/-- An identifier that was given once has one place. -/
theorem place_unique {l : List String} (h : l.Nodup) {i j : Nat} (hi : l[i]? = some a)
    (hj : l[j]? = some a) : i = j := by
  obtain ⟨hbound, -⟩ := List.getElem?_eq_some_iff.mp hi
  exact (List.getElem?_inj hbound h).mp (hi.trans hj.symm)

/-- Identifiers correspond one to one. -/
theorem Pairs.eq_iff (hp : p.Distinct) (h : p.Pairs a b) (h' : p.Pairs c d) : a = c ↔ b = d := by
  obtain ⟨place, ha, hb⟩ := h hp
  obtain ⟨place', hc, hd⟩ := h' hp
  constructor
  · rintro rfl
    obtain rfl := place_unique hp.1 ha hc
    exact Option.some.inj (hb.symm.trans hd)
  · rintro rfl
    obtain rfl := place_unique hp.2 hb hd
    exact Option.some.inj (ha.symm.trans hc)

end Pairing

variable {α κ : Type} {p q : Pairing}

/-- Boxes that are the same up to their identifiers. -/
def Box.Matches (p : Pairing) (b c : Box α) : Prop :=
  p.Pairs b.id c.id ∧ c = { b with id := c.id }

theorem Box.Matches.mono (h : p.Before q) {b c : Box α} (hbc : b.Matches p c) : b.Matches q c :=
  ⟨hbc.1.mono h, hbc.2⟩

/-- Boxes under keys that are the same up to the identifiers of the boxes. -/
def KeyedMatch (p : Pairing) : List (κ × Box α) → List (κ × Box α) → Prop :=
  List.Forall₂ fun a b => a.1 = b.1 ∧ a.2.Matches p b.2

namespace KeyedMatch

variable {xs ys xs' ys' : List (κ × Box α)}

theorem mono (h : p.Before q) (hxs : KeyedMatch p xs ys) : KeyedMatch q xs ys :=
  List.Forall₂.imp (fun _ _ hab => ⟨hab.1, hab.2.mono h⟩) hxs

theorem append (h : KeyedMatch p xs ys) (h' : KeyedMatch p xs' ys') :
    KeyedMatch p (xs ++ xs') (ys ++ ys') :=
  List.rel_append h h'

/-- What is found under a key is a pair of boxes that match, or nothing. -/
theorem lookup [BEq κ] (h : KeyedMatch p xs ys) (key : κ) :
    Option.Rel (Box.Matches p) (xs.lookup key) (ys.lookup key) := by
  induction h with
  | nil => exact .none
  | @cons a b as bs hab _ ih =>
    obtain ⟨k, box⟩ := a
    obtain ⟨k', box'⟩ := b
    obtain ⟨rfl, hbox⟩ : k = k' ∧ box.Matches p box' := hab
    rw [List.lookup_cons, List.lookup_cons]
    cases key == k with
    | true => exact .some hbox
    | false => exact ih

end KeyedMatch

/-- Entries of groups that are the same, or refer to descriptions that correspond. -/
inductive EntryMatches (p : Pairing) : String × Value → String × Value → Prop
  | same {key : String} (value : Value) (hkey : key ∉ descriptionKeys.map Prod.fst) :
    EntryMatches p (key, value) (key, value)
  | description {key id id' : String} (hkey : key ∈ descriptionKeys.map Prod.fst)
    (hid : p.Pairs id id') : EntryMatches p (key, .text id) (key, .text id')

/-- Elements that are the same up to the identifiers in them. -/
inductive Element.Matches (p : Pairing) : Element α → Element α → Prop
  | node {n n' : Node α} (hbox : n.box.Matches p n'.box) (hgroup : p.Pairs n.group n'.group)
    (heq : n' = { n with box := n'.box, group := n'.group }) : Matches p (.node n) (.node n')
  | arrow {a a' : Arrow α} (hid : p.Pairs a.id a'.id) (hsource : a.source.Matches p a'.source)
    (htarget : a.target.Matches p a'.target) (hgroup : Option.Rel p.Pairs a.group a'.group)
    (heq : a' = { a with
      id := a'.id, source := a'.source, target := a'.target, group := a'.group }) :
    Matches p (.arrow a) (.arrow a')
  | group {g g' : Group} (hid : p.Pairs g.id g'.id)
    (hmembers : List.Forall₂ p.Pairs g.members g'.members)
    (hdata : List.Forall₂ (EntryMatches p) g.data g'.data)
    (heq : g' = { g with id := g'.id, members := g'.members, data := g'.data }) :
    Matches p (.group g) (.group g')

/-- Results that are related are so under a weaker relation. -/
theorem relation_mono {β γ : Type} {r s : β → γ → Prop} (h : ∀ {b c}, r b c → s b c)
    {b? : Option β} {c? : Option γ} (hrel : Option.Rel r b? c?) : Option.Rel s b? c? := by
  cases hrel with
  | some hbc => exact .some (h hbc)
  | none => exact .none

theorem EntryMatches.mono (h : p.Before q) {a b : String × Value} (hab : EntryMatches p a b) :
    EntryMatches q a b := by
  cases hab with
  | same value hkey => exact .same value hkey
  | description hkey hid => exact .description hkey (hid.mono h)

theorem Element.Matches.mono (h : p.Before q) {e e' : Element α} (he : e.Matches p e') :
    e.Matches q e' := by
  cases he with
  | node hbox hgroup heq => exact .node (hbox.mono h) (hgroup.mono h) heq
  | arrow hid hsource htarget hgroup heq =>
    exact .arrow (hid.mono h) (hsource.mono h) (htarget.mono h)
      (relation_mono (fun hab => hab.mono h) hgroup) heq
  | group hid hmembers hdata heq =>
    exact .group (hid.mono h) (hmembers.imp fun _ _ hab => hab.mono h)
      (hdata.imp fun _ _ hab => hab.mono h) heq

/-- The identifiers of elements that match correspond. -/
theorem Element.Matches.id {e e' : Element α} (h : e.Matches p e') : p.Pairs e.id e'.id := by
  cases h with
  | node hbox _ _ => exact hbox.1
  | arrow hid _ _ _ _ => exact hid
  | group hid _ _ _ => exact hid

/-- The identifiers in a block. -/
def Block.ids (block : Block α) : List String :=
  block.elements.map Element.id

/-- The identifiers of two blocks. -/
def Pairing.ofBlocks (b c : Block α) : Pairing :=
  ⟨b.ids, c.ids⟩

/-- Blocks that are the same up to the identifiers in them, with the same arguments skipped. -/
structure Block.Matches (b c : Block α) : Prop where
  width_eq : c.width = b.width
  height_eq : c.height = b.height
  skipped_eq : c.skipped = b.skipped
  elements : (Pairing.ofBlocks b c).Distinct →
    List.Forall₂ (Element.Matches (.ofBlocks b c)) b.elements c.elements

end PlanDiagram.Diagram
