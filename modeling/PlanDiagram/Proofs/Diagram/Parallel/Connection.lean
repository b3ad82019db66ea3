import PlanDiagram.Proofs.Diagram.Parallel.Draw

/-!
# Arrows in parallel

The arrows between literals and their arguments are drawn in parallel if the nodes of the literals
match, and so do the anchors of the arguments. The same arguments are skipped on both sides.
-/

namespace PlanDiagram.Diagram.Draw

variable {α : Type}

/-- Nodes that match, of the same literals or functions. -/
def NodesMatch (p : Pairing) :
    List (Box α × String × List Formula) → List (Box α × String × List Formula) → Prop :=
  List.Forall₂ fun a b => a.1.Matches p b.1 ∧ a.2 = b.2

theorem NodesMatch.mono {p q : Pairing} (hle : p.Before q)
    {xs ys : List (Box α × String × List Formula)} (h : NodesMatch p xs ys) : NodesMatch q xs ys :=
  List.Forall₂.imp (fun _ _ hab => ⟨hab.1.mono hle, hab.2⟩) h

theorem NodesMatch.append {p : Pairing} {xs ys xs' ys' : List (Box α × String × List Formula)}
    (h : NodesMatch p xs ys) (h' : NodesMatch p xs' ys') : NodesMatch p (xs ++ xs') (ys ++ ys') :=
  List.rel_append h h'

/-- Drawing the arrows between a node and the anchors of its arguments. -/
theorem connectNames_parallel {p : Pairing} (cfg : Config α)
    {anchors anchors' : List (String × Box α)}
    (hanchors : KeyedMatch p anchors anchors') {node node' : Box α} (hnode : node.Matches p node')
    (edgeId edgeId' : String) (place number : Nat) (names : List String) :
    Parallel p (fun _ b c => b = c) (connectNames cfg anchors edgeId node place number names)
      (connectNames cfg anchors' edgeId' node' place number names) := by
  induction names generalizing p place number with
  | nil => exact .pure fun _ _ => rfl
  | cons name rest ih =>
    have hanchor := hanchors.lookup name
    simp only [connectNames]
    generalize anchors.lookup name = anchor?, anchors'.lookup name = anchor?' at hanchor
    cases hanchor with
    | none =>
      refine (ih hanchors hnode (place + 1) number).bind fun q b c _ heq => ?_
      subst heq
      exact .pure fun _ _ => rfl
    | some hanchor =>
      by_cases hplace : (place == 0) = true
      · simp only [if_pos hplace]
        exact (edge_parallel cfg hanchor hnode _ _).bind fun q _ _ hle _ =>
          ih (hanchors.mono hle) (hnode.mono hle) (place + 1) (number + 1)
      · simp only [if_neg hplace]
        exact (edge_parallel cfg hnode hanchor _ _).bind fun q _ _ hle _ =>
          ih (hanchors.mono hle) (hnode.mono hle) (place + 1) (number + 1)

/-- Drawing the arrows between nodes and the anchors of their arguments. -/
theorem connectAll_parallel {p : Pairing} (cfg : Config α)
    {anchors anchors' : List (String × Box α)}
    (hanchors : KeyedMatch p anchors anchors') (edgeId edgeId' : String) (number : Nat)
    {nodes nodes' : List (Box α × String × List Formula)} (hnodes : NodesMatch p nodes nodes') :
    Parallel p (fun _ b c => b = c) (connectAll cfg anchors edgeId number nodes)
      (connectAll cfg anchors' edgeId' number nodes') := by
  induction nodes generalizing p number nodes' with
  | nil =>
    cases hnodes
    exact .pure fun _ _ => rfl
  | cons first rest ih =>
    obtain ⟨node, owner, arguments⟩ := first
    cases hnodes with
    | @cons _ first' _ rest' hfirst hrest =>
      obtain ⟨node', owner', arguments'⟩ := first'
      obtain ⟨hnode, heq⟩ := hfirst
      obtain ⟨rfl, rfl⟩ := Prod.mk.inj heq
      refine (connectNames_parallel cfg hanchors hnode edgeId edgeId' 0 number _).bind
        fun q b c hle heq => ?_
      subst heq
      refine (ih (hanchors.mono hle) b.1 (NodesMatch.mono hle hrest)).bind fun q b c _ heq => ?_
      subst heq
      exact .pure fun _ _ => rfl

end PlanDiagram.Diagram.Draw
