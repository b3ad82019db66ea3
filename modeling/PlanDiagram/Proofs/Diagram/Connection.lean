import PlanDiagram.Proofs.Diagram.Draw

/-!
# Arrows between literals and their arguments

The arrows that connect the literals and functions of a block with the anchors of their arguments
are numbered throughout. Anchors and connected nodes belong to families that are apart, so no arrow
leads from a node to itself.
-/

namespace PlanDiagram.Diagram

variable {α : Type} {tickets : List (String × Family)}

/-- The identifiers of arrows between literals and their arguments, by their name. -/
def connectionFamily (name : String) : Family := .trailing (name ++ "-")

/-- The identifier of an arrow that connects an argument. -/
theorem Names.connection (group : String) {name : String} (h : sanitize (name ++ "-") = name ++ "-")
    (id way : String) (n : Nat) :
    Names group (connectionFamily name) n
      (sanitize (group ++ "-" ++ name ++ "-" ++ id ++ ("-" ++ way ++ "-") ++ toString n)) := by
  have hnames := Names.trailing group rfl h (id ++ "-" ++ way) n
  simpa only [connectionFamily, String.append_assoc] using hnames

/-- Nodes are on the canvas, in families apart from that of the anchors. -/
def Connectable (d : Drawing α) (f : Family) (nodes : List (Box α × String × List Formula)) :
    Prop :=
  ∀ node ∈ nodes, ∃ g, f.Apart g ∧ Placed d g node.1

/-- Nodes of two lists can be connected if those of each can. -/
theorem Connectable.append {d : Drawing α} {f : Family}
    {front back : List (Box α × String × List Formula)} (h : Connectable d f front)
    (h' : Connectable d f back) : Connectable d f (front ++ back) :=
  List.forall_mem_append.mpr ⟨h, h'⟩

namespace Draw

/-- The arrows between a node and the anchors of its arguments. -/
theorem connectNames_step {cfg : Config α} {anchors : List (String × Box α)} {node : Box α}
    {f g : Family} {name : String} (hname : sanitize (name ++ "-") = name ++ "-")
    (hspared : ∀ t ∈ tickets, (connectionFamily name).Apart t.2) (hapart : f.Apart g)
    {names : List String} {d d' : Drawing α} {edgeId : String} {place number : Nat}
    {result : Nat × List String}
    (hdraw : connectNames cfg anchors edgeId node place number names d = .ok (result, d'))
    (hid : edgeId = d.canvas.group ++ "-" ++ name)
    (hd : d.Sound tickets) (hanchors : ∀ a ∈ anchors, Placed d f a.2) (hnode : Placed d g node)
    (hunused : d.canvas.Unused (connectionFamily name) number) :
    Step tickets [connectionFamily name] [] d d' ∧
      d'.canvas.Unused (connectionFamily name) result.1 := by
  induction names generalizing d place number result with
  | nil =>
    obtain ⟨rfl, rfl⟩ := pure_ok_iff.mp hdraw
    exact ⟨.refl hd, hunused⟩
  | cons argument rest ih =>
    cases hanchor : anchors.lookup argument with
    | none =>
      simp only [connectNames, hanchor] at hdraw
      obtain ⟨⟨next, skipped⟩, d₁, hrest, hdraw⟩ := bind_ok_iff.mp hdraw
      obtain ⟨rfl, rfl⟩ := pure_ok_iff.mp hdraw
      have hstep := ih hrest hid hd hanchors hnode hunused
      exact hstep
    | some anchor =>
      have hanchor' : Placed d f anchor := placed_of_lookup hanchor hanchors
      have hne : anchor.id ≠ node.id := hanchor'.ne hnode hapart
      have havailable : Available tickets d (connectionFamily name) number :=
        ⟨hunused, fun t ht => .inl (hspared t ht)⟩
      have hnames (way : String) : Names d.canvas.group (connectionFamily name) number
          (sanitize (edgeId ++ "-" ++ node.id ++ ("-" ++ way ++ "-") ++ toString number)) := by
        rw [hid]
        exact Names.connection d.canvas.group hname node.id way number
      -- whichever way the arrow runs, the rest is drawn under the next number
      obtain ⟨d₁, ⟨hstep, hnext⟩, hrest⟩ : ∃ d₁,
          (Step tickets [connectionFamily name] [] d d₁ ∧
            d₁.canvas.Unused (connectionFamily name) (number + 1)) ∧
          connectNames cfg anchors edgeId node (place + 1) (number + 1) rest d₁ =
            .ok (result, d') := by
        simp only [connectNames, hanchor] at hdraw
        by_cases hplace : (place == 0) = true
        · rw [if_pos hplace] at hdraw
          obtain ⟨u, d₁, hedge, hrest⟩ := bind_ok_iff.mp hdraw
          exact ⟨d₁, edge_step hedge hd (hnames "in") havailable hanchor'.1 hnode.1 hne, hrest⟩
        · rw [if_neg hplace] at hdraw
          obtain ⟨u, d₁, hedge, hrest⟩ := bind_ok_iff.mp hdraw
          exact ⟨d₁, edge_step hedge hd (hnames "out") havailable hnode.1 hanchor'.1 hne.symm,
            hrest⟩
      rw [← hstep.group_eq] at hid
      obtain ⟨hstep', hnext'⟩ := ih hrest hid hstep.sound (fun a ha => hstep.placed (hanchors a ha))
        (hstep.placed hnode) hnext
      exact ⟨hstep.trans hstep', hnext'⟩

/-- The arrows between nodes and the anchors of their arguments. -/
theorem connectAll_step {cfg : Config α} {anchors : List (String × Box α)} {f : Family}
    {name : String} (hname : sanitize (name ++ "-") = name ++ "-")
    (hspared : ∀ t ∈ tickets, (connectionFamily name).Apart t.2)
    {nodes : List (Box α × String × List Formula)} {d d' : Drawing α} {edgeId : String}
    {number : Nat} {result : Nat × List Skipped}
    (hdraw : connectAll cfg anchors edgeId number nodes d = .ok (result, d'))
    (hid : edgeId = d.canvas.group ++ "-" ++ name)
    (hd : d.Sound tickets) (hanchors : ∀ a ∈ anchors, Placed d f a.2)
    (hnodes : Connectable d f nodes)
    (hunused : d.canvas.Unused (connectionFamily name) number) :
    Step tickets [connectionFamily name] [] d d' ∧
      d'.canvas.Unused (connectionFamily name) result.1 := by
  induction nodes generalizing d number result with
  | nil =>
    obtain ⟨rfl, rfl⟩ := pure_ok_iff.mp hdraw
    exact ⟨.refl hd, hunused⟩
  | cons first rest ih =>
    obtain ⟨node, owner, arguments⟩ := first
    obtain ⟨⟨g, hapart, hnode⟩, hothers⟩ := List.forall_mem_cons.mp hnodes
    obtain ⟨⟨next, skipped⟩, d₁, hnames, hdraw⟩ := bind_ok_iff.mp hdraw
    obtain ⟨⟨last, others⟩, d₂, hrest, hdraw⟩ := bind_ok_iff.mp hdraw
    obtain ⟨rfl, rfl⟩ := pure_ok_iff.mp hdraw
    obtain ⟨hstep, hnext⟩ := connectNames_step hname hspared hapart hnames hid hd hanchors hnode
      hunused
    rw [← hstep.group_eq] at hid
    obtain ⟨hstep', hnext'⟩ := ih hrest hid hstep.sound (fun a ha => hstep.placed (hanchors a ha))
      (fun other hother => (hothers other hother).imp fun g hg => ⟨hg.1, hstep.placed hg.2⟩) hnext
    exact ⟨hstep.trans hstep', hnext'⟩

end Draw

end PlanDiagram.Diagram
