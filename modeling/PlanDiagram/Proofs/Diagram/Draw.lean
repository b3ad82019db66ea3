import PlanDiagram.Proofs.Diagram.Step

/-!
# Nodes, arrows and numbers

The effect of the operations that all drawings are made of: a node or an arrow is drawn under an
identifier that is not in use, and a number is handed out by the session. A drawing that succeeds is
taken apart into the drawings that it consists of.
-/

namespace PlanDiagram.Diagram

variable {α β γ : Type}

namespace Draw

/-- Two drawings in turn succeed if the first does and the second does on the result. -/
theorem bind_ok_iff {m : Draw α β} {f : β → Draw α γ} {d d'' : Drawing α} {c : γ} :
    (m >>= f) d = .ok (c, d'') ↔ ∃ b d', m d = .ok (b, d') ∧ f b d' = .ok (c, d'') := by
  change (m d >>= fun p => f p.1 p.2) = .ok (c, d'') ↔ _
  rw [bind_eq_ok_iff]
  exact Prod.exists

/-- A drawing that only gives a result changes nothing. -/
theorem pure_ok_iff {b c : β} {d d' : Drawing α} :
    (pure b : Draw α β) d = .ok (c, d') ↔ b = c ∧ d = d' := by
  change Except.ok (b, d) = .ok (c, d') ↔ _
  rw [Except.ok.injEq, Prod.mk.injEq]

/-- A computation apart from the canvas changes nothing. -/
theorem lift_ok_iff {x : Except Fault β} {b : β} {d d' : Drawing α} :
    (liftM x : Draw α β) d = .ok (b, d') ↔ x = .ok b ∧ d = d' := by
  cases x with
  | error e => exact ⟨fun h => (by cases h), fun h => (by cases h.1)⟩
  | ok a =>
    change Except.ok (a, d) = .ok (b, d') ↔ _
    rw [Except.ok.injEq, Except.ok.injEq, Prod.mk.injEq]

/-- Asking for the group changes nothing. -/
theorem group_ok_iff {g : String} {d d' : Drawing α} :
    (group : Draw α String) d = .ok (g, d') ↔ d.canvas.group = g ∧ d = d' := by
  change Except.ok (d.canvas.group, d) = .ok (g, d') ↔ _
  rw [Except.ok.injEq, Prod.mk.injEq]

/-- Asking for the drawing changes nothing. -/
theorem get_ok_iff {b d d' : Drawing α} :
    (get : Draw α (Drawing α)) d = .ok (b, d') ↔ d = b ∧ d = d' := by
  change Except.ok (d, d) = .ok (b, d') ↔ _
  rw [Except.ok.injEq, Prod.mk.injEq]

/-- What is drawn in a cell is drawn at its corner, and there are columns. -/
theorem inCell_ok_iff [Add α] [Mul α] [Scalar α] {cfg : Config α} {left top : α}
    {columns index : Nat} {draw : Point α → Draw α β} {d d' : Drawing α} {b : β} :
    inCell cfg left top columns index draw d = .ok (b, d') ↔
      0 < columns ∧ draw (cell cfg left top columns index) d = .ok (b, d') := by
  unfold inCell
  split
  · rename_i hcolumns
    simp [hcolumns]
  · rename_i hcolumns
    rw [and_iff_right (Nat.pos_of_ne_zero hcolumns)]

/-- A step on the canvas leaves the session alone. -/
theorem onCanvas_ok_iff {step : Canvas α → Except Fault (β × Canvas α)} {b : β}
    {d d' : Drawing α} :
    onCanvas step d = .ok (b, d') ↔
      ∃ canvas, step d.canvas = .ok (b, canvas) ∧ d' = { d with canvas } := by
  unfold onCanvas
  rw [bind_eq_ok_iff]
  constructor
  · rintro ⟨⟨a, canvas⟩, hstep, h⟩
    obtain ⟨rfl, rfl⟩ := Prod.mk.inj (Except.ok.inj h)
    exact ⟨canvas, hstep, rfl⟩
  · rintro ⟨canvas, hstep, rfl⟩
    exact ⟨(b, canvas), hstep, rfl⟩

end Draw

/-- Handing out a number never lowers the number to be handed out next. -/
theorem Session.upcoming_le_next (s : Session) (key other : String) :
    s.upcoming other ≤ (s.next key).2.upcoming other := by
  by_cases h : other = key
  · subst h
    rw [upcoming_next]
    omega
  · refine Nat.le_of_eq ?_
    simp only [next, upcoming, Entries.lookup_put_of_ne _ _ h]

/-- A number of a family is available for a new element: it is not in use, and the session will not
hand it out for the family. -/
structure Available (tickets : List (String × Family)) (d : Drawing α) (f : Family) (n : Nat) :
    Prop where
  unused : d.canvas.Unused f n
  spared : ∀ t ∈ tickets,
    f.Apart t.2 ∨ t.2 = f ∧ n < d.session.upcoming (d.canvas.group ++ ":" ++ t.1)

/-- A new node has been drawn under a number of a family. -/
structure Drawn (tickets : List (String × Family)) (f : Family) (n : Nat)
    (told : List (String × String)) (d d' : Drawing α) (box : Box α) : Prop where
  step : Step tickets [f] told d d'
  unused : d'.canvas.Unused f (n + 1)
  placed : Placed d' f box
  new : box.id ∉ nodeIds d.canvas.elements

/-- An element under an available number keeps the session out of its way. -/
theorem Available.unused_append {tickets : List (String × Family)} {d : Drawing α} {f : Family}
    {n : Nat} {canvas : Canvas α} {e : Element α} (h : Available tickets d f n)
    (hd : d.Sound tickets) (hgroup : canvas.group = d.canvas.group)
    (helements : canvas.elements = d.canvas.elements ++ [e])
    (hnames : Names d.canvas.group f n e.id) :
    canvas.Unused f (n + 1) ∧ ∀ t ∈ tickets,
      canvas.Unused t.2 (d.session.upcoming (canvas.group ++ ":" ++ t.1)) := by
  constructor
  · have hlater : d.canvas.Unused f (n + 1) := h.unused.mono (Nat.le_succ n)
    exact hlater.append hgroup helements hnames (.inr ⟨rfl, Nat.lt_succ_self n⟩)
  · intro t ht
    rw [hgroup]
    exact (hd.unused t ht).append hgroup helements hnames (h.spared t ht)

variable {tickets : List (String × Family)} {d d' : Drawing α} {f : Family} {n : Nat}

/-- An arrow under an available number is a step. -/
theorem step_of_arrow {arrow : Arrow α} {canvas : Canvas α} (hd : d.Sound tickets)
    (hgroup : canvas.group = d.canvas.group)
    (helements : canvas.elements = d.canvas.elements ++ [.arrow arrow])
    (hconnected : canvas.connected = (arrow.source.id, arrow.target.id) :: d.canvas.connected)
    (howner : arrow.group = some d.canvas.group) (hnames : Names d.canvas.group f n arrow.id)
    (h : Available tickets d f n) (hsource : arrow.source.id ∈ nodeIds d.canvas.elements)
    (htarget : arrow.target.id ∈ nodeIds d.canvas.elements)
    (hne : arrow.source.id ≠ arrow.target.id)
    (hnew : (arrow.source.id, arrow.target.id) ∉ d.canvas.connected) :
    Step tickets [f] [] d { d with canvas } ∧ canvas.Unused f (n + 1) := by
  obtain ⟨hunused, htickets⟩ := h.unused_append hd hgroup helements hnames
  have hsound : canvas.Sound := hd.canvas.append_arrow hgroup helements hconnected howner hnames
    h.unused hsource htarget hne hnew
  refine ⟨⟨⟨hsound, htickets⟩, hgroup, ⟨[.arrow arrow], helements, ?_⟩, ?_⟩, hunused⟩
  · intro e he
    rw [List.mem_singleton] at he
    subst he
    exact ⟨f, List.mem_singleton_self f, n, hnames⟩
  · rw [helements]
    exact List.filterMap_append

section

variable [Add α] [LT α] [DecidableLT α]

/-- Placing a node under an available number draws it. -/
theorem drawn_of_place {node : Node α} {box : Box α} {canvas : Canvas α}
    (hplace : d.canvas.place node = (box, canvas)) (hd : d.Sound tickets)
    (howner : node.group = d.canvas.group) (hnames : Names d.canvas.group f n node.box.id)
    (h : Available tickets d f n) :
    Drawn tickets f n (node.describes.map fun role => (role, node.box.id)).toList d
      { d with canvas } box := by
  obtain ⟨rfl, rfl⟩ := Prod.ext_iff.mp hplace
  have hgroup : (d.canvas.place node).2.group = d.canvas.group := rfl
  have helements : (d.canvas.place node).2.elements = d.canvas.elements ++ [.node node] := rfl
  obtain ⟨hunused, htickets⟩ := h.unused_append hd hgroup helements hnames
  have hsound : (d.canvas.place node).2.Sound :=
    hd.canvas.append_node hgroup helements rfl howner hnames h.unused
  refine ⟨⟨⟨hsound, htickets⟩, hgroup, ⟨[.node node], helements, ?_⟩, ?_⟩, hunused, ⟨?_, n, hnames⟩,
    fun hmem => h.unused.id_not_mem hnames (mem_ids_of_mem_nodeIds hmem)⟩
  · intro e he
    rw [List.mem_singleton] at he
    subst he
    exact ⟨f, List.mem_singleton_self f, n, hnames⟩
  · rw [helements, descriptions, List.filterMap_append]
    cases hdescribes : node.describes <;> simp [descriptions, Element.description?, hdescribes]
  · rw [helements, nodeIds, List.filterMap_append]
    exact List.mem_append_right _ (List.mem_singleton_self _)

namespace Draw

variable {cfg : Config α} {text id role : String} {corner : Point α} {width height : α}
  {box : Box α}

/-- Drawing a rectangle draws a node. -/
theorem rectangle_drawn (hdraw : rectangle cfg text corner id width height d = .ok (box, d'))
    (hd : d.Sound tickets) (hnames : Names d.canvas.group f n (sanitize id))
    (h : Available tickets d f n) : Drawn tickets f n [] d d' box := by
  obtain ⟨canvas, hcanvas, rfl⟩ := onCanvas_ok_iff.mp hdraw
  obtain ⟨fill, -, hcanvas⟩ := bind_eq_ok_iff.mp hcanvas
  obtain ⟨stroke, -, hcanvas⟩ := bind_eq_ok_iff.mp hcanvas
  exact drawn_of_place (pure_eq_ok_iff.mp hcanvas) hd rfl hnames h

/-- Drawing an ellipse draws a node. -/
theorem ellipse_drawn (hdraw : ellipse cfg text corner id role d = .ok (box, d'))
    (hd : d.Sound tickets) (hnames : Names d.canvas.group f n (sanitize id))
    (h : Available tickets d f n) : Drawn tickets f n [] d d' box := by
  obtain ⟨canvas, hcanvas, rfl⟩ := onCanvas_ok_iff.mp hdraw
  obtain ⟨fill, -, hcanvas⟩ := bind_eq_ok_iff.mp hcanvas
  obtain ⟨stroke, -, hcanvas⟩ := bind_eq_ok_iff.mp hcanvas
  exact drawn_of_place (pure_eq_ok_iff.mp hcanvas) hd rfl hnames h

/-- Drawing a description draws a node that tells of what the role names. -/
theorem description_drawn
    (hdraw : description cfg text corner id width height role d = .ok (box, d'))
    (hd : d.Sound tickets) (hnames : Names d.canvas.group f n (sanitize id))
    (h : Available tickets d f n) : Drawn tickets f n [(role, sanitize id)] d d' box := by
  obtain ⟨canvas, hcanvas, rfl⟩ := onCanvas_ok_iff.mp hdraw
  obtain ⟨fill, -, hcanvas⟩ := bind_eq_ok_iff.mp hcanvas
  obtain ⟨stroke, -, hcanvas⟩ := bind_eq_ok_iff.mp hcanvas
  exact drawn_of_place (pure_eq_ok_iff.mp hcanvas) hd rfl hnames h

omit [Add α] in
/-- Lowering the lowest point draws nothing. -/
theorem extend_step {families : List Family} {u : Unit}
    (hdraw : extend height d = .ok (u, d')) (hd : d.Sound tickets) :
    Step tickets families [] d d' := by
  obtain ⟨canvas, hcanvas, rfl⟩ := onCanvas_ok_iff.mp hdraw
  obtain ⟨-, rfl⟩ := Prod.mk.inj (Except.ok.inj hcanvas)
  have hsound : (d.canvas.extend height).Sound := ⟨hd.canvas.ids_nodup, hd.canvas.ne_group,
    hd.canvas.owner_eq, hd.canvas.ends, hd.canvas.connected_iff, hd.canvas.connections_nodup⟩
  exact ⟨⟨hsound, hd.unused⟩, rfl, ⟨[], (List.append_nil _).symm, by simp⟩,
    (List.append_nil _).symm⟩

end Draw

end

namespace Draw

/-- Drawing an arrow between two different nodes is a step, and leaves the next number unused. -/
theorem edge_step {cfg : Config α} {source target : Box α} {id : String} {u : Unit}
    (hdraw : edge cfg source target id d = .ok (u, d')) (hd : d.Sound tickets)
    (hnames : Names d.canvas.group f n (sanitize id)) (h : Available tickets d f n)
    (hsource : source.id ∈ nodeIds d.canvas.elements)
    (htarget : target.id ∈ nodeIds d.canvas.elements) (hne : source.id ≠ target.id) :
    Step tickets [f] [] d d' ∧ d'.canvas.Unused f (n + 1) := by
  obtain ⟨canvas, hcanvas, rfl⟩ := onCanvas_ok_iff.mp hdraw
  obtain ⟨⟨arrow?, canvas'⟩, hedge, hcanvas⟩ := bind_eq_ok_iff.mp hcanvas
  obtain ⟨-, rfl⟩ := Prod.mk.inj (Except.ok.inj hcanvas)
  unfold Canvas.edge at hedge
  split at hedge
  · -- the arrow repeats one
    obtain ⟨-, rfl⟩ := Prod.mk.inj (Except.ok.inj hedge)
    exact ⟨.refl hd, h.unused.mono (Nat.le_succ n)⟩
  · rename_i hnew
    obtain ⟨stroke, -, hedge⟩ := bind_eq_ok_iff.mp hedge
    obtain ⟨-, rfl⟩ := Prod.mk.inj (Except.ok.inj hedge)
    exact step_of_arrow hd rfl rfl rfl rfl hnames h hsource htarget hne (by simpa using hnew)

/-- Handing out a number leaves the canvas alone. -/
theorem canvas_eq_of_ticket {key : String} (hdraw : ticket key d = .ok (n, d')) :
    d'.canvas = d.canvas := by
  obtain ⟨-, rfl⟩ := Prod.mk.inj (Except.ok.inj hdraw)
  rfl

/-- Handing out a number is a step. -/
theorem ticket_step {families : List Family} {key : String}
    (hdraw : ticket key d = .ok (n, d')) (hd : d.Sound tickets) :
    Step tickets families [] d d' := by
  obtain ⟨-, rfl⟩ := Prod.mk.inj (Except.ok.inj hdraw)
  have hsound : Drawing.Sound tickets
      { d with session := (d.session.next (d.canvas.group ++ ":" ++ key)).2 } :=
    ⟨hd.canvas, fun t ht => (hd.unused t ht).mono (d.session.upcoming_le_next _ _)⟩
  exact ⟨hsound, rfl, ⟨[], (List.append_nil _).symm, by simp⟩, (List.append_nil _).symm⟩

/-- The number that the session hands out is available for the family of its key. -/
theorem available_of_ticket {key : String} (hdraw : ticket key d = .ok (n, d'))
    (hd : d.Sound tickets) (hmem : (key, f) ∈ tickets)
    (hspared : ∀ t ∈ tickets, f.Apart t.2 ∨ t = (key, f)) : Available tickets d' f n := by
  obtain ⟨rfl, rfl⟩ := Prod.mk.inj (Except.ok.inj hdraw)
  refine ⟨hd.unused (key, f) hmem, fun t ht => ?_⟩
  rcases hspared t ht with hapart | rfl
  · exact .inl hapart
  · refine .inr ⟨rfl, ?_⟩
    change _ < (d.session.next (d.canvas.group ++ ":" ++ key)).2.upcoming _
    rw [Session.upcoming_next]
    exact Nat.lt_succ_self _

/-- Drawing an arrow under the number that the session has just handed out is a step. -/
theorem edge_step_of_ticket {cfg : Config α} {source target : Box α} {key id : String} {u : Unit}
    {d₁ : Drawing α} (hticket : ticket key d = .ok (n, d₁))
    (hdraw : edge cfg source target id d₁ = .ok (u, d')) (hd : d.Sound tickets)
    (hmem : (key, f) ∈ tickets) (hspared : ∀ t ∈ tickets, f.Apart t.2 ∨ t = (key, f))
    (hnames : Names d.canvas.group f n (sanitize id))
    (hsource : source.id ∈ nodeIds d.canvas.elements)
    (htarget : target.id ∈ nodeIds d.canvas.elements) (hne : source.id ≠ target.id) :
    Step tickets [f] [] d d' := by
  have hstep : Step tickets [f] [] d d₁ := ticket_step hticket hd
  have havailable := available_of_ticket hticket hd hmem hspared
  rw [← canvas_eq_of_ticket hticket] at hnames hsource htarget
  have hedge := edge_step hdraw hstep.sound hnames havailable hsource htarget hne
  exact hstep.trans hedge.1

/-- Drawing an ellipse under the number that the session has just handed out draws a node. -/
theorem ellipse_step_of_ticket [Add α] [LT α] [DecidableLT α] {cfg : Config α}
    {text key id role : String} {corner : Point α} {box : Box α} {d₁ : Drawing α}
    (hticket : ticket key d = .ok (n, d₁))
    (hdraw : ellipse cfg text corner id role d₁ = .ok (box, d')) (hd : d.Sound tickets)
    (hmem : (key, f) ∈ tickets) (hspared : ∀ t ∈ tickets, f.Apart t.2 ∨ t = (key, f))
    (hnames : Names d.canvas.group f n (sanitize id)) :
    Step tickets [f] [] d d' ∧ Placed d' f box ∧ box.id ∉ nodeIds d.canvas.elements := by
  have hstep : Step tickets [f] [] d d₁ := ticket_step hticket hd
  have havailable := available_of_ticket hticket hd hmem hspared
  rw [← canvas_eq_of_ticket hticket] at hnames ⊢
  have hdrawn := ellipse_drawn hdraw hstep.sound hnames havailable
  exact ⟨hstep.trans hdrawn.step, hdrawn.placed, hdrawn.new⟩

/-- A step that is left out if there is nothing to draw it for has changed nothing, or has drawn
what there is. -/
theorem optional_ok (x? : Option β) (draw : β → Draw α Unit) {step next : Draw α γ} {c : γ}
    (hdraw : step d = .ok (c, d')) (hnone : x? = none → step = next)
    (hsome : ∀ x, x? = some x → step = draw x >>= fun _ => next) :
    ∃ d₁, next d₁ = .ok (c, d') ∧
      (x? = none ∧ d₁ = d ∨ ∃ x, x? = some x ∧ draw x d = .ok ((), d₁)) := by
  cases hx? : x? with
  | none =>
    rw [hnone hx?] at hdraw
    exact ⟨d, hdraw, .inl ⟨rfl, rfl⟩⟩
  | some x =>
    rw [hsome x hx?] at hdraw
    obtain ⟨u, d₁, hx, hnext⟩ := bind_ok_iff.mp hdraw
    exact ⟨d₁, hnext, .inr ⟨x, rfl, hx⟩⟩

/-- A row of nodes, each under its place in the row, keeps to one family. The row is drawn by a
function that draws a node for the first of some things and goes on with the next place. -/
theorem row_step {draw : Nat → List γ → Draw α (List (String × Box α))}
    {node : Nat → γ → String → Draw α (Box α)} {key : γ → String} {p : γ → Prop} {xs : List γ}
    {index : Nat} {nodes : List (String × Box α)} (hdraw : draw index xs d = .ok (nodes, d'))
    (hnil : ∀ index, draw index [] = pure [])
    (hcons : ∀ index x rest, draw index (x :: rest) = do
      let box ← node index x (← group)
      return (key x, box) :: (← draw (index + 1) rest))
    (hxs : ∀ x ∈ xs, p x)
    (hnode : ∀ {index x d d' box}, node index x d.canvas.group d = .ok (box, d') → p x →
      d.Sound tickets → d.canvas.Unused f index → Drawn tickets f index [] d d' box)
    (hd : d.Sound tickets) (hunused : d.canvas.Unused f index) :
    Step tickets [f] [] d d' ∧ ∀ node ∈ nodes, Placed d' f node.2 := by
  induction xs generalizing index d nodes with
  | nil =>
    rw [hnil] at hdraw
    obtain ⟨rfl, rfl⟩ := pure_ok_iff.mp hdraw
    exact ⟨.refl hd, by simp⟩
  | cons x rest ih =>
    obtain ⟨hx, hrest⟩ := List.forall_mem_cons.mp hxs
    rw [hcons] at hdraw
    obtain ⟨g, d₁, hgroup, hdraw⟩ := bind_ok_iff.mp hdraw
    obtain ⟨rfl, rfl⟩ := group_ok_iff.mp hgroup
    obtain ⟨box, d₁, hbox, hdraw⟩ := bind_ok_iff.mp hdraw
    obtain ⟨others, d₂, hothers, hdraw⟩ := bind_ok_iff.mp hdraw
    obtain ⟨rfl, rfl⟩ := pure_ok_iff.mp hdraw
    have hdrawn := hnode hbox hx hd hunused
    obtain ⟨hstep, hplaced⟩ := ih hothers hrest hdrawn.step.sound hdrawn.unused
    exact ⟨hdrawn.step.trans hstep,
      List.forall_mem_cons.mpr ⟨hstep.placed hdrawn.placed, hplaced⟩⟩

/-- A band keeps to the family of its row, and draws nothing if it is left out. -/
theorem band_step {omitted : Prop} [Decidable omitted] {row : Draw α (List (String × Box α))}
    {cursor : γ} {next : List (String × Box α) → γ} {result : List (String × Box α) × γ}
    (hdraw : (if omitted then return ([], cursor) else do
      let nodes ← row
      return (nodes, next nodes) : Draw α (List (String × Box α) × γ)) d = .ok (result, d'))
    (hd : d.Sound tickets)
    (hrow : ∀ nodes, row d = .ok (nodes, d') →
      Step tickets [f] [] d d' ∧ ∀ node ∈ nodes, Placed d' f node.2) :
    Step tickets [f] [] d d' ∧ ∀ node ∈ result.1, Placed d' f node.2 := by
  split at hdraw
  · obtain ⟨rfl, rfl⟩ := pure_ok_iff.mp hdraw
    exact ⟨.refl hd, by simp⟩
  · obtain ⟨nodes, d₁, hnodes, hdraw⟩ := bind_ok_iff.mp hdraw
    obtain ⟨rfl, rfl⟩ := pure_ok_iff.mp hdraw
    exact hrow nodes hnodes

end Draw

end PlanDiagram.Diagram
