import PlanDiagram.Proofs.Diagram.Contents

/-!
# Cells of a grid

Most nodes of a diagram stand in the cells of grids, row by row. A drawing that fills cells is
described by the nodes that it adds, in order, and by the cells in which they stand; drawings that
fill one grid in turn fill a longer run of its cells. The lowest point of the canvas goes down with
the nodes, so it tells how far down they reach.
-/

namespace PlanDiagram.Diagram

variable {α γ : Type}

section

variable [Add α] [LT α] [DecidableLT α]

/-- A drawing adds nodes, in order. It lowers the lowest point to some heights, among which are the
lower borders of the nodes. -/
structure Adds (nodes : List (Node α)) (d d' : Drawing α) : Prop where
  nodes_eq : nodesOf d'.canvas.elements = nodesOf d.canvas.elements ++ nodes
  reaches : ∃ heights : List α, d'.canvas.bottom = heights.foldl greater d.canvas.bottom ∧
    ∀ n ∈ nodes, n.box.bottom ∈ heights

namespace Adds

variable {nodes nodes' : List (Node α)} {d d' d'' : Drawing α}

/-- A drawing that changes nothing on the canvas. -/
theorem of_canvas_eq (h : d'.canvas = d.canvas) : Adds [] d d' := by
  refine ⟨by simp [h], [], by simp [h], by simp⟩

/-- A drawing that changes nothing. -/
theorem refl (d : Drawing α) : Adds [] d d :=
  of_canvas_eq rfl

/-- Two drawings in turn. -/
theorem trans (h : Adds nodes d d') (h' : Adds nodes' d' d'') : Adds (nodes ++ nodes') d d'' := by
  obtain ⟨heights, hbottom, hnodes⟩ := h.reaches
  obtain ⟨heights', hbottom', hnodes'⟩ := h'.reaches
  refine ⟨by rw [h'.nodes_eq, h.nodes_eq, List.append_assoc], heights ++ heights', ?_, ?_⟩
  · rw [hbottom', hbottom, List.foldl_append]
  · intro n hn
    rcases List.mem_append.mp hn with hn | hn
    · exact List.mem_append_left _ (hnodes n hn)
    · exact List.mem_append_right _ (hnodes' n hn)

/-- The nodes that are added are known from any description of the drawing. -/
theorem eq_of_draws {families : List Family} {asked : String × String → Prop}
    (h : Adds nodes d d') (h' : Draws families nodes' asked d d') : nodes = nodes' :=
  List.append_cancel_left (h.nodes_eq.symm.trans h'.nodes_eq)

end Adds

namespace Draw

variable {cfg : Config α} {d d' : Drawing α}

/-- Handing out a number adds nothing. -/
theorem ticket_adds {key : String} {n : Nat} (hdraw : ticket key d = .ok (n, d')) :
    Adds [] d d' :=
  .of_canvas_eq (canvas_eq_of_ticket hdraw)

/-- Lowering the lowest point adds nothing. -/
theorem extend_adds {height : α} {u : Unit} (hdraw : extend height d = .ok (u, d')) :
    Adds [] d d' := by
  obtain ⟨canvas, hcanvas, rfl⟩ := onCanvas_ok_iff.mp hdraw
  obtain ⟨-, rfl⟩ := Prod.mk.inj (Except.ok.inj hcanvas)
  exact ⟨(List.append_nil _).symm, [height], rfl, by simp⟩

/-- Drawing an arrow adds no node. -/
theorem edge_adds {source target : Box α} {id : String} {u : Unit}
    (hdraw : edge cfg source target id d = .ok (u, d')) : Adds [] d d' := by
  have hbottom : d'.canvas.bottom = d.canvas.bottom := by
    obtain ⟨canvas, hcanvas, rfl⟩ := onCanvas_ok_iff.mp hdraw
    obtain ⟨⟨arrow?, canvas'⟩, hedge, hcanvas⟩ := bind_eq_ok_iff.mp hcanvas
    obtain ⟨-, rfl⟩ := Prod.mk.inj (Except.ok.inj hcanvas)
    unfold Canvas.edge at hedge
    split at hedge
    · obtain ⟨-, rfl⟩ := Prod.mk.inj (Except.ok.inj hedge)
      rfl
    · obtain ⟨stroke, -, hedge⟩ := bind_eq_ok_iff.mp hedge
      obtain ⟨-, rfl⟩ := Prod.mk.inj (Except.ok.inj hedge)
      rfl
  have hdraws : Draws [] [] _ d d' := edge_draws hdraw
  exact ⟨hdraws.nodes_eq, [], hbottom, by simp⟩

/-- Drawing the arrows of some arguments adds no node. -/
theorem connectNames_adds {anchors : List (String × Box α)} {edgeId : String} {node : Box α}
    {names : List String} {place number : Nat} {result : Nat × List String}
    (hdraw : connectNames cfg anchors edgeId node place number names d = .ok (result, d')) :
    Adds [] d d' := by
  induction names generalizing d place number result with
  | nil =>
    obtain ⟨-, rfl⟩ := pure_ok_iff.mp hdraw
    exact .refl d
  | cons name rest ih =>
    cases hanchor : anchors.lookup name with
    | none =>
      simp only [connectNames, hanchor] at hdraw
      obtain ⟨⟨next, skipped⟩, d₁, hrest, hdraw⟩ := bind_ok_iff.mp hdraw
      obtain ⟨-, rfl⟩ := pure_ok_iff.mp hdraw
      exact ih hrest
    | some anchor =>
      simp only [connectNames, hanchor] at hdraw
      split at hdraw <;>
        · obtain ⟨u, d₁, hedge, hrest⟩ := bind_ok_iff.mp hdraw
          exact (edge_adds hedge).trans (ih hrest)

/-- Drawing the arrows of all arguments adds no node. -/
theorem connectAll_adds {anchors : List (String × Box α)} {edgeId : String}
    {drawn : List (Box α × String × List Formula)} {number : Nat} {result : Nat × List Skipped}
    (hdraw : connectAll cfg anchors edgeId number drawn d = .ok (result, d')) : Adds [] d d' := by
  induction drawn generalizing d number result with
  | nil =>
    obtain ⟨-, rfl⟩ := pure_ok_iff.mp hdraw
    exact .refl d
  | cons first rest ih =>
    obtain ⟨⟨next, skipped⟩, d₁, hnames, hdraw⟩ := bind_ok_iff.mp hdraw
    obtain ⟨⟨last, others⟩, d₂, hrest, hdraw⟩ := bind_ok_iff.mp hdraw
    obtain ⟨-, rfl⟩ := pure_ok_iff.mp hdraw
    exact (connectNames_adds hnames).trans (ih hrest)

variable {text id : String} {corner : Point α} {box : Box α}

/-- Placing a node adds it. -/
theorem adds_of_place {node : Node α} {canvas : Canvas α}
    (hplace : d.canvas.place node = (box, canvas)) :
    node.box = box ∧ Adds [node] d { d with canvas } := by
  obtain ⟨rfl, rfl⟩ := Prod.mk.inj hplace
  exact ⟨rfl, List.filterMap_append, [node.box.bottom], rfl, by simp⟩

/-- Drawing a rectangle adds a node at its corner. -/
theorem rectangle_adds {width height : α}
    (hdraw : rectangle cfg text corner id width height d = .ok (box, d')) :
    ∃ n : Node α, n.box = box ∧ Adds [n] d d' ∧ n.describes = none ∧
      box = ⟨sanitize id, corner.x, corner.y, width, height, .rectangle⟩ := by
  obtain ⟨canvas, hcanvas, rfl⟩ := onCanvas_ok_iff.mp hdraw
  obtain ⟨fill, -, hcanvas⟩ := bind_eq_ok_iff.mp hcanvas
  obtain ⟨stroke, -, hcanvas⟩ := bind_eq_ok_iff.mp hcanvas
  obtain ⟨hbox, hadds⟩ := adds_of_place (pure_eq_ok_iff.mp hcanvas)
  exact ⟨_, hbox, hadds, rfl, hbox.symm⟩

/-- Drawing an ellipse adds a node at its corner. -/
theorem ellipse_adds {role : String} (hdraw : ellipse cfg text corner id role d = .ok (box, d')) :
    ∃ n : Node α, n.box = box ∧ Adds [n] d d' ∧ n.describes = none ∧
      box = ⟨sanitize id, corner.x, corner.y, cfg.nodeWidth, cfg.nodeHeight, .ellipse⟩ := by
  obtain ⟨canvas, hcanvas, rfl⟩ := onCanvas_ok_iff.mp hdraw
  obtain ⟨fill, -, hcanvas⟩ := bind_eq_ok_iff.mp hcanvas
  obtain ⟨stroke, -, hcanvas⟩ := bind_eq_ok_iff.mp hcanvas
  obtain ⟨hbox, hadds⟩ := adds_of_place (pure_eq_ok_iff.mp hcanvas)
  exact ⟨_, hbox, hadds, rfl, hbox.symm⟩

/-- Drawing a description adds a node at its corner. -/
theorem description_adds {width height : α} {role : String}
    (hdraw : description cfg text corner id width height role d = .ok (box, d')) :
    ∃ n : Node α, n.box = box ∧ Adds [n] d d' ∧ n.describes = some role ∧
      box = ⟨sanitize id, corner.x, corner.y, width, height, .rectangle⟩ := by
  obtain ⟨canvas, hcanvas, rfl⟩ := onCanvas_ok_iff.mp hdraw
  obtain ⟨fill, -, hcanvas⟩ := bind_eq_ok_iff.mp hcanvas
  obtain ⟨stroke, -, hcanvas⟩ := bind_eq_ok_iff.mp hcanvas
  obtain ⟨hbox, hadds⟩ := adds_of_place (pure_eq_ok_iff.mp hcanvas)
  exact ⟨_, hbox, hadds, rfl, hbox.symm⟩

end Draw

end

/-- A grid of cells for nodes of one size and shape. -/
structure Grid (α : Type) where
  cfg : Config α
  left : α
  top : α
  columns : Nat
  width : α
  height : α
  shape : Shape

namespace Grid

variable [Add α] [Mul α] [Scalar α] {g : Grid α} {first last next : Nat}
  {nodes nodes' : List (Node α)}

/-- A node stands in a cell, counted row by row. -/
structure Holds (g : Grid α) (index : Nat) (n : Node α) : Prop where
  origin_eq : n.box.origin = Draw.cell g.cfg g.left g.top g.columns index
  width_eq : n.box.width = g.width
  height_eq : n.box.height = g.height
  shape_eq : n.box.shape = g.shape
  describes_eq : n.describes = none

/-- Nodes stand in consecutive cells, from a given one on. -/
def Filled (g : Grid α) (first : Nat) (nodes : List (Node α)) : Prop :=
  ∀ i n, nodes[i]? = some n → g.Holds (first + i) n

/-- No cells are filled by no nodes. -/
theorem Filled.nil (g : Grid α) (first : Nat) : g.Filled first [] :=
  fun i n h => by simp at h

/-- The nodes of one run of cells are followed by those of the next. -/
theorem Filled.append (h : g.Filled first nodes) (h' : g.Filled (first + nodes.length) nodes') :
    g.Filled first (nodes ++ nodes') := by
  intro i n hn
  rcases Nat.lt_or_ge i nodes.length with hi | hi
  · exact h i n (by rwa [List.getElem?_append_left hi] at hn)
  · rw [List.getElem?_append_right hi] at hn
    have hcell := h' (i - nodes.length) n hn
    rwa [Nat.add_assoc, Nat.add_sub_cancel' hi] at hcell

variable [LT α] [DecidableLT α] {d d' d'' : Drawing α}

/-- A drawing adds nodes in consecutive cells: those from `first` on, up to `last`. -/
structure Fills (g : Grid α) (first last : Nat) (nodes : List (Node α)) (d d' : Drawing α) :
    Prop where
  adds : Adds nodes d d'
  filled : g.Filled first nodes
  last_eq : last = first + nodes.length

namespace Fills

/-- A drawing that adds nothing fills no cell. -/
theorem of_adds (h : Adds [] d d') : g.Fills first first [] d d' :=
  ⟨h, .nil g first, rfl⟩

/-- A drawing that changes nothing fills no cell. -/
theorem refl (d : Drawing α) : g.Fills first first [] d d :=
  of_adds (.refl d)

/-- A drawing of one node fills its cell. -/
theorem singleton {n : Node α} (h : Adds [n] d d') (hcell : g.Holds first n) :
    g.Fills first (first + 1) [n] d d' := by
  refine ⟨h, fun i m hm => ?_, rfl⟩
  obtain ⟨rfl, rfl⟩ : i = 0 ∧ n = m := by simpa [List.getElem?_singleton] using hm
  exact hcell

/-- Two drawings in turn. -/
theorem trans (h : g.Fills first next nodes d d') (h' : g.Fills next last nodes' d' d'') :
    g.Fills first last (nodes ++ nodes') d d'' := by
  refine ⟨h.adds.trans h'.adds, h.filled.append (h.last_eq ▸ h'.filled), ?_⟩
  rw [h'.last_eq, h.last_eq, List.length_append, Nat.add_assoc]

/-- What adds nothing may go before. -/
theorem after (h : g.Fills first last nodes d' d'') (h' : Adds [] d d') :
    g.Fills first last nodes d d'' :=
  (of_adds h').trans h

/-- What adds nothing may follow. -/
theorem before (h : g.Fills first last nodes d d') (h' : Adds [] d' d'') :
    g.Fills first last nodes d d'' := by
  have hall := h.trans (of_adds h')
  rwa [List.append_nil] at hall

end Fills

end Grid

variable [Add α] [Mul α] [Scalar α] [LT α] [DecidableLT α] {d d' : Drawing α}

/-- The ellipses of a band, in cells of their own. -/
def ellipseGrid (cfg : Config α) (left top : α) (columns : Nat) : Grid α :=
  { cfg, left, top, columns, width := cfg.nodeWidth, height := cfg.nodeHeight, shape := .ellipse }

/-- The rectangles of parameters or objects, in cells of their own. -/
def rectangleGrid (cfg : Config α) (left top : α) (columns : Nat) : Grid α :=
  { cfg, left, top, columns, width := cfg.parameterWidth, height := cfg.parameterHeight,
    shape := .rectangle }

namespace Draw

/-- Drawing an ellipse in a cell fills it. -/
theorem ellipse_fills {cfg : Config α} {left top : α} {columns index : Nat} {text id role : String}
    {box : Box α}
    (hdraw : ellipse cfg text (cell cfg left top columns index) id role d = .ok (box, d')) :
    ∃ n : Node α, n.box = box ∧
      (ellipseGrid cfg left top columns).Fills index (index + 1) [n] d d' := by
  obtain ⟨n, hbox, hn, hdescribes, rfl⟩ := ellipse_adds hdraw
  exact ⟨n, hbox, .singleton hn ⟨by rw [hbox]; rfl, by rw [hbox]; rfl, by rw [hbox]; rfl,
    by rw [hbox]; rfl, hdescribes⟩⟩

/-- Drawing the rectangle of a parameter in a cell fills it. -/
theorem rectangle_fills {cfg : Config α} {left top : α} {columns index : Nat} {text id : String}
    {box : Box α} (hdraw : rectangle cfg text (cell cfg left top columns index) id
      cfg.parameterWidth cfg.parameterHeight d = .ok (box, d')) :
    ∃ n : Node α, n.box = box ∧
      (rectangleGrid cfg left top columns).Fills index (index + 1) [n] d d' := by
  obtain ⟨n, hbox, hn, hdescribes, rfl⟩ := rectangle_adds hdraw
  exact ⟨n, hbox, .singleton hn ⟨by rw [hbox]; rfl, by rw [hbox]; rfl, by rw [hbox]; rfl,
    by rw [hbox]; rfl, hdescribes⟩⟩

/-- A row of nodes, each in the cell of its place, is drawn by a function that draws a node for the
first of some things and goes on with the next place. -/
theorem row_fills {g : Grid α} {key : γ → String}
    {draw : Nat → List γ → Draw α (List (String × Box α))}
    {node : Nat → γ → String → Draw α (Box α)} {xs : List γ}
    {index : Nat} {boxes : List (String × Box α)} (hdraw : draw index xs d = .ok (boxes, d'))
    (hnil : ∀ index, draw index [] = pure [])
    (hcons : ∀ index x rest, draw index (x :: rest) = do
      let box ← node index x (← group)
      return (key x, box) :: (← draw (index + 1) rest))
    (hnode : ∀ {index x group d d' box}, node index x group d = .ok (box, d') →
      ∃ n : Node α, n.box = box ∧ g.Fills index (index + 1) [n] d d') :
    ∃ ns, g.Fills index (index + xs.length) ns d d' := by
  induction xs generalizing index d boxes with
  | nil =>
    rw [hnil] at hdraw
    obtain ⟨-, rfl⟩ := pure_ok_iff.mp hdraw
    exact ⟨[], .refl d⟩
  | cons x rest ih =>
    rw [hcons] at hdraw
    obtain ⟨group, d₁, hgroup, hdraw⟩ := bind_ok_iff.mp hdraw
    obtain ⟨-, rfl⟩ := group_ok_iff.mp hgroup
    obtain ⟨box, d₁, hbox, hdraw⟩ := bind_ok_iff.mp hdraw
    obtain ⟨others, d₂, hothers, hdraw⟩ := bind_ok_iff.mp hdraw
    obtain ⟨-, rfl⟩ := pure_ok_iff.mp hdraw
    obtain ⟨n, -, hn⟩ := hnode hbox
    obtain ⟨ns, hns⟩ := ih hothers
    refine ⟨[n] ++ ns, hn.trans ?_⟩
    rwa [List.length_cons, Nat.add_comm rest.length 1, ← Nat.add_assoc]

end Draw

end PlanDiagram.Diagram
