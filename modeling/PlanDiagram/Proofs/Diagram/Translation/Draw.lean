import PlanDiagram.Proofs.Diagram.Geometry
import PlanDiagram.Proofs.Diagram.Translation.Element

/-!
# Drawing at another place

A step of a drawing carries over to another place if it does not matter whether the drawing is moved
before the step or after it: the step at the other place gives the moved result and leaves the moved
drawing, or fails with the same fault. The laws below are those of the steps that all drawings are
made of, and of putting steps together; what is drawn with them carries over by a proof that follows
its definition.
-/

namespace PlanDiagram.Diagram

variable {β γ β' γ' : Type}

/-- A way to move a drawing: what is drawn is moved by an offset, and the lowest point goes where it
takes up the moved heights. -/
structure Shift where
  offset : Point Rat
  lowest : Rat → Rat
  lowest_greater : ∀ a b, lowest (greater a b) = greater (lowest a) (b + offset.y)

namespace Shift

/-- The lowest point is moved by the offset too. -/
def plain (v : Point Rat) : Shift where
  offset := v
  lowest a := a + v.y
  lowest_greater a b := by
    rw [greater_eq_max, greater_eq_max, max_add_add_right]

/-- The lowest point is moved by the offset too, and then lowered to a limit at least. -/
def downTo (limit : Rat) (v : Point Rat) : Shift where
  offset := v
  lowest a := greater limit (a + v.y)
  lowest_greater a b := by
    simp only [greater_eq_max]
    rw [← max_add_add_right, max_assoc]

end Shift

/-- A canvas that is moved. -/
def Canvas.shift (c : Canvas Rat) (σ : Shift) : Canvas Rat :=
  { c with
    bottom := σ.lowest c.bottom
    elements := c.elements.map (·.move σ.offset) }

/-- A drawing that is moved. -/
def Drawing.shift (d : Drawing Rat) (σ : Shift) : Drawing Rat :=
  { d with canvas := d.canvas.shift σ }

/-- Nodes under their names, moved. -/
def moveNodes (nodes : List (String × Box Rat)) (v : Point Rat) : List (String × Box Rat) :=
  nodes.map fun node => (node.1, node.2.move v)

/-- A moved node is found under its name. -/
theorem lookup_moveNodes (nodes : List (String × Box Rat)) (v : Point Rat) (name : String) :
    (moveNodes nodes v).lookup name = (nodes.lookup name).map (·.move v) := by
  induction nodes with
  | nil => rfl
  | cons node rest ih =>
    obtain ⟨other, box⟩ := node
    simp only [moveNodes, List.map_cons, List.lookup_cons] at ih ⊢
    cases name == other with
    | true => rfl
    | false => exact ih

namespace Draw

/-- The step `m` carries over to the step `m'` at the other place. Results are moved by `f`. -/
def Carries (σ : Shift) (f : β → γ) (m : Draw Rat β) (m' : Draw Rat γ) : Prop :=
  ∀ d, m' (d.shift σ) = (m d).map (Prod.map f (·.shift σ))

namespace Carries

variable {σ : Shift} {f : β → γ} {g : β' → γ'} {m : Draw Rat β} {m' : Draw Rat γ}

/-- Two steps in turn carry over if the first one does, and the second one does for each result of
the first. -/
theorem bind {k : β → Draw Rat β'} {k' : γ → Draw Rat γ'} (h : Carries σ f m m')
    (hk : ∀ b, Carries σ g (k b) (k' (f b))) : Carries σ g (m >>= k) (m' >>= k') := by
  intro d
  change (m' (d.shift σ) >>= fun r => k' r.1 r.2) = ((m d) >>= fun r => k r.1 r.2).map _
  rw [h d]
  cases m d with
  | error fault => rfl
  | ok r => exact hk r.1 r.2

/-- A step that only gives a result. -/
theorem pure {b : β} {c : γ} (h : c = f b) : Carries σ f (Pure.pure b) (Pure.pure c) :=
  fun _ => congrArg (fun c => Except.ok (c, _)) h

/-- A computation apart from the canvas. -/
theorem lift (x : Except Fault β) : Carries σ (fun b => b) (liftM x) (liftM x) := by
  intro d
  cases x <;> rfl

end Carries

variable (σ : Shift) (cfg : Config Rat)

/-- Asking for the group. -/
theorem group_carries : Carries σ (fun g => g) group group :=
  fun _ => rfl

/-- Handing out a number. -/
theorem ticket_carries (key : String) : Carries σ (fun n => n) (ticket key) (ticket key) :=
  fun _ => rfl

/-- Asking for the drawing. -/
theorem get_carries : Carries σ (·.shift σ) (get : Draw Rat (Drawing Rat)) get :=
  fun _ => rfl

/-- A moved cell is a cell of the moved grid. -/
theorem cell_move (left top : Rat) (columns index : Nat) (v : Point Rat) :
    cell cfg (left + v.x) (top + v.y) columns index =
      (cell cfg left top columns index).move v :=
  congrArg₂ Point.mk (add_right_comm _ _ _) (add_right_comm _ _ _)

/-- Placing a node in two colours, either of which may be unknown. -/
theorem place_carries (fill stroke : Except Fault String)
    (node : String → String → String → Node Rat) : Carries σ (·.move σ.offset)
      (onCanvas fun c => do
        let fill ← fill
        let stroke ← stroke
        return c.place (node fill stroke c.group))
      (onCanvas fun c => do
        let fill ← fill
        let stroke ← stroke
        return c.place ((node fill stroke c.group).move σ.offset)) := by
  intro d
  cases fill with
  | error fault => rfl
  | ok fill =>
    cases stroke with
    | error fault => rfl
    | ok stroke =>
      have hbottom := σ.lowest_greater d.canvas.bottom (node fill stroke d.canvas.group).box.bottom
      rw [← Box.bottom_move] at hbottom
      simp only [onCanvas, Except.map, bind, Except.bind, pure, Except.pure, Prod.map, Canvas.place,
        Canvas.extend, Drawing.shift, Canvas.shift, hbottom, List.map_append]
      rfl

/-- Drawing a rectangle. -/
theorem rectangle_carries (text : String) (corner : Point Rat) (id : String)
    (width height : Rat) : Carries σ (·.move σ.offset)
      (rectangle cfg text corner id width height)
      (rectangle cfg text (corner.move σ.offset) id width height) :=
  place_carries σ _ _ fun fill stroke group =>
    { box := ⟨sanitize id, corner.x, corner.y, width, height, .rectangle⟩
      text, fill, stroke, group }

/-- Drawing an ellipse. -/
theorem ellipse_carries (text : String) (corner : Point Rat) (id role : String) :
    Carries σ (·.move σ.offset) (ellipse cfg text corner id role)
      (ellipse cfg text (corner.move σ.offset) id role) :=
  place_carries σ _ _ fun fill stroke group =>
    { box := ⟨sanitize id, corner.x, corner.y, cfg.nodeWidth, cfg.nodeHeight, .ellipse⟩
      text, fill, stroke, group }

/-- Drawing a description. -/
theorem description_carries (text : String) (corner : Point Rat) (id : String)
    (width height : Rat) (role : String) : Carries σ (·.move σ.offset)
      (description cfg text corner id width height role)
      (description cfg text (corner.move σ.offset) id width height role) :=
  place_carries σ _ _ fun fill stroke group =>
    { box := ⟨sanitize id, corner.x, corner.y, width, height, .rectangle⟩
      text, fill, stroke, group
      align := if role == "problem-init" then .left else .center
      describes := some role }

/-- Lowering the lowest point. -/
theorem extend_carries (height : Rat) :
    Carries σ (fun u => u) (extend height) (extend (height + σ.offset.y)) := by
  intro d
  have hbottom := σ.lowest_greater d.canvas.bottom height
  simp only [extend, onCanvas, Canvas.extend, Drawing.shift, Canvas.shift, ← hbottom]
  rfl

/-- Drawing an arrow. Whether it repeats one is told from the identifiers of the boxes. -/
theorem edge_carries (source target : Box Rat) (id : String) :
    Carries σ (fun u => u) (edge cfg source target id)
      (edge cfg (source.move σ.offset) (target.move σ.offset) id) := by
  intro d
  have hconnected : (d.shift σ).canvas.connected = d.canvas.connected := rfl
  simp only [edge, onCanvas, Canvas.edge, Box.id_move, hconnected]
  split
  · rfl
  · cases cfg.colour "edge" with
    | error fault => rfl
    | ok stroke =>
      simp only [Except.map, bind, Except.bind, pure, Except.pure, Prod.map, Drawing.shift,
        Canvas.shift, List.map_append]
      rfl

/-- Drawing in a cell of a grid that is moved, which fails as before if there are no columns. -/
theorem inCell_carries {left top : Rat} {columns index : Nat} {f : β → γ}
    {draw : Point Rat → Draw Rat β} {draw' : Point Rat → Draw Rat γ}
    (hdraw : ∀ corner, Carries σ f (draw corner) (draw' (corner.move σ.offset))) :
    Carries σ f (inCell cfg left top columns index draw)
      (inCell cfg (left + σ.offset.x) (top + σ.offset.y) columns index draw') := by
  unfold inCell
  split
  · exact fun _ => rfl
  · rw [cell_move]
    exact hdraw _

/-- Drawing a row of nodes, each under its place in the row. -/
theorem row_carries (draw draw' : Nat → List γ → Draw Rat (List (String × Box Rat)))
    {node node' : Nat → γ → String → Draw Rat (Box Rat)} {key : γ → String}
    (hnil : ∀ index, draw index [] = pure [] ∧ draw' index [] = pure [])
    (hcons : ∀ index x rest, (draw index (x :: rest) = do
      let box ← node index x (← group)
      return (key x, box) :: (← draw (index + 1) rest)) ∧ draw' index (x :: rest) = do
      let box ← node' index x (← group)
      return (key x, box) :: (← draw' (index + 1) rest))
    (hnode : ∀ index x g, Carries σ (·.move σ.offset) (node index x g) (node' index x g))
    (index : Nat) (xs : List γ) :
    Carries σ (moveNodes · σ.offset) (draw index xs) (draw' index xs) := by
  induction xs generalizing index with
  | nil =>
    rw [(hnil index).1, (hnil index).2]
    exact .pure rfl
  | cons x rest ih =>
    rw [(hcons index x rest).1, (hcons index x rest).2]
    refine (group_carries σ).bind fun g => ?_
    refine (hnode index x g).bind fun box => ?_
    exact (ih (index + 1)).bind fun others => .pure rfl

/-- Drawing a band that consists of a row, unless it is left out. -/
theorem band_carries {omitted : Prop} [Decidable omitted]
    {row row' : Draw Rat (List (String × Box Rat))}
    (hrow : Carries σ (moveNodes · σ.offset) row row') {f : γ → γ'} {cursor next : γ}
    {cursor' next' : γ'} (hcursor : cursor' = f cursor) (hnext : next' = f next) :
    Carries σ (Prod.map (moveNodes · σ.offset) f)
      (if omitted then return ([], cursor) else do
        let nodes ← row
        return (nodes, next))
      (if omitted then return ([], cursor') else do
        let nodes ← row'
        return (nodes, next')) := by
  subst hcursor hnext
  split
  · exact .pure rfl
  · exact hrow.bind fun nodes => .pure rfl

/-- Drawing the arrows between a node and the anchors of its arguments. -/
theorem connectNames_carries (anchors : List (String × Box Rat)) (edgeId : String) (node : Box Rat)
    (place number : Nat) (names : List String) :
    Carries σ (fun r => r) (connectNames cfg anchors edgeId node place number names)
      (connectNames cfg (moveNodes anchors σ.offset) edgeId (node.move σ.offset) place number
        names) := by
  induction names generalizing place number with
  | nil => exact .pure rfl
  | cons name rest ih =>
    simp only [connectNames, lookup_moveNodes, Box.id_move]
    cases anchors.lookup name with
    | none => exact (ih (place + 1) number).bind fun r => .pure rfl
    | some anchor =>
      dsimp only [Option.map_some]
      split
      · exact (edge_carries σ cfg anchor node _).bind fun _ => ih (place + 1) (number + 1)
      · exact (edge_carries σ cfg node anchor _).bind fun _ => ih (place + 1) (number + 1)

/-- Nodes of literals or functions, moved. -/
def moveDrawn (nodes : List (Box Rat × String × List Formula)) (v : Point Rat) :
    List (Box Rat × String × List Formula) :=
  nodes.map fun node => (node.1.move v, node.2)

theorem moveDrawn_append (nodes nodes' : List (Box Rat × String × List Formula)) (v : Point Rat) :
    moveDrawn (nodes ++ nodes') v = moveDrawn nodes v ++ moveDrawn nodes' v :=
  List.map_append

/-- Drawing the arrows between nodes and the anchors of their arguments. -/
theorem connectAll_carries (anchors : List (String × Box Rat)) (edgeId : String) (number : Nat)
    (nodes : List (Box Rat × String × List Formula)) :
    Carries σ (fun r => r) (connectAll cfg anchors edgeId number nodes)
      (connectAll cfg (moveNodes anchors σ.offset) edgeId number (moveDrawn nodes σ.offset)) := by
  induction nodes generalizing number with
  | nil => exact .pure rfl
  | cons node rest ih =>
    obtain ⟨box, owner, arguments⟩ := node
    refine (connectNames_carries σ cfg anchors edgeId box 0 number _).bind fun r => ?_
    exact (ih r.1).bind fun others => .pure rfl

end Draw

/-- The elements of a moved canvas are those of the canvas, moved. -/
theorem Canvas.finish_shift (c : Canvas Rat) (σ : Shift) (description : String)
    (data : List (String × Value)) : (c.shift σ).finish description data =
      (c.finish description data).map (·.move σ.offset) := by
  have hmembers : (c.elements.map (·.move σ.offset)).map Element.id =
      c.elements.map Element.id := by
    simp [Function.comp_def]
  simp only [finish, shift, hmembers, List.map_cons]
  rfl

/-- A block with its upper border at `y`, moved. Its height reaches from there to where the lowest
point has gone. -/
def Block.shift (b : Block Rat) (σ : Shift) (cfg : Config Rat) (y : Rat) : Block Rat :=
  { b.move σ.offset with
    height := σ.lowest (b.height - cfg.nodeHeight + y) - (y + σ.offset.y) + cfg.nodeHeight }

/-- The block of what is on a moved canvas is a moved block. -/
theorem Block.shift_eq (σ : Shift) (cfg : Config Rat) {elements elements' : List (Element Rat)}
    {width y bottom lastBottom lastBottom' : Rat} {skipped : List Skipped}
    (hbottom : lastBottom' = lastBottom + σ.offset.y)
    (helements : elements' = elements.map (·.move σ.offset)) :
    (⟨elements', width, greater (σ.lowest bottom) lastBottom' - (y + σ.offset.y) + cfg.nodeHeight,
      skipped⟩ : Block Rat) =
    (⟨elements, width, greater bottom lastBottom - y + cfg.nodeHeight, skipped⟩ :
      Block Rat).shift σ cfg y := by
  subst hbottom helements
  have hlowest : greater bottom lastBottom - y + cfg.nodeHeight - cfg.nodeHeight + y =
      greater bottom lastBottom := by
    ring
  simp only [shift, move, hlowest, σ.lowest_greater]

end PlanDiagram.Diagram
