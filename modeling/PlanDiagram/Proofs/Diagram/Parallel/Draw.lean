import PlanDiagram.Proofs.Diagram.Parallel.Pairing

/-!
# Drawing in parallel

Two steps of drawings run in parallel if, on drawings that match, both fail with the same fault, or
both succeed with drawings that match and with results that are related. The laws below are those
of the steps that all drawings are made of, and of putting steps together; what is drawn with them
runs in parallel by a proof that follows its definition. Identifiers may be formed in different ways
on both sides. They matter only where an arrow is suppressed since it repeats one, and there the
decisions are the same because identifiers correspond one to one.
-/

namespace PlanDiagram.Diagram

variable {α β γ β' γ' : Type}

/-- The identifiers on a canvas, that of the group first. -/
def Canvas.names (c : Canvas α) : List String :=
  c.group :: c.elements.map Element.id

/-- The identifiers of two drawings. -/
def Pairing.ofDrawings (d d' : Drawing α) : Pairing :=
  ⟨d.canvas.names, d'.canvas.names⟩

/-- The identifiers at both ends of two arrows correspond. -/
def Pairing.PairsEnds (p : Pairing) (a b : String × String) : Prop :=
  p.Pairs a.1 b.1 ∧ p.Pairs a.2 b.2

theorem Pairing.PairsEnds.mono {p q : Pairing} (hle : p.Before q) {a b : String × String}
    (h : p.PairsEnds a b) : q.PairsEnds a b :=
  ⟨h.1.mono hle, h.2.mono hle⟩

/-- The identifiers are those of two groups, followed by those of elements. -/
def Pairing.Groups (p : Pairing) (g g' : String) : Prop :=
  p.first.head? = some g ∧ p.second.head? = some g'

theorem Pairing.Groups.pairs {p : Pairing} {g g' : String} (h : p.Groups g g') : p.Pairs g g' :=
  fun _ => ⟨0, by rw [← List.head?_eq_getElem?, h.1], by rw [← List.head?_eq_getElem?, h.2]⟩

theorem Pairing.Groups.mono {p q : Pairing} (hle : p.Before q) {g g' : String}
    (h : p.Groups g g') : q.Groups g g' := by
  obtain ⟨⟨rest, hrest⟩, ⟨rest', hrest'⟩⟩ := hle
  rw [Pairing.Groups, ← hrest, ← hrest', List.head?_append, List.head?_append, h.1, h.2]
  exact ⟨rfl, rfl⟩

namespace Drawing

/-- A drawing goes on to another one: identifiers that have been given stay, and no further group is
counted. -/
structure Grows (d e : Drawing α) : Prop where
  names : d.canvas.names <+: e.canvas.names
  actionGroups_eq : e.session.actionGroups = d.session.actionGroups
  problemGroups_eq : e.session.problemGroups = d.session.problemGroups

theorem Grows.refl (d : Drawing α) : d.Grows d :=
  ⟨List.prefix_rfl, rfl, rfl⟩

theorem Grows.trans {d e f : Drawing α} (h : d.Grows e) (h' : e.Grows f) : d.Grows f :=
  ⟨h.names.trans h'.names, h'.actionGroups_eq.trans h.actionGroups_eq,
    h'.problemGroups_eq.trans h.problemGroups_eq⟩

theorem Grows.before {d e d' e' : Drawing α} (h : d.Grows e) (h' : d'.Grows e') :
    (Pairing.ofDrawings d d').Before (Pairing.ofDrawings e e') :=
  ⟨h.names, h'.names⟩

/-- Drawings that are the same up to identifiers. What they hold is compared under the condition
that no identifier has been given twice; the lowest point is the same in any case. -/
structure Matches (d d' : Drawing α) : Prop where
  bottom_eq : d'.canvas.bottom = d.canvas.bottom
  elements : (Pairing.ofDrawings d d').Distinct → List.Forall₂
    (Element.Matches (.ofDrawings d d')) d.canvas.elements d'.canvas.elements
  connected : (Pairing.ofDrawings d d').Distinct → List.Forall₂
    (Pairing.PairsEnds (.ofDrawings d d')) d.canvas.connected d'.canvas.connected

end Drawing

namespace Draw

/-- Two outcomes of drawings that have gone on from `d` and `d'` are alike: the same fault, or
drawings that match, with related results. -/
inductive Alike (R : Pairing → β → γ → Prop) (d d' : Drawing α) :
    Except Fault (β × Drawing α) → Except Fault (γ × Drawing α) → Prop
  | fault (fault : Fault) : Alike R d d' (.error fault) (.error fault)
  | drawn {b : β} {c : γ} {e e' : Drawing α} (hgrows : d.Grows e) (hgrows' : d'.Grows e')
    (hmatches : e.Matches e') (hresult : R (.ofDrawings e e') b c) :
    Alike R d d' (.ok (b, e)) (.ok (c, e'))

/-- Outcomes are alike if the lowest points are the same and an identifier was given twice
before. -/
theorem Alike.of_not_distinct {R : Pairing → β → γ → Prop} {d d' e e' : Drawing α} {b : β} {c : γ}
    (hgrows : d.Grows e) (hgrows' : d'.Grows e') (hbottom : e'.canvas.bottom = e.canvas.bottom)
    (hnot : ¬ (Pairing.ofDrawings d d').Distinct) (hresult : R (.ofDrawings e e') b c) :
    Alike R d d' (.ok (b, e)) (.ok (c, e')) := by
  have hlater : ¬ (Pairing.ofDrawings e e').Distinct := mt (hgrows.before hgrows').distinct hnot
  exact .drawn hgrows hgrows' ⟨hbottom, fun h => absurd h hlater, fun h => absurd h hlater⟩ hresult

/-- Two steps run in parallel on drawings that have given the identifiers of `p` before. -/
def Parallel (p : Pairing) (R : Pairing → β → γ → Prop) (m : Draw α β) (m' : Draw α γ) : Prop :=
  ∀ d d', p.Before (.ofDrawings d d') → d.Matches d' → Alike R d d' (m d) (m' d')

namespace Parallel

variable {p : Pairing} {R : Pairing → β → γ → Prop} {Q : Pairing → β' → γ' → Prop}
  {m : Draw α β} {m' : Draw α γ}

/-- Two steps in turn run in parallel if the first ones do, and the second ones do on results of the
first that are related. -/
theorem bind {f : β → Draw α β'} {f' : γ → Draw α γ'} (h : Parallel p R m m')
    (hf : ∀ q b c, p.Before q → R q b c → Parallel q Q (f b) (f' c)) :
    Parallel p Q (m >>= f) (m' >>= f') := by
  intro d d' hp hd
  have hm := h d d' hp hd
  change Alike Q d d' (m d >>= fun r => f r.1 r.2) (m' d' >>= fun r => f' r.1 r.2)
  generalize m d = r, m' d' = r' at hm
  cases hm with
  | fault fault => exact .fault fault
  | @drawn b c e e' hgrows hgrows' hmatches hresult =>
    have hq := hgrows.before hgrows'
    have hnext := hf _ b c (hp.trans hq) hresult e e' (.refl _) hmatches
    change Alike Q d d' (f b e) (f' c e')
    generalize f b e = r, f' c e' = r' at hnext
    cases hnext with
    | fault fault => exact .fault fault
    | drawn hgrows₂ hgrows₂' hmatches hresult =>
      exact .drawn (hgrows.trans hgrows₂) (hgrows'.trans hgrows₂') hmatches hresult

/-- Steps that only give results. -/
theorem pure {b : β} {c : γ} (h : ∀ q, p.Before q → R q b c) :
    Parallel (α := α) p R (Pure.pure b) (Pure.pure c) :=
  fun d d' hp hd => .drawn (.refl d) (.refl d') hd (h _ hp)

/-- The same computation apart from the canvas. -/
theorem lift (p : Pairing) (x : Except Fault β) :
    Parallel (α := α) p (fun _ b c => b = c) (liftM x) (liftM x) := by
  intro d d' hp hd
  cases x with
  | error fault => exact .fault fault
  | ok b => exact .drawn (.refl d) (.refl d') hd rfl

end Parallel

/-- Asking for the group. -/
theorem group_parallel (p : Pairing) : Parallel (α := α) p Pairing.Groups group group :=
  fun d d' _ hd => .drawn (.refl d) (.refl d') hd ⟨rfl, rfl⟩

/-- Asking for the drawing. -/
theorem get_parallel (p : Pairing) :
    Parallel p (fun q d d' => q = .ofDrawings d d' ∧ d.Matches d')
      (get : Draw α (Drawing α)) get :=
  fun d d' _ hd => .drawn (.refl d) (.refl d') hd ⟨rfl, hd⟩

/-- Handing out numbers, under whatever keys. -/
theorem ticket_parallel (p : Pairing) (key key' : String) :
    Parallel (α := α) p (fun _ _ _ => True) (ticket key) (ticket key') :=
  fun _ _ _ hd => .drawn ⟨List.prefix_rfl, rfl, rfl⟩ ⟨List.prefix_rfl, rfl, rfl⟩
    ⟨hd.bottom_eq, hd.elements, hd.connected⟩ trivial

end Draw

/-- An arrow always has a colour. -/
theorem Config.exists_edge_colour (cfg : Config α) : ∃ colour, cfg.colour "edge" = .ok colour := by
  have hdefault : (defaultPalette.lookup "edge").isSome = true := by
    decide
  obtain ⟨colour, hcolour⟩ := Option.isSome_iff_exists.mp hdefault
  unfold Config.colour
  cases (cfg.palette.lookup "edge").filter (· != "") with
  | some own => exact ⟨own, rfl⟩
  | none => exact ⟨colour, by rw [hcolour]⟩

/-- A canvas with one more element. -/
structure Canvas.Adds (c canvas : Canvas α) (e : Element α) : Prop where
  group_eq : canvas.group = c.group
  elements_eq : canvas.elements = c.elements ++ [e]

theorem Canvas.Adds.names_eq {c canvas : Canvas α} {e : Element α} (h : c.Adds canvas e) :
    canvas.names = c.names ++ [e.id] := by
  simp [names, h.group_eq, h.elements_eq]

section

variable {d d' : Drawing α} {canvas canvas' : Canvas α} {e e' : Element α}

/-- With one more element a drawing has gone on. -/
theorem Canvas.Adds.grows (h : d.canvas.Adds canvas e) : d.Grows { d with canvas } :=
  ⟨⟨[e.id], h.names_eq.symm⟩, rfl, rfl⟩

/-- Elements that are added to drawings that match have identifiers that correspond. -/
theorem Drawing.Matches.pairs (hd : d.Matches d') (h : d.canvas.Adds canvas e)
    (h' : d'.canvas.Adds canvas' e') :
    (Pairing.ofDrawings { d with canvas } { d' with canvas := canvas' }).Pairs e.id e'.id := by
  intro hdistinct
  have hlength := (hd.elements ((h.grows.before h'.grows).distinct hdistinct)).length_eq
  refine ⟨d.canvas.names.length, ?_, ?_⟩
  · simp [Pairing.ofDrawings, h.names_eq]
  · have hnames : d.canvas.names.length = d'.canvas.names.length := by
      simp [Canvas.names, hlength]
    simp [Pairing.ofDrawings, h'.names_eq, hnames]

/-- Drawings that match still do with one more element each, if these match. -/
theorem Drawing.Matches.add (hd : d.Matches d') (h : d.canvas.Adds canvas e)
    (h' : d'.canvas.Adds canvas' e') (hbottom : canvas'.bottom = canvas.bottom)
    (helement : e.Matches (.ofDrawings { d with canvas } { d' with canvas := canvas' }) e')
    (hconnected : (Pairing.ofDrawings { d with canvas } { d' with canvas := canvas' }).Distinct →
      List.Forall₂ (Pairing.PairsEnds (.ofDrawings { d with canvas } { d' with canvas := canvas' }))
        canvas.connected canvas'.connected) :
    Drawing.Matches { d with canvas } { d' with canvas := canvas' } := by
  have hbefore := h.grows.before h'.grows
  refine ⟨hbottom, fun hdistinct => ?_, hconnected⟩
  have hold := (hd.elements (hbefore.distinct hdistinct)).imp fun _ _ he => he.mono hbefore
  rw [h.elements_eq, h'.elements_eq]
  exact List.rel_append hold (.cons helement .nil)

end

namespace Draw

section

variable [Add α] [LT α] [DecidableLT α] {d d' : Drawing α}

/-- Placing nodes that are the same up to their identifiers and their groups. -/
theorem place_alike (node node' : Node α) (hd : d.Matches d')
    (hgroup : node.group = d.canvas.group) (hgroup' : node'.group = d'.canvas.group)
    (hbox : node'.box = { node.box with id := node'.box.id })
    (hnode : node' = { node with box := node'.box, group := node'.group }) :
    Alike Box.Matches d d'
      (.ok ((d.canvas.place node).1, { d with canvas := (d.canvas.place node).2 }))
      (.ok ((d'.canvas.place node').1, { d' with canvas := (d'.canvas.place node').2 })) := by
  have hadds : d.canvas.Adds (d.canvas.place node).2 (.node node) := ⟨rfl, rfl⟩
  have hadds' : d'.canvas.Adds (d'.canvas.place node').2 (.node node') := ⟨rfl, rfl⟩
  have hbefore := hadds.grows.before hadds'.grows
  have hid := hd.pairs hadds hadds'
  have hgroups : (Pairing.ofDrawings d d').Groups node.group node'.group := by
    rw [hgroup, hgroup']
    exact ⟨rfl, rfl⟩
  have hbottom : (d'.canvas.place node').2.bottom = (d.canvas.place node).2.bottom := by
    change greater d'.canvas.bottom node'.box.bottom = greater d.canvas.bottom node.box.bottom
    rw [hd.bottom_eq, hbox]
    rfl
  refine .drawn hadds.grows hadds'.grows (hd.add hadds hadds' hbottom ?_ ?_) ⟨hid, hbox⟩
  · exact .node ⟨hid, hbox⟩ (hgroups.pairs.mono hbefore) hnode
  · intro hdistinct
    exact (hd.connected (hbefore.distinct hdistinct)).imp fun _ _ hends => hends.mono hbefore

variable (p : Pairing) (cfg : Config α) (text : String) (corner : Point α) (width height : α)

/-- Drawing rectangles. -/
theorem rectangle_parallel (id id' : String) :
    Parallel p Box.Matches (rectangle cfg text corner id width height)
      (rectangle cfg text corner id' width height) := by
  intro d d' _ hd
  simp only [rectangle, onCanvas, Canvas.rectangle]
  cases cfg.colour "rectangle-fill" with
  | error fault => exact .fault fault
  | ok fill =>
    cases cfg.colour "rectangle-stroke" with
    | error fault => exact .fault fault
    | ok stroke => exact place_alike _ _ hd rfl rfl rfl rfl

/-- Drawing ellipses. -/
theorem ellipse_parallel (id id' role : String) :
    Parallel p Box.Matches (ellipse cfg text corner id role)
      (ellipse cfg text corner id' role) := by
  intro d d' _ hd
  simp only [ellipse, onCanvas, Canvas.ellipse]
  cases cfg.colour role with
  | error fault => exact .fault fault
  | ok fill =>
    cases cfg.colour "ellipse-stroke" with
    | error fault => exact .fault fault
    | ok stroke => exact place_alike _ _ hd rfl rfl rfl rfl

/-- Drawing descriptions. -/
theorem description_parallel (id id' role : String) :
    Parallel p (fun q b c => b.Matches q c ∧ b.id = sanitize id ∧ c.id = sanitize id')
      (description cfg text corner id width height role)
      (description cfg text corner id' width height role) := by
  intro d d' _ hd
  simp only [description, onCanvas, Canvas.description]
  cases cfg.colour (role ++ "-description-fill") with
  | error fault => exact .fault fault
  | ok fill =>
    cases cfg.colour (role ++ "-description-stroke") with
    | error fault => exact .fault fault
    | ok stroke =>
      -- the identifiers of the boxes are those that were asked for
      have halike := place_alike
        { box := ⟨sanitize id, corner.x, corner.y, width, height, .rectangle⟩, text, fill, stroke
          align := if role == "problem-init" then .left else .center
          describes := some role, group := d.canvas.group }
        { box := ⟨sanitize id', corner.x, corner.y, width, height, .rectangle⟩, text, fill, stroke
          align := if role == "problem-init" then .left else .center
          describes := some role, group := d'.canvas.group } hd rfl rfl rfl rfl
      cases halike with
      | drawn hgrows hgrows' hmatches hbox => exact .drawn hgrows hgrows' hmatches ⟨hbox, rfl, rfl⟩

omit [Add α] in
/-- Lowering the lowest point. -/
theorem extend_parallel :
    Parallel p (fun _ _ _ => True) (extend height) (extend height) := by
  intro d d' _ hd
  have hgrows (d : Drawing α) : d.Grows { d with canvas := d.canvas.extend height } :=
    ⟨List.prefix_rfl, rfl, rfl⟩
  refine .drawn (hgrows d) (hgrows d') ⟨?_, hd.elements, hd.connected⟩ trivial
  change greater d'.canvas.bottom height = greater d.canvas.bottom height
  rw [hd.bottom_eq]

end

/-- Arrows connect nodes on one side if they connect the corresponding nodes on the other. -/
theorem contains_eq {p : Pairing} (hp : p.Distinct) {xs ys : List (String × String)}
    (h : List.Forall₂ p.PairsEnds xs ys) {a b : String × String} (hab : p.PairsEnds a b) :
    xs.contains a = ys.contains b := by
  induction h with
  | nil => rfl
  | @cons x y xs ys hxy _ ih =>
    have hiff : a = x ↔ b = y := by
      rw [Prod.ext_iff, Prod.ext_iff, hab.1.eq_iff hp hxy.1, hab.2.eq_iff hp hxy.2]
    rw [List.contains_cons, List.contains_cons, ih, Bool.eq_iff_iff]
    simp [hiff]

/-- A canvas with one more arrow. -/
def connect (d : Drawing α) (source target : Box α) (id stroke : String) : Canvas α :=
  { d.canvas with
    elements := d.canvas.elements ++ [.arrow
      { id := sanitize id, source, target, stroke, group := some d.canvas.group }]
    connected := (source.id, target.id) :: d.canvas.connected }

/-- Drawing an arrow always succeeds. It is left out if it repeats one. -/
theorem edge_eq (cfg : Config α) : ∃ stroke, ∀ (source target : Box α) (id : String)
    (d : Drawing α), edge cfg source target id d = .ok ((),
      if d.canvas.connected.contains (source.id, target.id) then d
      else { d with canvas := connect d source target id stroke }) := by
  obtain ⟨stroke, hstroke⟩ := cfg.exists_edge_colour
  refine ⟨stroke, fun source target id d => ?_⟩
  simp only [edge, onCanvas, Canvas.edge]
  split
  · rfl
  · rw [hstroke]
    rfl

/-- Drawing arrows between nodes that match. -/
theorem edge_parallel {p : Pairing} (cfg : Config α) {source target source' target' : Box α}
    (hsource : source.Matches p source') (htarget : target.Matches p target') (id id' : String) :
    Parallel p (fun _ _ _ => True) (edge cfg source target id) (edge cfg source' target' id') := by
  intro d d' hp hd
  obtain ⟨stroke, hedge⟩ := edge_eq cfg
  have hadds : d.canvas.Adds (connect d source target id stroke) _ := ⟨rfl, rfl⟩
  have hadds' : d'.canvas.Adds (connect d' source' target' id' stroke) _ := ⟨rfl, rfl⟩
  have hsource := hsource.mono hp
  have htarget := htarget.mono hp
  have hsame : (Pairing.ofDrawings d d').Distinct →
      d.canvas.connected.contains (source.id, target.id) =
        d'.canvas.connected.contains (source'.id, target'.id) :=
    fun hdistinct => contains_eq hdistinct (hd.connected hdistinct) ⟨hsource.1, htarget.1⟩
  rw [hedge, hedge]
  by_cases h : d.canvas.connected.contains (source.id, target.id) = true <;>
    by_cases h' : d'.canvas.connected.contains (source'.id, target'.id) = true
  · rw [if_pos h, if_pos h']
    exact .drawn (.refl d) (.refl d') hd trivial
  · -- only one arrow is left out, so an identifier has been given twice
    rw [if_pos h, if_neg h']
    exact .of_not_distinct (.refl d) hadds'.grows hd.bottom_eq
      (fun hdistinct => h' (hsame hdistinct ▸ h)) trivial
  · rw [if_neg h, if_pos h']
    exact .of_not_distinct hadds.grows (.refl d') hd.bottom_eq
      (fun hdistinct => h (hsame hdistinct ▸ h')) trivial
  · rw [if_neg h, if_neg h']
    have hbefore := hadds.grows.before hadds'.grows
    have hgroups : (Pairing.ofDrawings d d').Groups d.canvas.group d'.canvas.group := ⟨rfl, rfl⟩
    refine .drawn hadds.grows hadds'.grows (hd.add hadds hadds' hd.bottom_eq ?_ ?_) trivial
    · exact .arrow (hd.pairs hadds hadds') (hsource.mono hbefore) (htarget.mono hbefore)
        (.some (hgroups.pairs.mono hbefore)) rfl
    · intro hdistinct
      exact .cons ⟨hsource.1.mono hbefore, htarget.1.mono hbefore⟩
        ((hd.connected (hbefore.distinct hdistinct)).imp fun _ _ hends => hends.mono hbefore)

/-- Drawing in the same cell, which fails on both sides if there are no columns. -/
theorem inCell_parallel [Add α] [Mul α] [Scalar α] {p : Pairing} {R : Pairing → β → γ → Prop}
    (cfg : Config α) {left top : α} {columns index : Nat} {draw : Point α → Draw α β}
    {draw' : Point α → Draw α γ} (hdraw : ∀ corner, Parallel p R (draw corner) (draw' corner)) :
    Parallel p R (inCell cfg left top columns index draw)
      (inCell cfg left top columns index draw') := by
  unfold inCell
  split
  · exact fun _ _ _ _ => .fault .divisionByZero
  · exact hdraw _

/-- Drawing a row of nodes, each under its place in the row. -/
theorem row_parallel (draw : Nat → List γ → Draw α (List (String × Box α)))
    {node : Nat → γ → String → Draw α (Box α)} {key : γ → String}
    (hnil : ∀ index, draw index [] = pure [])
    (hcons : ∀ index x rest, draw index (x :: rest) = do
      let box ← node index x (← group)
      return (key x, box) :: (← draw (index + 1) rest))
    (hnode : ∀ p index x g g', Parallel p Box.Matches (node index x g) (node index x g'))
    (p : Pairing) (index : Nat) (xs : List γ) :
    Parallel p KeyedMatch (draw index xs) (draw index xs) := by
  induction xs generalizing p index with
  | nil =>
    rw [hnil]
    exact .pure fun _ _ => .nil
  | cons x rest ih =>
    rw [hcons]
    refine (group_parallel p).bind fun q g g' _ _ => ?_
    refine (hnode q index x g g').bind fun q box box' _ hbox => ?_
    refine (ih q (index + 1)).bind fun q others others' hle hothers => ?_
    exact .pure fun _ hle' => .cons ⟨rfl, hbox.mono (hle.trans hle')⟩ (hothers.mono hle')

/-- Drawing a band that consists of a row, unless it is left out. -/
theorem band_parallel {p : Pairing} {omitted : Prop} [Decidable omitted]
    {row : Draw α (List (String × Box α))} (hrow : Parallel p KeyedMatch row row)
    (cursor next : γ) :
    Parallel p (fun q b c => KeyedMatch q b.1 c.1 ∧ b.2 = c.2)
      (if omitted then return ([], cursor) else do
        let nodes ← row
        return (nodes, next))
      (if omitted then return ([], cursor) else do
        let nodes ← row
        return (nodes, next)) := by
  split
  · exact .pure fun _ _ => ⟨.nil, rfl⟩
  · exact hrow.bind fun q _ _ _ hnodes => .pure fun _ hle => ⟨hnodes.mono hle, rfl⟩

end Draw

end PlanDiagram.Diagram
