import PlanDiagram.Proofs.Diagram.ActionContents

/-!
# One ellipse for each function term

The function terms of an action are told apart by keys, in which the name and the names of the
arguments follow one another with a hyphen and bars between them. Names may contain these characters
as well, so different terms may have the same key and be drawn as one ellipse, which then shows the
first of them only. Main statement: function terms over names share an ellipse exactly if they agree
in name and arguments, as long as no argument is empty or contains a bar and the hyphens in the two
terms do not move from the one part to the other. An ellipse all of whose terms are told apart in
this way shows each of them and is connected to its arguments.
-/

namespace PlanDiagram

namespace FunctionTerm

/-- The names among the arguments of a function term. -/
def argumentNames (t : FunctionTerm) : List String :=
  Formula.names t.arguments

/-- The names of the arguments with bars between them. -/
def signature (t : FunctionTerm) : String :=
  "|".intercalate t.argumentNames

/-- All arguments are variables or names, and no name of an argument is empty or contains a bar. -/
structure OverNames (t : FunctionTerm) : Prop where
  isParameter : ∀ a ∈ t.arguments, a.isParameter = true
  names : ∀ x ∈ t.argumentNames, x ≠ "" ∧ '|' ∉ x.toList

/-- Function terms whose keys are told apart: their names, or else their arguments, have the same
number of hyphens. -/
structure Separable (t u : FunctionTerm) : Prop where
  left : t.OverNames
  right : u.OverNames
  hyphens : t.name.toList.count '-' = u.name.toList.count '-' ∨
    t.signature.toList.count '-' = u.signature.toList.count '-'

/-- Terms over names are labelled by the names. -/
theorem OverNames.labels_eq {t : FunctionTerm} (h : t.OverNames) :
    Formula.labels t.arguments = t.argumentNames := by
  have hall := h.isParameter
  rw [Formula.labels_eq_map, argumentNames, Formula.names]
  generalize t.arguments = arguments at hall
  induction arguments with
  | nil => rfl
  | cons a rest ih =>
    obtain ⟨ha, hrest⟩ := List.forall_mem_cons.mp hall
    cases a with
    | parameter name type =>
      rw [List.map_cons, List.filterMap_cons, ih hrest]
      rfl
    | _ => cases ha

end FunctionTerm

/-- What stands before and behind a separator is known if the numbers of separators before it
agree. -/
theorem append_cons_inj_of_count {α : Type} [BEq α] [LawfulBEq α] {c : α}
    {front front' back back' : List α}
    (h : front ++ c :: back = front' ++ c :: back') (hcount : front.count c = front'.count c) :
    front = front' ∧ back = back' := by
  induction front generalizing front' with
  | nil =>
    cases front' with
    | nil => exact ⟨rfl, (List.cons.inj h).2⟩
    | cons d rest =>
      obtain ⟨rfl, -⟩ := List.cons.inj h
      simp at hcount
  | cons d rest ih =>
    cases front' with
    | nil =>
      obtain ⟨rfl, -⟩ := List.cons.inj h
      simp at hcount
    | cons d' rest' =>
      rw [List.cons_append, List.cons_append, List.cons.injEq] at h
      obtain ⟨rfl, h⟩ := h
      rw [List.count_cons, List.count_cons, Nat.add_right_cancel_iff] at hcount
      obtain ⟨rfl, rfl⟩ := ih h hcount
      exact ⟨rfl, rfl⟩

/-- Names that are neither empty nor contain bars are known from what they are with bars between
them. -/
theorem eq_of_intercalate_bar_eq {names names' : List String}
    (h : ∀ x ∈ names, x ≠ "" ∧ '|' ∉ x.toList) (h' : ∀ x ∈ names', x ≠ "" ∧ '|' ∉ x.toList)
    (heq : "|".intercalate names = "|".intercalate names') : names = names' := by
  -- only the empty list gives the empty text
  have hnil {names : List String} (h : ∀ x ∈ names, x ≠ "" ∧ '|' ∉ x.toList)
      (hempty : "|".intercalate names = "") : names = [] := by
    cases names with
    | nil => rfl
    | cons x rest =>
      have hx := (List.forall_mem_cons.mp h).1.1
      cases rest with
      | nil => exact absurd (by simpa using hempty) hx
      | cons y rest => simp [String.intercalate_cons_cons, hx] at hempty
  have hsplit {names : List String} (h : ∀ x ∈ names, x ≠ "" ∧ '|' ∉ x.toList) (hne : names ≠ []) :
      ("|".intercalate names).toList.splitOn '|' = names.map String.toList := by
    rw [String.toList_intercalate]
    refine List.splitOn_intercalate '|' (fun l hl => ?_) (by simpa using hne)
    obtain ⟨x, hx, rfl⟩ := List.mem_map.mp hl
    exact (h x hx).2
  by_cases hne : names = []
  · subst hne
    exact (hnil h' heq.symm).symm
  · have hne' : names' ≠ [] := by
      rintro rfl
      exact hne (hnil h heq)
    have hmap : names.map String.toList = names'.map String.toList := by
      rw [← hsplit h hne, ← hsplit h' hne', heq]
    exact List.map_injective_iff.mpr (fun x y => String.ext) hmap

namespace Diagram

open NumericFrame (termKey functionFamily operatorFamily parameterFamily)

/-- The key of a term over names. -/
theorem toList_termKey {t : FunctionTerm} (h : t.OverNames) :
    (termKey t).toList = t.name.toList ++ '-' :: t.signature.toList := by
  rw [termKey, NumericFrame.functionKey, h.labels_eq, ← FunctionTerm.signature]
  simp

/-- Separable terms have the same key exactly if they agree. -/
theorem termKey_eq_iff {t u : FunctionTerm} (h : t.Separable u) :
    termKey t = termKey u ↔ t.name = u.name ∧ t.argumentNames = u.argumentNames := by
  constructor
  · intro heq
    have hchars : t.name.toList ++ '-' :: t.signature.toList =
        u.name.toList ++ '-' :: u.signature.toList := by
      rw [← toList_termKey h.left, ← toList_termKey h.right, heq]
    have hcount : t.name.toList.count '-' = u.name.toList.count '-' := by
      have hall := congrArg (List.count '-') hchars
      rw [List.count_append, List.count_append, List.count_cons_self, List.count_cons_self] at hall
      have := h.hyphens
      omega
    obtain ⟨hname, hsignature⟩ := append_cons_inj_of_count hchars hcount
    exact ⟨String.ext hname, eq_of_intercalate_bar_eq h.left.names h.right.names
      (String.ext hsignature)⟩
  · rintro ⟨hname, hnames⟩
    apply String.ext
    rw [toList_termKey h.left, toList_termKey h.right, FunctionTerm.signature,
      FunctionTerm.signature, hname, hnames]

variable {α : Type}

/-- What is asked for depends only on the names among arguments. -/
theorem ArgumentArrows.congr {anchor? : String → Option (Node α)} {operators : List (Node α)}
    {first next : List Formula} {elements : List (Element α)} {e : Node α}
    (h : ArgumentArrows anchor? operators [first] elements e)
    (hnames : Formula.names first = Formula.names next) :
    ArgumentArrows anchor? operators [next] elements e := by
  constructor
  · simpa [hnames] using h.into_iff
  · simpa [hnames] using h.outof_iff
  · exact h.other_end

/-- The ellipses of the function terms of an action. -/
structure FunctionEllipses (action : Action) (ellipse : FunctionTerm → Option (Node α))
    (elements : List (Element α)) : Prop where
  /-- Every term that is drawn has an ellipse with an arrow into the node of its operator. -/
  drawn : ∀ t ∈ action.functionOperands, ∃ e ∈ nodesIn [functionFamily] elements,
    ellipse t.term = some e ∧ e.box.shape = .ellipse ∧
      ∃ o ∈ nodesIn [operatorFamily] elements, o.text = t.operator ∧
        (e.box.id, o.box.id) ∈ connections elements
  /-- There are no other ellipses of functions. -/
  used : ∀ e ∈ nodesIn [functionFamily] elements, ∃ t ∈ action.functionOperands,
    ellipse t.term = some e
  /-- Separable terms share an ellipse if they agree in name and arguments, and otherwise not. -/
  shared_iff : ∀ t ∈ action.functionOperands, ∀ u ∈ action.functionOperands,
    t.term.Separable u.term → (ellipse t.term = ellipse u.term ↔
      t.term.name = u.term.name ∧ t.term.argumentNames = u.term.argumentNames)
  /-- An ellipse shows a term and is connected to its arguments if all its terms are separable
  from this one. -/
  shown : ∀ t ∈ action.functionOperands, ∀ e, ellipse t.term = some e →
    (∀ u ∈ action.functionOperands, ellipse u.term = some e → t.term.Separable u.term) →
      e.text = t.term.label ∧
        ArgumentArrows (anchor? action.parameters (nodesIn [parameterFamily] elements))
          (nodesIn [operatorFamily] elements) [t.term.arguments] elements e

namespace ActionBlock.Contents

variable {action : Action} {functions : List (FunctionNode α)} {elements : List (Element α)}

/-- The functions of a block with their ellipses. -/
def shownFunctions (functions : List (FunctionNode α)) (elements : List (Element α)) :
    List (FunctionNode α × Node α) :=
  functions.zip (nodesIn [functionFamily] elements)

/-- The ellipse of a function term is that of the function with its key. -/
def ellipse? (functions : List (FunctionNode α)) (elements : List (Element α))
    (t : FunctionTerm) : Option (Node α) :=
  ((shownFunctions functions elements).find? fun shown => shown.1.key == termKey t).map Prod.snd

/-- Every function has an ellipse. -/
theorem exists_ellipse (h : Contents action functions elements) {known : FunctionNode α}
    (hknown : known ∈ functions) : ∃ e, (known, e) ∈ shownFunctions functions elements := by
  rw [← List.map_fst_zip (Nat.le_of_eq h.nodes.length_eq)] at hknown
  obtain ⟨⟨known, e⟩, hmem, rfl⟩ := List.mem_map.mp hknown
  exact ⟨e, hmem⟩

/-- Every ellipse of a function is that of a function. -/
theorem exists_function (h : Contents action functions elements) {e : Node α}
    (he : e ∈ nodesIn [functionFamily] elements) :
    ∃ known, (known, e) ∈ shownFunctions functions elements := by
  rw [← List.map_snd_zip (Nat.le_of_eq h.nodes.length_eq.symm)] at he
  obtain ⟨⟨known, e⟩, hmem, rfl⟩ := List.mem_map.mp he
  exact ⟨known, hmem⟩

/-- An ellipse shows its function. -/
theorem shows_function (h : Contents action functions elements) {known : FunctionNode α}
    {e : Node α} (hmem : (known, e) ∈ shownFunctions functions elements) :
    e.box = known.box ∧ e.box.shape = .ellipse ∧ e.text = known.term.label :=
  (List.forall₂_iff_zip.mp h.nodes).2 hmem

/-- An ellipse has one function. -/
theorem function_unique (h : Contents action functions elements) {known known' : FunctionNode α}
    {e : Node α} (hmem : (known, e) ∈ shownFunctions functions elements)
    (hmem' : (known', e) ∈ shownFunctions functions elements) : known = known' := by
  have hnodes : ((shownFunctions functions elements).map Prod.snd).Nodup := by
    rw [shownFunctions, List.map_snd_zip (Nat.le_of_eq h.nodes.length_eq.symm)]
    exact (List.Nodup.of_map _ (nodeIds_eq_map elements ▸ h.wired.ids_nodup)).filter _
  exact (Prod.mk.inj (List.inj_on_of_nodup_map hnodes hmem hmem' rfl)).1

/-- The ellipse of a function term is found by its key. -/
theorem ellipse?_eq_some_iff (h : Contents action functions elements) {t : FunctionTerm}
    {e : Node α} :
    ellipse? functions elements t = some e ↔
      ∃ known, (known, e) ∈ shownFunctions functions elements ∧ known.key = termKey t := by
  rw [ellipse?, Option.map_eq_some_iff]
  constructor
  · rintro ⟨⟨known, n⟩, hfound, rfl⟩
    have hkey := List.find?_some hfound
    exact ⟨known, List.mem_of_find?_eq_some hfound, beq_iff_eq.mp hkey⟩
  · rintro ⟨known, hmem, hkey⟩
    -- no two functions have the same key, so the one that is found is the known one
    have hkeys : ((shownFunctions functions elements).map (FunctionNode.key ∘ Prod.fst)).Nodup := by
      rw [← List.map_map, shownFunctions, List.map_fst_zip (Nat.le_of_eq h.nodes.length_eq)]
      exact h.keys_nodup
    have hfound : ((shownFunctions functions elements).find?
        fun shown => shown.1.key == termKey t).isSome = true :=
      List.find?_isSome.mpr ⟨_, hmem, beq_iff_eq.mpr hkey⟩
    obtain ⟨shown, hshown⟩ := Option.isSome_iff_exists.mp hfound
    have hkey' := List.find?_some hshown
    obtain rfl := List.inj_on_of_nodup_map hkeys (List.mem_of_find?_eq_some hshown) hmem
      ((beq_iff_eq.mp hkey').trans hkey.symm)
    exact ⟨_, hshown, rfl⟩

/-- A term with an ellipse shares it with the terms that have the same key. -/
theorem ellipse?_eq_iff (h : Contents action functions elements) {t u : FunctionTerm} {e : Node α}
    (ht : ellipse? functions elements t = some e) :
    ellipse? functions elements t = ellipse? functions elements u ↔ termKey t = termKey u := by
  constructor
  · intro heq
    obtain ⟨known, hmem, hkey⟩ := h.ellipse?_eq_some_iff.mp ht
    obtain ⟨known', hmem', hkey'⟩ := h.ellipse?_eq_some_iff.mp (heq ▸ ht)
    rw [← hkey, ← hkey', h.function_unique hmem hmem']
  · intro heq
    rw [ellipse?, ellipse?, heq]

/-- The arguments that are drawn on the ellipse of a function are those of the function. -/
theorem function_uses_iff (h : Contents action functions elements) {known : FunctionNode α}
    {e : Node α} (hmem : (known, e) ∈ shownFunctions functions elements)
    (arguments : List Formula) :
    arguments ∈ [known.arguments] ↔ ∃ node ∈ drawn action functions elements,
      node.1.id = e.box.id ∧ node.2.2 = arguments := by
  have hids := h.wired.ids_nodup
  obtain ⟨hbox, -⟩ := h.shows_function hmem
  obtain ⟨hknown, he⟩ := List.of_mem_zip hmem
  rw [List.mem_singleton]
  constructor
  · rintro rfl
    refine ⟨(known.box, known.name, known.arguments), mem_drawnOn_iff.mpr (.inr ?_),
      by rw [hbox], rfl⟩
    exact List.mem_map.mpr ⟨known, hknown, rfl⟩
  · rintro ⟨node, hnode, hid, rfl⟩
    rcases mem_drawnOn_iff.mp hnode with ⟨role, hnode⟩ | hnode
    · obtain ⟨l, -, n, hn, -, rfl⟩ := (h.literals role).mem_literalsOn_iff.mp hnode
      refine absurd hid (id_ne_of_apart hids ?_ hn he)
      cases role <;> decide +kernel
    · obtain ⟨other, hother, rfl⟩ := List.mem_map.mp hnode
      obtain ⟨n, hmem'⟩ := h.exists_ellipse hother
      obtain ⟨hbox', -⟩ := h.shows_function hmem'
      rw [← hbox'] at hid
      obtain rfl := node_eq_of_id_eq hids
        (mem_nodesOf_of_mem_nodesIn (List.of_mem_zip hmem').2) (mem_nodesOf_of_mem_nodesIn he) hid
      rw [h.function_unique hmem' hmem]

/-- The ellipses of function terms are found by their keys. -/
theorem functionEllipses (h : Contents action functions elements) :
    FunctionEllipses action (ellipse? functions elements) elements := by
  have hdrawn : ∀ t ∈ action.functionOperands, ∃ known e,
      (known, e) ∈ shownFunctions functions elements ∧ known.key = termKey t.term ∧
        ∃ o ∈ nodesIn [operatorFamily] elements, o.text = t.operator ∧
          (e.box.id, o.box.id) ∈ connections elements := by
    intro t ht
    obtain ⟨known, hknown, hkey, o, ho, htext, harrow⟩ := h.shown t ht
    obtain ⟨e, hmem⟩ := h.exists_ellipse hknown
    rw [← (h.shows_function hmem).1] at harrow
    exact ⟨known, e, hmem, hkey, o, ho, htext, harrow⟩
  constructor
  · intro t ht
    obtain ⟨known, e, hmem, hkey, hoperator⟩ := hdrawn t ht
    exact ⟨e, (List.of_mem_zip hmem).2, h.ellipse?_eq_some_iff.mpr ⟨known, hmem, hkey⟩,
      (h.shows_function hmem).2.1, hoperator⟩
  · intro e he
    obtain ⟨known, hmem⟩ := h.exists_function he
    have hknown := (List.of_mem_zip hmem).1
    obtain ⟨t, ht, hterm⟩ := h.terms known hknown
    refine ⟨t, ht, h.ellipse?_eq_some_iff.mpr ⟨known, hmem, ?_⟩⟩
    rw [h.keys_eq known hknown, hterm]
  · intro t ht u hu hseparable
    obtain ⟨known, e, hmem, hkey, -⟩ := hdrawn t ht
    rw [h.ellipse?_eq_iff (h.ellipse?_eq_some_iff.mpr ⟨known, hmem, hkey⟩)]
    exact termKey_eq_iff hseparable
  · intro t ht e he hall
    obtain ⟨known, hmem, hkey⟩ := h.ellipse?_eq_some_iff.mp he
    obtain ⟨hknown, hnode⟩ := List.of_mem_zip hmem
    -- the term that the ellipse shows is one of those that use it, so it agrees with this one
    obtain ⟨u, hu, hterm⟩ := h.terms known hknown
    have hkey' : termKey t.term = termKey u.term := by
      rw [← hkey, h.keys_eq known hknown, hterm]
    have hseparable := hall u hu (h.ellipse?_eq_some_iff.mpr ⟨known, hmem, hkey.trans hkey'⟩)
    obtain ⟨hname, hnames⟩ := (termKey_eq_iff hseparable).mp hkey'
    constructor
    · rw [(h.shows_function hmem).2.2, hterm, FunctionTerm.label, FunctionTerm.label,
        hseparable.left.labels_eq, hseparable.right.labels_eq, hname, hnames]
    · have harguments : Formula.names known.arguments = Formula.names t.term.arguments :=
        (congrArg FunctionTerm.argumentNames hterm).trans hnames.symm
      refine ArgumentArrows.congr ?_ harguments
      exact h.wired.argumentArrows (by decide +kernel) (by decide +kernel)
        (nodesIn_mono (List.subset_append_right _ _) hnode) (h.function_uses_iff hmem)

end ActionBlock.Contents

variable [Add α] [Sub α] [Mul α] [LT α] [DecidableLT α] [Scalar α] {cfg : Config α}
  {session : Session} {x y : α}

/-- Whatever is drawn for an action has ellipses for its function terms, which are shared by terms
that agree, and show their terms as long as these are separable. -/
theorem actionBlock_functionEllipses {action : Action} {block : Block α}
    (h : (actionBlock cfg session action x y).2 = .ok block) :
    ∃ ellipse, FunctionEllipses action ellipse block.elements := by
  obtain ⟨d', hdraw⟩ := Draw.exists_of_run h
  obtain ⟨functions, hcontents⟩ := ActionBlock.draw_contents hdraw rfl rfl
  exact ⟨_, hcontents.functionEllipses⟩

/-- An action that fills the tank of a vehicle at the rate of a station. -/
def refuelAction : Action where
  name := "refuel"
  parameters := [{ name := "v" }, { name := "station" }]
  effects := [.numeric .increase [
    .function "fuel-level" [.parameter "v" .null],
    .function "flow-rate" [.parameter "station" .null, .parameter "v" .null]]]

/-- The function terms of the action are drawn, and have different ellipses although their names
contain hyphens. -/
theorem actionBlock_functionEllipses_refuelAction :
    ∃ block, (actionBlock Config.rational {} refuelAction 0 0).2 = .ok block ∧
      ∃ ellipse, FunctionEllipses refuelAction ellipse block.elements ∧
        ellipse ⟨"fuel-level", [.parameter "v" .null]⟩ ≠
          ellipse ⟨"flow-rate", [.parameter "station" .null, .parameter "v" .null]⟩ := by
  obtain ⟨block, h⟩ : ∃ block, (actionBlock Config.rational {} refuelAction 0 0).2 = .ok block :=
    exists_of_isOk (by decide +kernel)
  obtain ⟨ellipse, hellipses⟩ := actionBlock_functionEllipses h
  have hseparable : FunctionTerm.Separable ⟨"fuel-level", [.parameter "v" .null]⟩
      ⟨"flow-rate", [.parameter "station" .null, .parameter "v" .null]⟩ :=
    ⟨⟨by simp [Formula.isParameter], by decide +kernel⟩,
      ⟨by simp [Formula.isParameter], by decide +kernel⟩, .inl (by decide +kernel)⟩
  refine ⟨block, h, ellipse, hellipses, fun heq => ?_⟩
  have hsame := (hellipses.shared_iff ⟨"increase fuel-level", _⟩ List.mem_cons_self
    ⟨"increase fuel-level", _⟩ (List.mem_cons_of_mem _ List.mem_cons_self) hseparable).mp heq
  exact absurd hsame.1 (by decide)

/-- A text with an action in which two function terms have the same key. -/
def mergedFunctions : String :=
  "(define (domain d) (:action a :parameters (?b ?a-b) :effect (increase (f-a ?b) (f ?a-b))))"

/-- The text is read and the action is drawn, but for its two function terms there is one ellipse,
which shows the first of them. -/
theorem functionEllipses_merged :
    ∃ document, Document.read mergedFunctions = .ok document ∧
      ∃ domain ∈ document.domains, ∃ action ∈ domain.actions,
        (action.functionOperands.map fun t => (t.term.name, t.term.argumentNames)) =
            [("f-a", ["b"]), ("f", ["a-b"])] ∧
          (∀ t ∈ action.functionOperands, ∀ a ∈ t.term.arguments, a.isParameter = true) ∧
          ∃ block, (actionBlock Config.rational {} action 0 0).2 = .ok block ∧
            (nodesIn [functionFamily] block.elements).map Node.text = ["f-a(b)"] := by
  obtain ⟨document, hread, hfound⟩ := exists_of_any_toOption
    (by decide +kernel : ((Document.read mergedFunctions).toOption.any fun document =>
      document.domains.any fun domain => domain.actions.any fun action =>
        (action.functionOperands.map fun t => (t.term.name, t.term.argumentNames)) ==
            [("f-a", ["b"]), ("f", ["a-b"])] &&
          (action.functionOperands.all fun t => t.term.arguments.all Formula.isParameter) &&
          (actionBlock Config.rational {} action 0 0).2.toOption.any fun block =>
            (nodesIn [functionFamily] block.elements).map Node.text == ["f-a(b)"]) = true)
  obtain ⟨domain, hdomain, haction⟩ := List.any_eq_true.mp hfound
  obtain ⟨action, haction, hfound⟩ := List.any_eq_true.mp haction
  rw [Bool.and_eq_true, Bool.and_eq_true, beq_iff_eq] at hfound
  obtain ⟨⟨hterms, hparameters⟩, hdrawn⟩ := hfound
  obtain ⟨block, hblock, htexts⟩ := exists_of_any_toOption hdrawn
  exact ⟨document, hread, domain, hdomain, action, haction, hterms, by simpa using hparameters,
    block, hblock, beq_iff_eq.mp htexts⟩

end Diagram

end PlanDiagram
