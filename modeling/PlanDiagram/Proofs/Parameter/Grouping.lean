import PlanDiagram.Proofs.Parameter.TypedList

/-!
# The grammar of typed lists

A typed list consists of groups and of names without a type behind them. A group is a run of names,
a dash, and one form as the type, which may be another dash or a list. Main statement: exactly the
lists of this grammar are read, each in the only way in which it can be grouped. So untyped names
come last, and two lists can be read one after the other unless the first one leaves names without a
type.
-/

namespace PlanDiagram

/-- The faults of typed lists. -/
inductive Form.Fault.IsOfTypedList : Form.Fault → Prop
  | danglingDash : IsOfTypedList .danglingDash
  | typeWithoutNames (type : String) : IsOfTypedList (.typeWithoutNames type)
  | nestedName (form : Form) : IsOfTypedList (.nestedName form)

namespace Parameter

/-- Names that share a type. -/
structure Group where
  names : List String
  type : Form
  names_ne_nil : names ≠ []
  dash_notMem : "-" ∉ names

/-- Groups, and names without a type behind them. -/
structure Grouping where
  groups : List Group
  rest : List String
  dash_notMem : "-" ∉ rest

/-- The name of a parameter for which an atom stands. -/
def nameOf (marked : Bool) (atom : String) : String :=
  if marked then bareName atom else atom

namespace Group

/-- A group as it is written: its names, a dash and the type. -/
def forms (g : Group) : List Form :=
  g.names.map Form.atom ++ [.atom "-", g.type]

/-- The parameters of a group: its names with the text of its type. -/
def parameters (marked : Bool) (g : Group) : List Parameter :=
  g.names.map fun atom => { name := nameOf marked atom, type := some g.type.render }

end Group

namespace Grouping

/-- A typed list as it is written: the groups one after the other, and the other names. -/
def forms (d : Grouping) : List Form :=
  d.groups.flatMap Group.forms ++ d.rest.map Form.atom

/-- The parameters that a typed list declares: those of the groups, and the other names without a
type. -/
def parameters (marked : Bool) (d : Grouping) : List Parameter :=
  d.groups.flatMap (Group.parameters marked) ++
    d.rest.map fun atom => { name := nameOf marked atom }

/-- A grouping with one more group in front. -/
def cons (g : Group) (d : Grouping) : Grouping :=
  { d with groups := g :: d.groups }

/-- The groups of two typed lists, the first of which has no other names. -/
def append (d e : Grouping) : Grouping :=
  { e with groups := d.groups ++ e.groups }

@[simp] theorem forms_cons (g : Group) (d : Grouping) : (cons g d).forms = g.forms ++ d.forms := by
  simp [forms, cons]

@[simp] theorem parameters_cons (marked : Bool) (g : Group) (d : Grouping) :
    (cons g d).parameters marked = g.parameters marked ++ d.parameters marked := by
  simp [parameters, cons]

theorem forms_append {d : Grouping} (h : d.rest = []) (e : Grouping) :
    (d.append e).forms = d.forms ++ e.forms := by
  simp [forms, append, h]

theorem parameters_append {d : Grouping} (h : d.rest = []) (marked : Bool) (e : Grouping) :
    (d.append e).parameters marked = d.parameters marked ++ e.parameters marked := by
  simp [parameters, append, h]

end Grouping

variable {marked : Bool}

/-- Names other than the dash wait for a type. -/
theorem readFrom_names {names : List String} (h : "-" ∉ names) (pending : List String)
    (forms : List Form) :
    readFrom marked pending (names.map Form.atom ++ forms) =
      readFrom marked (pending ++ names.map (nameOf marked)) forms := by
  induction names generalizing pending with
  | nil => simp
  | cons name names ih =>
    obtain ⟨hname, hnames⟩ := List.ne_and_not_mem_of_not_mem_cons h
    rw [List.map_cons, List.cons_append, readFrom_atom hname.symm, ih hnames, List.map_cons,
      List.append_assoc, List.singleton_append]
    rfl

/-- A group is read before what follows it. -/
theorem readList_group (g : Group) {forms : List Form} {parameters : List Parameter}
    (h : readList marked forms = .ok parameters) :
    readList marked (g.forms ++ forms) = .ok (g.parameters marked ++ parameters) := by
  have hpending : ([] ++ g.names.map (nameOf marked)).isEmpty = false := by
    simp [g.names_ne_nil]
  rw [readList, Group.forms, List.append_assoc, readFrom_names g.dash_notMem]
  change readFrom marked _ (.atom "-" :: g.type :: forms) = _
  rw [readFrom, hpending, if_neg Bool.false_ne_true]
  refine bind_eq_ok_iff.mpr ⟨parameters, h, pure_eq_ok_iff.mpr ?_⟩
  simp [Group.parameters, Function.comp_def]

/-- What is written in groups is read as the parameters of the groups. -/
theorem readList_forms (marked : Bool) (d : Grouping) :
    readList marked d.forms = .ok (d.parameters marked) := by
  obtain ⟨groups, rest, hrest⟩ := d
  induction groups with
  | nil =>
    have hnames : readFrom marked [] (rest.map Form.atom ++ []) =
        readFrom marked ([] ++ rest.map (nameOf marked)) [] :=
      readFrom_names hrest [] []
    rw [List.append_nil] at hnames
    rw [readList, Grouping.forms, List.flatMap_nil, List.nil_append, hnames]
    simp [readFrom, Grouping.parameters, Function.comp_def]
  | cons g groups ih =>
    have hread := readList_group g ih
    change readList marked (Grouping.cons g ⟨groups, rest, hrest⟩).forms =
      .ok ((Grouping.cons g ⟨groups, rest, hrest⟩).parameters marked)
    rw [Grouping.forms_cons, Grouping.parameters_cons, hread]

/-- What is read after some names was written in groups, of which the first one starts with the
names. -/
theorem exists_grouping_of_readFrom {names : List String} (hnames : "-" ∉ names)
    {forms : List Form} {parameters : List Parameter}
    (h : readFrom marked (names.map (nameOf marked)) forms = .ok parameters) :
    ∃ d : Grouping, d.forms = names.map Form.atom ++ forms ∧ d.parameters marked = parameters := by
  generalize hpending : names.map (nameOf marked) = pending at h
  fun_induction readFrom marked pending forms generalizing names parameters with
  | case1 pending =>
    obtain rfl := Except.ok.inj h
    subst hpending
    exact ⟨⟨[], names, hnames⟩, by simp [Grouping.forms], by simp [Grouping.parameters]⟩
  | case2 => cases h
  | case3 pending type rest hempty => cases h
  | case4 pending type rest hne typed =>
    rename_i ih
    subst hpending
    obtain ⟨others, hread, h⟩ := bind_eq_ok_iff.mp h
    obtain rfl := pure_eq_ok_iff.mp h
    have hfirst : "-" ∉ ([] : List String) := List.not_mem_nil
    obtain ⟨d, hforms, hparameters⟩ := ih hfirst rfl hread
    have hnil : names ≠ [] := by simpa using hne
    refine ⟨Grouping.cons ⟨names, type, hnil, hnames⟩ d, ?_, ?_⟩
    · simp [Group.forms, hforms]
    · simp [Group.parameters, hparameters, typed, Function.comp_def]
  | case5 => cases h
  | case6 pending atom rest hdash hdash' ih =>
    subst hpending
    have hatom : "-" ≠ atom := by
      rintro rfl
      -- a dash is followed by a type or by nothing, and both cases come first
      cases rest with
      | nil => exact hdash rfl rfl
      | cons type rest => exact hdash' type rest rfl rfl
    have hlonger : "-" ∉ names ++ [atom] := by simp [hnames, hatom]
    obtain ⟨d, hforms, hparameters⟩ := ih hlonger (by simp [nameOf]) h
    exact ⟨d, by simpa using hforms, hparameters⟩

/-- Exactly the typed lists that are written in groups are read, as the parameters of the groups. -/
theorem readList_eq_ok_iff {entries : List Form} {parameters : List Parameter} :
    readList marked entries = .ok parameters ↔
      ∃ d : Grouping, d.forms = entries ∧ d.parameters marked = parameters := by
  constructor
  · intro h
    have hfirst : "-" ∉ ([] : List String) := List.not_mem_nil
    have hgrouping := exists_grouping_of_readFrom hfirst h
    simpa using hgrouping
  · rintro ⟨d, rfl, rfl⟩
    exact readList_forms marked d

/-- A typed list is refused with a fault of typed lists. -/
theorem isOfTypedList_of_readFrom {pending : List String} {forms : List Form} {fault : Form.Fault}
    (h : readFrom marked pending forms = .error fault) : fault.IsOfTypedList := by
  fun_induction readFrom marked pending forms with
  | case1 => cases h
  | case2 => exact Except.error.inj h ▸ .danglingDash
  | case3 pending type rest hempty => exact Except.error.inj h ▸ .typeWithoutNames type.render
  | case4 pending type rest hne typed =>
    rename_i ih
    rcases bind_eq_error_iff.mp h with hread | ⟨others, -, h⟩
    · exact ih hread
    · cases h
  | case5 pending entries rest => exact Except.error.inj h ▸ .nestedName (.list entries)
  | case6 pending atom rest hdash hdash' ih => exact ih h

/-- An atom other than the dash is no dash among forms. -/
theorem dash_notMem_map_atom {names : List String} (h : "-" ∉ names) :
    Form.atom "-" ∉ names.map Form.atom := by
  intro hmem
  obtain ⟨name, hname, heq⟩ := List.mem_map.mp hmem
  exact h (Form.atom.inj heq ▸ hname)

/-- The same names are written as the same atoms only. -/
theorem map_atom_inj {names names' : List String}
    (h : names.map Form.atom = names'.map Form.atom) : names = names' :=
  List.map_injective_iff.mpr (fun _ _ heq => Form.atom.inj heq) h

/-- The first dash ends the names before it. -/
theorem names_dash_inj {names names' : List String} (h : "-" ∉ names) (h' : "-" ∉ names')
    {forms forms' : List Form}
    (heq : names.map Form.atom ++ .atom "-" :: forms =
      names'.map Form.atom ++ .atom "-" :: forms') :
    names = names' ∧ forms = forms' := by
  induction names generalizing names' with
  | nil =>
    cases names' with
    | nil => exact ⟨rfl, (List.cons.inj heq).2⟩
    | cons name' names' => exact absurd (Form.atom.inj (List.cons.inj heq).1) (by grind)
  | cons name names ih =>
    cases names' with
    | nil => exact absurd (Form.atom.inj (List.cons.inj heq).1) (by grind)
    | cons name' names' =>
      obtain ⟨hname, htail⟩ := List.cons.inj heq
      obtain ⟨rfl, rfl⟩ :=
        ih (List.not_mem_of_not_mem_cons h) (List.not_mem_of_not_mem_cons h') htail
      exact ⟨congrArg (· :: names) (Form.atom.inj hname), rfl⟩

/-- Where a group is written there is a dash, so it is not taken for names without a type. -/
theorem Grouping.forms_cons_ne (g : Group) (d : Grouping) {names : List String}
    (h : "-" ∉ names) : (cons g d).forms ≠ names.map Form.atom := by
  intro heq
  have hdash : Form.atom "-" ∈ names.map Form.atom := by
    rw [← heq, forms_cons]
    simp [Group.forms]
  exact dash_notMem_map_atom h hdash

/-- A typed list can be grouped in one way only: the first dash ends the names of the first group,
and the form behind it is the type. -/
theorem Grouping.forms_injective : Function.Injective Grouping.forms := by
  rintro ⟨groups, rest, hrest⟩ ⟨groups', rest', hrest'⟩ h
  induction groups generalizing groups' with
  | nil =>
    cases groups' with
    | nil =>
      obtain rfl := map_atom_inj h
      rfl
    | cons g groups' => exact absurd h.symm (forms_cons_ne g ⟨groups', rest', hrest'⟩ hrest)
  | cons g groups ih =>
    cases groups' with
    | nil => exact absurd h (forms_cons_ne g ⟨groups, rest, hrest⟩ hrest')
    | cons g' groups' =>
      obtain ⟨names, type, hnil, hnames⟩ := g
      obtain ⟨names', type', hnil', hnames'⟩ := g'
      simp only [forms, List.flatMap_cons, Group.forms, List.append_assoc, List.cons_append,
        List.nil_append] at h
      obtain ⟨rfl, hbehind⟩ := names_dash_inj hnames hnames' h
      obtain ⟨rfl, hothers⟩ := List.cons.inj hbehind
      obtain ⟨rfl, rfl⟩ := Grouping.mk.inj (ih groups' hothers)
      rfl

/-- Parameters without a type come last: behind one there is none with a type. -/
def UntypedLast (parameters : List Parameter) : Prop :=
  parameters.Pairwise fun p q => p.type = none → q.type = none

/-- The parameters of groups have types. -/
theorem Grouping.type_isSome_of_mem {groups : List Group} {p : Parameter}
    (h : p ∈ groups.flatMap (Group.parameters marked)) : p.type.isSome = true := by
  obtain ⟨g, -, hp⟩ := List.mem_flatMap.mp h
  obtain ⟨atom, -, rfl⟩ := List.mem_map.mp hp
  rfl

/-- The parameters of a grouping that have no type come last. -/
theorem Grouping.untypedLast (marked : Bool) (d : Grouping) :
    UntypedLast (d.parameters marked) := by
  have htyped {p q : Parameter} (hp : p ∈ d.groups.flatMap (Group.parameters marked)) :
      p.type = none → q.type = none := by
    intro hnone
    have hsome := type_isSome_of_mem hp
    simp [hnone] at hsome
  refine List.pairwise_append.mpr ⟨?_, ?_, fun p hp q _ => htyped hp⟩
  · exact List.pairwise_of_forall_mem_list fun p hp q _ => htyped hp
  · exact List.pairwise_map.mpr (List.pairwise_of_forall fun _ _ _ => rfl)

/-- If the last parameter of a grouping has a type, no name is left without one. -/
theorem Grouping.rest_eq_nil {d : Grouping}
    (h : ∀ p ∈ (d.parameters marked).getLast?, p.type.isSome = true) : d.rest = [] := by
  cases hlast : d.rest.getLast? with
  | none => exact List.getLast?_eq_none_iff.mp hlast
  | some atom =>
    have htyped := h { name := nameOf marked atom } (by
      simp [parameters, List.getLast?_append, List.getLast?_map, hlast])
    cases htyped

/-- Typed lists are read by their grammar. Reading succeeds exactly for what can be written in
groups, with the parameters of the groups; this can be done in one way only; and all else is refused
with a fault of typed lists. So parameters without a type come last, and a list behind one that
leaves no name without a type is read on its own. -/
theorem readList_by_grammar (marked : Bool) (entries : List Form) :
    (∀ parameters, readList marked entries = .ok parameters ↔
      ∃ d : Grouping, d.forms = entries ∧ d.parameters marked = parameters) ∧
    (∀ d e : Grouping, d.forms = entries → e.forms = entries → d = e) ∧
    (∀ fault, readList marked entries = .error fault → fault.IsOfTypedList) ∧
    (∀ parameters, readList marked entries = .ok parameters → UntypedLast parameters) ∧
    (∀ behind parameters others, readList marked entries = .ok parameters →
      readList marked behind = .ok others →
      (∀ p ∈ parameters.getLast?, p.type.isSome = true) →
      readList marked (entries ++ behind) = .ok (parameters ++ others)) := by
  refine ⟨fun parameters => readList_eq_ok_iff, fun d e hd he => ?_, fun fault => ?_,
    fun parameters h => ?_, fun behind parameters others h hothers hlast => ?_⟩
  · exact Grouping.forms_injective (hd.trans he.symm)
  · exact isOfTypedList_of_readFrom
  · obtain ⟨d, -, rfl⟩ := readList_eq_ok_iff.mp h
    exact d.untypedLast marked
  · obtain ⟨d, rfl, rfl⟩ := readList_eq_ok_iff.mp h
    obtain ⟨e, rfl, rfl⟩ := readList_eq_ok_iff.mp hothers
    have hrest := Grouping.rest_eq_nil hlast
    rw [← Grouping.forms_append hrest, ← Grouping.parameters_append hrest]
    exact readList_forms marked (d.append e)

/-- A dash can be a type, and a list can; behind them, names without a type come from a second
list. -/
theorem readList_by_grammar_dashType :
    let movable : List Form := [.atom "?a", .atom "b", .atom "-", .atom "-", .atom "??c", .atom "-",
      .list [.atom "either", .atom "t", .atom "u"]]
    let typed : List Parameter := [⟨"a", some "-"⟩, ⟨"b", some "-"⟩, ⟨"?c", some "(either t u)"⟩]
    readList true movable = .ok typed ∧ readList true [.atom "?d"] = .ok [⟨"d", none⟩] ∧
      readList true (movable ++ [.atom "?d"]) = .ok (typed ++ [⟨"d", none⟩]) ∧
      UntypedLast (typed ++ [⟨"d", none⟩]) := by
  intro movable typed
  have hmovable : readList true movable = .ok typed := rfl
  have hwhole : readList true (movable ++ [.atom "?d"]) = .ok (typed ++ [⟨"d", none⟩]) :=
    (readList_by_grammar true movable).2.2.2.2 _ _ _ hmovable rfl (by simp [typed])
  exact ⟨hmovable, rfl, hwhole, (readList_by_grammar true _).2.2.2.1 _ hwhole⟩

end Parameter

end PlanDiagram
