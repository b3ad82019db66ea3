import Mathlib.Data.List.Induction
import PlanDiagram.Proofs.Outline.Root

/-!
# The objects of a problem, type by type

The table of objects is filled object by object. What it holds after some objects is said by these
alone: their types in the order of first appearance, each with the names of the objects of the type
as they were declared. Main statement: the nodes below `Objects` are these groups, and together the
groups hold each object of the problem as often as it was declared.
-/

namespace PlanDiagram.Outline

/-- An object is listed under its type, and under `object` if it has none. -/
theorem objectType_eq_iff {o : Parameter} {type : String} :
    objectType o = type ↔
      (o.type = some type ∧ type ≠ "") ∨ (o.type = none ∨ o.type = some "") ∧ type = "object" := by
  rw [objectType, Parameter.shownType]
  cases htype : o.type with
  | none => simp [eq_comm]
  | some own =>
    by_cases hown : own = ""
    · simp [Option.filter, hown, eq_comm]
    · have hne : own = type → type ≠ "" := by
        rintro rfl
        exact hown
      simpa [Option.filter, hown] using hne

/-- The objects that are listed under a type. -/
def objectsOf (type : String) (objects : List Parameter) : List Parameter :=
  objects.filter fun o => objectType o == type

/-- The types of objects, in the order in which they first appear. -/
def objectTypes (objects : List Parameter) : List String :=
  (objects.map objectType).eraseDups

/-- A last type counts if it is new. -/
theorem eraseDups_append_singleton (types : List String) (type : String) :
    (types ++ [type]).eraseDups =
      if type ∈ types then types.eraseDups else types.eraseDups ++ [type] := by
  rw [List.eraseDups_append]
  split <;> simp_all [List.removeAll, List.eraseDups_cons]

/-- Types come in the order of their first places. -/
theorem pairwise_eraseDups (types : List String) :
    types.eraseDups.Pairwise fun a b => types.idxOf a < types.idxOf b := by
  induction types using List.reverseRecOn with
  | nil => exact .nil
  | append_singleton types type ih =>
    have hfront {a : String} (ha : a ∈ types.eraseDups) :
        (types ++ [type]).idxOf a = types.idxOf a := by
      rw [List.idxOf_append, if_pos (List.mem_eraseDups.mp ha)]
    have hpairwise : types.eraseDups.Pairwise fun a b =>
        (types ++ [type]).idxOf a < (types ++ [type]).idxOf b :=
      ih.imp_of_mem fun ha hb hlt => by rwa [hfront ha, hfront hb]
    rw [eraseDups_append_singleton]
    split
    · exact hpairwise
    · rename_i hnew
      refine List.pairwise_append.mpr ⟨hpairwise, List.pairwise_singleton _ _, fun a ha b hb => ?_⟩
      rw [List.mem_singleton.mp hb, hfront ha, List.idxOf_append, if_neg hnew]
      exact (List.idxOf_lt_length_iff.mpr (List.mem_eraseDups.mp ha)).trans_le (Nat.le_add_left _ _)

/-- No type is listed twice. -/
theorem nodup_objectTypes (objects : List Parameter) : (objectTypes objects).Nodup := by
  refine (pairwise_eraseDups _).imp ?_
  rintro type _ hlt rfl
  exact lt_irrefl _ hlt

/-- The types are those of the objects. -/
theorem mem_objectTypes {objects : List Parameter} {type : String} :
    type ∈ objectTypes objects ↔ ∃ o ∈ objects, objectType o = type := by
  simp [objectTypes]

/-- A type without objects has no group. -/
theorem objectsOf_eq_nil {objects : List Parameter} {type : String}
    (h : type ∉ objectTypes objects) : objectsOf type objects = [] := by
  rw [objectsOf, List.filter_eq_nil_iff]
  intro o ho htype
  exact h (mem_objectTypes.mpr ⟨o, ho, eq_of_beq htype⟩)

/-- A name is added behind the names of its type, or in a group of its own if the type is new. -/
theorem addToGroup_map {types : List String} (hnodup : types.Nodup) (names : String → List String)
    (type name : String) :
    addToGroup type name (types.map fun t => (t, names t)) =
      (types.map fun t => (t, names t ++ if t = type then [name] else [])) ++
        if type ∈ types then [] else [(type, [name])] := by
  induction types with
  | nil => simp [addToGroup]
  | cons t types ih =>
    obtain ⟨ht, hnodup⟩ := List.nodup_cons.mp hnodup
    rw [List.map_cons, addToGroup]
    by_cases htype : t = type
    · subst htype
      have hothers : (types.map fun u => (u, names u ++ if u = t then [name] else [])) =
          types.map fun u => (u, names u) := by
        refine List.map_congr_left fun u hu => ?_
        rw [if_neg (ne_of_mem_of_not_mem hu ht), List.append_nil]
      simp [hothers]
    · simp [htype, Ne.symm htype, ih hnodup]

/-- A last object counts if its type is new. -/
theorem objectTypes_append_singleton (objects : List Parameter) (o : Parameter) :
    objectTypes (objects ++ [o]) =
      objectTypes objects ++ if objectType o ∈ objectTypes objects then [] else [objectType o] := by
  simp only [objectTypes, List.map_append, List.map_singleton, eraseDups_append_singleton,
    List.mem_eraseDups]
  split <;> simp

/-- A last object is listed under its type. -/
theorem objectsOf_append_singleton (type : String) (objects : List Parameter) (o : Parameter) :
    objectsOf type (objects ++ [o]) =
      objectsOf type objects ++ if type = objectType o then [o] else [] := by
  rw [objectsOf, List.filter_append, objectsOf]
  by_cases h : type = objectType o
  · simp [h]
  · simp [h, Ne.symm h]

/-- What the table holds after some objects: their types, each with the names of its objects. -/
theorem objectGroups_eq (objects : List Parameter) :
    objectGroups objects =
      (objectTypes objects).map fun type =>
        (type, (objectsOf type objects).map Parameter.name) := by
  induction objects using List.reverseRecOn with
  | nil => rfl
  | append_singleton objects o ih =>
    have hstep : objectGroups (objects ++ [o]) =
        addToGroup (objectType o) o.name (objectGroups objects) := List.foldl_append
    have hnames (type : String) : (objectsOf type (objects ++ [o])).map Parameter.name =
        (objectsOf type objects).map Parameter.name ++
          if type = objectType o then [o.name] else [] := by
      rw [objectsOf_append_singleton, List.map_append]
      split <;> rfl
    rw [hstep, ih, addToGroup_map (nodup_objectTypes objects), objectTypes_append_singleton,
      List.map_append]
    simp only [hnames]
    congr 1
    split
    · rfl
    · rename_i hnew
      simp [objectsOf_eq_nil hnew]

/-- The groups of some types hold all objects of these types. -/
theorem flatMap_objectsOf_perm {types : List String} {objects : List Parameter}
    (hnodup : types.Nodup) (htypes : ∀ o ∈ objects, objectType o ∈ types) :
    (types.flatMap fun type => objectsOf type objects).Perm objects := by
  induction types generalizing objects with
  | nil =>
    cases objects with
    | nil => exact .nil
    | cons o objects => cases htypes o List.mem_cons_self
  | cons type types ih =>
    obtain ⟨htype, hnodup⟩ := List.nodup_cons.mp hnodup
    -- the groups of the other types are made of the objects of other types
    have hothers : (types.flatMap fun other => objectsOf other objects) =
        types.flatMap fun other =>
          objectsOf other (objects.filter fun o => !objectType o == type) := by
      refine List.flatMap_congr fun other hother => ?_
      rw [objectsOf, objectsOf, List.filter_filter]
      refine List.filter_congr fun o _ => ?_
      have hne := ne_of_mem_of_not_mem hother htype
      by_cases ho : objectType o = other <;> simp [ho, hne]
    have hlisted : ∀ o ∈ objects.filter (fun o => !objectType o == type), objectType o ∈ types := by
      intro o ho
      obtain ⟨hmem, hne⟩ := List.mem_filter.mp ho
      exact (List.mem_cons.mp (htypes o hmem)).resolve_left (by simpa using hne)
    rw [List.flatMap_cons, hothers]
    exact ((ih hnodup hlisted).append_left _).trans (List.filter_append_perm _ objects)

/-- There are groups if there are objects. -/
theorem isEmpty_objectGroups (objects : List Parameter) :
    (objectGroups objects).isEmpty = objects.isEmpty := by
  rw [objectGroups_eq]
  cases objects <;> simp [objectTypes, List.eraseDups_cons]

/-- Objects as nodes: one for each type, with the names of its objects below. -/
def nodesByType (objects : List Parameter) : List Outline :=
  (objectTypes objects).map fun type =>
    node type ((objectsOf type objects).map fun o => leaf o.name)

/-- The nodes of a problem have one for its objects. -/
theorem find?_objects_ofProblem (p : Problem) :
    (ofProblem p).find? (fun child => child.text == "Objects") =
      some (node "Objects"
        (if p.objects = [] then [leaf noneText] else nodesByType p.objects)) := by
  have hgroups : ((objectGroups p.objects).map fun group => node group.1 (group.2.map leaf)) =
      nodesByType p.objects := by
    rw [objectGroups_eq, List.map_map]
    refine List.map_congr_left fun type _ => ?_
    simp [Function.comp_def]
  simp only [ofProblem, hgroups, isEmpty_objectGroups, List.isEmpty_iff, List.append_assoc,
    List.cons_append, List.find?_cons, @text_domainReference_ne _ "Objects" (by decide)]
  rfl

/-- The objects of a problem are listed without loss. Whether the problem is primary or not, the
nodes below `Objects` are one for each type of its objects, in the order in which the types first
appear, with the names of the objects of the type below. These are listed in the order of their
declaration, and all groups together hold the objects of the problem. -/
theorem objects_listed_by_type (p : Problem) :
    ∃ (objects : Outline) (types : List String),
      ((problemNode p).find? "Objects" = some objects ∧
        ∀ d : Document, d.primary? = some (.problem p) →
          (ofDocument d).find? "Objects" = some objects) ∧
      (p.objects = [] → objects.children = [leaf noneText]) ∧
      (p.objects ≠ [] → objects.children = types.map fun type =>
        node type ((objectsOf type p.objects).map fun o => leaf o.name)) ∧
      (∀ type, type ∈ types ↔ ∃ o ∈ p.objects, objectType o = type) ∧
      (types.Pairwise fun a b =>
        (p.objects.map objectType).idxOf a < (p.objects.map objectType).idxOf b) ∧
      (types.flatMap fun type => objectsOf type p.objects).Perm p.objects := by
  refine ⟨_, objectTypes p.objects, ⟨find?_objects_ofProblem p, fun d hprimary => ?_⟩,
    fun hnil => if_pos hnil, fun hne => if_neg hne, fun _ => mem_objectTypes,
    pairwise_eraseDups _, flatMap_objectsOf_perm (nodup_objectTypes _) fun o ho =>
      mem_objectTypes.mpr ⟨o, ho, rfl⟩⟩
  rw [Document.primary?_eq_head?] at hprimary
  obtain ⟨others, hothers⟩ := List.head?_eq_some_iff.mp hprimary
  rw [find?, children_ofDocument hothers, List.find?_append, List.find?_append, structureNodes,
    find?_objects_ofProblem]
  rfl

/-- A problem with objects without a type, and one of the type that stands for none. -/
def warehouseProblem : Problem where
  name := "p"
  objects := [{ name := "a" }, { name := "c", type := some "crate" },
    { name := "b", type := some "object" }, { name := "a" }]

/-- The objects without a type are listed with those of the type that stands for none. -/
theorem objects_listed_by_type_warehouseProblem :
    Document.primary? { problems := [warehouseProblem] } = some (.problem warehouseProblem) ∧
      warehouseProblem.objects ≠ [] ∧
      ∃ objects, (ofDocument { problems := [warehouseProblem] }).find? "Objects" = some objects ∧
        objects.children.map text = ["object", "crate"] ∧
        objects.children.map (·.children.map text) = [["a", "b", "a"], ["c"]] := by
  have hprimary : Document.primary? { problems := [warehouseProblem] } =
    some (.problem warehouseProblem) := rfl
  have hne : warehouseProblem.objects ≠ [] := by decide
  obtain ⟨objects, types, ⟨-, hfound⟩, -, -, -⟩ := objects_listed_by_type warehouseProblem
  have hobjects := hfound _ hprimary
  have hlisted := congrArg (Option.map fun o : Outline =>
    (o.children.map text, o.children.map (·.children.map text))) hobjects
  obtain ⟨htypes, hnames⟩ := Prod.mk.inj (Option.some.inj (hlisted.symm.trans
    (by decide +kernel : _ = some (["object", "crate"], [["a", "b", "a"], ["c"]]))))
  exact ⟨hprimary, hne, objects, hobjects, htypes, hnames⟩

end PlanDiagram.Outline
