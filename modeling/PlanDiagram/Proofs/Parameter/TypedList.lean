import PlanDiagram.Formula.Render
import PlanDiagram.Parameter.TypedList
import PlanDiagram.Proofs.Failure
import PlanDiagram.Proofs.Form.RoundTrip

/-!
# Variable lists written and read again

A list of variables groups names before their type. The reader gives each name its type, and only
the last names can be without one. Main statements: the variables that were read are written one
declaration after the other, what is written is the text of a list, and reading this list gives the
same variables.
-/

namespace PlanDiagram.Parameter

/-- A name without its mark. -/
@[simp] theorem bareName_mark (name : String) : bareName ("?" ++ name) = name := by
  simp [bareName]

/-- A name that starts with no mark is bare. -/
theorem bareName_of_toList {name : String} (h : ∀ rest, name.toList ≠ '?' :: rest) :
    bareName name = name := by
  unfold bareName
  split
  · rename_i rest heq
    exact absurd heq (h rest)
  · rfl

/-- A marked name can stand as a word if the name can, also when it is empty. -/
theorem isPlain_mark {name : String} (h : ∀ c ∈ name.toList, Token.isPlainChar c = true) :
    Token.IsPlain ("?" ++ name) := by
  refine ⟨?_, ?_⟩
  · rw [ne_eq, ← String.toList_inj, String.toList_append]
    simp
  · rw [String.toList_append]
    exact List.forall_mem_cons.mpr ⟨by decide, h⟩

/-- The characters of a bare name are some of those of the name. -/
theorem mem_of_mem_bareName {name : String} {c : Char} (h : c ∈ (bareName name).toList) :
    c ∈ name.toList := by
  unfold bareName at h
  split at h
  · rename_i rest heq
    rw [heq]
    exact List.mem_cons_of_mem _ (by simpa using h)
  · exact h

/-- A word whose mark is put back can stand as a word. -/
theorem isPlain_mark_bareName {name : String} (h : Token.IsPlain name) :
    Token.IsPlain ("?" ++ bareName name) :=
  isPlain_mark fun c hc => h.2 c (mem_of_mem_bareName hc)

/-- The forms of a list that declares variables: each with its mark, and with a type after a dash
except for the last ones. -/
inductive Declares : List Form → List Parameter → Prop where
  | untyped (names : List String) (h : ∀ name ∈ names, Token.IsPlain ("?" ++ name)) :
    Declares (names.map fun name => .atom ("?" ++ name)) (names.map fun name => { name })
  | typed {name : String} {type : Form} {forms : List Form} {parameters : List Parameter}
    (hname : Token.IsPlain ("?" ++ name)) (htype : type.IsPlain)
    (h : Declares forms parameters) :
    Declares (.atom ("?" ++ name) :: .atom "-" :: type :: forms)
      ({ name, type := some type.render } :: parameters)

/-- A group of names with one type is declared name by name. -/
theorem Declares.group {names : List String} {type : Form} {forms : List Form}
    {parameters : List Parameter} (hnames : ∀ name ∈ names, Token.IsPlain ("?" ++ name))
    (htype : type.IsPlain) (h : Declares forms parameters) :
    ∃ declared, Declares declared
      ((names.map fun name => { name, type := some type.render }) ++ parameters) := by
  induction names with
  | nil => exact ⟨forms, h⟩
  | cons name names ih =>
    obtain ⟨hname, hrest⟩ := List.forall_mem_cons.mp hnames
    obtain ⟨declared, hdeclared⟩ := ih hrest
    exact ⟨_, .typed hname htype hdeclared⟩

/-- Variables that are read from plain forms can be declared. -/
theorem exists_declares_of_readFrom {pending : List String} {forms : List Form}
    {parameters : List Parameter} (hpending : ∀ name ∈ pending, Token.IsPlain ("?" ++ name))
    (hplain : ∀ form ∈ forms, form.IsPlain) (h : readFrom true pending forms = .ok parameters) :
    ∃ declared, Declares declared parameters := by
  fun_induction readFrom true pending forms generalizing parameters with
  | case1 pending =>
    obtain rfl := Except.ok.inj h
    exact ⟨_, .untyped pending hpending⟩
  | case2 => cases h
  | case3 pending type rest hempty => cases h
  | case4 pending type rest hne typed =>
    rename_i ih
    obtain ⟨htype, hrest⟩ := List.forall_mem_cons.mp (List.forall_mem_cons.mp hplain).2
    obtain ⟨others, hread, h⟩ := bind_eq_ok_iff.mp h
    obtain rfl := pure_eq_ok_iff.mp h
    obtain ⟨declared, hdeclared⟩ := ih (by simp) hrest hread
    exact hdeclared.group hpending htype
  | case5 => cases h
  | case6 pending atom rest hdash hdash' ih =>
    obtain ⟨hatom, hrest⟩ := List.forall_mem_cons.mp hplain
    refine ih (fun name hname => ?_) hrest h
    rcases List.mem_append.mp hname with hname | hname
    · exact hpending name hname
    · rw [List.mem_singleton.mp hname]
      exact isPlain_mark_bareName (Form.isPlain_atom.mp hatom)

/-- Some name gives some variable. -/
theorem ne_nil_of_readFrom {pending : List String} {forms : List Form}
    {parameters : List Parameter} (hne : pending ≠ [] ∨ forms ≠ [])
    (h : readFrom true pending forms = .ok parameters) : parameters ≠ [] := by
  fun_induction readFrom true pending forms generalizing parameters with
  | case1 pending =>
    obtain rfl := Except.ok.inj h
    simpa using hne
  | case2 => cases h
  | case3 pending type rest hempty => cases h
  | case4 pending type rest hpending typed =>
    obtain ⟨others, hread, h⟩ := bind_eq_ok_iff.mp h
    obtain rfl := pure_eq_ok_iff.mp h
    simp only [typed, List.isEmpty_iff] at hpending ⊢
    simp [hpending]
  | case5 => cases h
  | case6 pending atom rest hdash hdash' ih => exact ih (.inl (by simp)) h

/-- A marked name is not the dash before a type. -/
theorem mark_ne_dash (name : String) : "?" ++ name ≠ "-" := by
  rw [ne_eq, ← String.toList_inj, String.toList_append]
  simp

/-- A name other than the dash waits for a type. -/
theorem readFrom_atom {atom : String} (h : atom ≠ "-") (marked : Bool) (pending : List String)
    (rest : List Form) :
    readFrom marked pending (.atom atom :: rest) =
      readFrom marked (pending ++ [if marked then bareName atom else atom]) rest := by
  rw [readFrom]
  all_goals
    intros
    simp_all

/-- A marked name waits for a type. -/
theorem readFrom_mark (pending : List String) (name : String) (rest : List Form) :
    readFrom true pending (.atom ("?" ++ name) :: rest) =
      readFrom true (pending ++ [name]) rest := by
  rw [readFrom_atom (mark_ne_dash name), if_pos rfl, bareName_mark]

/-- Names at the end of a list stay without a type. -/
theorem readFrom_untyped (pending names : List String) :
    readFrom true pending (names.map fun name => .atom ("?" ++ name)) =
      .ok ((pending ++ names).map fun name => { name }) := by
  induction names generalizing pending with
  | nil => simp [readFrom]
  | cons name names ih =>
    rw [List.map_cons, readFrom_mark, ih, List.append_assoc, List.singleton_append]

/-- Declared variables are read back. -/
theorem Declares.readList {forms : List Form} {parameters : List Parameter}
    (h : Declares forms parameters) : readList true forms = .ok parameters := by
  induction h with
  | untyped names _ => exact readFrom_untyped [] names
  | typed hname htype h ih =>
    rw [Parameter.readList] at ih ⊢
    rw [readFrom_mark, List.nil_append, readFrom, if_neg (by simp)]
    exact bind_eq_ok_iff.mpr ⟨_, ih, rfl⟩

/-- The forms that declare variables are plain. -/
theorem Declares.isPlain {forms : List Form} {parameters : List Parameter}
    (h : Declares forms parameters) : ∀ form ∈ forms, form.IsPlain := by
  induction h with
  | untyped names hnames =>
    intro form hform
    obtain ⟨name, hname, rfl⟩ := List.mem_map.mp hform
    exact Form.isPlain_atom.mpr (hnames name hname)
  | typed hname htype h ih =>
    simp only [List.forall_mem_cons]
    exact ⟨Form.isPlain_atom.mpr hname, Form.isPlain_atom.mpr (by decide), htype, ih⟩

/-- The text of a plain form is not empty. -/
theorem render_ne_empty {form : Form} (h : form.IsPlain) : form.render ≠ "" := by
  cases form with
  | atom text => exact (Form.isPlain_atom.mp h).1
  | list entries =>
    rw [ne_eq, ← String.toList_inj, Form.toList_render_list]
    simp

/-- A variable with a type is declared by its name, a dash and the type. -/
theorem variableDeclaration_typed (name : String) {type : String} (h : type ≠ "") :
    variableDeclaration { name, type := some type } = "?" ++ name ++ " " ++ "-" ++ " " ++ type := by
  simp [variableDeclaration, declaration, shownType, Option.filter, h, String.append_assoc]

/-- Variables are declared by forms, and no variables by none. -/
theorem Declares.forms_eq_nil_iff {forms : List Form} {parameters : List Parameter}
    (h : Declares forms parameters) : forms = [] ↔ parameters = [] := by
  cases h <;> simp

/-- The declarations one after the other are the text of the forms that declare. -/
theorem Declares.text {forms : List Form} {parameters : List Parameter}
    (h : Declares forms parameters) :
    " ".intercalate (parameters.map variableDeclaration) =
      " ".intercalate (forms.map Form.render) := by
  induction h with
  | untyped names _ =>
    simp only [List.map_map]
    rfl
  | @typed name type forms parameters hname htype h ih =>
    rw [List.map_cons, variableDeclaration_typed name (render_ne_empty htype)]
    simp only [List.map_cons, Form.render_atom]
    by_cases hnil : forms = []
    · obtain rfl := h.forms_eq_nil_iff.mp hnil
      simp only [hnil, List.map_nil, String.intercalate_cons_cons, String.intercalate_singleton,
        String.append_assoc]
    · have hparameters := mt h.forms_eq_nil_iff.mpr hnil
      rw [String.intercalate_cons_of_ne_nil (by simpa using hparameters), ih,
        String.intercalate_cons_cons, String.intercalate_cons_cons,
        String.intercalate_cons_of_ne_nil (by simpa using hnil)]
      simp only [String.append_assoc]

/-- Variables that were read from plain forms are written as a plain list that is read as the same
variables. -/
theorem exists_declared {declared : List Form} {bound : List Parameter}
    (hplain : ∀ form ∈ declared, form.IsPlain) (h : readList true declared = .ok bound) :
    ∃ forms, (Form.list forms).IsPlain ∧ readList true forms = .ok bound ∧
      Formula.parenthesise (bound.map variableDeclaration) = (Form.list forms).render := by
  obtain ⟨forms, hforms⟩ := exists_declares_of_readFrom (by simp) hplain h
  refine ⟨forms, Form.isPlain_list.mpr hforms.isPlain, hforms.readList, ?_⟩
  rw [Formula.parenthesise, hforms.text, Form.render_list]

end PlanDiagram.Parameter
