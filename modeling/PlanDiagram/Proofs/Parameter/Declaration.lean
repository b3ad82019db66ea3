import PlanDiagram.Proofs.Parameter.TypedList

/-!
# Declarations written and read again

A declaration is a name, and its type after a dash. What a typed list gives is fit to be declared: a
name is a word other than the dash, and a type is the text of a form. Main statement: a declaration
between parentheses is the text of a list that is read as just what is declared.
-/

namespace PlanDiagram

/-- A type that may be missing, and is the text of a form otherwise. -/
def IsTypeText (type? : Option String) : Prop :=
  ∀ type, type? = some type → ∃ form : Form, form.IsPlain ∧ form.render = type

namespace Parameter

/-- What can be declared: a name that is a word other than the dash, with or without a type. -/
structure IsDeclarable (p : Parameter) : Prop where
  isPlain : Token.IsPlain p.name
  ne_dash : p.name ≠ "-"
  type : IsTypeText p.type

/-- What is read from plain forms can be declared. -/
theorem isDeclarable_of_readFrom {pending : List String} {forms : List Form}
    {parameters : List Parameter}
    (hpending : ∀ name ∈ pending, Token.IsPlain name ∧ name ≠ "-")
    (hplain : ∀ form ∈ forms, form.IsPlain) (h : readFrom false pending forms = .ok parameters) :
    ∀ p ∈ parameters, p.IsDeclarable := by
  fun_induction readFrom false pending forms generalizing parameters with
  | case1 pending =>
    obtain rfl := Except.ok.inj h
    intro p hp
    obtain ⟨name, hname, rfl⟩ := List.mem_map.mp hp
    exact ⟨(hpending name hname).1, (hpending name hname).2, by simp [IsTypeText]⟩
  | case2 => cases h
  | case3 pending type rest hempty => cases h
  | case4 pending type rest hne typed =>
    rename_i ih
    obtain ⟨htype, hrest⟩ := List.forall_mem_cons.mp (List.forall_mem_cons.mp hplain).2
    obtain ⟨others, hread, h⟩ := bind_eq_ok_iff.mp h
    obtain rfl := pure_eq_ok_iff.mp h
    intro p hp
    rcases List.mem_append.mp hp with hp | hp
    · obtain ⟨name, hname, rfl⟩ := List.mem_map.mp hp
      refine ⟨(hpending name hname).1, (hpending name hname).2, ?_⟩
      rintro _ ⟨⟩
      exact ⟨type, htype, rfl⟩
    · exact ih (by simp) hrest hread p hp
  | case5 => cases h
  | case6 pending atom rest hdash hdash' ih =>
    obtain ⟨hatom, hrest⟩ := List.forall_mem_cons.mp hplain
    refine ih (fun name hname => ?_) hrest h
    rcases List.mem_append.mp hname with hname | hname
    · exact hpending name hname
    · rw [List.mem_singleton.mp hname]
      refine ⟨Form.isPlain_atom.mp hatom, ?_⟩
      rintro rfl
      -- a dash is followed by a type or by nothing, and both cases come first
      cases rest with
      | nil => exact hdash rfl rfl
      | cons type rest => exact hdash' type rest rfl rfl

/-- What is read from a plain list can be declared. -/
theorem isDeclarable_of_readList {forms : List Form} {parameters : List Parameter}
    (hplain : ∀ form ∈ forms, form.IsPlain) (h : readList false forms = .ok parameters) :
    ∀ p ∈ parameters, p.IsDeclarable :=
  isDeclarable_of_readFrom (by simp) hplain h

/-- A declaration between parentheses is the text of a plain list, which is read as what is
declared. -/
theorem IsDeclarable.exists_list {p : Parameter} (h : p.IsDeclarable) :
    ∃ entries, (Form.list entries).IsPlain ∧
      "(" ++ p.declaration ++ ")" = (Form.list entries).render ∧
      readList false entries = .ok [p] := by
  obtain ⟨name, type?⟩ := p
  cases type? with
  | none =>
    refine ⟨[.atom name], ?_, ?_, ?_⟩
    · exact Form.isPlain_list.mpr (List.forall_mem_singleton.mpr (Form.isPlain_atom.mpr h.isPlain))
    · rw [Form.render_list]
      rfl
    · rw [readList, readFrom_atom h.ne_dash]
      rfl
  | some type =>
    obtain ⟨form, hform, rfl⟩ := h.type type rfl
    refine ⟨[.atom name, .atom "-", form], ?_, ?_, ?_⟩
    · simp only [Form.isPlain_list, List.forall_mem_cons, Form.isPlain_atom]
      exact ⟨h.isPlain, by decide, hform, by simp⟩
    · have hdeclaration : declaration { name, type := some form.render } =
          name ++ " - " ++ form.render := by
        simp [declaration, shownType, Option.filter, render_ne_empty hform]
      rw [hdeclaration, Form.render_list]
      simp only [List.map_cons, List.map_nil, Form.render_atom, String.intercalate_cons_cons,
        String.intercalate_singleton, String.append_assoc]
      rfl
    · rw [readList, readFrom_atom h.ne_dash]
      rfl

end Parameter

end PlanDiagram
