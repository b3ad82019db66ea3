import PlanDiagram.Proofs.Parameter.Declaration
import PlanDiagram.Schema

/-!
# Signatures written and read again

The signature of a predicate or function is its name with its parameters, between parentheses, and
a function may have the type of its values after a dash. Main statements: the signature of a
predicate that was read is the text of a list that is read as the same predicate, and the signature
of a function, between parentheses of its own, is the text of a list that declares just this
function.
-/

namespace PlanDiagram

open Parameter (Declares)

/-- A name with declared parameters is the text of a list with this name at its head. -/
theorem signatureText_eq_render (name : String) {arguments : List Parameter} {forms : List Form}
    (h : Declares forms arguments) :
    signatureText name arguments = (Form.list (.atom name :: forms)).render := by
  rw [signatureText, Form.render_list, List.map_cons, Form.render_atom]
  by_cases hnil : forms = []
  · rw [hnil, h.forms_eq_nil_iff.mp hnil]
    rfl
  · have harguments := mt h.forms_eq_nil_iff.mpr hnil
    rw [String.intercalate_cons_of_ne_nil (by simpa using harguments), h.text,
      String.intercalate_cons_of_ne_nil (by simpa using hnil)]

/-- A list with a plain name at its head and declared parameters is plain. -/
theorem isPlain_signature {name : String} {arguments : List Parameter} {forms : List Form}
    (hname : Token.IsPlain name) (h : Declares forms arguments) :
    (Form.list (.atom name :: forms)).IsPlain :=
  Form.isPlain_list.mpr (List.forall_mem_cons.mpr ⟨Form.isPlain_atom.mpr hname, h.isPlain⟩)

namespace PredicateSchema

/-- A predicate is read from a list with its name at the head. -/
theorem exists_of_ofForm {form : Form} {p : PredicateSchema} (h : ofForm form = .ok p) :
    ∃ rest, form = .list (.atom p.name :: rest) ∧
      Parameter.readList true rest = .ok p.arguments := by
  unfold ofForm at h
  split at h
  · rename_i name rest
    obtain ⟨arguments, hread, h⟩ := bind_eq_ok_iff.mp h
    obtain rfl := pure_eq_ok_iff.mp h
    exact ⟨rest, rfl, hread⟩
  · cases h

/-- The signature of a predicate that was read from a plain form is the text of a plain list that is
read as the same predicate. -/
theorem exists_list_of_ofForm {form : Form} {p : PredicateSchema} (hplain : form.IsPlain)
    (h : ofForm form = .ok p) :
    ∃ entries, (Form.list entries).IsPlain ∧ p.signature = (Form.list entries).render ∧
      ofForm (.list entries) = .ok p := by
  obtain ⟨rest, rfl, hread⟩ := exists_of_ofForm h
  obtain ⟨hname, hrest⟩ := List.forall_mem_cons.mp (Form.isPlain_list.mp hplain)
  obtain ⟨forms, hforms⟩ := Parameter.exists_declares_of_readFrom (by simp) hrest hread
  refine ⟨_, isPlain_signature (Form.isPlain_atom.mp hname) hforms,
    signatureText_eq_render p.name hforms, ?_⟩
  rw [ofForm, hforms.readList]
  rfl

end PredicateSchema

namespace FunctionSchema

/-- What can be declared: a function whose name is a word, with parameters that can be declared, and
with or without a type of its values. -/
structure IsDeclarable (f : FunctionSchema) : Prop where
  isPlain : Token.IsPlain f.name
  arguments : ∃ forms, Declares forms f.arguments
  returnType : IsTypeText f.returnType

/-- What is read from plain forms can be declared. By recursion on the forms, as they are read. -/
theorem isDeclarable_of_readFrom {pending : List FunctionSchema} {forms : List Form}
    {functions : List FunctionSchema} (hpending : ∀ f ∈ pending, f.IsDeclarable)
    (hplain : ∀ form ∈ forms, form.IsPlain) (h : readFrom pending forms = .ok functions) :
    ∀ f ∈ functions, f.IsDeclarable := by
  unfold readFrom at h
  split at h
  · obtain rfl := Except.ok.inj h
    exact hpending
  · cases h
  · rename_i type rest
    obtain ⟨htype, hrest⟩ := List.forall_mem_cons.mp (List.forall_mem_cons.mp hplain).2
    obtain ⟨others, hread, h⟩ := bind_eq_ok_iff.mp h
    obtain rfl := pure_eq_ok_iff.mp h
    intro f hf
    rcases List.mem_append.mp hf with hf | hf
    · obtain ⟨g, hg, rfl⟩ := List.mem_map.mp hf
      refine ⟨(hpending g hg).isPlain, (hpending g hg).arguments, ?_⟩
      rintro _ ⟨⟩
      exact ⟨type, htype, rfl⟩
    · exact isDeclarable_of_readFrom (by simp) hrest hread f hf
  · rename_i name parameters rest
    obtain ⟨hlist, hrest⟩ := List.forall_mem_cons.mp hplain
    obtain ⟨hname, hparameters⟩ := List.forall_mem_cons.mp (Form.isPlain_list.mp hlist)
    obtain ⟨arguments, hread, h⟩ := bind_eq_ok_iff.mp h
    obtain ⟨declared, hdeclared⟩ :=
      Parameter.exists_declares_of_readFrom (by simp) hparameters hread
    refine isDeclarable_of_readFrom (fun f hf => ?_) hrest h
    rcases List.mem_append.mp hf with hf | hf
    · exact hpending f hf
    · rw [List.mem_singleton.mp hf]
      exact ⟨Form.isPlain_atom.mp hname, ⟨declared, hdeclared⟩, by simp [IsTypeText]⟩
  · cases h
termination_by forms.length

/-- The signature of a function that can be declared, between parentheses, is the text of a plain
list that declares just this function. -/
theorem IsDeclarable.exists_list {f : FunctionSchema} (h : f.IsDeclarable) :
    ∃ entries, (Form.list entries).IsPlain ∧
      "(" ++ f.signature ++ ")" = (Form.list entries).render ∧ readList entries = .ok [f] := by
  obtain ⟨name, arguments, returnType⟩ := f
  obtain ⟨forms, hforms⟩ := h.arguments
  have hplain := isPlain_signature h.isPlain hforms
  have htext := signatureText_eq_render name hforms
  cases returnType with
  | none =>
    refine ⟨[.list (.atom name :: forms)], ?_, ?_, ?_⟩
    · exact Form.isPlain_list.mpr (List.forall_mem_singleton.mpr hplain)
    · rw [Form.render_list, List.map_singleton, String.intercalate_singleton, ← htext]
      rfl
    · rw [readList, readFrom, hforms.readList]
      rfl
  | some type =>
    obtain ⟨form, hform, rfl⟩ := h.returnType type rfl
    refine ⟨[.list (.atom name :: forms), .atom "-", form], ?_, ?_, ?_⟩
    · simp only [Form.isPlain_list, List.forall_mem_cons] at hplain ⊢
      exact ⟨hplain, Form.isPlain_atom.mpr (by decide), hform, by simp⟩
    · have hsignature : signature ⟨name, arguments, some form.render⟩ =
          signatureText name arguments ++ " - " ++ form.render := by
        simp [signature, Option.filter, Parameter.render_ne_empty hform]
      rw [hsignature, Form.render_list, htext]
      simp only [List.map_cons, List.map_nil, Form.render_atom, String.intercalate_cons_cons,
        String.intercalate_singleton, String.append_assoc]
      rfl
    · rw [readList, readFrom, hforms.readList]
      rfl

end FunctionSchema

end PlanDiagram
