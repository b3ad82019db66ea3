/-!
# Forms

Planning texts are written in parentheses. A form is an atom or a list of forms; `render` writes it
back with one space between the entries of a list.
-/

namespace PlanDiagram

/-- An atom or a parenthesised list of forms. -/
inductive Form where
  | atom (text : String)
  | list (entries : List Form)
deriving Repr, Inhabited

namespace Form

mutual

/-- The text of a form. -/
def render : Form → String
  | .atom text => text
  | .list entries => "(" ++ " ".intercalate (renderAll entries) ++ ")"

/-- The texts of several forms. -/
def renderAll : List Form → List String
  | [] => []
  | form :: rest => form.render :: renderAll rest

end

/-- Tells whether a form is a list. -/
def isList : Form → Bool
  | .atom _ => false
  | .list _ => true

/-- Each form is rendered on its own. -/
theorem renderAll_eq_map (forms : List Form) : renderAll forms = forms.map render := by
  induction forms with
  | nil => rfl
  | cons form rest ih => simp [renderAll, ih]

/-- An atom is written as it is. -/
@[simp] theorem render_atom (text : String) : (Form.atom text).render = text := rfl

/-- A list is written between parentheses, with one space between its entries. -/
theorem render_list (entries : List Form) :
    (Form.list entries).render = "(" ++ " ".intercalate (entries.map render) ++ ")" := by
  rw [render, renderAll_eq_map]

end Form

end PlanDiagram
