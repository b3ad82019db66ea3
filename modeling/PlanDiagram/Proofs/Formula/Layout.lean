import PlanDiagram.Proofs.Formula.Reading

/-!
# How the entries of a list are read

The head of a list settles, before any other entry is read, which entries are formulas, which are
operands, and which variables are bound in them. This is the layout of the list. It does not depend
on a scope. Main statements: the reader of formulas follows the layout, forms can be gone through by
their layouts, and what is read as a conjunction is written as one.
-/

namespace PlanDiagram

/-- A form is a conjunction of others: it lists them after `and`, in whatever case, or it is the
empty list. -/
inductive Form.IsConjunctionOf : Form → List Form → Prop
  | empty : IsConjunctionOf (.list []) []
  | and {head : String} {parts : List Form} (hhead : Text.lower head = "and") :
    IsConjunctionOf (.list (.atom head :: parts)) parts

/-- The parts of a conjunction are determined. -/
theorem Form.IsConjunctionOf.unique {form : Form} {parts parts' : List Form}
    (h : form.IsConjunctionOf parts) (h' : form.IsConjunctionOf parts') : parts = parts' := by
  cases h <;> cases h' <;> rfl

namespace Formula

/-- What a list with a word at its head is made of. -/
inductive Layout where
  /-- The negation of its only other entry. -/
  | negation
  /-- The formulas behind the head and the first `skipped` entries, joined by an operator that binds
  variables in them. -/
  | composite (op : String) (bound : List Parameter) (skipped : Nat)
  /-- The operands of a comparison, numeric effect or predicate. -/
  | atomic

/-- The layout of a list with a word at its head, which is missing if the list cannot be read
whatever its formulas or operands are. -/
def layout (head : String) (rest : List Form) : Except Form.Fault Layout :=
  let op := Text.lower head
  if op == "not" then
    match rest with
    | [_] => .ok .negation
    | _ => .error (.negationArity (.list (.atom head :: rest)))
  else if Keyword.connectives.contains op then
    match rest with
    | .atom _ :: _ => .ok (.composite op [] (if op == "preference" then 1 else 0))
    | _ => .ok (.composite op [] 0)
  else if Keyword.quantifiers.contains op then
    match rest with
    | .list declared :: _ =>
      (Parameter.readList true declared).map fun bound => .composite op bound 1
    | _ => .error (.variablesExpected op (.list (.atom head :: rest)))
  else if op == "when" then .ok (.composite op [] 0)
  else
    match timeWord? op rest with
    | some word => .ok (.composite (op ++ " " ++ word) [] 1)
    | none => .ok .atomic

/-- What a list with a given layout is read as. -/
def ofLayout (scope : Scope) (head : String) (rest : List Form) :
    Layout → Except Form.Fault Formula
  | .negation =>
    match rest with
    | [form] => (ofForm scope form).map .negation
    | _ => .error (.negationArity (.list (.atom head :: rest)))
  | .composite op bound skipped =>
    ((rest.drop skipped).mapM (ofForm (scope.bind bound))).map fun items =>
      .composite op items bound
  | .atomic => atomicOfForm scope head rest

/-- A list is read by its layout. -/
theorem ofForm_list (scope : Scope) (head : String) (rest : List Form) :
    ofForm scope (.list (.atom head :: rest)) = layout head rest >>= ofLayout scope head rest := by
  unfold ofForm layout
  simp only [ofForms_eq_mapM]
  cases hnot : Text.lower head == "not" with
  | true =>
    simp only [if_true]
    rcases rest with _ | ⟨form, _ | ⟨second, others⟩⟩
    · rfl
    · exact bind_pure_eq_map
    · rfl
  | false =>
  cases hconnective : Keyword.connectives.contains (Text.lower head) with
  | true =>
    simp only [Bool.false_eq_true, if_false, if_true]
    rcases rest with _ | ⟨name | entries, others⟩
    · exact bind_pure_eq_map
    · cases Text.lower head == "preference" <;> exact bind_pure_eq_map
    · exact bind_pure_eq_map
  | false =>
  cases hquantifier : Keyword.quantifiers.contains (Text.lower head) with
  | true =>
    simp only [Bool.false_eq_true, if_false, if_true]
    rcases rest with _ | ⟨name | declared, body⟩
    · rfl
    · rfl
    · dsimp only
      cases Parameter.readList true declared with
      | error fault => rfl
      | ok bound => exact bind_pure_eq_map
  | false =>
  cases hwhen : Text.lower head == "when" with
  | true =>
    simp only [Bool.false_eq_true, if_false, if_true]
    exact bind_pure_eq_map
  | false =>
  simp only [Bool.false_eq_true, if_false]
  cases hword : timeWord? (Text.lower head) rest with
  | none => rfl
  | some word =>
    obtain ⟨text, entries, rfl, rfl, hcontains⟩ := timeWord?_eq_some_iff.mp hword
    change _ = ([Form.list entries].mapM (ofForm scope)).map _
    rw [List.mapM_cons]
    dsimp only
    cases ofForm scope (.list entries) <;> rfl

section

variable {head : String} {rest : List Form} (scope : Scope)

/-- A list without a layout cannot be read. -/
theorem ofForm_refused {fault : Form.Fault} (h : layout head rest = .error fault) :
    ofForm scope (.list (.atom head :: rest)) = .error fault := by
  rw [ofForm_list, h]
  rfl

/-- A list with the layout of a negation is read as the negation of its formula. -/
theorem ofForm_layout_negation {form : Form} (h : layout head [form] = .ok .negation) :
    ofForm scope (.list [.atom head, form]) = (ofForm scope form).map .negation := by
  rw [ofForm_list, h]
  rfl

/-- A list with the layout of a composite is read formula by formula, with the variables bound. -/
theorem ofForm_layout_composite {op : String} {bound : List Parameter} {skipped : Nat}
    (h : layout head rest = .ok (.composite op bound skipped)) :
    ofForm scope (.list (.atom head :: rest)) =
      ((rest.drop skipped).mapM (ofForm (scope.bind bound))).map fun items =>
        .composite op items bound := by
  rw [ofForm_list, h]
  rfl

/-- A list of operands is read as a comparison, numeric effect or predicate. -/
theorem ofForm_layout_atomic (h : layout head rest = .ok .atomic) :
    ofForm scope (.list (.atom head :: rest)) = atomicOfForm scope head rest := by
  rw [ofForm_list, h]
  rfl

end

/-- A form that is read as a negation has one other entry. -/
theorem exists_of_layout_negation {head : String} {rest : List Form}
    (h : layout head rest = .ok .negation) : ∃ form, rest = [form] := by
  unfold layout at h
  dsimp only at h
  split at h
  · split at h
    · exact ⟨_, rfl⟩
    · cases h
  split at h
  · split at h <;> cases h
  split at h
  · split at h
    · obtain ⟨bound, -, hlayout⟩ := map_eq_ok_iff.mp h
      cases hlayout
    · cases h
  split at h
  · cases h
  · split at h <;> cases h

/-- Forms are gone through by their layouts: what holds of a list whenever it holds of the formulas
in it holds of every form. -/
@[elab_as_elim]
theorem layoutInduction {motive : Form → Prop} (atom : ∀ text, motive (.atom text))
    (empty : motive (.list []))
    (headless : ∀ entries rest, motive (.list (.list entries :: rest)))
    (refused : ∀ head rest fault, layout head rest = .error fault →
      motive (.list (.atom head :: rest)))
    (negation : ∀ head form, layout head [form] = .ok .negation → motive form →
      motive (.list [.atom head, form]))
    (composite : ∀ head rest op bound skipped,
      layout head rest = .ok (.composite op bound skipped) →
        (∀ form ∈ rest.drop skipped, motive form) → motive (.list (.atom head :: rest)))
    (atomic : ∀ head rest, layout head rest = .ok .atomic → motive (.list (.atom head :: rest)))
    (form : Form) : motive form := by
  match form with
  | .atom text => exact atom text
  | .list [] => exact empty
  | .list (.list entries :: rest) => exact headless entries rest
  | .list (.atom head :: rest) =>
    have hentries : ∀ form ∈ rest, motive form := fun form hform =>
      have := List.sizeOf_lt_of_mem hform
      layoutInduction atom empty headless refused negation composite atomic form
    match hlayout : layout head rest with
    | .error fault => exact refused head rest fault hlayout
    | .ok .negation =>
      obtain ⟨form, rfl⟩ := exists_of_layout_negation hlayout
      exact negation head form hlayout (hentries form List.mem_cons_self)
    | .ok (.composite op bound skipped) =>
      exact composite head rest op bound skipped hlayout fun form hform =>
        hentries form (List.mem_of_mem_drop hform)
    | .ok .atomic => exact atomic head rest hlayout
termination_by sizeOf form
decreasing_by
  simp only [Form.list.sizeOf_spec, List.cons.sizeOf_spec]
  omega

/-- No time makes a conjunction. -/
theorem timed_ne_and {op word : String} (h : Keyword.timeSpecifiers.contains (op, word) = true) :
    op ++ " " ++ word ≠ "and" := by
  have hmem : (op, word) ∈ Keyword.timeSpecifiers := by simpa using h
  exact (by decide : ∀ pair ∈ Keyword.timeSpecifiers, pair.1 ++ " " ++ pair.2 ≠ "and") _ hmem

/-- A list whose formulas are joined by `and` has this word at its head. -/
theorem lower_of_layout_and {head : String} {rest : List Form} {bound : List Parameter}
    {skipped : Nat} (h : layout head rest = .ok (.composite "and" bound skipped)) :
    Text.lower head = "and" := by
  unfold layout at h
  dsimp only at h
  split at h
  · split at h <;> cases h
  split at h
  · split at h <;> injection h with h <;> injection h
  split at h
  · split at h
    · obtain ⟨bound, -, h⟩ := map_eq_ok_iff.mp h
      injection h
    · cases h
  split at h
  · injection h with h
    injection h
  · split at h
    · rename_i word hword
      obtain ⟨text, entries, rfl, rfl, hcontains⟩ := timeWord?_eq_some_iff.mp hword
      injection h with h
      injection h with hop
      exact absurd hop (timed_ne_and hcontains)
    · cases h

/-- The layout of a list with `and` at its head. -/
theorem layout_of_and {head : String} (h : Text.lower head = "and") (rest : List Form) :
    layout head rest = .ok (.composite "and" [] 0) := by
  have hnot : ("and" == "not") = false := by decide
  have hkeyword : Keyword.connectives.contains "and" = true := by decide
  unfold layout
  simp only [h, hnot, hkeyword, Bool.false_eq_true, if_false, if_true]
  split <;> rfl

/-- Operands make no conjunction. -/
theorem atomicOfForm_ne_and {scope : Scope} {head : String} {rest : List Form}
    {items : List Formula} {bound : List Parameter} :
    atomicOfForm scope head rest ≠ .ok (.composite "and" items bound) := by
  intro h
  rw [atomicOfForm_eq] at h
  obtain ⟨arguments, -, h⟩ := bind_eq_ok_iff.mp h
  split at h
  · cases (compare_eq_ok_iff.mp h).2
  · split at h <;> cases h

/-- A conjunction is read part by part. -/
theorem ofForm_isConjunctionOf {form : Form} {parts : List Form} (h : form.IsConjunctionOf parts)
    (scope : Scope) :
    ofForm scope form =
      (parts.mapM (ofForm scope)).map fun items => .composite "and" items [] := by
  cases h with
  | empty => rfl
  | and hhead => exact ofForm_layout_composite scope (layout_of_and hhead parts)

/-- Only a conjunction is read as one. -/
theorem exists_isConjunctionOf {scope : Scope} {form : Form} {items : List Formula}
    {bound : List Parameter} (h : ofForm scope form = .ok (.composite "and" items bound)) :
    ∃ parts, form.IsConjunctionOf parts := by
  match form with
  | .atom atom =>
    unfold ofForm at h
    obtain ⟨number, -, h⟩ := bind_eq_ok_iff.mp h
    split at h <;> cases h
  | .list [] => exact ⟨[], .empty⟩
  | .list (.list inner :: rest) => cases h
  | .list (.atom head :: rest) =>
    rw [ofForm_list] at h
    obtain ⟨found, hlayout, h⟩ := bind_eq_ok_iff.mp h
    cases found with
    | negation =>
      obtain ⟨form, rfl⟩ := exists_of_layout_negation hlayout
      obtain ⟨f, -, h⟩ := map_eq_ok_iff.mp h
      cases h
    | composite op bound skipped =>
      obtain ⟨items, -, h⟩ := map_eq_ok_iff.mp h
      cases h
      exact ⟨rest, .and (lower_of_layout_and hlayout)⟩
    | atomic => exact absurd h atomicOfForm_ne_and

end Formula

end PlanDiagram
