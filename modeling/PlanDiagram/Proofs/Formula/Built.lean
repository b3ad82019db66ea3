import PlanDiagram.Proofs.Formula.Reading
import Mathlib.Logic.Relation

/-!
# What formulas are built of

Readers of forms build only some of the trees that formulas could be: comparisons and arithmetic
have operators from the tables, a comparison has at most two operands, and a parameter stands only
where an operand can stand. Main statement: every formula that is read from a form is built in this
way, and so is everything that stands in it.
-/

namespace PlanDiagram

/-- The operators of formulas that are made of other formulas, except negation. -/
def Keyword.compositeOperators : List String :=
  connectives ++ quantifiers ++ ["when"] ++
    timeSpecifiers.map fun pair => pair.1 ++ " " ++ pair.2

namespace Formula

/-- A formula has another one in it: itself, its operands, their operands, and so on. -/
def Has : Formula → Formula → Prop :=
  Relation.ReflTransGen fun e a => a ∈ e.operands

/-- The trees that are built from forms. -/
inductive Built : Formula → Prop where
  | parameter (name : String) (type : Value) : Built (.parameter name type)
  | number (x : Float) : Built (.number x)
  | predicate (name : String) {arguments : List Formula} (h : ∀ a ∈ arguments, Built a) :
    Built (.predicate name arguments)
  | function (name : String) {arguments : List Formula} (h : ∀ a ∈ arguments, Built a) :
    Built (.function name arguments)
  | negation {argument : Formula} (hformula : argument.isParameter = false) (h : Built argument) :
    Built (.negation argument)
  | numeric (change : NumericChange) {arguments : List Formula} (h : ∀ a ∈ arguments, Built a) :
    Built (.numeric change arguments)
  | comparison {op : String} {arguments : List Formula} (hop : Keyword.isComparison op = true)
    (hcount : arguments.length ≤ 2) (h : ∀ a ∈ arguments, Built a) :
    Built (.comparison op arguments)
  | arithmetic {op : String} {arguments : List Formula} (hop : Keyword.isArithmetic op = true)
    (h : ∀ a ∈ arguments, Built a) : Built (.arithmetic op arguments)
  | composite {op : String} {items : List Formula} (bound : List Parameter)
    (hop : op ∈ Keyword.compositeOperators) (hformulas : ∀ f ∈ items, f.isParameter = false)
    (h : ∀ f ∈ items, Built f) : Built (.composite op items bound)

/-- The operands of a tree that is built are built. -/
theorem Built.operands {e a : Formula} (h : e.Built) (ha : a ∈ e.operands) : a.Built := by
  cases h with
  | parameter => cases ha
  | number => cases ha
  | negation hformula h =>
    obtain rfl := List.mem_singleton.mp ha
    exact h
  | predicate _ h => exact h a ha
  | function _ h => exact h a ha
  | numeric _ h => exact h a ha
  | comparison _ _ h => exact h a ha
  | arithmetic _ h => exact h a ha
  | composite _ _ _ h => exact h a ha

/-- Whatever stands in a tree that is built is built. -/
theorem Built.of_has {e f : Formula} (h : e.Built) (hf : e.Has f) : f.Built := by
  induction hf with
  | refl => exact h
  | tail _ ha ih => exact ih.operands ha

variable {scope : Scope} {head : String} {rest : List Form}

/-- Operands are built. By recursion on the form. -/
theorem built_of_operandOfForm {form : Form} {a : Formula}
    (h : operandOfForm scope form = .ok a) : a.Built := by
  match form with
  | .atom atom =>
    rw [operandOfForm] at h
    rcases cases_of_term h with ⟨x, rfl⟩ | ⟨-, rfl⟩
    · exact .number x
    · exact .parameter _ _
  | .list [] => cases h
  | .list (.list inner :: rest) => cases h
  | .list (.atom head :: rest) =>
    rw [operandOfForm_list, map_eq_ok_iff] at h
    obtain ⟨arguments, harguments, rfl⟩ := h
    have hbuilt : ∀ a ∈ arguments, a.Built := by
      intro a ha
      obtain ⟨form, hform, hread⟩ := exists_of_mem_right (mapM_eq_ok_iff.mp harguments) ha
      have := List.sizeOf_lt_of_mem hform
      exact built_of_operandOfForm hread
    split
    · exact .arithmetic ‹_› hbuilt
    · exact .function head hbuilt
termination_by sizeOf form
decreasing_by
  simp only [Form.list.sizeOf_spec, List.cons.sizeOf_spec]
  omega

/-- Comparisons, numeric effects and predicates are built. -/
theorem built_of_atomicOfForm {e : Formula} (h : atomicOfForm scope head rest = .ok e) :
    e.Built ∧ e.isParameter = false := by
  rw [atomicOfForm_eq] at h
  obtain ⟨arguments, harguments, h⟩ := bind_eq_ok_iff.mp h
  have hbuilt : ∀ a ∈ arguments, a.Built := by
    intro a ha
    obtain ⟨form, -, hread⟩ := exists_of_mem_right (mapM_eq_ok_iff.mp harguments) ha
    exact built_of_operandOfForm hread
  split at h
  · obtain ⟨hcount, rfl⟩ := compare_eq_ok_iff.mp h
    exact ⟨.comparison ‹_› hcount hbuilt, rfl⟩
  · split at h
    · obtain rfl := pure_eq_ok_iff.mp h
      exact ⟨.numeric _ hbuilt, rfl⟩
    · obtain rfl := pure_eq_ok_iff.mp h
      exact ⟨.predicate head hbuilt, rfl⟩

/-- A connective, a quantifier or `when` is an operator of formulas. -/
theorem mem_compositeOperators {op : String} (h : Keyword.connectives.contains op = true ∨
    Keyword.quantifiers.contains op = true ∨ op = "when") : op ∈ Keyword.compositeOperators := by
  simp only [Keyword.compositeOperators, List.mem_append]
  rcases h with h | h | h
  · exact .inl (.inl (.inl (by simpa using h)))
  · exact .inl (.inl (.inr (by simpa using h)))
  · exact .inl (.inr (by simpa using h))

/-- A time is an operator of formulas. -/
theorem mem_compositeOperators_of_time {op word : String}
    (h : Keyword.timeSpecifiers.contains (op, word) = true) :
    op ++ " " ++ word ∈ Keyword.compositeOperators := by
  have hmem : (op, word) ∈ Keyword.timeSpecifiers := by simpa using h
  rw [Keyword.compositeOperators, List.mem_append]
  exact .inr (List.mem_map_of_mem (f := fun pair => pair.1 ++ " " ++ pair.2) hmem)

/-- What a list with a word at its head is read as: a negation, a composite of formulas that are
read from some of the other entries, or a comparison, numeric effect or predicate. -/
theorem cases_of_ofForm_list {e : Formula}
    (h : ofForm scope (.list (.atom head :: rest)) = .ok e) :
    (∃ form f, form ∈ rest ∧ ofForm scope form = .ok f ∧ e = .negation f) ∨
      (∃ op inner forms items bound, op ∈ Keyword.compositeOperators ∧ forms ⊆ rest ∧
        forms.mapM (ofForm inner) = .ok items ∧ e = .composite op items bound) ∨
      atomicOfForm scope head rest = .ok e := by
  unfold ofForm at h
  dsimp only at h
  split at h
  · -- a negation
    split at h
    · rename_i form
      obtain ⟨f, hread, h⟩ := bind_eq_ok_iff.mp h
      exact .inl ⟨form, f, List.mem_cons_self, hread, (pure_eq_ok_iff.mp h).symm⟩
    · cases h
  right
  split at h
  · -- a connective, which may be a preference with a name
    rename_i hop
    have hmem := mem_compositeOperators (.inl hop)
    left
    simp only [ofForms_eq_mapM] at h
    split at h
    · rename_i atom named
      split at h
      · obtain ⟨items, hread, h⟩ := bind_eq_ok_iff.mp h
        exact ⟨_, scope, named, items, [], hmem, List.subset_cons_self _ _, hread,
          (pure_eq_ok_iff.mp h).symm⟩
      · obtain ⟨items, hread, h⟩ := bind_eq_ok_iff.mp h
        exact ⟨_, scope, _, items, [], hmem, List.Subset.refl _, hread, (pure_eq_ok_iff.mp h).symm⟩
    · obtain ⟨items, hread, h⟩ := bind_eq_ok_iff.mp h
      exact ⟨_, scope, _, items, [], hmem, List.Subset.refl _, hread, (pure_eq_ok_iff.mp h).symm⟩
  split at h
  · -- a quantifier
    rename_i hop
    have hmem := mem_compositeOperators (.inr (.inl hop))
    left
    simp only [ofForms_eq_mapM] at h
    split at h
    · rename_i declared body
      obtain ⟨bound, -, h⟩ := bind_eq_ok_iff.mp h
      obtain ⟨items, hread, h⟩ := bind_eq_ok_iff.mp h
      exact ⟨_, _, body, items, bound, hmem, List.subset_cons_self _ _, hread,
        (pure_eq_ok_iff.mp h).symm⟩
    · cases h
  split at h
  · -- a condition
    rename_i hop
    have hmem := mem_compositeOperators (.inr (.inr (beq_iff_eq.mp hop)))
    left
    simp only [ofForms_eq_mapM] at h
    obtain ⟨items, hread, h⟩ := bind_eq_ok_iff.mp h
    exact ⟨_, scope, _, items, [], hmem, List.Subset.refl _, hread, (pure_eq_ok_iff.mp h).symm⟩
  split at h
  · -- a time, which is only said before a single list
    rename_i word hword
    obtain ⟨text, entries, rfl, rfl, hcontains⟩ := timeWord?_eq_some_iff.mp hword
    left
    obtain ⟨f, hread, h⟩ := bind_eq_ok_iff.mp h
    have hitems : [Form.list entries].mapM (ofForm scope) = .ok [f] :=
      mapM_eq_ok_iff.mpr (.cons hread .nil)
    exact ⟨_, scope, _, _, [], mem_compositeOperators_of_time hcontains,
      List.subset_cons_self _ _, hitems, (pure_eq_ok_iff.mp h).symm⟩
  · exact .inr h

/-- Formulas are built, and no formula is a parameter. By recursion on the form. -/
theorem built_of_ofForm {scope : Scope} {form : Form} {e : Formula}
    (h : ofForm scope form = .ok e) : e.Built ∧ e.isParameter = false := by
  match form with
  | .atom atom =>
    unfold ofForm at h
    obtain ⟨number, -, h⟩ := bind_eq_ok_iff.mp h
    split at h
    · obtain rfl := pure_eq_ok_iff.mp h
      exact ⟨.number _, rfl⟩
    · obtain rfl := pure_eq_ok_iff.mp h
      exact ⟨.predicate atom (by simp), rfl⟩
  | .list [] =>
    cases h
    exact ⟨.composite [] (by decide) (by simp) (by simp), rfl⟩
  | .list (.list inner :: rest) => cases h
  | .list (.atom head :: rest) =>
    rcases cases_of_ofForm_list h with ⟨form, f, hform, hread, rfl⟩ |
      ⟨op, inner, forms, items, bound, hop, hforms, hread, rfl⟩ | hatomic
    · have := List.sizeOf_lt_of_mem hform
      obtain ⟨hbuilt, hformula⟩ := built_of_ofForm hread
      exact ⟨.negation hformula hbuilt, rfl⟩
    · have hbuilt : ∀ f ∈ items, f.Built ∧ f.isParameter = false := by
        intro f hf
        obtain ⟨form, hform, hread⟩ := exists_of_mem_right (mapM_eq_ok_iff.mp hread) hf
        have := List.sizeOf_lt_of_mem (hforms hform)
        exact built_of_ofForm hread
      exact ⟨.composite bound hop (fun f hf => (hbuilt f hf).2) fun f hf => (hbuilt f hf).1, rfl⟩
    · exact built_of_atomicOfForm hatomic
termination_by sizeOf form
decreasing_by
  all_goals
    simp only [Form.list.sizeOf_spec, List.cons.sizeOf_spec]
    omega

end Formula

end PlanDiagram
