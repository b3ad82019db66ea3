import PlanDiagram.Formula.OfForm
import PlanDiagram.Proofs.Failure
import PlanDiagram.Proofs.Form.RoundTrip

/-!
# How lists are read as formulas

What the reader of formulas does with a list is settled by the head in lower case. There is one
statement for each kind of head: a negation, a connective, a quantifier, a condition, a time, and
all others. The keywords themselves are in lower case and can stand as words.
-/

namespace PlanDiagram

/-- A result that is only converted. -/
theorem bind_pure_eq_map {ε α β : Type} {x : Except ε α} {f : α → β} :
    (x >>= fun a => pure (f a)) = x.map f := by
  cases x <;> rfl

namespace Keyword

/-- Tells whether a keyword makes a formula of other formulas. -/
def isComposite (op : String) : Bool :=
  op == "not" || connectives.contains op || quantifiers.contains op || op == "when"

/-- The words that say when something holds. -/
def timeWords : List String :=
  ["start", "end", "all"]

/-- The keywords of formulas, with the signs that are only labels. -/
def all : List String :=
  ["not", "when"] ++ connectives ++ quantifiers ++ timeSpecifiers.map Prod.fst ++ timeWords ++
    comparisonSigns.map Prod.fst ++ arithmeticOperators ++
    ["increase", "decrease", "assign", "scale-up", "scale-down"]

/-- Each keyword is in lower case and can stand as a word. -/
theorem lower_and_isPlain_of_mem_all : ∀ op ∈ all, Text.lower op = op ∧ Token.IsPlain op := by
  decide +kernel

/-- Connectives are keywords. -/
theorem mem_all_of_connective {op : String} (h : connectives.contains op = true) : op ∈ all := by
  have hmem : op ∈ connectives := by simpa using h
  simp [all, hmem]

/-- Quantifiers are keywords. -/
theorem mem_all_of_quantifier {op : String} (h : quantifiers.contains op = true) : op ∈ all := by
  have hmem : op ∈ quantifiers := by simpa using h
  simp [all, hmem]

/-- Arithmetic operators are keywords. -/
theorem mem_all_of_arithmetic {op : String} (h : isArithmetic op = true) : op ∈ all := by
  have hmem : op ∈ arithmeticOperators := by simpa [isArithmetic] using h
  simp [all, hmem]

/-- Comparisons are the signs in the table. -/
theorem mem_signs_of_comparison {op : String} (h : isComparison op = true) :
    op ∈ comparisonSigns.map Prod.fst := by
  simp only [isComparison, Bool.and_eq_true, Option.isSome_iff_exists,
    List.lookup_eq_some_iff] at h
  obtain ⟨⟨⟨sign, front, back, hsigns, -⟩, -⟩, -⟩ := h
  rw [hsigns]
  simp

/-- Comparisons are keywords. -/
theorem mem_all_of_comparison {op : String} (h : isComparison op = true) : op ∈ all := by
  simp only [all, List.mem_append]
  exact .inl (.inl (.inr (mem_signs_of_comparison h)))

end Keyword

/-- The keywords of numeric effects are keywords. -/
theorem NumericChange.name_mem_all (change : NumericChange) : change.name ∈ Keyword.all := by
  cases change <;> decide

/-- A keyword names only the change that it is the keyword of. -/
theorem NumericChange.name_of_ofName? {op : String} {change : NumericChange}
    (h : NumericChange.ofName? op = some change) : change.name = op := by
  unfold ofName? at h
  split at h <;> cases h <;> rfl

namespace Formula

/-- Operands are read one by one. -/
theorem operandsOfForms_eq_mapM (scope : Scope) (forms : List Form) :
    operandsOfForms scope forms = forms.mapM (operandOfForm scope) := by
  induction forms with
  | nil => rfl
  | cons form rest ih => rw [operandsOfForms, List.mapM_cons, ih]

/-- Formulas are read one by one. -/
theorem ofForms_eq_mapM (scope : Scope) (forms : List Form) :
    ofForms scope forms = forms.mapM (ofForm scope) := by
  induction forms with
  | nil => rfl
  | cons form rest ih => rw [ofForms, List.mapM_cons, ih]

variable {scope : Scope} {head : String} {rest : List Form}

/-- A numeral stands for its value. -/
theorem term_of_isNumeral {atom : String} {x : Float} (h : Number.isNumeral atom = true)
    (hx : Number.readReal? atom = some x) : term scope atom = .ok (.number x) := by
  simp [term, numberOf?, h, hx]
  rfl

/-- Any other atom is a name. -/
theorem term_of_not_isNumeral {atom : String} (h : Number.isNumeral atom = false) :
    term scope atom = .ok (.parameter (Parameter.bareName atom)
      (scope.typeOf (Parameter.bareName atom))) := by
  simp [term, numberOf?, h]
  rfl

/-- An atom that is read is a numeral with its value or a name. -/
theorem cases_of_term {atom : String} {e : Formula} (h : term scope atom = .ok e) :
    (∃ x, e = .number x) ∨ Number.isNumeral atom = false ∧
      e = .parameter (Parameter.bareName atom) (scope.typeOf (Parameter.bareName atom)) := by
  cases hnumeral : Number.isNumeral atom with
  | false =>
    rw [term_of_not_isNumeral hnumeral] at h
    exact .inr ⟨rfl, (Except.ok.inj h).symm⟩
  | true =>
    cases hread : Number.readReal? atom with
    | none =>
      simp only [term, numberOf?, hnumeral, hread, if_true] at h
      cases h
    | some x =>
      rw [term_of_isNumeral hnumeral hread] at h
      exact .inl ⟨x, (Except.ok.inj h).symm⟩

/-- A list is read as an operand by its head. -/
theorem operandOfForm_list :
    operandOfForm scope (.list (.atom head :: rest)) =
      (rest.mapM (operandOfForm scope)).map fun arguments =>
        if Keyword.isArithmetic (Text.lower head) then .arithmetic (Text.lower head) arguments
        else .function head arguments := by
  rw [operandOfForm, operandsOfForms_eq_mapM]
  exact bind_pure_eq_map

/-- A list that is read as an operand has a head. -/
theorem exists_of_operandOfForm {entries : List Form} {e : Formula}
    (h : operandOfForm scope (.list entries) = .ok e) :
    ∃ head rest, entries = .atom head :: rest := by
  match entries with
  | [] => cases h
  | .list head :: rest => cases h
  | .atom head :: rest => exact ⟨head, rest, rfl⟩

/-- A negation has one formula. -/
theorem ofForm_negation (hop : Text.lower head = "not") (form : Form) :
    ofForm scope (.list [.atom head, form]) = (ofForm scope form).map .negation := by
  generalize hread : ofForm scope form = result
  unfold ofForm
  simp only [hop, beq_self_eq_true, if_true, hread]
  exact bind_pure_eq_map

/-- A connective takes the formulas after it. -/
theorem ofForm_connective (hop : Keyword.connectives.contains (Text.lower head) = true)
    (hlists : ∀ form ∈ rest, form.isList = true) :
    ofForm scope (.list (.atom head :: rest)) =
      (rest.mapM (ofForm scope)).map fun items => .composite (Text.lower head) items [] := by
  have hnot : (Text.lower head == "not") = false := by
    rw [beq_eq_false_iff_ne]
    intro heq
    rw [heq] at hop
    exact absurd hop (by decide)
  unfold ofForm
  simp only [hnot, hop, Bool.false_eq_true, if_false, if_true]
  split
  · rename_i atom named
    exact absurd (hlists _ List.mem_cons_self) (by simp [Form.isList])
  · rw [ofForms_eq_mapM]
    exact bind_pure_eq_map

/-- The name of a preference is left out. -/
theorem ofForm_preference (hop : Text.lower head = "preference") (name : String) :
    ofForm scope (.list (.atom head :: .atom name :: rest)) =
      (rest.mapM (ofForm scope)).map fun items => .composite "preference" items [] := by
  unfold ofForm
  have hkeyword : Keyword.connectives.contains "preference" = true := by decide
  have hnot : ("preference" == "not") = false := by decide
  simp only [hop, hkeyword, hnot, beq_self_eq_true, Bool.false_eq_true, if_false, if_true,
    ofForms_eq_mapM]
  exact bind_pure_eq_map

/-- A quantifier takes its variables and the formulas after them, in which the variables are
bound. -/
theorem ofForm_quantifier (hop : Keyword.quantifiers.contains (Text.lower head) = true)
    {declared : List Form} {bound : List Parameter}
    (hbound : Parameter.readList true declared = .ok bound) :
    ofForm scope (.list (.atom head :: .list declared :: rest)) =
      (rest.mapM (ofForm (scope.bind bound))).map fun items =>
        .composite (Text.lower head) items bound := by
  have hnot : (Text.lower head == "not") = false := by
    rw [beq_eq_false_iff_ne]
    intro heq
    rw [heq] at hop
    exact absurd hop (by decide)
  have hconnective : Keyword.connectives.contains (Text.lower head) = false := by
    have hmem : Text.lower head ∈ Keyword.quantifiers := by simpa using hop
    exact (by decide : ∀ op ∈ Keyword.quantifiers, Keyword.connectives.contains op = false) _ hmem
  unfold ofForm
  simp only [hnot, hconnective, hop, hbound, Bool.false_eq_true, if_false, if_true, ofForms_eq_mapM]
  exact bind_pure_eq_map

/-- A condition takes the formulas after it. -/
theorem ofForm_condition (hop : Text.lower head = "when") :
    ofForm scope (.list (.atom head :: rest)) =
      (rest.mapM (ofForm scope)).map fun items => .composite "when" items [] := by
  unfold ofForm
  have hnot : ("when" == "not") = false := by decide
  have hconnective : Keyword.connectives.contains "when" = false := by decide
  have hquantifier : Keyword.quantifiers.contains "when" = false := by decide
  simp only [hop, hnot, hconnective, hquantifier, beq_self_eq_true, Bool.false_eq_true, if_false,
    if_true, ofForms_eq_mapM]
  exact bind_pure_eq_map

/-- A head that makes no formula of other formulas. -/
theorem isComposite_eq_false {op : String} (h : Keyword.isComposite op = false) :
    (op == "not") = false ∧ Keyword.connectives.contains op = false ∧
      Keyword.quantifiers.contains op = false ∧ (op == "when") = false := by
  simpa only [Keyword.isComposite, Bool.or_eq_false_iff, and_assoc] using h

/-- A word that says a time stands before a single list. -/
theorem timeWord?_eq_some_iff {op word : String} {forms : List Form} :
    timeWord? op forms = some word ↔
      ∃ text entries, forms = [.atom text, .list entries] ∧ Text.lower text = word ∧
        Keyword.timeSpecifiers.contains (op, word) = true := by
  constructor
  · intro h
    unfold timeWord? at h
    split at h
    · rename_i text entries
      simp only [Option.ite_none_right_eq_some, Option.some.injEq] at h
      obtain ⟨hcontains, rfl⟩ := h
      exact ⟨text, entries, rfl, rfl, hcontains⟩
    · cases h
  · rintro ⟨text, entries, rfl, rfl, hcontains⟩
    simp only [timeWord?, hcontains, if_true]

/-- A time takes one formula. -/
theorem ofForm_timed (hop : Keyword.isComposite (Text.lower head) = false) {first form : Form}
    {word : String} (hword : timeWord? (Text.lower head) [first, form] = some word) :
    ofForm scope (.list [.atom head, first, form]) =
      (ofForm scope form).map fun f => .composite (Text.lower head ++ " " ++ word) [f] [] := by
  obtain ⟨hnot, hconnective, hquantifier, hwhen⟩ := isComposite_eq_false hop
  generalize hread : ofForm scope form = result
  unfold ofForm
  simp only [hnot, hconnective, hquantifier, hwhen, hword, Bool.false_eq_true, if_false, hread]
  exact bind_pure_eq_map

/-- All other lists are comparisons, numeric effects and predicates. -/
theorem ofForm_atomic (hop : Keyword.isComposite (Text.lower head) = false)
    (hword : timeWord? (Text.lower head) rest = none) :
    ofForm scope (.list (.atom head :: rest)) = atomicOfForm scope head rest := by
  obtain ⟨hnot, hconnective, hquantifier, hwhen⟩ := isComposite_eq_false hop
  unfold ofForm
  simp only [hnot, hconnective, hquantifier, hwhen, hword, Bool.false_eq_true, if_false]

/-- The operands of a comparison, numeric effect or predicate are read first. -/
theorem atomicOfForm_eq :
    atomicOfForm scope head rest = do
      let arguments ← rest.mapM (operandOfForm scope)
      if Keyword.isComparison (Text.lower head) then
        (compare (Text.lower head) arguments).mapError .misfit
      else
        match NumericChange.ofName? (Text.lower head) with
        | some change => return .numeric change arguments
        | none => return .predicate head arguments := by
  rw [← operandsOfForms_eq_mapM]
  rfl

/-- A comparison has at most two operands. -/
theorem compare_eq_ok_iff {op : String} {arguments : List Formula} {e : Formula} :
    (compare op arguments).mapError Form.Fault.misfit = .ok e ↔
      arguments.length ≤ 2 ∧ e = .comparison op arguments := by
  unfold compare
  split
  · simp [Except.mapError]
    omega
  · simp [Except.mapError, eq_comm]
    omega

end Formula

end PlanDiagram
