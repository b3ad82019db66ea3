import PlanDiagram.Proofs.Action.OfForm
import PlanDiagram.Proofs.Document.Stages
import PlanDiagram.Proofs.Form.RoundTrip
import PlanDiagram.Proofs.Number.Numeral

/-!
# Numerals in documents

A form may fail to be read for many reasons, and one of them is an atom that passes for a numeral
without having a value. The atoms of a text have no blanks, so this one never arises: whatever is
read from plain forms does not fail for want of the value of a numeral. The statement follows the
readers one by one, from operands up to whole definitions.
-/

namespace PlanDiagram

open Form (Fault)

/-- A reading does not fail for want of the value of a numeral. -/
def KnowsNumerals {α : Type} (x : Except Fault α) : Prop :=
  ∀ atom, x ≠ .error (.unreadableNumber atom)

namespace KnowsNumerals

variable {α β : Type}

/-- A reading that fails, if at all, for another reason. -/
theorem iff_failsOnly {x : Except Fault α} :
    KnowsNumerals x ↔ FailsOnly x fun cause => ∀ atom, cause ≠ .unreadableNumber atom := by
  constructor
  · rintro h cause hcause atom rfl
    exact h atom hcause
  · exact fun h atom hatom => h _ hatom atom rfl

/-- A reading that has succeeded does not fail. -/
theorem ok (a : α) : KnowsNumerals (.ok a) :=
  iff_failsOnly.mpr (.ok a)

/-- A reading that has succeeded does not fail. -/
theorem pure (a : α) : KnowsNumerals (Pure.pure a) :=
  ok a

/-- A reading may fail for another reason. -/
theorem error {cause : Fault} (h : ∀ atom, cause ≠ .unreadableNumber atom) :
    KnowsNumerals (.error cause : Except Fault α) :=
  iff_failsOnly.mpr (.error h)

/-- Two readings in turn do not fail for want of a value if neither does. -/
theorem bind {x : Except Fault α} {f : α → Except Fault β} (hx : KnowsNumerals x)
    (hf : ∀ a, x = .ok a → KnowsNumerals (f a)) : KnowsNumerals (x >>= f) :=
  iff_failsOnly.mpr ((iff_failsOnly.mp hx).bind fun a ha => iff_failsOnly.mp (hf a ha))

/-- Converting the result of a reading does not fail. -/
theorem map {x : Except Fault α} (f : α → β) (hx : KnowsNumerals x) : KnowsNumerals (x.map f) :=
  iff_failsOnly.mpr ((iff_failsOnly.mp hx).map f)

/-- Reading the elements of a list does not fail for want of a value if reading none of them
does. -/
theorem mapM {f : α → Except Fault β} {as : List α} (h : ∀ a ∈ as, KnowsNumerals (f a)) :
    KnowsNumerals (as.mapM f) :=
  iff_failsOnly.mpr (.mapM fun a ha => iff_failsOnly.mp (h a ha))

end KnowsNumerals

/-- Typed lists have no numerals. -/
theorem Parameter.knowsNumerals_readFrom (marked : Bool) (pending : List String)
    (entries : List Form) : KnowsNumerals (readFrom marked pending entries) := by
  fun_induction readFrom marked pending entries with
  | case1 pending => exact .ok _
  | case2 pending => exact .error (by simp)
  | case3 pending type rest hempty => exact .error (by simp)
  | case4 pending type rest hpending typed ih => exact .bind ih fun _ _ => .pure _
  | case5 pending inner rest => exact .error (by simp)
  | case6 pending atom rest hdash hlast ih => exact ih

/-- Typed lists have no numerals. -/
theorem Parameter.knowsNumerals_readList (marked : Bool) (entries : List Form) :
    KnowsNumerals (readList marked entries) :=
  knowsNumerals_readFrom marked [] entries

namespace Formula

/-- An atom of a text that passes for a numeral has a value. -/
theorem knowsNumerals_numberOf? {atom : String} (h : Token.IsPlain atom) :
    KnowsNumerals (numberOf? atom) := by
  unfold numberOf?
  split
  · rename_i hnumeral
    have hblank (c : Char) (hc : c ∈ atom.toList) : Text.isBlank c = false := by
      have := h.2 c hc
      simp_all [Token.isPlainChar]
    obtain ⟨x, hx⟩ := Number.exists_readReal?_of_isNumeral hblank hnumeral
    rw [hx]
    exact .ok _
  · exact .ok _

/-- A plain atom is read as an argument. -/
theorem knowsNumerals_term (scope : Scope) {atom : String} (h : Token.IsPlain atom) :
    KnowsNumerals (term scope atom) := by
  refine .bind (knowsNumerals_numberOf? h) fun value _ => ?_
  cases value <;> exact .ok _

mutual

/-- A plain form is read as an operand. -/
theorem knowsNumerals_operandOfForm (scope : Scope) (form : Form) (h : form.IsPlain) :
    KnowsNumerals (operandOfForm scope form) := by
  match form with
  | .atom atom => exact knowsNumerals_term scope (h atom (by simp [Form.atoms]))
  | .list [] => exact .error (by simp)
  | .list (.list head :: rest) => exact .error (by simp)
  | .list (.atom head :: rest) =>
    have hrest := List.forall_mem_cons.mp (Form.isPlain_list.mp h)
    exact .bind (knowsNumerals_operandsOfForms scope rest hrest.2) fun _ _ => .pure _

/-- Plain forms are read as operands. -/
theorem knowsNumerals_operandsOfForms (scope : Scope) (forms : List Form)
    (h : ∀ form ∈ forms, form.IsPlain) : KnowsNumerals (operandsOfForms scope forms) := by
  match forms with
  | [] => exact .ok _
  | form :: rest =>
    obtain ⟨hform, hrest⟩ := List.forall_mem_cons.mp h
    refine .bind (knowsNumerals_operandOfForm scope form hform) fun _ _ => ?_
    exact .bind (knowsNumerals_operandsOfForms scope rest hrest) fun _ _ => .pure _

end

/-- Plain operands make a comparison, a numeric effect or a predicate. -/
theorem knowsNumerals_atomicOfForm (scope : Scope) (head : String) {rest : List Form}
    (h : ∀ form ∈ rest, form.IsPlain) : KnowsNumerals (atomicOfForm scope head rest) := by
  refine .bind (knowsNumerals_operandsOfForms scope rest h) fun arguments _ => ?_
  split
  · unfold compare
    split
    · exact .error (by simp)
    · exact .ok _
  · split <;> exact .ok _

mutual

/-- A plain form is read as a formula. -/
theorem knowsNumerals_ofForm (scope : Scope) (form : Form) (h : form.IsPlain) :
    KnowsNumerals (ofForm scope form) := by
  match form with
  | .atom atom =>
    refine .bind (knowsNumerals_numberOf? (h atom (by simp [Form.atoms]))) fun value _ => ?_
    cases value <;> exact .ok _
  | .list [] => exact .ok _
  | .list (.list head :: rest) => exact .error (by simp)
  | .list (.atom head :: rest) =>
    have hrest := (List.forall_mem_cons.mp (Form.isPlain_list.mp h)).2
    have hatomic := knowsNumerals_atomicOfForm scope head hrest
    unfold ofForm
    dsimp only
    split
    · -- a negation
      split
      · rename_i form
        exact .bind (knowsNumerals_ofForm scope form (hrest form (by simp))) fun _ _ => .pure _
      · exact .error (by simp)
    split
    · -- a connective
      split
      · rename_i atom named
        have hnamed : ∀ form ∈ named, form.IsPlain := (List.forall_mem_cons.mp hrest).2
        split
        · exact .bind (knowsNumerals_ofForms scope named hnamed) fun _ _ => .pure _
        · exact .bind (knowsNumerals_ofForms scope (.atom atom :: named) hrest) fun _ _ => .pure _
      · exact .bind (knowsNumerals_ofForms scope rest hrest) fun _ _ => .pure _
    split
    · -- a quantifier
      split
      · rename_i declared body
        have hbody : ∀ form ∈ body, form.IsPlain := (List.forall_mem_cons.mp hrest).2
        refine .bind (Parameter.knowsNumerals_readList true declared) fun bound _ => ?_
        exact .bind (knowsNumerals_ofForms (scope.bind bound) body hbody) fun _ _ => .pure _
      · exact .error (by simp)
    split
    · exact .bind (knowsNumerals_ofForms scope rest hrest) fun _ _ => .pure _
    split
    · -- a condition or effect at a time
      split
      · rename_i first form _
        exact .bind (knowsNumerals_ofForm scope form (hrest form (by simp))) fun _ _ => .pure _
      · exact hatomic
    · exact hatomic

/-- Plain forms are read as formulas. -/
theorem knowsNumerals_ofForms (scope : Scope) (forms : List Form)
    (h : ∀ form ∈ forms, form.IsPlain) : KnowsNumerals (ofForms scope forms) := by
  match forms with
  | [] => exact .ok _
  | form :: rest =>
    obtain ⟨hform, hrest⟩ := List.forall_mem_cons.mp h
    refine .bind (knowsNumerals_ofForm scope form hform) fun _ _ => ?_
    exact .bind (knowsNumerals_ofForms scope rest hrest) fun _ _ => .pure _

end

end Formula

/-- Declarations of predicates have no numerals. -/
theorem PredicateSchema.knowsNumerals_ofForm (form : Form) : KnowsNumerals (ofForm form) := by
  unfold ofForm
  split
  · exact .bind (Parameter.knowsNumerals_readList true _) fun _ _ => .pure _
  · exact .error (by simp)

/-- Declarations of functions have no numerals. -/
theorem FunctionSchema.knowsNumerals_readFrom (pending : List FunctionSchema)
    (entries : List Form) : KnowsNumerals (readFrom pending entries) := by
  fun_induction readFrom pending entries with
  | case1 pending => exact .ok _
  | case2 pending => exact .error (by simp)
  | case3 pending type rest typed ih => exact .bind ih fun _ _ => .pure _
  | case4 pending name parameters rest ih =>
    exact .bind (Parameter.knowsNumerals_readList true parameters) fun arguments _ => ih arguments
  | case5 pending form rest => exact .error (by simp)

namespace Action

/-- The entries of an action that are no groups have nothing to do with numerals. -/
theorem fault_ne_of_groups (action : String) (entries : List Form) (atom : String) :
    (groups action entries).2 ≠ some (.unreadableNumber atom) := by
  fun_induction groups action entries with
  | case1 => simp
  | case2 => simp
  | case3 => simp
  | case4 => simp
  | case5 => simp_all
  | case6 => simp_all

/-- The values of the groups of an action are among its entries, except that a description may be
put together from words. -/
theorem mem_of_groups {action : String} {entries : List Form} {g : Group}
    (h : g ∈ (groups action entries).1) (hkey : g.key ≠ ":description") : g.value ∈ entries := by
  fun_induction groups action entries with
  | case1 => simp at h
  | case2 => simp at h
  | case3 => simp at h
  | case4 => simp at h
  | case5 atom _ value rest hdescription words text following fault hrest ih =>
    rw [hrest] at ih
    rcases List.mem_cons.mp h with rfl | h
    · rw [Bool.and_eq_true, beq_iff_eq] at hdescription
      exact absurd hdescription.1 hkey
    · have hmem := (List.dropWhile_sublist isWord).subset (ih h)
      exact List.mem_cons_of_mem _ (List.mem_cons_of_mem _ hmem)
  | case6 atom _ value rest _ following fault hrest ih =>
    rw [hrest] at ih
    rcases List.mem_cons.mp h with rfl | h
    · simp
    · exact List.mem_cons_of_mem _ (List.mem_cons_of_mem _ (ih h))

/-- The parameters of an action have no numerals. -/
theorem knowsNumerals_readParameters (action : String) (form : Form) :
    KnowsNumerals (readParameters action form) := by
  unfold readParameters
  split
  · exact Parameter.knowsNumerals_readList true _
  · exact .error (by simp)

/-- The conjuncts of a plain form are read. -/
theorem knowsNumerals_conjuncts? (scope : Scope) {form? : Option Form}
    (h : ∀ form, form? = some form → form.IsPlain) : KnowsNumerals (conjuncts? scope form?) := by
  cases form? with
  | none => exact .ok _
  | some form =>
    refine .bind (Formula.knowsNumerals_ofForm scope form (h form rfl)) fun f _ => ?_
    split <;> exact .pure _

/-- A plain segment is read as an action. -/
theorem knowsNumerals_ofForm (constants : Scope) {segment : Form} (h : segment.IsPlain) :
    KnowsNumerals (ofForm constants segment) := by
  unfold ofForm
  split
  · rename_i head name entries
    have hentries : ∀ form ∈ entries, form.IsPlain := by
      have hall := Form.isPlain_list.mp h
      exact fun form hform => hall form (by simp [hform])
    have hlast (scope : Scope) (key : String) (hkey : key ≠ ":description") :
        KnowsNumerals (conjuncts? scope (lastValue? key (groups name entries).1)) := by
      refine knowsNumerals_conjuncts? scope fun form hform => ?_
      obtain ⟨g, hg, rfl, rfl⟩ := exists_of_lastValue? hform
      exact hentries _ (mem_of_groups hg hkey)
    refine .bind (.mapM fun g _ => knowsNumerals_readParameters name g.value) fun lists _ => ?_
    dsimp only
    split
    · rename_i fault hfault
      refine .bind (.error fun atom heq => ?_) fun _ h => by cases h
      exact fault_ne_of_groups name entries atom (heq ▸ hfault)
    · refine .bind (hlast _ _ (by decide)) fun _ _ => ?_
      refine .bind (hlast _ _ (by decide)) fun _ _ => ?_
      exact .bind (hlast _ _ (by decide)) fun _ _ => .pure _
  · exact .error (by simp)

end Action

/-- The entries of a plain segment are plain. -/
theorem Section.isPlain_of_mem_entriesOf {segment entry : Form} (h : segment.IsPlain)
    (hentry : entry ∈ entriesOf segment) : entry.IsPlain := by
  unfold entriesOf at hentry
  split at hentry
  · exact Form.isPlain_list.mp h entry (List.mem_cons_of_mem _ hentry)
  · cases hentry

/-- A plain segment is read as a part of a domain. -/
theorem Domain.knowsNumerals_partOfForm (constants : Scope) {segment : Form}
    (h : segment.IsPlain) : KnowsNumerals (Part.ofForm constants segment) := by
  have haction := Action.knowsNumerals_ofForm constants h
  have hparameters := Parameter.knowsNumerals_readList false (Section.entriesOf segment)
  unfold Part.ofForm
  dsimp only
  split
  · exact .pure _
  · exact .bind hparameters fun _ _ => .pure _
  · exact .bind hparameters fun _ _ => .pure _
  · exact .bind (.mapM fun entry _ => PredicateSchema.knowsNumerals_ofForm entry) fun _ _ => .pure _
  · exact .bind (FunctionSchema.knowsNumerals_readFrom [] _) fun _ _ => .pure _
  · exact .bind haction fun _ _ => .pure _
  · exact .bind haction fun _ _ => .pure _
  · exact .pure _

/-- A plain segment is read as a part of a problem. -/
theorem Problem.knowsNumerals_partOfForm (scope : Scope) {segment : Form} (h : segment.IsPlain) :
    KnowsNumerals (Part.ofForm scope segment) := by
  have hentries : ∀ entry ∈ Section.entriesOf segment, entry.IsPlain :=
    fun entry => Section.isPlain_of_mem_entriesOf h
  have hformulas := Formula.knowsNumerals_ofForms scope _ hentries
  unfold Part.ofForm
  dsimp only
  split
  · split <;> exact .pure _
  · exact .pure _
  · exact .bind (Parameter.knowsNumerals_readList false _) fun _ _ => .pure _
  · exact .bind hformulas fun _ _ => .pure _
  · exact .bind hformulas fun _ _ => .pure _
  · refine .bind ?_ fun _ _ => .pure _
    unfold readMetric
    split
    · rename_i direction form rest heq
      have hform : form.IsPlain := hentries form (by simp [heq])
      exact .bind (Formula.knowsNumerals_operandOfForm scope form hform) fun _ _ => .pure _
    · exact .ok _
  · exact .pure _

/-- The segments of a definition that a plain form is are plain. -/
theorem Definition.isPlain_of_mem_body {form segment : Form} {d : Definition} (h : form.IsPlain)
    (hd : ofForm? form = some d) (hsegment : segment ∈ d.body) : segment.IsPlain := by
  obtain ⟨-, head, rfl⟩ := form_eq_of_ofForm? hd
  have hsegments : ∀ segment ∈ d.segments, segment.IsPlain :=
    (List.forall_mem_cons.mp (Form.isPlain_list.mp h)).2
  unfold body at hsegment
  split at hsegment
  · exact hsegments segment (List.mem_of_mem_eraseIdx hsegment)
  · exact hsegments segment hsegment

/-- A definition of a domain that a plain form is does not fail for want of a value. -/
theorem Domain.knowsNumerals_ofDefinition {d : Definition}
    (h : ∀ segment ∈ d.body, segment.IsPlain) : KnowsNumerals (ofDefinition d) := by
  refine .bind (.mapM fun segment _ => Parameter.knowsNumerals_readList false _) fun _ _ => ?_
  refine .bind (.mapM fun segment hsegment => ?_) fun _ _ => .pure _
  exact knowsNumerals_partOfForm _ (h segment hsegment)

/-- A definition of a problem that a plain form is does not fail for want of a value. -/
theorem Problem.knowsNumerals_ofDefinition {d : Definition}
    (h : ∀ segment ∈ d.body, segment.IsPlain) : KnowsNumerals (ofDefinition d) := by
  refine .bind (.mapM fun segment _ => Parameter.knowsNumerals_readList false _) fun _ _ => ?_
  refine .bind (.mapM fun segment hsegment => ?_) fun _ _ => .pure _
  exact knowsNumerals_partOfForm _ (h segment hsegment)

/-- The entries of a document were read from definitions with plain segments. -/
theorem Document.exists_entries_of_read {s : String} {document : Document}
    (h : read s = .ok document) :
    ∃ entries, document = ofEntries entries ∧ ∀ entry ∈ entries, ∃ d,
      Entry.ofDefinition d = .ok entry ∧ ∀ segment ∈ d.body, segment.IsPlain := by
  obtain ⟨forms, entries, hforms, -, hentries, rfl⟩ := read_eq_ok_iff.mp h
  refine ⟨entries, rfl, fun entry hentry => ?_⟩
  obtain ⟨d, hd, hofDefinition⟩ := exists_of_mem_right (mapM_eq_ok_iff.mp hentries) hentry
  obtain ⟨form, hform, hofForm⟩ := List.mem_filterMap.mp hd
  have hplain := (Form.isPlain_of_readAll hforms form hform).2
  exact ⟨d, hofDefinition, fun segment => Definition.isPlain_of_mem_body hplain hofForm⟩

end PlanDiagram
