import PlanDiagram.Proofs.Action.OfForm
import PlanDiagram.Proofs.Formula.Layout
import PlanDiagram.Proofs.Formula.Occurrence
import PlanDiagram.Proofs.Outline.Domain
import PlanDiagram.Proofs.Outline.Problem

/-!
# Names of literals

The label of a literal is its name, with `not` and a blank before it if it is negated. A name could
itself look like that, but a name in a text has no blanks. Main statement: the literals that are
found in the actions and problems of a document that was read have names that can stand as words, so
their labels tell apart all names and polarities.
-/

namespace PlanDiagram

/-- The literals that are found in a formula have names that can stand as words. -/
def Formula.PlainLiterals (f : Formula) : Prop :=
  ∀ role negated, ∀ l ∈ (Occurrences.ofFormula role negated f).literals, Token.IsPlain l.name

namespace Formula

variable {scope : Scope}

/-- The literals in several formulas are those in each of them. -/
theorem mem_literals_ofFormulas {role : Role} {negated : Bool} {fs : List Formula}
    {l : LiteralUse} :
    l ∈ (Occurrences.ofFormulas role negated fs).literals ↔
      ∃ f ∈ fs, l ∈ (Occurrences.ofFormula role negated f).literals := by
  induction fs with
  | nil => simp [Occurrences.ofFormulas]
  | cons f rest ih => simp [Occurrences.ofFormulas, ih]

/-- A composite has the literals of its formulas. -/
theorem plainLiterals_composite {op : String} {items : List Formula} {bound : List Parameter} :
    (composite op items bound).PlainLiterals ↔ ∀ f ∈ items, f.PlainLiterals := by
  constructor
  · intro h f hf role negated l hl
    exact h role negated l (mem_literals_ofFormulas.mpr ⟨f, hf, hl⟩)
  · intro h role negated l hl
    obtain ⟨f, hf, hl⟩ := mem_literals_ofFormulas.mp hl
    exact h f hf role negated l hl

/-- A predicate is the only literal that is found in it. -/
theorem plainLiterals_predicate {name : String} {arguments : List Formula}
    (h : Token.IsPlain name) : (predicate name arguments).PlainLiterals := by
  intro role negated l hl
  rw [List.mem_singleton.mp hl]
  exact h

/-- What is read from the operands of a list is a predicate with the head as its name, or no literal
is found in it. -/
theorem plainLiterals_of_atomicOfForm {head : String} {rest : List Form} {e : Formula}
    (hhead : Token.IsPlain head) (h : atomicOfForm scope head rest = .ok e) :
    e.PlainLiterals := by
  rw [atomicOfForm_eq] at h
  obtain ⟨arguments, -, h⟩ := bind_eq_ok_iff.mp h
  split at h
  · obtain ⟨-, rfl⟩ := compare_eq_ok_iff.mp h
    intro role negated l hl
    cases hl
  · split at h
    · obtain rfl := pure_eq_ok_iff.mp h
      intro role negated l hl
      cases hl
    · obtain rfl := pure_eq_ok_iff.mp h
      exact plainLiterals_predicate hhead

/-- The literals that are found in what is read from a plain form have names that can stand as
words. By the layouts of the form. -/
theorem plainLiterals_of_ofForm {form : Form} (hplain : form.IsPlain) {e : Formula}
    (h : ofForm scope form = .ok e) : e.PlainLiterals := by
  induction form using layoutInduction generalizing scope e with
  | atom text =>
    unfold ofForm at h
    obtain ⟨number, -, h⟩ := bind_eq_ok_iff.mp h
    split at h
    · obtain rfl := pure_eq_ok_iff.mp h
      intro role negated l hl
      cases hl
    · obtain rfl := pure_eq_ok_iff.mp h
      exact plainLiterals_predicate (Form.isPlain_atom.mp hplain)
  | empty =>
    cases h
    exact plainLiterals_composite.mpr (by simp)
  | headless entries rest => cases h
  | refused head rest fault hlayout =>
    rw [ofForm_refused scope hlayout] at h
    cases h
  | negation head form hlayout ih =>
    rw [ofForm_layout_negation scope hlayout] at h
    obtain ⟨f, hread, rfl⟩ := map_eq_ok_iff.mp h
    have hform : form.IsPlain := Form.isPlain_list.mp hplain form (by simp)
    exact fun role negated => ih hform hread role (!negated)
  | composite head rest op bound skipped hlayout ih =>
    rw [ofForm_layout_composite scope hlayout] at h
    obtain ⟨items, hread, rfl⟩ := map_eq_ok_iff.mp h
    refine plainLiterals_composite.mpr fun f hf => ?_
    obtain ⟨form, hform, hread⟩ := exists_of_mem_right (mapM_eq_ok_iff.mp hread) hf
    have hform' : form.IsPlain :=
      Form.isPlain_list.mp hplain form (List.mem_cons_of_mem _ (List.mem_of_mem_drop hform))
    exact ih form hform hform' hread
  | atomic head rest hlayout =>
    rw [ofForm_layout_atomic scope hlayout] at h
    have hhead : (Form.atom head).IsPlain := Form.isPlain_list.mp hplain _ List.mem_cons_self
    exact plainLiterals_of_atomicOfForm (Form.isPlain_atom.mp hhead) h

end Formula

namespace Action

/-- The literals in the conjuncts of a plain form have names that can stand as words. -/
theorem plainLiterals_of_conjuncts? {scope : Scope} {form? : Option Form} {fs : List Formula}
    (hplain : ∀ form, form? = some form → form.IsPlain) (h : conjuncts? scope form? = .ok fs) :
    ∀ f ∈ fs, f.PlainLiterals := by
  cases form? with
  | none =>
    obtain rfl : [] = fs := Except.ok.inj h
    simp
  | some form =>
    obtain ⟨e, hread, h⟩ := bind_eq_ok_iff.mp h
    have he := Formula.plainLiterals_of_ofForm (hplain form rfl) hread
    split at h
    · obtain rfl := pure_eq_ok_iff.mp h
      exact Formula.plainLiterals_composite.mp he
    · obtain rfl := pure_eq_ok_iff.mp h
      exact List.forall_mem_singleton.mpr he

/-- The literals in the conditions and effects of an action that is read from a plain segment have
names that can stand as words. -/
theorem plainLiterals_of_ofForm {constants : Scope} {segment : Form} {a : Action}
    (hplain : segment.IsPlain) (h : ofForm constants segment = .ok a) :
    ∀ f ∈ a.preconditions ++ a.effects, f.PlainLiterals := by
  obtain ⟨head, entries, gs, scope, rfl, hcuts, hread⟩ := exists_of_ofForm h
  have hvalue (key : String) (hkey : key ≠ ":description") :
      ∀ form, lastValue? key gs = some form → form.IsPlain := by
    intro form hform
    obtain ⟨g, hg, rfl, rfl⟩ := exists_of_lastValue? hform
    have hgroup : g ∈ (groups a.name entries).1 := by
      rw [hcuts.groups]
      exact hg
    have hmem := mem_of_groups hgroup hkey
    exact Form.isPlain_list.mp hplain _ (by simp [hmem])
  obtain ⟨fromPrecondition, fromCondition, hprecondition, hcondition, heq⟩ := hread.preconditions
  rw [heq]
  intro f hf
  rcases List.mem_append.mp hf with hf | hf
  · rcases List.mem_append.mp hf with hf | hf
    · exact plainLiterals_of_conjuncts? (hvalue _ (by decide)) hprecondition f hf
    · exact plainLiterals_of_conjuncts? (hvalue _ (by decide)) hcondition f hf
  · exact plainLiterals_of_conjuncts? (hvalue _ (by decide)) hread.effects f hf

end Action

/-- The literals in the facts and the goal of a problem that is read from plain segments have names
that can stand as words. -/
theorem Problem.plainLiterals_of_ofDefinition {d : Definition} {p : Problem}
    (hplain : ∀ segment ∈ d.body, segment.IsPlain) (h : ofDefinition d = .ok p) :
    ∀ f ∈ p.formulas, f.PlainLiterals := by
  have hentries : ∀ segment ∈ d.body, ∀ entry ∈ Section.entriesOf segment, entry.IsPlain :=
    fun segment hsegment entry => Section.isPlain_of_mem_entriesOf (hplain segment hsegment)
  intro f hf
  rcases List.mem_append.mp hf with hinit | hgoal
  · obtain ⟨segment, hsegment, -, entry, hentry, hread⟩ := exists_of_mem_init h hinit
    exact Formula.plainLiterals_of_ofForm (hentries segment hsegment entry hentry) hread
  · obtain ⟨segment, hsegment, -, goals, hread, hgoals⟩ :=
      exists_of_goal h (Option.mem_toList.mp hgoal)
    have hall : ∀ g ∈ goals, g.PlainLiterals := by
      intro g hg
      obtain ⟨entry, hentry, hread⟩ := exists_of_mem_right (mapM_eq_ok_iff.mp hread) hg
      exact Formula.plainLiterals_of_ofForm (hentries segment hsegment entry hentry) hread
    unfold goalOf? at hgoals
    split at hgoals
    · cases hgoals
    · obtain rfl := Option.some.inj hgoals
      exact hall _ List.mem_cons_self
    · obtain rfl := Option.some.inj hgoals
      exact Formula.plainLiterals_composite.mpr hall

namespace Document

variable {s : String} {document : Document}

/-- The literals in the actions of a document have names that can stand as words. -/
theorem plainLiterals_of_mem_actions (hread : read s = .ok document) {domain : Domain}
    (hdomain : domain ∈ document.domains) {action : Action} (haction : action ∈ domain.actions) :
    ∀ f ∈ action.preconditions ++ action.effects, f.PlainLiterals := by
  obtain ⟨d, hd, hplain⟩ := exists_of_mem_domains hread hdomain
  obtain ⟨constants, parts, hparts, rfl⟩ := Domain.parts_of_ofDefinition hd
  obtain ⟨part, hpart, hfound⟩ := List.mem_filterMap.mp haction
  obtain ⟨segment, hsegment, hof⟩ := exists_of_mem_right hparts hpart
  cases part with
  | action a =>
    obtain rfl := Option.some.inj hfound
    exact Action.plainLiterals_of_ofForm (hplain segment hsegment) hof.2
  | _ => cases hfound

/-- The literals in the problems of a document have names that can stand as words. -/
theorem plainLiterals_of_mem_problems (hread : read s = .ok document) {problem : Problem}
    (hproblem : problem ∈ document.problems) : ∀ f ∈ problem.formulas, f.PlainLiterals := by
  obtain ⟨d, hd, hplain⟩ := exists_of_mem_problems hread hproblem
  exact Problem.plainLiterals_of_ofDefinition hplain hd

end Document

/-- A label tells apart names without blanks and polarities. -/
theorem Formula.literalLabel_eq_iff {name name' : String} {negated negated' : Bool}
    (h : Token.IsPlain name) (h' : Token.IsPlain name') :
    literalLabel name negated = literalLabel name' negated' ↔
      name = name' ∧ negated = negated' := by
  have hblank {text : String} (htext : Token.IsPlain text) : ' ' ∉ text.toList := fun hmem =>
    absurd (htext.2 ' ' hmem) (by decide)
  -- the name that is not negated would have to contain the blank
  have hne {text other : String} (htext : Token.IsPlain text) : text ≠ "not " ++ other := by
    rintro rfl
    exact hblank htext (by simp)
  cases negated <;> cases negated' <;> simp [literalLabel, hne h, (hne h').symm]

/-- The name and the polarity of a literal. -/
def LiteralUse.signed (l : LiteralUse) : String × Bool :=
  (l.name, l.negated)

/-- Literals have the same label if they have the same name and polarity. -/
theorem LiteralUse.label_eq_iff {l m : LiteralUse} (hl : Token.IsPlain l.name)
    (hm : Token.IsPlain m.name) : l.label = m.label ↔ l.signed = m.signed := by
  rw [signed, signed, Prod.mk.injEq]
  exact Formula.literalLabel_eq_iff hl hm

namespace Occurrences

/-- The literals that are kept have the first names and polarities, if the names have no blanks. -/
theorem map_firstOfEachLabel (seen : List String) {literals : List LiteralUse}
    (h : ∀ l ∈ literals, Token.IsPlain l.name) :
    (firstOfEachLabel seen literals).map LiteralUse.signed =
      ((literals.filter fun l => !seen.contains l.label).map LiteralUse.signed).eraseDups := by
  induction literals generalizing seen with
  | nil => simp [firstOfEachLabel]
  | cons l rest ih =>
    obtain ⟨hl, hrest⟩ := List.forall_mem_cons.mp h
    unfold firstOfEachLabel
    split
    · rename_i hseen
      rw [ih seen hrest, List.filter_cons_of_neg (by simpa using hseen)]
    · rename_i hnew
      -- behind the first literal, those with its label are those with its name and polarity
      have hfilter : (rest.filter fun m => !(l.label :: seen).contains m.label) =
          rest.filter fun m => !m.signed == l.signed && !seen.contains m.label := by
        refine List.filter_congr fun m hm => ?_
        have hbeq : (m.label == l.label) = (m.signed == l.signed) := by
          rw [Bool.eq_iff_iff, beq_iff_eq, beq_iff_eq]
          exact LiteralUse.label_eq_iff (hrest m hm) hl
        rw [List.contains_cons, Bool.not_or, hbeq]
      rw [List.filter_cons_of_pos (by simpa using hnew), List.map_cons, List.map_cons,
        List.eraseDups_cons, ih _ hrest, hfilter, List.filter_map, List.filter_filter]
      rfl

/-- The literals that are kept are the distinct ones by name and polarity, in the order of their
first occurrences, if the names have no blanks. -/
theorem map_distinctLiterals {found : Occurrences} (h : ∀ l ∈ found.literals, Token.IsPlain l.name) :
    found.distinctLiterals.map LiteralUse.signed =
      (found.literals.map LiteralUse.signed).eraseDups := by
  rw [distinctLiterals, map_firstOfEachLabel [] h]
  simp

end Occurrences

end PlanDiagram
