import PlanDiagram.Outline.OfDocument
import PlanDiagram.Proofs.Document.Numerals
import PlanDiagram.Proofs.Document.Stages
import PlanDiagram.Proofs.Formula.Rereading
import PlanDiagram.Proofs.Problem.OfDefinition

/-!
# The outline of a problem says what the problem says

The outline has no copy of the text of a problem: its lines for facts and goals are the formulas,
written without any marks but those of quantified variables. Main statement: if the text was legible
without knowing any variable, each of these lines is read back as the formula that it stands for. A
quantifier without variables is not legible, and its line says something else.
-/

namespace PlanDiagram

/-- Facts and goals are legible without knowing any variable. -/
def Definition.Legible (d : Definition) : Prop :=
  ∀ segment ∈ d.body,
    Section.keyword? segment = some ":init" ∨ Section.keyword? segment = some ":goal" →
      ∀ entry ∈ Section.entriesOf segment, entry.Legible []

/-- The facts and the goal of a problem. -/
def Problem.formulas (p : Problem) : List Formula :=
  p.init ++ p.goal.toList

/-- A formula that was read from a plain form that is legible without knowing any variable. -/
def Formula.IsReadable (scope : Scope) (e : Formula) : Prop :=
  ∃ form : Form, form.IsPlain ∧ form.Legible [] ∧ Formula.ofForm scope form = .ok e

namespace Problem

/-- What the goal of a problem was read from is readable, also if it is put together from several
entries: their conjunction is what a list of them with `and` at its head is read as. -/
theorem isReadable_goalOf? {scope : Scope} {entries : List Form} {goals : List Formula}
    {e : Formula} (hplain : ∀ entry ∈ entries, entry.IsPlain)
    (hlegible : ∀ entry ∈ entries, entry.Legible [])
    (hread : entries.mapM (Formula.ofForm scope) = .ok goals) (he : goalOf? goals = some e) :
    e.IsReadable scope := by
  unfold goalOf? at he
  split at he
  · cases he
  · rename_i goal
    obtain rfl := Option.some.inj he
    obtain ⟨entry, hentry, hread⟩ :=
      exists_of_mem_right (mapM_eq_ok_iff.mp hread) List.mem_cons_self
    exact ⟨entry, hplain entry hentry, hlegible entry hentry, hread⟩
  · obtain rfl := Option.some.inj he
    have hand : Keyword.connectives.contains (Text.lower "and") = true := by decide
    refine ⟨.list (.atom "and" :: entries), Formula.isPlain_list_atom (by decide) hplain,
      .connective hand hlegible, ?_⟩
    rw [Formula.ofForm_connective hand fun entry hentry => (hlegible entry hentry).isList, hread]
    rfl

/-- The facts and the goal of a problem are readable under the scope of its objects, if the
definition is plain and legible. -/
theorem isReadable_of_mem_formulas {d : Definition} {p : Problem} (h : ofDefinition d = .ok p)
    (hplain : ∀ segment ∈ d.body, segment.IsPlain) (hlegible : d.Legible) {e : Formula}
    (he : e ∈ p.formulas) : e.IsReadable (Scope.ofParameters p.objects) := by
  rcases List.mem_append.mp he with hinit | hgoal
  · obtain ⟨segment, hsegment, hkey, entry, hentry, hread⟩ := exists_of_mem_init h hinit
    exact ⟨entry, Section.isPlain_of_mem_entriesOf (hplain segment hsegment) hentry,
      hlegible segment hsegment (.inl hkey) entry hentry, hread⟩
  · obtain ⟨segment, hsegment, hkey, goals, hread, hgoals⟩ :=
      exists_of_goal h (Option.mem_toList.mp hgoal)
    exact isReadable_goalOf?
      (fun entry hentry => Section.isPlain_of_mem_entriesOf (hplain segment hsegment) hentry)
      (hlegible segment hsegment (.inr hkey)) hread hgoals

end Problem

namespace Document

/-- A problem that is an entry of a document was read from its definition. -/
theorem ofDefinition_of_entry {d : Definition} {p : Problem}
    (h : Entry.ofDefinition d = .ok (.problem p)) : Problem.ofDefinition d = .ok p := by
  unfold Entry.ofDefinition at h
  split at h
  · cases hread : Domain.ofDefinition d <;> rw [hread] at h <;> cases h
  · cases hread : Problem.ofDefinition d with
    | error cause =>
      rw [hread] at h
      cases h
    | ok problem =>
      rw [hread] at h
      cases h
      rfl
  · cases h

/-- A problem of a document was read from a definition with plain segments. -/
theorem exists_of_mem_problems {s : String} {document : Document} {p : Problem}
    (hread : read s = .ok document) (h : p ∈ document.problems) :
    ∃ d, Problem.ofDefinition d = .ok p ∧ ∀ segment ∈ d.body, segment.IsPlain := by
  obtain ⟨entries, rfl, hentries⟩ := exists_entries_of_read hread
  obtain ⟨entry, hentry, hproblem⟩ := List.mem_filterMap.mp h
  obtain ⟨d, hofDefinition, hplain⟩ := hentries entry hentry
  cases entry with
  | problem found =>
    obtain rfl := Option.some.inj hproblem
    exact ⟨d, ofDefinition_of_entry hofDefinition, hplain⟩
  | domain domain => cases hproblem
  | unknown definition => cases hproblem

/-- The only problem of a text is read from its only definition, whose segments are plain. -/
theorem exists_of_read_problem {s : String} {d : Definition} {p : Problem}
    (hdefinitions : definitions s = .ok [d]) (hread : read s = .ok { problems := [p] }) :
    Problem.ofDefinition d = .ok p ∧ ∀ segment ∈ d.body, segment.IsPlain := by
  constructor
  · rw [read_eq, hdefinitions] at hread
    obtain ⟨entries, hentries, hdocument⟩ := map_eq_ok_iff.mp hread
    rw [mapM_eq_ok_iff, List.forall₂_cons_left_iff] at hentries
    obtain ⟨entry, rest, hentry, hrest, rfl⟩ := hentries
    obtain rfl := List.forall₂_nil_left_iff.mp hrest
    cases entry with
    | domain domain => cases hdocument
    | unknown definition => cases hdocument
    | problem problem =>
      obtain rfl : problem = p := by simpa [ofEntries] using hdocument
      exact ofDefinition_of_entry hentry
  · cases hforms : Form.readAll s with
    | error e =>
      rw [definitions, hforms] at hdefinitions
      cases hdefinitions
    | ok forms =>
      rw [definitions_of_readAll hforms] at hdefinitions
      split at hdefinitions
      · cases hdefinitions
      · have hmem : d ∈ Definition.ofForms forms := by
          rw [Except.ok.inj hdefinitions]
          exact List.mem_singleton_self d
        obtain ⟨form, hform, hd⟩ := List.mem_filterMap.mp hmem
        have hplain := (Form.isPlain_of_readAll hforms form hform).2
        exact fun segment => Definition.isPlain_of_mem_body hplain hd

end Document

namespace Outline

/-- A line that is read back as a formula. -/
def Shows (scope : Scope) (line : Outline) (e : Formula) : Prop :=
  line.children = [] ∧ ∃ m e', Form.readOne line.text = .ok m ∧
    Formula.ofForm scope m = .ok e' ∧ e'.Same e

/-- A node with a line for each formula, or with the one line that says that there are none. -/
def Lists (scope : Scope) (o : Outline) (formulas : List Formula) : Prop :=
  if formulas = [] then o.children = [leaf noneText]
  else List.Forall₂ (Shows scope) o.children formulas

/-- The lines for readable formulas are read back. -/
theorem lists_leavesOrNone {scope : Scope} {formulas : List Formula} (label : String)
    (h : ∀ e ∈ formulas, e.IsReadable scope ∧ e.Writable) :
    Lists scope (node label (leavesOrNone (Formula.renderAll [] formulas))) formulas := by
  rw [Lists, Formula.renderAll_eq_map]
  split
  · rename_i hnil
    rw [hnil]
    rfl
  · rename_i hne
    have hlines : leavesOrNone (formulas.map (Formula.render [])) =
        formulas.map fun e => leaf (e.render []) := by
      simp [leavesOrNone, hne]
    rw [children, hlines, List.forall₂_map_left_iff, List.forall₂_same]
    intro e he
    obtain ⟨⟨form, hplain, hlegible, hread⟩, hnumbers⟩ := h e he
    exact ⟨rfl, Formula.exists_readOne_render hplain hlegible hread hnumbers⟩

/-- The outline of the only problem of a document starts with its domain, its objects, its facts and
its goal. -/
theorem exists_children_ofDocument (p : Problem) :
    ∃ objects others, (ofDocument { problems := [p] }).children =
      leaf ("Domain Reference: " ++ orText (p.domainName.getD "") "(unknown)") ::
        node "Objects" objects ::
        node "Init" (leavesOrNone (Formula.renderAll [] p.init)) ::
        node "Goal" (leavesOrNone (Formula.renderAll [] p.goal.toList)) :: others := by
  have hchildren : (ofDocument { problems := [p] }).children = ofProblem p := by
    simp [ofDocument, children]
  rw [hchildren]
  exact ⟨_, _, rfl⟩

/-- The first line of a problem is found by no text that starts with another letter. -/
theorem text_domainReference_ne (name : String) {text : String}
    (h : text.toList.head? ≠ some 'D') :
    ((leaf ("Domain Reference: " ++ name)).text == text) = false := by
  rw [beq_eq_false_iff_ne]
  rintro rfl
  rw [leaf, Outline.text, String.toList_append] at h
  exact h rfl

/-- The facts of the only problem of a document are below the root. -/
theorem find?_init (p : Problem) :
    (ofDocument { problems := [p] }).find? "Init" =
      some (node "Init" (leavesOrNone (Formula.renderAll [] p.init))) := by
  obtain ⟨objects, others, hchildren⟩ := exists_children_ofDocument p
  rw [find?, hchildren, List.find?_cons, text_domainReference_ne _ (by decide)]
  rfl

/-- The goal of the only problem of a document is below the root. -/
theorem find?_goal (p : Problem) :
    (ofDocument { problems := [p] }).find? "Goal" =
      some (node "Goal" (leavesOrNone (Formula.renderAll [] p.goal.toList))) := by
  obtain ⟨objects, others, hchildren⟩ := exists_children_ofDocument p
  rw [find?, hchildren, List.find?_cons, text_domainReference_ne _ (by decide)]
  rfl

/-- The lines for the facts and the goal of the only problem of a text are read back as these, under
the scope of its objects. The problem has to be legible without knowing any variable, and its
numbers have to be finite and equal to what their labels are read as. -/
theorem ofDocument_reads_back {s : String} {d : Definition} {p : Problem}
    (hdefinitions : Document.definitions s = .ok [d])
    (hread : Document.read s = .ok { problems := [p] }) (hlegible : d.Legible)
    (hfinite : ∀ e ∈ p.formulas, ∀ x ∈ e.numbers, Number.IsFinite x)
    (hnumbers : ∀ e ∈ p.formulas, ∀ x ∈ e.numbers, Number.ReadsBack x) :
    ∃ init goal, (ofDocument { problems := [p] }).find? "Init" = some init ∧
      (ofDocument { problems := [p] }).find? "Goal" = some goal ∧
      Lists (Scope.ofParameters p.objects) init p.init ∧
      Lists (Scope.ofParameters p.objects) goal p.goal.toList := by
  obtain ⟨hproblem, hplain⟩ := Document.exists_of_read_problem hdefinitions hread
  have hformulas (e : Formula) (he : e ∈ p.formulas) :
      e.IsReadable (Scope.ofParameters p.objects) ∧ e.Writable :=
    ⟨Problem.isReadable_of_mem_formulas hproblem hplain hlegible he,
      fun x hx => ⟨hfinite e he x hx, hnumbers e he x hx⟩⟩
  refine ⟨_, _, find?_init p, find?_goal p, lists_leavesOrNone "Init" fun e he => ?_,
    lists_leavesOrNone "Goal" fun e he => ?_⟩
  · exact hformulas e (List.mem_append_left _ he)
  · exact hformulas e (List.mem_append_right _ he)

/-- The segments of a problem with an object, a fact with a number, and a quantified goal. -/
def sampleSegments : List Form := [
  .list [.atom "problem", .atom "p"],
  .list [.atom ":objects", .atom "a", .atom "-", .atom "t"],
  .list [.atom ":init", .list [.atom "=", .list [.atom "f", .atom "a"], .atom "2.5"]],
  .list [.atom ":goal", .list [.atom "forall", .list [.atom "?x", .atom "-", .atom "t"],
    .list [.atom "q", .atom "?x"]]]]

/-- The problem that is read from them. -/
def sampleProblem : Problem where
  name := "p"
  objects := [{ name := "a", type := some "t" }]
  init := [.comparison "=" [.function "f" [.parameter "a" (.text "t")], .number 2.5]]
  goal := some (.composite "forall" [.predicate "q" [.parameter "x" (.text "t")]]
    [{ name := "x", type := some "t" }])

/-- The definition of a problem from its segments, of which the first is the header. -/
def problemDefinition (segments : List Form) : Definition where
  kind := .problem
  form := .list (.atom "define" :: segments)
  segments
  name := some "p"
  headerIndex := some 0

/-- A plain text with one list has the definition that the list is. -/
theorem definitions_render {form : Form} {d : Definition} (hlist : form.isList = true)
    (hplain : form.IsPlain) (hd : Definition.ofForm? form = some d) :
    Document.definitions form.render = .ok [d] := by
  rw [Document.definitions_of_readAll (Form.readAll_render hlist hplain)]
  simp [Definition.ofForms, hd]

/-- A text with one definition of a problem is read as the problem. -/
theorem read_of_definition {s : String} {d : Definition} {p : Problem} (hkind : d.kind = .problem)
    (hdefinitions : Document.definitions s = .ok [d]) (hproblem : Problem.ofDefinition d = .ok p) :
    Document.read s = .ok { problems := [p] } := by
  have hentry : Document.Entry.ofDefinition d = .ok (.problem p) := by
    rw [Document.Entry.ofDefinition, hkind, hproblem]
    rfl
  rw [Document.read_eq, hdefinitions]
  change ([d].mapM Document.Entry.ofDefinition).map Document.ofEntries = _
  rw [List.mapM_cons, hentry]
  rfl

/-- The sample is read segment by segment. -/
theorem ofDefinition_sampleSegments :
    Problem.ofDefinition (problemDefinition sampleSegments) = .ok sampleProblem := by
  have hnumber (scope : Scope) : Formula.operandOfForm scope (.atom "2.5") = .ok (.number 2.5) :=
    Formula.term_of_isNumeral (by decide) (by decide +kernel)
  have hinit (scope : Scope) : Problem.Part.ofForm scope (.list [.atom ":init",
      .list [.atom "=", .list [.atom "f", .atom "a"], .atom "2.5"]]) =
        .ok (.init [.comparison "=" [.function "f" [.parameter "a" (scope.typeOf "a")],
          .number 2.5]]) := by
    change (Formula.ofForms _ _ >>= fun facts => pure (Problem.Part.init facts)) = _
    rw [Formula.ofForms_eq_mapM, Section.entriesOf, List.mapM_cons,
      Formula.ofForm_atomic (by decide) (by decide),
      Formula.atomicOfForm_eq, List.mapM_cons, List.mapM_cons, hnumber]
    rfl
  exact Problem.ofDefinition_eq_ok_iff.mpr ⟨_, [.objects sampleProblem.objects,
    .init sampleProblem.init, .goal sampleProblem.goal.toList], rfl,
    mapM_eq_ok_iff.mpr (.cons rfl (.cons (hinit _) (.cons rfl .nil))), rfl⟩

/-- The only variable of the sample is bound around its use. -/
theorem legible_sampleSegments : (problemDefinition sampleSegments).Legible := by
  intro segment hsegment hkey entry hentry
  change segment ∈ sampleSegments.tail at hsegment
  simp only [sampleSegments, List.tail_cons, List.mem_cons, List.not_mem_nil, or_false] at hsegment
  rcases hsegment with rfl | rfl | rfl
  · exact absurd hkey (by decide)
  · rw [List.mem_singleton.mp hentry]
    refine .atomic (by decide) (by decide) (List.forall_mem_cons.mpr ⟨.list ?_, ?_⟩)
    · simpa using .atom (by decide)
    · simpa using .atom (by decide)
  · rw [List.mem_singleton.mp hentry]
    refine .quantifier (by decide) (by simp) rfl fun form hform => ?_
    rw [List.mem_singleton.mp hform]
    exact .atomic (by decide) (by decide) (by simpa using .atom (by decide))

/-- Both lines of the sample are read back. -/
theorem ofDocument_reads_back_sample :
    (problemDefinition sampleSegments).form.render =
        "(define (problem p) (:objects a - t) (:init (= (f a) 2.5)) " ++
          "(:goal (forall (?x - t) (q ?x))))" ∧
      Document.definitions (problemDefinition sampleSegments).form.render =
        .ok [problemDefinition sampleSegments] ∧
      Document.read (problemDefinition sampleSegments).form.render =
        .ok { problems := [sampleProblem] } ∧
      (problemDefinition sampleSegments).Legible ∧
      (∀ e ∈ sampleProblem.formulas, ∀ x ∈ e.numbers, Number.IsFinite x ∧ Number.ReadsBack x) ∧
      ∃ init goal, (ofDocument { problems := [sampleProblem] }).find? "Init" = some init ∧
        (ofDocument { problems := [sampleProblem] }).find? "Goal" = some goal ∧
        Lists (Scope.ofParameters sampleProblem.objects) init sampleProblem.init ∧
        Lists (Scope.ofParameters sampleProblem.objects) goal sampleProblem.goal.toList := by
  have hdefinitions := @definitions_render (problemDefinition sampleSegments).form
    (problemDefinition sampleSegments) rfl (by decide) rfl
  have hread := read_of_definition rfl hdefinitions ofDefinition_sampleSegments
  have hnumber : ∀ e ∈ sampleProblem.formulas, ∀ x ∈ e.numbers, x = 2.5 := by
    simp [sampleProblem, Problem.formulas, Formula.numbers, Formula.numbersOfAll]
  have hfinite : ∀ e ∈ sampleProblem.formulas, ∀ x ∈ e.numbers, Number.IsFinite x := by
    intro e he x hx
    rw [hnumber e he x hx]
    exact ⟨false, 5629499534213120, -51, by decide +kernel⟩
  have hreadsBack : ∀ e ∈ sampleProblem.formulas, ∀ x ∈ e.numbers, Number.ReadsBack x := by
    intro e he x hx
    rw [hnumber e he x hx]
    exact ⟨2.5, by decide +kernel, by decide +kernel⟩
  exact ⟨by decide +kernel, hdefinitions, hread, legible_sampleSegments,
    fun e he x hx => ⟨hfinite e he x hx, hreadsBack e he x hx⟩,
    ofDocument_reads_back hdefinitions hread legible_sampleSegments hfinite hreadsBack⟩

/-- The segments of a problem whose goal is quantified over no variables. -/
def emptyQuantifierSegments : List Form := [
  .list [.atom "problem", .atom "p"],
  .list [.atom ":goal", .list [.atom "forall", .list [], .list [.atom "p"]]]]

/-- The problem that is read from them. -/
def emptyQuantifierProblem : Problem where
  name := "p"
  goal := some (.composite "forall" [.predicate "p" []] [])

/-- The empty list of variables is left out of the line for the goal, and when the line is read the
formula is taken for a list of variables. -/
theorem not_reads_back_emptyQuantifier :
    (problemDefinition emptyQuantifierSegments).form.render =
        "(define (problem p) (:goal (forall () (p))))" ∧
      Document.definitions (problemDefinition emptyQuantifierSegments).form.render =
        .ok [problemDefinition emptyQuantifierSegments] ∧
      Document.read (problemDefinition emptyQuantifierSegments).form.render =
        .ok { problems := [emptyQuantifierProblem] } ∧
      (∀ e ∈ emptyQuantifierProblem.formulas, e.numbers = []) ∧
      ∃ goal, (ofDocument { problems := [emptyQuantifierProblem] }).find? "Goal" = some goal ∧
        goal.children.map text = ["(forall (p))"] ∧
        ¬ Lists (Scope.ofParameters emptyQuantifierProblem.objects) goal
          emptyQuantifierProblem.goal.toList := by
  have hdefinitions := @definitions_render (problemDefinition emptyQuantifierSegments).form
    (problemDefinition emptyQuantifierSegments) rfl (by decide) rfl
  have hread := read_of_definition (p := emptyQuantifierProblem) rfl hdefinitions rfl
  refine ⟨by decide +kernel, hdefinitions, hread, ?_, _, find?_goal _, by decide +kernel, ?_⟩
  · simp [emptyQuantifierProblem, Problem.formulas, Formula.numbers, Formula.numbersOfAll]
  · intro hlists
    rw [Lists, if_neg (by simp [emptyQuantifierProblem])] at hlists
    obtain ⟨⟨-, m, e', hm, he', hsame⟩, -⟩ := List.forall₂_cons.mp hlists
    obtain rfl : m = .list [.atom "forall", .list [.atom "p"]] := (Except.ok.inj hm).symm
    obtain rfl : e' = .composite "forall" [] [{ name := "p" }] := (Except.ok.inj he').symm
    cases hsame

end Outline

end PlanDiagram
