import PlanDiagram.Proofs.Diagram.ActionContents
import PlanDiagram.Proofs.Diagram.ProblemContents
import PlanDiagram.Proofs.Formula.LiteralNames

/-!
# One ellipse for each distinct literal

Ellipses of literals are told apart by their labels, and the labels in a document that was read tell
apart names and polarities. Main statement: for every action and every problem of a document that is
drawn, the ellipses of a role show its distinct literals in the order of their first occurrences,
and literals share an ellipse if they agree in role, name and polarity, and otherwise not.
-/

namespace PlanDiagram

/-- The literals that are collected from formulas in which all literals have names that can stand as
words have such names. -/
theorem Occurrences.isPlain_of_mem_collect {role : Role} {formulas : List (Option Formula)}
    (h : ∀ f, some f ∈ formulas → f.PlainLiterals) {l : LiteralUse}
    (hl : l ∈ (({} : Occurrences).collect role formulas).literals) : Token.IsPlain l.name := by
  obtain ⟨f, hf, hl⟩ := Formula.mem_literals_ofFormulas.mp hl
  obtain ⟨f?, hf?, rfl⟩ := List.mem_filterMap.mp hf
  exact h f hf? role false l hl

/-- The literals that are found for an action have names that can stand as words if those in its
conditions and effects have. -/
theorem Action.isPlain_of_mem_found {action : Action}
    (h : ∀ f ∈ action.preconditions ++ action.effects, f.PlainLiterals) {role : Role}
    {l : LiteralUse} (hl : l ∈ (action.found role).literals) : Token.IsPlain l.name := by
  cases role with
  | precondition =>
    exact Occurrences.isPlain_of_mem_collect
      (fun f hf => h f (List.mem_append_left _ (by simpa using hf))) hl
  | effect =>
    exact Occurrences.isPlain_of_mem_collect
      (fun f hf => h f (List.mem_append_right _ (by simpa using hf))) hl
  | init => cases hl
  | goal => cases hl

/-- The literals that are found for a problem have names that can stand as words if those in its
facts and its goal have. -/
theorem Problem.isPlain_of_mem_found {problem : Problem}
    (h : ∀ f ∈ problem.formulas, f.PlainLiterals) {role : Role} {l : LiteralUse}
    (hl : l ∈ (problem.found role).literals) : Token.IsPlain l.name := by
  cases role with
  | init =>
    exact Occurrences.isPlain_of_mem_collect
      (fun f hf => h f (List.mem_append_left _ (by simpa using hf))) hl
  | goal =>
    refine Occurrences.isPlain_of_mem_collect
      (fun f hf => h f (List.mem_append_right _ (Option.mem_toList.mpr ?_))) hl
    exact (List.mem_singleton.mp hf).symm
  | precondition => cases hl
  | effect => cases hl

namespace Diagram

variable {α : Type}

/-- The ellipse of a literal: the one of its role that has its label. -/
def ellipse? (elements : List (Element α)) (role : Role) (l : LiteralUse) : Option (Node α) :=
  (nodesIn [roleFamily role] elements).find? (·.text == l.label)

/-- The ellipses of literals show the distinct literals. -/
structure ShowsDistinct (found : Role → Occurrences) (elements : List (Element α)) : Prop where
  /-- In each role there is one ellipse for each name and polarity, in the order of their first
  occurrences. -/
  ellipses : ∀ role, List.Forall₂
    (fun signed n => n.text = Formula.literalLabel signed.1 signed.2 ∧ n.box.shape = .ellipse)
    ((found role).literals.map LiteralUse.signed).eraseDups (nodesIn [roleFamily role] elements)
  /-- Every literal has an ellipse. -/
  drawn : ∀ role, ∀ l ∈ (found role).literals,
    ∃ e ∈ nodesIn [roleFamily role] elements, ellipse? elements role l = some e
  /-- Literals share their ellipse if they agree in role, name and polarity, and otherwise not. -/
  shared_iff : ∀ role, ∀ l ∈ (found role).literals, ∀ role', ∀ m ∈ (found role').literals,
    (ellipse? elements role l = ellipse? elements role' m ↔
      role = role' ∧ l.name = m.name ∧ l.negated = m.negated)

/-- Where ellipses show literals by their labels they show them by name and polarity, if the names
can stand as words. -/
theorem showsDistinct_of_showsLiterals {found : Role → Occurrences} {elements : List (Element α)}
    (hplain : ∀ role, ∀ l ∈ (found role).literals, Token.IsPlain l.name)
    (hshows : ∀ role, ShowsLiterals (found role) role elements) : ShowsDistinct found elements := by
  have hellipses : ∀ role, List.Forall₂
      (fun signed n => n.text = Formula.literalLabel signed.1 signed.2 ∧ n.box.shape = .ellipse)
      ((found role).literals.map LiteralUse.signed).eraseDups
      (nodesIn [roleFamily role] elements) := by
    intro role
    rw [← Occurrences.map_distinctLiterals (hplain role), List.forall₂_map_left_iff]
    exact hshows role
  have hdrawn : ∀ role, ∀ l ∈ (found role).literals,
      ∃ e ∈ nodesIn [roleFamily role] elements,
        e.text = l.label ∧ ellipse? elements role l = some e := by
    intro role l hl
    obtain ⟨n, hn, htext, -⟩ := exists_of_mem_right (hellipses role).flip
      (List.mem_eraseDups.mpr (List.mem_map_of_mem (f := LiteralUse.signed) hl))
    have hfound : (ellipse? elements role l).isSome = true :=
      List.find?_isSome.mpr ⟨n, hn, beq_iff_eq.mpr htext⟩
    obtain ⟨e, he⟩ := Option.isSome_iff_exists.mp hfound
    have hlabel := List.find?_some he
    exact ⟨e, List.mem_of_find?_eq_some he, beq_iff_eq.mp hlabel, he⟩
  refine ⟨hellipses, fun role l hl => ?_, fun role l hl role' m hm => ⟨fun heq => ?_, ?_⟩⟩
  · obtain ⟨e, hmem, -, he⟩ := hdrawn role l hl
    exact ⟨e, hmem, he⟩
  · obtain ⟨e, hmem, htext, he⟩ := hdrawn role l hl
    obtain ⟨e', hmem', htext', he'⟩ := hdrawn role' m hm
    obtain rfl := Option.some.inj (he.symm.trans (heq.trans he'))
    refine ⟨?_, Prod.mk.inj ((LiteralUse.label_eq_iff (hplain role l hl) (hplain role' m hm)).mp
      (htext.symm.trans htext'))⟩
    by_contra hne
    have hcovers : (roleFamily role).covers e = true := by simpa using (List.mem_filter.mp hmem).2
    have hcovers' : (roleFamily role').covers e = true := by
      simpa using (List.mem_filter.mp hmem').2
    rw [Family.covers_of_apart hcovers (roleFamily_apart hne)] at hcovers'
    cases hcovers'
  · rintro ⟨rfl, hname, hnegated⟩
    have hlabel : l.label = m.label := by rw [LiteralUse.label, LiteralUse.label, hname, hnegated]
    rw [ellipse?, ellipse?, hlabel]

/-- For every action and every problem of a document that was read, whatever is drawn shows the
distinct literals. -/
theorem showsDistinct_of_read {s : String} {document : Document}
    (hread : Document.read s = .ok document) [Add α] [Sub α] [Mul α] [LT α] [DecidableLT α]
    [Scalar α] (cfg : Config α) (session : Session) (x y : α) :
    (∀ domain ∈ document.domains, ∀ action ∈ domain.actions, ∀ block,
      (actionBlock cfg session action x y).2 = .ok block →
        ShowsDistinct action.found block.elements) ∧
    ∀ problem ∈ document.problems, ∀ block,
      (problemBlock cfg session problem x y).2 = .ok block →
        ShowsDistinct problem.found block.elements := by
  constructor
  · intro domain hdomain action haction block h
    have hplain := Document.plainLiterals_of_mem_actions hread hdomain haction
    obtain ⟨d', hdraw⟩ := Draw.exists_of_run h
    obtain ⟨functions, hcontents⟩ := ActionBlock.draw_contents hdraw rfl rfl
    exact showsDistinct_of_showsLiterals (fun role l => Action.isPlain_of_mem_found hplain)
      hcontents.literals
  · intro problem hproblem block h
    have hplain := Document.plainLiterals_of_mem_problems hread hproblem
    obtain ⟨d', hdraw⟩ := Draw.exists_of_run h
    obtain ⟨functions, hcontents⟩ := ProblemBlock.draw_contents hdraw rfl rfl
    exact showsDistinct_of_showsLiterals (fun role l => Problem.isPlain_of_mem_found hplain)
      hcontents.literals

/-- A domain and a problem in which literals are repeated and negated more than once. -/
def repeatedLiterals : String :=
  "(define (domain d) (:action a :parameters (?x) " ++
    ":precondition (and (p ?x) (not (p ?x)) (not (not (p ?x)))) :effect (not (p ?x))))" ++
  "(define (problem q) (:objects o) (:init (p o) (p o)) (:goal (and (p o) (not (q o)))))"

/-- The text is read, its action and its problem are drawn, and distinct literals are shown. -/
theorem showsDistinct_of_read_repeatedLiterals :
    ∃ document, Document.read repeatedLiterals = .ok document ∧
      (∃ domain ∈ document.domains, ∃ action ∈ domain.actions, ∃ block,
        (actionBlock Config.rational {} action 0 0).2 = .ok block ∧
          ShowsDistinct action.found block.elements) ∧
      ∃ problem ∈ document.problems, ∃ block,
        (problemBlock Config.rational {} problem 0 0).2 = .ok block ∧
          ShowsDistinct problem.found block.elements := by
  obtain ⟨document, hread, hdrawn⟩ := exists_of_any_toOption
    (by decide +kernel : ((Document.read repeatedLiterals).toOption.any fun document =>
      (document.domains.any fun domain => domain.actions.any fun action =>
        (actionBlock Config.rational {} action 0 0).2.isOk) &&
      document.problems.any fun problem =>
        (problemBlock Config.rational {} problem 0 0).2.isOk) = true)
  obtain ⟨hactions, hproblems⟩ := Bool.and_eq_true_iff.mp hdrawn
  obtain ⟨domain, hdomain, haction⟩ := List.any_eq_true.mp hactions
  obtain ⟨action, haction, hok⟩ := List.any_eq_true.mp haction
  obtain ⟨problem, hproblem, hok'⟩ := List.any_eq_true.mp hproblems
  obtain ⟨block, h⟩ := exists_of_isOk hok
  obtain ⟨block', h'⟩ := exists_of_isOk hok'
  obtain ⟨hshows, hshows'⟩ := showsDistinct_of_read hread Config.rational {} 0 0
  exact ⟨document, hread,
    ⟨domain, hdomain, action, haction, block, h, hshows domain hdomain action haction block h⟩,
    problem, hproblem, block', h', hshows' problem hproblem block' h'⟩

end Diagram

end PlanDiagram
