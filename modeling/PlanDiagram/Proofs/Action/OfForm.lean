import PlanDiagram.Action.OfForm
import PlanDiagram.Proofs.Formula.Layout
import Mathlib.Data.List.TakeWhile

/-!
# What the groups of an action contribute

The entries after the name of an action are cut into groups, and conditions and effects are read
from the values of these. `Cuts` says which groups a sequence of entries has. Main statements: an
action is only read from entries that are groups to the end, and the conjuncts of the last value for
a keyword are all there; these are the formulas of the parts of a conjunction, and of any other form
the one formula that it is.
-/

namespace PlanDiagram.Action

/-- Entries with their groups. A group is a keyword with the one form after it, but the value of a
description goes on as long as words follow. -/
inductive Cuts : List Form → List Group → Prop where
  | nil : Cuts [] []
  | description {keyword first : String} {words rest : List Form} {gs : List Group}
    (hkeyword : isKeyword keyword = true) (hdescription : Text.lower keyword = ":description")
    (hwords : ∀ form ∈ words, isWord form = true) (hrest : ∀ form ∈ rest.head?, isWord form = false)
    (h : Cuts rest gs) :
    Cuts (.atom keyword :: .atom first :: (words ++ rest))
      ({ keyword, value := .atom (unquote (" ".intercalate (first :: words.map Form.render))) } ::
        gs)
  | value {keyword : String} {value : Form} {rest : List Form} {gs : List Group}
    (hkeyword : isKeyword keyword = true)
    (hvalue : Text.lower keyword = ":description" → value.isList = true) (h : Cuts rest gs) :
    Cuts (.atom keyword :: value :: rest) ({ keyword, value } :: gs)

/-- The first form after the words is none. -/
theorem isWord_of_mem_head?_dropWhile {forms : List Form} {form : Form}
    (h : form ∈ (forms.dropWhile isWord).head?) : isWord form = false := by
  have hnot := List.head?_dropWhile_not isWord forms
  rw [Option.mem_def.mp h] at hnot
  exact hnot

/-- No words are taken where none stands first. -/
theorem takeWhile_of_head? {forms : List Form} (h : ∀ form ∈ forms.head?, isWord form = false) :
    forms.takeWhile isWord = [] := by
  cases forms with
  | nil => rfl
  | cons form rest => exact List.takeWhile_cons_of_neg (by simpa using h form rfl)

/-- No words are dropped where none stands first. -/
theorem dropWhile_of_head? {forms : List Form} (h : ∀ form ∈ forms.head?, isWord form = false) :
    forms.dropWhile isWord = forms := by
  cases forms with
  | nil => rfl
  | cons form rest => exact List.dropWhile_cons_of_neg (by simpa using h form rfl)

/-- Entries that are cut without a fault have groups. -/
theorem cuts_of_groups {action : String} {entries : List Form} {gs : List Group}
    (h : groups action entries = (gs, none)) : Cuts entries gs := by
  fun_induction groups action entries generalizing gs with
  | case1 =>
    cases h
    exact .nil
  | case2 => cases h
  | case3 => cases h
  | case4 => cases h
  | case5 keyword hkeyword value rest hdescription words text following fault hfollowing =>
    rename_i ih
    cases h
    rw [Bool.and_eq_true, beq_iff_eq, Bool.not_eq_true'] at hdescription
    obtain ⟨hdescription, hatom⟩ := hdescription
    cases value with
    | list inner => cases hatom
    | atom first =>
      have hcuts := @Cuts.description keyword first (rest.takeWhile isWord)
        (rest.dropWhile isWord) following (by simpa using hkeyword) hdescription
        (fun form hform => List.mem_takeWhile_imp hform)
        (fun form hform => isWord_of_mem_head?_dropWhile hform) (ih hfollowing)
      rwa [List.takeWhile_append_dropWhile] at hcuts
  | case6 keyword hkeyword value rest hvalue following fault hfollowing ih =>
    cases h
    apply Cuts.value (by simpa using hkeyword) _ (ih hfollowing)
    intro hdescription
    simpa [hdescription] using hvalue

/-- Entries that have groups are cut without a fault. -/
theorem Cuts.groups {entries : List Form} {gs : List Group} (h : Cuts entries gs)
    (action : String) : groups action entries = (gs, none) := by
  induction h with
  | nil => simp [Action.groups]
  | @description keyword first words rest gs hkeyword hdescription hwords hrest h ih =>
    have htake : (words ++ rest).takeWhile isWord = words := by
      rw [List.takeWhile_append_of_pos hwords, takeWhile_of_head? hrest, List.append_nil]
    have hdrop : (words ++ rest).dropWhile isWord = rest := by
      rw [List.dropWhile_append_of_pos hwords, dropWhile_of_head? hrest]
    have hcut : (Text.lower keyword == ":description" && !(Form.atom first).isList) = true := by
      rw [hdescription]
      rfl
    rw [Action.groups]
    simp only [hkeyword, hcut, htake, hdrop, ih, Bool.not_true, Bool.false_eq_true, if_false,
      if_true]
    rfl
  | @value keyword value rest gs hkeyword hvalue h ih =>
    have hcut : (Text.lower keyword == ":description" && !value.isList) = false := by
      by_cases hdescription : Text.lower keyword = ":description"
      · rw [hvalue hdescription, Bool.not_true, Bool.and_false]
      · simp [hdescription]
    rw [Action.groups]
    simp only [hkeyword, hcut, ih, Bool.not_true, Bool.false_eq_true, if_false]

/-- Entries have one sequence of groups. -/
theorem Cuts.unique {entries : List Form} {gs gs' : List Group} (h : Cuts entries gs)
    (h' : Cuts entries gs') : gs = gs' := by
  have hsame := (h.groups "").symm.trans (h'.groups "")
  rw [Prod.mk.injEq] at hsame
  exact hsame.1

/-- The last value for a keyword is the value of a group with this keyword. -/
theorem exists_of_lastValue? {key : String} {gs : List Group} {form : Form}
    (h : lastValue? key gs = some form) : ∃ g ∈ gs, g.key = key ∧ g.value = form := by
  obtain ⟨g, hg, hvalue⟩ := List.mem_filterMap.mp (List.mem_of_getLast? h)
  split at hvalue
  · rename_i hkey
    exact ⟨g, hg, beq_iff_eq.mp hkey, Option.some.inj hvalue⟩
  · cases hvalue

/-- The value of a group is the last one for its keyword if no later group has this keyword. -/
theorem lastValue?_of_last {key : String} {front back : List Group} {g : Group} (hkey : g.key = key)
    (hlast : ∀ later ∈ back, later.key ≠ key) :
    lastValue? key (front ++ g :: back) = some g.value := by
  have hback : (back.filterMap fun g => if g.key == key then some g.value else none) = [] := by
    rw [List.filterMap_eq_nil_iff]
    intro later hlater
    simp [hlast later hlater]
  rw [lastValue?, List.filterMap_append, List.filterMap_cons, hback]
  simp [hkey]

/-- The conjuncts of a conjunction are the formulas of its parts. -/
theorem conjuncts_of_isConjunctionOf {form : Form} {parts : List Form}
    (h : form.IsConjunctionOf parts) (scope : Scope) :
    conjuncts scope form = parts.mapM (Formula.ofForm scope) := by
  rw [conjuncts, Formula.ofForm_isConjunctionOf h]
  cases parts.mapM (Formula.ofForm scope) <;> rfl

/-- Any other form has itself as its only conjunct. -/
theorem conjuncts_of_not_isConjunctionOf {form : Form}
    (h : ∀ parts, ¬ form.IsConjunctionOf parts) (scope : Scope) :
    conjuncts scope form = (Formula.ofForm scope form).map fun f => [f] := by
  rw [conjuncts]
  cases hf : Formula.ofForm scope form with
  | error fault => rfl
  | ok f =>
    rw [ok_bind]
    split
    · obtain ⟨parts, hparts⟩ := Formula.exists_isConjunctionOf hf
      exact absurd hparts (h parts)
    · rfl

/-- The conjuncts of a form: the formulas of its parts if it is a conjunction, and else the one
formula that it is. -/
theorem conjuncts_eq_ok_iff {scope : Scope} {form : Form} {fs : List Formula} :
    conjuncts scope form = .ok fs ↔
      (∃ parts, form.IsConjunctionOf parts ∧ parts.mapM (Formula.ofForm scope) = .ok fs) ∨
        (∀ parts, ¬ form.IsConjunctionOf parts) ∧
          ∃ f, Formula.ofForm scope form = .ok f ∧ fs = [f] := by
  by_cases h : ∃ parts, form.IsConjunctionOf parts
  · obtain ⟨parts, hparts⟩ := h
    rw [conjuncts_of_isConjunctionOf hparts]
    constructor
    · exact fun hfs => .inl ⟨parts, hparts, hfs⟩
    · rintro (⟨others, hothers, hfs⟩ | ⟨hnone, -⟩)
      · rwa [← hothers.unique hparts]
      · exact absurd hparts (hnone parts)
  · have hnone : ∀ parts, ¬ form.IsConjunctionOf parts := fun parts hparts => h ⟨parts, hparts⟩
    rw [conjuncts_of_not_isConjunctionOf hnone, map_eq_ok_iff]
    constructor
    · rintro ⟨f, hf, rfl⟩
      exact .inr ⟨hnone, f, hf, rfl⟩
    · rintro (⟨parts, hparts, -⟩ | ⟨-, f, hf, rfl⟩)
      · exact absurd hparts (hnone parts)
      · exact ⟨f, hf, rfl⟩

/-- How conditions and effects of an action are read: the entries after its name are groups, the
parameters of all groups are bound, and under this scope the last values for the keywords are
read. -/
structure IsReadFrom (a : Action) (constants : Scope) (name : String) (gs : List Group)
    (scope : Scope) : Prop where
  parameters : ∃ lists, ((gs.filter (·.key == ":parameters")).mapM fun g =>
    readParameters name g.value) = .ok lists ∧ scope = lists.foldl Scope.bind constants
  preconditions : ∃ fromPrecondition fromCondition,
    conjuncts? scope (lastValue? ":precondition" gs) = .ok fromPrecondition ∧
      conjuncts? scope (lastValue? ":condition" gs) = .ok fromCondition ∧
      a.preconditions = fromPrecondition ++ fromCondition
  effects : conjuncts? scope (lastValue? ":effect" gs) = .ok a.effects

/-- What an action keeps beside its formulas: the last list of parameters, and the texts of the
values that conditions and effects are read from. Of two keywords for conditions only the text of
`:condition` is kept. -/
structure Keeps (a : Action) (name : String) (gs : List Group) : Prop where
  parameters : ∃ lists, ((gs.filter (·.key == ":parameters")).mapM fun g =>
    readParameters name g.value) = .ok lists ∧ a.parameters = lists.getLast?.getD []
  preconditionText : a.preconditionText =
    ((lastValue? ":condition" gs).or (lastValue? ":precondition" gs)).map Form.render
  effectText : a.effectText = (lastValue? ":effect" gs).map Form.render

/-- An action is read from a name and groups, and keeps texts of the groups. -/
theorem exists_groups_of_ofForm {constants : Scope} {segment : Form} {a : Action}
    (h : ofForm constants segment = .ok a) :
    ∃ head entries gs scope, segment = .list (.atom head :: .atom a.name :: entries) ∧
      Cuts entries gs ∧ a.IsReadFrom constants a.name gs scope ∧ a.Keeps a.name gs := by
  unfold ofForm at h
  split at h
  · rename_i head name entries
    cases hgroups : groups name entries with
    | mk gs fault =>
      rw [hgroups] at h
      obtain ⟨lists, hlists, h⟩ := bind_eq_ok_iff.mp h
      cases fault with
      | some fault =>
        obtain ⟨_, hthrow, -⟩ := bind_eq_ok_iff.mp h
        cases hthrow
      | none =>
        obtain ⟨fromPrecondition, hprecondition, h⟩ := bind_eq_ok_iff.mp h
        obtain ⟨fromCondition, hcondition, h⟩ := bind_eq_ok_iff.mp h
        obtain ⟨effects, heffects, h⟩ := bind_eq_ok_iff.mp h
        obtain rfl := pure_eq_ok_iff.mp h
        exact ⟨head, entries, gs, _, rfl, cuts_of_groups hgroups,
          ⟨⟨lists, hlists, rfl⟩, ⟨fromPrecondition, fromCondition, hprecondition, hcondition, rfl⟩,
            heffects⟩,
          ⟨⟨lists, hlists, rfl⟩, rfl, rfl⟩⟩
  · cases h

/-- An action is read from a name and groups. -/
theorem exists_of_ofForm {constants : Scope} {segment : Form} {a : Action}
    (h : ofForm constants segment = .ok a) :
    ∃ head entries gs scope, segment = .list (.atom head :: .atom a.name :: entries) ∧
      Cuts entries gs ∧ a.IsReadFrom constants a.name gs scope := by
  obtain ⟨head, entries, gs, scope, hsegment, hcuts, hread, -⟩ := exists_groups_of_ofForm h
  exact ⟨head, entries, gs, scope, hsegment, hcuts, hread⟩

/-- The conjuncts of the last value for a keyword are there: those of both keywords for conditions
among the preconditions, and those of effects as the effects. -/
theorem IsReadFrom.conjuncts_of_last {a : Action} {constants scope : Scope} {name : String}
    {front back : List Group} {g : Group}
    (h : a.IsReadFrom constants name (front ++ g :: back) scope)
    (hlast : ∀ later ∈ back, later.key ≠ g.key) :
    (g.key = ":precondition" ∨ g.key = ":condition" →
      ∃ fs, conjuncts scope g.value = .ok fs ∧ fs <:+: a.preconditions) ∧
    (g.key = ":effect" → conjuncts scope g.value = .ok a.effects) := by
  obtain ⟨fromPrecondition, fromCondition, hprecondition, hcondition, hpreconditions⟩ :=
    h.preconditions
  refine ⟨?_, ?_⟩
  · rw [hpreconditions]
    rintro (hkey | hkey)
    · rw [lastValue?_of_last hkey (hkey ▸ hlast)] at hprecondition
      exact ⟨fromPrecondition, hprecondition, (List.prefix_append _ _).isInfix⟩
    · rw [lastValue?_of_last hkey (hkey ▸ hlast)] at hcondition
      exact ⟨fromCondition, hcondition, (List.suffix_append _ _).isInfix⟩
  · intro hkey
    have heffects := h.effects
    rwa [lastValue?_of_last hkey (hkey ▸ hlast)] at heffects

end PlanDiagram.Action
