import PlanDiagram.Proofs.Action.OfForm
import PlanDiagram.Proofs.Form.RoundTrip

/-!
# The texts of conditions and effects

An action has its conditions and effects twice: as formulas and as the text that these are read
from. The formulas of both keywords for conditions are conditions, but the text is only that of the
second one. Main statement: read again, the text of the effects gives the effects, and the text of
the conditions gives the conditions exactly if no formulas come from a value whose text is dropped.
-/

namespace PlanDiagram.Action

variable {scope constants : Scope} {gs : List Group}

/-- Tells whether formulas are what a text says. Where there is no text, there are no formulas. -/
def Says (scope : Scope) : Option String → List Formula → Prop
  | none, fs => fs = []
  | some text, fs => ∃ form, Form.readOne text = .ok form ∧ conjuncts scope form = .ok fs

/-- A text says one thing only. -/
theorem Says.unique {text : Option String} {fs fs' : List Formula} (h : Says scope text fs)
    (h' : Says scope text fs') : fs = fs' := by
  cases text with
  | none => exact h.trans h'.symm
  | some text =>
    obtain ⟨form, hform, hfs⟩ := h
    obtain ⟨form', hform', hfs'⟩ := h'
    rw [hform] at hform'
    cases hform'
    rw [hfs] at hfs'
    exact Except.ok.inj hfs'

/-- The text of a value says what is read from the value. -/
theorem says_render {value? : Option Form} {fs : List Formula}
    (hplain : ∀ value ∈ value?, value.isList = true ∧ value.IsPlain)
    (h : conjuncts? scope value? = .ok fs) : Says scope (value?.map Form.render) fs := by
  cases value? with
  | none => exact (Except.ok.inj h).symm
  | some value =>
    obtain ⟨hlist, hplain⟩ := hplain value rfl
    exact ⟨value, Form.readOne_render hlist hplain, h⟩

/-- If there is one list of parameters at most, it is bound in the scope. -/
theorem scope_eq_bind {a : Action} {name : String} (hread : a.IsReadFrom constants name gs scope)
    (hkeeps : a.Keeps name gs) (hone : gs.countP (·.key == ":parameters") ≤ 1) :
    scope = constants.bind a.parameters := by
  obtain ⟨lists, hlists, rfl⟩ := hread.parameters
  obtain ⟨lists', hlists', hparameters⟩ := hkeeps.parameters
  obtain rfl : lists = lists' := Except.ok.inj (hlists.symm.trans hlists')
  have hlength : lists.length ≤ 1 := by
    rw [List.countP_eq_length_filter] at hone
    rwa [← (mapM_eq_ok_iff.mp hlists).length_eq]
  rw [hparameters]
  match lists with
  | [] => rfl
  | [parameters] => rfl
  | _ :: _ :: _ => simp at hlength

/-- The value for conditions whose text is dropped: that of `:precondition`, if `:condition` is used
as well. -/
def droppedValue? (gs : List Group) : Option Form :=
  if (lastValue? ":condition" gs).isSome then lastValue? ":precondition" gs else none

/-- Where no text of conditions is kept, none is dropped either. -/
theorem Keeps.droppedValue?_eq_none {a : Action} {name : String} (hkeeps : a.Keeps name gs)
    (h : a.preconditionText = none) : droppedValue? gs = none := by
  rw [hkeeps.preconditionText, Option.map_eq_none_iff, Option.or_eq_none_iff] at h
  rw [droppedValue?, h.1]
  rfl

/-- The conditions are those from the value whose text is dropped, and then what the text says. -/
theorem IsReadFrom.conditions {a : Action} {name : String}
    (hread : a.IsReadFrom constants name gs scope) (hkeeps : a.Keeps name gs)
    (hplain : ∀ key ∈ [":precondition", ":condition"], ∀ value ∈ lastValue? key gs,
      value.isList = true ∧ value.IsPlain) :
    ∃ dropped shown, a.preconditions = dropped ++ shown ∧
      conjuncts? scope (droppedValue? gs) = .ok dropped ∧
      Says scope a.preconditionText shown := by
  obtain ⟨fromPrecondition, fromCondition, hprecondition, hcondition, hpreconditions⟩ :=
    hread.preconditions
  rw [hpreconditions, hkeeps.preconditionText]
  cases hvalue : lastValue? ":condition" gs with
  | none =>
    rw [hvalue] at hcondition
    obtain rfl := Except.ok.inj hcondition
    refine ⟨[], fromPrecondition, List.append_nil _, ?_, ?_⟩
    · rw [droppedValue?, hvalue]
      rfl
    · exact says_render (hplain ":precondition" (by simp)) hprecondition
  | some value =>
    refine ⟨fromPrecondition, fromCondition, rfl, ?_, ?_⟩
    · rw [droppedValue?, hvalue]
      exact hprecondition
    · rw [hvalue] at hcondition
      apply says_render _ hcondition
      rw [← hvalue]
      exact hplain ":condition" (by simp)

/-- The texts of an action agree with its formulas. Let an action be read from groups with one list
of parameters at most, where the values for conditions and effects are lists as they are read from a
text. Under the constants and the parameters the text of the effects says the effects, and the text
of the conditions says those conditions that are not from the value whose text is dropped; so it
says the conditions exactly if there are none from that value. Without a text there are no
conditions. -/
theorem texts_of_ofForm {segment : Form} {a : Action} (h : ofForm constants segment = .ok a) :
    ∃ head entries gs, segment = .list (.atom head :: .atom a.name :: entries) ∧
      Cuts entries gs ∧
      (gs.countP (·.key == ":parameters") ≤ 1 →
        (∀ g ∈ gs, g.key ∈ [":precondition", ":condition", ":effect"] →
          g.value.isList = true ∧ g.value.IsPlain) →
        Says (constants.bind a.parameters) a.effectText a.effects ∧
        ∃ dropped shown, a.preconditions = dropped ++ shown ∧
          conjuncts? (constants.bind a.parameters) (droppedValue? gs) = .ok dropped ∧
          Says (constants.bind a.parameters) a.preconditionText shown ∧
          (a.preconditionText = none → a.preconditions = []) ∧
          (Says (constants.bind a.parameters) a.preconditionText a.preconditions ↔
            dropped = [])) := by
  obtain ⟨head, entries, gs, scope, hsegment, hcuts, hread, hkeeps⟩ := exists_groups_of_ofForm h
  refine ⟨head, entries, gs, hsegment, hcuts, fun hone hplain => ?_⟩
  obtain rfl := scope_eq_bind hread hkeeps hone
  have hlast : ∀ key ∈ [":precondition", ":condition", ":effect"], ∀ value ∈ lastValue? key gs,
      value.isList = true ∧ value.IsPlain := by
    intro key hkey value hvalue
    obtain ⟨g, hg, rfl, rfl⟩ := exists_of_lastValue? hvalue
    exact hplain g hg hkey
  have hconditional : ∀ key ∈ [":precondition", ":condition"], ∀ value ∈ lastValue? key gs,
      value.isList = true ∧ value.IsPlain :=
    fun key hkey => hlast key (List.mem_append_left [":effect"] hkey)
  refine ⟨?_, ?_⟩
  · rw [hkeeps.effectText]
    exact says_render (hlast ":effect" (by simp)) hread.effects
  · obtain ⟨dropped, shown, hconditions, hdropped, hshown⟩ :=
      hread.conditions hkeeps hconditional
    refine ⟨dropped, shown, hconditions, hdropped, hshown, ?_, ?_⟩
    · intro hnone
      rw [hkeeps.droppedValue?_eq_none hnone] at hdropped
      rw [hnone] at hshown
      rw [hconditions, hshown, ← Except.ok.inj hdropped]
      rfl
    · rw [hconditions]
      refine ⟨fun hall => List.append_left_eq_self.mp (hall.unique hshown), ?_⟩
      rintro rfl
      exact hshown

/-- The entries of an action whose condition stands in front of the parameters it is about. -/
def loadEntries : List Form :=
  [.atom ":condition", .list [.atom "and", .list [.atom "at", .atom "?p", .atom "depot"],
      .list [.atom "free", .atom "?p"]],
    .atom ":parameters", .list [.atom "?p", .atom "-", .atom "package"],
    .atom ":effect", .list [.atom "loaded", .atom "?p"]]

/-- The action with these entries. -/
def loadForm : Form :=
  .list (.atom ":durative-action" :: .atom "load" :: loadEntries)

/-- The groups of the entries. -/
def loadGroups : List Group := [
  { keyword := ":condition",
    value := .list [.atom "and", .list [.atom "at", .atom "?p", .atom "depot"],
      .list [.atom "free", .atom "?p"]] },
  { keyword := ":parameters", value := .list [.atom "?p", .atom "-", .atom "package"] },
  { keyword := ":effect", value := .list [.atom "loaded", .atom "?p"] }]

/-- What is read from the action. -/
def loadAction : Action where
  name := "load"
  parameters := [{ name := "p", type := some "package" }]
  preconditions :=
    [.predicate "at" [.parameter "p" (.text "package"), .parameter "depot" (.text "place")],
      .predicate "free" [.parameter "p" (.text "package")]]
  effects := [.predicate "loaded" [.parameter "p" (.text "package")]]
  durative := true
  preconditionText := some "(and (at ?p depot) (free ?p))"
  effectText := some "(loaded ?p)"

/-- The entries are cut keyword by keyword. -/
theorem cuts_loadGroups : Cuts loadEntries loadGroups :=
  .value rfl (by decide) (.value rfl (by decide) (.value rfl (by decide) .nil))

/-- The text of one condition reads back, under the type that its variable gets later, and so does
the text of the effect. -/
theorem texts_of_ofForm_load :
    ofForm [("depot", .text "place")] loadForm = .ok loadAction ∧
      Says (Scope.bind [("depot", .text "place")] loadAction.parameters)
        (some "(and (at ?p depot) (free ?p))") loadAction.preconditions ∧
      Says (Scope.bind [("depot", .text "place")] loadAction.parameters)
        (some "(loaded ?p)") loadAction.effects := by
  have hread : ofForm [("depot", .text "place")] loadForm = .ok loadAction := by
    unfold ofForm loadForm
    simp only [cuts_loadGroups.groups]
    rfl
  obtain ⟨head, entries, gs, hsegment, hcuts, hagree⟩ := texts_of_ofForm hread
  cases hsegment
  obtain rfl := hcuts.unique cuts_loadGroups
  have hplain : ∀ g ∈ loadGroups, g.key ∈ [":precondition", ":condition", ":effect"] →
      g.value.isList = true ∧ g.value.IsPlain := by decide
  obtain ⟨heffects, dropped, shown, -, hdropped, -, -, hconditions⟩ := hagree (by decide) hplain
  exact ⟨hread, hconditions.mpr (Except.ok.inj hdropped).symm, heffects⟩

/-- The entries of an action with both keywords for conditions. -/
def bothEntries : List Form :=
  [.atom ":precondition", .list [.atom "p"], .atom ":condition", .list [.atom "q"]]

/-- The action with these entries. -/
def bothConditions : Form :=
  .list (.atom ":action" :: .atom "act" :: bothEntries)

/-- The groups of the entries. -/
def bothGroups : List Group := [
  { keyword := ":precondition", value := .list [.atom "p"] },
  { keyword := ":condition", value := .list [.atom "q"] }]

/-- What is read from the action. -/
def bothConditionsRead : Action where
  name := "act"
  preconditions := [.predicate "p" [], .predicate "q" []]
  preconditionText := some "(q)"

/-- The entries are cut keyword by keyword. -/
theorem cuts_bothGroups : Cuts bothEntries bothGroups :=
  .value rfl (by decide) (.value rfl (by decide) .nil)

/-- An action with both keywords has both conditions, but its text only says the second one. -/
theorem not_says_bothConditions :
    Form.readOne "(:action act :precondition (p) :condition (q))" = .ok bothConditions ∧
      ofForm [] bothConditions = .ok bothConditionsRead ∧
      Cuts bothEntries bothGroups ∧ bothGroups.countP (·.key == ":parameters") ≤ 1 ∧
      (∀ g ∈ bothGroups, g.value.isList = true ∧ g.value.IsPlain) ∧
      Says [] bothConditionsRead.preconditionText [.predicate "q" []] ∧
      ¬ Says [] bothConditionsRead.preconditionText bothConditionsRead.preconditions := by
  have hread : ofForm [] bothConditions = .ok bothConditionsRead := by
    unfold ofForm bothConditions
    simp only [cuts_bothGroups.groups]
    rfl
  have hsays : Says [] bothConditionsRead.preconditionText [.predicate "q" []] :=
    ⟨.list [.atom "q"], rfl, rfl⟩
  refine ⟨rfl, hread, cuts_bothGroups, by decide, by decide, hsays, fun hall => ?_⟩
  have hlength := congrArg List.length (hall.unique hsays)
  cases hlength

end PlanDiagram.Action
