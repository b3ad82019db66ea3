import PlanDiagram.Document
import PlanDiagram.Proofs.Action.OfForm
import PlanDiagram.Proofs.Problem.OfDefinition

/-!
# What a definition keeps of its text

A problem may have several `:init` and `:goal` segments, and an action may repeat its keywords. All
facts are kept. All goals are read, but only those of the last segment that has any make the goal of
the problem, and of the values for a keyword of an action only the last one counts. Main statements:
the facts of a problem are all that its segments list, its goal is made of all goals exactly if at
most one segment has goals, and the conjuncts of the last value for each keyword of an action are
all there.
-/

namespace PlanDiagram

/-- The segments of a definition with a keyword. -/
def Definition.segmentsUnder (d : Definition) (key : String) : List Form :=
  d.body.filter fun segment => Section.keyword? segment == some key

/-- The entries of all segments with a keyword, in the order of the text. -/
def Definition.entriesUnder (d : Definition) (key : String) : List Form :=
  (d.segmentsUnder key).flatMap Section.entriesOf

/-- Tells whether at most one segment with a keyword has entries. -/
def Definition.OneSegment (d : Definition) (key : String) : Prop :=
  ((d.segmentsUnder key).filter fun segment => !(Section.entriesOf segment).isEmpty).length ≤ 1

/-- Lists that are computed one by one are computed as one list. -/
theorem mapM_flatMap {ε α β γ : Type} {f : β → Except ε γ} {g : α → List β} {as : List α}
    {lists : List (List γ)} (h : List.Forall₂ (fun a cs => (g a).mapM f = .ok cs) as lists) :
    (as.flatMap g).mapM f = .ok lists.flatten := by
  induction h with
  | nil => rfl
  | cons ha _ ih =>
    rw [List.flatMap_cons, List.mapM_append, ha, ih]
    rfl

/-- Lists that are computed one by one are empty where they were empty. -/
theorem length_filter_nonempty {ε α β γ : Type} {f : β → Except ε γ} {g : α → List β}
    {as : List α} {lists : List (List γ)}
    (h : List.Forall₂ (fun a cs => (g a).mapM f = .ok cs) as lists) :
    (as.filter fun a => !(g a).isEmpty).length = (lists.filter fun cs => !cs.isEmpty).length := by
  induction h with
  | nil => rfl
  | @cons a cs as lists ha _ ih =>
    have hempty : (g a).isEmpty = cs.isEmpty := by
      have hlength := (mapM_eq_ok_iff.mp ha).length_eq
      cases hg : g a <;> cases cs <;> simp_all
    rw [List.filter_cons, List.filter_cons, hempty]
    split <;> simp [ih]

namespace Problem

variable {scope : Scope} {segment : Form}

/-- A segment of facts is read fact by fact. -/
theorem Part.ofForm_init (hkey : Section.keyword? segment = some ":init") :
    Part.ofForm scope segment =
      ((Section.entriesOf segment).mapM (Formula.ofForm scope)).map .init := by
  unfold Part.ofForm
  simp only [hkey, Formula.ofForms_eq_mapM]
  exact bind_pure_eq_map

/-- A segment of goals is read goal by goal. -/
theorem Part.ofForm_goal (hkey : Section.keyword? segment = some ":goal") :
    Part.ofForm scope segment =
      ((Section.entriesOf segment).mapM (Formula.ofForm scope)).map .goal := by
  unfold Part.ofForm
  simp only [hkey, Formula.ofForms_eq_mapM]
  exact bind_pure_eq_map

/-- The formulas that a part lists under a keyword. -/
def Part.listed? (key : String) : Part → Option (List Formula)
  | .init facts => if key = ":init" then some facts else none
  | .goal goals => if key = ":goal" then some goals else none
  | _ => none

/-- Formulas are listed by the parts of the segments with their keyword, which list what is read
from the entries. -/
theorem Part.listed?_of_ofForm {key : String} (hkey : key = ":init" ∨ key = ":goal") {part : Part}
    (h : Part.ofForm scope segment = .ok part) :
    if Section.keyword? segment = some key then
      ∃ fs, part.listed? key = some fs ∧
        (Section.entriesOf segment).mapM (Formula.ofForm scope) = .ok fs
    else part.listed? key = none := by
  split
  · rename_i hkeyword
    rcases hkey with rfl | rfl
    · rw [ofForm_init hkeyword, map_eq_ok_iff] at h
      obtain ⟨facts, hread, rfl⟩ := h
      exact ⟨facts, rfl, hread⟩
    · rw [ofForm_goal hkeyword, map_eq_ok_iff] at h
      obtain ⟨goals, hread, rfl⟩ := h
      exact ⟨goals, rfl, hread⟩
  · rename_i hkeyword
    have hof := Part.isOf_of_ofForm h
    cases part with
    | init facts =>
      apply if_neg
      rintro rfl
      exact hkeyword hof.2.1
    | goal goals =>
      apply if_neg
      rintro rfl
      exact hkeyword hof.2.1
    | _ => rfl

/-- The parts of a body list, segment by segment, what is read from the segments with the
keyword. -/
theorem forall₂_listed? {key : String} (hkey : key = ":init" ∨ key = ":goal") {body : List Form}
    {parts : List Part} (h : body.mapM (Part.ofForm scope) = .ok parts) :
    List.Forall₂ (fun segment fs =>
        (Section.entriesOf segment).mapM (Formula.ofForm scope) = .ok fs)
      (body.filter fun segment => Section.keyword? segment == some key)
      (parts.filterMap (Part.listed? key)) := by
  rw [mapM_eq_ok_iff] at h
  induction h with
  | nil => exact .nil
  | @cons segment part body parts hpart _ ih =>
    have hlisted := Part.listed?_of_ofForm hkey hpart
    by_cases hkeyword : Section.keyword? segment = some key
    · rw [if_pos hkeyword] at hlisted
      obtain ⟨fs, hfs, hread⟩ := hlisted
      rw [List.filter_cons_of_pos (by simpa using hkeyword), List.filterMap_cons_some hfs]
      exact .cons hread ih
    · rw [if_neg hkeyword] at hlisted
      rw [List.filter_cons_of_neg (by simpa using hkeyword), List.filterMap_cons_none hlisted]
      exact ih

/-- The facts of a problem are those that its parts list. -/
theorem init_ofParts (name : String) (parts : List Part) :
    (ofParts name parts).init = (parts.filterMap (Part.listed? ":init")).flatten := by
  unfold ofParts
  dsimp only
  induction parts with
  | nil => rfl
  | cons part parts ih =>
    rw [List.flatMap_cons, ih]
    cases part <;> rfl

/-- The goal of a problem is that of the last part that lists goals. -/
theorem goal_ofParts (name : String) (parts : List Part) :
    (ofParts name parts).goal =
      ((parts.filterMap (Part.listed? ":goal")).filterMap goalOf?).getLast? := by
  rw [List.filterMap_filterMap]
  unfold ofParts
  dsimp only
  congr 2
  funext part
  cases part <;> simp [Part.listed?]

/-- Several goals make their conjunction. -/
theorem goalOf?_of_two_le {goals : List Formula} (h : 2 ≤ goals.length) :
    goalOf? goals = some (.composite "and" goals []) := by
  match goals with
  | [] => simp at h
  | [_] => simp at h
  | _ :: _ :: _ => rfl

/-- Goals with others in front of them make another goal: a conjunction is not one of its own
conjuncts. -/
theorem goalOf?_append_ne {front goals : List Formula} (hfront : front ≠ []) (hgoals : goals ≠ []) :
    goalOf? goals ≠ goalOf? (front ++ goals) := by
  have hfront' := List.length_pos_iff.mpr hfront
  have hgoals' := List.length_pos_iff.mpr hgoals
  have hlength : 2 ≤ (front ++ goals).length := by
    rw [List.length_append]
    omega
  rw [goalOf?_of_two_le hlength]
  by_cases hsingle : 2 ≤ goals.length
  · rw [goalOf?_of_two_le hsingle]
    simpa using hfront
  · obtain ⟨goal, rfl⟩ := List.length_eq_one_iff.mp (by omega : goals.length = 1)
    intro heq
    have hsize := congrArg sizeOf (Option.some.inj heq)
    have hmem := List.sizeOf_lt_of_mem (List.mem_append_right front (List.mem_singleton_self goal))
    simp only [Formula.composite.sizeOf_spec] at hsize
    omega

/-- The last of several lists that have goals makes the same goal as all of them only if there are
no others. -/
theorem getLast?_goalOf?_of_ne_nil {lists : List (List Formula)}
    (h : ∀ goals ∈ lists, goals ≠ []) :
    (lists.filterMap goalOf?).getLast? = goalOf? lists.flatten ↔ lists.length ≤ 1 := by
  rcases List.eq_nil_or_concat lists with rfl | ⟨front, goals, rfl⟩
  · simp [goalOf?]
  · have hgoals : goals ≠ [] := h goals (by simp)
    obtain ⟨goal, hgoal⟩ : ∃ goal, goalOf? goals = some goal := by
      match goals with
      | [] => exact absurd rfl hgoals
      | [goal] => exact ⟨goal, rfl⟩
      | first :: second :: rest => exact ⟨_, rfl⟩
    have hlast : ((front ++ [goals]).filterMap goalOf?).getLast? = goalOf? goals := by
      rw [List.filterMap_append, List.filterMap_cons_some hgoal, hgoal]
      exact List.getLast?_concat
    rw [List.concat_eq_append, hlast, List.flatten_append, List.flatten_singleton,
      List.length_append]
    cases front with
    | nil => simp
    | cons others rest =>
      have hothers : others ≠ [] := h others (by simp)
      have hfront : (others :: rest).flatten ≠ [] := by simp [hothers]
      have hne := goalOf?_append_ne hfront hgoals
      exact iff_of_false hne (by simp)

/-- The last of several lists of goals makes the same goal as all of them exactly if at most one of
them has goals. -/
theorem getLast?_goalOf?_iff (lists : List (List Formula)) :
    (lists.filterMap goalOf?).getLast? = goalOf? lists.flatten ↔
      (lists.filter fun goals => !goals.isEmpty).length ≤ 1 := by
  have hgoals : (lists.filter fun goals => !goals.isEmpty).filterMap goalOf? =
      lists.filterMap goalOf? := by
    rw [List.filterMap_filter]
    congr 1
    funext goals
    cases goals <;> rfl
  rw [← hgoals, ← List.flatten_filter_not_isEmpty]
  apply getLast?_goalOf?_of_ne_nil
  intro goals hmem
  simpa using (List.mem_filter.mp hmem).2

/-- All facts and all goals of a problem are read under the scope of its objects. The facts are
those of the problem, and its goal is made of all goals exactly if at most one segment has any. -/
theorem contents_of_ofDefinition {d : Definition} {p : Problem} (h : ofDefinition d = .ok p) :
    (d.entriesUnder ":init").mapM (Formula.ofForm (Scope.ofParameters p.objects)) = .ok p.init ∧
      ∃ goals,
        (d.entriesUnder ":goal").mapM (Formula.ofForm (Scope.ofParameters p.objects)) = .ok goals ∧
          (p.goal = goalOf? goals ↔ d.OneSegment ":goal") := by
  obtain ⟨declared, parts, hdeclared, hparts, rfl⟩ := ofDefinition_eq_ok_iff.mp h
  have hof := (mapM_eq_ok_iff.mp hparts).imp fun _ _ => Part.isOf_of_ofForm
  rw [objects_ofParts hof hdeclared, init_ofParts, goal_ofParts]
  have hfacts := forall₂_listed? (.inl rfl) hparts
  have hgoals := forall₂_listed? (.inr rfl) hparts
  refine ⟨mapM_flatMap hfacts, _, mapM_flatMap hgoals, ?_⟩
  rw [getLast?_goalOf?_iff, ← length_filter_nonempty hgoals]
  rfl

end Problem

/-- A definition keeps what its text says, as far as nothing is repeated. The facts of a problem are
those of all `:init` segments, and its goal is made of the goals of all `:goal` segments exactly if
at most one of them has any. The conjuncts of the last value for a keyword of an action are all
there: those of both keywords for conditions among the preconditions, and those of `:effect` as the
effects. -/
theorem contents_kept (d : Definition) (p : Problem) (constants : Scope) (segment : Form)
    (a : Action) :
    (Problem.ofDefinition d = .ok p →
      (d.entriesUnder ":init").mapM (Formula.ofForm (Scope.ofParameters p.objects)) = .ok p.init ∧
        ∃ goals,
          (d.entriesUnder ":goal").mapM (Formula.ofForm (Scope.ofParameters p.objects)) =
              .ok goals ∧
            (p.goal = Problem.goalOf? goals ↔ d.OneSegment ":goal")) ∧
    (Action.ofForm constants segment = .ok a →
      ∃ head entries gs scope, segment = .list (.atom head :: .atom a.name :: entries) ∧
        Action.Cuts entries gs ∧ a.IsReadFrom constants a.name gs scope ∧
        ∀ front g back, gs = front ++ g :: back → (∀ later ∈ back, later.key ≠ g.key) →
          (g.key = ":precondition" ∨ g.key = ":condition" →
            ∃ fs, Action.conjuncts scope g.value = .ok fs ∧ fs <:+: a.preconditions) ∧
          (g.key = ":effect" → Action.conjuncts scope g.value = .ok a.effects)) := by
  refine ⟨fun h => Problem.contents_of_ofDefinition h, fun h => ?_⟩
  obtain ⟨head, entries, gs, scope, hsegment, hcuts, hread⟩ := Action.exists_of_ofForm h
  refine ⟨head, entries, gs, scope, hsegment, hcuts, hread, ?_⟩
  rintro front g back rfl hlast
  exact hread.conjuncts_of_last hlast

/-- The definition of a problem with the given segments after its header. -/
def problemOf (segments : List Form) : Definition where
  kind := .problem
  form := .list (.atom "define" :: .list [.atom "problem", .atom "p"] :: segments)
  segments := .list [.atom "problem", .atom "p"] :: segments
  name := some "p"
  headerIndex := some 0

/-- A problem with facts in two segments, and with goals in one of two. -/
def splitProblem : Definition :=
  problemOf [.list [.atom ":init", .list [.atom "a"]],
    .list [.atom ":goal", .list [.atom "b"], .list [.atom "c"]],
    .list [.atom ":INIT", .list [.atom "d"]], .list [.atom ":goal"]]

/-- What is read from it. -/
def splitProblemRead : Problem where
  name := "p"
  init := [.predicate "a" [], .predicate "d" []]
  goal := some (.composite "and" [.predicate "b" [], .predicate "c" []] [])

/-- An action with both keywords for conditions. -/
def conditionalAction : Form :=
  .list [.atom ":action", .atom "act",
    .atom ":precondition", .list [.atom "and", .list [.atom "p"], .list [.atom "q"]],
    .atom ":condition", .list [.atom "r"], .atom ":Effect", .list [.atom "s"]]

/-- The groups of its entries. -/
def conditionalGroups : List Action.Group := [
  { keyword := ":precondition",
    value := .list [.atom "and", .list [.atom "p"], .list [.atom "q"]] },
  { keyword := ":condition", value := .list [.atom "r"] },
  { keyword := ":Effect", value := .list [.atom "s"] }]

/-- What is read from it. -/
def conditionalActionRead : Action where
  name := "act"
  preconditions := [.predicate "p" [], .predicate "q" [], .predicate "r" []]
  effects := [.predicate "s" []]
  preconditionText := some "(r)"
  effectText := some "(s)"

/-- The entries of the action are cut keyword by keyword. -/
theorem cuts_conditionalGroups : Action.Cuts
    [.atom ":precondition", .list [.atom "and", .list [.atom "p"], .list [.atom "q"]],
      .atom ":condition", .list [.atom "r"], .atom ":Effect", .list [.atom "s"]]
    conditionalGroups :=
  .value rfl (by decide) (.value rfl (by decide) (.value rfl (by decide) .nil))

/-- The action is read. -/
theorem ofForm_conditionalAction :
    Action.ofForm [] conditionalAction = .ok conditionalActionRead := by
  unfold Action.ofForm conditionalAction
  simp only [cuts_conditionalGroups.groups]
  rfl

/-- The facts of both segments are facts of the problem and its goal is made of the goals of the one
segment that has any, and both conjuncts under the first keyword of the action are conditions. -/
theorem contents_kept_sample :
    Problem.ofDefinition splitProblem = .ok splitProblemRead ∧
      (splitProblem.entriesUnder ":init").mapM (Formula.ofForm []) = .ok splitProblemRead.init ∧
      (∃ goals, (splitProblem.entriesUnder ":goal").mapM (Formula.ofForm []) = .ok goals ∧
        splitProblemRead.goal = Problem.goalOf? goals) ∧
      Action.ofForm [] conditionalAction = .ok conditionalActionRead ∧
      ∃ scope, conditionalActionRead.IsReadFrom [] "act" conditionalGroups scope ∧
        ∃ fs, Action.conjuncts scope (.list [.atom "and", .list [.atom "p"], .list [.atom "q"]]) =
            .ok fs ∧ fs <:+: conditionalActionRead.preconditions := by
  have hproblem : Problem.ofDefinition splitProblem = .ok splitProblemRead := rfl
  obtain ⟨hofProblem, hofAction⟩ :=
    contents_kept splitProblem splitProblemRead [] conditionalAction conditionalActionRead
  obtain ⟨hfacts, goals, hgoals, hgoal⟩ := hofProblem hproblem
  have hone : splitProblem.OneSegment ":goal" := by
    unfold Definition.OneSegment
    decide
  obtain ⟨head, entries, gs, scope, hform, hcuts, hread, hlast⟩ :=
    hofAction ofForm_conditionalAction
  cases hform
  obtain rfl := hcuts.unique cuts_conditionalGroups
  have hconditions := (hlast [] _ _ rfl (by decide)).1 (.inl rfl)
  exact ⟨hproblem, hfacts, ⟨goals, hgoals, hgoal.mpr hone⟩, ofForm_conditionalAction, scope, hread,
    hconditions⟩

/-- A problem with two segments of goals. -/
def repeatedGoal : Definition :=
  problemOf [.list [.atom ":goal", .list [.atom "a"]], .list [.atom ":goal", .list [.atom "b"]]]

/-- What is read from it. -/
def repeatedGoalRead : Problem where
  name := "p"
  goal := some (.predicate "b" [])

/-- An action with two groups of conditions under one keyword. -/
def repeatedCondition : Form :=
  .list [.atom ":action", .atom "act", .atom ":precondition", .list [.atom "p"],
    .atom ":precondition", .list [.atom "q"]]

/-- Its entries are cut keyword by keyword. -/
theorem cuts_repeatedCondition : Action.Cuts
    [.atom ":precondition", .list [.atom "p"], .atom ":precondition", .list [.atom "q"]]
    [{ keyword := ":precondition", value := .list [.atom "p"] },
      { keyword := ":precondition", value := .list [.atom "q"] }] :=
  .value rfl (by decide) (.value rfl (by decide) .nil)

/-- What is repeated is dropped. Two goals are read from the text, and only the second one is the
goal of the problem; of two conditions under one keyword only the second one is a condition of the
action. -/
theorem contents_dropped_repeated :
    (Document.definitions "(define (problem p) (:goal (a)) (:goal (b)))" = .ok [repeatedGoal] ∧
      Problem.ofDefinition repeatedGoal = .ok repeatedGoalRead ∧
      (repeatedGoal.entriesUnder ":goal").mapM (Formula.ofForm []) =
        .ok [.predicate "a" [], .predicate "b" []] ∧
      repeatedGoalRead.goal ≠ Problem.goalOf? [.predicate "a" [], .predicate "b" []]) ∧
    ∃ a, Action.ofForm [] repeatedCondition = .ok a ∧
      Action.conjuncts [] (.list [.atom "p"]) = .ok [.predicate "p" []] ∧
      .predicate "p" [] ∉ a.preconditions := by
  have hgoals := @Problem.goalOf?_append_ne [.predicate "a" []] [.predicate "b" []]
    (List.cons_ne_nil _ []) (List.cons_ne_nil _ [])
  refine ⟨⟨rfl, rfl, rfl, hgoals⟩, ?_⟩
  unfold Action.ofForm repeatedCondition
  simp only [cuts_repeatedCondition.groups]
  exact ⟨_, rfl, rfl, by simp⟩

end PlanDiagram
