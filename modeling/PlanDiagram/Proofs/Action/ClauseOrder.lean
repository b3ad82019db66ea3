import PlanDiagram.Proofs.Action.OfForm
import PlanDiagram.Proofs.Reordering

/-!
# The order of clauses in an action

An action is written as clauses: a keyword with its value, where the text of a description may go on
with more words. Each action that can be read is written in this way, and in only one. Main
statement: if no keyword that is understood is used twice, the clauses can be put in any order in
which those with other keywords stay in theirs, and the same action is read.
-/

namespace PlanDiagram.Action

/-- A clause of an action as it is written: a keyword, its value, and the words with which the text
of a description goes on. -/
@[ext]
structure Clause where
  keyword : String
  value : Form
  words : List String
  isKeyword_keyword : isKeyword keyword = true
  isKeyword_word : ∀ word ∈ words, isKeyword word = false
  description_of_words : words ≠ [] →
    Text.lower keyword = ":description" ∧ value.isList = false

namespace Clause

/-- The keyword in lower case. -/
def key (c : Clause) : String :=
  Text.lower c.keyword

/-- Tells whether a keyword that is not understood leads the clause. -/
def isOther (c : Clause) : Bool :=
  !knownKeywords.contains c.key

/-- The forms of a clause, one after the other. -/
def forms (c : Clause) : List Form :=
  .atom c.keyword :: c.value :: c.words.map .atom

/-- The segment of an action with a name and clauses. -/
def segment (head name : String) (clauses : List Clause) : Form :=
  .list (.atom head :: .atom name :: clauses.flatMap forms)

/-- Tells whether the clause is a description that is given as text. -/
def isText (c : Clause) : Bool :=
  c.key == ":description" && !c.value.isList

/-- The group that is cut out for a clause. -/
def group (c : Clause) : Group where
  keyword := c.keyword
  value :=
    if c.isText then
      .atom (unquote (" ".intercalate (c.value.render :: c.words)))
    else c.value

/-- The words of a clause are words of a description. -/
theorem isWord_of_mem (c : Clause) : ∀ form ∈ c.words.map .atom, isWord form = true := by
  intro form hform
  obtain ⟨word, hword, rfl⟩ := List.mem_map.mp hform
  rw [isWord, c.isKeyword_word word hword]
  rfl

/-- Clauses do not begin with a word. -/
theorem isWord_of_head? (clauses : List Clause) :
    ∀ form ∈ (clauses.flatMap forms).head?, isWord form = false := by
  intro form hform
  cases clauses with
  | nil => cases hform
  | cons c clauses =>
    cases hform
    rw [isWord, c.isKeyword_keyword]
    rfl

/-- Only a description that is given as text goes on with words. -/
theorem words_eq_nil {c : Clause} (h : c.isText = false) : c.words = [] := by
  by_contra hwords
  obtain ⟨hkey, hvalue⟩ := c.description_of_words hwords
  rw [isText, key, hkey, hvalue] at h
  cases h

/-- A clause in front of entries that do not begin with a word has its group in front of theirs. -/
theorem cuts_append (c : Clause) {entries : List Form} {gs : List Group}
    (hhead : ∀ form ∈ entries.head?, isWord form = false) (h : Cuts entries gs) :
    Cuts (c.forms ++ entries) (c.group :: gs) := by
  cases htext : c.isText with
  | true =>
    have hword := c.isWord_of_mem
    obtain ⟨hkey, hatom⟩ : Text.lower c.keyword = ":description" ∧ c.value.isList = false := by
      simpa [isText, key] using htext
    rw [forms, group, htext]
    cases hvalue : c.value with
    | list inner =>
      rw [hvalue] at hatom
      cases hatom
    | atom first =>
      have hcuts := @Cuts.description c.keyword first _ _ _ c.isKeyword_keyword hkey hword hhead h
      have hrender : (c.words.map Form.atom).map Form.render = c.words := by
        rw [List.map_map]
        exact List.map_id _
      rwa [hrender] at hcuts
  | false =>
    have hvalue : Text.lower c.keyword = ":description" → c.value.isList = true := by
      intro hkey
      simpa [isText, key, hkey] using htext
    rw [forms, group, htext, words_eq_nil htext]
    exact .value c.isKeyword_keyword hvalue h

/-- Clauses are cut into their groups. -/
theorem cuts (clauses : List Clause) : Cuts (clauses.flatMap forms) (clauses.map group) := by
  induction clauses with
  | nil => exact .nil
  | cons c clauses ih => exact c.cuts_append (isWord_of_head? clauses) ih

/-- The words of a description are atoms that are no keywords. -/
theorem exists_texts {forms : List Form} (h : ∀ form ∈ forms, isWord form = true) :
    ∃ texts : List String, forms = texts.map .atom ∧ ∀ text ∈ texts, isKeyword text = false := by
  induction forms with
  | nil => exact ⟨[], rfl, by simp⟩
  | cons form forms ih =>
    obtain ⟨hform, hforms⟩ := List.forall_mem_cons.mp h
    obtain ⟨texts, rfl, htexts⟩ := ih hforms
    cases form with
    | list inner => cases hform
    | atom text =>
      have htext : isKeyword text = false := by simpa [isWord] using hform
      exact ⟨text :: texts, rfl, List.forall_mem_cons.mpr ⟨htext, htexts⟩⟩

/-- Entries that are cut into groups are clauses. -/
theorem exists_of_cuts {entries : List Form} {gs : List Group} (h : Cuts entries gs) :
    ∃ clauses : List Clause, entries = clauses.flatMap forms := by
  induction h with
  | nil => exact ⟨[], rfl⟩
  | @description keyword first words rest gs hkeyword hdescription hwords _ _ ih =>
    obtain ⟨clauses, rfl⟩ := ih
    obtain ⟨texts, rfl, htexts⟩ := exists_texts hwords
    exact ⟨⟨keyword, .atom first, texts, hkeyword, htexts, fun _ => ⟨hdescription, rfl⟩⟩ :: clauses,
      rfl⟩
  | @value keyword value rest gs hkeyword _ _ ih =>
    obtain ⟨clauses, rfl⟩ := ih
    exact ⟨⟨keyword, value, [], hkeyword, by simp, by simp⟩ :: clauses, rfl⟩

/-- Forms are the forms of one sequence of clauses at most. -/
theorem flatMap_forms_injective {clauses clauses' : List Clause}
    (h : clauses.flatMap forms = clauses'.flatMap forms) : clauses = clauses' := by
  induction clauses generalizing clauses' with
  | nil =>
    cases clauses' with
    | nil => rfl
    | cons c' clauses' => cases h
  | cons c clauses ih =>
    cases clauses' with
    | nil => cases h
    | cons c' clauses' =>
      rw [List.flatMap_cons, List.flatMap_cons, forms, forms] at h
      simp only [List.cons_append, List.cons.injEq, Form.atom.injEq] at h
      obtain ⟨hkeyword, hvalue, hrest⟩ := h
      -- the words end where the next clause begins
      have htake := congrArg (List.takeWhile isWord) hrest
      rw [List.takeWhile_append_of_pos c.isWord_of_mem,
        List.takeWhile_append_of_pos c'.isWord_of_mem, takeWhile_of_head? (isWord_of_head? _),
        takeWhile_of_head? (isWord_of_head? _), List.append_nil, List.append_nil] at htake
      have hwords : c.words = c'.words :=
        List.map_injective_iff.mpr (fun _ _ => Form.atom.inj) htake
      rw [htake, List.append_cancel_left_eq] at hrest
      rw [Clause.ext hkeyword hvalue hwords, ih hrest]

end Clause

/-- The bucket of a group: groups with a keyword that is understood are told apart by it, and all
others are in one bucket. -/
def Group.bucket (g : Group) : Option String :=
  if knownKeywords.contains g.key then some g.key else none

/-- A group is in the bucket of a keyword that is understood exactly if it has this keyword. -/
theorem Group.bucket_eq_some_iff {g : Group} {key : String} (h : key ∈ knownKeywords) :
    g.bucket = some key ↔ g.key = key := by
  unfold bucket
  split
  · exact Option.some_inj
  · rename_i hunknown
    refine ⟨nofun, ?_⟩
    rintro rfl
    exact absurd (List.contains_iff_mem.mpr h) hunknown

/-- Only keywords that are understood have buckets. -/
theorem Group.mem_of_bucket {g : Group} {key : String} (h : g.bucket = some key) :
    key ∈ knownKeywords := by
  unfold bucket at h
  split at h
  · rename_i hknown
    cases h
    exact List.contains_iff_mem.mp hknown
  · cases h

/-- A group is in the bucket of others exactly if its keyword is not understood. -/
theorem Group.bucket_eq_none_iff {g : Group} :
    g.bucket = none ↔ knownKeywords.contains g.key = false := by
  unfold bucket
  split <;> simp_all

section Groups

variable {gs gs' : List Group}

/-- The groups with a keyword that is understood are in the same order. -/
theorem filter_key_eq (h : Reordered Group.bucket gs gs') (key : String)
    (hkey : key ∈ knownKeywords) : gs.filter (·.key == key) = gs'.filter (·.key == key) := by
  have hfilter (zs : List Group) :
      zs.filter (·.key == key) = zs.filter fun g => g.bucket = some key := by
    apply List.filter_congr
    intro g _
    rw [Bool.eq_iff_iff, beq_iff_eq, decide_eq_true_iff, Group.bucket_eq_some_iff hkey]
  rw [hfilter, hfilter, h]

/-- The last value for a keyword that is understood is the same. -/
theorem lastValue?_eq (h : Reordered Group.bucket gs gs') (key : String)
    (hkey : key ∈ knownKeywords) : lastValue? key gs = lastValue? key gs' := by
  have hpicked := h.filterMap_eq (g := fun g => if g.key == key then some g.value else none)
    (some key) fun g hg => if_neg (by simpa [Group.bucket_eq_some_iff hkey] using hg)
  exact congrArg List.getLast? hpicked

/-- The groups whose keyword is not understood are in the same order. -/
theorem filter_unknown_eq (h : Reordered Group.bucket gs gs') :
    (gs.filter fun g => !knownKeywords.contains g.key) =
      gs'.filter fun g => !knownKeywords.contains g.key := by
  have hfilter (zs : List Group) :
      (zs.filter fun g => !knownKeywords.contains g.key) = zs.filter fun g => g.bucket = none := by
    apply List.filter_congr
    intro g _
    rw [Bool.eq_iff_iff, Bool.not_eq_true', decide_eq_true_iff, Group.bucket_eq_none_iff]
  rw [hfilter, hfilter, h]

/-- An action is read alike from groups in another order that keeps the buckets. -/
theorem ofForm_of_reordered (constants : Scope) (head name : String) {entries entries' : List Form}
    (hcuts : Cuts entries gs) (hcuts' : Cuts entries' gs') (h : Reordered Group.bucket gs gs') :
    ofForm constants (.list (.atom head :: .atom name :: entries)) =
      ofForm constants (.list (.atom head :: .atom name :: entries')) := by
  unfold ofForm
  simp only [hcuts.groups, hcuts'.groups, filter_unknown_eq h,
    filter_key_eq h ":parameters" (by decide),
    lastValue?_eq h ":precondition" (by decide),
    lastValue?_eq h ":condition" (by decide),
    lastValue?_eq h ":effect" (by decide),
    lastValue?_eq h ":description" (by decide)]

end Groups

/-- Clauses in another order keep the buckets of their groups, if no keyword that is understood is
used twice and the other clauses stay in their order. -/
theorem Clause.reordered_group {clauses others : List Clause} (hperm : others.Perm clauses)
    (hothers : others.filter isOther = clauses.filter isOther)
    (hone : ∀ key ∈ knownKeywords, clauses.countP (·.key == key) ≤ 1) :
    Reordered Group.bucket (clauses.map group) (others.map group) := by
  apply Reordered.map
  have hother : isOther = fun c => decide (c.group.bucket = none) := by
    funext c
    rw [isOther, Bool.eq_iff_iff, Bool.not_eq_true', decide_eq_true_iff, Group.bucket_eq_none_iff]
    rfl
  apply Reordered.of_perm hperm.symm none
  · rw [← hother, hothers]
  · intro bucket hbucket
    obtain ⟨key, rfl⟩ := Option.ne_none_iff_exists'.mp hbucket
    rw [← List.countP_eq_length_filter]
    by_cases hkey : key ∈ knownKeywords
    · refine le_trans (List.countP_mono_left fun c _ hc => ?_) (hone key hkey)
      rwa [decide_eq_true_iff, Group.bucket_eq_some_iff hkey, ← beq_iff_eq] at hc
    · have hnone (c : Clause) : c.group.bucket ≠ some key := by
        intro hc
        exact hkey (Group.mem_of_bucket hc)
      simp [hnone]

/-- The order of clauses does not matter. An action that is read is written as clauses, in one way
only. If no keyword that is understood is used twice, the same action is read from any order of the
clauses in which those with other keywords stay in theirs. -/
theorem ofForm_clauseOrder {constants : Scope} {segment : Form} {a : Action}
    (h : ofForm constants segment = .ok a) :
    ∃ head clauses, segment = Clause.segment head a.name clauses ∧
      (∀ head' name' clauses', segment = Clause.segment head' name' clauses' →
        clauses' = clauses) ∧
      ((∀ key ∈ knownKeywords, clauses.countP (·.key == key) ≤ 1) →
        ∀ others : List Clause, others.Perm clauses →
          others.filter Clause.isOther = clauses.filter Clause.isOther →
          ofForm constants (Clause.segment head a.name others) = .ok a) := by
  obtain ⟨head, entries, gs, scope, rfl, hcuts, -⟩ := exists_of_ofForm h
  obtain ⟨clauses, rfl⟩ := Clause.exists_of_cuts hcuts
  refine ⟨head, clauses, rfl, ?_, ?_⟩
  · intro head' name' clauses' hsegment
    simp only [Clause.segment, Form.list.injEq, List.cons.injEq] at hsegment
    exact (Clause.flatMap_forms_injective hsegment.2.2).symm
  · intro hone others hperm hothers
    rw [← h]
    exact (ofForm_of_reordered constants head a.name (Clause.cuts clauses) (Clause.cuts others)
      (Clause.reordered_group hperm hothers hone)).symm

/-- The condition of an action, in front of the parameters it is about. -/
def earlyCondition : Clause where
  keyword := ":Precondition"
  value := .list [.atom "at", .atom "?t", .atom "depot"]
  words := []
  isKeyword_keyword := by decide
  isKeyword_word := by simp
  description_of_words := by simp

/-- The other clauses of the action, two of them with keywords that are not understood. -/
def laterClauses : List Clause := [
  ⟨":parameters", .list [.atom "?t", .atom "-", .atom "truck"], [], by decide, by simp, by simp⟩,
  ⟨":cost", .atom "3", [], by decide, by simp, by simp⟩,
  ⟨":description", .atom "\"drive", ["far", "away\""], by decide, by decide, fun _ => by decide⟩,
  ⟨":effect", .list [.atom "gone", .atom "?t"], [], by decide, by simp, by simp⟩,
  ⟨":note", .list [.atom "n"], [], by decide, by simp, by simp⟩]

/-- The action that is read from these clauses. -/
def leaveAction : Action where
  name := "leave"
  parameters := [{ name := "t", type := some "truck" }]
  preconditions :=
    [.predicate "at" [.parameter "t" (.text "truck"), .parameter "depot" (.text "place")]]
  effects := [.predicate "gone" [.parameter "t" (.text "truck")]]
  description := some "drive far away"
  extras := [{ label := ":cost", entries := ["3"] }, { label := ":note", entries := ["(n)"] }]
  preconditionText := some "(at ?t depot)"
  effectText := some "(gone ?t)"

/-- The condition is read under the type that its variable gets later. -/
theorem ofForm_earlyCondition :
    ofForm [("depot", .text "place")]
      (Clause.segment ":action" "leave" ([earlyCondition] ++ laterClauses)) = .ok leaveAction := by
  unfold ofForm Clause.segment
  simp only [(Clause.cuts _).groups]
  rfl

/-- The same action is read if the condition comes last. -/
theorem ofForm_lateCondition :
    ofForm [("depot", .text "place")]
      (Clause.segment ":action" "leave" (laterClauses ++ [earlyCondition])) = .ok leaveAction := by
  obtain ⟨head, clauses, hsegment, hunique, horder⟩ := ofForm_clauseOrder ofForm_earlyCondition
  obtain rfl := hunique _ _ _ rfl
  have hone : ∀ key ∈ knownKeywords,
      ([earlyCondition] ++ laterClauses).countP (·.key == key) ≤ 1 := by decide
  have hothers : (laterClauses ++ [earlyCondition]).filter Clause.isOther =
      ([earlyCondition] ++ laterClauses).filter Clause.isOther := rfl
  cases hsegment
  exact horder hone _ List.perm_append_comm hothers

end PlanDiagram.Action
