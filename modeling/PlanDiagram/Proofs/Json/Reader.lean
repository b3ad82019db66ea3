import Mathlib.Data.List.Nodup
import PlanDiagram.Json.Reader
import PlanDiagram.Proofs.Failure

/-!
# Names in objects that are read

Of several fields with one name the reader keeps only the last, in the place of the first. Main
statement: no two fields of an object that is read have the same name.
-/

namespace PlanDiagram

/-- The fields of an object; other values have none. -/
def Value.fields : Value → List (String × Value)
  | .object fields => fields
  | _ => []

/-- No two fields of a value have the same name. -/
def Value.HasDistinctNames (v : Value) : Prop :=
  (v.fields.map Prod.fst).Nodup

/-- Putting a value under a name repeats no name. -/
theorem Entries.nodup_put {β : Type} {entries : List (String × β)}
    (h : (entries.map Prod.fst).Nodup) (name : String) (value : β) :
    ((put name value entries).map Prod.fst).Nodup := by
  have hnames : (put name value entries).map Prod.fst =
      if name ∈ entries.map Prod.fst then entries.map Prod.fst
      else entries.map Prod.fst ++ [name] := by
    clear h
    induction entries with
    | nil => rfl
    | cons entry rest ih =>
      obtain ⟨other, old⟩ := entry
      by_cases heq : other = name
      · simp [put, heq]
      · simp only [put, beq_iff_eq, heq, if_false, List.map_cons, ih, List.mem_cons,
          Ne.symm heq, false_or]
        split <;> rfl
  rw [hnames]
  split
  · exact h
  · rename_i hname
    rw [← List.concat_eq_append]
    exact h.concat hname

namespace Json

/-- The fields that have been read of an open object have distinct names. -/
def Frame.HasDistinctNames : Frame → Prop
  | .list _ => True
  | .object fields _ => (fields.map Prod.fst).Nodup

/-- The names in the objects that are open are distinct, and so are those in the value at the
end. -/
def State.HasDistinctNames : State → Prop
  | .value outer | .firstEntry outer | .afterEntry _ outer | .firstName outer =>
    ∀ frame ∈ outer, frame.HasDistinctNames
  | .name fields outer | .colon fields _ outer | .afterField fields outer =>
    (fields.map Prod.fst).Nodup ∧ ∀ frame ∈ outer, frame.HasDistinctNames
  | .done v => v.HasDistinctNames

/-- A value that a token is has no fields. -/
def Token.HasNoFields (token : Token) : Prop :=
  ∀ v, token = .value (.ok v) → v.fields = []

variable {outer : List Frame} {state next : State} {token : Token} {index : Nat} {v : Value}

/-- Putting a value into an open list or object. -/
theorem hasDistinctNames_place (hv : v.HasDistinctNames)
    (houter : ∀ frame ∈ outer, frame.HasDistinctNames) : (place v outer).HasDistinctNames := by
  cases outer with
  | nil => exact hv
  | cons frame outer =>
    obtain ⟨hframe, hrest⟩ := List.forall_mem_cons.mp houter
    cases frame with
    | list entries => exact hrest
    | object fields name => exact ⟨Entries.nodup_put hframe name v, hrest⟩

/-- Reading a token where a value is awaited. -/
theorem hasDistinctNames_readValue (htoken : token.HasNoFields)
    (houter : ∀ frame ∈ outer, frame.HasDistinctNames)
    (h : readValue outer index token = .ok next) : next.HasDistinctNames := by
  cases token with
  | value result =>
    obtain ⟨v, rfl, rfl⟩ := map_eq_ok_iff.mp h
    have hv : v.HasDistinctNames := by
      rw [Value.HasDistinctNames, htoken v rfl]
      exact .nil
    exact hasDistinctNames_place hv houter
  | quoted result =>
    obtain ⟨s, -, rfl⟩ := map_eq_ok_iff.mp h
    exact hasDistinctNames_place .nil houter
  | openList =>
    cases h
    exact houter
  | openObject =>
    cases h
    exact houter
  | _ => cases h

/-- Reading a token where a name is awaited. -/
theorem hasDistinctNames_readName {fields : List (String × Value)}
    (hfields : (fields.map Prod.fst).Nodup) (houter : ∀ frame ∈ outer, frame.HasDistinctNames)
    (h : readName fields outer index token = .ok next) : next.HasDistinctNames := by
  cases token with
  | quoted result =>
    obtain ⟨name, -, rfl⟩ := map_eq_ok_iff.mp h
    exact ⟨hfields, houter⟩
  | _ => cases h

/-- Reading a token. -/
theorem hasDistinctNames_step (hstate : state.HasDistinctNames) (htoken : token.HasNoFields)
    (h : step state index token = .ok next) : next.HasDistinctNames := by
  have hlist (outer : List Frame) (houter : ∀ frame ∈ outer, frame.HasDistinctNames)
      (entries : List Value) : ∀ frame ∈ Frame.list entries :: outer, frame.HasDistinctNames :=
    List.forall_mem_cons.mpr ⟨trivial, houter⟩
  have hnil : (([] : List (String × Value)).map Prod.fst).Nodup := .nil
  unfold step at h
  split at h
  · exact hasDistinctNames_readValue htoken hstate h
  · cases h
    exact hasDistinctNames_place .nil hstate
  · exact hasDistinctNames_readValue htoken (hlist _ hstate []) h
  · cases h
    exact hasDistinctNames_place .nil hstate
  · cases h
    exact hlist _ hstate _
  · cases h
    exact hasDistinctNames_place .nil hstate
  · exact hasDistinctNames_readName hnil hstate h
  · exact hasDistinctNames_readName hstate.1 hstate.2 h
  · cases h
    exact List.forall_mem_cons.mpr hstate
  · cases h
    exact hasDistinctNames_place hstate.1 hstate.2
  · cases h
    exact hstate
  · cases h

/-- Reading tokens up to the end. -/
theorem hasDistinctNames_run {length : Nat} {tokens : List (Token × Nat)}
    (hstate : state.HasDistinctNames) (htokens : ∀ token ∈ tokens, token.1.HasNoFields)
    (h : run length state tokens = .ok v) : v.HasDistinctNames := by
  induction tokens generalizing state with
  | nil =>
    cases state with
    | done w =>
      cases h
      exact hstate
    | _ => cases h
  | cons token rest ih =>
    obtain ⟨htoken, hrest⟩ := List.forall_mem_cons.mp htokens
    obtain ⟨next, hnext, hrun⟩ := bind_eq_ok_iff.mp h
    exact ih (hasDistinctNames_step hstate htoken hnext) hrest hrun

/-- An integer has no fields. -/
theorem fields_of_integerOf {sign digits : List Char} (h : integerOf index sign digits = .ok v) :
    v.fields = [] := by
  unfold integerOf at h
  split at h <;> cases h
  rfl

/-- A number has no fields. -/
theorem fields_of_numberAt? {cs : List Char} {length : Nat}
    (h : numberAt? index cs = some (.ok v, length)) : v.fields = [] := by
  simp only [numberAt?] at h
  split at h
  · cases h
  · split at h
    · exact fields_of_integerOf (congrArg Prod.fst (Option.some.inj h))
    · obtain ⟨numeral, -, heq⟩ := Option.map_eq_some_iff.mp h
      cases heq
      rfl

/-- A word has no fields. -/
theorem fields_of_wordAt? {cs : List Char} {length : Nat}
    (h : wordAt? cs = some (.ok v, length)) : v.fields = [] := by
  obtain ⟨word, hword, heq⟩ := Option.map_eq_some_iff.mp h
  cases heq
  have hall : ∀ word ∈ words, word.2.fields = [] := by
    simp [words, Value.fields]
  exact hall word (List.mem_of_find?_eq_some hword)

/-- The token at the front of a text has no fields. -/
theorem hasNoFields_tokenAt (index : Nat) (cs : List Char) :
    (tokenAt index cs).1.HasNoFields := by
  intro v h
  unfold tokenAt at h
  split at h
  case h_8 =>
    split at h
    · rename_i hvalue
      cases h
      rcases Option.or_eq_some_iff.mp hvalue with hnumber | ⟨-, hword⟩
      · exact fields_of_numberAt? hnumber
      · exact fields_of_wordAt? hword
    · cases h
  case h_7 => split at h <;> cases h
  all_goals cases h

/-- The tokens of a text have no fields. -/
theorem hasNoFields_scan (skip index : Nat) (cs : List Char) :
    ∀ token ∈ scan skip index cs, token.1.HasNoFields := by
  induction cs generalizing skip index with
  | nil => simp [scan]
  | cons c rest ih =>
    cases skip with
    | succ skip => exact ih skip (index + 1)
    | zero =>
      simp only [scan]
      split
      · exact ih 0 (index + 1)
      · exact List.forall_mem_cons.mpr ⟨hasNoFields_tokenAt index (c :: rest), ih _ _⟩

/-- No two fields of an object that is read have the same name. -/
theorem hasDistinctNames_of_read {s : String} (h : read s = .ok v) : v.HasDistinctNames := by
  have hrun := mapError_eq_ok_iff.mp h
  split at hrun
  · cases hrun
  · exact hasDistinctNames_run (by simp [State.HasDistinctNames]) (hasNoFields_scan 0 0 _) hrun

end Json

end PlanDiagram
