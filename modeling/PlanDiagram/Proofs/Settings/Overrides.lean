import PlanDiagram.Proofs.Failure
import PlanDiagram.Proofs.Number.Order
import PlanDiagram.Settings.Load

/-!
# Settings under overrides

Settings are checked when they are made, and whenever overrides were applied. Overrides that fail
leave what was stored before the failure, and the check comes after the storing; so settings are not
always valid. Main statement: after any calls, failing ones among them, the settings are valid
exactly if the value stored last for each setting passes its check. In particular a call that
succeeds makes them valid again, whatever happened before. Valid sizes are positive and valid counts
at least one, unless they are no numbers: those pass every check.
-/

namespace PlanDiagram

/-- Tells whether an amount is no number. -/
def Amount.isNaN : Amount → Bool
  | .int _ => false
  | .real x => x.isNaN

/-- An amount is greater than an integer. -/
def Amount.Exceeds (a : Amount) (bound : Int) : Prop :=
  match a with
  | .int n => bound < n
  | .real x => Float.ofInt bound < x

/-- An amount is at least an integer. -/
def Amount.Reaches (a : Amount) (bound : Int) : Prop :=
  match a with
  | .int n => bound ≤ n
  | .real x => Float.ofInt bound ≤ x

/-- An amount that is a number and not at most zero is positive. -/
theorem Amount.exceeds_zero {a : Amount} (ha : a.isNaN = false) (h : a.atMost 0 = false) :
    a.Exceeds 0 := by
  cases a with
  | int n =>
    have : ¬ n ≤ 0 := of_decide_eq_false h
    change 0 < n
    omega
  | real x => exact (Number.lt_iff_not_le (by decide) ha).mpr (of_decide_eq_false h)

/-- An amount that is a number and not below one is at least one. -/
theorem Amount.reaches_one {a : Amount} (ha : a.isNaN = false) (h : a.isBelow 1 = false) :
    a.Reaches 1 := by
  cases a with
  | int n =>
    have : ¬ n < 1 := of_decide_eq_false h
    change 1 ≤ n
    omega
  | real x => exact (Number.le_iff_not_lt (by decide) ha).mpr (of_decide_eq_false h)

namespace Settings

/-- The check that a value for a setting has to pass. -/
def Key.accepts (key : Key) (a : Amount) : Bool :=
  if positiveKeys.contains key then !a.atMost 0
  else if key.isCount then !a.isBelow 1
  else true

/-- Settings that are made in one of the ways there are: with named values, from a description, or
from a file, whatever reads the YAML in it. -/
inductive IsMade : Settings → Prop
  | named {fields : List (String × Value)} {s : Settings} (h : ofNamed fields = .ok s) : IsMade s
  | described {v : Value} {s : Settings} (h : ofValue v = .ok s) : IsMade s
  | loaded {yaml : Yaml.Reader} {path : String} {file : Source.Opened} {s : Settings}
    (h : loadWith yaml path file = .ok s) : IsMade s

/-- What overrides store: the values of settings, up to the first field that fails. -/
def storedOf : List (String × Value) → List (Key × Amount)
  | [] => []
  | (name, v) :: rest =>
    if name == "colors" then
      match coloursOf v with
      | .ok _ => storedOf rest
      | .error _ => []
    else
      match Key.ofName? name with
      | some key =>
        match cast key v with
        | .ok a => (key, a) :: storedOf rest
        | .error _ => []
      | none => storedOf rest

/-- What one call stores. -/
def storedBy : Value → List (Key × Amount)
  | .object fields => storedOf fields
  | _ => []

/-- What several calls store, one after the other. -/
def storedByAll (calls : List Value) : List (Key × Amount) :=
  calls.flatMap storedBy

/-- The value that is stored last for a setting. -/
def lastFor (key : Key) (stored : List (Key × Amount)) : Option Amount :=
  stored.reverse.lookup key

/-- The settings after several calls, whatever the calls give. -/
def afterOverrides (s : Settings) (calls : List Value) : Settings :=
  calls.foldl (fun s v => (s.applyOverrides v).1) s

/-- Sizes and distances are positive and counts at least one, as far as they are numbers. A count
that is an integer gives the layout a column. -/
structure IsSound (s : Settings) : Prop where
  positive : ∀ key ∈ positiveKeys, (s.get key).isNaN = false → (s.get key).Exceeds 0
  counts : ∀ key, key.isCount = true → (s.get key).isNaN = false → (s.get key).Reaches 1
  columns : ∀ key n, key.isCount = true → s.get key = .int n → (s.get key).count ≠ 0

variable {s : Settings} {key : Key} {v : Value} {fields : List (String × Value)}

/-- Sizes and distances must not be at most zero. -/
theorem Key.accepts_of_mem {a : Amount} (h : key ∈ positiveKeys) :
    key.accepts a = !a.atMost 0 := by
  rw [accepts, if_pos (List.contains_iff_mem.mpr h)]

/-- Counts must not be below one. -/
theorem Key.accepts_of_isCount {a : Amount} (h : key.isCount = true) :
    key.accepts a = !a.isBelow 1 := by
  cases key <;> first | rfl | cases h

/-- Settings are valid if the value of each one passes its check. -/
theorem validate_eq_ok_iff (s : Settings) :
    s.validate = .ok () ↔ ∀ key : Key, key.accepts (s.get key) = true := by
  constructor
  · intro h key
    rw [validate] at h
    split at h
    · cases h
    · rename_i hpositive
      split at h
      · cases h
      · rename_i hcounts
        by_cases hmem : key ∈ positiveKeys
        · have := List.find?_eq_none.mp hpositive key hmem
          rw [Key.accepts_of_mem hmem, Bool.eq_false_iff.mpr this]
          rfl
        · simp only [Bool.or_eq_true, not_or, Bool.not_eq_true] at hcounts
          cases key with
          | actionColumns => exact (Bool.not_eq_true' _).mpr hcounts.1
          | problemMaxColumns => exact (Bool.not_eq_true' _).mpr hcounts.2
          | startX => rfl
          | startY => rfl
          | _ => exact absurd (by decide) hmem
  · intro h
    have hpositive : positiveKeys.find? (fun key => (s.get key).atMost 0) = none := by
      refine List.find?_eq_none.mpr fun key hkey hle => ?_
      have := h key
      rw [Key.accepts_of_mem hkey, hle] at this
      cases this
    have haction : s.actionColumns.isBelow 1 = false := (Bool.not_eq_true' _).mp (h .actionColumns)
    have hproblem : s.problemMaxColumns.isBelow 1 = false :=
      (Bool.not_eq_true' _).mp (h .problemMaxColumns)
    rw [validate, hpositive, haction, hproblem]
    rfl

/-- In valid settings all sizes, distances and counts are sound. -/
theorem isSound_of_validate (h : s.validate = .ok ()) : s.IsSound := by
  rw [validate_eq_ok_iff] at h
  have hcount (key : Key) (hkey : key.isCount = true) : (s.get key).isBelow 1 = false := by
    have := h key
    rw [Key.accepts_of_isCount hkey] at this
    exact (Bool.not_eq_true' _).mp this
  refine ⟨fun key hkey hnumber => ?_, fun key hkey hnumber => ?_, fun key n hkey hn => ?_⟩
  · have := h key
    rw [Key.accepts_of_mem hkey] at this
    exact Amount.exceeds_zero hnumber ((Bool.not_eq_true' _).mp this)
  · exact Amount.reaches_one hnumber (hcount key hkey)
  · have : (1 : Int) ≤ n := Amount.reaches_one (a := .int n) rfl (hn ▸ hcount key hkey)
    rw [hn, Amount.count]
    omega

/-- A description gives settings that were checked. -/
theorem validate_of_ofValue (h : ofValue v = .ok s) : s.validate = .ok () := by
  simp only [ofValue, bind_eq_ok_iff] at h
  obtain ⟨⟨⟩, -, colours, -, reached, -, ⟨⟩, hvalid, hs⟩ := h
  obtain rfl := pure_eq_ok_iff.mp hs
  exact hvalid

/-- Settings from a file come from a description. -/
theorem exists_ofValue_of_loadWith {yaml : Yaml.Reader} {path : String} {file : Source.Opened}
    (h : loadWith yaml path file = .ok s) : ∃ v, ofValue v = .ok s := by
  simp only [loadWith, bind_eq_ok_iff] at h
  obtain ⟨text, -, v, -, hsettings⟩ := h
  have hfile := mapError_eq_ok_iff.mp hsettings
  unfold ofFile at hfile
  simp only at hfile
  split at hfile
  · exact ⟨_, hfile⟩
  · cases hfile

/-- Settings are valid when they are made. -/
theorem IsMade.validate (h : s.IsMade) : s.validate = .ok () := by
  cases h with
  | named h =>
    unfold ofNamed at h
    split at h
    · cases h
    · simp only [bind_eq_ok_iff] at h
      obtain ⟨reached, -, ⟨⟩, hvalid, hs⟩ := h
      obtain rfl := pure_eq_ok_iff.mp hs
      exact hvalid
  | described h => exact validate_of_ofValue h
  | loaded h =>
    obtain ⟨v, hv⟩ := exists_ofValue_of_loadWith h
    exact validate_of_ofValue hv

/-- What is stored for a setting first counts if nothing is stored for it later. -/
theorem lastFor_append (key : Key) (first next : List (Key × Amount)) :
    lastFor key (first ++ next) = (lastFor key next).or (lastFor key first) := by
  rw [lastFor, List.reverse_append, List.lookup_append]
  rfl

/-- A value that is given and what is stored later. -/
theorem getD_lastFor_cons (key other : Key) (a : Amount) (stored : List (Key × Amount))
    (s : Settings) :
    (lastFor key ((other, a) :: stored)).getD (s.get key) =
      (lastFor key stored).getD ((s.set other a).get key) := by
  change (lastFor key ([(other, a)] ++ stored)).getD _ = _
  rw [lastFor_append]
  cases lastFor key stored with
  | some last => rfl
  | none =>
    by_cases h : key = other
    · subst h
      rw [get_set]
      simp [lastFor]
    · rw [get_set_of_ne s a h]
      simp [lastFor, List.lookup_cons, beq_eq_false_iff_ne.mpr h]

/-- Each setting holds what overrides store for it last. -/
theorem get_overrideFields (fields : List (String × Value)) (s : Settings) (key : Key) :
    (overrideFields s fields).1.get key = (lastFor key (storedOf fields)).getD (s.get key) := by
  induction fields generalizing s with
  | nil => rfl
  | cons field rest ih =>
    obtain ⟨name, v⟩ := field
    by_cases hname : (name == "colors") = true
    · simp only [overrideFields, override, storedOf, if_pos hname]
      cases coloursOf v with
      | error fault => rfl
      | ok colours => exact ih { s with palette := Entries.putAll s.palette colours }
    · simp only [overrideFields, override, storedOf, if_neg hname]
      cases Key.ofName? name with
      | none => exact ih s
      | some other =>
        cases hcast : cast other v with
        | error fault =>
          simp only [hcast]
          rfl
        | ok a =>
          simp only [hcast]
          rw [getD_lastFor_cons]
          exact ih (s.set other a)

/-- Each setting holds what a call stores for it last. -/
theorem get_applyOverrides (s : Settings) (v : Value) (key : Key) :
    (s.applyOverrides v).1.get key = (lastFor key (storedBy v)).getD (s.get key) := by
  cases hpresent : v.isPresent with
  | false =>
    simp only [applyOverrides, hpresent, Bool.false_eq_true, if_false]
    cases v with
    | object fields =>
      cases fields with
      | nil => rfl
      | cons field rest => cases hpresent
    | _ => rfl
  | true =>
    simp only [applyOverrides, hpresent, if_true]
    cases v with
    | object fields =>
      rw [storedBy, ← get_overrideFields]
      cases hreached : overrideFields s fields with
      | mk reached result => cases result <;> simp only [hreached]
    | _ => rfl

/-- Each setting holds what several calls store for it last. -/
theorem get_afterOverrides (calls : List Value) (s : Settings) (key : Key) :
    (s.afterOverrides calls).get key = (lastFor key (storedByAll calls)).getD (s.get key) := by
  induction calls generalizing s with
  | nil => rfl
  | cons v rest ih =>
    have hrest := ih (s.applyOverrides v).1
    rw [get_applyOverrides] at hrest
    change ((s.applyOverrides v).1.afterOverrides rest).get key = _
    rw [hrest]
    change _ = (lastFor key (storedBy v ++ storedByAll rest)).getD (s.get key)
    rw [lastFor_append]
    cases lastFor key (storedByAll rest) <;> rfl

/-- A call that succeeds leaves valid settings, whatever they were before. -/
theorem validate_of_applyOverrides {unknown : List (String × Value)}
    (h : (s.applyOverrides v).2 = .ok unknown) : (s.applyOverrides v).1.validate = .ok () := by
  cases hpresent : v.isPresent with
  | false =>
    simp only [applyOverrides, hpresent, Bool.false_eq_true, if_false] at h ⊢
    obtain ⟨⟨⟩, hvalid, -⟩ := map_eq_ok_iff.mp h
    exact hvalid
  | true =>
    simp only [applyOverrides, hpresent, if_true] at h ⊢
    cases v with
    | object fields =>
      cases hreached : overrideFields s fields with
      | mk reached result =>
        cases result with
        | error fault =>
          simp only [hreached] at h
          cases h
        | ok others =>
          simp only [hreached] at h ⊢
          obtain ⟨⟨⟩, hvalid, -⟩ := map_eq_ok_iff.mp h
          exact hvalid
    | _ => cases h

/-- Settings that are valid stay so as long as what is stored passes the checks. -/
theorem validate_afterOverrides_of_accepts (h : s.validate = .ok ()) {calls : List Value}
    (hcalls : ∀ v ∈ calls, ∀ stored ∈ storedBy v, stored.1.accepts stored.2 = true) :
    (s.afterOverrides calls).validate = .ok () := by
  rw [validate_eq_ok_iff] at h ⊢
  intro key
  rw [get_afterOverrides]
  cases hlast : lastFor key (storedByAll calls) with
  | none => exact h key
  | some a =>
    obtain ⟨later, earlier, hstored, -⟩ := List.lookup_eq_some_iff.mp hlast
    have hmem : (key, a) ∈ storedByAll calls := by
      rw [← List.mem_reverse, hstored]
      exact List.mem_append_right later List.mem_cons_self
    obtain ⟨v, hv, hstored⟩ := List.mem_flatMap.mp hmem
    exact hcalls v hv _ hstored

/-- After any calls, successful or not, settings are valid exactly if the value stored last for each
setting passes its check. A call that succeeds makes them valid, and later calls leave them so that
store only such values. In valid settings sizes and distances are positive and counts at least one,
as far as they are numbers. -/
theorem validate_afterOverrides (h : s.IsMade) (calls : List Value) :
    ((s.afterOverrides calls).validate = .ok () ↔
      ∀ key a, lastFor key (storedByAll calls) = some a → key.accepts a = true) ∧
    (∀ front v back unknown, calls = front ++ v :: back →
      ((s.afterOverrides front).applyOverrides v).2 = .ok unknown →
      (∀ w ∈ back, ∀ stored ∈ storedBy w, stored.1.accepts stored.2 = true) →
      (s.afterOverrides calls).validate = .ok ()) ∧
    ((s.afterOverrides calls).validate = .ok () → (s.afterOverrides calls).IsSound) := by
  refine ⟨?_, fun front v back unknown hcalls hsuccess hback => ?_, isSound_of_validate⟩
  · have hmade := (validate_eq_ok_iff s).mp h.validate
    rw [validate_eq_ok_iff]
    refine forall_congr' fun key => ?_
    rw [get_afterOverrides]
    cases lastFor key (storedByAll calls) with
    | none => exact iff_of_true (hmade key) fun a ha => by cases ha
    | some last =>
      constructor
      · rintro hlast a ha
        cases ha
        exact hlast
      · exact fun hlast => hlast last rfl
  · have hsplit : s.afterOverrides calls =
        ((s.afterOverrides front).applyOverrides v).1.afterOverrides back := by
      rw [hcalls, afterOverrides, List.foldl_append]
      rfl
    rw [hsplit]
    exact validate_afterOverrides_of_accepts (validate_of_applyOverrides hsuccess) hback

/-- Overrides that leave no column. -/
def noColumnOverride : Value :=
  .object [("action_columns", .int 0)]

/-- Overrides that succeed, with numerals. -/
def numeralOverride : Value :=
  .object [("action_columns", .text "2"), ("spacing_x", .text "150"), ("theme", .text "dark")]

/-- Overrides of which the first is stored and the second fails. -/
def wordOverride : Value :=
  .object [("node_height", .int 40), ("node_width", .text "wide")]

/-- A call that succeeds repairs what a failed one left, and one that fails after storing a proper
value does no harm. -/
theorem validate_afterOverrides_repaired :
    let calls := [noColumnOverride, numeralOverride, wordOverride]
    IsMade {} ∧ (afterOverrides {} [noColumnOverride]).validate.isOk = false ∧
      (applyOverrides (afterOverrides {} [noColumnOverride]) numeralOverride).2 =
        .ok [("theme", .text "dark")] ∧
      (afterOverrides {} calls).validate = .ok () ∧ (afterOverrides {} calls).IsSound := by
  intro calls
  have hmade : IsMade {} := .named (rfl : ofNamed [] = .ok {})
  obtain ⟨-, hrepaired, hsound⟩ := validate_afterOverrides hmade calls
  have hvalid : (afterOverrides {} calls).validate = .ok () := by
    refine hrepaired [noColumnOverride] numeralOverride [wordOverride] _ rfl rfl ?_
    intro w hw stored hstored
    obtain rfl := List.mem_singleton.mp hw
    obtain rfl : stored = (.nodeHeight, .real 40.0) := List.mem_singleton.mp hstored
    decide
  exact ⟨hmade, rfl, rfl, hvalid, hsound hvalid⟩

/-- Overrides that fail leave no column, and a distance that is no number is accepted although it is
not positive. -/
theorem overrides_leave_invalid :
    (IsMade {} ∧ (applyOverrides {} noColumnOverride).2 = .error .noColumns ∧
      (afterOverrides {} [noColumnOverride]).actionColumns = .int 0 ∧
      (afterOverrides {} [noColumnOverride]).validate ≠ .ok ()) ∧
    ∃ s, ofValue (.object [("spacing_y", .text "nan")]) = .ok s ∧ s.validate = .ok () ∧
      ¬ s.spacingY.Exceeds 0 := by
  have hmade : IsMade {} := .named (rfl : ofNamed [] = .ok {})
  refine ⟨⟨hmade, rfl, rfl, fun h => by cases h⟩, _, rfl, rfl, ?_⟩
  change ¬ Float.ofInt 0 < _
  decide

end Settings

end PlanDiagram
