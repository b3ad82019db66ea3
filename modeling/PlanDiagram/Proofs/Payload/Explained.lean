import PlanDiagram.Proofs.Formula.OfValue
import PlanDiagram.Proofs.Value.Meets

/-!
# Payloads that are not foreseen

The readers of payloads check little in advance. Most values that they cannot use make an error that
is reported, but five flaws of a payload do not: a predicate or function without a name, an action
that is no object, a negation or a metric with an object where its operands are listed, and an
integer beyond the doubles. Main statement: whatever tree of values is read as a payload, an error
is reported, or the tree has the flaw that the error tells of.
-/

namespace PlanDiagram

open PlanDiagram.Payload (Error)

namespace Payload

/-- What can be wrong with a payload for an error that is not reported. -/
inductive Flaw (v : Value) : Error → Prop
  /-- A predicate or function has no name. -/
  | nameless {domain : Value} {name : String} {entries : List Value}
    {fields : List (String × Value)} (hmeets : v.Meets domain)
    (hname : name ∈ ["predicates", "functions"]) (hfield : domain.field name = .list entries)
    (hentry : .object fields ∈ entries) (hmissing : fields.lookup "name" = none) :
    Flaw v (.fault (.missingField "name"))
  /-- An action is no object. -/
  | action {domain action : Value} {actions : List Value} (hmeets : v.Meets domain)
    (hfield : domain.field? "actions" = some (.list actions)) (hentry : action ∈ actions)
    (hkind : action.kind ≠ .object) : Flaw v (.fault (.noFields action.kind))
  /-- A negation has an object with one field where its operand is listed. -/
  | negation {negation : Value} {name : String} {entry : String × Value}
    (hmeets : v.Meets negation)
    (htype : Text.lower (Text.trim (Formula.typeText negation)) = "not")
    (hname : name ∈ ["children", "items"]) (hfield : negation.field name = .object [entry]) :
    Flaw v (.fault (.missingField "0"))
  /-- A metric has an object where its argument is listed. -/
  | metric {problem : Value} {entry : String × Value} {rest : List (String × Value)}
    (hmeets : v.Meets problem)
    (hfield : ((problem.field "metrics").orElse (problem.field "metric")).field "arguments" =
      .object (entry :: rest)) : Flaw v (.fault (.missingField "0"))
  /-- An integer is beyond the doubles. -/
  | integer {n : Int} (hmeets : v.Meets (.int n)) (hhuge : (Float.ofInt n).isInf = true) :
    Flaw v (.fault .hugeInteger)

/-- An error is explained by a payload if it is reported or the payload has the flaw. -/
def Explained (v : Value) (e : Error) : Prop :=
  e.isReported = true ∨ Flaw v e

end Payload

variable {α : Type} {v w : Value}

namespace Payload

/-- A flaw of a value that is met is a flaw of the whole. -/
theorem Flaw.of_meets (hmeets : v.Meets w) {e : Error} (h : Flaw w e) : Flaw v e := by
  cases h with
  | nameless hdomain hname hfield hentry hmissing =>
    exact .nameless (hmeets.trans hdomain) hname hfield hentry hmissing
  | action hdomain hfield hentry hkind =>
    exact .action (hmeets.trans hdomain) hfield hentry hkind
  | negation hnegation htype hname hfield =>
    exact .negation (hmeets.trans hnegation) htype hname hfield
  | metric hproblem hfield => exact .metric (hmeets.trans hproblem) hfield
  | integer hinteger hhuge => exact .integer (hmeets.trans hinteger) hhuge

/-- What explains an error in a value that is met explains it in the whole. -/
theorem Explained.of_meets (hmeets : v.Meets w) {e : Error} (h : Explained w e) : Explained v e :=
  h.imp_right (Flaw.of_meets hmeets)

/-- A computation on a value that is met. -/
theorem failsOnly_of_meets {x : Except Error α} (hmeets : v.Meets w)
    (h : FailsOnly x (Explained w)) : FailsOnly x (Explained v) :=
  h.mono fun _ => .of_meets hmeets

/-- A faulty value in the course of reading a payload. -/
theorem failsOnly_lift {x : Except Value.Fault α}
    (h : FailsOnly x fun f => Explained v (.fault f)) :
    FailsOnly (liftM x : Except Error α) (Explained v) :=
  h.mapError

/-- To walk through a value that has no entries is reported. -/
theorem failsOnly_entries (v w : Value) : FailsOnly w.entries fun f => Explained v (.fault f) :=
  w.failsOnly_entries.mono fun _ => .inl

/-- A value that is no number is reported; an integer beyond the doubles is a flaw. -/
theorem failsOnly_toReal (hmeets : v.Meets w) :
    FailsOnly w.toReal fun f => Explained v (.fault f) := by
  intro f hf
  rcases w.failsOnly_toReal f hf with hreported | ⟨rfl, n, rfl, hhuge⟩
  · exact .inl hreported
  · exact .inr (.integer hmeets hhuge)

/-- A computation on the entries of a field. -/
theorem failsOnly_entries_bind {name : String} {f : List Value → Except Error α}
    (h : ∀ ws, (v.field name).entriesIfPresent = .ok ws → FailsOnly (f ws) (Explained v)) :
    FailsOnly ((liftM (v.field name).entriesIfPresent : Except Error (List Value)) >>= f)
      (Explained v) :=
  (failsOnly_lift ((Value.failsOnly_entriesIfPresent _).mono fun _ => .inl)).bind fun ws hws =>
    h ws (mapError_eq_ok_iff.mp hws)

end Payload

namespace Formula

open Payload

variable {below : Below}

theorem failsOnly_argumentOfText (v : Value) (s : String) :
    FailsOnly (argumentOfText s) (Explained v) := by
  unfold argumentOfText
  simp only
  split
  · refine FailsOnly.bind (failsOnly_lift fun f hf => ?_) fun x _ => .pure _
    rcases Value.failsOnly_toReal _ f hf with hreported | ⟨-, n, hn, -⟩
    · exact .inl hreported
    · cases hn
  · exact .ok _

/-- An object is read as an argument with the faults of its value and of its reading as a formula.
-/
theorem failsOnly_argumentOfObject {formula : Unit → Except Error Formula}
    (h : FailsOnly (formula ()) (Explained v)) :
    FailsOnly (argumentOfObject v formula) (Explained v) := by
  unfold argumentOfObject
  simp only
  split
  · exact h
  · split
    · rename_i hnumber
      have hfield : v.hasField "value" = true := (Bool.and_eq_true _ _ ▸ hnumber).2
      obtain ⟨w, hw⟩ := Option.isSome_iff_exists.mp hfield
      have hread : v.field "value" = w := by rw [Value.field, hw, Option.getD_some]
      rw [hread]
      exact (failsOnly_lift (failsOnly_toReal (Value.meets_of_field? hw))).bind fun x _ => .pure _
    · split
      · exact .ok _
      · split
        · exact h
        · exact .error (.inl rfl)

/-- The operand of a negation is counted in vain if it is an object with one field. -/
theorem failsOnly_onlyEntry (htype : Text.lower (Text.trim (typeText v)) = "not") {name : String}
    (hname : name ∈ ["children", "items"]) :
    FailsOnly ((v.field name).orElse (.list [])).onlyEntry fun f => Explained v (.fault f) := by
  rw [Value.orElse]
  split
  · cases hfield : v.field name with
    | list entries =>
      obtain _ | ⟨w, _ | ⟨w', rest⟩⟩ := entries <;> exact .ok _
    | object fields =>
      obtain _ | ⟨entry, _ | ⟨entry', rest⟩⟩ := fields
      · exact .ok _
      · exact .error (.inr (.negation (.refl v) htype hname hfield))
      · exact .ok _
    | text s => exact .ok _
    | _ => exact .error (.inl rfl)
  · exact .ok _

/-- The operand of a negation is the only one of several formulas. -/
theorem failsOnly_onlyFormula {fs : Except Error (List Formula)} (hfs : FailsOnly fs (Explained v))
    (entry : Option Value) :
    FailsOnly (do
      match entry with
      | none => throw .negationArity
      | some _ =>
        match ← fs with
        | [f] => return Formula.negation f
        | _ => throw .negationArity) (Explained v) := by
  cases entry with
  | none => exact .error (.inl rfl)
  | some w =>
    refine hfs.bind fun fs _ => ?_
    split
    · exact .pure _
    · exact .error (.inl rfl)

theorem failsOnly_negationOfObject (htype : Text.lower (Text.trim (typeText v)) = "not")
    (hchildren : FailsOnly (below.children ()) (Explained v))
    (hitems : FailsOnly (below.items ()) (Explained v))
    (hargument : ∀ argument, below.argument = some argument →
      FailsOnly (argument ()) (Explained v)) :
    FailsOnly (negationOfObject v below) (Explained v) := by
  unfold negationOfObject
  cases ha : below.argument with
  | some argument => exact (hargument argument ha).bind fun f _ => .pure _
  | none =>
    simp only
    cases (v.field "children").isPresent with
    | true =>
      exact (failsOnly_lift (failsOnly_onlyEntry htype (by decide))).bind fun entry _ =>
        failsOnly_onlyFormula hchildren entry
    | false =>
      exact (failsOnly_lift (failsOnly_onlyEntry htype (by decide))).bind fun entry _ =>
        failsOnly_onlyFormula hitems entry

theorem failsOnly_compositeOfObject (op : String) (arguments : List Formula)
    (hchildren : FailsOnly (below.children ()) (Explained v))
    (hitems : FailsOnly (below.items ()) (Explained v))
    (hargument : ∀ argument, below.argument = some argument →
      FailsOnly (argument ()) (Explained v)) :
    FailsOnly (compositeOfObject op arguments below) (Explained v) := by
  unfold compositeOfObject
  refine hchildren.bind fun children _ => hitems.bind fun items _ => ?_
  cases ha : below.argument with
  | some argument => exact (hargument argument ha).bind fun f _ => .pure _
  | none => exact .pure _

/-- An object is read as a formula with the faults of what is below it. -/
theorem failsOnly_formulaOfObject (arguments : List Formula)
    (hchildren : FailsOnly (below.children ()) (Explained v))
    (hitems : FailsOnly (below.items ()) (Explained v))
    (hargument : ∀ argument, below.argument = some argument →
      FailsOnly (argument ()) (Explained v)) :
    FailsOnly (formulaOfObject v arguments below) (Explained v) := by
  unfold formulaOfObject
  simp only
  split
  · exact .ok _
  split
  · exact .ok _
  split
  · refine (failsOnly_lift ?_).bind fun x _ => .pure _
    cases hfield : v.field? "value" with
    | none => exact .ok _
    | some w => exact failsOnly_toReal (Value.meets_of_field? hfield)
  split
  · rename_i hnot
    exact failsOnly_negationOfObject (beq_iff_eq.mp hnot) hchildren hitems hargument
  split
  · exact .ok _
  split
  · cases compare _ arguments with
    | ok f => exact .ok _
    | error misfit => exact .error (.inl rfl)
  split
  · exact .ok _
  · exact failsOnly_compositeOfObject _ _ hchildren hitems hargument

mutual

/-- A value is read as an argument with the flaws of what is met in it. -/
theorem failsOnly_argumentOfValue (v : Value) :
    FailsOnly (argumentOfValue v) (Explained v) := by
  match v with
  | .int n =>
    unfold argumentOfValue
    exact (failsOnly_lift (failsOnly_toReal (.refl (.int n)))).bind fun x _ => .pure _
  | .float x =>
    unfold argumentOfValue
    exact .ok _
  | .text s =>
    unfold argumentOfValue
    exact failsOnly_argumentOfText _ s
  | .object fields =>
    unfold argumentOfValue
    exact failsOnly_argumentOfObject (failsOnly_ofValue (.object fields))
  | .null | .bool _ | .list _ =>
    unfold argumentOfValue
    exact .error (.inl rfl)
termination_by (v.depth, 2)

/-- A value is read as a formula with the flaws of what is met in it. -/
theorem failsOnly_ofValue (v : Value) : FailsOnly (ofValue v) (Explained v) := by
  match v with
  | .object fields =>
    rw [ofValue_object]
    refine FailsOnly.bind (failsOnly_entries_bind fun ws hws => .mapM fun w hw => ?_)
      fun arguments _ => failsOnly_formulaOfObject _
        (failsOnly_entries_bind fun ws hws => .mapM fun w hw => ?_)
        (failsOnly_entries_bind fun ws hws => .mapM fun w hw => ?_) fun argument hargument => ?_
    · exact failsOnly_of_meets (Value.meets_of_field_entries hws hw) (failsOnly_argumentOfValue w)
    · exact failsOnly_of_meets (Value.meets_of_field_entries hws hw) (failsOnly_ofValue w)
    · exact failsOnly_of_meets (Value.meets_of_field_entries hws hw) (failsOnly_ofValue w)
    · obtain ⟨w, hw, rfl⟩ := Option.map_eq_some_iff.mp hargument
      exact failsOnly_of_meets (Value.meets_of_fieldBelow? hw) (failsOnly_ofValue w.1)
  | .null | .bool _ | .int _ | .float _ | .text _ | .list _ =>
    unfold ofValue
    exact .error (.inl rfl)
termination_by (v.depth, 1)
decreasing_by
  all_goals first
    | exact Prod.Lex.left _ _ (Value.depth_lt_of_field_entries hws hw)
    | exact Prod.Lex.left _ _ w.2

end

/-- Nothing, one object, or a sequence of objects in a field. -/
theorem failsOnly_listOfValue (name : String) (v : Value) :
    FailsOnly (listOfValue (v.field name)) (Explained v) := by
  unfold listOfValue
  split
  · exact .pure _
  · rename_i fields hfield
    have hmeets : v.Meets (.object fields) := Value.meets_of_field hfield nofun
    exact (failsOnly_of_meets hmeets (failsOnly_ofValue _)).bind fun f _ => .pure _
  · rename_i w hnull _
    have hmeets : v.Meets (v.field name) := Value.meets_of_field rfl hnull
    refine (failsOnly_lift (failsOnly_entries v _)).bind fun ws hws => .mapM fun w hw => ?_
    have hentry := Value.meets_of_entries (mapError_eq_ok_iff.mp hws) hw
    exact failsOnly_of_meets (hmeets.trans hentry) (failsOnly_ofValue w)

end Formula

open Payload

theorem Parameter.failsOnly_ofValue (v w : Value) :
    FailsOnly (Parameter.ofValue w) (Explained v) := by
  unfold Parameter.ofValue
  split
  · exact .ok _
  · cases w.field? "name" with
    | some other => exact .ok _
    | none => exact .error (.inl rfl)

/-- Parameters in a field. -/
theorem Parameter.failsOnly_listOfField (name : String) (v : Value) :
    FailsOnly (Parameter.listOfField name v) (Explained v) :=
  failsOnly_entries_bind fun _ _ => .mapM fun w _ => Parameter.failsOnly_ofValue v w

/-- The texts of a field. -/
theorem Value.failsOnly_textsOfField (name : String) (v : Value) :
    FailsOnly (v.textsOfField name) (Explained v) :=
  failsOnly_entries_bind fun _ _ => .pure _

theorem TypeDeclaration.failsOnly_ofValue (v w : Value) :
    FailsOnly (TypeDeclaration.ofValue w) (Explained v) := by
  unfold TypeDeclaration.ofValue
  split
  · split <;> exact .ok _
  · split
    · exact .ok _
    · exact .error (.inl rfl)

/-- A name is demanded of the entries of a field that lists predicates or functions. -/
theorem failsOnly_demandField {domain : Value} {name : String} {ws : List Value}
    (hname : name ∈ ["predicates", "functions"])
    (hws : (domain.field name).entriesIfPresent = .ok ws) {w : Value} (hw : w ∈ ws) :
    FailsOnly (w.demandField "name") fun f => Explained domain (.fault f) := by
  cases w with
  | object fields =>
    rw [Value.demandField]
    cases hmissing : fields.lookup "name" with
    | some other => exact .ok _
    | none =>
      have hfield := Value.eq_list_of_object_mem hws hw
      exact .error (.inr (.nameless (.refl domain) hname hfield hw hmissing))
  | _ => exact .error (.inl rfl)

theorem PredicateSchema.failsOnly_ofValue {domain w : Value} {ws : List Value}
    (hws : (domain.field "predicates").entriesIfPresent = .ok ws) (hw : w ∈ ws) :
    FailsOnly (PredicateSchema.ofValue w) (Explained domain) := by
  have hmeets := Value.meets_of_field_entries hws hw
  exact (failsOnly_lift (failsOnly_demandField (by decide) hws hw)).bind fun _ _ =>
    (failsOnly_of_meets hmeets (Parameter.failsOnly_listOfField _ w)).bind fun _ _ => .pure _

theorem FunctionSchema.failsOnly_ofValue {domain w : Value} {ws : List Value}
    (hws : (domain.field "functions").entriesIfPresent = .ok ws) (hw : w ∈ ws) :
    FailsOnly (FunctionSchema.ofValue w) (Explained domain) := by
  have hmeets := Value.meets_of_field_entries hws hw
  exact (failsOnly_lift (failsOnly_demandField (by decide) hws hw)).bind fun _ _ =>
    (failsOnly_of_meets hmeets (Parameter.failsOnly_listOfField _ w)).bind fun _ _ => .pure _

/-- An object is required where an action is listed. -/
theorem Action.failsOnly_ofValue {domain action : Value} {actions : List Value}
    (hfield : domain.field? "actions" = some (.list actions)) (hentry : action ∈ actions) :
    FailsOnly (Action.ofValue action) (Explained domain) := by
  have hmeets : domain.Meets action :=
    (Value.meets_of_field? hfield).trans (Value.meets_of_entries rfl hentry)
  unfold Action.ofValue
  refine (failsOnly_lift ?_).bind fun _ _ => failsOnly_of_meets hmeets ?_
  · cases action with
    | object fields => exact .ok _
    | _ => exact .error (.inr (.action (.refl domain) hfield hentry nofun))
  · split
    · exact .error (.inl rfl)
    · exact (Parameter.failsOnly_listOfField _ _).bind fun _ _ =>
        (Formula.failsOnly_listOfValue _ _).bind fun _ _ =>
        (Formula.failsOnly_listOfValue _ _).bind fun _ _ => .pure _

/-- A domain is read with the flaws of what is met in its description. -/
theorem Domain.failsOnly_ofValue (v : Value) : FailsOnly (Domain.ofValue v) (Explained v) := by
  unfold Domain.ofValue
  split
  · rename_i name actions hname hactions
    refine failsOnly_entries_bind fun types _ => ?_
    refine FailsOnly.bind (.mapM fun w _ => TypeDeclaration.failsOnly_ofValue v w) fun _ _ => ?_
    refine failsOnly_entries_bind fun predicates hpredicates => ?_
    refine FailsOnly.bind (.mapM fun w => PredicateSchema.failsOnly_ofValue hpredicates)
      fun _ _ => ?_
    refine failsOnly_entries_bind fun functions hfunctions => ?_
    refine FailsOnly.bind (.mapM fun w => FunctionSchema.failsOnly_ofValue hfunctions)
      fun _ _ => ?_
    refine (Value.failsOnly_textsOfField _ v).bind fun requirements _ => ?_
    exact FailsOnly.bind (.mapM fun w => Action.failsOnly_ofValue hactions) fun _ _ => .pure _
  · exact .error (.inl rfl)

/-- The argument of a metric is looked for in vain if the arguments are an object. -/
theorem failsOnly_firstEntry {problem : Value}
    (h : ((problem.field "metrics").orElse (problem.field "metric")).field "arguments" = v)
    (hpresent : v.isPresent = true) :
    FailsOnly v.firstEntry fun f => Explained problem (.fault f) := by
  cases v with
  | list entries =>
    cases entries with
    | nil => exact .error (.inl rfl)
    | cons w rest => exact .ok _
  | text s =>
    rw [Value.firstEntry]
    cases s.toList with
    | nil => exact .error (.inl rfl)
    | cons c rest => exact .ok _
  | object fields =>
    cases fields with
    | nil => cases hpresent
    | cons entry rest => exact .error (.inr (.metric (.refl problem) h))
  | _ => exact .error (.inl rfl)

/-- The metric of a problem is read with the flaws of what is met in it. -/
theorem Metric.failsOnly_ofValue {problem metric : Value}
    (hmetric : (problem.field "metrics").orElse (problem.field "metric") = metric)
    (hnull : metric ≠ .null) : FailsOnly (Metric.ofValue metric) (Explained problem) := by
  have hmeets : problem.Meets metric := by
    rw [Value.orElse] at hmetric
    split at hmetric <;> exact Value.meets_of_field hmetric hnull
  unfold Metric.ofValue
  simp only
  split
  · rename_i hpresent
    have harguments : metric.field "arguments" ≠ .null := Value.ne_null_of_isPresent hpresent
    refine (failsOnly_lift (failsOnly_firstEntry (by rw [hmetric]) hpresent)).bind
      fun first hfirst => ?_
    have hmet := (Value.meets_of_field rfl harguments).trans
      (Value.meets_of_firstEntry (mapError_eq_ok_iff.mp hfirst))
    exact (failsOnly_of_meets (hmeets.trans hmet) (Formula.failsOnly_argumentOfValue first)).bind
      fun _ _ => .pure _
  · exact .pure _

/-- A problem is completed with its goal, which may be absent. -/
theorem Problem.failsOnly_goal {complete : Option Formula → Except Error Problem}
    (h : ∀ goal, FailsOnly (complete goal) (Explained v)) :
    FailsOnly (if (v.field "goal").isPresent then do
        let goal ← pure (some (← Formula.ofValue (v.field "goal")))
        complete goal
      else do
        let goal ← pure none
        complete goal) (Explained v) := by
  split
  · rename_i hpresent
    have hmeets := Value.meets_of_field rfl (Value.ne_null_of_isPresent hpresent)
    exact (failsOnly_of_meets hmeets (Formula.failsOnly_ofValue _)).bind fun goal _ => h (some goal)
  · exact h none

/-- A problem is read with the flaws of what is met in its description. -/
theorem Problem.failsOnly_ofValue (v : Value) : FailsOnly (Problem.ofValue v) (Explained v) := by
  unfold Problem.ofValue
  split
  · rename_i name objects hname hobjects
    refine (Value.failsOnly_textsOfField _ v).bind fun requirements _ => ?_
    refine FailsOnly.bind (.mapM fun w _ => Parameter.failsOnly_ofValue v w) fun objects _ => ?_
    refine (Formula.failsOnly_listOfValue _ v).bind fun init _ => ?_
    refine Problem.failsOnly_goal fun goal => ?_
    cases hmetric : (v.field "metrics").orElse (v.field "metric") with
    | object fields =>
      exact (Metric.failsOnly_ofValue hmetric nofun).bind fun metric _ => .pure _
    | _ => exact .pure _
  · exact .error (.inl rfl)

/-- Whatever value is read as a domain or problem, an error is reported or the value has the flaw
that the error tells of. -/
theorem Source.failsOnly_structureOf (v : Value) :
    FailsOnly (Source.structureOf v) (Explained v) := by
  unfold Source.structureOf
  split
  · rename_i fields hproblem
    have hmeets := Value.meets_of_field hproblem nofun
    exact (failsOnly_of_meets hmeets (Problem.failsOnly_ofValue _)).map _
  · rename_i fields hdomain _
    have hmeets := Value.meets_of_field hdomain nofun
    exact (failsOnly_of_meets hmeets (Domain.failsOnly_ofValue _)).map _
  · split
    · exact (Problem.failsOnly_ofValue v).map _
    · exact (Domain.failsOnly_ofValue v).map _

end PlanDiagram
