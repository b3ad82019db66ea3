import PlanDiagram.Proofs.Value.Meets

/-!
# Settings that are not foreseen

A file of settings may hold any value. What is wrong with it is reported in most cases, but not that
the text is no YAML, that the settings or the colours are no object, that a count is infinite, or
that an integer given for a size is beyond the doubles. Main statement: whatever reads the YAML and
whatever value a file holds, an error is reported, or the file has the flaw that the error tells of.
-/

namespace PlanDiagram.Settings

/-- What can be wrong with a description of settings for an error that is not reported. -/
inductive DescriptionFlaw (d : Value) : Error → Prop
  /-- The description is no object. -/
  | shape (hpresent : d.isPresent = true) (hkind : d.kind ≠ .object) :
    DescriptionFlaw d (.fault (.noFields d.kind))
  /-- The colours are no object. -/
  | colours (hpresent : (d.field "colors").isPresent = true)
    (hkind : (d.field "colors").kind ≠ .object) :
    DescriptionFlaw d (.fault (.noFields (d.field "colors").kind))
  /-- A count is infinite. -/
  | infinite {key : Key} {x : Float} (hcount : key.isCount = true)
    (hfield : d.field? key.name = some (.float x))
    (hinfinite : Number.truncate x = .error .infinite) :
    DescriptionFlaw d (.fault .infiniteInteger)
  /-- A size or distance is an integer beyond the doubles. -/
  | integer {key : Key} {n : Int} (hreal : key.isCount = false)
    (hfield : d.field? key.name = some (.int n)) (hhuge : (Float.ofInt n).isInf = true) :
    DescriptionFlaw d (.fault .hugeInteger)

/-- The reader of YAML gives this for the text in a file. -/
def Reads (yaml : Yaml.Reader) (file : Source.Opened) (result : Except Yaml.Failure Value) : Prop :=
  ∃ text, file = .ok text ∧ yaml (String.ofList (Source.unifyLineEnds text.toList)) = result

/-- What can be wrong with a file of settings for an error that is not reported. -/
inductive Flaw (yaml : Yaml.Reader) (file : Source.Opened) : LoadError → Prop
  /-- The text in the file is no YAML. -/
  | yaml (hread : Reads yaml file (.error .malformed)) : Flaw yaml file (.yaml .malformed)
  /-- The description in the file has a flaw. -/
  | description {fields : List (String × Value)} {e : Error}
    (hread : Reads yaml file (.ok (.object fields)))
    (hflaw : DescriptionFlaw ((fields.lookup "layout").getD (.object fields)) e) :
    Flaw yaml file (.settings e)

/-- An error is explained by a description if it is reported or the description has the flaw. -/
def DescriptionExplained (d : Value) (e : Error) : Prop :=
  (LoadError.settings e).isReported = true ∨ DescriptionFlaw d e

/-- An error is explained by a file if it is reported, or the file has the flaw, or what the file
holds is no value. -/
def Explained (yaml : Yaml.Reader) (file : Source.Opened) (e : LoadError) : Prop :=
  e.isReported = true ∨ Flaw yaml file e ∨ Reads yaml file (.error .unsupported)

variable {d v : Value}

/-- A value for a count can be infinite, one for a size an integer beyond the doubles. -/
theorem failsOnly_cast {key : Key} (hfield : d.field? key.name = some v) :
    FailsOnly (cast key v) fun f => DescriptionExplained d (.fault f) := by
  unfold cast
  split
  · rename_i hcount
    refine FailsOnly.map (fun f hf => ?_) _
    rcases v.failsOnly_toInteger f hf with hreported | ⟨rfl, x, rfl, hinfinite⟩
    · exact .inl hreported
    · exact .inr (.infinite hcount hfield hinfinite)
  · rename_i hreal
    refine FailsOnly.map (fun f hf => ?_) _
    rcases v.failsOnly_toReal f hf with hreported | ⟨rfl, n, rfl, hhuge⟩
    · exact .inl hreported
    · exact .inr (.integer (Bool.eq_false_iff.mpr hreal) hfield hhuge)

theorem failsOnly_castAll (d : Value) (keys : List Key) (s : Settings) :
    FailsOnly (castAll s d keys) fun f => DescriptionExplained d (.fault f) := by
  induction keys generalizing s with
  | nil => exact .ok _
  | cons key rest ih =>
    rw [castAll]
    cases hfield : d.field? key.name with
    | none => exact ih s
    | some v => exact (failsOnly_cast hfield).bind fun a _ => ih _

theorem failsOnly_coloursOf (d : Value) :
    FailsOnly (coloursOf (d.field "colors")) fun f => DescriptionExplained d (.fault f) := by
  unfold coloursOf
  split
  · rename_i hpresent
    split
    · exact .ok _
    · rename_i v hobject
      refine .error (.inr (.colours hpresent fun hkind => ?_))
      cases hcolours : d.field "colors" with
      | object fields => exact hobject fields hcolours
      | _ =>
        rw [hcolours] at hkind
        cases hkind
  · exact .ok _

/-- What a check of settings finds is reported. -/
theorem failsOnly_validate (d : Value) (s : Settings) :
    FailsOnly s.validate (DescriptionExplained d) := by
  unfold validate
  split
  · exact .error (.inl rfl)
  · split
    · exact .error (.inl rfl)
    · exact .ok _

/-- A faulty value in the course of reading a description. -/
theorem failsOnly_lift {α : Type} {x : Except Value.Fault α}
    (h : FailsOnly x fun f => DescriptionExplained d (.fault f)) :
    FailsOnly (liftM x : Except Error α) (DescriptionExplained d) :=
  h.mapError

/-- A description is read with the errors that it explains. -/
theorem failsOnly_ofValue (d : Value) : FailsOnly (ofValue d) (DescriptionExplained d) := by
  unfold ofValue
  simp only
  split
  · rename_i hpresent
    refine FailsOnly.bind (failsOnly_lift ?_) fun _ _ => ?_
    · cases d with
      | object fields => exact .ok _
      | _ => exact .error (.inr (.shape hpresent nofun))
    refine (failsOnly_lift (failsOnly_coloursOf d)).bind fun colours _ => ?_
    refine (failsOnly_lift (failsOnly_castAll d _ _)).bind fun s _ => ?_
    exact (failsOnly_validate d s).bind fun _ _ => .pure _
  · intro e he
    cases he

/-- A value from a file is made into settings with the errors that explain it. -/
theorem failsOnly_ofFile {yaml : Yaml.Reader} {file : Source.Opened} (path : String)
    (hread : Reads yaml file (.ok v)) :
    FailsOnly (ofFile path v) fun e => Explained yaml file (.settings e) := by
  unfold ofFile
  by_cases hpresent : v.isPresent = true
  · simp only [if_pos hpresent]
    split
    · refine (failsOnly_ofValue _).mono fun e => Or.imp_right fun hflaw => ?_
      exact .inl (.description hread hflaw)
    · exact .error (.inl rfl)
  · simp only [if_neg hpresent]
    intro e he
    cases he

/-- Whatever value a file of settings holds, an error is reported or the file has the flaw that the
error tells of. -/
theorem failsOnly_loadWith (yaml : Yaml.Reader) (path : String) (file : Source.Opened) :
    FailsOnly (loadWith yaml path file) (Explained yaml file) := by
  unfold loadWith
  refine FailsOnly.bind (FailsOnly.mapError fun _ _ => .inl rfl) fun text htext => ?_
  rw [mapError_eq_ok_iff] at htext
  refine FailsOnly.bind (FailsOnly.mapError fun cause hcause => ?_) fun v hv => ?_
  · cases cause with
    | malformed => exact .inr (.inl (.yaml ⟨text, htext, hcause⟩))
    | scalar message => exact .inl rfl
    | unsupported => exact .inr (.inr ⟨text, htext, hcause⟩)
  · exact (failsOnly_ofFile path ⟨text, htext, mapError_eq_ok_iff.mp hv⟩).mapError

end PlanDiagram.Settings
