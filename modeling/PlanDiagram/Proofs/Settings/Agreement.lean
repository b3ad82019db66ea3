import PlanDiagram.Proofs.Json.Reader
import PlanDiagram.Proofs.Settings.Overrides

/-!
# Settings described and overridden

A description of settings reads the fields that it knows in an order of its own, and starts from the
defaults. Overrides go through the fields of an object in their order and change settings that
exist. What is reached either way depends only on what is found under each known name, as long as no
name is repeated. Main statement: a description gives just the settings that the same value makes of
the default ones as overrides, one succeeds exactly if the other does, and the fields that overrides
hand back are those with other names.
-/

namespace PlanDiagram

namespace Settings

/-- Tells whether a name is that of the palette or of a setting. -/
def isKnown (name : String) : Bool :=
  name == "colors" || Key.all.any fun key => key.name == name

/-- What fields make of settings: the palette takes up their colours, and each setting has the value
under its name, or is as before if there is none. -/
structure Reached (fields : List (String × Value)) (s t : Settings) : Prop where
  palette : ∃ colours, coloursOf ((fields.lookup "colors").getD .null) = .ok colours ∧
    t.palette = Entries.putAll s.palette colours
  given : ∀ key v, fields.lookup (Key.name key) = some v → cast key v = .ok (t.get key)
  kept : ∀ key, fields.lookup (Key.name key) = none → t.get key = s.get key

variable {fields rest : List (String × Value)} {name : String} {key : Key} {v : Value}
  {s t : Settings}

/-- Settings are known by their values and the palette. -/
theorem ext_get (hget : ∀ key, s.get key = t.get key) (hpalette : s.palette = t.palette) :
    s = t := by
  cases s
  cases t
  congr
  exacts [hget .nodeWidth, hget .nodeHeight, hget .parameterScale, hget .spacingX, hget .spacingY,
    hget .startX, hget .startY, hget .actionColumns, hget .problemMaxColumns]

/-- A setting is found by its name and by no other. -/
theorem Key.ofName?_eq_some_iff : Key.ofName? name = some key ↔ key.name = name := by
  constructor
  · intro h
    unfold Key.ofName? at h
    have hname := List.find?_some h
    exact beq_iff_eq.mp hname
  · rintro rfl
    cases key <;> rfl

theorem Key.name_injective : Function.Injective Key.name := by
  intro key other h
  have hkey := Key.ofName?_eq_some_iff.mpr h
  rw [Key.ofName?_eq_some_iff.mpr rfl] at hkey
  exact (Option.some.inj hkey).symm

theorem Key.mem_all (key : Key) : key ∈ Key.all := by
  cases key <;> decide

theorem Key.name_ne_colors (key : Key) : key.name ≠ "colors" := by
  cases key <;> decide

/-- A name is that of the palette, of a setting, or not known. -/
theorem name_cases (name : String) :
    name = "colors" ∨ (∃ key : Key, name = key.name) ∨ isKnown name = false := by
  by_cases hcolours : name = "colors"
  · exact .inl hcolours
  · cases hany : Key.all.any fun key => key.name == name with
    | false => exact .inr (.inr (by simp [isKnown, hcolours, hany]))
    | true =>
      obtain ⟨key, -, hkey⟩ := List.any_eq_true.mp hany
      exact .inr (.inl ⟨key, (beq_iff_eq.mp hkey).symm⟩)

/-- The names of settings are known. -/
theorem Key.isKnown_name (key : Key) : isKnown key.name = true := by
  cases key <;> decide

/-- Neither the palette nor a setting has a name that is not known. -/
theorem ne_of_isKnown_eq_false (h : isKnown name = false) :
    name ≠ "colors" ∧ ∀ key : Key, key.name ≠ name := by
  rw [isKnown, Bool.or_eq_false_iff, beq_eq_false_iff_ne, List.any_eq_false] at h
  exact ⟨h.1, fun key hkey => h.2 key key.mem_all (beq_iff_eq.mpr hkey)⟩

/-- An override of the palette. -/
theorem override_colours (s : Settings) (v : Value) : override s "colors" v =
    (coloursOf v).map fun colours =>
      ({ s with palette := Entries.putAll s.palette colours }, []) := by
  rw [override, if_pos (beq_self_eq_true "colors")]
  cases coloursOf v <;> rfl

/-- An override of a setting. -/
theorem override_key (s : Settings) (key : Key) (v : Value) :
    override s key.name v = (cast key v).map fun a => (s.set key a, []) := by
  rw [override, if_neg (by simpa using key.name_ne_colors), Key.ofName?_eq_some_iff.mpr rfl]
  cases hcast : cast key v <;> simp only [hcast] <;> rfl

/-- An override that is not known. -/
theorem override_unknown (s : Settings) (v : Value) (h : isKnown name = false) :
    override s name v = .ok (s, [(name, v)]) := by
  obtain ⟨hcolours, hkeys⟩ := ne_of_isKnown_eq_false h
  have hnone : Key.ofName? name = none :=
    Option.eq_none_iff_forall_ne_some.mpr fun key hkey =>
      hkeys key (Key.ofName?_eq_some_iff.mp hkey)
  rw [override, if_neg (by simpa using hcolours), hnone]

/-- Fields make the same of settings if the same is found under each known name. -/
theorem Reached.congr {fields' : List (String × Value)}
    (hcolours : (fields.lookup "colors").getD .null = (fields'.lookup "colors").getD .null)
    (hkeys : ∀ key : Key, fields.lookup key.name = fields'.lookup key.name)
    (h : Reached fields s t) : Reached fields' s t :=
  ⟨hcolours ▸ h.palette, fun key v hv => h.given key v ((hkeys key).trans hv),
    fun key hkey => h.kept key ((hkeys key).trans hkey)⟩

/-- No fields change nothing. -/
theorem reached_nil : Reached [] s t ↔ s = t := by
  constructor
  · intro h
    obtain ⟨colours, hcolours, hpalette⟩ := h.palette
    cases hcolours
    exact ext_get (fun key => (h.kept key rfl).symm) hpalette.symm
  · rintro rfl
    exact ⟨⟨[], rfl, rfl⟩, fun _ _ h => (by cases h), fun _ _ => rfl⟩

/-- Without colours the palette is as before. -/
theorem Reached.palette_eq (h : Reached fields s t) (hnone : fields.lookup "colors" = none) :
    t.palette = s.palette := by
  obtain ⟨colours, hcolours, hpalette⟩ := h.palette
  rw [hnone] at hcolours
  cases hcolours
  exact hpalette

/-- Colours in front are put into the palette first. -/
theorem reached_colours (hnone : rest.lookup "colors" = none) :
    Reached (("colors", v) :: rest) s t ↔ ∃ colours, coloursOf v = .ok colours ∧
      Reached rest { s with palette := Entries.putAll s.palette colours } t := by
  have hkeys (key : Key) : (("colors", v) :: rest).lookup key.name = rest.lookup key.name := by
    rw [List.lookup_cons, beq_eq_false_iff_ne.mpr key.name_ne_colors]
  have hget (colours : List (String × Value)) (key : Key) :
      ({ s with palette := Entries.putAll s.palette colours } : Settings).get key = s.get key := by
    cases key <;> rfl
  constructor
  · intro h
    obtain ⟨colours, hcolours, hpalette⟩ := h.palette
    rw [List.lookup_cons_self] at hcolours
    refine ⟨colours, hcolours, ⟨[], by rw [hnone]; rfl, hpalette⟩, fun key w hw => ?_,
      fun key hkey => ?_⟩
    · exact h.given key w ((hkeys key).trans hw)
    · rw [hget, h.kept key ((hkeys key).trans hkey)]
  · rintro ⟨colours, hcolours, h⟩
    refine ⟨⟨colours, by rwa [List.lookup_cons_self], h.palette_eq hnone⟩, fun key w hw => ?_,
      fun key hkey => ?_⟩
    · exact h.given key w ((hkeys key).symm.trans hw)
    · rw [h.kept key ((hkeys key).symm.trans hkey), hget]

/-- A value in front is given to its setting first. -/
theorem reached_key (hnone : rest.lookup key.name = none) :
    Reached ((key.name, v) :: rest) s t ↔
      ∃ a, cast key v = .ok a ∧ Reached rest (s.set key a) t := by
  have hcolours : (((key.name, v) :: rest).lookup "colors") = rest.lookup "colors" := by
    rw [List.lookup_cons, beq_eq_false_iff_ne.mpr key.name_ne_colors.symm]
  have hother {other : Key} (h : other ≠ key) :
      ((key.name, v) :: rest).lookup other.name = rest.lookup other.name := by
    rw [List.lookup_cons, beq_eq_false_iff_ne.mpr fun heq => h (Key.name_injective heq)]
  constructor
  · intro h
    have hcast := h.given key v List.lookup_cons_self
    refine ⟨_, hcast, ?_, fun other w hw => ?_, fun other hnone' => ?_⟩
    · rw [palette_set]
      exact hcolours ▸ h.palette
    · refine h.given other w ((hother ?_).trans hw)
      rintro rfl
      simp [hnone] at hw
    · by_cases heq : other = key
      · rw [heq, get_set]
      · rw [get_set_of_ne s _ heq, h.kept other ((hother heq).trans hnone')]
  · rintro ⟨a, hcast, h⟩
    refine ⟨?_, fun other w hw => ?_, fun other hnone' => ?_⟩
    · rw [hcolours, ← palette_set s key a]
      exact h.palette
    · by_cases heq : other = key
      · subst heq
        rw [List.lookup_cons_self] at hw
        rw [h.kept other hnone, get_set, ← Option.some.inj hw, hcast]
      · exact h.given other w ((hother heq).symm.trans hw)
    · have hne : other ≠ key := by
        rintro rfl
        simp at hnone'
      rw [h.kept other ((hother hne).symm.trans hnone'), get_set_of_ne s a hne]

/-- A field in front that is not known changes nothing. -/
theorem reached_unknown (h : isKnown name = false) :
    Reached ((name, v) :: rest) s t ↔ Reached rest s t := by
  obtain ⟨hcolours, hkeys⟩ := ne_of_isKnown_eq_false h
  have hother {other : String} (hne : other ≠ name) :
      ((name, v) :: rest).lookup other = rest.lookup other := by
    rw [List.lookup_cons, beq_eq_false_iff_ne.mpr hne]
  have hcongr := congrArg (Option.getD · Value.null) (hother hcolours.symm)
  exact ⟨.congr hcongr fun key => hother (hkeys key),
    .congr hcongr.symm fun key => (hother (hkeys key)).symm⟩

/-- Overrides succeed if the first one does and the others do on the settings after it. -/
theorem overrideFields_cons_iff {unknown : List (String × Value)} :
    overrideFields s ((name, v) :: rest) = (t, .ok unknown) ↔
      ∃ next first others, override s name v = .ok (next, first) ∧
        overrideFields next rest = (t, .ok others) ∧ unknown = first ++ others := by
  cases hfirst : override s name v with
  | error fault => simp [overrideFields, hfirst]
  | ok result =>
    obtain ⟨next, first⟩ := result
    cases hrest : overrideFields next rest with
    | mk reached result =>
      cases result with
      | error fault => simp [overrideFields, hfirst, hrest, Except.map]
      | ok others => simp [overrideFields, hfirst, hrest, Except.map, eq_comm]

/-- Nothing is found under a name that is not among the names of the fields. -/
theorem lookup_eq_none (h : name ∉ fields.map Prod.fst) : fields.lookup name = none := by
  refine List.lookup_eq_none_iff.mpr fun field hfield => ?_
  have hne : name ≠ field.1 := by
    rintro rfl
    exact h (List.mem_map_of_mem hfield)
  simpa using hne

/-- Overrides with distinct names succeed exactly if the fields can be applied, and make of settings
what the fields make of them. -/
theorem exists_overrideFields_iff (h : (fields.map Prod.fst).Nodup) :
    (∃ unknown, overrideFields s fields = (t, .ok unknown)) ↔ Reached fields s t := by
  induction fields generalizing s with
  | nil =>
    rw [reached_nil]
    simp [overrideFields]
  | cons field rest ih =>
    obtain ⟨name, v⟩ := field
    obtain ⟨hname, hrest⟩ := List.nodup_cons.mp h
    have hnone := lookup_eq_none hname
    have hstep : (∃ unknown, overrideFields s ((name, v) :: rest) = (t, .ok unknown)) ↔
        ∃ next first, override s name v = .ok (next, first) ∧ Reached rest next t := by
      simp only [overrideFields_cons_iff, ← ih hrest]
      constructor
      · rintro ⟨unknown, next, first, others, hfirst, hothers, -⟩
        exact ⟨next, first, hfirst, others, hothers⟩
      · rintro ⟨next, first, hfirst, others, hothers⟩
        exact ⟨_, next, first, others, hfirst, hothers, rfl⟩
    rw [hstep]
    rcases name_cases name with rfl | ⟨key, rfl⟩ | hunknown
    · rw [reached_colours hnone, override_colours]
      simp only [map_eq_ok_iff, Prod.mk.injEq]
      grind
    · rw [reached_key hnone, override_key]
      simp only [map_eq_ok_iff, Prod.mk.injEq]
      grind
    · rw [reached_unknown hunknown, override_unknown s v hunknown]
      simp

/-- Overrides hand back the fields that are not known, in their order. -/
theorem unknown_eq_filter {unknown : List (String × Value)}
    (h : overrideFields s fields = (t, .ok unknown)) :
    unknown = fields.filter fun field => !isKnown field.1 := by
  induction fields generalizing s unknown with
  | nil =>
    cases h
    rfl
  | cons field rest ih =>
    obtain ⟨name, v⟩ := field
    obtain ⟨next, first, others, hfirst, hothers, rfl⟩ := overrideFields_cons_iff.mp h
    rw [ih hothers, List.filter_cons]
    rcases name_cases name with rfl | ⟨key, rfl⟩ | hunknown
    · rw [override_colours] at hfirst
      obtain ⟨colours, -, heq⟩ := map_eq_ok_iff.mp hfirst
      cases heq
      rfl
    · rw [override_key] at hfirst
      obtain ⟨a, -, heq⟩ := map_eq_ok_iff.mp hfirst
      cases heq
      simp [key.isKnown_name]
    · rw [override_unknown s v hunknown] at hfirst
      cases hfirst
      simp [hunknown]

/-- The fields that a value has for some of the settings, in the order of the settings. -/
def fieldsFor (v : Value) (keys : List Key) : List (String × Value) :=
  keys.filterMap fun key => (v.field? key.name).map fun w => (key.name, w)

variable {keys : List Key} {w : Value}

theorem fieldsFor_cons_none (h : v.field? key.name = none) :
    fieldsFor v (key :: keys) = fieldsFor v keys := by
  simp [fieldsFor, h]

theorem fieldsFor_cons_some (h : v.field? key.name = some w) :
    fieldsFor v (key :: keys) = (key.name, w) :: fieldsFor v keys := by
  simp [fieldsFor, h]

/-- Among the fields for some settings each of these is found as in the value, and no other one. -/
theorem lookup_fieldsFor (v : Value) (keys : List Key) (key : Key) :
    (fieldsFor v keys).lookup key.name = if key ∈ keys then v.field? key.name else none := by
  induction keys with
  | nil => rfl
  | cons other keys ih =>
    by_cases heq : key = other
    · subst heq
      rw [if_pos List.mem_cons_self]
      cases hfield : v.field? key.name with
      | none => rw [fieldsFor_cons_none hfield, ih, hfield, ite_self]
      | some w => rw [fieldsFor_cons_some hfield, List.lookup_cons_self]
    · have hmem : key ∈ other :: keys ↔ key ∈ keys := by simp [heq]
      simp only [hmem, ← ih]
      cases hfield : v.field? other.name with
      | none => rw [fieldsFor_cons_none hfield]
      | some w =>
        rw [fieldsFor_cons_some hfield, List.lookup_cons,
          beq_eq_false_iff_ne.mpr fun hname => heq (Key.name_injective hname)]

/-- There are no colours among the fields for settings. -/
theorem lookup_colors_fieldsFor (v : Value) (keys : List Key) :
    (fieldsFor v keys).lookup "colors" = none := by
  refine lookup_eq_none fun hmem => ?_
  obtain ⟨⟨name, w⟩, hfield, hname⟩ := List.mem_map.mp hmem
  obtain ⟨key, -, hkey⟩ := List.mem_filterMap.mp hfield
  obtain ⟨w', -, heq⟩ := Option.map_eq_some_iff.mp hkey
  cases heq
  exact key.name_ne_colors hname

/-- Setting by setting, a description makes of settings what its fields for them make. -/
theorem castAll_eq_ok_iff (h : keys.Nodup) :
    castAll s v keys = .ok t ↔ Reached (fieldsFor v keys) s t := by
  induction keys generalizing s with
  | nil =>
    change Except.ok s = .ok t ↔ Reached [] s t
    rw [reached_nil, Except.ok.injEq]
  | cons key keys ih =>
    obtain ⟨hkey, hkeys⟩ := List.nodup_cons.mp h
    rw [castAll]
    cases hfield : v.field? key.name with
    | none =>
      rw [fieldsFor_cons_none hfield]
      exact ih hkeys
    | some w =>
      have hnone : (fieldsFor v keys).lookup key.name = none := by
        rw [lookup_fieldsFor, if_neg hkey]
      rw [fieldsFor_cons_some hfield, reached_key hnone]
      simp only [bind_eq_ok_iff, ih hkeys]

/-- A faulty value plays no part in a success. -/
theorem lift_eq_ok_iff {α : Type} {x : Except Value.Fault α} {a : α} :
    (liftM x : Except Error α) = .ok a ↔ x = .ok a :=
  mapError_eq_ok_iff

/-- A description gives what its fields make of the default settings, if this is valid. -/
theorem ofValue_object_eq_ok_iff :
    ofValue (.object fields) = .ok t ↔ Reached fields {} t ∧ t.validate = .ok () := by
  have hobject : (if (Value.object fields).isPresent then Value.object fields else .object []) =
      .object fields := by
    cases fields <;> rfl
  -- the colours are read first, and then setting by setting what the object has for it
  have hordered : Reached (("colors", (Value.object fields).field "colors") ::
      fieldsFor (.object fields) Key.all) {} t ↔ Reached fields {} t := by
    have hcolours : ((("colors", (Value.object fields).field "colors") ::
        fieldsFor (.object fields) Key.all).lookup "colors").getD .null =
          (fields.lookup "colors").getD .null := by
      rw [List.lookup_cons_self]
      rfl
    have hkeys (key : Key) : (("colors", (Value.object fields).field "colors") ::
        fieldsFor (.object fields) Key.all).lookup key.name = fields.lookup key.name := by
      rw [List.lookup_cons, beq_eq_false_iff_ne.mpr key.name_ne_colors]
      exact (lookup_fieldsFor _ Key.all key).trans (if_pos key.mem_all)
    exact ⟨.congr hcolours hkeys, .congr hcolours.symm fun key => (hkeys key).symm⟩
  rw [← hordered, reached_colours (lookup_colors_fieldsFor _ _)]
  simp only [← castAll_eq_ok_iff (by decide : Key.all.Nodup)]
  simp only [ofValue, hobject, bind_eq_ok_iff, lift_eq_ok_iff, pure_eq_ok_iff]
  constructor
  · rintro ⟨⟨⟩, -, colours, hcolours, reached, hcast, ⟨⟩, hvalid, rfl⟩
    exact ⟨⟨colours, hcolours, hcast⟩, hvalid⟩
  · rintro ⟨⟨colours, hcolours, hcast⟩, hvalid⟩
    exact ⟨(), rfl, colours, hcolours, t, hcast, (), hvalid, rfl⟩

/-- Overrides succeed if the fields of the object do and the settings that are reached are valid. -/
theorem applyOverrides_object_eq_iff {unknown : List (String × Value)} :
    applyOverrides s (.object fields) = (t, .ok unknown) ↔
      overrideFields s fields = (t, .ok unknown) ∧ t.validate = .ok () := by
  have hfields : applyOverrides s (.object fields) =
      ((overrideFields s fields).1, do
        let unknown ← (liftM (overrideFields s fields).2 : Except Error _)
        (overrideFields s fields).1.validate.map fun _ => unknown) := by
    cases fields with
    | nil => rfl
    | cons field rest =>
      have hpresent : (Value.object (field :: rest)).isPresent = true := rfl
      rw [applyOverrides, if_pos hpresent]
      rcases overrideFields s (field :: rest) with ⟨reached, fault | others⟩ <;> rfl
  rw [hfields, Prod.ext_iff, Prod.ext_iff]
  simp only [bind_eq_ok_iff, lift_eq_ok_iff, map_eq_ok_iff]
  constructor
  · rintro ⟨rfl, others, hothers, ⟨⟩, hvalid, rfl⟩
    exact ⟨⟨rfl, hothers⟩, hvalid⟩
  · rintro ⟨⟨rfl, hothers⟩, hvalid⟩
    exact ⟨rfl, unknown, hothers, (), hvalid, rfl⟩

/-- What is no object is refused both as a description and as overrides, unless it counts as absent:
then both leave the default settings. -/
theorem of_kind_ne_object (h : v.kind ≠ .object) :
    (ofValue v = .ok t ↔ v.isPresent = false ∧ t = {}) ∧
      ∀ unknown, applyOverrides {} v = (t, .ok unknown) ↔
        v.isPresent = false ∧ t = {} ∧ unknown = [] := by
  cases hpresent : v.isPresent with
  | false =>
    have hdefault : ofValue v = .ok {} := by
      simp only [ofValue, hpresent]
      rfl
    have hoverrides : applyOverrides {} v = ({}, .ok []) := by
      simp only [applyOverrides, hpresent]
      rfl
    rw [hdefault, hoverrides]
    simp [eq_comm]
  | true =>
    have hrefused : ofValue v = .error (.fault (.noFields v.kind)) := by
      simp only [ofValue, hpresent]
      cases v with
      | object fields => exact absurd rfl h
      | _ => rfl
    have hoverrides : applyOverrides {} v = ({}, .error (.fault (.noFields v.kind))) := by
      simp only [applyOverrides, hpresent]
      cases v with
      | object fields => exact absurd rfl h
      | _ => rfl
    rw [hrefused, hoverrides]
    simp

/-- The two ways of applying a value to settings agree. As a description it gives certain settings
exactly if it makes them of the default settings as overrides, where success stands for success; and
overrides hand back just the fields that name neither the palette nor a setting. Values that are
read from a text have distinct names (`Json.hasDistinctNames_of_read`). -/
theorem ofValue_agrees (h : v.HasDistinctNames) :
    (∀ t, ofValue v = .ok t ↔ ∃ unknown, applyOverrides {} v = (t, .ok unknown)) ∧
      ∀ t unknown, applyOverrides {} v = (t, .ok unknown) →
        unknown = v.fields.filter fun field => !isKnown field.1 := by
  by_cases hkind : v.kind = .object
  · cases v with
    | object fields =>
      have hnodup : (fields.map Prod.fst).Nodup := h
      refine ⟨fun t => ?_, fun t unknown hoverrides => ?_⟩
      · simp only [applyOverrides_object_eq_iff, ofValue_object_eq_ok_iff, exists_and_right]
        rw [exists_overrideFields_iff hnodup]
      · exact unknown_eq_filter (applyOverrides_object_eq_iff.mp hoverrides).1
    | _ => cases hkind
  · refine ⟨fun t => ?_, fun t unknown hoverrides => ?_⟩
    · rw [(of_kind_ne_object hkind).1]
      simp [(of_kind_ne_object hkind).2]
    · obtain ⟨-, -, rfl⟩ := ((of_kind_ne_object hkind).2 unknown).mp hoverrides
      cases v with
      | object fields => exact absurd rfl hkind
      | _ => rfl

/-- Two settings, a colour, and a field that is no setting, with the settings in another order than
that of a description. -/
theorem ofValue_agrees_mixed :
    let v : Value := .object [("theme", .text "dark"), ("action_columns", .text "2"),
      ("colors", .object [("edge", .text "red")]), ("spacing_x", .int 150)]
    let t : Settings := { ({} : Settings) with
      spacingX := .real 150.0
      actionColumns := .int 2
      palette := Entries.put "edge" (.text "red") ({} : Settings).palette }
    v.HasDistinctNames ∧ ofValue v = .ok t ∧
      applyOverrides {} v = (t, .ok [("theme", .text "dark")]) ∧
      [("theme", .text "dark")] = v.fields.filter fun field => !isKnown field.1 := by
  intro v t
  have hnames : v.HasDistinctNames := by
    change (["theme", "action_columns", "colors", "spacing_x"] : List String).Nodup
    decide
  obtain ⟨hagree, hunknown⟩ := ofValue_agrees hnames
  have hoverrides : applyOverrides {} v = (t, .ok [("theme", .text "dark")]) := by rfl
  exact ⟨hnames, (hagree t).mpr ⟨_, hoverrides⟩, hoverrides, hunknown t _ hoverrides⟩

end Settings

end PlanDiagram
