import PlanDiagram.Entries
import PlanDiagram.Settings.Basic

/-!
# Settings from values

Settings are given as the fields of an object. A description of settings turns numerals into
numbers, starts from the defaults and ignores what it does not know. Overrides change settings that
exist, one field after the other; what they do not know is handed back. A call with named settings
takes numbers as they are and knows all names.
-/

namespace PlanDiagram.Settings

/-- A value for a setting: an integer for a count, else a real number. -/
def cast (key : Key) (v : Value) : Except Value.Fault Amount :=
  if key.isCount then v.toInteger.map .int else v.toReal.map .real

/-- The roles and colours of a value, as texts; a value that counts as absent has none. -/
def coloursOf (v : Value) : Except Value.Fault (List (String × Value)) :=
  if v.isPresent then
    match v with
    | .object fields => .ok (fields.map fun field => (field.1, .text field.2.display))
    | v => .error (.noFields v.kind)
  else .ok []

/-- Sets the settings that an object describes, in the order of the settings. -/
def castAll (s : Settings) (v : Value) (keys : List Key) : Except Value.Fault Settings :=
  match keys with
  | [] => .ok s
  | key :: rest =>
    match v.field? key.name with
    | some w => do castAll (s.set key (← cast key w)) v rest
    | none => castAll s v rest

/-- Reads a description of settings; one that counts as absent describes the defaults. -/
def ofValue (v : Value) : Except Error Settings := do
  let v := if v.isPresent then v else .object []
  v.requireFields
  let colours ← coloursOf (v.field "colors")
  let base : Settings := {}
  let s ← castAll { base with palette := Entries.putAll base.palette colours } v Key.all
  s.validate
  return s

/-- Applies one override. Gives the settings after it, and the field if it is unknown. -/
def override (s : Settings) (name : String) (v : Value) :
    Except Value.Fault (Settings × List (String × Value)) :=
  if name == "colors" then do
    return ({ s with palette := Entries.putAll s.palette (← coloursOf v) }, [])
  else
    match Key.ofName? name with
    | some key => do return (s.set key (← cast key v), [])
    | none => .ok (s, [(name, v)])

/-- Applies overrides until one fails. Gives the settings that are reached, and the unknown fields
or the fault. -/
def overrideFields (s : Settings) :
    List (String × Value) → Settings × Except Value.Fault (List (String × Value))
  | [] => (s, .ok [])
  | (name, v) :: rest =>
    match override s name v with
    | .error fault => (s, .error fault)
    | .ok (s, unknown) =>
      let (s, result) := overrideFields s rest
      (s, result.map (unknown ++ ·))

/-- Applies overrides and validates. Settings that were changed stay changed also when a later
override or the validation fails. -/
def applyOverrides (s : Settings) (v : Value) :
    Settings × Except Error (List (String × Value)) :=
  if v.isPresent then
    match v with
    | .object fields =>
      match overrideFields s fields with
      | (s, .error fault) => (s, .error (.fault fault))
      | (s, .ok unknown) => (s, s.validate.map fun _ => unknown)
    | v => (s, .error (.fault (.noFields v.kind)))
  else (s, s.validate.map fun _ => [])

/-- Sets the settings that are named, taking numbers as they are. -/
def setAll (s : Settings) (fields : List (String × Value)) (keys : List Key) :
    Except Error Settings :=
  match keys with
  | [] => .ok s
  | key :: rest =>
    match fields.lookup key.name with
    | some v =>
      match Amount.ofValue? v with
      | some a => setAll (s.set key a) fields rest
      | none => .error (.numberExpected key v)
    | none => setAll s fields rest

/-- Settings from named values. All names have to be known; a palette replaces the default one. -/
def ofNamed (fields : List (String × Value)) : Except Error Settings := do
  match fields.find? fun field => field.1 != "colors" && (Key.ofName? field.1).isNone with
  | some field => throw (.unknownSetting field.1)
  | none =>
    let base : Settings := {}
    let palette :=
      match fields.lookup "colors" with
      | some (.object colours) => colours
      | some _ => []
      | none => base.palette
    let s ← setAll { base with palette } fields Key.all
    s.validate
    return s

/-- Settings from the content of a file: the field `layout` if there is one, else the whole
content. -/
def ofFile (path : String) (v : Value) : Except Error Settings :=
  let v := if v.isPresent then v else .object []
  match v with
  | .object fields => ofValue ((fields.lookup "layout").getD (.object fields))
  | _ => .error (.notMapping path)

end PlanDiagram.Settings
