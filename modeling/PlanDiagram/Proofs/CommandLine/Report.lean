import PlanDiagram.CommandLine.Run
import PlanDiagram.Proofs.Diagram.Accepted
import PlanDiagram.Proofs.Diagram.Border
import PlanDiagram.Proofs.Payload.Explained
import PlanDiagram.Proofs.Settings.Explained

/-!
# How runs of the command line end

A run reads settings, loads a source, and draws or outlines it. Most of what can go wrong is
reported in one line, but not everything. Main statement: whatever reads the YAML, a run without an
output file writes the result and ends with status zero, or writes nothing but one message and ends
with status one, or the options or files have a flaw that is not foreseen, or a file that is loaded
holds what is no value; and it changes no file. Outlines of planning texts are always reported as
long as the settings have no flaw.
-/

namespace PlanDiagram

open PlanDiagram.Source (Opened FileTree)

/-- What the text of a payload holds is no value. It is data that only YAML has, or a text with half
of a pair of code units. -/
inductive Source.HoldsNoValue (yaml : Yaml.Reader) (path text : String) : Prop
  | yaml (hformat : (Path.ofText path).namesJson = false)
    (hread : yaml text = .error .unsupported)
  | json {cause : Json.ReadError} (hformat : (Path.ofText path).namesJson = true)
    (hread : Json.read text = .error cause) (hcause : cause.cause = .loneUnit)

/-- What can be wrong with a source for an error that is not reported. -/
inductive Source.Flaw (yaml : Yaml.Reader) (path : String) (onDisk : Opened) : Error → Prop
  /-- The text is no YAML. -/
  | yaml {text : String} (htext : loadText path onDisk = .ok text)
    (hformat : (Path.ofText path).namesJson = false) (hread : yaml text = .error .malformed) :
    Flaw yaml path onDisk (.yaml .malformed)
  /-- The payload has a flaw. -/
  | payload {text : String} {fields : List (String × Value)} {cause : Payload.Error}
    (htext : loadText path onDisk = .ok text)
    (hread : readValueWith yaml path text = .ok (.object fields))
    (hflaw : Payload.Flaw (.object fields) cause) : Flaw yaml path onDisk (.payload cause)

/-- What can be wrong with settings and a domain or problem for a diagram to fail without report. -/
inductive Diagram.Flaw (s : Settings) (found : Structure) : Fault → Prop
  /-- A setting is extreme, or there are too many comparisons. -/
  | count {fault : Fault} (hfault : fault = .infiniteCount ∨ fault = .hugeCount)
    (hextreme : s.IsModerate → 2 ^ 128 ≤ found.comparisonCount) : Flaw s found fault
  /-- An arrow misses the border of an ellipse. -/
  | arrow {blocks : List (Block Float)} {a : Arrow Float}
    (hblocks : (structureBlocks (Config.ofSettings s) {} found).2 = .ok blocks)
    (harrow : .arrow a ∈ blockElements blocks)
    (hmisses : a.source.Misses a.target.center ∨ a.target.Misses a.source.center) :
    Flaw s found .divisionByZero

namespace CommandLine

/-- A domain or problem is found in the source: in a payload or in a planning text. -/
inductive Options.Finds (yaml : Yaml.Reader) (o : Options) (source : Opened) (found : Structure) :
    Prop
  | payload (hpayload : (Source.Path.ofText o.source).namesPayload = true)
    (hload : Source.loadStructureWith yaml o.source source = .ok found)
  | text {text : String} (hpayload : (Source.Path.ofText o.source).namesPayload = false)
    (hload : Source.loadText o.source source = .ok text)
    (hread : Document.readPrimary text = .ok found)

/-- What can be wrong with options and files for a failure that is not reported. -/
inductive Flaw (yaml : Yaml.Reader) (o : Options) (config source : Opened) : Failure → Prop
  /-- The name of a level is taken by something else. -/
  | level {found : Option String} (hlevel : threshold o.logLevel = .error (.reservedLevel found)) :
    Flaw yaml o config source (.reservedLevel found)
  /-- The settings have a flaw. -/
  | settings {path : String} {cause : Settings.LoadError}
    (hconfig : o.config.filter (· != "") = some path) (hflaw : Settings.Flaw yaml config cause) :
    Flaw yaml o config source (.settings cause)
  /-- The payload has a flaw. -/
  | payload {cause : Source.Error} (hmode : o.mode = .graph)
    (hpayload : (Source.Path.ofText o.source).namesPayload = true)
    (hflaw : Source.Flaw yaml o.source source cause) : Flaw yaml o config source (.source cause)
  /-- The diagram has a flaw. -/
  | drawing {s : Settings} {found : Structure} {fault : Diagram.Fault} (hmode : o.mode = .graph)
    (hsettings : settingsOf yaml o config = .ok s) (hfound : o.Finds yaml source found)
    (hflaw : Diagram.Flaw s found fault) : Flaw yaml o config source (.drawing fault)

/-- A file that is loaded for some options holds what is no value: the file of settings, or the
payload of which a diagram is wanted. -/
inductive Options.LoadsNoValue (yaml : Yaml.Reader) (o : Options) (config source : Opened) : Prop
  | settings {path : String} (hconfig : o.config.filter (· != "") = some path)
    (hread : Settings.Reads yaml config (.error .unsupported))
  | payload {text : String} (hmode : o.mode = .graph)
    (hpayload : (Source.Path.ofText o.source).namesPayload = true)
    (htext : Source.loadText o.source source = .ok text)
    (hread : Source.HoldsNoValue yaml o.source text)

/-- A failure is explained by options and files if it is reported, or they have the flaw, or what is
loaded is no value. -/
def Explained (yaml : Yaml.Reader) (o : Options) (config source : Opened) (failure : Failure) :
    Prop :=
  failure.isReported = true ∨ Flaw yaml o config source failure ∨
    o.LoadsNoValue yaml config source

end CommandLine

variable {yaml : Yaml.Reader} {o : CommandLine.Options} {config source : Opened}

namespace Source

/-- A text is found, or it is reported that there is none. -/
theorem failsOnly_loadText (path : String) (onDisk : Opened) :
    FailsOnly (loadText path onDisk) fun e => e.isReported = true := by
  unfold loadText
  refine FailsOnly.bind ?_ fun _ _ => .pure _
  unfold locate
  split
  · exact .ok _
  · exact .error rfl
  · split
    · exact .ok _
    · exact .error rfl

/-- An error is explained by a source if it is reported, or the source has the flaw, or what the
source holds is no value. -/
def Explained (yaml : Yaml.Reader) (path : String) (onDisk : Opened) (e : Error) : Prop :=
  e.isReported = true ∨ Flaw yaml path onDisk e ∨
    ∃ text, loadText path onDisk = .ok text ∧ HoldsNoValue yaml path text

/-- The text of a payload is read with the errors that explain it. -/
theorem failsOnly_readValueWith {path text : String} {onDisk : Opened}
    (htext : loadText path onDisk = .ok text) :
    FailsOnly (readValueWith yaml path text) (Explained yaml path onDisk) := by
  unfold readValueWith
  split
  · rename_i hformat
    refine FailsOnly.mapError fun cause hcause => ?_
    by_cases hunit : cause.cause = .loneUnit
    · exact .inr (.inr ⟨text, htext, .json hformat hcause hunit⟩)
    · exact .inl (bne_iff_ne.mpr hunit)
  · rename_i hformat
    have hyaml := Bool.eq_false_iff.mpr hformat
    refine FailsOnly.mapError fun cause hcause => ?_
    cases cause with
    | malformed => exact .inr (.inl (.yaml htext hyaml hcause))
    | scalar message => exact .inl rfl
    | unsupported => exact .inr (.inr ⟨text, htext, .yaml hyaml hcause⟩)

/-- A payload is loaded with the errors that explain it. -/
theorem failsOnly_loadStructureWith (yaml : Yaml.Reader) (path : String) (onDisk : Opened) :
    FailsOnly (loadStructureWith yaml path onDisk) (Explained yaml path onDisk) := by
  unfold loadStructureWith
  refine FailsOnly.bind ((failsOnly_loadText path onDisk).mono fun _ => .inl) fun text htext => ?_
  refine FailsOnly.bind (failsOnly_readValueWith htext) fun v hread => ?_
  split
  · refine FailsOnly.mapError ?_
    exact (failsOnly_structureOf _).mono fun _ =>
      .imp_right fun hflaw => .inl (.payload htext hread hflaw)
  · exact .error (.inl rfl)

end Source

namespace CommandLine

/-- Settings are read from a file with the errors that explain it. -/
theorem failsOnly_settingsOf (yaml : Yaml.Reader) (o : Options) (config source : Opened) :
    FailsOnly (settingsOf yaml o config) (Explained yaml o config source) := by
  unfold settingsOf
  split
  · rename_i path hconfig
    refine FailsOnly.mapError ?_
    exact (Settings.failsOnly_loadWith yaml path config).mono fun _ =>
      .imp_right (.imp (.settings hconfig) (.settings hconfig))
  · exact .ok _

/-- Settings that a command line gives come from a description. -/
theorem exists_ofValue_of_settingsOf {s : Settings} (h : settingsOf yaml o config = .ok s) :
    ∃ v, Settings.ofValue v = .ok s := by
  unfold settingsOf at h
  split at h
  · exact Settings.exists_ofValue_of_loadWith (mapError_eq_ok_iff.mp h)
  · cases h
    exact ⟨.object [], rfl⟩

/-- With moderate settings no count fails unless there are too many comparisons. -/
theorem count_le_of_error {s : Settings} {found : Structure} {fault : Diagram.Fault}
    (hsettings : settingsOf yaml o config = .ok s)
    (hfault : (Diagram.structureBlocks (Diagram.Config.ofSettings s) {} found).2 = .error fault)
    (hmoderate : s.IsModerate) : 2 ^ 128 ≤ found.comparisonCount := by
  obtain ⟨v, hv⟩ := exists_ofValue_of_settingsOf hsettings
  obtain ⟨haction, hproblem⟩ := Settings.columns_pos hv
  by_contra hcount
  have hexpected :=
    Diagram.diagramExpected_of_isModerate hmoderate haction hproblem (Nat.lt_of_not_le hcount)
  exact Diagram.failsOnly_structureBlocks hexpected {} fault hfault

/-- Settings that a command line gives let only counts fail. -/
theorem isCountFault_of_error {s : Settings} {found : Structure} {fault : Diagram.Fault}
    (hsettings : settingsOf yaml o config = .ok s)
    (hfault : (Diagram.structureBlocks (Diagram.Config.ofSettings s) {} found).2 = .error fault) :
    Diagram.IsCountFault fault := by
  obtain ⟨v, hv⟩ := exists_ofValue_of_settingsOf hsettings
  obtain ⟨haction, hproblem⟩ := Settings.columns_pos hv
  exact Diagram.failsOnly_isCountFault (Settings.spacingY_ne_zero hv) haction hproblem {} found
    fault hfault

/-- A diagram is drawn with the faults that explain it. -/
theorem failsOnly_drawing {s : Settings} (hmode : o.mode = .graph)
    (hsettings : settingsOf yaml o config = .ok s) {found : Structure}
    (hfound : o.Finds yaml source found) :
    FailsOnly (drawing s found).2 (Explained yaml o config source) := by
  unfold drawing
  split
  · rename_i fault hfault
    have hflaw (h : fault = .infiniteCount ∨ fault = .hugeCount) :
        Explained yaml o config source (.drawing fault) :=
      .inr (.inl (.drawing hmode hsettings hfound (.count h (count_le_of_error hsettings hfault))))
    rcases isCountFault_of_error hsettings hfault with hinfinite | rfl | hhuge
    · exact .error (hflaw (.inl hinfinite))
    · exact .error (.inl rfl)
    · exact .error (hflaw (.inr hhuge))
  · rename_i blocks hblocks
    refine FailsOnly.mapError (FailsOnly.map ?_ _)
    refine (Diagram.failsOnly_mapM_toValue _).mono fun fault ⟨hfault, a, harrow, hmisses⟩ => ?_
    rw [hfault]
    exact .inr (.inl (.drawing hmode hsettings hfound (.arrow hblocks harrow hmisses)))

/-- A planning text is converted with the failures that explain it. -/
theorem failsOnly_convertText {s : Settings} (hsettings : settingsOf yaml o config = .ok s)
    (hpayload : (Source.Path.ofText o.source).namesPayload = false) {text : String}
    (hload : Source.loadText o.source source = .ok text) :
    FailsOnly (convertText o.mode s text).2 (Explained yaml o config source) := by
  unfold convertText
  cases hmode : o.mode with
  | mind => exact FailsOnly.mapError fun _ _ => .inl rfl
  | graph =>
    simp only
    cases hread : Document.readPrimary text with
    | error cause => exact .error (.inl rfl)
    | ok found => exact failsOnly_drawing hmode hsettings (.text hpayload hload hread)

/-- A source is converted with the failures that explain it. -/
theorem failsOnly_convertSource {s : Settings} (hsettings : settingsOf yaml o config = .ok s) :
    FailsOnly (convertSource yaml o s source).2 (Explained yaml o config source) := by
  unfold convertSource
  simp only
  cases hpayload : (Source.Path.ofText o.source).namesPayload with
  | false =>
    cases hload : Source.loadText o.source source with
    | error cause =>
      exact .error (.inl (Source.failsOnly_loadText _ _ cause hload))
    | ok text => exact failsOnly_convertText hsettings hpayload hload
  | true =>
    cases hmode : o.mode with
    | mind => exact .error (.inl rfl)
    | graph =>
      cases hload : Source.loadStructureWith yaml o.source source with
      | error cause =>
        rcases Source.failsOnly_loadStructureWith _ _ _ cause hload with
          hreported | hflaw | ⟨text, htext, hread⟩
        · exact .error (.inl hreported)
        · exact .error (.inr (.inl (.payload hmode hpayload hflaw)))
        · exact .error (.inr (.inr (.payload hmode hpayload htext hread)))
      | ok found => exact failsOnly_drawing hmode hsettings (.payload hpayload hload)

/-- Whatever options and files there are, a failure is reported, or they have the flaw that the
failure tells of, or what is loaded is no value. -/
theorem failsOnly_convert (yaml : Yaml.Reader) (o : Options) (config source : Opened) :
    FailsOnly (convert yaml o config source).2 (Explained yaml o config source) := by
  unfold convert
  cases hsettings : settingsOf yaml o config with
  | error failure => exact .error (failsOnly_settingsOf yaml o config source failure hsettings)
  | ok s => exact failsOnly_convertSource hsettings

/-- Only the name of a level that is taken is refused. -/
theorem failsOnly_threshold (yaml : Yaml.Reader) (o : Options) (config source : Opened) :
    FailsOnly (threshold o.logLevel) (Flaw yaml o config source) := by
  intro failure hfailure
  have hlevel := hfailure
  unfold threshold at hfailure
  simp only at hfailure
  split at hfailure
  · cases hfailure
    exact .level hlevel
  · cases hfailure

/-- How a run ends that has no output file. -/
theorem runWith_of_no_output {arguments : List String} (files : FileTree)
    (hparse : parse arguments = .ok o) {w : Nat} (hlevel : threshold o.logLevel = .ok w)
    (houtput : o.output.filter (· != "") = none) {notices : List Notice}
    {result : Except Failure Value}
    (hconvert : convert yaml o (files.openText o.configPath)
      (files.openPath [] (Source.Path.ofText o.source)) = (notices, result)) :
    runWith yaml arguments files = (match result with
      | .ok v => .finished { exit := 0, out := Json.write v ++ "\n", err := shown w notices }
      | .error failure =>
        if failure.isReported then
          .finished {
            exit := 1, out := "", err := shown w notices ++ ("error: " ++ failure.message ++ "\n") }
        else .failed failure, files) := by
  unfold runWith
  rw [hparse]
  simp only [hlevel, hconvert]
  unfold conclude
  cases result with
  | ok v => simp only [houtput]
  | error failure =>
    simp only
    cases failure.isReported <;> rfl

/-- A run without an output file changes no file, whatever reads the YAML. It writes the result and
ends with status zero, or it writes nothing but the notices and one message and ends with status
one, or it ends without a report because of a flaw of the options or the files. Nothing more is said
of files that hold what is no value. -/
theorem run_reports (yaml : Yaml.Reader) {arguments : List String} {o : Options} (files : FileTree)
    (hparse : parse arguments = .ok o) (houtput : o.output.filter (· != "") = none) :
    let config := files.openText o.configPath
    let source := files.openPath [] (Source.Path.ofText o.source)
    (runWith yaml arguments files).2 = files ∧
      ((∃ w notices v, threshold o.logLevel = .ok w ∧
          convert yaml o config source = (notices, .ok v) ∧
          (runWith yaml arguments files).1 =
            .finished { exit := 0, out := Json.write v ++ "\n", err := shown w notices }) ∨
        (∃ w notices failure, threshold o.logLevel = .ok w ∧
          convert yaml o config source = (notices, .error failure) ∧
          (runWith yaml arguments files).1 = .finished {
            exit := 1, out := "",
            err := shown w notices ++ ("error: " ++ failure.message ++ "\n") }) ∨
        (∃ failure, Flaw yaml o config source failure ∧
          (runWith yaml arguments files).1 = .failed failure) ∨
        o.LoadsNoValue yaml config source) := by
  intro config source
  cases hlevel : threshold o.logLevel with
  | error failure =>
    have hrun : runWith yaml arguments files = (.failed failure, files) := by
      unfold runWith
      rw [hparse]
      simp only [hlevel]
    have hflaw := failsOnly_threshold yaml o config source failure hlevel
    exact ⟨by rw [hrun], .inr (.inr (.inl ⟨failure, hflaw, by rw [hrun]⟩))⟩
  | ok w =>
    rcases hconvert : convert yaml o config source with ⟨notices, result⟩
    have hrun := runWith_of_no_output files hparse hlevel houtput hconvert
    refine ⟨by rw [hrun], ?_⟩
    rw [hrun]
    cases result with
    | ok v => exact .inl ⟨w, notices, v, rfl, rfl, rfl⟩
    | error failure =>
      have hexplained : Explained yaml o config source failure :=
        failsOnly_convert yaml o config source failure (by rw [hconvert])
      cases hreported : failure.isReported with
      | true => exact .inr (.inl ⟨w, notices, failure, rfl, rfl, by simp only [hreported, if_true]⟩)
      | false =>
        rcases hexplained.resolve_left (by simp [hreported]) with hflaw | hnovalue
        · refine .inr (.inr (.inl ⟨failure, hflaw, ?_⟩))
          simp only [hreported, Bool.false_eq_true, if_false]
        · exact .inr (.inr (.inr hnovalue))

/-- A tree with settings and a domain. -/
def outlineFiles : FileTree where
  files := [
    (["c.yaml"], "layout:\n  action_columns: 3\n"),
    (["d.pddl"], "(define (domain d))")]

/-- The settings of that tree, as they are read. -/
def outlineLayout : Value :=
  .object [("action_columns", .int 3)]

/-- The options that ask for the outline of that tree. -/
def outlineOptions : Options :=
  { source := "d.pddl", config := some "c.yaml", mode := .mind }

/-- What the reader of YAML gives for the settings of that tree. -/
theorem eq_of_reads_outlineFiles {result : Except Yaml.Failure Value}
    (h : Settings.Reads Yaml.read (outlineFiles.openText "c.yaml") result) :
    result = .ok (.object [("layout", outlineLayout)]) := by
  obtain ⟨text, htext, rfl⟩ := h
  have hopened : outlineFiles.openText "c.yaml" = .ok "layout:\n  action_columns: 3\n" := rfl
  obtain rfl : "layout:\n  action_columns: 3\n" = text := Except.ok.inj (hopened.symm.trans htext)
  with_unfolding_all rfl

/-- The settings of that tree have no flaw: their only field is a count, and no double. -/
theorem not_flaw_outlineFiles {cause : Settings.LoadError} :
    ¬ Settings.Flaw Yaml.read (outlineFiles.openText "c.yaml") cause := by
  have hfields (key : Settings.Key) : outlineLayout.field? key.name = none ∨
      key.isCount = true ∧ outlineLayout.field? key.name = some (.int 3) := by
    cases key <;> first | exact .inl rfl | exact .inr ⟨rfl, rfl⟩
  intro hflaw
  cases hflaw with
  | yaml hread => cases eq_of_reads_outlineFiles hread
  | description hread hdescription =>
    cases eq_of_reads_outlineFiles hread
    change Settings.DescriptionFlaw outlineLayout _ at hdescription
    cases hdescription with
    | shape hpresent hkind => exact hkind rfl
    | colours hpresent hkind => cases hpresent
    | @infinite key _ hcount hfield hinfinite =>
      rcases hfields key with h | ⟨-, h⟩ <;> cases h.symm.trans hfield
    | @integer key _ hreal hfield hhuge =>
      rcases hfields key with h | ⟨h, -⟩
      · cases h.symm.trans hfield
      · cases h.symm.trans hreal

/-- That tree is converted. -/
theorem isOk_convert_outlineFiles :
    (convert Yaml.read outlineOptions (outlineFiles.openText "c.yaml")
      (outlineFiles.openPath [] (Source.Path.ofText "d.pddl"))).2.isOk = true := by
  with_unfolding_all rfl

/-- The outline of a domain is written, with settings from a file. -/
theorem run_reports_outline :
    let arguments := ["--mode", "mind", "--config", "c.yaml", "d.pddl"]
    ∃ o report, parse arguments = .ok o ∧ o.output.filter (· != "") = none ∧
      runWith Yaml.read arguments outlineFiles = (.finished report, outlineFiles) ∧
      report.exit = 0 := by
  intro arguments
  have hparse : parse arguments = .ok outlineOptions := by with_unfolding_all rfl
  obtain ⟨hfiles, hresult | hmessage | ⟨failure, hflaw, -⟩ | hnovalue⟩ :=
    run_reports Yaml.read outlineFiles hparse rfl
  · obtain ⟨w, notices, v, -, -, hrun⟩ := hresult
    exact ⟨_, _, hparse, rfl, Prod.ext hrun hfiles, rfl⟩
  · obtain ⟨w, notices, failure, -, hconvert, -⟩ := hmessage
    have hisOk := isOk_convert_outlineFiles
    change (convert Yaml.read outlineOptions (outlineFiles.openText outlineOptions.configPath)
      (outlineFiles.openPath [] (Source.Path.ofText outlineOptions.source))).2.isOk = true at hisOk
    rw [hconvert] at hisOk
    cases hisOk
  · cases hflaw with
    | level hlevel =>
      have hthreshold : threshold outlineOptions.logLevel = .ok 30 := rfl
      cases hthreshold.symm.trans hlevel
    | settings hconfig hflaw => exact absurd hflaw not_flaw_outlineFiles
    | payload hmode => cases hmode
    | drawing hmode => cases hmode
  · cases hnovalue with
    | settings hconfig hread => cases eq_of_reads_outlineFiles hread
    | payload hmode => cases hmode

/-- A tree with one file. -/
def singleFile (name text : String) : FileTree where
  files := [([name], text)]

/-- Payloads with a predicate without a name and with an action that is no object, and settings that
are no object and no YAML, end a run without a report. -/
theorem run_fails_unreported :
    (parse ["d.json"] = .ok { source := "d.json" } ∧
      (run ["d.json"] (singleFile "d.json"
        "\x7b\"name\":\"d\",\"actions\":[],\"predicates\":[\x7b\x7d]\x7d")).1 =
        .failed (.source (.payload (.fault (.missingField "name")))) ∧
      (run ["d.json"] (singleFile "d.json" "\x7b\"name\":\"d\",\"actions\":[1]\x7d")).1 =
        .failed (.source (.payload (.fault (.noFields .int))))) ∧
    parse ["--config", "c.yaml"] = .ok { config := some "c.yaml" } ∧
      (run ["--config", "c.yaml"] (singleFile "c.yaml" "layout: 5")).1 =
        .failed (.settings (.settings (.fault (.noFields .int)))) ∧
      (run ["--config", "c.yaml"] (singleFile "c.yaml" "[")).1 =
        .failed (.settings (.yaml .malformed)) := by
  refine ⟨⟨rfl, rfl, rfl⟩, rfl, ?_, ?_⟩ <;> with_unfolding_all rfl

end CommandLine

end PlanDiagram
