import PlanDiagram.CommandLine.Failure
import PlanDiagram.CommandLine.Options
import PlanDiagram.Diagram.Conversion
import PlanDiagram.Json.Printer
import PlanDiagram.Outline.OfDocument

/-!
# Carrying out the command line

A source is converted to a diagram or an outline, which is written as JSON. What the files hold is
given as arguments, and so is the reader of YAML, so that a conversion is a function of the command
line, the files and the reader; `runWith` takes the files from a tree and puts the output there.
-/

namespace PlanDiagram.CommandLine

open PlanDiagram.Source (Opened FileTree)

/-- The names of levels of notices with their weights. -/
def levelWeights : List (String × Nat) := [
  ("NOTSET", 0), ("DEBUG", 10), ("INFO", 20), ("WARN", 30), ("WARNING", 30), ("ERROR", 40),
  ("FATAL", 50), ("CRITICAL", 50)]

/-- Names that are taken: by the default form of notices, which is a text, and by the table of
styles, which is none. -/
def reservedLevels : List (String × Option String) := [
  ("BASIC_FORMAT", some "%(levelname)s:%(name)s:%(message)s"), ("_STYLES", none)]

/-- The least weight of notices that are shown. A name that is no level stands for warnings. -/
def threshold (level : String) : Except Failure Nat :=
  let name := String.ofList (level.toList.flatMap Text.titleChar)
  match reservedLevels.lookup name with
  | some found => .error (.reservedLevel found)
  | none => .ok ((levelWeights.lookup name).getD Level.warning.weight)

/-- The settings that a command line names, or the default ones. -/
def settingsOf (yaml : Yaml.Reader) (o : Options) (config : Opened) : Except Failure Settings :=
  match o.config.filter (· != "") with
  | some path => (Settings.loadWith yaml path config).mapError .settings
  | none => .ok {}

/-- Draws a diagram. Notices tell of the drawing if it succeeds. -/
def drawing (s : Settings) (found : Structure) : List Notice × Except Failure Value :=
  match (Diagram.structureBlocks (Diagram.Config.ofSettings s) {} found).2 with
  | .error cause => ([], .error (.drawing cause))
  | .ok blocks =>
    let elements := (Diagram.blockElements blocks).mapM Diagram.Element.toValue
    let diagram := elements.map fun vs => .object [("type", .text "graph"), ("elements", .list vs)]
    (Diagram.structureNotices found blocks, diagram.mapError .drawing)

/-- Converts a planning text. -/
def convertText (mode : Mode) (s : Settings) (text : String) : List Notice × Except Failure Value :=
  let notices := Document.notices text
  match mode with
  | .mind =>
    let outline := (Document.read text).map fun document =>
      Value.object [("type", .text "mind"), ("root", (Outline.ofDocument document).rootValue)]
    (notices, outline.mapError .document)
  | .graph =>
    match Document.readPrimary text with
    | .error cause => (notices, .error (.document cause))
    | .ok found =>
      let (more, diagram) := drawing s found
      (notices ++ more, diagram)

/-- Converts a source of either kind with given settings. -/
def convertSource (yaml : Yaml.Reader) (o : Options) (s : Settings) (source : Opened) :
    List Notice × Except Failure Value :=
  let located := Source.notices o.source source
  if (Source.Path.ofText o.source).namesPayload then
    if o.mode == .mind then ([], .error .outlineOfPayload)
    else
      match Source.loadStructureWith yaml o.source source with
      | .error cause => (located, .error (.source cause))
      | .ok found =>
        let (more, diagram) := drawing s found
        (located ++ more, diagram)
  else
    match Source.loadText o.source source with
    | .error cause => (located, .error (.source cause))
    | .ok text =>
      let (more, result) := convertText o.mode s text
      (located ++ more, result)

/-- Converts the source that a command line names. Gives the notices on the way, too. -/
def convert (yaml : Yaml.Reader) (o : Options) (config source : Opened) :
    List Notice × Except Failure Value :=
  match settingsOf yaml o config with
  | .error failure => ([], .error failure)
  | .ok s => convertSource yaml o s source

/-- What a run shows, and with which status it ends. -/
structure Report where
  exit : Nat
  out : String := ""
  err : String := ""
deriving DecidableEq, Repr

/-- How a run ends. -/
inductive Outcome where
  /-- With a report. -/
  | finished (report : Report)
  /-- Without carrying out the command line. -/
  | refused (refusal : Refusal)
  /-- With a failure that is not reported. -/
  | failed (failure : Failure)
deriving Repr

/-- The lines for the notices of at least the given weight. -/
def shown (threshold : Nat) (notices : List Notice) : String :=
  String.join ((notices.filter fun n => threshold ≤ n.level.weight).map (·.line ++ "\n"))

/-- The topic of notices about the run. -/
def topic : String :=
  "pddlviz.cli"

/-- What is to be done after a conversion: end the run, or write a text into a file first. -/
inductive Step where
  | stop (outcome : Outcome)
  | write (path text : String) (notices : List Notice)
deriving Repr

/-- What is to be done after a conversion with the given notices and result. -/
def conclude (o : Options) (threshold : Nat) (notices : List Notice)
    (result : Except Failure Value) : Step :=
  match result with
  | .error failure =>
    if failure.isReported then
      let line := "error: " ++ failure.message ++ "\n"
      .stop (.finished { exit := 1, err := shown threshold notices ++ line })
    else .stop (.failed failure)
  | .ok v =>
    let text := Json.write v ++ "\n"
    match o.output.filter (· != "") with
    | some path => .write path text notices
    | none => .stop (.finished { exit := 0, out := text, err := shown threshold notices })

/-- How a run ends when the output has been written, or could not be. -/
def concludeWriting (threshold : Nat) (path : String) (notices : List Notice)
    (written : Except Source.OpenFault Unit) : Outcome :=
  match written with
  | .error cause => .failed (.output cause path)
  | .ok () =>
    let notices := notices ++ [⟨.info, topic, "Wrote " ++ path⟩]
    .finished { exit := 0, err := shown threshold notices }

/-- The path of the settings, which is opened only if it is not empty. -/
def Options.configPath (o : Options) : String :=
  o.config.getD ""

/-- Runs a command line on a tree of files. Gives the tree with the output, too. -/
def runWith (yaml : Yaml.Reader) (arguments : List String) (files : FileTree) :
    Outcome × FileTree :=
  match parse arguments with
  | .error refusal => (.refused refusal, files)
  | .ok o =>
    match threshold o.logLevel with
    | .error failure => (.failed failure, files)
    | .ok threshold =>
      let config := files.openText o.configPath
      let source := files.openPath [] (Source.Path.ofText o.source)
      let (notices, result) := convert yaml o config source
      match conclude o threshold notices result with
      | .stop outcome => (outcome, files)
      | .write path text notices =>
        match files.write path text with
        | .error cause => (concludeWriting threshold path notices (.error cause), files)
        | .ok files => (concludeWriting threshold path notices (.ok ()), files)

end PlanDiagram.CommandLine
