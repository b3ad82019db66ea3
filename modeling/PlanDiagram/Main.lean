import PlanDiagram.CommandLine.Run

/-!
# The program

Reads the files that the command line names, converts, and shows or writes the outcome. What is done
is decided by `CommandLine`; here files are opened and texts are printed.
-/

namespace PlanDiagram

open CommandLine

/-- Why the system could not open a file. -/
def openFault : IO.Error → Source.OpenFault
  | .noFileOrDirectory .. => .missing
  | .inappropriateType .. => .notDirectory
  | _ => .isDirectory

/-- Opens a file for reading. -/
def readFile (path : String) : IO Source.Opened := do
  try
    return .ok (← IO.FS.readFile path)
  catch e => return .error (openFault e)

/-- Writes a text into a file. -/
def writeFile (path text : String) : IO (Except Source.OpenFault Unit) := do
  try
    IO.FS.writeFile path text
    return .ok ()
  catch e => return .error (openFault e)

/-- The file of settings, if one is named. -/
def readConfig (o : Options) : IO Source.Opened := do
  if o.configPath == "" then return .error .missing else readFile o.configPath

/-- Shows how a run ended, and gives its status. -/
def present : Outcome → IO UInt32
  | .finished report => do
    IO.print report.out
    IO.eprint report.err
    return UInt32.ofNat report.exit
  | .refused refusal => do
    IO.eprintln <| "usage: [-h] [--mode graph|mind] [--config FILE] [--output FILE] " ++
      "[--log-level LEVEL] [source]"
    return UInt32.ofNat refusal.exit
  | .failed failure => do
    IO.eprintln failure.message
    return 1

/-- Runs a command line. -/
def runOnDisk (arguments : List String) : IO Outcome := do
  match parse arguments with
  | .error refusal => return .refused refusal
  | .ok o =>
    match threshold o.logLevel with
    | .error failure => return .failed failure
    | .ok threshold =>
      let config ← readConfig o
      let source ← readFile (Source.Path.ofText o.source).text
      let (notices, result) := convert Yaml.read o config source
      match conclude o threshold notices result with
      | .stop outcome => return outcome
      | .write path text notices =>
        return concludeWriting threshold path notices (← writeFile path text)

end PlanDiagram

/-- Runs the command line with which the program was called. -/
def main (arguments : List String) : IO UInt32 := do
  PlanDiagram.present (← PlanDiagram.runOnDisk arguments)
