import PlanDiagram.CommandLine.Conversion
import PlanDiagram.Yaml.Reader

/-!
# Running the command line

Whatever loads files takes the reader of YAML as an argument. Here it is the one of this library.
-/

namespace PlanDiagram

/-- Loads settings from a file that has been opened. -/
def Settings.load (path : String) (file : Source.Opened) : Except LoadError Settings :=
  loadWith Yaml.read path file

/-- Loads a payload. -/
def Source.loadStructure (path : String) (onDisk : Opened) : Except Error Structure :=
  loadStructureWith Yaml.read path onDisk

/-- Runs a command line on a tree of files. Gives the tree with the output, too. -/
def CommandLine.run (arguments : List String) (files : Source.FileTree) :
    Outcome × Source.FileTree :=
  runWith Yaml.read arguments files

end PlanDiagram
