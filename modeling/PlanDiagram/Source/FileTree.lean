import PlanDiagram.Entries
import PlanDiagram.Source.Path

/-!
# Trees of files

Files below a directory, by their paths from there. The directories are those through which the
paths go. What lies outside is unknown, except that there are directories above. Opening a file
fails in one of three ways, each with a number and a wording.
-/

namespace PlanDiagram.Source

/-- Why a file cannot be opened. -/
inductive OpenFault where
  | missing
  | notDirectory
  | isDirectory
deriving DecidableEq, Repr

/-- The number of a fault. -/
def OpenFault.number : OpenFault → Nat
  | .missing => 2
  | .notDirectory => 20
  | .isDirectory => 21

/-- The wording of a fault, for the path as it was given. -/
def OpenFault.message (fault : OpenFault) (path : String) : String :=
  let text :=
    match fault with
    | .missing => "No such file or directory"
    | .notDirectory => "Not a directory"
    | .isDirectory => "Is a directory"
  "[Errno " ++ toString fault.number ++ "] " ++ text ++ ": " ++ Text.quoted path

/-- What opening a file for reading gives: its text. -/
abbrev Opened := Except OpenFault String

/-- Files by their paths. -/
structure FileTree where
  files : List (List String × String)

namespace FileTree

/-- A place that a path leads to. -/
inductive Place where
  | directory (path : List String)
  | file (text : String)
  | outside

/-- What has the given name in a directory. -/
def child? (t : FileTree) (directory : List String) (name : String) : Option Place :=
  let path := directory ++ [name]
  match t.files.lookup path with
  | some text => some (.file text)
  | none => if t.files.any fun file => path.isPrefixOf file.1 then some (.directory path) else none

/-- Goes on from a place by names; a dot stays, and two dots go up. -/
def walk (t : FileTree) : Place → List String → Except OpenFault Place
  | place, [] => .ok place
  | .file _, _ :: _ => .error .notDirectory
  | .outside, name :: rest =>
    if name == "." || name == ".." then walk t .outside rest else .error .missing
  | .directory path, name :: rest =>
    if name == "." then walk t (.directory path) rest
    else if name == ".." then
      if path.isEmpty then walk t .outside rest else walk t (.directory path.dropLast) rest
    else
      match t.child? path name with
      | some place => walk t place rest
      | none => .error .missing

/-- The text of a file at a place. -/
def Place.read : Place → Opened
  | .file text => .ok text
  | .directory _ | .outside => .error .isDirectory

/-- Where a path starts that is taken from a directory. -/
def start (directory : List String) (root : String) : Place :=
  if root == "" then .directory directory else .outside

/-- Opens the file that a path leads to from a directory. -/
def openPath (t : FileTree) (directory : List String) (p : Path) : Opened := do
  (← t.walk (start directory p.root) p.parts).read

/-- The names in a path as it was given; a slash at the end demands a directory. -/
def names (s : String) : List String :=
  let names := Path.words s
  if names.isEmpty || s.toList.getLast? != some '/' then names else names ++ ["."]

/-- Opens the file with the given path as it stands. -/
def openText (t : FileTree) (s : String) : Opened := do
  if s == "" then throw .missing
  (← t.walk (start [] (Path.rootOf s.toList)) (names s)).read

/-- The tree with the given files, a later one in place of an earlier one with the same path. -/
def ofFiles (files : List (String × String)) : FileTree where
  files := files.foldl (fun files file => Entries.put (Path.ofText file.1).parts file.2 files) []

/-- Writes a text into the file with the given path, which may be new. What is written outside is
not kept. -/
def write (t : FileTree) (s text : String) : Except OpenFault FileTree := do
  let place ← t.walk (start [] (Path.rootOf s.toList)) (Path.words s).dropLast
  match place, (Path.words s).getLast? with
  | _, none => throw (if s == "" then .missing else .isDirectory)
  | .file _, some _ => throw .notDirectory
  | .outside, some name => if name == "." || name == ".." then throw .isDirectory else return t
  | .directory path, some name =>
    let isNamedAsDirectory := s.toList.getLast? == some '/'
    if name == "." || name == ".." then throw .isDirectory
    match t.child? path name, isNamedAsDirectory with
    | some (.file _), true => throw .notDirectory
    | some (.directory _), _ | some .outside, _ | none, true => throw .isDirectory
    | some (.file _), false | none, false =>
      return { files := Entries.put (path ++ [name]) text t.files }

end FileTree

/-- A text with one kind of end of line: a carriage return, alone or before a line feed, becomes a
line feed. -/
def unifyLineEnds : List Char → List Char
  | [] => []
  | '\r' :: '\n' :: rest => '\n' :: unifyLineEnds rest
  | c :: rest => (if c == '\r' then '\n' else c) :: unifyLineEnds rest

end PlanDiagram.Source
