import PlanDiagram.Text.LetterCase
import PlanDiagram.Text.Quoted

/-!
# Paths

A path names a file by the directories to go through. Its text is written in one way only: without
empty parts, without the dot that stands for the same directory, and without a slash at the end.
-/

namespace PlanDiagram.Source

/-- A path; `root` is the text in front of the first part of an absolute one. -/
structure Path where
  root : String := ""
  parts : List String
deriving DecidableEq, Repr

namespace Path

/-- Cuts a text at slashes. -/
def splitAtSlashes : List Char → List (List Char)
  | [] => [[]]
  | '/' :: rest => [] :: splitAtSlashes rest
  | c :: rest =>
    match splitAtSlashes rest with
    | [] => [[c]]
    | part :: parts => (c :: part) :: parts

/-- The parts of a text between slashes, without empty ones. -/
def words (s : String) : List String :=
  ((splitAtSlashes s.toList).filter (!·.isEmpty)).map String.ofList

/-- The root of a path: two slashes in front are kept, and any other number counts as one. -/
def rootOf (cs : List Char) : String :=
  match (cs.takeWhile (· == '/')).length with
  | 0 => ""
  | 2 => "//"
  | _ => "/"

/-- Reads a path. -/
def ofText (s : String) : Path where
  root := rootOf s.toList
  parts := (words s).filter (· != ".")

/-- The text of a path. -/
def text (p : Path) : String :=
  let text := p.root ++ "/".intercalate p.parts
  if text == "" then "." else text

/-- Drops the first part of a path if it is the given name. -/
def dropLeading (name : String) (p : Path) : Path :=
  match p.root, p.parts with
  | "", part :: rest => if part == name then { parts := rest } else p
  | _, _ => p

/-- The ending of the last part from its last dot on. A name that starts with its only dot or ends
in a dot has none. -/
def suffix (p : Path) : String :=
  let name := (p.parts.getLast?.getD "").toList
  let ending := (name.reverse.takeWhile (· != '.')).reverse
  if ending.isEmpty || name.length ≤ ending.length + 1 then ""
  else String.ofList ('.' :: ending)

/-- The endings of files that hold payloads. -/
def payloadSuffixes : List String :=
  [".yaml", ".yml", ".json"]

/-- Tells whether a path names a file with a payload, in any letter case of its ending. -/
def namesPayload (p : Path) : Bool :=
  payloadSuffixes.contains (Text.lower p.suffix)

/-- Tells whether a path names a file in JSON. -/
def namesJson (p : Path) : Bool :=
  Text.lower p.suffix == ".json"

end Path

end PlanDiagram.Source
