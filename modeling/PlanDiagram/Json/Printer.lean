import PlanDiagram.Text.Quoted
import PlanDiagram.Value.Basic

/-!
# Writing JSON

A value is written over several lines, each entry of a list and each field of an object on its own
line and two columns further to the right than what holds it. Only the characters that may not stand
in a quoted text are escaped.
-/

namespace PlanDiagram.Json

/-- The number of columns by which entries and fields are moved to the right. -/
def indentWidth : Nat :=
  2

/-- A character as it stands in a quoted text. -/
def quoteChar (c : Char) : List Char :=
  if c == '"' || c == '\\' then ['\\', c]
  else if c == '\n' then ['\\', 'n']
  else if c == '\r' then ['\\', 'r']
  else if c == '\t' then ['\\', 't']
  else if c == '\x08' then ['\\', 'b']
  else if c == '\x0c' then ['\\', 'f']
  else if c.toNat < 0x20 then '\\' :: 'u' :: Text.hexDigits 4 c.toNat
  else [c]

/-- A quoted text. -/
def quoted (s : String) : String :=
  String.ofList ('"' :: s.toList.flatMap quoteChar ++ ['"'])

/-- A double, with names for what is no finite number. -/
def writeFloat (x : Float) : String :=
  match Number.Binary.ofFloat x with
  | .notANumber => "NaN"
  | .infinite negative => if negative then "-Infinity" else "Infinity"
  | .finite .. => Number.writeFloat x

/-- The start of a line at a depth. -/
def lineStart (depth : Nat) : String :=
  String.ofList ('\n' :: List.replicate (indentWidth * depth) ' ')

/-- Puts the lines of entries or fields at a depth between brackets. -/
def bracket (opening closing : String) (depth : Nat) (lines : List String) : String :=
  if lines.isEmpty then opening ++ closing
  else
    let start := lineStart (depth + 1)
    opening ++ start ++ ("," ++ start).intercalate lines ++ lineStart depth ++ closing

mutual

/-- Writes a value that stands at a depth. -/
def writeAt (depth : Nat) : Value → String
  | .null => "null"
  | .bool b => if b then "true" else "false"
  | .int n => Number.writeInt n
  | .float x => writeFloat x
  | .text s => quoted s
  | .list entries => bracket "[" "]" depth (writeEntries (depth + 1) entries)
  | .object fields => bracket "\x7b" "\x7d" depth (writeFields (depth + 1) fields)

/-- Writes the entries of a list. -/
def writeEntries (depth : Nat) : List Value → List String
  | [] => []
  | v :: rest => writeAt depth v :: writeEntries depth rest

/-- Writes the fields of an object. -/
def writeFields (depth : Nat) : List (String × Value) → List String
  | [] => []
  | (name, v) :: rest => (quoted name ++ ": " ++ writeAt depth v) :: writeFields depth rest

end

/-- Writes a value. -/
def write (v : Value) : String :=
  writeAt 0 v

end PlanDiagram.Json
