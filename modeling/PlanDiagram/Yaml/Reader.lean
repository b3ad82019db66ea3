import PlanDiagram.Entries
import PlanDiagram.Yaml.Cursor

/-!
# Reading YAML

A document is a scalar, a list or an object. Lists and objects are written in brackets, or over
several lines of which those of one list or object start in the same column and those of what they
hold further to the right; only a list may start in the column of its key. Keys are texts. Anchors,
tags, block scalars and directives are not supported. Every reader takes a bound for the depth of
its recursion, for which three steps for each character are enough.
-/

namespace PlanDiagram.Yaml

/-- The text of a key. Lists and objects are no keys, and other scalars than texts are keys of no
object. -/
def keyName : Value → Except Failure String
  | .text s => .ok s
  | .list _ | .object _ => .error .malformed
  | _ => .error .unsupported

/-- Reads a scalar that is no longer than a line, unless it is quoted. -/
def scalar (c : Cursor) (flow : Bool) (least : Nat) : Except Failure (Value × Cursor) :=
  match c.quoted? with
  | some quoted => quoted.map fun (s, c) => (.text s, c)
  | none =>
    match c.plain? flow least with
    | some (s, c) => (resolve s).map fun v => (v, c)
    | none =>
      if c.rest.head?.any unsupportedMarks.contains then .error .unsupported
      else .error .malformed

/-- Reads a key on one line with the colon after it. -/
def key (c : Cursor) : Except Failure (String × Cursor) := do
  let line := c.rest.takeWhile (!isBreak ·)
  let (v, last) ← scalar ⟨c.column, line⟩ false 0
  let (last, _) := last.skip
  if last.atColon false then
    let passed := line.length - last.rest.length
    return (← keyName v, c.advance (passed + 1))
  else throw .malformed

mutual

/-- Reads a value in brackets. -/
def flowValue (fuel : Nat) (c : Cursor) : Except Failure (Value × Cursor) :=
  match fuel with
  | 0 => .error .malformed
  | fuel + 1 =>
    match c.rest with
    | '[' :: _ => flowEntries fuel [] (c.advance 1).skip.1
    | '\x7b' :: _ => flowFields fuel [] (c.advance 1).skip.1
    | _ => scalar c true 0

/-- Reads what follows a colon in brackets. -/
def flowAfterColon (fuel : Nat) (c : Cursor) : Except Failure (Value × Cursor) :=
  match fuel with
  | 0 => .error .malformed
  | fuel + 1 =>
    if c.rest.head?.any fun ch => ch == ',' || ch == ']' || ch == '\x7d' then return (.null, c)
    else flowValue fuel c

/-- Reads a key in brackets, which may have a mark in front, with the value after the colon that may
follow on the same line. A value without a colon is given as such. -/
def flowPair (fuel : Nat) (c : Cursor) : Except Failure ((Value × Option Value) × Cursor) :=
  match fuel with
  | 0 => .error .malformed
  | fuel + 1 => do
    let marked := c.rest.head? == some '?'
    let start := if marked then (c.advance 1).skip.1 else c
    let (key, last) ← flowValue fuel start
    let (next, crossed) := last.skip
    if next.atColon true && (marked || !crossed) then
      let (v, last) ← flowAfterColon fuel (next.advance 1).skip.1
      return ((key, some v), last.skip.1)
    else return ((key, if marked then some .null else none), next)

/-- Reads the entries of a list in brackets from an entry or the end on; `entries` are those before,
last first. -/
def flowEntries (fuel : Nat) (entries : List Value) (c : Cursor) :
    Except Failure (Value × Cursor) :=
  match fuel with
  | 0 => .error .malformed
  | fuel + 1 =>
    match c.rest with
    | ']' :: _ => return (.list entries.reverse, c.advance 1)
    | _ => do
      let ((first, second), c) ← flowPair fuel c
      let entry ←
        match second with
        | some v => do pure (Value.object [(← keyName first, v)])
        | none => pure first
      match c.rest with
      | ',' :: _ => flowEntries fuel (entry :: entries) (c.advance 1).skip.1
      | ']' :: _ => return (.list (entry :: entries).reverse, c.advance 1)
      | _ => throw .malformed

/-- Reads the fields of an object in brackets from a key or the end on; `fields` are those
before. -/
def flowFields (fuel : Nat) (fields : List (String × Value)) (c : Cursor) :
    Except Failure (Value × Cursor) :=
  match fuel with
  | 0 => .error .malformed
  | fuel + 1 =>
    match c.rest with
    | '\x7d' :: _ => return (.object fields, c.advance 1)
    | _ => do
      let ((key, v), c) ← flowPair fuel c
      let fields := Entries.put (← keyName key) (v.getD .null) fields
      match c.rest with
      | ',' :: _ => flowFields fuel fields (c.advance 1).skip.1
      | '\x7d' :: _ => return (.object fields, c.advance 1)
      | _ => throw .malformed

end

/-- Reads a scalar or a value in brackets. -/
def inline (fuel : Nat) (least : Nat) (c : Cursor) : Except Failure (Value × Cursor) :=
  match c.rest with
  | '[' :: _ | '\x7b' :: _ => flowValue fuel c
  | _ => scalar c false least

mutual

/-- Reads a value that stands in the column `least` or further to the right, or a list over several
lines from `leastDash` on; nothing stands for a value that does not. Lists and objects over several
lines have to start on a line of their own or after a dash, which `fresh` says. -/
def blockValue (fuel : Nat) (fresh : Bool) (least leastDash : Nat) (c : Cursor) :
    Except Failure (Value × Cursor) :=
  match fuel with
  | 0 => .error .malformed
  | fuel + 1 =>
    let (c, crossed) := c.skip
    let fresh := fresh || crossed
    if c.atEnd || c.column < (if c.atDash then leastDash else least) then return (.null, c)
    else if c.atDash then
      if fresh then blockEntries fuel c.column [] c else throw .malformed
    else if fresh then
      match key c with
      | .ok _ => blockFields fuel c.column [] c
      | .error .unsupported => throw .unsupported
      | .error _ => inline fuel least c
    else inline fuel least c

/-- Reads the entries of a list over several lines, the dashes of which stand in a column. -/
def blockEntries (fuel : Nat) (column : Nat) (entries : List Value) (c : Cursor) :
    Except Failure (Value × Cursor) :=
  match fuel with
  | 0 => .error .malformed
  | fuel + 1 => do
    let (v, c) ← blockValue fuel true (column + 1) (column + 1) (c.advance 1)
    let (next, _) := c.skip
    if next.column == column && next.atDash && !next.atEnd then
      blockEntries fuel column (v :: entries) next
    else return (.list (v :: entries).reverse, next)

/-- Reads the fields of an object over several lines, the keys of which start in a column. -/
def blockFields (fuel : Nat) (column : Nat) (fields : List (String × Value)) (c : Cursor) :
    Except Failure (Value × Cursor) :=
  match fuel with
  | 0 => .error .malformed
  | fuel + 1 => do
    let (name, c) ← key c
    let (v, c) ← blockValue fuel false (column + 1) column c
    let (next, _) := c.skip
    let fields := Entries.put name v fields
    if next.atEnd || next.column < column then return (.object fields, next)
    else if next.column == column then blockFields fuel column fields next
    else throw .malformed

end

/-- Tells whether a character may stand in a document. -/
def isAllowed (c : Char) : Bool :=
  let n := c.toNat
  c == '\t' || c == '\n' || c == '\r' || (0x20 ≤ n && n ≤ 0x7E) || n == 0x85 ||
    (0xA0 ≤ n && n ≤ 0xFFFD) || 0x10000 ≤ n

/-- Moves over the marks that end a document, after which nothing else may follow. -/
def finish (fuel : Nat) (c : Cursor) : Except Failure Unit :=
  match fuel with
  | 0 => .error .malformed
  | fuel + 1 =>
    let (c, _) := c.skip
    if c.rest.isEmpty then .ok ()
    else if c.atMark "..." then finish fuel (c.advance 3)
    else .error .malformed

/-- Reads the value that a text writes. -/
def read (s : String) : Except Failure Value := do
  let cs :=
    match s.toList with
    | '\uFEFF' :: rest => rest
    | cs => cs
  if !cs.all isAllowed then throw .malformed
  else
    let fuel := 3 * cs.length + 3
    let (start, _) := Cursor.skip ⟨0, cs⟩
    let marked := start.atMark "---"
    let start := if marked then start.advance 3 else start
    let (v, last) ← blockValue fuel (!marked) 0 0 start
    finish fuel last
    return v

end PlanDiagram.Yaml
