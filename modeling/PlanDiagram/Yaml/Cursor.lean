import PlanDiagram.Yaml.Scalar

/-!
# Places in a text

The reader of YAML moves through a text with a cursor, which knows its column, since columns decide
what belongs to what. This module moves the cursor over gaps and scalars. Gaps are spaces, ends of
lines and comments; a tabulator is no gap. A scalar may be continued on further lines, of which
the first break counts as a space and each further one as a line feed.
-/

namespace PlanDiagram.Yaml

/-- What is left of a text, and the column at which it starts. -/
structure Cursor where
  column : Nat
  rest : List Char

/-- Tells whether a character ends a line. -/
def isBreak (c : Char) : Bool :=
  c == '\n' || c == '\r' || c == '\x85' || c == '\u2028' || c == '\u2029'

/-- Tells whether a character is white space of either kind. -/
def isSpace (c : Char) : Bool :=
  c == ' ' || c == '\t' || isBreak c

/-- Tells whether a text ends or goes on with white space. -/
def endsWord (cs : List Char) : Bool :=
  cs.head?.all isSpace

namespace Cursor

/-- Moves over characters of the same line. -/
def advance (c : Cursor) (count : Nat) : Cursor :=
  ⟨c.column + count, c.rest.drop count⟩

/-- Moves to where `rest` is left of the text. -/
def moveTo (c : Cursor) (rest : List Char) : Cursor :=
  let passed := c.rest.take (c.rest.length - rest.length)
  let lastLine := passed.reverse.takeWhile (!isBreak ·)
  ⟨if passed.any isBreak then lastLine.length else c.column + lastLine.length, rest⟩

/-- Moves over a gap from inside a comment or outside; tells also whether a line has ended. -/
def skipFrom (comment crossed : Bool) (column : Nat) : List Char → Cursor × Bool
  | [] => (⟨column, []⟩, crossed)
  | ch :: rest =>
    if isBreak ch then skipFrom false true 0 rest
    else if comment || ch == '#' then skipFrom true crossed (column + 1) rest
    else if ch == ' ' then skipFrom false crossed (column + 1) rest
    else (⟨column, ch :: rest⟩, crossed)

/-- Moves over a gap; tells also whether a line has ended in it. -/
def skip (c : Cursor) : Cursor × Bool :=
  skipFrom false false c.column c.rest

/-- Tells whether a mark of three characters stands at the start of a line. -/
def atMark (c : Cursor) (mark : String) : Bool :=
  c.column == 0 && mark.toList.isPrefixOf c.rest && endsWord (c.rest.drop 3)

/-- Tells whether the document ends here. -/
def atEnd (c : Cursor) : Bool :=
  c.rest.isEmpty || c.atMark "---" || c.atMark "..."

/-- Tells whether a dash stands here that starts an entry of a list. -/
def atDash (c : Cursor) : Bool :=
  match c.rest with
  | '-' :: rest => endsWord rest
  | _ => false

/-- Tells whether a colon stands here that ends a key; `loose` says that it need not be followed by
white space. -/
def atColon (c : Cursor) (loose : Bool) : Bool :=
  match c.rest with
  | ':' :: rest => loose || endsWord rest
  | _ => false

end Cursor

/-- What separates the two words of a scalar between which `breaks` lines end; `spaces` stand
between words of one line. -/
def separator (spaces : List Char) (breaks : Nat) : List Char :=
  match breaks with
  | 0 => spaces
  | 1 => [' ']
  | breaks + 1 => List.replicate breaks '\n'

/-- Reads on in a text between single quotes. `spaces` and `breaks` are the white space before, last
first, that has not been added yet. -/
def readSingle? (spaces : List Char) (breaks : Nat) : List Char → Option (List Char × List Char)
  | [] => none
  | '\'' :: '\'' :: rest => do
    let (text, rest) ← readSingle? [] 0 rest
    return (separator spaces.reverse breaks ++ '\'' :: text, rest)
  | '\'' :: rest => some (separator spaces.reverse breaks, rest)
  | c :: rest =>
    if isBreak c then readSingle? [] (breaks + 1) rest
    else if isSpace c then readSingle? (c :: spaces) breaks rest
    else do
      let (text, rest) ← readSingle? [] 0 rest
      return (separator spaces.reverse breaks ++ c :: text, rest)

/-- The characters that escapes of one letter stand for. -/
def escapes : List (Char × Char) := [
  ('0', '\x00'), ('a', '\x07'), ('b', '\x08'), ('t', '\t'), ('\t', '\t'), ('n', '\n'),
  ('v', '\x0b'), ('f', '\x0c'), ('r', '\r'), ('e', '\x1b'), (' ', ' '), ('"', '"'), ('/', '/'),
  ('\\', '\\'), ('N', '\x85'), ('_', '\xa0'), ('L', '\u2028'), ('P', '\u2029')]

/-- The numbers of digits in the escapes that give a code point. -/
def codeEscapes : List (Char × Nat) :=
  [('x', 2), ('u', 4), ('U', 8)]

/-- The character with a code point. A code point that is half of a pair is in no text here. -/
def charOfCode (code : Nat) : Except Failure Char :=
  if code.isValidChar then .ok (Char.ofNat code)
  else if code ≤ 0x10FFFF then .error .unsupported
  else if code < 0x80000000 then .error (.scalar "chr() arg not in range(0x110000)")
  else .error .malformed

/-- The character that an escape stands for, and the number of its characters after the
backslash. -/
def escapeAt : List Char → Except Failure (Char × Nat)
  | [] => .error .malformed
  | c :: rest =>
    match escapes.lookup c, codeEscapes.lookup c with
    | some meant, _ => .ok (meant, 1)
    | none, some width =>
      match if rest.length < width then none else Text.hexNumber? (rest.take width) with
      | some code => (charOfCode code).map fun meant => (meant, width + 1)
      | none => .error .malformed
    | none, none => .error .malformed

/-- Reads on in a text between double quotes; the first `passed` characters belong to an escape that
has been read. -/
def readDouble (spaces : List Char) (breaks passed : Nat) :
    List Char → Except Failure (List Char × List Char)
  | [] => .error .malformed
  | c :: rest =>
    match passed with
    | passed + 1 => readDouble spaces breaks passed rest
    | 0 =>
      if c == '"' then .ok (separator spaces.reverse breaks, rest)
      else if isBreak c then readDouble [] (breaks + 1) 0 rest
      else if isSpace c then readDouble (c :: spaces) breaks 0 rest
      else if c == '\\' then do
        let (meant, length) ← escapeAt rest
        let (text, rest) ← readDouble [] 0 length rest
        return (separator spaces.reverse breaks ++ meant :: text, rest)
      else do
        let (text, rest) ← readDouble [] 0 0 rest
        return (separator spaces.reverse breaks ++ c :: text, rest)

/-- Reads a quoted scalar, if a quote stands here. -/
def Cursor.quoted? (c : Cursor) : Option (Except Failure (String × Cursor)) :=
  let result : Option (Except Failure (List Char × List Char)) :=
    match c.rest with
    | '\'' :: rest => some ((readSingle? [] 0 rest).elim (.error .malformed) .ok)
    | '"' :: rest => some (readDouble [] 0 0 rest)
    | _ => none
  result.map fun read => read.map fun (text, rest) => (String.ofList text, c.moveTo rest)

/-- The characters that end a word in brackets. -/
def isFlowMark (c : Char) : Bool :=
  c == ',' || c == '?' || c == '[' || c == ']' || c == '\x7b' || c == '\x7d'

/-- The characters that start no plain scalar. -/
def indicators : List Char :=
  "-?:,[]\x7b\x7d#&*!|>'\"%@`".toList

/-- The characters that start what is not supported: directives, anchors, aliases, tags, block
scalars, keys with marks and keys that are nothing. -/
def unsupportedMarks : List Char :=
  "%&*!|>?:".toList

/-- Tells whether a plain scalar starts here; `flow` says that it stands in brackets. -/
def startsPlain (flow : Bool) (cs : List Char) : Bool :=
  match cs with
  | [] => false
  | c :: rest =>
    (!isSpace c && !indicators.contains c) ||
      (!endsWord rest && (c == '-' || (!flow && (c == '?' || c == ':'))))

/-- Tells whether a colon before the given text ends a word. -/
def endsKey (flow : Bool) (cs : List Char) : Bool :=
  endsWord cs || (flow && (cs.head?.any fun c => isFlowMark c && c != '?'))

/-- The word at the front of a text, and the rest. -/
def spanWord (flow : Bool) : List Char → List Char × List Char
  | [] => ([], [])
  | c :: rest =>
    if isSpace c || (c == ':' && endsKey flow rest) || (flow && isFlowMark c) then ([], c :: rest)
    else
      let (word, rest) := spanWord flow rest
      (c :: word, rest)

/-- Moves over spaces and ends of lines; gives the spaces before the first break, and the number of
breaks. -/
def spanSpaces (c : Cursor) : List Char × Nat × Cursor :=
  let spaces := c.rest.takeWhile (· == ' ')
  let passed := c.rest.takeWhile fun ch => ch == ' ' || isBreak ch
  let onLine := c.rest.drop spaces.length
  if onLine.head?.any isBreak then
    (spaces, (passed.filter isBreak).length, c.moveTo (c.rest.drop passed.length))
  else (spaces, 0, c.advance spaces.length)

/-- Reads the words of a plain scalar as long as they stand at the column `least` or further to the
right; brackets set no limit. Gives the scalar and the cursor after its last word. -/
def readWords (fuel : Nat) (flow : Bool) (least : Nat) (c : Cursor) : List Char × Cursor :=
  match fuel with
  | 0 => ([], c)
  | fuel + 1 =>
    let (word, rest) := spanWord flow c.rest
    let afterWord := c.advance word.length
    let (spaces, breaks, next) := spanSpaces ⟨afterWord.column, rest⟩
    if word.isEmpty || next.atEnd || next.rest.head? == some '#' ||
      (spaces.isEmpty && breaks == 0) ||
      (!flow && breaks != 0 && next.column < least) then (word, afterWord)
    else
      let (words, last) := readWords fuel flow least next
      if words.isEmpty then (word, afterWord)
      else (word ++ separator spaces breaks ++ words, last)

/-- Reads a plain scalar. -/
def Cursor.plain? (c : Cursor) (flow : Bool) (least : Nat) : Option (String × Cursor) :=
  if startsPlain flow c.rest then
    let (text, c) := readWords (c.rest.length + 1) flow least c
    some (String.ofList text, c)
  else none

end PlanDiagram.Yaml
