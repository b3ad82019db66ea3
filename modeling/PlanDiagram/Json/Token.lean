import PlanDiagram.Text.Hexadecimal
import PlanDiagram.Value.Basic

/-!
# Tokens of JSON

A JSON text is cut into brackets, separators, numbers, names and quoted texts, each with its place
in the text. A number or a quoted text that cannot be read is a token all the same, since a reader
that wanted something else there reports that first; so is a character that starts no token.
-/

namespace PlanDiagram.Json

/-- What is wrong at a place of a text. -/
inductive Cause where
  | valueExpected
  | nameExpected
  | colonExpected
  | commaExpected
  | extraData
  | unterminatedText
  | controlCharacter
  | invalidEscape
  | invalidCodeUnit
  | byteOrderMark
  /-- An integer has too many digits. -/
  | longInteger (digits : Nat)
  /-- A quoted text has half of a pair of code units on its own, which is in no text here. -/
  | loneUnit
deriving DecidableEq, Repr

/-- The wording of a cause. -/
def Cause.message : Cause → String
  | .valueExpected => "Expecting value"
  | .nameExpected => "Expecting property name enclosed in double quotes"
  | .colonExpected => "Expecting ':' delimiter"
  | .commaExpected => "Expecting ',' delimiter"
  | .extraData => "Extra data"
  | .unterminatedText => "Unterminated string starting at"
  | .controlCharacter => "Invalid control character at"
  | .invalidEscape => "Invalid \\escape"
  | .invalidCodeUnit => "Invalid \\uXXXX escape"
  | .byteOrderMark => "Unexpected UTF-8 BOM (decode using utf-8-sig)"
  | .longInteger digits => Number.tooManyDigits digits
  | .loneUnit => "Lone code unit in the string starting at"

/-- What is wrong, and before how many characters of the text. -/
structure Defect where
  cause : Cause
  index : Nat
deriving DecidableEq, Repr

/-- A token. -/
inductive Token where
  | openList
  | closeList
  | openObject
  | closeObject
  | colon
  | comma
  | value (result : Except Defect Value)
  | quoted (result : Except Defect String)
  | stray

/-- Tells whether a character only separates tokens. -/
def isSpace (c : Char) : Bool :=
  c == ' ' || c == '\t' || c == '\n' || c == '\r'

/-- The character that an escape of one letter stands for. -/
def escaped? : Char → Option Char
  | '"' => some '"'
  | '\\' => some '\\'
  | '/' => some '/'
  | 'b' => some '\x08'
  | 'f' => some '\x0c'
  | 'n' => some '\n'
  | 'r' => some '\r'
  | 't' => some '\t'
  | _ => none

/-- Joins the two halves in which code units of sixteen bits write a high code point. -/
def joinUnits : List Nat → List Nat
  | high :: low :: rest =>
    if 0xD800 ≤ high && high < 0xDC00 && 0xDC00 ≤ low && low < 0xE000 then
      (0x10000 + (high - 0xD800) * 0x400 + (low - 0xDC00)) :: joinUnits rest
    else high :: joinUnits (low :: rest)
  | units => units

/-- The text with the given code units, none of which may be half of a pair on its own. -/
def textOfUnits? (units : List Nat) : Option String :=
  let codes := joinUnits units
  if codes.all fun n => decide n.isValidChar then some (String.ofList (codes.map Char.ofNat))
  else none

/-- Reads a quoted text from after its opening quote, which stands at `start`, on. `index` is the
place in the text, and `units` are the code units read, last first. Gives the place after the
closing quote too. -/
def readQuoted (start index : Nat) (units : List Nat) :
    List Char → Except Defect (String × Nat)
  | [] => .error ⟨.unterminatedText, start⟩
  | '"' :: _ =>
    match textOfUnits? units.reverse with
    | some s => .ok (s, index + 1)
    | none => .error ⟨.loneUnit, start⟩
  | ['\\'] => .error ⟨.unterminatedText, start⟩
  | '\\' :: 'u' :: a :: b :: c :: d :: e :: rest =>
    match Text.hexNumber? [a, b, c, d] with
    | some unit => readQuoted start (index + 6) (unit :: units) (e :: rest)
    | none => .error ⟨.invalidCodeUnit, index + 1⟩
  | '\\' :: 'u' :: _ => .error ⟨.invalidCodeUnit, index + 1⟩
  | '\\' :: c :: rest =>
    match escaped? c with
    | some c => readQuoted start (index + 2) (c.toNat :: units) rest
    | none => .error ⟨.invalidEscape, index⟩
  | c :: rest =>
    if c.toNat < 0x20 then .error ⟨.controlCharacter, index⟩
    else readQuoted start (index + 1) (c.toNat :: units) rest

/-- The digits at the front of a text, and the rest. -/
def spanDigits (cs : List Char) : List Char × List Char :=
  (cs.takeWhile Char.isDigit, cs.dropWhile Char.isDigit)

/-- The whole part of a number without its sign: zero, or digits that do not start with zero. -/
def wholePart (cs : List Char) : List Char :=
  match cs with
  | '0' :: _ => ['0']
  | _ => (spanDigits cs).1

/-- The point with the digits after it, if the text starts with them. -/
def fractionPart : List Char → List Char
  | '.' :: rest => if (spanDigits rest).1.isEmpty then [] else '.' :: (spanDigits rest).1
  | _ => []

/-- The exponent with its mark, if the text starts with one. -/
def exponentPart : List Char → List Char
  | mark :: rest =>
    if mark == 'e' || mark == 'E' then
      let sign := rest.take 1 |>.filter fun c => c == '+' || c == '-'
      let digits := (spanDigits (rest.drop sign.length)).1
      if digits.isEmpty then [] else mark :: sign ++ digits
    else []
  | [] => []

/-- The integer that digits and an optional sign write at `index`, unless it is too long. -/
def integerOf (index : Nat) (sign digits : List Char) : Except Defect Value :=
  if Number.maxDigits < digits.length then .error ⟨.longInteger digits.length, index⟩
  else
    let n : Int := Number.ofDigits digits
    .ok (.int (if sign.isEmpty then n else -n))

/-- The number at the front of a text that stands at `index`, with the number of its characters.
Without point and exponent it is an integer. -/
def numberAt? (index : Nat) (cs : List Char) : Option (Except Defect Value × Nat) :=
  let sign := cs.take 1 |>.filter (· == '-')
  let whole := wholePart (cs.drop sign.length)
  if whole.isEmpty then none
  else
    let rest := cs.drop (sign.length + whole.length)
    let fraction := fractionPart rest
    let exponent := exponentPart (rest.drop fraction.length)
    let written := sign ++ whole ++ fraction ++ exponent
    if fraction.isEmpty && exponent.isEmpty then
      some (integerOf index sign whole, written.length)
    else
      (Number.Numeral.read? written).map fun numeral =>
        (.ok (.float numeral.toFloat), written.length)

/-- The words that are values. -/
def words : List (String × Value) := [
  ("null", .null), ("true", .bool true), ("false", .bool false),
  ("NaN", .float (0.0 / 0.0)), ("Infinity", .float (1.0 / 0.0)), ("-Infinity", .float (-1.0 / 0.0))]

/-- The word at the front of a text, with the number of its characters. -/
def wordAt? (cs : List Char) : Option (Except Defect Value × Nat) :=
  (words.find? fun word => word.1.toList.isPrefixOf cs).map fun word =>
    (.ok word.2, word.1.length)

/-- The token at the front of a text that stands at `index`, with the number of its characters. -/
def tokenAt (index : Nat) (cs : List Char) : Token × Nat :=
  match cs with
  | '[' :: _ => (.openList, 1)
  | ']' :: _ => (.closeList, 1)
  | '\x7b' :: _ => (.openObject, 1)
  | '\x7d' :: _ => (.closeObject, 1)
  | ':' :: _ => (.colon, 1)
  | ',' :: _ => (.comma, 1)
  | '"' :: rest =>
    match readQuoted index (index + 1) [] rest with
    | .ok (s, stop) => (.quoted (.ok s), stop - index)
    | .error defect => (.quoted (.error defect), 1)
  | cs =>
    match (numberAt? index cs).or (wordAt? cs) with
    | some (result, length) => (.value result, length)
    | none => (.stray, 1)

/-- Cuts a text that stands at `index` into tokens with their places; the first `skip` characters
belong to a token that has been cut. -/
def scan (skip index : Nat) : List Char → List (Token × Nat)
  | [] => []
  | c :: rest =>
    match skip with
    | skip + 1 => scan skip (index + 1) rest
    | 0 =>
      if isSpace c then scan 0 (index + 1) rest
      else
        let (token, length) := tokenAt index (c :: rest)
        (token, index) :: scan (length - 1) (index + 1) rest

/-- The tokens of a text with their places. -/
def tokens (cs : List Char) : List (Token × Nat) :=
  scan 0 0 cs

end PlanDiagram.Json
