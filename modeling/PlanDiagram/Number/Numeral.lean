import PlanDiagram.Text.Blank
import PlanDiagram.Text.Digit

/-!
# Numerals

Reading numbers from text. A numeral is an optional sign, digits with an optional point, and an
optional exponent; the digits may be of any script. A value given as text may moreover have single
underscores between digits, blanks around it, and the names of infinity and of no number. Integers
of very many digits are refused.
-/

namespace PlanDiagram.Number

/-- A numeral: `mantissa * 10 ^ exponent` with a sign. -/
structure Numeral where
  negative : Bool
  mantissa : Nat
  exponent : Int
deriving DecidableEq, Repr

/-- The number with the given decimal digits. -/
def ofDigits (cs : List Char) : Nat :=
  cs.foldl (fun n c => 10 * n + (Text.digitValue? c).getD 0) 0

/-- Splits an optional sign off; the first component says that it was a minus. -/
def splitSign : List Char → Bool × List Char
  | '+' :: rest => (false, rest)
  | '-' :: rest => (true, rest)
  | cs => (false, cs)

/-- Reads `digits` or `digits . digits`, at least one digit in all. Gives the mantissa, the number
of digits after the point, and the rest. -/
def readMantissa? (cs : List Char) : Option (Nat × Nat × List Char) :=
  let whole := cs.takeWhile Text.isDigit
  match cs.dropWhile Text.isDigit with
  | '.' :: rest =>
    let fraction := rest.takeWhile Text.isDigit
    if whole.isEmpty && fraction.isEmpty then none
    else some (ofDigits (whole ++ fraction), fraction.length, rest.dropWhile Text.isDigit)
  | rest => if whole.isEmpty then none else some (ofDigits whole, 0, rest)

/-- Reads an exponent that ends the text; no text is the exponent zero. -/
def readExponent? : List Char → Option Int
  | [] => some 0
  | c :: rest =>
    if c == 'e' || c == 'E' then
      let (negative, digits) := splitSign rest
      if digits.isEmpty || !digits.all Text.isDigit then none
      else some (if negative then -(ofDigits digits : Int) else ofDigits digits)
    else none

/-- Reads a numeral that is the whole text. -/
def Numeral.read? (cs : List Char) : Option Numeral := do
  let (negative, rest) := splitSign cs
  let (mantissa, places, rest) ← readMantissa? rest
  let exponent ← readExponent? rest
  return { negative, mantissa, exponent := exponent - places }

/-- The double nearest to a numeral. Exponents far beyond the range of doubles are decided at
once. -/
def Numeral.toFloat (n : Numeral) : Float :=
  let size := (Nat.toDigits 10 n.mantissa).length + n.exponent
  let magnitude :=
    if n.mantissa == 0 || size < -400 then 0.0
    else if 400 < size then 1.0 / 0.0
    else Float.ofScientific n.mantissa (decide (n.exponent < 0)) n.exponent.natAbs
  if n.negative then -magnitude else magnitude

/-- Tells whether a text is a numeral, apart from blanks around it. -/
def isNumeral (s : String) : Bool :=
  (Numeral.read? (Text.trimChars s.toList)).isSome

/-- Removes underscores that stand between two digits; any other underscore is refused. -/
def dropSeparators? : List Char → Option (List Char)
  | [] => some []
  | '_' :: _ => none
  | c :: '_' :: d :: rest =>
    if Text.isDigit c && Text.isDigit d then (dropSeparators? (d :: rest)).map (c :: ·) else none
  | c :: rest => (dropSeparators? rest).map (c :: ·)

/-- The blanks around a value given as text. The information separators do not count. -/
def isValueBlank (c : Char) : Bool :=
  c == ' ' || (0x09 ≤ c.toNat && c.toNat ≤ 0x0D) || (0x7F < c.toNat && Text.isBlank c)

/-- The characters of a value given as text, without blanks around and underscores inside. -/
def valueChars? (s : String) : Option (List Char) :=
  dropSeparators? (Text.dropEndWhile isValueBlank (s.toList.dropWhile isValueBlank))

/-- Reads a real number given as text. -/
def readReal? (s : String) : Option Float := do
  let cs ← valueChars? s
  match Numeral.read? cs with
  | some numeral => return numeral.toFloat
  | none =>
    let (negative, name) := splitSign cs
    let word := String.ofList (name.map Char.toLower)
    let magnitude ←
      if word == "inf" || word == "infinity" then some (1.0 / 0.0)
      else if word == "nan" then some (0.0 / 0.0)
      else none
    return if negative then -magnitude else magnitude

/-- The number of digits that an integer in a text may have. -/
def maxDigits : Nat :=
  4300

/-- What is said of an integer that has too many digits. -/
def tooManyDigits (digits : Nat) : String :=
  "Exceeds the limit (" ++ toString maxDigits ++ " digits) for integer string conversion: " ++
    "value has " ++ toString digits ++
    " digits; use sys.set_int_max_str_digits() to increase the limit"

/-- The digits with which a text starts after blanks and a sign. An underscore that does not stand
between two of them spoils them all. -/
def leadingDigits (s : String) : List Char :=
  let (_, rest) := splitSign (s.toList.dropWhile isValueBlank)
  (dropSeparators? (rest.takeWhile fun c => c == '_' || Text.isDigit c)).getD []

/-- Reads an integer given as text. Digits beyond the limit are refused before what follows them is
looked at. -/
def readInteger? (s : String) : Option Int := do
  let cs ← valueChars? s
  let (negative, digits) := splitSign cs
  if maxDigits < (leadingDigits s).length || digits.isEmpty || !digits.all Text.isDigit then none
  else some (if negative then -(ofDigits digits : Int) else ofDigits digits)

end PlanDiagram.Number
