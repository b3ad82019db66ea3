import PlanDiagram.Text.Hexadecimal
import PlanDiagram.Yaml.Failure

/-!
# Plain scalars

A scalar without quotes is nothing, a truth value, an integer or a double if it is spelt like one,
and else a text. Integers may be binary, octal, hexadecimal or in base sixty, and digits may be
separated by underscores; a double has a point, and the exponent of a double has a sign. Dates and
integers too long to be displayed are not supported.
-/

namespace PlanDiagram.Yaml

/-- The words for nothing. -/
def nullWords : List String :=
  ["", "~", "null", "Null", "NULL"]

/-- The words for the truth values. -/
def truthWords : List (String × Bool) := [
  ("yes", true), ("Yes", true), ("YES", true), ("no", false), ("No", false), ("NO", false),
  ("true", true), ("True", true), ("TRUE", true), ("false", false), ("False", false),
  ("FALSE", false), ("on", true), ("On", true), ("ON", true), ("off", false), ("Off", false),
  ("OFF", false)]

/-- The names of doubles that are no finite numbers. -/
def floatWords : List (String × Float) :=
  let infinity : Float := 1.0 / 0.0
  [(".inf", infinity), (".Inf", infinity), (".INF", infinity), ("+.inf", infinity),
    ("+.Inf", infinity), ("+.INF", infinity), ("-.inf", -infinity), ("-.Inf", -infinity),
    ("-.INF", -infinity), (".nan", 0.0 / 0.0), (".NaN", 0.0 / 0.0), (".NAN", 0.0 / 0.0)]

/-- Reads digits of a base between which underscores may stand. -/
def readDigits? (base : Nat) (cs : List Char) : Option Nat :=
  let digits := cs.filter (· != '_')
  if digits.isEmpty then none
  else
    digits.foldlM (fun n c =>
      (Text.hexValue? c).bind fun d => if d < base then some (base * n + d) else none) 0

/-- Cuts a list at a separator. -/
def splitAt (separator : Char) : List Char → List (List Char)
  | [] => [[]]
  | c :: rest =>
    if c == separator then [] :: splitAt separator rest
    else
      match splitAt separator rest with
      | [] => [[c]]
      | group :: groups => (c :: group) :: groups

/-- Tells whether digits are a place of a number in base sixty after the first. -/
def isSixtieth (cs : List Char) : Bool :=
  cs.all Char.isDigit &&
    (cs.length == 1 || (cs.length == 2 && (cs.head?.any fun c => c ≤ '5')))

/-- Reads a natural number in one of the bases. -/
def readNat? (cs : List Char) : Option Nat :=
  match cs with
  | ['0'] => some 0
  | '0' :: 'b' :: digits => readDigits? 2 digits
  | '0' :: 'x' :: digits => readDigits? 16 digits
  | '0' :: digits => readDigits? 8 ('0' :: digits)
  | '_' :: _ => none
  | cs =>
    match splitAt ':' cs with
    | first :: rest =>
      if rest.all isSixtieth then
        (readDigits? 10 first).map fun n =>
          rest.foldl (fun n place => 60 * n + Number.ofDigits place) n
      else none
    | [] => none

/-- Reads an integer. -/
def readInt? (cs : List Char) : Option Int :=
  let (negative, digits) := Number.splitSign cs
  (readNat? digits).map fun n => if negative then -(n : Int) else n

/-- Tells whether characters are digits and underscores. -/
def areDigits (cs : List Char) : Bool :=
  cs.all fun c => c.isDigit || c == '_'

/-- Tells whether an exponent, with its mark, has a sign and digits. -/
def isExponent : List Char → Bool
  | [] => true
  | mark :: sign :: digits =>
    (mark == 'e' || mark == 'E') && (sign == '+' || sign == '-') && !digits.isEmpty &&
      digits.all Char.isDigit
  | _ => false

/-- Reads a finite double. A sign may only stand before a digit. -/
def readFloat? (cs : List Char) : Option Float :=
  let (_, unsigned) := Number.splitSign cs
  let whole := unsigned.takeWhile (· != '.')
  match unsigned.dropWhile (· != '.') with
  | '.' :: rest =>
    let fraction := rest.takeWhile fun c => c != 'e' && c != 'E'
    let exponent := rest.drop fraction.length
    let startsWithDigit (digits : List Char) : Bool := digits.head?.any Char.isDigit
    let wellFormed := areDigits whole && areDigits fraction && isExponent exponent &&
      (startsWithDigit whole ||
        (whole.isEmpty && unsigned.length == cs.length && startsWithDigit fraction))
    if wellFormed then (Number.Numeral.read? (cs.filter (· != '_'))).map Number.Numeral.toFloat
    else none
  | _ => none

/-- Reads a finite double in base sixty, whose last place has a point. -/
def readSixtieths? (cs : List Char) : Option Float :=
  let (negative, unsigned) := Number.splitSign cs
  match (splitAt ':' (unsigned.takeWhile (· != '.'))), unsigned.dropWhile (· != '.') with
  | first :: place :: rest, '.' :: fraction =>
    if !areDigits first || !(first.head?.any Char.isDigit) || !(place :: rest).all isSixtieth ||
      !areDigits fraction then none
    else
      let places := (first :: place :: rest).map fun cs => Number.ofDigits (cs.filter (· != '_'))
      let last := places.getLast?.getD 0
      let digits := fraction.filter (· != '_')
      let start := (Number.Numeral.mk false
        (last * Nat.pow 10 digits.length + Number.ofDigits digits) (-digits.length)).toFloat
      let (total, _) := places.dropLast.reverse.foldl
        (fun (total, base) place => (total + Float.ofNat place * base, base * 60.0)) (start, 60.0)
      some (if negative then -total else total)
  | _, _ => none

/-- Tells whether a scalar starts like a date: a year, a month and a day with hyphens between. -/
def startsDate (cs : List Char) : Bool :=
  let (year, rest) := (cs.takeWhile Char.isDigit, cs.dropWhile Char.isDigit)
  let (month, rest) := ((rest.drop 1).takeWhile Char.isDigit, (rest.drop 1).dropWhile Char.isDigit)
  let (day, rest) := ((rest.drop 1).takeWhile Char.isDigit, (rest.drop 1).dropWhile Char.isDigit)
  let written := year ++ '-' :: month ++ '-' :: day ++ rest
  year.length == 4 && (month.length == 1 || month.length == 2) &&
    (day.length == 1 || day.length == 2) && written == cs

/-- The value of a scalar that writes an integer, unless it is too long. -/
def ofInteger (s : String) (n : Int) : Except Failure Value :=
  if 2 * s.length ≤ Number.maxDigits || n.natAbs < Nat.pow 10 Number.maxDigits then .ok (.int n)
  else .error .unsupported

/-- The value of a scalar without quotes. The two signs that are no scalars are not supported. -/
def resolve (s : String) : Except Failure Value :=
  if s == "<<" || s == "=" || startsDate s.toList then .error .unsupported
  else if nullWords.contains s then .ok .null
  else
    match truthWords.lookup s, floatWords.lookup s with
    | some b, _ => .ok (.bool b)
    | none, some x => .ok (.float x)
    | none, none =>
      match readInt? s.toList, (readFloat? s.toList).or (readSixtieths? s.toList) with
      | some n, _ => ofInteger s n
      | none, some x => .ok (.float x)
      | none, none => .ok (.text s)

end PlanDiagram.Yaml
