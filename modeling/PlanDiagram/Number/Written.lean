import PlanDiagram.Number.Shortest

/-!
# Written numbers

How numbers are written: integers with all their digits, doubles with the fewest digits that read
back. A label writes a whole double as an integer; data keep the decimal point.
-/

namespace PlanDiagram.Number

/-- How a shortest decimal is laid out: the exponents of the first digit that are written
positionally, and the least number of digits of a written exponent. -/
structure DecimalLayout where
  leastExponent : Int
  greatestExponent : Int
  exponentDigits : Nat

/-- Numbers from a ten-thousandth up to ten to the sixteenth are written positionally; an exponent
has a sign and at least two digits. -/
def plainLayout : DecimalLayout := ⟨-4, 15, 2⟩

/-- The digits of a natural number. -/
def natDigits (n : Nat) : List Char :=
  Nat.toDigits 10 n

/-- An integer with all its digits. -/
def writeInt (n : Int) : String :=
  if n < 0 then String.ofList ('-' :: natDigits n.natAbs) else String.ofList (natDigits n.natAbs)

/-- A decimal without an exponent. -/
def Decimal.positional (d : Decimal) : List Char :=
  if d.point ≤ 0 then
    '0' :: '.' :: (List.replicate (-d.point).toNat '0' ++ d.digits)
  else if d.digits.length ≤ d.point.toNat then
    d.digits ++ List.replicate (d.point.toNat - d.digits.length) '0' ++ ['.', '0']
  else
    d.digits.take d.point.toNat ++ '.' :: d.digits.drop d.point.toNat

/-- A decimal with an exponent of at least `width` digits. -/
def Decimal.scientific (d : Decimal) (width : Nat) : List Char :=
  let exponent := d.point - 1
  let mantissa :=
    match d.digits with
    | [] => []
    | [digit] => [digit]
    | digit :: rest => digit :: '.' :: rest
  let digits := natDigits exponent.natAbs
  mantissa ++ 'e' :: (if exponent < 0 then '-' else '+') ::
    (List.replicate (width - digits.length) '0' ++ digits)

/-- A decimal by a layout. -/
def Decimal.write (layout : DecimalLayout) (d : Decimal) : List Char :=
  let exponent := d.point - 1
  if layout.leastExponent ≤ exponent && exponent ≤ layout.greatestExponent then d.positional
  else d.scientific layout.exponentDigits

/-- A double as data show it: the shortest decimal, with a point or an exponent. -/
def writeFloat (x : Float) : String :=
  match Binary.ofFloat x with
  | .notANumber => "nan"
  | .infinite negative => if negative then "-inf" else "inf"
  | .finite negative significand exponent =>
    let digits :=
      if significand == 0 then ['0', '.', '0']
      else (shortest significand exponent).write plainLayout
    String.ofList (if negative then '-' :: digits else digits)

/-- A double as a label shows it: a whole number without a decimal point. -/
def label (x : Float) : String :=
  match integer? x with
  | some n => writeInt n
  | none => writeFloat x

end PlanDiagram.Number
