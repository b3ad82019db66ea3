import PlanDiagram.Number.Binary
import PlanDiagram.Text.Blank

/-!
# The shortest decimal of a double

Among the decimals that read back as a given double, the one with the fewest digits is chosen, and
of those the nearest. The search runs over the grids of decimals with 1, 2, … 17 digits in exact
arithmetic: on each grid only the two neighbours of the value have to be tried.
-/

namespace PlanDiagram.Number

/-- The decimal `0.d₁d₂… * 10 ^ point`; the digits do not end in a zero. -/
structure Decimal where
  digits : List Char
  point : Int
deriving DecidableEq, Repr

/-- A positive value with the ends of the interval of reals that round to it, as numerators over one
denominator; `closed` says that the ends themselves round to the value. -/
structure Rounding where
  lower : Nat
  value : Nat
  upper : Nat
  denominator : Nat
  closed : Bool

/-- The interval of `significand * 2 ^ exponent`: half a unit to each side, and a quarter below
where the spacing of the doubles halves. The ends round to an even significand. -/
def Rounding.of (significand : Nat) (exponent : Int) : Rounding :=
  let scale := Nat.pow 2 exponent.toNat
  let below := if significand == Nat.pow 2 52 && exponent > -1074 then 1 else 2
  { lower := (4 * significand - below) * scale
    value := 4 * significand * scale
    upper := (4 * significand + 2) * scale
    denominator := 4 * Nat.pow 2 (-exponent).toNat
    closed := significand % 2 == 0 }

/-- The interval after division by `10 ^ power`. -/
def Rounding.shift (r : Rounding) (power : Int) : Rounding :=
  let up := Nat.pow 10 (-power).toNat
  { r with
    lower := r.lower * up
    value := r.value * up
    upper := r.upper * up
    denominator := r.denominator * Nat.pow 10 power.toNat }

/-- Tells whether a whole number lies in the interval. -/
def Rounding.holds (r : Rounding) (n : Nat) : Bool :=
  let point := n * r.denominator
  if r.closed then r.lower ≤ point && point ≤ r.upper else r.lower < point && point < r.upper

/-- The whole number of the interval that is nearest to the value, the even one of two equally
near. -/
def Rounding.nearest? (r : Rounding) : Option Nat :=
  let below := r.value / r.denominator
  let above := below + 1
  if r.holds below then
    if r.holds above then
      let down := r.value - below * r.denominator
      let up := above * r.denominator - r.value
      some (if down < up || (down == up && below % 2 == 0) then below else above)
    else some below
  else if r.holds above then some above
  else none

/-- The number of decimal digits of a number. -/
def digitCount (n : Nat) : Nat :=
  (Nat.toDigits 10 n).length

/-- The least shift, from `shift` on, by which a value below one reaches one; `fuel` bounds the
search, and 400 is more than any double needs. -/
def leastShift (value denominator : Nat) : (fuel shift : Nat) → Nat
  | 0, shift => shift
  | fuel + 1, shift =>
    if denominator ≤ value * Nat.pow 10 shift then shift
    else leastShift value denominator fuel (shift + 1)

/-- The power of ten of the first digit of the value. -/
def Rounding.leading (r : Rounding) : Int :=
  if r.denominator ≤ r.value then digitCount (r.value / r.denominator) - 1
  else -(leastShift r.value r.denominator 400 1)

/-- The decimal with the given whole number of units of `10 ^ power`. -/
def Decimal.ofGrid (n : Nat) (power : Int) : Decimal :=
  { digits := Text.dropEndWhile (· == '0') (Nat.toDigits 10 n)
    point := digitCount n + power }

/-- The shortest decimal that reads back as the positive value `significand * 2 ^ exponent`. -/
def shortest (significand : Nat) (exponent : Int) : Decimal :=
  let r := Rounding.of significand exponent
  let leading := r.leading
  let grids := (List.range 17).map fun (places : Nat) => leading - places
  match grids.findSome? fun power => (r.shift power).nearest?.map (Decimal.ofGrid · power) with
  | some decimal => decimal
  | none => Decimal.ofGrid (wholePart significand exponent) 0

end PlanDiagram.Number
