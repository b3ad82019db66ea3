/-!
# Doubles as exact values

A double of 64 bits is decoded into sign, significand and power of two, so that whole numbers and
ceilings are exact.
-/

namespace PlanDiagram.Number

/-- What a double stands for: `significand * 2 ^ exponent` with a sign, an infinity, or no
number. -/
inductive Binary where
  | finite (negative : Bool) (significand : Nat) (exponent : Int)
  | infinite (negative : Bool)
  | notANumber
deriving DecidableEq, Repr

/-- Decodes the sign bit, the 11 bits of the exponent and the 52 bits of the fraction. -/
def Binary.ofFloat (x : Float) : Binary :=
  let bits := x.toBits.toNat
  let negative : Bool := Nat.pow 2 63 ≤ bits
  let exponent : Nat := bits / Nat.pow 2 52 % Nat.pow 2 11
  let fraction : Nat := bits % Nat.pow 2 52
  if exponent == 2047 then
    if fraction == 0 then .infinite negative else .notANumber
  else if exponent == 0 then .finite negative fraction (-1074)
  else .finite negative (fraction + Nat.pow 2 52) (exponent - 1075)

/-- Why a double has no integer near it. -/
inductive IntegerFault where
  | infinite
  | notANumber
deriving DecidableEq, Repr

/-- Puts the sign on a magnitude. -/
def signed (negative : Bool) (n : Nat) : Int :=
  if negative then -(n : Int) else n

/-- The magnitude of `significand * 2 ^ exponent` rounded toward zero. -/
def wholePart (significand : Nat) (exponent : Int) : Nat :=
  if 0 ≤ exponent then significand * Nat.pow 2 exponent.toNat
  else significand / Nat.pow 2 (-exponent).toNat

/-- Tells whether `significand * 2 ^ exponent` is a whole number. -/
def isWhole (significand : Nat) (exponent : Int) : Bool :=
  0 ≤ exponent || significand % Nat.pow 2 (-exponent).toNat == 0

/-- Rounds toward zero. -/
def truncate (x : Float) : Except IntegerFault Int :=
  match Binary.ofFloat x with
  | .finite negative significand exponent => .ok (signed negative (wholePart significand exponent))
  | .infinite _ => .error .infinite
  | .notANumber => .error .notANumber

/-- The least integer that is not below a double. -/
def ceiling (x : Float) : Except IntegerFault Int :=
  match Binary.ofFloat x with
  | .finite negative significand exponent =>
    let whole := wholePart significand exponent
    if negative || isWhole significand exponent then .ok (signed negative whole)
    else .ok (whole + 1)
  | .infinite _ => .error .infinite
  | .notANumber => .error .notANumber

/-- The integer that a double is equal to, if there is one. -/
def integer? (x : Float) : Option Int :=
  match Binary.ofFloat x with
  | .finite negative significand exponent =>
    if isWhole significand exponent then some (signed negative (wholePart significand exponent))
    else none
  | _ => none

end PlanDiagram.Number
