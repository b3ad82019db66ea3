import PlanDiagram.Value.Convert

/-!
# Amounts

A setting is an integer or a double. Integers are computed with exactly as long as both operands are
integers; an integer that meets a double must lie in the range of doubles.
-/

namespace PlanDiagram

/-- An integer or a double. -/
inductive Amount where
  | int (n : Int)
  | real (x : Float)
deriving DecidableEq, Repr

namespace Amount

/-- The text of an amount. -/
def text : Amount → String
  | .int n => Number.writeInt n
  | .real x => Number.writeFloat x

/-- The amount that a value is; truth values are no amounts. -/
def ofValue? : Value → Option Amount
  | .int n => some (.int n)
  | .float x => some (.real x)
  | _ => none

/-- The double nearest to an amount. -/
def toReal : Amount → Except Value.Fault Float
  | .int n => Value.realOfInt n
  | .real x => .ok x

/-- The double nearest to an amount, infinite for an integer beyond the range of doubles. -/
def nearestReal : Amount → Float
  | .int n => Float.ofInt n
  | .real x => x

/-- Tells whether an amount is at most the given integer; no amount that is not a number is. -/
def atMost (a : Amount) (bound : Int) : Bool :=
  match a with
  | .int n => n ≤ bound
  | .real x => x ≤ Float.ofInt bound

/-- Tells whether an amount is below the given integer; no amount that is not a number is. -/
def isBelow (a : Amount) (bound : Int) : Bool :=
  match a with
  | .int n => n < bound
  | .real x => x < Float.ofInt bound

/-- Combines two amounts, as integers if both are, else as doubles. -/
def combine (ints : Int → Int → Int) (reals : Float → Float → Float) (a b : Amount) :
    Except Value.Fault Amount :=
  match a, b with
  | .int m, .int n => .ok (.int (ints m n))
  | a, b => do return .real (reals (← a.toReal) (← b.toReal))

/-- The sum of two amounts. -/
def add (a b : Amount) : Except Value.Fault Amount :=
  combine (· + ·) (· + ·) a b

/-- The difference of two amounts. -/
def sub (a b : Amount) : Except Value.Fault Amount :=
  combine (· - ·) (· - ·) a b

/-- The product of two amounts. -/
def mul (a b : Amount) : Except Value.Fault Amount :=
  combine (· * ·) (· * ·) a b

/-- Half of an amount, which is a double. -/
def half (a : Amount) : Except Value.Fault Amount := do
  return .real ((← a.toReal) / 2.0)

/-- A count of things: the integer near an amount, and at least zero. -/
def count (a : Amount) : Nat :=
  match a with
  | .int n => n.toNat
  | .real x => ((Number.truncate x).toOption.getD 0).toNat

end Amount

end PlanDiagram
