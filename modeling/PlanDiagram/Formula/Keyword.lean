import PlanDiagram.Text.LetterCase
import PlanDiagram.Text.Blank

/-!
# Keywords of formulas

The closed tables of operators and connectives, with the signs that stand for operators on a
diagram. Keywords are looked up in lower case.
-/

namespace PlanDiagram.Keyword

/-- The comparison operators with the signs that stand for them. -/
def comparisonSigns : List (String × String) := [
  ("=", "="), ("equal", "="), ("<=", "<="), ("lesser-equal", "<="), ("≤", "<="),
  (">=", ">="), ("greater-equal", ">="), ("≥", ">="), ("<", "<"), ("lesser", "<"),
  (">", ">"), ("greater", ">")]

/-- Tells whether a keyword is a comparison; the mathematical signs are only understood as
labels. -/
def isComparison (op : String) : Bool :=
  (comparisonSigns.lookup op).isSome && op != "≤" && op != "≥"

/-- The arithmetic operators. -/
def arithmeticOperators : List String :=
  ["+", "plus", "-", "minus", "subtract", "*", "times", "multiply", "/", "divide"]

/-- Tells whether a keyword is an arithmetic operator. -/
def isArithmetic (op : String) : Bool :=
  arithmeticOperators.contains op

/-- The connectives that take any number of formulas. -/
def connectives : List String :=
  ["and", "or", "imply", "preference"]

/-- The quantifiers, which take a list of variables first. -/
def quantifiers : List String :=
  ["forall", "exists"]

/-- The pairs of words that say when a condition or effect of a durative action holds. -/
def timeSpecifiers : List (String × String) :=
  [("at", "start"), ("at", "end"), ("over", "all")]

/-- The signs on nodes that stand for operators. -/
def operatorSigns : List (String × String) := [
  ("times", "×"), ("*", "×"), ("multiply", "×"), ("plus", "+"), ("+", "+"), ("minus", "-"),
  ("-", "-"), ("subtract", "-"), ("divide", "÷"), ("/", "÷"), ("scale-up", "↑"),
  ("scale-down", "↓"), ("assign", "=")]

/-- The sign for a comparison: of the keyword as it stands, else in lower case, else the keyword
itself. No keyword is an equation. -/
def comparisonSign (op : String) : String :=
  if op == "" then "="
  else
    let op := Text.trim op
    match comparisonSigns.lookup op with
    | some sign => sign
    | none => (comparisonSigns.lookup (Text.lower op)).getD op

/-- The sign for an operator; `fallback`, unless it is empty, stands for one that has no sign. -/
def operatorSign (op : String) (fallback : String) : String :=
  if op == "" then if fallback == "" then "?" else fallback
  else
    let op := Text.trim op
    (operatorSigns.lookup op).getD (if fallback == "" then op else fallback)

end PlanDiagram.Keyword
