import PlanDiagram.Formula.Label

/-!
# Occurrences

The predicates, comparisons and numeric effects that are found in formulas. Each negation above an
occurrence turns its polarity; all other formulas are walked through. Nothing is looked for below an
occurrence.
-/

namespace PlanDiagram

/-- Where a formula stands. -/
inductive Role where
  | precondition
  | effect
  | init
  | goal
deriving DecidableEq, Repr

/-- The name of a role. -/
def Role.name : Role → String
  | .precondition => "precondition"
  | .effect => "effect"
  | .init => "init"
  | .goal => "goal"

/-- The role with the given name. -/
def Role.ofName? : String → Option Role
  | "precondition" => some .precondition
  | "effect" => some .effect
  | "init" => some .init
  | "goal" => some .goal
  | _ => none

/-- An occurrence of a predicate. -/
structure LiteralUse where
  name : String
  arguments : List Formula
  negated : Bool
  role : Role

/-- The text on the node of a literal. -/
def LiteralUse.label (l : LiteralUse) : String :=
  Formula.literalLabel l.name l.negated

/-- An occurrence of a comparison. -/
structure ComparisonUse where
  op : String
  arguments : List Formula
  negated : Bool
  role : Role

/-- The sign of the comparison. -/
def ComparisonUse.sign (c : ComparisonUse) : String :=
  Keyword.comparisonSign c.op

/-- An occurrence of a numeric effect. -/
structure ChangeUse where
  change : NumericChange
  arguments : List Formula
  negated : Bool
  role : Role

/-- Everything that was found, in the order of the text. -/
structure Occurrences where
  literals : List LiteralUse := []
  comparisons : List ComparisonUse := []
  changes : List ChangeUse := []

namespace Occurrences

/-- What was found first, followed by what was found next. -/
def append (first next : Occurrences) : Occurrences where
  literals := first.literals ++ next.literals
  comparisons := first.comparisons ++ next.comparisons
  changes := first.changes ++ next.changes

instance : Append Occurrences := ⟨append⟩

mutual

/-- The occurrences in a formula; `negated` is the polarity that the negations above give it. -/
def ofFormula (role : Role) (negated : Bool) : Formula → Occurrences
  | .negation argument => ofFormula role (!negated) argument
  | .predicate name arguments => { literals := [⟨name, arguments, negated, role⟩] }
  | .comparison op arguments => { comparisons := [⟨op, arguments, negated, role⟩] }
  | .numeric change arguments => { changes := [⟨change, arguments, negated, role⟩] }
  | .function _ arguments => ofFormulas role negated arguments
  | .arithmetic _ arguments => ofFormulas role negated arguments
  | .composite _ items _ => ofFormulas role negated items
  | .parameter .. => {}
  | .number _ => {}

/-- The occurrences in several formulas. -/
def ofFormulas (role : Role) (negated : Bool) : List Formula → Occurrences
  | [] => {}
  | f :: rest => ofFormula role negated f ++ ofFormulas role negated rest

end

/-- Adds the occurrences in formulas, some of which may be missing, to what was found before. -/
def collect (found : Occurrences) (role : Role) (formulas : List (Option Formula)) : Occurrences :=
  found ++ ofFormulas role false (formulas.filterMap id)

/-- The first literal of each label; labels in `seen` are passed over. -/
def firstOfEachLabel (seen : List String) : List LiteralUse → List LiteralUse
  | [] => []
  | l :: rest =>
    if seen.contains l.label then firstOfEachLabel seen rest
    else l :: firstOfEachLabel (l.label :: seen) rest

/-- The first literal of each label, in the order of the text. -/
def distinctLiterals (found : Occurrences) : List LiteralUse :=
  firstOfEachLabel [] found.literals

/-- The literals of two findings are those of the one followed by those of the other. -/
@[simp] theorem literals_append (first next : Occurrences) :
    (first ++ next).literals = first.literals ++ next.literals := rfl

/-- The comparisons of two findings are those of the one followed by those of the other. -/
@[simp] theorem comparisons_append (first next : Occurrences) :
    (first ++ next).comparisons = first.comparisons ++ next.comparisons := rfl

/-- The numeric effects of two findings are those of the one followed by those of the other. -/
@[simp] theorem changes_append (first next : Occurrences) :
    (first ++ next).changes = first.changes ++ next.changes := rfl

end Occurrences

end PlanDiagram
