import PlanDiagram.Formula.Render
import PlanDiagram.Proofs.Formula.Reading
import PlanDiagram.Proofs.Number.Written

/-!
# Formulas that can be written and read again

A formula keeps neither the marks of variables nor the place of an empty list of variables, and it
gives a word at the place of a formula the parentheses of a predicate. Forms without these are
legible: each mark belongs to a variable that is known or bound around it, each quantifier binds a
variable, and each place of a formula holds a list. Two formulas are the same if they differ in the
signs of zeros at most.
-/

namespace PlanDiagram

/-- A double that is equal to what its label is read as. -/
def Number.ReadsBack (x : Float) : Prop :=
  ∃ y, readReal? (label x) = some y ∧ (y == x) = true

/-- The marks of variables in an operand belong to known names; the head of a list is no
argument. -/
inductive Form.MarksKnown (names : List String) : Form → Prop where
  | atom {text : String}
    (h : text.toList.head? = some '?' → Parameter.bareName text ∈ names) :
    MarksKnown names (.atom text)
  | list {entries : List Form} (h : ∀ form ∈ entries.tail, MarksKnown names form) :
    MarksKnown names (.list entries)

/-- The lists that are legible as formulas where the given names are known as variables, by what
stands at their head. The name of a preference can be any word. -/
inductive Form.Legible : List String → Form → Prop where
  | empty (names : List String) : Legible names (.list [])
  | negation {names : List String} {head : String} {form : Form} (hop : Text.lower head = "not")
    (h : Legible names form) : Legible names (.list [.atom head, form])
  | connective {names : List String} {head : String} {rest : List Form}
    (hop : Keyword.connectives.contains (Text.lower head) = true)
    (h : ∀ form ∈ rest, Legible names form) : Legible names (.list (.atom head :: rest))
  | preference {names : List String} {head name : String} {rest : List Form}
    (hop : Text.lower head = "preference") (h : ∀ form ∈ rest, Legible names form) :
    Legible names (.list (.atom head :: .atom name :: rest))
  | quantifier {names : List String} {head : String} {declared body : List Form}
    {bound : List Parameter} (hop : Keyword.quantifiers.contains (Text.lower head) = true)
    (hdeclared : declared ≠ []) (hbound : Parameter.readList true declared = .ok bound)
    (h : ∀ form ∈ body, Legible (bound.map Parameter.name ++ names) form) :
    Legible names (.list (.atom head :: .list declared :: body))
  | condition {names : List String} {head : String} {rest : List Form}
    (hop : Text.lower head = "when") (h : ∀ form ∈ rest, Legible names form) :
    Legible names (.list (.atom head :: rest))
  | timed {names : List String} {head word : String} {first form : Form}
    (hop : Keyword.isComposite (Text.lower head) = false)
    (hword : Formula.timeWord? (Text.lower head) [first, form] = some word)
    (h : Legible names form) : Legible names (.list [.atom head, first, form])
  | atomic {names : List String} {head : String} {rest : List Form}
    (hop : Keyword.isComposite (Text.lower head) = false)
    (hword : Formula.timeWord? (Text.lower head) rest = none)
    (h : ∀ form ∈ rest, form.MarksKnown names) : Legible names (.list (.atom head :: rest))

/-- Only lists are legible as formulas. -/
theorem Form.Legible.isList {names : List String} {form : Form} (h : form.Legible names) :
    form.isList = true := by
  cases h <;> rfl

namespace Formula

/-- Formulas with the same shape, names, types and numbers, where numbers are compared by their
values. -/
inductive Same : Formula → Formula → Prop where
  | parameter (name : String) (type : Value) : Same (.parameter name type) (.parameter name type)
  | number {x y : Float} (h : (x == y) = true) : Same (.number x) (.number y)
  | predicate (name : String) {arguments others : List Formula}
    (h : List.Forall₂ Same arguments others) :
    Same (.predicate name arguments) (.predicate name others)
  | function (name : String) {arguments others : List Formula}
    (h : List.Forall₂ Same arguments others) :
    Same (.function name arguments) (.function name others)
  | negation {argument other : Formula} (h : Same argument other) :
    Same (.negation argument) (.negation other)
  | numeric (change : NumericChange) {arguments others : List Formula}
    (h : List.Forall₂ Same arguments others) :
    Same (.numeric change arguments) (.numeric change others)
  | comparison (op : String) {arguments others : List Formula}
    (h : List.Forall₂ Same arguments others) :
    Same (.comparison op arguments) (.comparison op others)
  | arithmetic (op : String) {arguments others : List Formula}
    (h : List.Forall₂ Same arguments others) :
    Same (.arithmetic op arguments) (.arithmetic op others)
  | composite (op : String) (bound : List Parameter) {items others : List Formula}
    (h : List.Forall₂ Same items others) :
    Same (.composite op items bound) (.composite op others bound)

mutual

/-- The numbers in a formula, from left to right. -/
def numbers : Formula → List Float
  | .parameter .. => []
  | .number x => [x]
  | .negation argument => argument.numbers
  | .predicate _ arguments => numbersOfAll arguments
  | .function _ arguments => numbersOfAll arguments
  | .numeric _ arguments => numbersOfAll arguments
  | .comparison _ arguments => numbersOfAll arguments
  | .arithmetic _ arguments => numbersOfAll arguments
  | .composite _ items _ => numbersOfAll items

/-- The numbers in several formulas, from left to right. -/
def numbersOfAll : List Formula → List Float
  | [] => []
  | f :: rest => f.numbers ++ numbersOfAll rest

end

/-- Each formula contributes its own numbers. -/
theorem mem_numbersOfAll {x : Float} {formulas : List Formula} :
    x ∈ numbersOfAll formulas ↔ ∃ f ∈ formulas, x ∈ f.numbers := by
  induction formulas with
  | nil => simp [numbersOfAll]
  | cons f rest ih => simp [numbersOfAll, ih]

/-- Tells whether each number of a formula can be written: it is finite, and it is equal to what its
label is read as. -/
def Writable (f : Formula) : Prop :=
  ∀ x ∈ f.numbers, Number.IsFinite x ∧ Number.ReadsBack x

end Formula

end PlanDiagram
