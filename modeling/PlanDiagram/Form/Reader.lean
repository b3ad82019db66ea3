import PlanDiagram.Form.Basic
import PlanDiagram.Form.Token

/-!
# Reading forms

Tokens are folded into nested lists. The outermost level is never closed by a token: a closing
parenthesis there is an error at its place among the tokens, and so is a list that stays open. Words
on the outermost level are no forms of the text and are dropped.
-/

namespace PlanDiagram.Form

/-- Why a text is not a sequence of forms. -/
inductive ReadError where
  /-- The text holds nothing but blanks and comments. -/
  | empty
  /-- A closing parenthesis closes nothing; `position` counts the tokens before it. -/
  | unexpectedClosing (position : Nat)
  /-- A list is still open at the end. -/
  | unclosed
  /-- One list was wanted, and the text holds none or several. -/
  | notSingle
deriving DecidableEq, Repr

/-- The wording of an error. -/
def ReadError.message : ReadError → String
  | .empty => "PDDL content is empty."
  | .unexpectedClosing position =>
    "Unexpected closing parenthesis while parsing PDDL (token " ++ toString position ++ ")."
  | .unclosed => "Unbalanced parentheses found while parsing PDDL."
  | .notSingle => "Expected single S-expression"

/-- Folds tokens into the entries of the innermost open list (`current`, last first), with the lists
around it in `outer`, innermost first; `position` counts the tokens read. -/
def fold (outer : List (List Form)) (current : List Form) (position : Nat) :
    List Token → Except ReadError (List Form)
  | [] => if outer.isEmpty then .ok current.reverse else .error .unclosed
  | .opening :: rest => fold (current :: outer) [] (position + 1) rest
  | .closing :: rest =>
    match outer with
    | [] => .error (.unexpectedClosing position)
    | enclosing :: outer => fold outer (.list current.reverse :: enclosing) (position + 1) rest
  | .word text :: rest => fold outer (.atom text :: current) (position + 1) rest

/-- The lists that tokens spell. -/
def ofTokens (tokens : List Token) : Except ReadError (List Form) :=
  (fold [] [] 0 tokens).map (·.filter isList)

/-- The lists of a text. -/
def readAll (s : String) : Except ReadError (List Form) :=
  let cs := Token.stripComments s.toList
  if cs.all Text.isBlank then .error .empty else ofTokens (Token.tokens cs)

/-- The only list of a text. -/
def readOne (s : String) : Except ReadError Form := do
  match ← readAll s with
  | [form] => return form
  | _ => throw .notSingle

end PlanDiagram.Form
