import PlanDiagram.Text.Blank

/-!
# Tokens

A planning text is cut into parentheses and words. A semicolon starts a comment that ends before the
next line feed or carriage return; blanks only separate. Main statements: a comment can be cut out
on its own, and the tokens of two texts joined at a blank are the tokens of the one followed by
those of the other.
-/

namespace PlanDiagram

/-- A parenthesis, or a word between blanks and parentheses. -/
inductive Token where
  | opening
  | closing
  | word (text : String)
deriving DecidableEq, Repr

namespace Token

/-- A token as it stands in the text. -/
def text : Token → String
  | .opening => "("
  | .closing => ")"
  | .word text => text

/-- The token that stands in the text as given. -/
def ofText (s : String) : Token :=
  if s == "(" then .opening else if s == ")" then .closing else .word s

/-- Removes comments; `inside` says that the text starts inside one. -/
def stripFrom (inside : Bool) : List Char → List Char
  | [] => []
  | c :: rest =>
    if inside then
      if c == '\n' || c == '\r' then c :: stripFrom false rest else stripFrom true rest
    else if c == ';' then stripFrom true rest
    else c :: stripFrom false rest

/-- A text without its comments. -/
def stripComments (cs : List Char) : List Char :=
  stripFrom false cs

/-- Puts the word that was read, if any, in front of the tokens that follow it. The characters of
the word come last first. -/
def flush (pending : List Char) (tokens : List Token) : List Token :=
  if pending.isEmpty then tokens else .word (String.ofList pending.reverse) :: tokens

/-- Cuts a text into tokens; `pending` holds the characters of an unfinished word, last first. -/
def scan (pending : List Char) : List Char → List Token
  | [] => flush pending []
  | c :: rest =>
    if Text.isBlank c then flush pending (scan [] rest)
    else if c == '(' then flush pending (.opening :: scan [] rest)
    else if c == ')' then flush pending (.closing :: scan [] rest)
    else scan (c :: pending) rest

/-- The tokens of a text without comments. -/
def tokens (cs : List Char) : List Token :=
  scan [] cs

/-- Without a pending word nothing is put in front. -/
@[simp] theorem flush_nil (tokens : List Token) : flush [] tokens = tokens := rfl

/-- What follows a word does not change it. -/
theorem flush_append (pending : List Char) (front back : List Token) :
    flush pending (front ++ back) = flush pending front ++ back := by
  unfold flush
  split <;> rfl

/-- The tokens of two texts joined at a blank are those of the one followed by those of the
other. -/
theorem scan_append_blank (pending front : List Char) {c : Char} (back : List Char)
    (h : Text.isBlank c = true) :
    scan pending (front ++ c :: back) = scan pending front ++ scan [] back := by
  induction front generalizing pending with
  | nil => simp [scan, h, ← flush_append]
  | cons d front ih =>
    simp only [List.cons_append, scan]
    split
    · rw [ih, flush_append]
    · split
      · rw [ih, ← List.cons_append, flush_append]
      · split
        · rw [ih, ← List.cons_append, flush_append]
        · exact ih (d :: pending)

end Token

end PlanDiagram
