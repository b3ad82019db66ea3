import PlanDiagram.Form.Basic
import PlanDiagram.Text.LetterCase

/-!
# Sections

The segments of a definition are headed by keywords. A segment whose keyword is not understood is
kept as a section: its label and the texts of its entries.
-/

namespace PlanDiagram

/-- A segment that is kept as text. -/
structure Section where
  label : String
  entries : List String := []
deriving DecidableEq, Repr

namespace Section

/-- The entries as one text. -/
def text (s : Section) : String :=
  " ".intercalate s.entries

/-- The keyword at the head of a segment, in lower case. -/
def keyword? : Form → Option String
  | .list (.atom head :: _) => some (Text.lower head)
  | _ => none

/-- The entries of a segment after its head. -/
def entriesOf : Form → List Form
  | .list (_ :: rest) => rest
  | _ => []

/-- A segment kept as text; one without a keyword has a label of its own. -/
def ofForm : Form → Section
  | .list (.atom head :: rest) => { label := head, entries := rest.map Form.render }
  | form => { label := "Section", entries := [form.render] }

/-- The text by which a notice names a segment. -/
def headText : Form → String
  | .list (head :: _) => head.render
  | form => form.render

end Section

end PlanDiagram
