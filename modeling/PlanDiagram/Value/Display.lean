import PlanDiagram.Value.Basic
import PlanDiagram.Text.Quoted

/-!
# Displayed values

The text of a value. `literal` shows a value so that its kind can be told: texts stand in quotes,
lists in brackets, objects in braces. `display` is the same except that a text stands for itself.
-/

namespace PlanDiagram.Value

mutual

/-- A value as messages show it, texts in quotes. -/
def literal : Value → String
  | .null => "None"
  | .bool b => if b then "True" else "False"
  | .int n => Number.writeInt n
  | .float x => Number.writeFloat x
  | .text s => Text.quoted s
  | .list entries => "[" ++ ", ".intercalate (literals entries) ++ "]"
  | .object fields => "\x7b" ++ ", ".intercalate (fieldLiterals fields) ++ "\x7d"

/-- The literals of the entries of a list. -/
def literals : List Value → List String
  | [] => []
  | v :: rest => v.literal :: literals rest

/-- The literals of the fields of an object. -/
def fieldLiterals : List (String × Value) → List String
  | [] => []
  | (name, v) :: rest => (Text.quoted name ++ ": " ++ v.literal) :: fieldLiterals rest

end

/-- A value as a text: texts as they are, other values as literals. -/
def display : Value → String
  | .text s => s
  | v => v.literal

/-- A text displays as itself. -/
@[simp] theorem display_text (s : String) : (Value.text s).display = s := rfl

end PlanDiagram.Value
