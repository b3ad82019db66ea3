import PlanDiagram.Text.Hexadecimal
import PlanDiagram.Text.Printable

/-!
# Quoted texts

The form in which a message shows a text: between quotes, with an escape for each character that
cannot be displayed. Single quotes are preferred; double quotes are used for a text that holds
single quotes and no double ones.
-/

namespace PlanDiagram.Text

/-- A code point as an escape with the fewest of two, four or eight hexadecimal digits. -/
def escapeCodePoint (n : Nat) : List Char :=
  if n ≤ 0xFF then '\\' :: 'x' :: hexDigits 2 n
  else if n ≤ 0xFFFF then '\\' :: 'u' :: hexDigits 4 n
  else '\\' :: 'U' :: hexDigits 8 n

/-- A character as it stands between the given quotes. -/
def quoteChar (quote c : Char) : List Char :=
  if c == quote || c == '\\' then ['\\', c]
  else if c == '\n' then ['\\', 'n']
  else if c == '\r' then ['\\', 'r']
  else if c == '\t' then ['\\', 't']
  else if isPrintable c then [c]
  else escapeCodePoint c.toNat

/-- The quote for a text: double when the text holds single quotes and no double ones. -/
def quoteFor (cs : List Char) : Char :=
  if cs.contains '\'' && !cs.contains '"' then '"' else '\''

/-- A text between quotes. -/
def quoted (s : String) : String :=
  let quote := quoteFor s.toList
  String.ofList (quote :: s.toList.flatMap (quoteChar quote) ++ [quote])

end PlanDiagram.Text
