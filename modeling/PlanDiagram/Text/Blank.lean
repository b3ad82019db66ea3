/-!
# Blanks

Which characters separate words, and how they are trimmed from the ends of a text or squeezed inside
it. The blanks are the characters that Unicode calls white space together with the four information
separators; zero-width characters are not blanks.
-/

namespace PlanDiagram.Text

/-- The blanks: tabulator to carriage return, the information separators, the space, the next-line
control, and the space, line and paragraph separators of Unicode. -/
def isBlank (c : Char) : Bool :=
  let n := c.toNat
  (0x09 ≤ n && n ≤ 0x0D) || (0x1C ≤ n && n ≤ 0x20) || n == 0x85 || n == 0xA0 || n == 0x1680 ||
    (0x2000 ≤ n && n ≤ 0x200A) || n == 0x2028 || n == 0x2029 || n == 0x202F || n == 0x205F ||
    n == 0x3000

/-- The space is a blank. -/
@[simp] theorem isBlank_space : isBlank ' ' = true := by decide

/-- The line feed is a blank. -/
@[simp] theorem isBlank_newline : isBlank '\n' = true := by decide

/-- Drops the elements satisfying `p` at the end of a list. -/
def dropEndWhile {α : Type} (p : α → Bool) : List α → List α
  | [] => []
  | c :: rest =>
    match dropEndWhile p rest with
    | [] => if p c then [] else [c]
    | kept => c :: kept

/-- Drops the blanks at both ends. -/
def trimChars (cs : List Char) : List Char :=
  dropEndWhile isBlank (cs.dropWhile isBlank)

/-- A text without the blanks at its ends. -/
def trim (s : String) : String :=
  String.ofList (trimChars s.toList)

/-- Replaces each run of blanks by one space; `afterBlank` says that the run has been written. -/
def squeezeChars (afterBlank : Bool) : List Char → List Char
  | [] => []
  | c :: rest =>
    if isBlank c then
      if afterBlank then squeezeChars true rest else ' ' :: squeezeChars true rest
    else c :: squeezeChars false rest

/-- A text with its words one space apart and no blanks at its ends. -/
def squeeze (s : String) : String :=
  String.ofList (trimChars (squeezeChars false s.toList))

/-- Nothing is dropped from the empty list. -/
@[simp] theorem dropEndWhile_nil {α : Type} (p : α → Bool) : dropEndWhile p [] = [] := rfl

end PlanDiagram.Text
