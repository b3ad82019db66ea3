import Mathlib.Data.List.Induction
import PlanDiagram.Proofs.Form.RoundTrip

/-!
# Comments

A character stands in a comment if there is a semicolon on its line, up to and including the
character itself. This is said by looking at the text before the character, without running the
scanner that removes comments. Main statements: a text has no tokens exactly if every character
outside its comments is a blank, and a comment that is put in at the end of a line changes neither
the forms that are read nor the error that is reported.
-/

namespace PlanDiagram.Token

/-- Tells whether a character ends a line, and with it a comment. -/
def isLineEnd (c : Char) : Bool :=
  c == '\n' || c == '\r'

/-- The characters of a text on its last line, last first. -/
def lastLine (cs : List Char) : List Char :=
  cs.reverse.takeWhile fun c => !isLineEnd c

/-- A character behind others stands in a comment: its line, which ends with it, has a
semicolon. -/
def InComment (before : List Char) (c : Char) : Prop :=
  ';' ∈ lastLine (before ++ [c])

/-- The characters of a text outside its comments are blanks. -/
def IsBlankText (s : String) : Prop :=
  ∀ before c after, s.toList = before ++ c :: after → ¬ InComment before c → Text.isBlank c = true

/-- A line end starts a new line. -/
theorem lastLine_append_lineEnd (before : List Char) {c : Char} (h : isLineEnd c = true) :
    lastLine (before ++ [c]) = [] := by
  simp [lastLine, h]

/-- Any other character goes on with the last line. -/
theorem lastLine_append_of_not_lineEnd (before : List Char) {c : Char} (h : isLineEnd c = false) :
    lastLine (before ++ [c]) = c :: lastLine before := by
  simp [lastLine, h]

/-- The places of a list are its head and the places of its tail. -/
theorem forall_place_cons {p : List Char → Char → Prop} {d : Char} {rest : List Char} :
    (∀ before c after, d :: rest = before ++ c :: after → p before c) ↔
      p [] d ∧ ∀ before c after, rest = before ++ c :: after → p (d :: before) c := by
  constructor
  · intro h
    refine ⟨h [] d rest rfl, fun before c after hrest => h (d :: before) c after ?_⟩
    rw [hrest, List.cons_append]
  · rintro ⟨hhead, htail⟩ before c after heq
    cases before with
    | nil =>
      obtain ⟨rfl, rfl⟩ := List.cons.inj heq
      exact hhead
    | cons first before =>
      obtain ⟨rfl, rfl⟩ := List.cons.inj heq
      exact htail before c after rfl

/-- What is left without the comments has a property if all characters outside comments have it.
The characters that have been read decide whether the rest starts inside a comment. -/
theorem all_stripFrom_iff {p : Char → Bool} {inside : Bool} {front cs : List Char}
    (hinside : inside = true ↔ ';' ∈ lastLine front) :
    (stripFrom inside cs).all p = true ↔
      ∀ before c after, cs = before ++ c :: after →
        ¬ InComment (front ++ before) c → p c = true := by
  induction cs generalizing inside front with
  | nil => simp [stripFrom]
  | cons d rest ih =>
    have hnext {inside' : Bool} (hinside' : inside' = true ↔ InComment front d) :
        (stripFrom inside' rest).all p = true ↔
          ∀ before c after, rest = before ++ c :: after →
            ¬ InComment (front ++ d :: before) c → p c = true := by
      have hiff := @ih inside' (front ++ [d]) hinside'
      simpa using hiff
    rw [forall_place_cons, List.append_nil]
    cases hline : isLineEnd d with
    | true =>
      have hout : ¬ InComment front d := by simp [InComment, lastLine_append_lineEnd front hline]
      have hstrip : stripFrom inside (d :: rest) = d :: stripFrom false rest := by
        have hne : d ≠ ';' := by
          rintro rfl
          simp [isLineEnd] at hline
        simp only [isLineEnd] at hline
        cases inside <;> simp [stripFrom, hline, hne]
      rw [hstrip, List.all_cons, Bool.and_eq_true, hnext (by simp [hout])]
      simp [hout]
    | false =>
      have hcomment : InComment front d ↔ ';' = d ∨ inside = true := by
        rw [InComment, lastLine_append_of_not_lineEnd front hline, List.mem_cons, ← hinside]
      simp only [isLineEnd] at hline
      by_cases hin : InComment front d
      · have hstrip : stripFrom inside (d :: rest) = stripFrom true rest := by
          rcases hcomment.mp hin with rfl | rfl
          · cases inside <;> rfl
          · simp [stripFrom, hline]
        rw [hstrip, hnext (by simp [hin])]
        simp [hin]
      · have hstrip : stripFrom inside (d :: rest) = d :: stripFrom false rest := by
          rw [hcomment, not_or] at hin
          simp [stripFrom, hin.2, Ne.symm hin.1]
        rw [hstrip, List.all_cons, Bool.and_eq_true, hnext (by simp [hin])]
        simp [hin]

/-- A text has no tokens exactly if every character outside its comments is a blank. -/
theorem ofString_eq_nil_iff {s : String} : ofString s = [] ↔ IsBlankText s := by
  have hstart : (false = true) ↔ ';' ∈ lastLine [] := by simp [lastLine]
  rw [ofString, tokens, scan_eq_nil_iff, stripComments, all_stripFrom_iff hstart]
  simp [IsBlankText]

/-- Tells whether a line ends before a text: where the text ends, and at a line end. -/
def endsLine : List Char → Bool
  | [] => true
  | c :: _ => isLineEnd c

/-- A character is stripped before the rest of the text, and the line up to it decides whether the
rest starts inside a comment. -/
theorem stripFrom_cons (front : List Char) (c : Char) (back : List Char) :
    stripFrom (decide (';' ∈ lastLine front)) (c :: back) =
      stripFrom (decide (';' ∈ lastLine front)) [c] ++
        stripFrom (decide (';' ∈ lastLine (front ++ [c]))) back := by
  cases hline : isLineEnd c with
  | true =>
    have hne : c ≠ ';' := by
      rintro rfl
      simp [isLineEnd] at hline
    rw [lastLine_append_lineEnd front hline]
    simp only [isLineEnd] at hline
    cases decide (';' ∈ lastLine front) <;> simp [stripFrom, hline, hne]
  | false =>
    rw [lastLine_append_of_not_lineEnd front hline]
    simp only [isLineEnd] at hline
    by_cases hin : ';' ∈ lastLine front
    · simp [stripFrom, hline, hin]
    · by_cases hc : c = ';'
      · simp [stripFrom, hc]
      · simp [stripFrom, hc, Ne.symm hc, hin]

/-- A text is stripped on its own, and what follows it as the last line of the text decides. -/
theorem stripComments_append (front back : List Char) :
    stripComments (front ++ back) =
      stripComments front ++ stripFrom (decide (';' ∈ lastLine front)) back := by
  induction front using List.reverseRecOn generalizing back with
  | nil => simp [stripComments, stripFrom, lastLine]
  | append_singleton front c ih =>
    calc stripComments (front ++ [c] ++ back)
        = stripComments front ++ stripFrom (decide (';' ∈ lastLine front)) (c :: back) := by
          rw [List.append_assoc, List.singleton_append, ih]
      _ = stripComments (front ++ [c]) ++
            stripFrom (decide (';' ∈ lastLine (front ++ [c]))) back := by
          rw [stripFrom_cons, ih [c], List.append_assoc]

/-- Inside a comment everything is stripped up to the end of the line. -/
theorem stripFrom_body {body : List Char} (h : ∀ c ∈ body, isLineEnd c = false)
    (back : List Char) : stripFrom true (body ++ back) = stripFrom true back := by
  induction body with
  | nil => rfl
  | cons c body ih =>
    obtain ⟨hc, hbody⟩ := List.forall_mem_cons.mp h
    simp only [isLineEnd] at hc
    simp [stripFrom, hc, ih hbody]

/-- Where a line ends, it does not matter whether it ends a comment. -/
theorem stripFrom_of_endsLine {back : List Char} (h : endsLine back = true) (inside : Bool) :
    stripFrom inside back = stripFrom true back := by
  cases back with
  | nil => simp [stripFrom]
  | cons c rest =>
    have hne : c ≠ ';' := by
      rintro rfl
      simp [endsLine, isLineEnd] at h
    simp only [endsLine, isLineEnd] at h
    cases inside <;> simp [stripFrom, h, hne]

/-- A comment at the end of a line is stripped as if it were not there. -/
theorem stripComments_insert {body back : List Char} (front : List Char)
    (hbody : ∀ c ∈ body, isLineEnd c = false) (hback : endsLine back = true) :
    stripComments (front ++ ';' :: (body ++ back)) = stripComments (front ++ back) := by
  have hcomment (inside : Bool) :
      stripFrom inside (';' :: (body ++ back)) = stripFrom inside back := by
    calc stripFrom inside (';' :: (body ++ back))
        = stripFrom true (body ++ back) := by cases inside <;> rfl
      _ = stripFrom true back := stripFrom_body hbody back
      _ = stripFrom inside back := (stripFrom_of_endsLine hback inside).symm
  rw [stripComments_append, stripComments_append, hcomment]

end PlanDiagram.Token

namespace PlanDiagram.Form

open Token (isLineEnd endsLine)

/-- Comments are invisible. A semicolon with what follows it on its line can be put in anywhere
before the end of a line, also inside another comment or right behind a word, and the outcome of
reading stays the same, with the place of an error. -/
theorem readAll_insert_comment {comment back : String} (front : String)
    (hcomment : ∀ c ∈ comment.toList, isLineEnd c = false)
    (hback : endsLine back.toList = true) :
    readAll (front ++ ";" ++ comment ++ back) = readAll (front ++ back) := by
  have hstrip : Token.stripComments (front ++ ";" ++ comment ++ back).toList =
      Token.stripComments (front ++ back).toList := by
    have hinsert := Token.stripComments_insert front.toList hcomment hback
    simpa using hinsert
  rw [readAll, readAll, hstrip]

/-- A comment with parentheses and a line separator, put in behind a word inside another comment,
leaves a stray parenthesis at its place. -/
theorem readAll_insert_comment_stray :
    (∀ c ∈ "(\u2028;)".toList, isLineEnd c = false) ∧ endsLine "\r(b)))".toList = true ∧
      readAll ("(a;x" ++ ";" ++ "(\u2028;)" ++ "\r(b)))") = readAll ("(a;x" ++ "\r(b)))") ∧
      readAll ("(a;x" ++ "\r(b)))") = .error (.unexpectedClosing 6) := by
  have hcomment : ∀ c ∈ "(\u2028;)".toList, isLineEnd c = false := by
    simp [isLineEnd]
  exact ⟨hcomment, rfl, readAll_insert_comment "(a;x" hcomment rfl, rfl⟩

end PlanDiagram.Form
