import PlanDiagram.Proofs.Document.Stages
import PlanDiagram.Proofs.Form.Concatenation

/-!
# Documents of texts that follow each other

Two planning texts may be put into one, the second on a line of its own. If the first can be read,
what comes of the whole is determined by what comes of the second alone: the documents are joined, a
text without definitions adds nothing, and any other failure is the failure of the whole.
-/

namespace PlanDiagram.Document

/-- What one document defines followed by what another one defines, kind by kind. -/
def append (first second : Document) : Document where
  domains := first.domains ++ second.domains
  problems := first.problems ++ second.problems
  unknown := first.unknown ++ second.unknown

instance : Append Document := ⟨append⟩

/-- Sorting by kind keeps two sequences of entries apart. -/
theorem ofEntries_append (front back : List Entry) :
    ofEntries (front ++ back) = ofEntries front ++ ofEntries back := by
  change _ = append (ofEntries front) (ofEntries back)
  simp only [ofEntries, append, List.filterMap_append]

/-- Entries behind others that can be read are read on their own. -/
theorem mapM_entries_append {front back : List Definition} {entries : List Entry}
    (h : front.mapM Entry.ofDefinition = .ok entries) :
    ((front ++ back).mapM Entry.ofDefinition).map ofEntries =
      ((back.mapM Entry.ofDefinition).map ofEntries).map (ofEntries entries ++ ·) := by
  rw [List.mapM_append, h]
  cases back.mapM Entry.ofDefinition with
  | error e => rfl
  | ok others =>
    change Except.ok (ofEntries (entries ++ others)) = _
    rw [ofEntries_append]
    rfl

/-- The outcome for a text behind one that can be read, on a line of its own: documents are joined
kind by kind; a second text that is blank or without definitions adds nothing; a closing parenthesis
that closes nothing is found behind the tokens of the first text; every other error stays. -/
theorem read_newline {s : String} {d : Document} (h : read s = .ok d) (t : String) :
    read (s ++ "\n" ++ t) =
      match read t with
      | .ok other => .ok (d ++ other)
      | .error (.form .empty) | .error .noDefinitions => .ok d
      | .error (.form (.unexpectedClosing position)) =>
        .error (.form (.unexpectedClosing (position + (Token.ofString s).length)))
      | .error e => .error e := by
  obtain ⟨forms, entries, hforms, hne, hentries, rfl⟩ := read_eq_ok_iff.mp h
  have hjoined := Form.readAll_newline hforms t
  cases ht : Form.readAll t with
  | error e =>
    rw [ht] at hjoined
    rw [read_of_readAll_error ht]
    cases e with
    | empty => rw [read_of_readAll hjoined, if_neg hne, hentries]; rfl
    | _ => exact read_of_readAll_error hjoined
  | ok others =>
    rw [ht] at hjoined
    rw [read_of_readAll hjoined, read_of_readAll ht, Definition.ofForms_append,
      if_neg (by simp [hne]), mapM_entries_append hentries]
    by_cases hnone : Definition.ofForms others = []
    · rw [hnone, if_pos rfl]
      change Except.ok (ofEntries entries ++ ofEntries []) = _
      rw [← ofEntries_append, List.append_nil]
    · rw [if_neg hnone]
      cases hrest : (Definition.ofForms others).mapM Entry.ofDefinition with
      | ok rest => rfl
      | error e =>
        obtain ⟨-, other, -, -, -, hother⟩ := mapM_eq_error_iff.mp hrest
        obtain ⟨cause, rfl, -⟩ := Entry.ofDefinition_eq_error_iff.mp hother
        rfl

/-- A comment that is left open ends with the line, and the eight tokens in front of it count
towards the place of a parenthesis that closes nothing. -/
theorem read_newline_unexpectedClosing :
    (∃ d, read "(define (domain a)) b ; open" = .ok d) ∧
      read "c)" = .error (.form (.unexpectedClosing 1)) ∧
      read ("(define (domain a)) b ; open" ++ "\n" ++ "c)") =
        .error (.form (.unexpectedClosing 9)) := by
  obtain ⟨d, hd⟩ := exists_of_isOk
    (by decide +kernel : (read "(define (domain a)) b ; open").isOk = true)
  have hc : read "c)" = .error (.form (.unexpectedClosing 1)) := read_of_readAll_error rfl
  have hcount : (Token.ofString "(define (domain a)) b ; open").length = 8 := by decide +kernel
  refine ⟨⟨d, hd⟩, hc, ?_⟩
  rw [read_newline hd "c)", hc, hcount]

end PlanDiagram.Document
