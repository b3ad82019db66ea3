import PlanDiagram.Formula.Occurrence

/-!
# Literals that are found

Every literal that is found in formulas of a role has that role, and the literals that are kept, one
of each label, are among those that were found.
-/

namespace PlanDiagram.Occurrences

mutual

/-- The literals in a formula have the role of the formula. -/
theorem role_of_mem_ofFormula {role : Role} {negated : Bool} (f : Formula) {l : LiteralUse}
    (h : l ∈ (ofFormula role negated f).literals) : l.role = role := by
  match f with
  | .negation argument => exact role_of_mem_ofFormula argument h
  | .predicate name arguments =>
    rw [List.mem_singleton.mp h]
  | .comparison op arguments => cases h
  | .numeric change arguments => cases h
  | .function name arguments => exact role_of_mem_ofFormulas arguments h
  | .arithmetic op arguments => exact role_of_mem_ofFormulas arguments h
  | .composite op items bound => exact role_of_mem_ofFormulas items h
  | .parameter name type => cases h
  | .number value => cases h

/-- The literals in formulas have the role of the formulas. -/
theorem role_of_mem_ofFormulas {role : Role} {negated : Bool} (fs : List Formula) {l : LiteralUse}
    (h : l ∈ (ofFormulas role negated fs).literals) : l.role = role := by
  match fs with
  | [] => cases h
  | f :: rest =>
    rcases List.mem_append.mp h with h | h
    · exact role_of_mem_ofFormula f h
    · exact role_of_mem_ofFormulas rest h

end

/-- The first literals of each label are among the literals. -/
theorem mem_of_mem_firstOfEachLabel {seen : List String} {literals : List LiteralUse}
    {l : LiteralUse} (h : l ∈ firstOfEachLabel seen literals) : l ∈ literals := by
  induction literals generalizing seen with
  | nil => cases h
  | cons first rest ih =>
    unfold firstOfEachLabel at h
    split at h
    · exact List.mem_cons_of_mem _ (ih h)
    · rcases List.mem_cons.mp h with rfl | h
      · exact List.mem_cons_self
      · exact List.mem_cons_of_mem _ (ih h)

/-- The literals that are kept have the role of the formulas in which they were found. -/
theorem role_of_mem_distinctLiterals {role : Role} {formulas : List (Option Formula)}
    {l : LiteralUse} (h : l ∈ (({} : Occurrences).collect role formulas).distinctLiterals) :
    l.role = role :=
  role_of_mem_ofFormulas _ (mem_of_mem_firstOfEachLabel h)

/-- The literals that are kept have labels that were not seen, and no two have the same. -/
theorem labels_of_firstOfEachLabel (seen : List String) (literals : List LiteralUse) :
    ((firstOfEachLabel seen literals).map LiteralUse.label).Nodup ∧
      ∀ label ∈ (firstOfEachLabel seen literals).map LiteralUse.label, label ∉ seen := by
  induction literals generalizing seen with
  | nil => exact ⟨.nil, by simp [firstOfEachLabel]⟩
  | cons l rest ih =>
    unfold firstOfEachLabel
    split
    · exact ih seen
    · rename_i hnew
      obtain ⟨hnodup, hunseen⟩ := ih (l.label :: seen)
      rw [List.map_cons, List.nodup_cons, List.forall_mem_cons]
      refine ⟨⟨fun hmem => hunseen _ hmem List.mem_cons_self, hnodup⟩, by simpa using hnew, ?_⟩
      exact fun label hlabel hmem => hunseen label hlabel (List.mem_cons_of_mem _ hmem)

/-- No two literals that are kept have the same label. -/
theorem labels_nodup (found : Occurrences) :
    (found.distinctLiterals.map LiteralUse.label).Nodup :=
  (labels_of_firstOfEachLabel [] found.literals).1

end PlanDiagram.Occurrences
