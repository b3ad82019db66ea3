import PlanDiagram.Problem.OfDefinition
import PlanDiagram.Proofs.Formula.Reading

/-!
# What the segments of a problem contribute

A problem is read segment by segment under the scope of all its objects. Main statements: this scope
is that of the objects that the problem ends up with, its facts are read from the entries of `:init`
segments, and its goal from the entries of a `:goal` segment, several of them as a conjunction.
-/

namespace PlanDiagram.Problem

variable {scope : Scope} {segment : Form}

/-- A problem is read in two steps: the objects, and under their scope the parts. -/
theorem ofDefinition_eq_ok_iff {d : Definition} {p : Problem} :
    ofDefinition d = .ok p ↔
      ∃ declared parts,
        ((d.body.filter isObjects).mapM fun segment =>
          Parameter.readList false (Section.entriesOf segment)) = .ok declared ∧
        d.body.mapM (Part.ofForm (Scope.ofParameters declared.flatten)) = .ok parts ∧
        p = ofParts (d.name.getD "") parts := by
  unfold ofDefinition
  constructor
  · intro h
    obtain ⟨declared, hdeclared, h⟩ := bind_eq_ok_iff.mp h
    obtain ⟨parts, hparts, h⟩ := bind_eq_ok_iff.mp h
    exact ⟨declared, parts, hdeclared, hparts, (pure_eq_ok_iff.mp h).symm⟩
  · rintro ⟨declared, parts, hdeclared, hparts, rfl⟩
    exact bind_eq_ok_iff.mpr ⟨declared, hdeclared, bind_eq_ok_iff.mpr ⟨parts, hparts, rfl⟩⟩

/-- What a part says about a segment that it was read from, as far as objects, facts and goals are
concerned. -/
def Part.IsOf (scope : Scope) (segment : Form) : Part → Prop
  | .objects parameters =>
    isObjects segment = true ∧ Parameter.readList false (Section.entriesOf segment) = .ok parameters
  | .init facts =>
    isObjects segment = false ∧ Section.keyword? segment = some ":init" ∧
      (Section.entriesOf segment).mapM (Formula.ofForm scope) = .ok facts
  | .goal goals =>
    isObjects segment = false ∧ Section.keyword? segment = some ":goal" ∧
      (Section.entriesOf segment).mapM (Formula.ofForm scope) = .ok goals
  | _ => isObjects segment = false

/-- A part is that of the segment from which it was read. -/
theorem Part.isOf_of_ofForm {part : Part} (h : Part.ofForm scope segment = .ok part) :
    part.IsOf scope segment := by
  unfold Part.ofForm at h
  dsimp only at h
  split at h
  · rename_i hkey
    split at h <;> obtain rfl := pure_eq_ok_iff.mp h <;> simp [IsOf, isObjects, hkey]
  · rename_i hkey
    obtain rfl := pure_eq_ok_iff.mp h
    simp [IsOf, isObjects, hkey]
  · rename_i hkey
    obtain ⟨parameters, hread, h⟩ := bind_eq_ok_iff.mp h
    obtain rfl := pure_eq_ok_iff.mp h
    simp [IsOf, isObjects, hkey, hread]
  · rename_i hkey
    obtain ⟨facts, hread, h⟩ := bind_eq_ok_iff.mp h
    obtain rfl := pure_eq_ok_iff.mp h
    rw [Formula.ofForms_eq_mapM] at hread
    simp [IsOf, isObjects, hkey, hread]
  · rename_i hkey
    obtain ⟨goals, hread, h⟩ := bind_eq_ok_iff.mp h
    obtain rfl := pure_eq_ok_iff.mp h
    rw [Formula.ofForms_eq_mapM] at hread
    simp [IsOf, isObjects, hkey, hread]
  · rename_i hkey
    obtain ⟨metric, hread, h⟩ := bind_eq_ok_iff.mp h
    obtain rfl := pure_eq_ok_iff.mp h
    simp [IsOf, isObjects, hkey]
  · obtain rfl := pure_eq_ok_iff.mp h
    simp_all [IsOf, isObjects]

/-- The section that is kept of a segment. -/
def Part.kept? : Part → Option Section
  | .metric _ kept | .other kept => some kept
  | _ => none

/-- A segment of which a section is kept is kept as it is. -/
theorem Part.kept_eq_of_ofForm {part : Part} (h : Part.ofForm scope segment = .ok part)
    {kept : Section} (hkept : part.kept? = some kept) : kept = Section.ofForm segment := by
  unfold Part.ofForm at h
  dsimp only at h
  split at h
  · split at h <;> obtain rfl := pure_eq_ok_iff.mp h <;> cases hkept
  · obtain rfl := pure_eq_ok_iff.mp h
    cases hkept
  · obtain ⟨parameters, -, h⟩ := bind_eq_ok_iff.mp h
    obtain rfl := pure_eq_ok_iff.mp h
    cases hkept
  · obtain ⟨facts, -, h⟩ := bind_eq_ok_iff.mp h
    obtain rfl := pure_eq_ok_iff.mp h
    cases hkept
  · obtain ⟨goals, -, h⟩ := bind_eq_ok_iff.mp h
    obtain rfl := pure_eq_ok_iff.mp h
    cases hkept
  · obtain ⟨metric, -, h⟩ := bind_eq_ok_iff.mp h
    obtain rfl := pure_eq_ok_iff.mp h
    exact (Option.some.inj hkept).symm
  · obtain rfl := pure_eq_ok_iff.mp h
    exact (Option.some.inj hkept).symm

/-- The sections of a problem are those that are kept of its segments. -/
theorem sections_ofParts (name : String) (parts : List Part) :
    (ofParts name parts).sections = parts.filterMap Part.kept? :=
  rfl

/-- The objects of a problem are those that its segments declare. -/
theorem objects_ofParts {name : String} {body : List Form} {parts : List Part}
    {declared : List (List Parameter)}
    (hparts : List.Forall₂ (fun segment part => part.IsOf scope segment) body parts)
    (hdeclared : ((body.filter isObjects).mapM fun segment =>
      Parameter.readList false (Section.entriesOf segment)) = .ok declared) :
    (ofParts name parts).objects = declared.flatten := by
  induction hparts generalizing declared with
  | nil =>
    obtain rfl := pure_eq_ok_iff.mp hdeclared
    rfl
  | @cons segment part body parts hpart hparts ih =>
    cases hobjects : isObjects segment with
    | true =>
      rw [List.filter_cons_of_pos hobjects, mapM_eq_ok_iff] at hdeclared
      cases hdeclared with
      | cons hread hrest =>
        have ih := ih (mapM_eq_ok_iff.mpr hrest)
        cases part with
        | objects parameters =>
          obtain rfl := Except.ok.inj (hread.symm.trans hpart.2)
          simpa [ofParts] using ih
        | _ => simp_all [Part.IsOf]
    | false =>
      rw [List.filter_cons_of_neg (by simp [hobjects])] at hdeclared
      have ih := ih hdeclared
      cases part with
      | objects parameters => simp_all [Part.IsOf]
      | _ => simpa [ofParts] using ih

/-- The parts of a problem were read under the scope of its objects. -/
theorem parts_of_ofDefinition {d : Definition} {p : Problem} (h : ofDefinition d = .ok p) :
    ∃ parts, List.Forall₂ (fun segment part =>
        part.IsOf (Scope.ofParameters p.objects) segment) d.body parts ∧
      p = ofParts (d.name.getD "") parts := by
  obtain ⟨declared, parts, hdeclared, hparts, rfl⟩ := ofDefinition_eq_ok_iff.mp h
  have hof := (mapM_eq_ok_iff.mp hparts).imp fun _ _ => Part.isOf_of_ofForm
  rw [objects_ofParts hof hdeclared]
  exact ⟨parts, hof, rfl⟩

/-- Each section of a problem is a segment that is kept as it is. -/
theorem exists_of_mem_sections {d : Definition} {p : Problem} (h : ofDefinition d = .ok p)
    {kept : Section} (hkept : kept ∈ p.sections) :
    ∃ segment ∈ d.body, kept = Section.ofForm segment := by
  obtain ⟨declared, parts, -, hparts, rfl⟩ := ofDefinition_eq_ok_iff.mp h
  rw [sections_ofParts] at hkept
  obtain ⟨part, hpart, hkept⟩ := List.mem_filterMap.mp hkept
  obtain ⟨segment, hsegment, hof⟩ := exists_of_mem_right (mapM_eq_ok_iff.mp hparts) hpart
  exact ⟨segment, hsegment, Part.kept_eq_of_ofForm hof hkept⟩

/-- Each fact of a problem is read from an entry of an `:init` segment. -/
theorem exists_of_mem_init {d : Definition} {p : Problem} (h : ofDefinition d = .ok p) {e : Formula}
    (he : e ∈ p.init) :
    ∃ segment ∈ d.body, Section.keyword? segment = some ":init" ∧
      ∃ entry ∈ Section.entriesOf segment,
        Formula.ofForm (Scope.ofParameters p.objects) entry = .ok e := by
  obtain ⟨parts, hparts, hp⟩ := parts_of_ofDefinition h
  rw [hp] at he
  obtain ⟨part, hpart, he⟩ := List.mem_flatMap.mp he
  obtain ⟨segment, hsegment, hof⟩ := exists_of_mem_right hparts hpart
  cases part with
  | init facts =>
    obtain ⟨entry, hentry, hread⟩ := exists_of_mem_right (mapM_eq_ok_iff.mp hof.2.2) he
    exact ⟨segment, hsegment, hof.2.1, entry, hentry, hread⟩
  | _ => cases he

/-- The goal of a problem is read from the entry of a `:goal` segment, or is the conjunction of what
is read from its entries. -/
theorem exists_of_goal {d : Definition} {p : Problem} (h : ofDefinition d = .ok p) {e : Formula}
    (he : p.goal = some e) :
    ∃ segment ∈ d.body, Section.keyword? segment = some ":goal" ∧
      ∃ goals, (Section.entriesOf segment).mapM (Formula.ofForm (Scope.ofParameters p.objects)) =
          .ok goals ∧ goalOf? goals = some e := by
  obtain ⟨parts, hparts, hp⟩ := parts_of_ofDefinition h
  rw [hp] at he
  obtain ⟨part, hpart, he⟩ := List.mem_filterMap.mp (List.mem_of_getLast? he)
  obtain ⟨segment, hsegment, hof⟩ := exists_of_mem_right hparts hpart
  cases part with
  | goal goals => exact ⟨segment, hsegment, hof.2.1, goals, hof.2.2, he⟩
  | _ => cases he

end PlanDiagram.Problem
