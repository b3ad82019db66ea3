import PlanDiagram.Domain.OfDefinition
import PlanDiagram.Proofs.Failure

/-!
# What the segments of a domain contribute

A domain is read segment by segment under the scope of all its constants. Main statement: each part
of a domain tells the keyword of the segment that it was read from, and how it was read.
-/

namespace PlanDiagram.Domain

variable {constants : Scope} {segment : Form}

/-- A domain is read in two steps: the constants, and under their scope the parts. -/
theorem ofDefinition_eq_ok_iff {d : Definition} {domain : Domain} :
    ofDefinition d = .ok domain ↔
      ∃ declared parts,
        ((d.body.filter isConstants).mapM fun segment =>
          Parameter.readList false (Section.entriesOf segment)) = .ok declared ∧
        d.body.mapM (Part.ofForm (Scope.ofParameters declared.flatten)) = .ok parts ∧
        domain = ofParts (d.name.getD "") parts := by
  unfold ofDefinition
  constructor
  · intro h
    obtain ⟨declared, hdeclared, h⟩ := bind_eq_ok_iff.mp h
    obtain ⟨parts, hparts, h⟩ := bind_eq_ok_iff.mp h
    exact ⟨declared, parts, hdeclared, hparts, (pure_eq_ok_iff.mp h).symm⟩
  · rintro ⟨declared, parts, hdeclared, hparts, rfl⟩
    exact bind_eq_ok_iff.mpr ⟨declared, hdeclared, bind_eq_ok_iff.mpr ⟨parts, hparts, rfl⟩⟩

/-- What a part says about a segment that it was read from. -/
def Part.IsOf (constants : Scope) (segment : Form) : Part → Prop
  | .requirements names =>
    Section.keyword? segment = some ":requirements" ∧
      names = (Section.entriesOf segment).map Form.render
  | .types declarations =>
    Section.keyword? segment = some ":types" ∧
      ∃ parameters, Parameter.readList false (Section.entriesOf segment) = .ok parameters ∧
        declarations = parameters.map fun p => { name := p.name, parent := p.type }
  | .constants parameters =>
    Section.keyword? segment = some ":constants" ∧
      Parameter.readList false (Section.entriesOf segment) = .ok parameters
  | .predicates schemas =>
    Section.keyword? segment = some ":predicates" ∧
      (Section.entriesOf segment).mapM PredicateSchema.ofForm = .ok schemas
  | .functions schemas =>
    Section.keyword? segment = some ":functions" ∧
      FunctionSchema.readList (Section.entriesOf segment) = .ok schemas
  | .action a =>
    (Section.keyword? segment = some ":action" ∨
      Section.keyword? segment = some ":durative-action") ∧
      Action.ofForm constants segment = .ok a
  | .other kept =>
    (∀ key ∈ knownKeywords, Section.keyword? segment ≠ some key) ∧ kept = Section.ofForm segment

/-- A part is that of the segment from which it was read. -/
theorem Part.isOf_of_ofForm {part : Part} (h : Part.ofForm constants segment = .ok part) :
    part.IsOf constants segment := by
  unfold Part.ofForm at h
  dsimp only at h
  split at h
  · rename_i hkey
    obtain rfl := pure_eq_ok_iff.mp h
    exact ⟨hkey, rfl⟩
  · rename_i hkey
    obtain ⟨parameters, hread, h⟩ := bind_eq_ok_iff.mp h
    obtain rfl := pure_eq_ok_iff.mp h
    exact ⟨hkey, parameters, hread, rfl⟩
  · rename_i hkey
    obtain ⟨parameters, hread, h⟩ := bind_eq_ok_iff.mp h
    obtain rfl := pure_eq_ok_iff.mp h
    exact ⟨hkey, hread⟩
  · rename_i hkey
    obtain ⟨schemas, hread, h⟩ := bind_eq_ok_iff.mp h
    obtain rfl := pure_eq_ok_iff.mp h
    exact ⟨hkey, hread⟩
  · rename_i hkey
    obtain ⟨schemas, hread, h⟩ := bind_eq_ok_iff.mp h
    obtain rfl := pure_eq_ok_iff.mp h
    exact ⟨hkey, hread⟩
  · rename_i hkey
    obtain ⟨action, hread, h⟩ := bind_eq_ok_iff.mp h
    obtain rfl := pure_eq_ok_iff.mp h
    exact ⟨.inl hkey, hread⟩
  · rename_i hkey
    obtain ⟨action, hread, h⟩ := bind_eq_ok_iff.mp h
    obtain rfl := pure_eq_ok_iff.mp h
    exact ⟨.inr hkey, hread⟩
  · obtain rfl := pure_eq_ok_iff.mp h
    refine ⟨?_, rfl⟩
    intro key hkey hkeyword
    simp_all [knownKeywords]

/-- The parts of a domain were read from the segments of its definition. -/
theorem parts_of_ofDefinition {d : Definition} {domain : Domain}
    (h : ofDefinition d = .ok domain) :
    ∃ constants parts,
      List.Forall₂ (fun segment part => Part.IsOf constants segment part) d.body parts ∧
        domain = ofParts (d.name.getD "") parts := by
  obtain ⟨declared, parts, -, hparts, rfl⟩ := ofDefinition_eq_ok_iff.mp h
  exact ⟨_, parts, (mapM_eq_ok_iff.mp hparts).imp fun _ _ => Part.isOf_of_ofForm, rfl⟩

/-- Each section of a domain is a segment that is kept as it is. -/
theorem exists_of_mem_sections {d : Definition} {domain : Domain} (h : ofDefinition d = .ok domain)
    {kept : Section} (hkept : kept ∈ domain.sections) :
    ∃ segment ∈ d.body, kept = Section.ofForm segment := by
  obtain ⟨constants, parts, hparts, rfl⟩ := parts_of_ofDefinition h
  obtain ⟨part, hpart, hkept⟩ := List.mem_filterMap.mp hkept
  obtain ⟨segment, hsegment, hof⟩ := exists_of_mem_right hparts hpart
  cases part with
  | other found =>
    obtain rfl := Option.some.inj hkept
    exact ⟨segment, hsegment, hof.2⟩
  | _ => cases hkept

end PlanDiagram.Domain
