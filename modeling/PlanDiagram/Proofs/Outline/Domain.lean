import PlanDiagram.Outline.OfDocument
import PlanDiagram.Proofs.Document.Numerals
import PlanDiagram.Proofs.Document.Stages
import PlanDiagram.Proofs.Domain.OfDefinition
import PlanDiagram.Proofs.Schema

/-!
# The outline of a domain declares what the domain declares

The outline has a line for each type, constant, predicate and function of the primary domain. Types
that were given to several names at once are repeated on the line of each name, and the marks of
variables are put back. Main statement: each of these lines is read back as exactly what it stands
for, whatever the text was.
-/

namespace PlanDiagram

namespace Domain

/-- What a domain declares can be declared line by line. -/
structure IsDeclarable (domain : Domain) : Prop where
  types : ∀ t ∈ domain.types, (Parameter.mk t.name t.parent).IsDeclarable
  constants : ∀ p ∈ domain.constants, p.IsDeclarable
  predicates : ∀ p ∈ domain.predicates, ∃ form : Form, form.IsPlain ∧
    PredicateSchema.ofForm form = .ok p
  functions : ∀ f ∈ domain.functions, f.IsDeclarable

/-- What stands in the parts of a domain stands in a part that was read from a segment. -/
theorem exists_part_of_mem_flatMap {α : Type} {constants : Scope} {segments : List Form}
    {parts : List Part} {contents : Part → List α} {a : α}
    (hparts : List.Forall₂ (fun segment part => Part.IsOf constants segment part) segments parts)
    (h : a ∈ parts.flatMap contents) :
    ∃ segment ∈ segments, ∃ part : Part, part.IsOf constants segment ∧ a ∈ contents part := by
  obtain ⟨part, hpart, ha⟩ := List.mem_flatMap.mp h
  obtain ⟨segment, hsegment, hof⟩ := exists_of_mem_right hparts hpart
  exact ⟨segment, hsegment, part, hof, ha⟩

/-- What is read from plain segments can be declared. -/
theorem isDeclarable_of_ofDefinition {d : Definition} {domain : Domain}
    (hplain : ∀ segment ∈ d.body, segment.IsPlain) (h : ofDefinition d = .ok domain) :
    domain.IsDeclarable := by
  obtain ⟨constants, parts, hparts, rfl⟩ := parts_of_ofDefinition h
  have hentries : ∀ segment ∈ d.body, ∀ entry ∈ Section.entriesOf segment, entry.IsPlain :=
    fun segment hsegment entry => Section.isPlain_of_mem_entriesOf (hplain segment hsegment)
  refine ⟨fun t ht => ?_, fun p hp => ?_, fun p hp => ?_, fun f hf => ?_⟩
  · obtain ⟨segment, hsegment, part, hof, ht⟩ := exists_part_of_mem_flatMap hparts ht
    cases part with
    | types declarations =>
      obtain ⟨-, parameters, hread, rfl⟩ := hof
      obtain ⟨p, hp, rfl⟩ := List.mem_map.mp ht
      exact Parameter.isDeclarable_of_readList (hentries segment hsegment) hread p hp
    | _ => cases ht
  · obtain ⟨segment, hsegment, part, hof, hp⟩ := exists_part_of_mem_flatMap hparts hp
    cases part with
    | constants parameters =>
      exact Parameter.isDeclarable_of_readList (hentries segment hsegment) hof.2 p hp
    | _ => cases hp
  · obtain ⟨segment, hsegment, part, hof, hp⟩ := exists_part_of_mem_flatMap hparts hp
    cases part with
    | predicates schemas =>
      obtain ⟨entry, hentry, hread⟩ := exists_of_mem_right (mapM_eq_ok_iff.mp hof.2) hp
      exact ⟨entry, hentries segment hsegment entry hentry, hread⟩
    | _ => cases hp
  · obtain ⟨segment, hsegment, part, hof, hf⟩ := exists_part_of_mem_flatMap hparts hf
    cases part with
    | functions schemas =>
      exact FunctionSchema.isDeclarable_of_readFrom (by simp) (hentries segment hsegment) hof.2 f hf
    | _ => cases hf

end Domain

namespace Document

/-- A domain of a document was read from a definition with plain segments. -/
theorem exists_of_mem_domains {s : String} {document : Document} {domain : Domain}
    (hread : read s = .ok document) (h : domain ∈ document.domains) :
    ∃ d, Domain.ofDefinition d = .ok domain ∧ ∀ segment ∈ d.body, segment.IsPlain := by
  obtain ⟨entries, rfl, hentries⟩ := exists_entries_of_read hread
  obtain ⟨entry, hentry, hdomain⟩ := List.mem_filterMap.mp h
  obtain ⟨d, hofDefinition, hplain⟩ := hentries entry hentry
  cases entry with
  | domain found =>
    obtain rfl := Option.some.inj hdomain
    exact ⟨d, (Entry.ofDefinition_eq_domain_iff.mp hofDefinition).2, hplain⟩
  | problem p => cases hdomain
  | unknown definition => cases hdomain

/-- The primary domain is the first one. -/
theorem primary?_eq_domain_iff {document : Document} {domain : Domain} :
    document.primary? = some (.domain domain) ↔ document.domains.head? = some domain := by
  unfold primary?
  cases document.domains with
  | nil => cases document.problems <;> simp
  | cons first rest => simp

end Document

/-- A line that between parentheses is read as the declaration of just one parameter. -/
def Parameter.IsReadFrom (line : String) (p : Parameter) : Prop :=
  ∃ entries, Form.readOne ("(" ++ line ++ ")") = .ok (.list entries) ∧
    readList false entries = .ok [p]

/-- A line that between parentheses is read as the declaration of just one type. -/
def TypeDeclaration.IsReadFrom (line : String) (t : TypeDeclaration) : Prop :=
  Parameter.IsReadFrom line { name := t.name, type := t.parent }

/-- A line that is read as the declaration of a predicate. -/
def PredicateSchema.IsReadFrom (line : String) (p : PredicateSchema) : Prop :=
  ∃ form, Form.readOne line = .ok form ∧ ofForm form = .ok p

/-- A line that between parentheses is read as the declaration of just one function. -/
def FunctionSchema.IsReadFrom (line : String) (f : FunctionSchema) : Prop :=
  ∃ entries, Form.readOne ("(" ++ line ++ ")") = .ok (.list entries) ∧ readList entries = .ok [f]

/-- The declaration of a parameter is read back. -/
theorem Parameter.IsDeclarable.isReadFrom {p : Parameter} (h : p.IsDeclarable) :
    p.IsReadFrom p.declaration := by
  obtain ⟨entries, hplain, htext, hread⟩ := h.exists_list
  exact ⟨entries, htext ▸ Form.readOne_render rfl hplain, hread⟩

/-- The signature of a predicate that was read from a plain form is read back. -/
theorem PredicateSchema.isReadFrom_signature {form : Form} {p : PredicateSchema}
    (hplain : form.IsPlain) (h : ofForm form = .ok p) : p.IsReadFrom p.signature := by
  obtain ⟨entries, hentries, htext, hread⟩ := exists_list_of_ofForm hplain h
  exact ⟨_, htext ▸ Form.readOne_render rfl hentries, hread⟩

/-- The signature of a function is read back. -/
theorem FunctionSchema.IsDeclarable.isReadFrom {f : FunctionSchema} (h : f.IsDeclarable) :
    f.IsReadFrom f.signature := by
  obtain ⟨entries, hplain, htext, hread⟩ := h.exists_list
  exact ⟨entries, htext ▸ Form.readOne_render rfl hplain, hread⟩

namespace Outline

/-- A node with a line for each thing that is declared, from which it is read, or with the one line
that says that nothing is. -/
def Enumerates {α : Type} (reads : String → α → Prop) (o : Outline) (declared : List α) : Prop :=
  if declared = [] then o.children = [leaf noneText]
  else List.Forall₂ (fun line a => line.children = [] ∧ reads line.text a) o.children declared

/-- Lines from which everything is read enumerate it. -/
theorem enumerates_leavesOrNone {α : Type} {reads : String → α → Prop} {line : α → String}
    {declared : List α} (label : String) (h : ∀ a ∈ declared, reads (line a) a) :
    Enumerates reads (node label (leavesOrNone (declared.map line))) declared := by
  rw [Enumerates]
  split
  · rename_i hnil
    rw [hnil]
    rfl
  · rename_i hne
    have hlines : leavesOrNone (declared.map line) = declared.map fun a => leaf (line a) := by
      simp [leavesOrNone, hne]
    rw [children, hlines, List.forall₂_map_left_iff, List.forall₂_same]
    exact fun a ha => ⟨rfl, h a ha⟩

/-- The primary domain comes first in the outline of a document. -/
theorem exists_children_of_domain {document : Document} {d : Domain}
    (h : document.primary? = some (.domain d)) :
    ∃ others, (ofDocument document).children = ofDomain d ++ others := by
  rw [Document.primary?_eq_domain_iff] at h
  unfold ofDocument
  cases hdomains : document.domains with
  | nil =>
    rw [hdomains] at h
    cases h
  | cons first rest =>
    rw [hdomains] at h
    obtain rfl := Option.some.inj h
    simp only [children, List.append_assoc]
    exact ⟨_, rfl⟩

/-- A node with texts is not left out. -/
theorem nodeUnlessEmpty_of_ne_nil {label : String} {texts : List String} (h : texts ≠ []) :
    nodeUnlessEmpty label texts = [node label (leavesOrNone texts)] := by
  simp [nodeUnlessEmpty, leavesOrNone, h]

/-- Nothing is found under another label than that of the node. -/
theorem find?_nodeUnlessEmpty {label text : String} (h : label ≠ text) (texts : List String) :
    (nodeUnlessEmpty label texts).find? (fun child => child.text == text) = none := by
  have hlabel : (label == text) = false := beq_eq_false_iff_ne.mpr h
  unfold nodeUnlessEmpty
  split
  · rfl
  · simp [Outline.text, hlabel]

variable {document : Document} {d : Domain}

/-- The types of the primary domain are below the root. -/
theorem find?_types (h : document.primary? = some (.domain d)) :
    (ofDocument document).find? "Types" =
      some (node "Types" (leavesOrNone (d.types.map TypeDeclaration.line))) := by
  obtain ⟨others, hchildren⟩ := exists_children_of_domain h
  rw [find?, hchildren]
  rfl

/-- The predicates of the primary domain are below the root. -/
theorem find?_predicates (h : document.primary? = some (.domain d)) :
    (ofDocument document).find? "Predicates" =
      some (node "Predicates" (leavesOrNone (d.predicates.map PredicateSchema.signature))) := by
  obtain ⟨others, hchildren⟩ := exists_children_of_domain h
  rw [find?, hchildren, ofDomain]
  simp only [List.append_assoc, List.find?_append,
    find?_nodeUnlessEmpty (by decide : "Constants" ≠ "Predicates")]
  rfl

/-- The constants of the primary domain are below the root if there are any. -/
theorem find?_constants (h : document.primary? = some (.domain d)) (hne : d.constants ≠ []) :
    (ofDocument document).find? "Constants" =
      some (node "Constants" (leavesOrNone (d.constants.map Parameter.declaration))) := by
  obtain ⟨others, hchildren⟩ := exists_children_of_domain h
  rw [find?, hchildren, ofDomain, nodeUnlessEmpty_of_ne_nil (by simpa using hne)]
  rfl

/-- The functions of the primary domain are below the root if there are any. -/
theorem find?_functions (h : document.primary? = some (.domain d)) (hne : d.functions ≠ []) :
    (ofDocument document).find? "Functions" =
      some (node "Functions" (leavesOrNone (d.functions.map FunctionSchema.signature))) := by
  obtain ⟨others, hchildren⟩ := exists_children_of_domain h
  have hfunctions : nodeUnlessEmpty "Functions" (d.functions.map FunctionSchema.signature) =
      [node "Functions" (leavesOrNone (d.functions.map FunctionSchema.signature))] :=
    nodeUnlessEmpty_of_ne_nil (by simpa using hne)
  rw [find?, hchildren, ofDomain, hfunctions]
  simp only [List.append_assoc, List.find?_append,
    find?_nodeUnlessEmpty (by decide : "Constants" ≠ "Functions")]
  rfl

/-- The lines for the declarations of the primary domain are read back as what was declared: types
and constants as their names with their types, predicates with their parameters, and functions with
their parameters and the types of their values. -/
theorem ofDocument_declares {s : String} (hread : Document.read s = .ok document)
    (hprimary : document.primary? = some (.domain d)) :
    (∃ types, (ofDocument document).find? "Types" = some types ∧
      Enumerates TypeDeclaration.IsReadFrom types d.types) ∧
    (d.constants ≠ [] → ∃ constants, (ofDocument document).find? "Constants" = some constants ∧
      Enumerates Parameter.IsReadFrom constants d.constants) ∧
    (∃ predicates, (ofDocument document).find? "Predicates" = some predicates ∧
      Enumerates PredicateSchema.IsReadFrom predicates d.predicates) ∧
    (d.functions ≠ [] → ∃ functions, (ofDocument document).find? "Functions" = some functions ∧
      Enumerates FunctionSchema.IsReadFrom functions d.functions) := by
  have hmem : d ∈ document.domains :=
    List.mem_of_mem_head? (Document.primary?_eq_domain_iff.mp hprimary)
  obtain ⟨definition, hdefinition, hplain⟩ := Document.exists_of_mem_domains hread hmem
  have hdeclarable := Domain.isDeclarable_of_ofDefinition hplain hdefinition
  refine ⟨⟨_, find?_types hprimary, enumerates_leavesOrNone _ fun t ht => ?_⟩,
    fun hne => ⟨_, find?_constants hprimary hne, enumerates_leavesOrNone _ fun p hp => ?_⟩,
    ⟨_, find?_predicates hprimary, enumerates_leavesOrNone _ fun p hp => ?_⟩,
    fun hne => ⟨_, find?_functions hprimary hne, enumerates_leavesOrNone _ fun f hf => ?_⟩⟩
  · exact (hdeclarable.types t ht).isReadFrom
  · exact (hdeclarable.constants p hp).isReadFrom
  · obtain ⟨form, hform, hread⟩ := hdeclarable.predicates p hp
    exact PredicateSchema.isReadFrom_signature hform hread
  · exact (hdeclarable.functions f hf).isReadFrom

/-- A domain that groups types and functions, and gives a constant one of two types. -/
def transportForm : Form :=
  .list [.atom "define", .list [.atom "domain", .atom "transport"],
    .list [.atom ":types", .atom "truck", .atom "car", .atom "-", .atom "vehicle", .atom "place"],
    .list [.atom ":constants", .atom "depot", .atom "-",
      .list [.atom "either", .atom "place", .atom "vehicle"]],
    .list [.atom ":predicates", .list [.atom "at", .atom "?x", .atom "?y", .atom "-", .atom "place"]],
    .list [.atom ":functions", .list [.atom "fuel", .atom "?x"], .list [.atom "cost"], .atom "-",
      .atom "number"]]

/-- The domain that is read from it. -/
def transportDomain : Domain where
  name := "transport"
  types := [⟨"truck", some "vehicle"⟩, ⟨"car", some "vehicle"⟩, ⟨"place", none⟩]
  constants := [⟨"depot", some "(either place vehicle)"⟩]
  predicates := [⟨"at", [⟨"x", some "place"⟩, ⟨"y", some "place"⟩]⟩]
  functions := [⟨"fuel", [⟨"x", none⟩], some "number"⟩, ⟨"cost", [], some "number"⟩]

/-- Every group is taken apart into lines, and the lines are read back. -/
theorem ofDocument_declares_transport :
    Document.read transportForm.render = .ok { domains := [transportDomain] } ∧
      Document.primary? { domains := [transportDomain] } = some (.domain transportDomain) ∧
      (∃ types, (ofDocument { domains := [transportDomain] }).find? "Types" = some types ∧
        types.children.map text = ["truck - vehicle", "car - vehicle", "place"] ∧
        Enumerates TypeDeclaration.IsReadFrom types transportDomain.types) ∧
      ∃ functions, (ofDocument { domains := [transportDomain] }).find? "Functions" =
        some functions ∧ functions.children.map text = ["(fuel ?x) - number", "(cost) - number"] ∧
          Enumerates FunctionSchema.IsReadFrom functions transportDomain.functions := by
  have hread : Document.read transportForm.render = .ok { domains := [transportDomain] } := by
    rw [Document.read_of_readAll (Form.readAll_render rfl (by decide))]
    rfl
  have hprimary : Document.primary? { domains := [transportDomain] } =
    some (.domain transportDomain) := rfl
  obtain ⟨⟨types, htypes, hlines⟩, -, -, hfunctions⟩ := ofDocument_declares hread hprimary
  obtain ⟨functions, hfound, hsignatures⟩ := hfunctions (by decide)
  have htexts : types.children.map text = ["truck - vehicle", "car - vehicle", "place"] := by
    rw [find?_types hprimary] at htypes
    cases htypes
    decide +kernel
  have hfunctionTexts :
      functions.children.map text = ["(fuel ?x) - number", "(cost) - number"] := by
    rw [find?_functions hprimary (by decide)] at hfound
    cases hfound
    decide +kernel
  exact ⟨hread, hprimary, ⟨types, htypes, htexts, hlines⟩, functions, hfound, hfunctionTexts,
    hsignatures⟩

end Outline

end PlanDiagram
