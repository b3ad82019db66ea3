import PlanDiagram.Proofs.Outline.Domain
import PlanDiagram.Proofs.Outline.Problem

/-!
# The root of an outline

The nodes of the primary definition hang on the root, and every other domain and problem has a node
of its own there, labelled with its kind and name. Nodes of the primary definition are not mistaken
for labelled ones, since no keyword has a blank. Main statement: this holds for every text that
defines something, and the text of the root is that of the primary definition unless this is a
domain without a name. Then a problem that hangs below gives the root its name.
-/

namespace PlanDiagram

/-- The domains and problems of a document, the domains first. -/
def Document.structures (d : Document) : List Structure :=
  d.domains.map .domain ++ d.problems.map .problem

/-- The primary definition is the first domain or problem. -/
theorem Document.primary?_eq_head? (d : Document) : d.primary? = d.structures.head? := by
  unfold primary? structures
  cases d.domains with
  | cons domain domains => rfl
  | nil => cases d.problems <;> rfl

/-- The primary definition is a domain without a name, and the first problem has one. -/
structure Document.NamedByProblem (d : Document) (p : Problem) : Prop where
  domain_nameless : ∃ domain, d.domains.head? = some domain ∧ domain.name = ""
  problem_first : d.problems.head? = some p
  problem_named : p.name ≠ ""

/-- The label of a section that is made of a plain segment has no blank. -/
theorem Section.space_not_mem_label {segment : Form} (h : segment.IsPlain) :
    ' ' ∉ (ofForm segment).label.toList := by
  unfold ofForm
  split
  · rename_i head rest
    have hhead : Token.IsPlain head := h head (by simp [Form.atoms, Form.atomsOfAll])
    exact fun hmem => absurd (hhead.2 ' ' hmem) (by decide)
  · simp

namespace Outline

/-- The nodes of a domain or problem. -/
def structureNodes : Structure → List Outline
  | .domain d => ofDomain d
  | .problem p => ofProblem p

/-- The node of a domain or problem that is not primary. -/
def structureNode : Structure → Outline
  | .domain d => domainNode d
  | .problem p => problemNode p

/-- The text of a root that is about a domain or problem: its kind and its name, if it has one. -/
def heading : Structure → String
  | .domain d => if d.name = "" then "PDDL Diagram" else "Domain: " ++ d.name
  | .problem p => if p.name = "" then "PDDL Diagram" else "Problem: " ++ p.name

/-- Tells whether a node is labelled as a domain or a problem. -/
def isLabelled (o : Outline) : Bool :=
  "Domain: ".toList.isPrefixOf o.text.toList || "Problem: ".toList.isPrefixOf o.text.toList

/-- The node of a domain or problem that is not primary is labelled. -/
theorem isLabelled_structureNode (s : Structure) : (structureNode s).isLabelled = true := by
  cases s <;> simp [isLabelled, structureNode, domainNode, problemNode, text]

/-- A node whose text has no blank is not labelled. -/
theorem isLabelled_of_space_not_mem {o : Outline} (h : ' ' ∉ o.text.toList) :
    o.isLabelled = false := by
  rw [isLabelled, Bool.or_eq_false_iff]
  constructor <;>
    exact Bool.eq_false_iff.mpr fun hprefix =>
      h ((List.isPrefixOf_iff_prefix.mp hprefix).subset (by decide))

/-- The texts of nodes that are the same for all domains or all problems. -/
def fixedTexts : List String :=
  ["Requirements", "Types", "Constants", "Predicates", "Functions", "Actions", "Objects", "Init",
    "Goal", "Metric"]

/-- The nodes of a domain have fixed texts, but for its sections. -/
theorem text_of_mem_ofDomain {d : Domain} {o : Outline} (h : o ∈ ofDomain d) :
    o.text ∈ fixedTexts ∨ ∃ s ∈ d.sections, o.text = s.label := by
  have hunless {label : String} {texts : List String} (ho : o ∈ nodeUnlessEmpty label texts) :
      o.text = label := by
    unfold nodeUnlessEmpty at ho
    split at ho
    · cases ho
    · rw [List.mem_singleton.mp ho]
      rfl
  simp only [ofDomain, List.mem_append, List.mem_cons, List.not_mem_nil, or_false,
    List.mem_map] at h
  rcases h with (((((rfl | rfl) | h) | rfl) | h) | rfl) | ⟨s, hs, rfl⟩
  · simp [text, fixedTexts]
  · simp [text, fixedTexts]
  · simp [hunless h, fixedTexts]
  · simp [text, fixedTexts]
  · simp [hunless h, fixedTexts]
  · simp [text, fixedTexts]
  · exact .inr ⟨s, hs, rfl⟩

/-- The nodes of a problem have fixed texts, but for its first line and its sections. -/
theorem text_of_mem_ofProblem {p : Problem} {o : Outline} (h : o ∈ ofProblem p) :
    (∃ name, o.text = "Domain Reference: " ++ name) ∨
      o.text ∈ fixedTexts ∨ ∃ s ∈ p.sections, o.text = s.label := by
  simp only [ofProblem, List.mem_append, List.mem_cons, List.not_mem_nil, or_false, List.mem_map,
    Option.mem_toList, Option.map_eq_some_iff] at h
  rcases h with ((rfl | rfl | rfl | rfl) | ⟨metric, -, rfl⟩) | ⟨s, hs, rfl⟩
  · exact .inl ⟨_, rfl⟩
  · simp [text, fixedTexts]
  · simp [text, fixedTexts]
  · simp [text, fixedTexts]
  · simp [text, ofMetric, fixedTexts]
  · exact .inr (.inr ⟨s, (List.mem_filter.mp hs).1, rfl⟩)

/-- The nodes of a domain or problem that was read from a text are not labelled. -/
theorem isLabelled_of_mem_structureNodes {s : String} {document : Document} {primary : Structure}
    (hread : Document.read s = .ok document) (h : primary ∈ document.structures) {o : Outline}
    (ho : o ∈ structureNodes primary) : o.isLabelled = false := by
  have hfixed : ∀ text ∈ fixedTexts, ' ' ∉ text.toList := by decide
  have hkept {segments : List Form} {kept : Section}
      (hplain : ∀ segment ∈ segments, segment.IsPlain) (htext : o.text = kept.label)
      (hof : ∃ segment ∈ segments, kept = Section.ofForm segment) : o.isLabelled = false := by
    obtain ⟨segment, hsegment, rfl⟩ := hof
    apply isLabelled_of_space_not_mem
    rw [htext]
    exact Section.space_not_mem_label (hplain segment hsegment)
  rcases List.mem_append.mp h with h | h
  · obtain ⟨domain, hdomain, rfl⟩ := List.mem_map.mp h
    obtain ⟨d, hd, hplain⟩ := Document.exists_of_mem_domains hread hdomain
    rcases text_of_mem_ofDomain ho with htext | ⟨kept, hmem, htext⟩
    · exact isLabelled_of_space_not_mem (hfixed _ htext)
    · exact hkept hplain htext (Domain.exists_of_mem_sections hd hmem)
  · obtain ⟨p, hp, rfl⟩ := List.mem_map.mp h
    obtain ⟨d, hd, hplain⟩ := Document.exists_of_mem_problems hread hp
    rcases text_of_mem_ofProblem ho with ⟨name, htext⟩ | htext | ⟨kept, hmem, htext⟩
    · rw [isLabelled, htext, String.toList_append]
      rfl
    · exact isLabelled_of_space_not_mem (hfixed _ htext)
    · exact hkept hplain htext (Problem.exists_of_mem_sections hd hmem)

/-- The nodes of the first domain or problem hang on the root, followed by the labelled nodes of the
others and the definitions of neither. -/
theorem children_ofDocument {document : Document} {primary : Structure} {others : List Structure}
    (h : document.structures = primary :: others) :
    (ofDocument document).children =
      structureNodes primary ++ others.map structureNode ++ document.unknown.map unknownNode := by
  obtain ⟨domains, problems, unknown⟩ := document
  cases domains with
  | cons domain domains =>
    obtain ⟨rfl, rfl⟩ := List.cons.inj h
    simp [ofDocument, children, structureNodes, structureNode, Function.comp_def]
  | nil =>
    cases problems with
    | nil => cases h
    | cons p problems =>
      obtain ⟨rfl, rfl⟩ := List.cons.inj h
      simp [ofDocument, children, structureNodes, structureNode, Function.comp_def]

/-- The labelled nodes below the root are those of the domains and problems that are not primary. -/
theorem filter_isLabelled_children {s : String} {document : Document} {primary : Structure}
    {others : List Structure} (hread : Document.read s = .ok document)
    (h : document.structures = primary :: others) :
    (ofDocument document).children.filter isLabelled = others.map structureNode := by
  have hprimary : (structureNodes primary).filter isLabelled = [] :=
    List.filter_eq_nil_iff.mpr fun o ho => Bool.eq_false_iff.mp
      (isLabelled_of_mem_structureNodes hread (h ▸ List.mem_cons_self) ho)
  have hothers : (others.map structureNode).filter isLabelled = others.map structureNode := by
    refine List.filter_eq_self.mpr fun o ho => ?_
    obtain ⟨other, -, rfl⟩ := List.mem_map.mp ho
    exact isLabelled_structureNode other
  have hunknown : (document.unknown.map unknownNode).filter isLabelled = [] := by
    refine List.filter_eq_nil_iff.mpr fun o ho => ?_
    obtain ⟨definition, -, rfl⟩ := List.mem_map.mp ho
    exact Bool.eq_false_iff.mp (isLabelled_of_space_not_mem (by simp [unknownNode, text]))
  rw [children_ofDocument h, List.filter_append, List.filter_append, hprimary, hothers, hunknown,
    List.nil_append, List.append_nil]

/-- The root is named by a problem if the primary definition is a domain without a name. -/
theorem text_ofDocument_of_namedByProblem {document : Document} {p : Problem}
    (h : document.NamedByProblem p) : (ofDocument document).text = "Problem: " ++ p.name := by
  obtain ⟨⟨domain, hdomain, hname⟩, hproblem, hnamed⟩ := h
  simp [ofDocument, text, rootText, hdomain, hname, hproblem, hnamed]

/-- The root has the text that its primary definition asks for unless it is named by a problem. -/
theorem text_ofDocument_eq_heading_iff {document : Document} {primary : Structure}
    (hprimary : document.primary? = some primary) :
    (ofDocument document).text = heading primary ↔ ∀ p, ¬ document.NamedByProblem p := by
  constructor
  · intro htext p hnamed
    rw [text_ofDocument_of_namedByProblem hnamed] at htext
    obtain ⟨⟨domain, hdomain, hname⟩, -, -⟩ := hnamed
    rw [← Document.primary?_eq_domain_iff, hprimary] at hdomain
    rw [Option.some.inj hdomain, heading, if_pos hname, ← String.toList_inj,
      String.toList_append] at htext
    simp at htext
  · intro hnot
    obtain ⟨domains, problems, unknown⟩ := document
    cases domains with
    | cons domain domains =>
      obtain rfl := Option.some.inj hprimary
      by_cases hname : domain.name = ""
      · have hproblem : (problems.head?.map Problem.name).getD "" = "" := by
          cases problems with
          | nil => rfl
          | cons p problems =>
            by_contra hnamed
            exact hnot p ⟨⟨domain, rfl, hname⟩, rfl, hnamed⟩
        simp [ofDocument, text, rootText, heading, hname, hproblem]
      · simp [ofDocument, text, rootText, heading, hname]
    | nil =>
      cases problems with
      | nil => cases hprimary
      | cons p problems =>
        obtain rfl := Option.some.inj hprimary
        by_cases hname : p.name = ""
        · simp [ofDocument, text, rootText, heading, hname]
        · simp [ofDocument, text, rootText, heading, hname]

/-- The nodes of the primary definition hang on the root, and each other domain or problem has just
one labelled node there. The root has the text that the primary definition asks for unless this is a
domain without a name and the first problem has one. Then the root has the text that stands on the
node of the problem, too. -/
theorem ofDocument_root {s : String} {document : Document} {primary : Structure}
    (hread : Document.read s = .ok document) (hprimary : document.primary? = some primary) :
    ∃ others, document.structures = primary :: others ∧
      (ofDocument document).children =
        structureNodes primary ++ others.map structureNode ++ document.unknown.map unknownNode ∧
      (ofDocument document).children.filter isLabelled = others.map structureNode ∧
      ((ofDocument document).text = heading primary ↔ ∀ p, ¬ document.NamedByProblem p) ∧
      ∀ p, document.NamedByProblem p → .problem p ∈ others ∧
        (ofDocument document).text = (structureNode (.problem p)).text := by
  have hhead : document.structures.head? = some primary := by
    rw [← Document.primary?_eq_head?, hprimary]
  obtain ⟨others, hothers⟩ := List.head?_eq_some_iff.mp hhead
  refine ⟨others, hothers, children_ofDocument hothers, filter_isLabelled_children hread hothers,
    text_ofDocument_eq_heading_iff hprimary, fun p hnamed => ⟨?_, ?_⟩⟩
  · obtain ⟨⟨domain, hdomain, -⟩, hproblem, -⟩ := hnamed
    obtain ⟨domains, hdomains⟩ := List.head?_eq_some_iff.mp hdomain
    rw [Document.structures, hdomains] at hothers
    rw [← (List.cons.inj hothers).2]
    exact List.mem_append_right _ (List.mem_map_of_mem (List.mem_of_mem_head? hproblem))
  · rw [text_ofDocument_of_namedByProblem hnamed]
    simp [structureNode, problemNode, text, orText, hnamed.problem_named]

/-- A problem, two domains of one name and a definition of neither. -/
def mixedForms : List Form := [
  .list [.atom "define", .list [.atom "problem", .atom "p"]],
  .list [.atom "define", .list [.atom "domain", .atom "d"], .list [.atom "Domain:"]],
  .list [.atom "define", .list [.atom "thing"]],
  .list [.atom "define", .list [.atom "domain", .atom "d"]]]

/-- What is read from them. -/
def mixedDocument : Document where
  domains := [{ name := "d", sections := [{ label := "Domain:" }] }, { name := "d" }]
  problems := [{ name := "p" }]
  unknown := [{ text := "(define (thing))" }]

/-- The root is about the first domain, of which a section almost looks like a label. -/
theorem ofDocument_root_mixedForms :
    Document.read (" ".intercalate (mixedForms.map Form.render)) = .ok mixedDocument ∧
      ∃ primary others, mixedDocument.primary? = some primary ∧
        mixedDocument.structures = primary :: others ∧
        (ofDocument mixedDocument).text = "Domain: d" ∧
        (ofDocument mixedDocument).children.filter isLabelled = others.map structureNode ∧
        (others.map structureNode).map text = ["Domain: d", "Problem: p"] := by
  have hread :
      Document.read (" ".intercalate (mixedForms.map Form.render)) = .ok mixedDocument := by
    rw [Document.read_of_readAll (Form.readAll_of_isPlain (by decide) (by decide))]
    rfl
  obtain ⟨others, hothers, -, hlabelled, -⟩ := ofDocument_root hread rfl
  refine ⟨hread, _, others, rfl, hothers, by decide +kernel, hlabelled, ?_⟩
  obtain rfl := (List.cons.inj hothers).2
  decide +kernel

/-- A domain without a name and a problem. -/
def namelessForms : List Form := [
  .list [.atom "define", .list [.atom "domain"]],
  .list [.atom "define", .list [.atom "problem", .atom "p"]]]

/-- What is read from them. -/
def namelessDocument : Document where
  domains := [{ name := "" }]
  problems := [{ name := "p" }]

/-- The root bears the name of the problem, although the nodes on it are those of the domain. -/
theorem ofDocument_misnamed :
    " ".intercalate (namelessForms.map Form.render) = "(define (domain)) (define (problem p))" ∧
      Document.read (" ".intercalate (namelessForms.map Form.render)) = .ok namelessDocument ∧
      ∃ primary, namelessDocument.primary? = some primary ∧
        heading primary = "PDDL Diagram" ∧ (ofDocument namelessDocument).text = "Problem: p" ∧
        (ofDocument namelessDocument).children =
          structureNodes primary ++ [structureNode (.problem { name := "p" })] := by
  have hread :
      Document.read (" ".intercalate (namelessForms.map Form.render)) = .ok namelessDocument := by
    rw [Document.read_of_readAll (Form.readAll_of_isPlain (by decide) (by decide))]
    rfl
  exact ⟨by decide +kernel, hread, _, rfl, rfl, by decide +kernel, rfl⟩

end Outline

end PlanDiagram
