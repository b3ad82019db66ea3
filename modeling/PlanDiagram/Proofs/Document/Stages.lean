import PlanDiagram.Document
import PlanDiagram.Proofs.Failure
import PlanDiagram.Proofs.Form.Balance

/-!
# The stages of reading a document

A text is cut into lists, the lists are searched for definitions, and the definitions are read one
after the other. These lemmas say what each stage hands to the next, so that statements about whole
documents can be made without opening the reader.
-/

namespace PlanDiagram

/-- A form is a definition if it is a list headed by `define`, in any letter case. -/
def Form.IsDefinition : Form → Prop
  | .list (.atom head :: _) => Text.lower head = "define"
  | _ => False

instance : DecidablePred Form.IsDefinition
  | .list (.atom head :: _) => inferInstanceAs (Decidable (Text.lower head = "define"))
  | .list [] | .list (.list _ :: _) | .atom _ => inferInstanceAs (Decidable False)

/-- A header is headed by one of two words. -/
theorem Definition.isSome_header?_iff {segment : Form} :
    (header? segment).isSome = true ↔
      Section.keyword? segment = some "domain" ∨ Section.keyword? segment = some "problem" := by
  match segment with
  | .atom _ | .list [] | .list (.list _ :: _) => simp [header?, Section.keyword?]
  | .list (.atom head :: rest) =>
    have hkind : (header? (.list (.atom head :: rest))).isSome =
        (DefinitionKind.ofHeader? head).isSome := by
      rw [header?]
      cases DefinitionKind.ofHeader? head with
      | none => rfl
      | some kind => rcases rest with _ | ⟨_ | _, _⟩ <;> rfl
    rw [hkind, DefinitionKind.ofHeader?, Section.keyword?, Option.some.injEq, Option.some.injEq]
    by_cases hdomain : Text.lower head = "domain"
    · simp [hdomain]
    · by_cases hproblem : Text.lower head = "problem" <;> simp [hdomain, hproblem]

/-- The first header stands behind segments that are none. -/
theorem Definition.findHeader?_eq_some {index place : Nat} {segments : List Form}
    {kind : DefinitionKind} {name : Option String}
    (h : findHeader? index segments = some (place, kind, name)) :
    ∃ front header back, segments = front ++ header :: back ∧ place = index + front.length ∧
      header? header = some (kind, name) ∧ ∀ segment ∈ front, header? segment = none := by
  induction segments generalizing index with
  | nil => cases h
  | cons segment rest ih =>
    unfold findHeader? at h
    split at h
    · rename_i hsegment
      cases h
      exact ⟨[], segment, rest, rfl, rfl, hsegment, by simp⟩
    · rename_i hsegment
      obtain ⟨front, header, back, rfl, rfl, hheader, hfront⟩ := ih h
      refine ⟨segment :: front, header, back, rfl, ?_, hheader, ?_⟩
      · simp only [List.length_cons]
        omega
      · exact List.forall_mem_cons.mpr ⟨hsegment, hfront⟩

/-- Where no header is found there is none. -/
theorem Definition.findHeader?_eq_none {index : Nat} {segments : List Form}
    (h : findHeader? index segments = none) : ∀ segment ∈ segments, header? segment = none := by
  induction segments generalizing index with
  | nil => simp
  | cons segment rest ih =>
    unfold findHeader? at h
    split at h
    · cases h
    · rename_i hsegment
      exact List.forall_mem_cons.mpr ⟨hsegment, ih h⟩

/-- A definition keeps the form that it is, and has its segments after the head. -/
theorem Definition.form_eq_of_ofForm? {form : Form} {d : Definition} (h : ofForm? form = some d) :
    d.form = form ∧ ∃ head, form = .list (.atom head :: d.segments) := by
  unfold ofForm? at h
  split at h
  · dsimp only at h
    split at h
    · split at h <;> cases h <;> exact ⟨rfl, _, rfl⟩
    · cases h
  · cases h

/-- A segment is a header if it is a list headed by `domain` or `problem`, in any letter case. -/
def Form.IsHeader (segment : Form) : Prop :=
  Section.keyword? segment = some "domain" ∨ Section.keyword? segment = some "problem"

/-- A header gives the kind by whose name it is headed, which is that of a domain or problem. -/
theorem Definition.keyword?_of_header? {segment : Form} {kind : DefinitionKind}
    {name : Option String} (h : header? segment = some (kind, name)) :
    Section.keyword? segment = some kind.name ∧ kind ≠ .unknown := by
  match segment with
  | .atom _ | .list [] | .list (.list _ :: _) => simp [header?] at h
  | .list (.atom head :: rest) =>
    have hkind : DefinitionKind.ofHeader? head = some kind := by
      rw [header?] at h
      cases hhead : DefinitionKind.ofHeader? head with
      | none => simp [hhead] at h
      | some found => rcases rest with _ | ⟨_ | _, _⟩ <;> simp_all
    unfold DefinitionKind.ofHeader? at hkind
    rw [Section.keyword?]
    dsimp only at hkind
    split at hkind
    · rename_i hdomain
      cases hkind
      exact ⟨congrArg some (beq_iff_eq.mp hdomain), by simp⟩
    · split at hkind
      · rename_i hproblem
        cases hkind
        exact ⟨congrArg some (beq_iff_eq.mp hproblem), by simp⟩
      · cases hkind

/-- The first header of a definition names its kind; without a header the definition is of neither
a domain nor a problem. -/
theorem Definition.kind_of_ofForm? {form : Form} {d : Definition} (h : ofForm? form = some d) :
    (d.kind = .unknown ∧ ∀ segment ∈ d.segments, ¬ segment.IsHeader) ∨
      ∃ front header back, d.segments = front ++ header :: back ∧
        (∀ segment ∈ front, ¬ segment.IsHeader) ∧ Section.keyword? header = some d.kind.name ∧
          d.kind ≠ .unknown := by
  have hnone {segment : Form} (hsegment : header? segment = none) : ¬ segment.IsHeader := by
    unfold Form.IsHeader
    rw [← isSome_header?_iff, hsegment]
    simp
  unfold ofForm? at h
  split at h
  · dsimp only at h
    split at h
    · split at h
      · rename_i hfind
        cases h
        obtain ⟨front, header, back, hsegments, -, hheader, hfront⟩ := findHeader?_eq_some hfind
        exact .inr ⟨front, header, back, hsegments, fun segment hsegment =>
          hnone (hfront segment hsegment), keyword?_of_header? hheader⟩
      · rename_i hfind
        cases h
        exact .inl ⟨rfl, fun segment hsegment =>
          hnone (findHeader?_eq_none hfind segment hsegment)⟩
    · cases h
  · cases h

/-- The forms headed by `define` are those from which a definition is made. -/
theorem Definition.isSome_ofForm?_iff {form : Form} :
    (ofForm? form).isSome = true ↔ form.IsDefinition := by
  match form with
  | .atom _ | .list [] | .list (.list _ :: _) => exact ⟨fun h => (by cases h), False.elim⟩
  | .list (.atom head :: segments) =>
    change _ ↔ Text.lower head = "define"
    unfold ofForm?
    dsimp only
    split
    · rename_i hdefine
      split <;> simp [beq_iff_eq.mp hdefine]
    · rename_i hdefine
      simpa using hdefine

/-- There is one definition for each form headed by `define`, in the order of the forms. -/
theorem Definition.map_form_ofForms (forms : List Form) :
    (ofForms forms).map Definition.form = forms.filter fun form => decide form.IsDefinition := by
  induction forms with
  | nil => rfl
  | cons form rest ih =>
    rw [ofForms, List.filterMap_cons]
    cases h : ofForm? form with
    | none =>
      have hform : ¬ form.IsDefinition := by
        rw [← isSome_ofForm?_iff, h]
        simp
      rw [List.filter_cons_of_neg (by simpa using hform)]
      exact ih
    | some d =>
      have hform : form.IsDefinition := by
        rw [← isSome_ofForm?_iff, h]
        rfl
      rw [List.filter_cons_of_pos (by simpa using hform), ← ih, List.map_cons,
        (form_eq_of_ofForm? h).1]
      rfl

/-- No definitions are found exactly if no form is headed by `define`. -/
theorem Definition.ofForms_eq_nil_iff {forms : List Form} :
    ofForms forms = [] ↔ ∀ form ∈ forms, ¬ form.IsDefinition := by
  rw [← List.map_eq_nil_iff, map_form_ofForms, List.filter_eq_nil_iff]
  simp

/-- The definitions of two sequences of forms are those of the one followed by those of the
other. -/
theorem Definition.ofForms_append (front back : List Form) :
    Definition.ofForms (front ++ back) = Definition.ofForms front ++ Definition.ofForms back :=
  List.filterMap_append

namespace Document

/-- A definition cannot be read if it is one of a domain or problem whose contents cannot. -/
theorem Entry.ofDefinition_eq_error_iff {d : Definition} {e : Error} :
    Entry.ofDefinition d = .error e ↔
      ∃ cause, e = .definition d.kind cause ∧
        (d.kind = .domain ∧ Domain.ofDefinition d = .error cause ∨
          d.kind = .problem ∧ Problem.ofDefinition d = .error cause) := by
  unfold Entry.ofDefinition
  cases hkind : d.kind with
  | domain => cases Domain.ofDefinition d <;> simp [Except.map, Except.mapError, eq_comm]
  | problem => cases Problem.ofDefinition d <;> simp [Except.map, Except.mapError, eq_comm]
  | unknown => simp

/-- A domain is what a definition of a domain is read as. -/
theorem Entry.ofDefinition_eq_domain_iff {d : Definition} {domain : Domain} :
    Entry.ofDefinition d = .ok (.domain domain) ↔
      d.kind = .domain ∧ Domain.ofDefinition d = .ok domain := by
  unfold Entry.ofDefinition
  cases hkind : d.kind with
  | domain => cases Domain.ofDefinition d <;> simp [Except.map, Except.mapError]
  | problem => cases Problem.ofDefinition d <;> simp [Except.map, Except.mapError]
  | unknown => simp

/-- Reading a document is reading its definitions and sorting what they define. -/
theorem read_eq (s : String) :
    read s = (definitions s).bind fun ds => (ds.mapM Entry.ofDefinition).map ofEntries := by
  unfold read
  cases definitions s with
  | error e => rfl
  | ok ds =>
    change ((ds.mapM Entry.ofDefinition).bind fun entries => .ok (ofEntries entries)) =
      (ds.mapM Entry.ofDefinition).map ofEntries
    cases ds.mapM Entry.ofDefinition <;> rfl

/-- An error in the forms of a text is an error of the document. -/
theorem read_of_readAll_error {s : String} {e : Form.ReadError} (h : Form.readAll s = .error e) :
    read s = .error (.form e) := by
  unfold read definitions
  rw [h]
  rfl

/-- The definitions of a text are the definitions among its lists, if there are any. -/
theorem definitions_of_readAll {s : String} {forms : List Form} (h : Form.readAll s = .ok forms) :
    definitions s =
      if Definition.ofForms forms = [] then .error .noDefinitions
      else .ok (Definition.ofForms forms) := by
  unfold definitions
  rw [h]
  cases hds : Definition.ofForms forms with
  | nil =>
    rw [if_pos rfl]
    simp only [Except.mapError, bind, Except.bind, hds]
    rfl
  | cons d rest =>
    rw [if_neg (List.cons_ne_nil d rest)]
    simp only [Except.mapError, bind, Except.bind, hds]
    rfl

/-- When the lists of a text have been read, the definitions among them decide. -/
theorem read_of_readAll {s : String} {forms : List Form} (h : Form.readAll s = .ok forms) :
    read s =
      if Definition.ofForms forms = [] then .error .noDefinitions
      else ((Definition.ofForms forms).mapM Entry.ofDefinition).map ofEntries := by
  rw [read_eq, definitions_of_readAll h]
  split <;> rfl

/-- A document has been read through all stages: the text has lists, some of them are definitions,
and all definitions have been read. -/
theorem read_eq_ok_iff {s : String} {d : Document} :
    read s = .ok d ↔
      ∃ forms entries, Form.readAll s = .ok forms ∧ Definition.ofForms forms ≠ [] ∧
        (Definition.ofForms forms).mapM Entry.ofDefinition = .ok entries ∧
          d = ofEntries entries := by
  constructor
  · intro h
    cases hforms : Form.readAll s with
    | error e =>
      rw [read_of_readAll_error hforms] at h
      cases h
    | ok forms =>
      rw [read_of_readAll hforms] at h
      split at h
      · cases h
      · rename_i hne
        cases hentries : (Definition.ofForms forms).mapM Entry.ofDefinition with
        | error e =>
          rw [hentries] at h
          cases h
        | ok entries =>
          rw [hentries] at h
          exact ⟨forms, entries, rfl, hne, hentries, (Except.ok.inj h).symm⟩
  · rintro ⟨forms, entries, hforms, hne, hentries, rfl⟩
    rw [read_of_readAll hforms, if_neg hne, hentries]
    rfl

end Document

end PlanDiagram
