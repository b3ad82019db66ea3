import PlanDiagram.Proofs.Document.Numerals
import PlanDiagram.Proofs.Form.Comment

/-!
# The outcome of reading a document

Reading a text ends in a document or in one of four errors, and which one it is can be told from the
text alone: whether it is blank, whether its parentheses are balanced, whether one of its forms is
headed by `define`, and which is the first of its definitions that cannot be read. The conditions
are checked in this order. A document holds the definitions kind by kind, each kind in the order of
the text (`Holds`). `Outcome` collects what each result means, and `read_outcome` says that every
text is read accordingly.
-/

namespace PlanDiagram.Document

/-- The forms of a text, atoms outside all lists included: the text is not blank, and its tokens
spell them. -/
def Spells (s : String) (forms : List Form) : Prop :=
  ¬ Token.IsBlankText s ∧ Token.ofString s = Form.spellAll forms

/-- A blank text is empty. -/
theorem read_of_isBlankText {s : String} (h : Token.IsBlankText s) :
    read s = .error (.form .empty) := by
  apply read_of_readAll_error
  rw [Form.readAll_eq, if_pos (Token.ofString_eq_nil_iff.mpr h)]

/-- A text whose parentheses are not balanced is refused for its parentheses. -/
theorem read_of_not_balanced {s : String} (hblank : ¬ Token.IsBlankText s)
    (h : ¬ Token.Balanced (Token.ofString s)) :
    ∃ e : Form.ReadError, e.IsUnbalanced ∧ read s = .error (.form e) := by
  have hne : Token.ofString s ≠ [] := mt Token.ofString_eq_nil_iff.mp hblank
  cases htokens : Form.ofTokens (Token.ofString s) with
  | error e =>
    refine ⟨e, (Form.ofTokens_eq_error htokens).1, read_of_readAll_error ?_⟩
    rw [Form.readAll_eq, if_neg hne, htokens]
  | ok forms =>
    obtain ⟨all, hall, -⟩ := Form.ofTokens_eq_ok_iff.mp htokens
    exact absurd (Form.exists_spellAll_iff.mp ⟨all, hall⟩) h

/-- Atoms outside all lists define nothing. -/
theorem Definition.ofForms_filter_isList (forms : List Form) :
    Definition.ofForms (forms.filter Form.isList) = Definition.ofForms forms := by
  induction forms with
  | nil => rfl
  | cons form rest ih =>
    cases form with
    | atom text => exact ih
    | list entries =>
      change Definition.ofForms ([.list entries] ++ rest.filter Form.isList) =
        Definition.ofForms ([.list entries] ++ rest)
      rw [Definition.ofForms_append, Definition.ofForms_append, ih]

/-- When the forms of a text are known, the definitions among them decide. -/
theorem read_of_spells {s : String} {forms : List Form} (h : Spells s forms) :
    read s =
      if Definition.ofForms forms = [] then .error .noDefinitions
      else ((Definition.ofForms forms).mapM Entry.ofDefinition).map ofEntries := by
  have hne : Token.ofString s ≠ [] := mt Token.ofString_eq_nil_iff.mp h.1
  have hread := Form.readAll_eq_ok_iff.mpr ⟨hne, forms, h.2, rfl⟩
  rw [read_of_readAll hread, Definition.ofForms_filter_isList]

/-- A text is blank, or its parentheses are not balanced, or it has forms. -/
theorem isBlankText_or_not_balanced_or_spells (s : String) :
    Token.IsBlankText s ∨
      ¬ Token.IsBlankText s ∧ ¬ Token.Balanced (Token.ofString s) ∨ ∃ forms, Spells s forms := by
  by_cases hblank : Token.IsBlankText s
  · exact .inl hblank
  · by_cases hbalanced : Token.Balanced (Token.ofString s)
    · obtain ⟨forms, hforms⟩ := Form.exists_spellAll_iff.mpr hbalanced
      exact .inr (.inr ⟨forms, hblank, hforms⟩)
    · exact .inr (.inl ⟨hblank, hbalanced⟩)

/-- A definition can be read: it is one of a domain or problem whose contents can be read, or one of
neither. -/
def IsReadable (d : Definition) : Prop :=
  (d.kind = .domain → ∃ domain, Domain.ofDefinition d = .ok domain) ∧
    (d.kind = .problem → ∃ problem, Problem.ofDefinition d = .ok problem)

/-- The first of some definitions that cannot be read is of the given kind and fails for the given
reason. -/
def FirstFailure (ds : List Definition) (kind : DefinitionKind) (cause : Form.Fault) : Prop :=
  ∃ front d back, ds = front ++ d :: back ∧ (∀ d' ∈ front, IsReadable d') ∧ d.kind = kind ∧
    (kind = .domain ∧ Domain.ofDefinition d = .error cause ∨
      kind = .problem ∧ Problem.ofDefinition d = .error cause)

/-- A definition gives an entry if it can be read. -/
theorem exists_ofDefinition_iff {d : Definition} :
    (∃ entry, Entry.ofDefinition d = .ok entry) ↔ IsReadable d := by
  unfold Entry.ofDefinition IsReadable
  cases hkind : d.kind with
  | domain => cases Domain.ofDefinition d <;> simp [Except.map, Except.mapError]
  | problem => cases Problem.ofDefinition d <;> simp [Except.map, Except.mapError]
  | unknown => simp

/-- No definition of a text fails for want of the value of a numeral. -/
theorem FirstFailure.ne_unreadableNumber {s : String} {forms : List Form} {kind : DefinitionKind}
    {cause : Form.Fault} (h : FirstFailure (Definition.ofForms forms) kind cause)
    (hforms : Spells s forms) (atom : String) : cause ≠ .unreadableNumber atom := by
  rintro rfl
  obtain ⟨front, d, back, hds, -, -, hcause⟩ := h
  have hmem : d ∈ Definition.ofForms forms := by simp [hds]
  obtain ⟨form, hform, hd⟩ := List.mem_filterMap.mp hmem
  have hplain : form.IsPlain := Form.isPlain_of_ofString_eq hforms.2 form hform
  have hbody : ∀ segment ∈ d.body, segment.IsPlain := fun segment =>
    Definition.isPlain_of_mem_body hplain hd
  rcases hcause with ⟨-, hcause⟩ | ⟨-, hcause⟩
  · exact Domain.knowsNumerals_ofDefinition hbody atom hcause
  · exact Problem.knowsNumerals_ofDefinition hbody atom hcause

/-- Definitions are refused for the first of them that cannot be read. -/
theorem mapM_ofDefinition_eq_error_iff {ds : List Definition} {e : Error} :
    ds.mapM Entry.ofDefinition = .error e ↔
      ∃ kind cause, e = .definition kind cause ∧ FirstFailure ds kind cause := by
  rw [mapM_eq_error_iff]
  constructor
  · rintro ⟨front, d, back, hds, hfront, hd⟩
    obtain ⟨cause, rfl, hcause⟩ := Entry.ofDefinition_eq_error_iff.mp hd
    exact ⟨d.kind, cause, rfl, front, d, back, hds,
      fun d' hd' => exists_ofDefinition_iff.mp (hfront d' hd'), rfl, hcause⟩
  · rintro ⟨kind, cause, rfl, front, d, back, hds, hfront, rfl, hcause⟩
    exact ⟨front, d, back, hds, fun d' hd' => exists_ofDefinition_iff.mpr (hfront d' hd'),
      Entry.ofDefinition_eq_error_iff.mpr ⟨cause, rfl, hcause⟩⟩

/-- A text with forms is refused for want of definitions, or for the first definition that cannot
be read, or not at all. -/
theorem read_eq_error_iff_of_spells {s : String} {forms : List Form} {e : Error}
    (h : Spells s forms) :
    read s = .error e ↔
      (Definition.ofForms forms = [] ∧ e = .noDefinitions) ∨
        ∃ kind cause, e = .definition kind cause ∧
          FirstFailure (Definition.ofForms forms) kind cause := by
  rw [read_of_spells h]
  by_cases hnil : Definition.ofForms forms = []
  · rw [if_pos hnil, hnil]
    simp [FirstFailure, eq_comm]
  · rw [if_neg hnil, map_eq_error_iff, mapM_ofDefinition_eq_error_iff]
    simp [hnil]

/-- A document holds what definitions define and nothing else: domains, problems and other
definitions, each in the order in which they are defined. -/
structure Holds (ds : List Definition) (document : Document) : Prop where
  /-- The domains are what the definitions of domains are read as. -/
  domains :
    List.Forall₂ (fun d domain => Domain.ofDefinition d = .ok domain)
      (ds.filter fun d => d.kind = .domain) document.domains
  /-- The problems are what the definitions of problems are read as. -/
  problems :
    List.Forall₂ (fun d problem => Problem.ofDefinition d = .ok problem)
      (ds.filter fun d => d.kind = .problem) document.problems
  /-- The other definitions are kept with their texts and names. -/
  unknown :
    List.Forall₂ (fun d definition => definition = ⟨d.form.render, d.name⟩)
      (ds.filter fun d => d.kind = .unknown) document.unknown

/-- A document that holds definitions has one entry for each. -/
theorem Holds.length {ds : List Definition} {document : Document} (h : Holds ds document) :
    document.domains.length + document.problems.length + document.unknown.length = ds.length := by
  rw [← h.domains.length_eq, ← h.problems.length_eq, ← h.unknown.length_eq]
  clear h
  induction ds with
  | nil => rfl
  | cons d rest ih => cases hkind : d.kind <;> simp [hkind] <;> omega

/-- Definitions are held by one document at most. -/
theorem Holds.unique {ds : List Definition} {first second : Document} (h : Holds ds first)
    (h' : Holds ds second) : first = second := by
  have hread {ε β : Type} (f : Definition → Except ε β) :
      Relator.RightUnique fun d b => f d = .ok b :=
    fun _ _ _ hb hc => Except.ok.inj (hb.symm.trans hc)
  have hkept : Relator.RightUnique fun (d : Definition) (definition : UnknownDefinition) =>
      definition = ⟨d.form.render, d.name⟩ :=
    fun _ _ _ hb hc => hb.trans hc.symm
  cases first
  cases second
  congr
  · exact (hread _).forall₂ h.domains h'.domains
  · exact (hread _).forall₂ h.problems h'.problems
  · exact hkept.forall₂ h.unknown h'.unknown

/-- Definitions that are held by a document can be read. -/
theorem Holds.isReadable {ds : List Definition} {document : Document} (h : Holds ds document)
    {d : Definition} (hd : d ∈ ds) : IsReadable d := by
  have hmem {kind : DefinitionKind} (hkind : d.kind = kind) :
      d ∈ ds.filter fun d => d.kind = kind := List.mem_filter.mpr ⟨hd, by simpa using hkind⟩
  refine ⟨fun hkind => ?_, fun hkind => ?_⟩
  · obtain ⟨domain, -, hdomain⟩ := exists_of_mem_right h.domains.flip (hmem hkind)
    exact ⟨domain, hdomain⟩
  · obtain ⟨problem, -, hproblem⟩ := exists_of_mem_right h.problems.flip (hmem hkind)
    exact ⟨problem, hproblem⟩

/-- An entry is of the kind of its definition. -/
theorem Entry.cases_of_ofDefinition {d : Definition} {entry : Entry}
    (h : Entry.ofDefinition d = .ok entry) :
    (∃ domain, d.kind = .domain ∧ Domain.ofDefinition d = .ok domain ∧ entry = .domain domain) ∨
      (∃ problem, d.kind = .problem ∧ Problem.ofDefinition d = .ok problem ∧
        entry = .problem problem) ∨
      d.kind = .unknown ∧ entry = .unknown ⟨d.form.render, d.name⟩ := by
  unfold Entry.ofDefinition at h
  cases hkind : d.kind with
  | domain =>
    simp only [hkind, mapError_eq_ok_iff, map_eq_ok_iff] at h
    obtain ⟨domain, hdomain, rfl⟩ := h
    exact .inl ⟨domain, rfl, hdomain, rfl⟩
  | problem =>
    simp only [hkind, mapError_eq_ok_iff, map_eq_ok_iff] at h
    obtain ⟨problem, hproblem, rfl⟩ := h
    exact .inr (.inl ⟨problem, rfl, hproblem, rfl⟩)
  | unknown =>
    simp only [hkind, Except.ok.injEq] at h
    exact .inr (.inr ⟨rfl, h.symm⟩)

/-- Entries that are selected by what they are come, in order, from the definitions that are
selected by their kind. -/
theorem forall₂_filterMap {β : Type} {p : Definition → Bool} {view : Entry → Option β}
    {R : Definition → β → Prop} {ds : List Definition} {entries : List Entry}
    (hpos : ∀ d entry, Entry.ofDefinition d = .ok entry → p d = true →
      ∃ b, view entry = some b ∧ R d b)
    (hneg : ∀ d entry, Entry.ofDefinition d = .ok entry → p d = false → view entry = none)
    (h : List.Forall₂ (fun d entry => Entry.ofDefinition d = .ok entry) ds entries) :
    List.Forall₂ R (ds.filter p) (entries.filterMap view) := by
  induction h with
  | nil => exact .nil
  | @cons d entry rest entries hd _ ih =>
    cases hp : p d with
    | true =>
      obtain ⟨b, hview, hR⟩ := hpos d entry hd hp
      rw [List.filter_cons_of_pos hp, List.filterMap_cons_some hview]
      exact .cons hR ih
    | false =>
      rw [List.filter_cons_of_neg (by simp [hp]), List.filterMap_cons_none (hneg d entry hd hp)]
      exact ih

/-- The document into which entries are sorted holds their definitions. -/
theorem holds_ofEntries {ds : List Definition} {entries : List Entry}
    (h : List.Forall₂ (fun d entry => Entry.ofDefinition d = .ok entry) ds entries) :
    Holds ds (ofEntries entries) := by
  constructor
  -- For each kind, an entry passes its view if its definition passes the test of the kind.
  all_goals
    refine forall₂_filterMap (fun d entry hd hkind => ?_) (fun d entry hd hkind => ?_) h
    all_goals
      obtain ⟨domain, hd, hread, rfl⟩ | ⟨problem, hd, hread, rfl⟩ | ⟨hd, rfl⟩ :=
        Entry.cases_of_ofDefinition hd <;> simp_all

/-- Definitions are sorted into the one document that holds them. -/
theorem exists_entries_iff {ds : List Definition} {document : Document} :
    (∃ entries, List.Forall₂ (fun d entry => Entry.ofDefinition d = .ok entry) ds entries ∧
      document = ofEntries entries) ↔ Holds ds document := by
  constructor
  · rintro ⟨entries, hentries, rfl⟩
    exact holds_ofEntries hentries
  · intro h
    cases hentries : ds.mapM Entry.ofDefinition with
    | ok entries =>
      have hread := mapM_eq_ok_iff.mp hentries
      exact ⟨entries, hread, h.unique (holds_ofEntries hread)⟩
    | error e =>
      obtain ⟨front, d, back, rfl, -, hd⟩ := mapM_eq_error_iff.mp hentries
      obtain ⟨entry, hentry⟩ := exists_ofDefinition_iff.mpr (h.isReadable (d := d) (by simp))
      rw [hentry] at hd
      cases hd

/-- A text with forms is read if there is a definition among them and all definitions are read. -/
theorem read_eq_ok_iff_of_spells {s : String} {forms : List Form} {document : Document}
    (h : Spells s forms) :
    read s = .ok document ↔
      Definition.ofForms forms ≠ [] ∧ Holds (Definition.ofForms forms) document := by
  rw [read_of_spells h, ← exists_entries_iff]
  by_cases hnil : Definition.ofForms forms = []
  · simp [hnil]
  · rw [if_neg hnil, map_eq_ok_iff, and_iff_right hnil]
    exact exists_congr fun entries => and_congr mapM_eq_ok_iff eq_comm

/-- A text with forms is not refused for its parentheses or for being empty. -/
theorem read_ne_form_of_spells {s : String} {forms : List Form} (h : Spells s forms)
    (cause : Form.ReadError) : read s ≠ .error (.form cause) := by
  rw [Ne, read_eq_error_iff_of_spells h]
  simp

/-- A text that is not refused for its parentheses or for being empty has forms. -/
theorem exists_spells {s : String} (h : ∀ cause, read s ≠ .error (.form cause)) :
    ∃ forms, Spells s forms := by
  rcases isBlankText_or_not_balanced_or_spells s with
    hblank | ⟨hblank, hbalanced⟩ | hforms
  · exact absurd (read_of_isBlankText hblank) (h _)
  · obtain ⟨cause, -, hread⟩ := read_of_not_balanced hblank hbalanced
    exact absurd hread (h cause)
  · exact hforms

/-- A text is refused for being empty if it is blank. -/
theorem read_eq_empty_iff {s : String} :
    read s = .error (.form .empty) ↔ Token.IsBlankText s := by
  refine ⟨fun h => ?_, read_of_isBlankText⟩
  rcases isBlankText_or_not_balanced_or_spells s with
    hblank | ⟨hblank, hbalanced⟩ | ⟨forms, hforms⟩
  · exact hblank
  · obtain ⟨cause, hcause, hread⟩ := read_of_not_balanced hblank hbalanced
    rw [hread] at h
    cases h
    cases hcause
  · exact absurd h (read_ne_form_of_spells hforms _)

/-- A text is refused for its parentheses if it is not blank and they are not balanced. -/
theorem exists_read_eq_unbalanced_iff {s : String} :
    (∃ cause : Form.ReadError, cause.IsUnbalanced ∧ read s = .error (.form cause)) ↔
      ¬ Token.IsBlankText s ∧ ¬ Token.Balanced (Token.ofString s) := by
  refine ⟨?_, fun h => read_of_not_balanced h.1 h.2⟩
  rintro ⟨cause, hcause, h⟩
  rcases isBlankText_or_not_balanced_or_spells s with hblank | hunbalanced | ⟨forms, hforms⟩
  · rw [read_of_isBlankText hblank] at h
    cases h
    cases hcause
  · exact hunbalanced
  · exact absurd h (read_ne_form_of_spells hforms _)

/-- A text is refused for want of definitions if none of its forms is one. -/
theorem read_eq_noDefinitions_iff {s : String} :
    read s = .error .noDefinitions ↔
      ∃ forms, Spells s forms ∧ ∀ form ∈ forms, ¬ form.IsDefinition := by
  constructor
  · intro h
    obtain ⟨forms, hforms⟩ := exists_spells (s := s) (by simp [h])
    rcases (read_eq_error_iff_of_spells hforms).mp h with ⟨hnil, -⟩ | ⟨_, _, heq, -⟩
    · exact ⟨forms, hforms, Definition.ofForms_eq_nil_iff.mp hnil⟩
    · cases heq
  · rintro ⟨forms, hforms, hnone⟩
    have hnil := Definition.ofForms_eq_nil_iff.mpr hnone
    exact (read_eq_error_iff_of_spells hforms).mpr (.inl ⟨hnil, rfl⟩)

/-- A text is refused for a definition if it is the first that cannot be read. -/
theorem read_eq_definition_iff {s : String} {kind : DefinitionKind} {cause : Form.Fault} :
    read s = .error (.definition kind cause) ↔
      ∃ forms, Spells s forms ∧ FirstFailure (Definition.ofForms forms) kind cause := by
  constructor
  · intro h
    obtain ⟨forms, hforms⟩ := exists_spells (s := s) (by simp [h])
    rcases (read_eq_error_iff_of_spells hforms).mp h with ⟨-, heq⟩ | ⟨_, _, heq, hfailure⟩
    · cases heq
    · cases heq
      exact ⟨forms, hforms, hfailure⟩
  · rintro ⟨forms, hforms, hfailure⟩
    exact (read_eq_error_iff_of_spells hforms).mpr (.inr ⟨kind, cause, rfl, hfailure⟩)

/-- A text is read if one of its forms is a definition and all definitions are read. -/
theorem read_eq_document_iff {s : String} {document : Document} :
    read s = .ok document ↔
      ∃ forms, Spells s forms ∧ (∃ form ∈ forms, form.IsDefinition) ∧
        (Definition.ofForms forms).map Definition.form =
          (forms.filter fun form => decide form.IsDefinition) ∧
        Holds (Definition.ofForms forms) document := by
  constructor
  · intro h
    obtain ⟨forms, hforms⟩ := exists_spells (s := s) (by simp [h])
    obtain ⟨hne, hholds⟩ := (read_eq_ok_iff_of_spells hforms).mp h
    refine ⟨forms, hforms, ?_, Definition.map_form_ofForms forms, hholds⟩
    rw [Ne, Definition.ofForms_eq_nil_iff] at hne
    simpa using hne
  · rintro ⟨forms, hforms, ⟨form, hform, hdefinition⟩, -, hholds⟩
    refine (read_eq_ok_iff_of_spells hforms).mpr ⟨fun hnil => ?_, hholds⟩
    exact Definition.ofForms_eq_nil_iff.mp hnil form hform hdefinition

/-- A document has one entry for each form headed by `define`. -/
theorem length_of_read {s : String} {document : Document} {forms : List Form}
    (h : read s = .ok document) (hforms : Spells s forms) :
    document.domains.length + document.problems.length + document.unknown.length =
      (forms.filter fun form => decide form.IsDefinition).length := by
  rw [← Definition.map_form_ofForms, List.length_map]
  exact ((read_eq_ok_iff_of_spells hforms).mp h).2.length

/-- A definition of neither a domain nor a problem is read as it is. -/
theorem Entry.exists_ofDefinition_of_unknown {d : Definition} (h : d.kind = .unknown) :
    ∃ definition, Entry.ofDefinition d = .ok (.unknown definition) := by
  unfold Entry.ofDefinition
  rw [h]
  exact ⟨_, rfl⟩

/-- A text that is refused is refused with one of four errors. -/
theorem cases_of_read_eq_error {s : String} {e : Error} (h : read s = .error e) :
    e = .form .empty ∨ (∃ cause : Form.ReadError, cause.IsUnbalanced ∧ e = .form cause) ∨
      e = .noDefinitions ∨
        ∃ kind cause, e = .definition kind cause ∧ (kind = .domain ∨ kind = .problem) ∧
          ∀ atom, cause ≠ .unreadableNumber atom := by
  rcases isBlankText_or_not_balanced_or_spells s with
    hblank | ⟨hblank, hbalanced⟩ | ⟨forms, hforms⟩
  · rw [read_of_isBlankText hblank] at h
    exact .inl (Except.error.inj h).symm
  · obtain ⟨cause, hcause, hread⟩ := read_of_not_balanced hblank hbalanced
    rw [hread] at h
    exact .inr (.inl ⟨cause, hcause, (Except.error.inj h).symm⟩)
  · rcases (read_eq_error_iff_of_spells hforms).mp h with
      ⟨-, rfl⟩ | ⟨kind, cause, rfl, hfailure⟩
    · exact .inr (.inr (.inl rfl))
    · refine .inr (.inr (.inr ⟨kind, cause, rfl, ?_, hfailure.ne_unreadableNumber hforms⟩))
      obtain ⟨-, -, -, -, -, -, ⟨hkind, -⟩ | ⟨hkind, -⟩⟩ := hfailure
      · exact .inl hkind
      · exact .inr hkind

/-- What each result of reading a text means, with the conditions in the order in which they are
checked. -/
structure Outcome (s : String) : Prop where
  /-- Balanced parentheses are those of forms. -/
  balanced_iff :
    Token.Balanced (Token.ofString s) ↔ ∃ forms, Token.ofString s = Form.spellAll forms
  /-- A text that is not blank has tokens. -/
  tokens_ne_nil : ¬ Token.IsBlankText s → Token.ofString s ≠ []
  /-- A text is empty if all characters outside its comments are blanks. -/
  empty_iff : read s = .error (.form .empty) ↔ Token.IsBlankText s
  /-- Otherwise the parentheses are at fault if they are not balanced. -/
  unbalanced_iff :
    (∃ cause : Form.ReadError, cause.IsUnbalanced ∧ read s = .error (.form cause)) ↔
      ¬ Token.IsBlankText s ∧ ¬ Token.Balanced (Token.ofString s)
  /-- Otherwise there are no definitions if no form is headed by `define`. -/
  noDefinitions_iff :
    read s = .error .noDefinitions ↔
      ∃ forms, Spells s forms ∧ ∀ form ∈ forms, ¬ form.IsDefinition
  /-- Otherwise a definition is at fault if it is the first that cannot be read. -/
  definition_iff (kind : DefinitionKind) (cause : Form.Fault) :
    read s = .error (.definition kind cause) ↔
      ∃ forms, Spells s forms ∧ FirstFailure (Definition.ofForms forms) kind cause
  /-- Otherwise there is a document, which holds the forms headed by `define`, kind by kind in the
  order of the text. -/
  ok_iff (document : Document) :
    read s = .ok document ↔
      ∃ forms, Spells s forms ∧ (∃ form ∈ forms, form.IsDefinition) ∧
        (Definition.ofForms forms).map Definition.form =
          (forms.filter fun form => decide form.IsDefinition) ∧
        Holds (Definition.ofForms forms) document
  /-- It has one entry for each of these forms. -/
  length (document : Document) (forms : List Form) :
    read s = .ok document → Spells s forms →
      document.domains.length + document.problems.length + document.unknown.length =
        (forms.filter fun form => decide form.IsDefinition).length
  /-- The first header of a definition names its kind. -/
  kind_cases (forms : List Form) (d : Definition) :
    d ∈ Definition.ofForms forms →
      (d.kind = .unknown ∧ ∀ segment ∈ d.segments, ¬ segment.IsHeader) ∨
        ∃ front header back, d.segments = front ++ header :: back ∧
          (∀ segment ∈ front, ¬ segment.IsHeader) ∧ Section.keyword? header = some d.kind.name ∧
            d.kind ≠ .unknown
  /-- Definitions of neither a domain nor a problem are never at fault. -/
  unknown_ok (d : Definition) :
    d.kind = .unknown → ∃ definition, Entry.ofDefinition d = .ok (.unknown definition)
  /-- There are no other errors, and no definition fails for want of the value of a numeral. -/
  error_cases (e : Error) :
    read s = .error e →
      e = .form .empty ∨ (∃ cause : Form.ReadError, cause.IsUnbalanced ∧ e = .form cause) ∨
        e = .noDefinitions ∨
          ∃ kind cause, e = .definition kind cause ∧ (kind = .domain ∨ kind = .problem) ∧
            ∀ atom, cause ≠ .unreadableNumber atom

/-- Every text is read to a document or to one of four errors, as its characters, its parentheses
and its definitions decide. -/
theorem read_outcome (s : String) : Outcome s where
  balanced_iff := Form.exists_spellAll_iff.symm
  tokens_ne_nil := mt Token.ofString_eq_nil_iff.mp
  empty_iff := read_eq_empty_iff
  unbalanced_iff := exists_read_eq_unbalanced_iff
  noDefinitions_iff := read_eq_noDefinitions_iff
  definition_iff _ _ := read_eq_definition_iff
  ok_iff _ := read_eq_document_iff
  length _ _ := length_of_read
  kind_cases _ _ h := (List.mem_filterMap.mp h).elim fun _ h => Definition.kind_of_ofForm? h.2
  unknown_ok _ := Entry.exists_ofDefinition_of_unknown
  error_cases _ := cases_of_read_eq_error

/-- Two problems, two domains and a definition of neither, with an atom and another list among
them. -/
def mingledForms : List Form := [
  .list [.atom "define", .list [.atom "problem", .atom "p"]],
  .atom "stray",
  .list [.atom "define", .list [.atom "graph", .atom "g"]],
  .list [.atom "DEFINE", .list [.atom ":requirements", .atom ":typing"],
    .list [.atom "Domain", .atom "a"]],
  .list [.atom "domain", .atom "c"],
  .list [.atom "define", .list [.atom "domain", .atom "b"]],
  .list [.atom "define", .list [.atom "problem", .atom "q"]]]

/-- The document of these forms has the domains, the problems and the definition of neither in the
order of the text. -/
theorem read_outcome_mingledForms :
    read "(define (problem p)) stray (define (graph g)) ; (define (domain x))
        (DEFINE (:requirements :typing) (Domain a)) (domain c)
        (define (domain b)) (define (problem q))" =
      .ok {
        domains := [{ name := "a", requirements := [":typing"] }, { name := "b" }]
        problems := [{ name := "p" }, { name := "q" }]
        unknown := [{ text := "(define (graph g))" }] } := by
  refine ((read_outcome _).ok_iff _).mpr
    ⟨mingledForms, ⟨?_, ?_⟩, ?_, Definition.map_form_ofForms mingledForms, ?_⟩
  · exact mt Token.ofString_eq_nil_iff.mpr (by decide +kernel)
  · decide +kernel
  · decide
  · exact ⟨.cons rfl (.cons rfl .nil), .cons rfl (.cons rfl .nil), .cons rfl .nil⟩

end PlanDiagram.Document
