import PlanDiagram.Proofs.Form.Spelling

/-!
# Writing forms and reading them again

A form is plain if its atoms can stand as words of a text. Plain lists that are written one space
apart are read back as they were, and only plain lists are ever read. The first part scans a written
form for the tokens that spell it; the second shows that the scanner lets no blank, parenthesis or
semicolon into a word.
-/

namespace PlanDiagram.Token

/-- Tells whether a character can stand in a word: no blank, parenthesis or semicolon can. -/
def isPlainChar (c : Char) : Bool :=
  !Text.isBlank c && c != '(' && c != ')' && c != ';'

/-- A text that can stand as a word: it is not empty, and each of its characters can. -/
def IsPlain (text : String) : Prop :=
  text ≠ "" ∧ ∀ c ∈ text.toList, isPlainChar c = true

instance (text : String) : Decidable (IsPlain text) :=
  have h : text ≠ "" ∧ text.toList.all isPlainChar = true ↔ IsPlain text :=
    and_congr_right fun _ => List.all_eq_true
  decidable_of_decidable_of_iff h

/-- Tells whether a word ends before a text: where the text ends, at a blank and at a
parenthesis. -/
def endsWord : List Char → Bool
  | [] => true
  | c :: _ => Text.isBlank c || c == '(' || c == ')'

/-- Tells whether a character goes on with a word in a text without comments: no blank and no
parenthesis does. -/
def isWordChar (c : Char) : Bool :=
  !Text.isBlank c && c != '(' && c != ')'

/-- What can stand in a word goes on with it. -/
theorem isWordChar_of_isPlainChar {c : Char} (h : isPlainChar c = true) : isWordChar c = true := by
  simp only [isPlainChar, Bool.and_eq_true] at h
  simp [isWordChar, h.1]

/-- Characters that go on with a word are collected as part of the word that is read. -/
theorem scan_wordChars (pending front rest : List Char) (h : ∀ c ∈ front, isWordChar c = true) :
    scan pending (front ++ rest) = scan (front.reverse ++ pending) rest := by
  induction front generalizing pending with
  | nil => rfl
  | cons c front ih =>
    have hc := h c List.mem_cons_self
    simp only [isWordChar, Bool.and_eq_true, Bool.not_eq_true', bne_iff_ne, ne_eq] at hc
    rw [List.cons_append, scan, if_neg (by simp [hc]), if_neg (by simp [hc]), if_neg (by simp [hc]),
      ih (c :: pending) fun d hd => h d (List.mem_cons_of_mem c hd)]
    simp

/-- Where a word ends, it is put in front of the tokens that follow. -/
theorem scan_of_endsWord (pending rest : List Char) (h : endsWord rest = true) :
    scan pending rest = flush pending (scan [] rest) := by
  cases rest with
  | nil => rfl
  | cons c rest =>
    simp only [endsWord, Bool.or_eq_true, beq_iff_eq] at h
    rcases h with (hblank | rfl) | rfl
    · simp [scan, hblank]
    · rfl
    · rfl

/-- A run of characters at the start of a text, up to where a word ends, is its first token. -/
theorem scan_run {text : String} (rest : List Char) (hne : text ≠ "")
    (h : ∀ c ∈ text.toList, isWordChar c = true) (hrest : endsWord rest = true) :
    scan [] (text.toList ++ rest) = .word text :: scan [] rest := by
  have hnil : text.toList ≠ [] := by
    intro hnil
    exact hne (by rw [← String.ofList_toList (s := text), hnil])
  rw [scan_wordChars [] text.toList rest h, List.append_nil, scan_of_endsWord _ rest hrest]
  simp [flush, hnil]

/-- A plain word at the start of a text is its first token. -/
theorem scan_word {text : String} (rest : List Char) (h : IsPlain text)
    (hrest : endsWord rest = true) :
    scan [] (text.toList ++ rest) = .word text :: scan [] rest :=
  scan_run rest h.1 (fun c hc => isWordChar_of_isPlainChar (h.2 c hc)) hrest

/-- No semicolon is left of a text without its comments. -/
theorem semicolon_not_mem_stripFrom (inside : Bool) (cs : List Char) :
    ';' ∉ stripFrom inside cs := by
  induction cs generalizing inside with
  | nil => simp [stripFrom]
  | cons c rest ih =>
    unfold stripFrom
    split
    · split
      · rename_i hline
        have hne : c ≠ ';' := by
          rintro rfl
          simp at hline
        simp [ih, hne.symm]
      · exact ih true
    · split
      · exact ih true
      · rename_i hsemicolon
        simp only [beq_iff_eq] at hsemicolon
        simp [ih, Ne.symm hsemicolon]

/-- A text without semicolons has no comments to be removed. -/
theorem stripComments_of_not_mem {cs : List Char} (h : ';' ∉ cs) : stripComments cs = cs := by
  unfold stripComments
  induction cs with
  | nil => rfl
  | cons c rest ih =>
    simp only [List.mem_cons, not_or] at h
    simp [stripFrom, Ne.symm h.1, ih h.2]

/-- A word of plain characters is plain when it is put in front of other tokens. -/
theorem isPlain_or_mem_of_mem_flush {pending : List Char} {tokens : List Token} {text : String}
    (hpending : ∀ c ∈ pending, isPlainChar c = true) (h : .word text ∈ flush pending tokens) :
    IsPlain text ∨ .word text ∈ tokens := by
  unfold flush at h
  split at h
  · exact .inr h
  · rename_i hne
    rcases List.mem_cons.mp h with heq | hmem
    · obtain rfl := Token.word.inj heq
      refine .inl ⟨?_, fun c hc => hpending c (by simpa using hc)⟩
      intro hempty
      rw [← String.toList_inj] at hempty
      simp_all
    · exact .inr hmem

/-- The scanner makes words of plain characters only, if it starts within such a word and finds no
semicolon. -/
theorem isPlain_of_mem_scan {pending cs : List Char} {text : String}
    (hpending : ∀ c ∈ pending, isPlainChar c = true) (hcs : ';' ∉ cs)
    (h : .word text ∈ scan pending cs) : IsPlain text := by
  induction cs generalizing pending with
  | nil => exact (isPlain_or_mem_of_mem_flush hpending h).resolve_right (by simp)
  | cons c rest ih =>
    simp only [List.mem_cons, not_or] at hcs
    have hnext : .word text ∈ scan [] rest → IsPlain text := ih (by simp) hcs.2
    unfold scan at h
    split at h
    · exact (isPlain_or_mem_of_mem_flush hpending h).elim id hnext
    · rename_i hblank
      split at h
      · exact (isPlain_or_mem_of_mem_flush hpending h).elim id (by simpa using hnext)
      · rename_i hopening
        split at h
        · exact (isPlain_or_mem_of_mem_flush hpending h).elim id (by simpa using hnext)
        · rename_i hclosing
          have hc : isPlainChar c = true := by
            simp_all [isPlainChar, Ne.symm hcs.1]
          exact ih (List.forall_mem_cons.mpr ⟨hc, hpending⟩) hcs.2 h

/-- Only blanks give no token. -/
theorem scan_eq_nil_iff {pending cs : List Char} :
    scan pending cs = [] ↔ pending = [] ∧ cs.all Text.isBlank = true := by
  induction cs generalizing pending with
  | nil => simp [scan, flush]
  | cons c rest ih =>
    unfold scan
    split
    · rename_i hblank
      cases pending <;> simp [flush, hblank, ih]
    · rename_i hblank
      have hall : (c :: rest).all Text.isBlank = false := by simp [hblank]
      simp only [hall, Bool.false_eq_true, and_false, iff_false]
      split
      · cases pending <;> simp [flush]
      · split
        · cases pending <;> simp [flush]
        · simp [ih]

/-- The tokens of a text that may have comments. -/
def ofString (s : String) : List Token :=
  tokens (stripComments s.toList)

/-- Every word of a text is plain. -/
theorem isPlain_of_mem_ofString {s text : String} (h : .word text ∈ ofString s) : IsPlain text :=
  isPlain_of_mem_scan (by simp) (semicolon_not_mem_stripFrom false s.toList) h

end PlanDiagram.Token

namespace PlanDiagram.Form

open Token (endsWord scan_word)

/-- A form is plain if each of its atoms can stand as a word. -/
def IsPlain (form : Form) : Prop :=
  ∀ text ∈ form.atoms, Token.IsPlain text

instance (form : Form) : Decidable form.IsPlain :=
  inferInstanceAs (Decidable (∀ _ ∈ _, _))

/-- An atom is plain if it can stand as a word. -/
theorem isPlain_atom {text : String} : (Form.atom text).IsPlain ↔ Token.IsPlain text := by
  simp [IsPlain, atoms]

/-- A list is plain if its entries are. -/
theorem isPlain_list {entries : List Form} :
    (Form.list entries).IsPlain ↔ ∀ form ∈ entries, form.IsPlain := by
  simp only [IsPlain, atoms, atomsOfAll_eq_flatMap, List.mem_flatMap, forall_exists_index, and_imp]
  exact ⟨fun h form hform text htext => h text form hform htext,
    fun h text form hform htext => h form hform text htext⟩

/-- The characters of forms that are written one space apart. -/
def joined (forms : List Form) : List Char :=
  [' '].intercalate (forms.map fun form => form.render.toList)

/-- Forms written one space apart, as a text. -/
theorem toList_intercalate_render (forms : List Form) :
    (" ".intercalate (forms.map render)).toList = joined forms := by
  rw [String.toList_intercalate, List.map_map]
  rfl

/-- A list is written between parentheses. -/
theorem toList_render_list (entries : List Form) :
    (Form.list entries).render.toList = '(' :: (joined entries ++ [')']) := by
  rw [render_list, String.toList_append, String.toList_append, toList_intercalate_render]
  rfl

/-- A first form and a second one are written with a space between them. -/
theorem joined_cons_cons (first second : Form) (rest : List Form) :
    joined (first :: second :: rest) = first.render.toList ++ ' ' :: joined (second :: rest) := by
  simp [joined]

mutual

/-- A plain form that is written before the end of a word is scanned as the tokens that spell it. -/
theorem scan_render (form : Form) (h : form.IsPlain) (rest : List Char)
    (hrest : endsWord rest = true) :
    Token.scan [] (form.render.toList ++ rest) = form.spell ++ Token.scan [] rest := by
  cases form with
  | atom text => exact scan_word rest (h text (by simp [atoms])) hrest
  | list entries =>
    have hentries := scan_joined entries (isPlain_list.mp h) (')' :: rest) rfl
    rw [toList_render_list, List.cons_append, List.append_assoc]
    change .opening :: Token.scan [] (joined entries ++ ')' :: rest) = _
    rw [hentries]
    simp only [spell, List.cons_append, List.append_assoc, List.nil_append]
    rfl

/-- Plain forms that are written one space apart are scanned as the tokens that spell them. -/
theorem scan_joined (forms : List Form) (h : ∀ form ∈ forms, form.IsPlain) (rest : List Char)
    (hrest : endsWord rest = true) :
    Token.scan [] (joined forms ++ rest) = spellAll forms ++ Token.scan [] rest := by
  match forms with
  | [] => rfl
  | [form] =>
    have hform := scan_render form (h form List.mem_cons_self) rest hrest
    simpa [joined] using hform
  | first :: second :: others =>
    have hfirst := scan_render first (h first List.mem_cons_self)
      (' ' :: (joined (second :: others) ++ rest)) rfl
    have hothers := scan_joined (second :: others)
      (fun form hform => h form (List.mem_cons_of_mem first hform)) rest hrest
    rw [joined_cons_cons, List.append_assoc, List.cons_append, hfirst, spellAll_cons,
      List.append_assoc, ← hothers]
    rfl

end

mutual

/-- The semicolons of a written form come from its atoms. -/
theorem semicolon_not_mem_render (form : Form) (h : form.IsPlain) : ';' ∉ form.render.toList := by
  cases form with
  | atom text =>
    intro hmem
    have := (h text (by simp [atoms])).2 ';' hmem
    simp [Token.isPlainChar] at this
  | list entries =>
    have hentries := semicolon_not_mem_joined entries (isPlain_list.mp h)
    rw [toList_render_list]
    simp [hentries]

/-- The semicolons of written forms come from their atoms. -/
theorem semicolon_not_mem_joined (forms : List Form) (h : ∀ form ∈ forms, form.IsPlain) :
    ';' ∉ joined forms := by
  match forms with
  | [] => simp [joined]
  | [form] =>
    have hform := semicolon_not_mem_render form (h form List.mem_cons_self)
    simpa [joined] using hform
  | first :: second :: others =>
    have hfirst := semicolon_not_mem_render first (h first List.mem_cons_self)
    have hothers := semicolon_not_mem_joined (second :: others)
      fun form hform => h form (List.mem_cons_of_mem first hform)
    rw [joined_cons_cons]
    simp [hfirst, hothers]

end

/-- The tokens of a text are read if there are any. -/
theorem readAll_eq (s : String) :
    readAll s = if Token.ofString s = [] then .error .empty else ofTokens (Token.ofString s) := by
  simp only [readAll, Token.ofString, Token.tokens, Token.scan_eq_nil_iff, true_and]

/-- A text is read as the lists among the forms that its tokens spell. -/
theorem readAll_eq_ok_iff {s : String} {forms : List Form} :
    readAll s = .ok forms ↔
      Token.ofString s ≠ [] ∧
        ∃ all, Token.ofString s = spellAll all ∧ forms = all.filter isList := by
  rw [readAll_eq]
  split
  · simp_all
  · rename_i hne
    rw [ofTokens_eq_ok_iff]
    exact ⟨fun h => ⟨hne, h⟩, fun h => h.2⟩

/-- Plain forms that are written one space apart have the tokens that spell them. -/
theorem ofString_intercalate_render {forms : List Form} (h : ∀ form ∈ forms, form.IsPlain) :
    Token.ofString (" ".intercalate (forms.map render)) = spellAll forms := by
  rw [Token.ofString, toList_intercalate_render,
    Token.stripComments_of_not_mem (semicolon_not_mem_joined forms h)]
  have hscan := scan_joined forms h [] rfl
  simpa [Token.tokens, Token.scan] using hscan

/-- Plain lists that are written one space apart are read back. -/
theorem readAll_of_isPlain {forms : List Form} (hne : forms ≠ [])
    (h : ∀ form ∈ forms, form.isList = true ∧ form.IsPlain) :
    readAll (" ".intercalate (forms.map render)) = .ok forms := by
  rw [readAll_eq_ok_iff, ofString_intercalate_render fun form hform => (h form hform).2]
  refine ⟨?_, forms, rfl, (List.filter_eq_self.mpr fun form hform => (h form hform).1).symm⟩
  cases forms with
  | nil => exact absurd rfl hne
  | cons form rest => cases form <;> simp [spell]

/-- A plain list is the only form of its text. -/
theorem readAll_render {form : Form} (hlist : form.isList = true) (hplain : form.IsPlain) :
    readAll form.render = .ok [form] := by
  have hread := @readAll_of_isPlain [form] (by simp) (by simpa using ⟨hlist, hplain⟩)
  rwa [List.map_singleton, String.intercalate_singleton] at hread

/-- A plain list is read back from its text. -/
theorem readOne_render {form : Form} (hlist : form.isList = true) (hplain : form.IsPlain) :
    readOne form.render = .ok form := by
  rw [readOne, readAll_render hlist hplain]
  rfl

/-- The forms that the tokens of a text spell are plain. -/
theorem isPlain_of_ofString_eq {s : String} {forms : List Form}
    (h : Token.ofString s = spellAll forms) : ∀ form ∈ forms, form.IsPlain := by
  intro form hform text htext
  have hatom : text ∈ atomsOfAll forms := by
    rw [atomsOfAll_eq_flatMap]
    exact List.mem_flatMap.mpr ⟨form, hform, htext⟩
  rw [← word_mem_spellAll, ← h] at hatom
  exact Token.isPlain_of_mem_ofString hatom

/-- Only plain lists are read. -/
theorem isPlain_of_readAll {s : String} {forms : List Form} (h : readAll s = .ok forms) :
    ∀ form ∈ forms, form.isList = true ∧ form.IsPlain := by
  obtain ⟨-, all, hspell, rfl⟩ := readAll_eq_ok_iff.mp h
  intro form hform
  obtain ⟨hall, hlist⟩ := List.mem_filter.mp hform
  exact ⟨hlist, isPlain_of_ofString_eq hspell form hall⟩

/-- Reading inverts writing: plain lists that are written one space apart are read back, and since
only plain lists are ever read, what was read from any text can be written and read again. -/
theorem readAll_inverts_render :
    (∀ forms : List Form, forms ≠ [] → (∀ form ∈ forms, form.isList = true ∧ form.IsPlain) →
      readAll (" ".intercalate (forms.map render)) = .ok forms) ∧
    ∀ (s : String) (forms : List Form), readAll s = .ok forms →
      (∀ form ∈ forms, form.isList = true ∧ form.IsPlain) ∧
        (forms ≠ [] → readAll (" ".intercalate (forms.map render)) = .ok forms) := by
  refine ⟨fun forms hne h => readAll_of_isPlain hne h, fun s forms h => ?_⟩
  have hplain := isPlain_of_readAll h
  exact ⟨hplain, fun hne => readAll_of_isPlain hne hplain⟩

/-- Nested and empty lists are read back, and lists read from a text with a comment, a stray word
and an uneven layout are plain. -/
theorem readAll_inverts_render_nested :
    readAll (" ".intercalate
        ([.list [.atom "a", .list [.list []], .atom "?b"], .list []].map render)) =
      .ok [.list [.atom "a", .list [.list []], .atom "?b"], .list []] ∧
    readAll "(a;x (\n\t(b))d()" = .ok [.list [.atom "a", .list [.atom "b"]], .list []] ∧
    readAll (" ".intercalate ([.list [.atom "a", .list [.atom "b"]], .list []].map render)) =
      .ok [.list [.atom "a", .list [.atom "b"]], .list []] :=
  ⟨readAll_inverts_render.1 _ (by simp) (by decide), rfl,
    (readAll_inverts_render.2 "(a;x (\n\t(b))d()" _ rfl).2 (by simp)⟩

end PlanDiagram.Form
