import PlanDiagram.Proofs.Formula.Legible
import PlanDiagram.Proofs.Number.Written
import PlanDiagram.Proofs.Parameter.TypedList

/-!
# Rendered formulas are read back

The text of a formula is the text of a form. It need not be the form that the formula was read from:
keywords come back in lower case, marks of variables are put on every use of a known name, and the
types of variables are repeated. What is preserved is which entries are lists and which words can
say a time, and that is enough for the head of each list to be understood as before. Main statement:
the text of a formula that was read from a legible form is read as the same formula.
-/

namespace PlanDiagram.Formula

/-- A form that takes the place of another one: a list for a list, and no other word for a word that
says a time. -/
structure Replaces (m form : Form) : Prop where
  isList : m.isList = form.isList
  word : ∀ text, m = .atom text → Text.lower text ∈ Keyword.timeWords → form = .atom text

/-- The form that the text of a formula is read as, and what the formula was read from. -/
structure Rereads (read : Form → Except Form.Fault Formula) (names : List String) (form : Form)
    (e : Formula) (m : Form) : Prop where
  isPlain : m.IsPlain
  text : m.render = e.render names
  replaces : Replaces m form
  reads : ∃ e', read m = .ok e' ∧ e'.Same e

/-- The forms that the texts of several formulas are read as. -/
structure RereadsAll (read : Form → Except Form.Fault Formula) (names : List String)
    (forms : List Form) (es : List Formula) (ms : List Form) : Prop where
  isPlain : ∀ m ∈ ms, m.IsPlain
  text : ms.map Form.render = renderAll names es
  replaces : List.Forall₂ Replaces ms forms
  reads : ∃ es', ms.mapM read = .ok es' ∧ List.Forall₂ Same es' es

/-- Formulas that are read one by one are read again one by one. -/
theorem exists_rereadsAll {read : Form → Except Form.Fault Formula} {names : List String}
    {forms : List Form} {es : List Formula} (hread : forms.mapM read = .ok es)
    (h : ∀ form ∈ forms, ∀ e ∈ es, read form = .ok e → ∃ m, Rereads read names form e m) :
    ∃ ms, RereadsAll read names forms es ms := by
  rw [mapM_eq_ok_iff] at hread
  induction hread with
  | nil => exact ⟨[], by simp, rfl, .nil, [], rfl, .nil⟩
  | @cons form e forms es hform hforms ih =>
    obtain ⟨m, hm⟩ := h form List.mem_cons_self e List.mem_cons_self hform
    obtain ⟨ms, hms⟩ := ih fun form hform e he =>
      h form (List.mem_cons_of_mem _ hform) e (List.mem_cons_of_mem _ he)
    obtain ⟨e', he', hsame⟩ := hm.reads
    obtain ⟨es', hes', hsames⟩ := hms.reads
    refine ⟨m :: ms, List.forall_mem_cons.mpr ⟨hm.isPlain, hms.isPlain⟩, ?_,
      .cons hm.replaces hms.replaces, e' :: es', ?_, .cons hsame hsames⟩
    · rw [List.map_cons, hm.text, hms.text, renderAll]
    · rw [List.mapM_cons, he', hes']
      rfl

/-- What stands for a list is a list. -/
theorem isList_of_replaces {ms forms : List Form} (h : List.Forall₂ Replaces ms forms)
    (hforms : ∀ form ∈ forms, form.isList = true) : ∀ m ∈ ms, m.isList = true := by
  induction h with
  | nil => simp
  | cons hfirst hrest ih =>
    obtain ⟨hform, hforms⟩ := List.forall_mem_cons.mp hforms
    exact List.forall_mem_cons.mpr ⟨hfirst.isList.trans hform, ih hforms⟩

/-- Words that say a time. -/
theorem mem_timeWords {op word : String}
    (h : Keyword.timeSpecifiers.contains (op, word) = true) :
    op ∈ Keyword.all ∧ word ∈ Keyword.timeWords := by
  have hmem : (op, word) ∈ Keyword.timeSpecifiers := by simpa using h
  exact (by decide : ∀ pair ∈ Keyword.timeSpecifiers,
    pair.1 ∈ Keyword.all ∧ pair.2 ∈ Keyword.timeWords) _ hmem

/-- No time is said by what stands for entries that say none. -/
theorem timeWord?_eq_none {op : String} {forms ms : List Form}
    (h : List.Forall₂ Replaces ms forms) (hforms : timeWord? op forms = none) :
    timeWord? op ms = none := by
  rw [Option.eq_none_iff_forall_ne_some] at hforms ⊢
  intro word hword
  obtain ⟨text, entries, rfl, rfl, hcontains⟩ := timeWord?_eq_some_iff.mp hword
  cases h with
  | cons hfirst hrest =>
    cases hrest with
    | cons hsecond hnil =>
      cases hnil
      rename_i first second
      have hfirst : first = .atom text :=
        hfirst.word text rfl (mem_timeWords hcontains).2
      cases second with
      | atom _ => exact absurd hsecond.isList (by simp [Form.isList])
      | list others =>
        exact hforms _ (timeWord?_eq_some_iff.mpr ⟨text, others, by rw [hfirst], rfl, hcontains⟩)

/-- The text of a list with a word at its head. -/
theorem render_list_atom (head : String) (ms : List Form) :
    (Form.list (.atom head :: ms)).render = parenthesise (head :: ms.map Form.render) := by
  rw [Form.render_list]
  rfl

/-- A list is plain if its head can stand as a word and the other entries are plain. -/
theorem isPlain_list_atom {head : String} {ms : List Form} (hhead : Token.IsPlain head)
    (hms : ∀ m ∈ ms, m.IsPlain) : (Form.list (.atom head :: ms)).IsPlain := by
  rw [Form.isPlain_list, List.forall_mem_cons]
  exact ⟨Form.isPlain_atom.mpr hhead, hms⟩

/-- A list that is read again from a head and what the other entries are read again from. -/
theorem Rereads.list {read : Form → Except Form.Fault Formula} {names : List String}
    {entries ms : List Form} {e : Formula} {head : String} (hhead : Token.IsPlain head)
    (hms : ∀ m ∈ ms, m.IsPlain)
    (htext : parenthesise (head :: ms.map Form.render) = e.render names)
    (hreads : ∃ e', read (.list (.atom head :: ms)) = .ok e' ∧ e'.Same e) :
    Rereads read names (.list entries) e (.list (.atom head :: ms)) where
  isPlain := isPlain_list_atom hhead hms
  text := (render_list_atom head ms).trans htext
  replaces := ⟨rfl, by simp⟩
  reads := hreads

/-- The words that say a time start with letters. -/
theorem head?_of_mem_timeWords {word : String} (h : word ∈ Keyword.timeWords) :
    word.toList.head? ∈ [some 's', some 'e', some 'a'] := by
  revert word
  decide

/-- A text that starts with a character before the letters says no time. -/
theorem lower_notMem_timeWords {text : String} {c : Char} {rest : List Char}
    (h : text.toList = c :: rest) (hc : c.toNat < 65) : Text.lower text ∉ Keyword.timeWords := by
  intro hword
  have hlower : c.toLower = c := by
    have hnot : ¬ (c.val ≥ 'A'.val ∧ c.val ≤ 'Z'.val) := by
      rintro ⟨hlow, -⟩
      exact absurd (UInt32.le_iff_toNat_le.mp hlow) (by simpa using hc)
    exact dif_neg hnot
  have hascii : c.toNat < 0x80 := by omega
  have hhead := head?_of_mem_timeWords hword
  simp only [Text.lower, h, Text.lowerChars, hascii, if_true, hlower, String.toList_ofList,
    List.head?_cons, List.mem_cons, Option.some.injEq, List.not_mem_nil, or_false] at hhead
  rcases hhead with rfl | rfl | rfl <;> simp at hc

/-- A text that starts with a mark is no numeral. -/
theorem isNumeral_mark (name : String) : Number.isNumeral ("?" ++ name) = false := by
  have hblank : Text.isBlank '?' = false := by decide
  have hdigit : Text.isDigit '?' = false := by decide
  have htrim : ∃ rest, Text.trimChars ("?" ++ name).toList = '?' :: rest := by
    rw [String.toList_append, Text.trimChars]
    change ∃ rest, Text.dropEndWhile _ (List.dropWhile _ ('?' :: name.toList)) = _
    rw [List.dropWhile_cons_of_neg (by simp [hblank]), Text.dropEndWhile]
    split
    · exact ⟨[], by simp [hblank]⟩
    · exact ⟨_, rfl⟩
  obtain ⟨rest, hrest⟩ := htrim
  rw [Number.isNumeral, hrest]
  simp [Number.Numeral.read?, Number.splitSign, Number.readMantissa?, hdigit]

/-- An atom is read again: a number from its label, a known name with its mark, and any other name
as it is. -/
theorem exists_rereads_atom {scope : Scope} {names : List String} {atom : String} {e : Formula}
    (hknown : atom.toList.head? = some '?' → Parameter.bareName atom ∈ names)
    (hplain : Token.IsPlain atom) (hread : term scope atom = .ok e) (hnumbers : e.Writable) :
    ∃ m, Rereads (operandOfForm scope) names (.atom atom) e m := by
  rcases cases_of_term hread with ⟨x, rfl⟩ | ⟨hnumeral, rfl⟩
  · obtain ⟨hfinite, y, hy, hxy⟩ := hnumbers x (by simp [numbers])
    have hwritten := Number.isWritten_label hfinite
    refine ⟨.atom (Number.label x), Form.isPlain_atom.mpr hwritten.plain, rfl, ⟨rfl, ?_⟩,
      .number y, ?_, .number hxy⟩
    · rintro text ⟨⟩ hword
      obtain ⟨c, rest, hlabel, hc⟩ := hwritten.starts
      refine absurd hword (lower_notMem_timeWords hlabel ?_)
      rcases hc with hdigit | rfl
      · have hrange : 48 ≤ c.toNat ∧ c.toNat ≤ 57 := by
          simpa [Char.isDigit, UInt32.le_iff_toNat_le] using hdigit
        omega
      · decide
    · exact term_of_isNumeral hwritten.numeral hy
  · by_cases hmem : Parameter.bareName atom ∈ names
    · -- the mark is put on, also if the atom had none
      refine ⟨.atom ("?" ++ Parameter.bareName atom),
        Form.isPlain_atom.mpr (Parameter.isPlain_mark_bareName hplain), ?_, ⟨rfl, ?_⟩, _, ?_,
        .parameter _ _⟩
      · simp [render, hmem]
      · rintro text ⟨⟩ hword
        exact absurd hword (lower_notMem_timeWords (String.toList_append ..) (by decide))
      · rw [operandOfForm, term_of_not_isNumeral (isNumeral_mark _), Parameter.bareName_mark]
    · -- a mark would belong to a known name, so the atom has none
      have hbare : Parameter.bareName atom = atom := by
        refine Parameter.bareName_of_toList fun rest hrest => ?_
        exact hmem (hknown (by simp [hrest]))
      refine ⟨.atom atom, Form.isPlain_atom.mpr hplain, ?_, ⟨rfl, ?_⟩, _, ?_, .parameter _ _⟩
      · rw [hbare] at hmem
        simp [render, hbare, hmem]
      · rintro text ⟨⟩ _
        rfl
      · rw [operandOfForm, term_of_not_isNumeral hnumeral]

/-- The numbers of what was put together can be written if all its numbers can. -/
theorem writable_of_mem {es : List Formula} {e : Formula}
    (h : ∀ x ∈ numbersOfAll es, Number.IsFinite x ∧ Number.ReadsBack x) (he : e ∈ es) :
    e.Writable :=
  fun x hx => h x (mem_numbersOfAll.mpr ⟨e, he, hx⟩)

/-- An operand is read again from its text. Only its atoms can have marks, since a function keeps
its name and an operator has none. -/
theorem exists_rereads_operand {scope : Scope} {names : List String} {form : Form} {e : Formula}
    (hknown : form.MarksKnown names) (hplain : form.IsPlain)
    (hread : operandOfForm scope form = .ok e) (hnumbers : e.Writable) :
    ∃ m, Rereads (operandOfForm scope) names form e m := by
  induction hknown generalizing e with
  | @atom atom hknown =>
    rw [operandOfForm] at hread
    exact exists_rereads_atom hknown (Form.isPlain_atom.mp hplain) hread hnumbers
  | @list entries hentries ih =>
    obtain ⟨head, rest, rfl⟩ := exists_of_operandOfForm hread
    obtain ⟨hhead, hrest⟩ := List.forall_mem_cons.mp (Form.isPlain_list.mp hplain)
    rw [operandOfForm_list, map_eq_ok_iff] at hread
    obtain ⟨arguments, hread, rfl⟩ := hread
    have hnumbers' : ∀ x ∈ numbersOfAll arguments, Number.IsFinite x ∧ Number.ReadsBack x := by
      intro x hx
      refine hnumbers x ?_
      split <;> exact hx
    have hall : ∃ ms, RereadsAll (operandOfForm scope) names rest arguments ms :=
      exists_rereadsAll hread fun form hform e he hread =>
        ih form hform (hrest form hform) hread (writable_of_mem hnumbers' he)
    obtain ⟨ms, hms⟩ := hall
    obtain ⟨others, hothers, hsame⟩ := hms.reads
    split
    · rename_i harithmetic
      obtain ⟨hlower, hop⟩ :=
        Keyword.lower_and_isPlain_of_mem_all _ (Keyword.mem_all_of_arithmetic harithmetic)
      refine ⟨_, .list hop hms.isPlain ?_
        ⟨.arithmetic (Text.lower head) others, ?_, .arithmetic _ hsame⟩⟩
      · rw [hms.text, render]
      · rw [operandOfForm_list, hothers, hlower]
        simp [Except.map, harithmetic]
    · rename_i harithmetic
      refine ⟨_, .list (Form.isPlain_atom.mp hhead) hms.isPlain ?_
        ⟨.function head others, ?_, .function _ hsame⟩⟩
      · rw [hms.text, render]
      · rw [operandOfForm_list, hothers]
        simp [Except.map, harithmetic]

/-- A formula made of others under a keyword is read again from the keyword. -/
theorem Rereads.composite {scope : Scope} {names : List String} {op : String}
    {entries rest ms : List Form} {items : List Formula} (hop : op ∈ Keyword.all)
    (hms : RereadsAll (ofForm scope) names rest items ms)
    (hread : ofForm scope (.list (.atom op :: ms)) =
      (ms.mapM (ofForm scope)).map fun items => .composite op items []) :
    Rereads (ofForm scope) names (.list entries) (.composite op items [])
      (.list (.atom op :: ms)) := by
  obtain ⟨others, hothers, hsame⟩ := hms.reads
  refine .list (Keyword.lower_and_isPlain_of_mem_all op hop).2 hms.isPlain ?_
    ⟨.composite op others [], ?_, .composite op [] hsame⟩
  · rw [hms.text]
    rfl
  · rw [hread, hothers]
    rfl

/-- A comparison, numeric effect or predicate is read again from its text. The head that is written
is the same in lower case, and so it makes the same of its operands. -/
theorem exists_rereads_atomic {scope : Scope} {names : List String} {head : String}
    {rest : List Form} {e : Formula} (hop : Keyword.isComposite (Text.lower head) = false)
    (hword : timeWord? (Text.lower head) rest = none)
    (hknown : ∀ form ∈ rest, form.MarksKnown names)
    (hhead : Token.IsPlain head) (hplain : ∀ form ∈ rest, form.IsPlain)
    (hread : atomicOfForm scope head rest = .ok e) (hnumbers : e.Writable) :
    ∃ m, Rereads (ofForm scope) names (.list (.atom head :: rest)) e m := by
  rw [atomicOfForm_eq, bind_eq_ok_iff] at hread
  obtain ⟨arguments, harguments, hread⟩ := hread
  have hms (hnumbers : ∀ x ∈ numbersOfAll arguments, Number.IsFinite x ∧ Number.ReadsBack x) :
      ∃ ms, RereadsAll (operandOfForm scope) names rest arguments ms :=
    exists_rereadsAll harguments fun form hform e he hread =>
      exists_rereads_operand (hknown form hform) (hplain form hform) hread
        (writable_of_mem hnumbers he)
  -- What is written for the head only has to be the same in lower case.
  have hreads {written : String} {ms : List Form} (hlower : Text.lower written = Text.lower head)
      (hms : RereadsAll (operandOfForm scope) names rest arguments ms) :
      ofForm scope (.list (.atom written :: ms)) = atomicOfForm scope written ms :=
    ofForm_atomic (by rw [hlower]; exact hop)
      (by rw [hlower]; exact timeWord?_eq_none hms.replaces hword)
  split at hread
  · rename_i hcomparison
    obtain ⟨hlength, rfl⟩ := compare_eq_ok_iff.mp hread
    obtain ⟨ms, hms⟩ := hms hnumbers
    obtain ⟨others, hothers, hsame⟩ := hms.reads
    obtain ⟨hlower, hplain⟩ :=
      Keyword.lower_and_isPlain_of_mem_all _ (Keyword.mem_all_of_comparison hcomparison)
    refine ⟨_, .list hplain hms.isPlain ?_
      ⟨.comparison (Text.lower head) others, ?_, .comparison _ hsame⟩⟩
    · rw [hms.text, render]
    · rw [hreads hlower hms, atomicOfForm_eq, hothers, hlower]
      simp only [hcomparison, if_true]
      exact compare_eq_ok_iff.mpr ⟨hsame.length_eq ▸ hlength, rfl⟩
  · rename_i hcomparison
    split at hread
    · rename_i change hchange
      obtain rfl := pure_eq_ok_iff.mp hread
      obtain ⟨ms, hms⟩ := hms hnumbers
      obtain ⟨others, hothers, hsame⟩ := hms.reads
      obtain ⟨hlower, hplain⟩ := Keyword.lower_and_isPlain_of_mem_all _ change.name_mem_all
      have hname := NumericChange.name_of_ofName? hchange
      refine ⟨_, .list hplain hms.isPlain ?_
        ⟨.numeric change others, ?_, .numeric change hsame⟩⟩
      · rw [hms.text, render]
      · rw [hreads (hlower.trans hname) hms, atomicOfForm_eq, hothers, hlower, hname]
        simp [hcomparison, hchange]
    · rename_i hchange
      obtain rfl := pure_eq_ok_iff.mp hread
      obtain ⟨ms, hms⟩ := hms hnumbers
      obtain ⟨others, hothers, hsame⟩ := hms.reads
      refine ⟨_, .list hhead hms.isPlain ?_
        ⟨.predicate head others, ?_, .predicate head hsame⟩⟩
      · rw [hms.text, render]
      · rw [hreads rfl hms, atomicOfForm_eq, hothers]
        simp [hcomparison, hchange]

/-- A negation is read again from what its argument is read again from. -/
theorem Rereads.negation {scope : Scope} {names : List String} {form m : Form}
    {entries : List Form} {argument : Formula} (hm : Rereads (ofForm scope) names form argument m) :
    Rereads (ofForm scope) names (.list entries) (.negation argument)
      (.list [.atom "not", m]) := by
  obtain ⟨other, hother, hsame⟩ := hm.reads
  refine .list (by decide) (by simpa using hm.isPlain) ?_ ⟨.negation other, ?_, .negation hsame⟩
  · rw [List.map_singleton, hm.text, render, parenthesise, ← String.toList_inj]
    simp [String.intercalate_cons_cons]
  · have hnot : Text.lower "not" = "not" := by decide
    rw [ofForm_negation hnot, hother]
    rfl

/-- A quantified formula is read again from its variables, which are declared one by one, and what
the formulas under it are read again from. -/
theorem exists_rereads_quantified {scope : Scope} {names : List String} {op : String}
    {entries declared body ms : List Form} {items : List Formula} {bound : List Parameter}
    (hop : Keyword.quantifiers.contains op = true) (hne : declared ≠ [])
    (hdeclared : ∀ form ∈ declared, form.IsPlain)
    (hbound : Parameter.readList true declared = .ok bound)
    (hms : RereadsAll (ofForm (scope.bind bound)) (bound.map Parameter.name ++ names) body items
      ms) :
    ∃ m, Rereads (ofForm scope) names (.list entries) (.composite op items bound) m := by
  obtain ⟨others, hothers, hsame⟩ := hms.reads
  obtain ⟨written, hplain, hwritten, htext⟩ := Parameter.exists_declared hdeclared hbound
  have hbound : bound ≠ [] := Parameter.ne_nil_of_readFrom (.inr hne) hbound
  obtain ⟨hlower, hkeyword⟩ :=
    Keyword.lower_and_isPlain_of_mem_all _ (Keyword.mem_all_of_quantifier hop)
  refine ⟨.list (.atom op :: .list written :: ms), .list hkeyword
    (List.forall_mem_cons.mpr ⟨hplain, hms.isPlain⟩) ?_
    ⟨.composite op others bound, ?_, .composite op bound hsame⟩⟩
  · rw [List.map_cons, hms.text, ← htext, render, variableParts]
    simp [hbound]
  · rw [ofForm_quantifier (by rwa [hlower]) hwritten, hothers, hlower]
    rfl

/-- A formula at a time is read again from the two words, which stand apart in the text, and what
the formula is read again from. -/
theorem Rereads.timed {scope : Scope} {names : List String} {op word : String} {form m : Form}
    {entries : List Form} {f : Formula} (hop : Keyword.isComposite op = false)
    (hcontains : Keyword.timeSpecifiers.contains (op, word) = true) (hlist : form.isList = true)
    (hm : Rereads (ofForm scope) names form f m) :
    Rereads (ofForm scope) names (.list entries) (.composite (op ++ " " ++ word) [f] [])
      (.list [.atom op, .atom word, m]) := by
  obtain ⟨other, hother, hsame⟩ := hm.reads
  obtain ⟨hopKeyword, htimeWord⟩ := mem_timeWords hcontains
  obtain ⟨hlower, hopPlain⟩ := Keyword.lower_and_isPlain_of_mem_all _ hopKeyword
  obtain ⟨hlowerWord, hwordPlain⟩ := Keyword.lower_and_isPlain_of_mem_all word
    ((by decide : ∀ word ∈ Keyword.timeWords, word ∈ Keyword.all) word htimeWord)
  refine .list hopPlain
    (List.forall_mem_cons.mpr ⟨Form.isPlain_atom.mpr hwordPlain, by simpa using hm.isPlain⟩) ?_
    ⟨.composite (op ++ " " ++ word) [other] [], ?_, .composite _ [] (.cons hsame .nil)⟩
  · simp only [render, renderAll, variableParts, parenthesise, List.isEmpty_nil, if_true,
      List.map_cons, List.map_nil, List.nil_append, hm.text, Form.render_atom, List.cons_append,
      String.intercalate_cons_cons, String.intercalate_singleton, String.append_assoc]
  · have hagain : timeWord? op [.atom word, m] = some word := by
      cases m with
      | atom _ => exact absurd (hm.replaces.isList.trans hlist) (by simp [Form.isList])
      | list others => exact timeWord?_eq_some_iff.mpr ⟨word, others, rfl, hlowerWord, hcontains⟩
    rw [ofForm_timed (by rwa [hlower]) (by rwa [hlower]), hother, hlower]
    rfl

/-- A formula is read again from its text, under the scope that it was read under. By induction on
what makes the form legible: the names that get a mark and the scope grow with each quantifier. -/
theorem exists_rereads {scope : Scope} {names : List String} {form : Form} {e : Formula}
    (hlegible : form.Legible names) (hplain : form.IsPlain) (hread : ofForm scope form = .ok e)
    (hnumbers : e.Writable) : ∃ m, Rereads (ofForm scope) names form e m := by
  induction hlegible generalizing scope e with
  | empty names =>
    obtain rfl := Except.ok.inj hread
    have hand : Text.lower "and" = "and" := by decide
    have hnone : RereadsAll (ofForm scope) names [] [] [] :=
      ⟨by simp, rfl, .nil, [], rfl, .nil⟩
    refine ⟨_, .composite (by decide) hnone ?_⟩
    rw [ofForm_connective (by rw [hand]; decide) (by simp), hand]
  | @negation names head form hop hlegible ih =>
    rw [ofForm_negation hop, map_eq_ok_iff] at hread
    obtain ⟨argument, hread, rfl⟩ := hread
    obtain ⟨-, hform⟩ := List.forall_mem_cons.mp (Form.isPlain_list.mp hplain)
    obtain ⟨m, hm⟩ := ih (hform form (by simp)) hread hnumbers
    exact ⟨_, hm.negation⟩
  | @connective names head rest hop hlegible ih =>
    have hlists : ∀ form ∈ rest, form.isList = true := fun form hform =>
      (hlegible form hform).isList
    rw [ofForm_connective hop hlists, map_eq_ok_iff] at hread
    obtain ⟨items, hread, rfl⟩ := hread
    obtain ⟨-, hrest⟩ := List.forall_mem_cons.mp (Form.isPlain_list.mp hplain)
    obtain ⟨ms, hms⟩ := exists_rereadsAll hread fun form hform e he hread =>
      ih form hform (hrest form hform) hread (writable_of_mem hnumbers he)
    have hkeyword := Keyword.mem_all_of_connective hop
    obtain ⟨hlower, -⟩ := Keyword.lower_and_isPlain_of_mem_all _ hkeyword
    refine ⟨_, .composite hkeyword hms ?_⟩
    rw [ofForm_connective (by rwa [hlower]) (isList_of_replaces hms.replaces hlists), hlower]
  | @preference names head name rest hop hlegible ih =>
    have hlists : ∀ form ∈ rest, form.isList = true := fun form hform =>
      (hlegible form hform).isList
    rw [ofForm_preference hop, map_eq_ok_iff] at hread
    obtain ⟨items, hread, rfl⟩ := hread
    obtain ⟨-, hnamed⟩ := List.forall_mem_cons.mp (Form.isPlain_list.mp hplain)
    obtain ⟨-, hrest⟩ := List.forall_mem_cons.mp hnamed
    obtain ⟨ms, hms⟩ := exists_rereadsAll hread fun form hform e he hread =>
      ih form hform (hrest form hform) hread (writable_of_mem hnumbers he)
    -- without its name the preference is read as any other connective
    have hlower : Text.lower "preference" = "preference" := by decide
    refine ⟨_, .composite (by decide) hms ?_⟩
    rw [ofForm_connective (by rw [hlower]; decide) (isList_of_replaces hms.replaces hlists), hlower]
  | @quantifier names head declared body bound hop hne hbound hlegible ih =>
    rw [ofForm_quantifier hop hbound, map_eq_ok_iff] at hread
    obtain ⟨items, hread, rfl⟩ := hread
    obtain ⟨-, hrest⟩ := List.forall_mem_cons.mp (Form.isPlain_list.mp hplain)
    obtain ⟨hdeclared, hbody⟩ := List.forall_mem_cons.mp hrest
    obtain ⟨ms, hms⟩ := exists_rereadsAll hread fun form hform e he hread =>
      ih form hform (hbody form hform) hread (writable_of_mem hnumbers he)
    exact exists_rereads_quantified hop hne (Form.isPlain_list.mp hdeclared) hbound hms
  | @condition names head rest hop hlegible ih =>
    rw [ofForm_condition hop, map_eq_ok_iff] at hread
    obtain ⟨items, hread, rfl⟩ := hread
    obtain ⟨-, hrest⟩ := List.forall_mem_cons.mp (Form.isPlain_list.mp hplain)
    obtain ⟨ms, hms⟩ := exists_rereadsAll hread fun form hform e he hread =>
      ih form hform (hrest form hform) hread (writable_of_mem hnumbers he)
    have hlower : Text.lower "when" = "when" := by decide
    exact ⟨_, .composite (by decide) hms (ofForm_condition hlower)⟩
  | @timed names head word first form hop hword hlegible ih =>
    rw [ofForm_timed hop hword, map_eq_ok_iff] at hread
    obtain ⟨f, hread, rfl⟩ := hread
    obtain ⟨-, hrest⟩ := List.forall_mem_cons.mp (Form.isPlain_list.mp hplain)
    obtain ⟨m, hm⟩ := ih (hrest form (by simp)) hread (writable_of_mem hnumbers (by simp))
    obtain ⟨-, -, -, -, hcontains⟩ := timeWord?_eq_some_iff.mp hword
    exact ⟨_, hm.timed hop hcontains hlegible.isList⟩
  | @atomic names head rest hop hword hknown =>
    rw [ofForm_atomic hop hword] at hread
    obtain ⟨hhead, hrest⟩ := List.forall_mem_cons.mp (Form.isPlain_list.mp hplain)
    exact exists_rereads_atomic hop hword hknown (Form.isPlain_atom.mp hhead) hrest hread hnumbers

/-- The text of a formula whose numbers can be written is read as the same formula. -/
theorem exists_readOne_render {scope : Scope} {names : List String} {form : Form} {e : Formula}
    (hplain : form.IsPlain) (hlegible : form.Legible names) (hread : ofForm scope form = .ok e)
    (hnumbers : e.Writable) :
    ∃ m e', Form.readOne (e.render names) = .ok m ∧ ofForm scope m = .ok e' ∧ e'.Same e := by
  obtain ⟨m, hm⟩ := exists_rereads hlegible hplain hread hnumbers
  obtain ⟨e', he', hsame⟩ := hm.reads
  refine ⟨m, e', ?_, he', hsame⟩
  rw [← hm.text]
  exact Form.readOne_render (hm.replaces.isList.trans hlegible.isList) hm.isPlain

/-- The text of a formula is read as the same formula, if it was read from a legible form, its
numbers are finite, and they are equal to what their labels are read as. -/
theorem render_reads_back {scope : Scope} {names : List String} {form : Form} {e : Formula}
    (hplain : form.IsPlain) (hlegible : form.Legible names) (hread : ofForm scope form = .ok e)
    (hfinite : ∀ x ∈ e.numbers, Number.IsFinite x)
    (hnumbers : ∀ x ∈ e.numbers, Number.ReadsBack x) :
    ∃ m e', Form.readOne (e.render names) = .ok m ∧ ofForm scope m = .ok e' ∧ e'.Same e :=
  exists_readOne_render hplain hlegible hread fun x hx => ⟨hfinite x hx, hnumbers x hx⟩

/-- A quantified formula with a group of variables, keywords in capitals, a time and a number that
is not whole. -/
def sampleForm : Form :=
  .list [.atom "FORALL",
    .list [.atom "?x", .atom "?y", .atom "-", .list [.atom "either", .atom "a", .atom "b"]],
    .list [.atom "At", .atom "START",
      .list [.atom "<=", .list [.atom "f", .atom "?x", .atom "?z"], .atom "15e-1"]]]

/-- The formula that it is read as. -/
def sampleFormula : Formula :=
  .composite "forall"
    [.composite "at start"
      [.comparison "<=" [.function "f" [.parameter "x" (.text "(either a b)"),
        .parameter "z" .null], .number 1.5]] []]
    [{ name := "x", type := some "(either a b)" }, { name := "y", type := some "(either a b)" }]

/-- The sample is read by the heads of its lists. -/
theorem ofForm_sampleForm : ofForm [] sampleForm = .ok sampleFormula := by
  have hnumber (scope : Scope) : operandOfForm scope (.atom "15e-1") = .ok (.number 1.5) :=
    term_of_isNumeral (by decide) (by decide +kernel)
  have hcomparison (scope : Scope) :
      ofForm scope (.list [.atom "<=", .list [.atom "f", .atom "?x", .atom "?z"], .atom "15e-1"]) =
        .ok (.comparison "<=" [.function "f" [.parameter "x" (scope.typeOf "x"),
          .parameter "z" (scope.typeOf "z")], .number 1.5]) := by
    rw [ofForm_atomic (by decide) (by decide), atomicOfForm_eq, List.mapM_cons, List.mapM_cons,
      hnumber]
    rfl
  rw [sampleForm, ofForm_quantifier (by decide) rfl, List.mapM_cons,
    ofForm_timed (by decide) (by decide : timeWord? _ [_, _] = some "start"), hcomparison]
  rfl

/-- The variables of the sample are bound, or known from outside. -/
theorem legible_sampleForm : sampleForm.Legible ["z"] := by
  refine .quantifier (by decide) (by simp) rfl fun form hform => ?_
  rw [List.mem_singleton.mp hform]
  refine .timed (by decide) (by decide : timeWord? _ [_, _] = some "start")
    (.atomic (by decide) (by decide) (List.forall_mem_cons.mpr ⟨.list ?_, ?_⟩))
  · exact List.forall_mem_cons.mpr ⟨.atom (by decide), by simpa using .atom (by decide)⟩
  · simpa using .atom (by decide)

/-- The sample is written in small letters and with a type for each variable, and read as the
same. -/
theorem render_reads_back_sample :
    sampleForm.IsPlain ∧ sampleForm.Legible ["z"] ∧ ofForm [] sampleForm = .ok sampleFormula ∧
      (∀ x ∈ sampleFormula.numbers, Number.IsFinite x ∧ Number.ReadsBack x) ∧
      sampleFormula.render ["z"] =
        "(forall (?x - (either a b) ?y - (either a b)) (at start (<= (f ?x ?z) 1.5)))" ∧
      ∃ m e', Form.readOne (sampleFormula.render ["z"]) = .ok m ∧ ofForm [] m = .ok e' ∧
        e'.Same sampleFormula := by
  have hplain : sampleForm.IsPlain := by decide
  have hfinite : ∀ x ∈ sampleFormula.numbers, Number.IsFinite x := by
    intro x hx
    rw [List.mem_singleton.mp hx]
    exact ⟨false, 6755399441055744, -52, by decide +kernel⟩
  have hnumbers : ∀ x ∈ sampleFormula.numbers, Number.ReadsBack x := by
    intro x hx
    rw [List.mem_singleton.mp hx]
    exact ⟨1.5, by decide +kernel, by decide +kernel⟩
  exact ⟨hplain, legible_sampleForm, ofForm_sampleForm, fun x hx => ⟨hfinite x hx, hnumbers x hx⟩,
    by decide +kernel,
    render_reads_back hplain legible_sampleForm ofForm_sampleForm hfinite hnumbers⟩

/-- A comparison with a number beyond all doubles. -/
def infiniteForm : Form :=
  .list [.atom "=", .list [.atom "f"], .atom "1e999"]

/-- It is read as infinity. -/
def infiniteFormula : Formula :=
  .comparison "=" [.function "f" [], .number (1.0 / 0.0)]

/-- Infinity is equal to what its label is read as, but the label is a name where a formula is read,
and so the comparison is not read back. -/
theorem render_not_read_back_infinite :
    infiniteForm.IsPlain ∧ infiniteForm.Legible [] ∧ ofForm [] infiniteForm = .ok infiniteFormula ∧
      (∀ x ∈ infiniteFormula.numbers, Number.ReadsBack x) ∧
      infiniteFormula.render [] = "(= (f) inf)" ∧
      ¬ ∃ m e', Form.readOne (infiniteFormula.render []) = .ok m ∧ ofForm [] m = .ok e' ∧
        e'.Same infiniteFormula := by
  have hnumber : operandOfForm [] (.atom "1e999") = .ok (.number (1.0 / 0.0)) :=
    term_of_isNumeral (by decide) (by decide +kernel)
  have hrender : infiniteFormula.render [] = "(= (f) inf)" := by decide +kernel
  refine ⟨by decide, .atomic (by decide) (by decide) ?_, ?_, ?_, hrender, ?_⟩
  · exact List.forall_mem_cons.mpr ⟨.list (by simp), by simpa using .atom (by decide)⟩
  · rw [infiniteForm, ofForm_atomic (by decide) (by decide), atomicOfForm_eq, List.mapM_cons,
      List.mapM_cons, hnumber]
    rfl
  · intro x hx
    rw [List.mem_singleton.mp hx]
    exact ⟨1.0 / 0.0, by decide +kernel, by decide +kernel⟩
  · rintro ⟨m, e', hm, he', hsame⟩
    rw [hrender] at hm
    obtain rfl : m = .list [.atom "=", .list [.atom "f"], .atom "inf"] :=
      (Except.ok.inj hm).symm
    obtain rfl : e' = .comparison "=" [.function "f" [], .parameter "inf" .null] :=
      (Except.ok.inj he').symm
    cases hsame with
    | comparison _ harguments =>
      cases harguments with
      | cons _ hrest =>
        cases hrest with
        | cons hnumber _ => cases hnumber

end PlanDiagram.Formula
