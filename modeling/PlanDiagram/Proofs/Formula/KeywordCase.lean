import PlanDiagram.Proofs.Formula.Scoping

/-!
# The letter case of keywords

A list is read by its head in lower case, while the names of predicates and functions keep the case
in which they are written. Which heads are keywords depends on where a list stands: arithmetic is
recognised among operands, everything else among formulas. `Form.Recased` relates two forms that
differ only in the letter case of such heads, and of the words that say a time. Main statement: two
such forms are read as the same formula under every scope, or neither of them can be read.
-/

namespace PlanDiagram

namespace Text

/-- Two texts differ at most in the case of the letters A to Z. -/
def SameLetters (s t : String) : Prop :=
  s.toList.map Char.toLower = t.toList.map Char.toLower

instance (s t : String) : Decidable (SameLetters s t) :=
  inferInstanceAs (Decidable (s.toList.map Char.toLower = t.toList.map Char.toLower))

/-- The letters from A to Z. -/
def IsCapital (c : Char) : Prop :=
  c.val ≥ 'A'.val ∧ c.val ≤ 'Z'.val

instance (c : Char) : Decidable (IsCapital c) :=
  inferInstanceAs (Decidable (_ ∧ _))

/-- The small form of a capital letter is below U+0080 and is its own small form, and it stands next
to a sigma like the letter. -/
theorem IsCapital.toLower {c : Char} (h : IsCapital c) :
    c.toLower.toNat < 0x80 ∧ c.toLower.toLower = c.toLower ∧
      isCaseIgnorable c.toLower = isCaseIgnorable c ∧ isCased c.toLower = isCased c := by
  have hall : ∀ n < 26, let c := Char.ofNat (65 + n)
      c.toLower.toNat < 0x80 ∧ c.toLower.toLower = c.toLower ∧
        isCaseIgnorable c.toLower = isCaseIgnorable c ∧ isCased c.toLower = isCased c := by
    decide +kernel
  have hge : 65 ≤ c.toNat := UInt32.le_iff_toNat_le.mp h.1
  have hle : c.toNat ≤ 90 := UInt32.le_iff_toNat_le.mp h.2
  have hc := hall (c.toNat - 65) (by omega)
  rwa [Nat.add_sub_cancel' hge, Char.ofNat_toNat] at hc

/-- Capital letters are below U+0080. -/
theorem IsCapital.lt {c : Char} (h : IsCapital c) : c.toNat < 0x80 :=
  Nat.lt_of_le_of_lt (UInt32.le_iff_toNat_le.mp h.2) (by decide)

/-- Only capital letters have another small form by core's rule. -/
theorem toLower_of_not_isCapital {c : Char} (h : ¬ IsCapital c) : c.toLower = c :=
  dif_neg h

/-- The letters next to a sigma are found in any case. -/
theorem toLower_neighbour (c : Char) :
    isCaseIgnorable c.toLower = isCaseIgnorable c ∧ isCased c.toLower = isCased c := by
  by_cases h : IsCapital c
  · exact h.toLower.2.2
  · rw [toLower_of_not_isCapital h]
    exact ⟨rfl, rfl⟩

/-- Whether a letter comes next does not depend on the case of the letters A to Z. -/
theorem startsCased_map_toLower (cs : List Char) :
    startsCased (cs.map Char.toLower) = startsCased cs := by
  have hskip : isCaseIgnorable ∘ Char.toLower = isCaseIgnorable :=
    funext fun c => (toLower_neighbour c).1
  rw [startsCased, startsCased, List.dropWhile_map, hskip]
  cases cs.dropWhile isCaseIgnorable with
  | nil => rfl
  | cons c rest => exact (toLower_neighbour c).2

/-- Lower case does not see the case of the letters A to Z. -/
theorem lowerChars_map_toLower (afterCased : Bool) (cs : List Char) :
    lowerChars afterCased (cs.map Char.toLower) = lowerChars afterCased cs := by
  induction cs generalizing afterCased with
  | nil => rfl
  | cons c rest ih =>
    obtain ⟨hignorable, hcased⟩ := toLower_neighbour c
    rw [List.map_cons, lowerChars, lowerChars, ih, startsCased_map_toLower, hignorable, hcased]
    by_cases hc : IsCapital c
    · obtain ⟨hlt, hlower, -⟩ := hc.toLower
      rw [if_pos hc.lt, if_pos hlt, hlower]
    · simp only [toLower_of_not_isCapital hc]

/-- Texts that differ at most in the case of the letters A to Z are the same in lower case. -/
theorem SameLetters.lower_eq {s t : String} (h : SameLetters s t) : lower s = lower t := by
  rw [lower, lower, ← lowerChars_map_toLower false s.toList, h, lowerChars_map_toLower]

end Text

namespace Form

open Formula (timeWord? ofForm operandOfForm atomicOfForm layout)

/-- Two forms that stand as operands and differ only in the letter case of arithmetic operators. -/
inductive RecasedOperand : Form → Form → Prop where
  /-- Nothing differs. -/
  | same (form : Form) : RecasedOperand form form
  /-- An arithmetic operator in another case. -/
  | operator {head head' : String} {rest rest' : List Form}
      (hop : Keyword.isArithmetic (Text.lower head) = true) (hhead : Text.SameLetters head head')
      (hrest : List.Forall₂ RecasedOperand rest rest') :
      RecasedOperand (.list (.atom head :: rest)) (.list (.atom head' :: rest'))
  /-- The name of a function, which keeps its case. -/
  | function {head : String} {rest rest' : List Form}
      (hrest : List.Forall₂ RecasedOperand rest rest') :
      RecasedOperand (.list (.atom head :: rest)) (.list (.atom head :: rest'))

/-- Two forms that stand as formulas and differ only in the letter case of keywords. -/
inductive Recased : Form → Form → Prop where
  /-- Nothing differs. -/
  | same (form : Form) : Recased form form
  /-- A negation, a connective, a condition or a quantifier, in front of formulas. The variables of
  a quantifier stay as they are. -/
  | composite {head head' : String} {rest rest' : List Form}
      (hop : Keyword.isComposite (Text.lower head) = true) (hhead : Text.SameLetters head head')
      (hvariables : Keyword.quantifiers.contains (Text.lower head) = true → rest.head? = rest'.head?)
      (hrest : List.Forall₂ Recased rest rest') :
      Recased (.list (.atom head :: rest)) (.list (.atom head' :: rest'))
  /-- The two words that say when a formula holds. -/
  | timed {head head' word word' : String} {form form' : Form}
      (hop : (Text.lower head, Text.lower word) ∈ Keyword.timeSpecifiers)
      (hhead : Text.SameLetters head head') (hword : Text.SameLetters word word')
      (hlist : form.isList = true) (hform : Recased form form') :
      Recased (.list [.atom head, .atom word, form]) (.list [.atom head', .atom word', form'])
  /-- A comparison or a numeric effect, in front of operands. -/
  | operator {head head' : String} {rest rest' : List Form}
      (hop : Keyword.isComparison (Text.lower head) = true ∨
        (NumericChange.ofName? (Text.lower head)).isSome = true)
      (hhead : Text.SameLetters head head') (hrest : List.Forall₂ RecasedOperand rest rest') :
      Recased (.list (.atom head :: rest)) (.list (.atom head' :: rest'))
  /-- The name of a predicate, which keeps its case. -/
  | predicate {head : String} {rest rest' : List Form}
      (hop : Keyword.isComposite (Text.lower head) = false)
      (hword : timeWord? (Text.lower head) rest = none)
      (hrest : List.Forall₂ RecasedOperand rest rest') :
      Recased (.list (.atom head :: rest)) (.list (.atom head :: rest'))

/-- Operands that differ only in the letter case of keywords are read alike. -/
theorem RecasedOperand.operandOfForm_toOption_eq {form form' : Form} (h : RecasedOperand form form')
    (scope : Scope) :
    (operandOfForm scope form).toOption = (operandOfForm scope form').toOption := by
  induction form using entriesInduction generalizing form' with
  | atom text => cases h with
    | same => rfl
  | list entries ih =>
    cases h with
    | same => rfl
    | operator hop hhead hrest =>
      have hoperands := toOption_mapM_congr hrest fun operand hoperand operand' hrecased =>
        ih operand (List.mem_cons_of_mem _ hoperand) hrecased
      rw [Formula.operandOfForm_list, Formula.operandOfForm_list, toOption_map, toOption_map,
        hoperands, ← hhead.lower_eq, hop]
      rfl
    | function hrest =>
      have hoperands := toOption_mapM_congr hrest fun operand hoperand operand' hrecased =>
        ih operand (List.mem_cons_of_mem _ hoperand) hrecased
      rw [Formula.operandOfForm_list, Formula.operandOfForm_list, toOption_map, toOption_map,
        hoperands]

/-- A list stays a list, and an atom that stands as an operand stays as it is. -/
theorem RecasedOperand.exists_list {form : Form} {entries' : List Form}
    (h : RecasedOperand form (.list entries')) : ∃ entries, form = .list entries := by
  cases h <;> exact ⟨_, rfl⟩

/-- A list stays a list. -/
theorem Recased.exists_list {entries : List Form} {form' : Form}
    (h : Recased (.list entries) form') : ∃ entries', form' = .list entries' := by
  cases h <;> exact ⟨_, rfl⟩

section

variable {head head' : String} {rest rest' : List Form}

/-- No list with a connective at its head has operands. -/
theorem not_isComposite_of_layout (h : layout head rest = .ok .atomic) :
    Keyword.isComposite (Text.lower head) = false := by
  unfold layout at h
  dsimp only at h
  split at h
  · split at h <;> cases h
  split at h
  · split at h <;> cases h
  split at h
  · split at h
    · obtain ⟨bound, -, hlayout⟩ := map_eq_ok_iff.mp h
      cases hlayout
    · cases h
  split at h
  · cases h
  · rename_i hnot hconnective hquantifier hwhen
    simp only [Keyword.isComposite, Bool.or_eq_false_iff]
    exact ⟨⟨⟨by simpa using hnot, by simpa using hconnective⟩, by simpa using hquantifier⟩,
      by simpa using hwhen⟩

/-- The layout of a list with a connective at its head depends on the head in lower case, on the
variables of a quantifier, and on which other entries are atoms. -/
theorem layout_congr (hop : Keyword.isComposite (Text.lower head) = true)
    (hhead : Text.SameLetters head head') (hrest : List.Forall₂ Recased rest rest')
    (hvariables : Keyword.quantifiers.contains (Text.lower head) = true →
      rest.head? = rest'.head?) :
    (layout head rest).toOption = (layout head' rest').toOption := by
  unfold layout
  rw [← hhead.lower_eq]
  dsimp only
  cases hnot : Text.lower head == "not" with
  | true =>
    simp only [if_true]
    cases hrest with
    | nil => rfl
    | cons _ hrest => cases hrest <;> rfl
  | false =>
  cases hconnective : Keyword.connectives.contains (Text.lower head) with
  | true =>
    simp only [Bool.false_eq_true, if_false, if_true]
    cases hrest with
    | nil => rfl
    | @cons form _ _ _ hform _ => cases form with
      | atom text => cases hform; rfl
      | list entries =>
        obtain ⟨entries', rfl⟩ := hform.exists_list
        rfl
  | false =>
  cases hquantifier : Keyword.quantifiers.contains (Text.lower head) with
  | true =>
    simp only [Bool.false_eq_true, if_false, if_true]
    have hfirst := hvariables hquantifier
    cases hrest with
    | nil => rfl
    | @cons form _ _ _ _ _ =>
      obtain rfl := Option.some.inj hfirst
      cases form <;> rfl
  | false =>
  have hwhen : (Text.lower head == "when") = true := by
    simpa only [Keyword.isComposite, hnot, hconnective, hquantifier, Bool.false_or] using hop
  simp only [hwhen, Bool.false_eq_true, if_false, if_true]

/-- A comparison, a numeric effect or a predicate is read from its operands. -/
theorem atomicOfForm_toOption_eq (hrest : List.Forall₂ RecasedOperand rest rest')
    (hhead : Text.SameLetters head head')
    (hname : Keyword.isComparison (Text.lower head) = true ∨
      (NumericChange.ofName? (Text.lower head)).isSome = true ∨ head = head') (scope : Scope) :
    (atomicOfForm scope head rest).toOption = (atomicOfForm scope head' rest').toOption := by
  rw [Formula.atomicOfForm_eq, Formula.atomicOfForm_eq, ← hhead.lower_eq]
  refine toOption_bind_congr
    (toOption_mapM_congr hrest fun _ _ _ hoperand => hoperand.operandOfForm_toOption_eq scope)
    fun arguments _ => ?_
  rcases hname with hcomparison | hchange | rfl
  · rw [if_pos hcomparison, if_pos hcomparison]
  · obtain ⟨change, hchange⟩ := Option.isSome_iff_exists.mp hchange
    rw [hchange]
  · rfl

/-- The head of a comparison or a numeric effect makes no formula of other formulas and says no
time. -/
theorem operator_isAtomic {op : String}
    (hop : Keyword.isComparison op = true ∨ (NumericChange.ofName? op).isSome = true)
    (forms : List Form) : Keyword.isComposite op = false ∧ timeWord? op forms = none := by
  have hmem : op ∈ Keyword.comparisonSigns.map Prod.fst ∨
      op ∈ [NumericChange.increase, .decrease, .assign, .scaleUp, .scaleDown].map
        NumericChange.name := by
    rcases hop with hop | hop
    · exact .inl (Keyword.mem_signs_of_comparison hop)
    · obtain ⟨change, hchange⟩ := Option.isSome_iff_exists.mp hop
      rw [← NumericChange.name_of_ofName? hchange]
      cases change <;> decide
  have htable : Keyword.isComposite op = false ∧ op ∉ Keyword.timeSpecifiers.map Prod.fst := by
    clear hop
    rcases hmem with hmem | hmem <;> revert op <;> decide
  refine ⟨htable.1, Option.eq_none_iff_forall_not_mem.mpr fun word hword => ?_⟩
  obtain ⟨_, _, _, _, hcontains⟩ := Formula.timeWord?_eq_some_iff.mp hword
  exact htable.2 (List.mem_map_of_mem (List.contains_iff_mem.mp hcontains))

end

/-- A head that says no time says none in front of recased operands either. -/
theorem RecasedOperand.timeWord?_eq_none {op : String} {rest rest' : List Form}
    (hrest : List.Forall₂ RecasedOperand rest rest') (hword : timeWord? op rest = none) :
    timeWord? op rest' = none := by
  refine Option.eq_none_iff_forall_not_mem.mpr fun word hword' => ?_
  obtain ⟨text, entries', rfl, htext, hcontains⟩ := Formula.timeWord?_eq_some_iff.mp hword'
  cases hrest with
  | cons hfirst hrest => cases hrest with
    | cons hsecond hnil =>
      cases hnil
      cases hfirst
      obtain ⟨entries, rfl⟩ := hsecond.exists_list
      have htimed := Formula.timeWord?_eq_some_iff.mpr ⟨text, entries, rfl, htext, hcontains⟩
      rw [hword] at htimed
      cases htimed

/-- Formulas that differ only in the letter case of keywords are read alike, or neither can be
read. -/
theorem Recased.ofForm_toOption_eq {form form' : Form} (h : Recased form form') (scope : Scope) :
    (ofForm scope form).toOption = (ofForm scope form').toOption := by
  induction form using entriesInduction generalizing form' scope with
  | atom text => cases h with
    | same => rfl
  | list entries ih =>
    cases h with
    | same => rfl
    | @composite head head' rest rest' hop hhead hvariables hrest =>
      have hentries : ∀ form ∈ rest, ∀ form', Recased form form' → ∀ scope,
          (ofForm scope form).toOption = (ofForm scope form').toOption :=
        fun form hform form' hrecased scope => ih form (List.mem_cons_of_mem _ hform) hrecased scope
      rw [Formula.ofForm_list, Formula.ofForm_list]
      refine toOption_bind_congr (layout_congr hop hhead hrest hvariables) fun l hl => ?_
      cases l with
      | negation =>
        obtain ⟨form, rfl⟩ := Formula.exists_of_layout_negation hl
        cases hrest with
        | cons hform hnil =>
          cases hnil
          simp only [Formula.ofLayout, toOption_map]
          rw [hentries form List.mem_cons_self _ hform]
      | composite op bound skipped =>
        simp only [Formula.ofLayout, toOption_map]
        rw [toOption_mapM_congr (List.forall₂_drop skipped hrest) fun form hform form' hrecased =>
          hentries form (List.mem_of_mem_drop hform) form' hrecased _]
      | atomic => exact absurd hop (by simp [not_isComposite_of_layout hl])
    | @timed head head' word word' form form' hop hhead hword hlist hform =>
      obtain ⟨entries, rfl⟩ : ∃ entries, form = .list entries := by
        cases form with
        | atom text => cases hlist
        | list entries => exact ⟨entries, rfl⟩
      obtain ⟨entries', rfl⟩ := hform.exists_list
      have hcontains := List.contains_iff_mem.mpr hop
      have hop := (by decide :
        ∀ words ∈ Keyword.timeSpecifiers, Keyword.isComposite words.1 = false) _ hop
      rw [Formula.ofForm_timed hop (Formula.timeWord?_eq_some_iff.mpr ⟨_, _, rfl, rfl, hcontains⟩)]
      rw [hhead.lower_eq] at hop hcontains ⊢
      rw [hword.lower_eq] at hcontains ⊢
      rw [Formula.ofForm_timed hop (Formula.timeWord?_eq_some_iff.mpr ⟨_, _, rfl, rfl, hcontains⟩),
        toOption_map, toOption_map, ih _ (by simp) hform scope]
    | @operator head head' rest rest' hop hhead hrest =>
      have hatomic := operator_isAtomic hop
      rw [Formula.ofForm_atomic (hatomic rest).1 (hatomic rest).2,
        Formula.ofForm_atomic (hhead.lower_eq ▸ (hatomic rest').1)
          (hhead.lower_eq ▸ (hatomic rest').2)]
      exact atomicOfForm_toOption_eq hrest hhead (hop.imp_right .inl) scope
    | @predicate head rest rest' hop hword hrest =>
      have hword' := RecasedOperand.timeWord?_eq_none hrest hword
      rw [Formula.ofForm_atomic hop hword, Formula.ofForm_atomic hop hword']
      exact atomicOfForm_toOption_eq hrest rfl (.inr (.inr rfl)) scope

/-- `(AND (Not (p ?x)) (FORALL (?y) (Greater-Equal (Fuel ?y) (PLUS 1 2)))
(At Start (INCREASE (cost) 1)))`. -/
def mixedCase : Form :=
  .list [.atom "AND", .list [.atom "Not", .list [.atom "p", .atom "?x"]],
    .list [.atom "FORALL", .list [.atom "?y"],
      .list [.atom "Greater-Equal", .list [.atom "Fuel", .atom "?y"],
        .list [.atom "PLUS", .atom "1", .atom "2"]]],
    .list [.atom "At", .atom "Start",
      .list [.atom "INCREASE", .list [.atom "cost"], .atom "1"]]]

/-- The same with all keywords in lower case. -/
def lowerCase : Form :=
  .list [.atom "and", .list [.atom "not", .list [.atom "p", .atom "?x"]],
    .list [.atom "forall", .list [.atom "?y"],
      .list [.atom "greater-equal", .list [.atom "Fuel", .atom "?y"],
        .list [.atom "plus", .atom "1", .atom "2"]]],
    .list [.atom "at", .atom "start",
      .list [.atom "increase", .list [.atom "cost"], .atom "1"]]]

/-- Keywords of every kind in another case, each where it is one. -/
theorem Recased.ofForm_toOption_eq_mixedCase :
    Recased mixedCase lowerCase ∧ (ofForm [] lowerCase).isOk = true ∧
      (ofForm [] mixedCase).toOption = (ofForm [] lowerCase).toOption := by
  have hnegation : Recased (.list [.atom "Not", .list [.atom "p", .atom "?x"]])
      (.list [.atom "not", .list [.atom "p", .atom "?x"]]) :=
    .composite (by decide +kernel) (by decide +kernel) (fun _ => rfl) (.cons (.same _) .nil)
  have hcomparison : Recased
      (.list [.atom "Greater-Equal", .list [.atom "Fuel", .atom "?y"],
        .list [.atom "PLUS", .atom "1", .atom "2"]])
      (.list [.atom "greater-equal", .list [.atom "Fuel", .atom "?y"],
        .list [.atom "plus", .atom "1", .atom "2"]]) :=
    .operator (by decide +kernel) (by decide +kernel) (.cons (.same _) (.cons
      (.operator (by decide +kernel) (by decide +kernel) (.cons (.same _) (.cons (.same _) .nil)))
      .nil))
  have heffect : Recased (.list [.atom "INCREASE", .list [.atom "cost"], .atom "1"])
      (.list [.atom "increase", .list [.atom "cost"], .atom "1"]) :=
    .operator (by decide +kernel) (by decide +kernel)
      (.cons (.same _) (.cons (.same _) .nil))
  have hrecased : Recased mixedCase lowerCase :=
    .composite (by decide +kernel) (by decide +kernel)
      (fun h => absurd h (by decide +kernel))
      (.cons hnegation (.cons
        (.composite (by decide +kernel) (by decide +kernel) (fun _ => rfl)
          (.cons (.same _) (.cons hcomparison .nil)))
        (.cons (.timed (by decide +kernel) (by decide +kernel) (by decide +kernel) rfl heffect)
          .nil)))
  exact ⟨hrecased, by decide +kernel, hrecased.ofForm_toOption_eq []⟩

end Form

end PlanDiagram
