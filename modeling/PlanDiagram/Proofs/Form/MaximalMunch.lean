import Mathlib.Data.List.Chain
import PlanDiagram.Proofs.Form.RoundTrip

/-!
# Tokens as the only split of a text

A text can be written as gaps and tokens in turn. Gaps hold blanks only, and one between two words
is not empty. This says nothing about how a text is scanned, but it leaves no choice. Main
statement: the scanner gives the one list of tokens into which a text can be split, and where a word
ends between two texts the tokens of both are those of the one followed by those of the other.
-/

namespace PlanDiagram.Token

/-- Tells whether a token is a word, and no parenthesis. -/
def IsWord : Token → Prop
  | .word _ => True
  | _ => False

/-- A token that can stand in a text: a parenthesis, or a word that is not empty and has neither
blanks nor parentheses. -/
def IsLexical : Token → Prop
  | .word text => text ≠ "" ∧ ∀ c ∈ text.toList, isWordChar c = true
  | _ => True

/-- What may stand between tokens: blanks, or nothing. -/
def IsGap (cs : List Char) : Prop :=
  ∀ c ∈ cs, Text.isBlank c = true

/-- A gap followed by tokens, each with the gap behind it. -/
def layOut (gap : List Char) : List (Token × List Char) → List Char
  | [] => gap
  | (t, next) :: rest => gap ++ t.text.toList ++ layOut next rest

/-- Gaps and tokens that can be told apart again: each is what it may be, and two words do not touch
each other. -/
structure WellSpaced (gap : List Char) (parts : List (Token × List Char)) : Prop where
  isGap : IsGap gap
  isGap_behind : ∀ part ∈ parts, IsGap part.2
  isLexical : ∀ part ∈ parts, part.1.IsLexical
  words_apart : parts.IsChain fun a b => a.1.IsWord → b.1.IsWord → a.2 ≠ []

/-- A text can be written as tokens with gaps around them. -/
def Splits (cs : List Char) (ts : List Token) : Prop :=
  ∃ gap parts, cs = layOut gap parts ∧ ts = parts.map Prod.fst ∧ WellSpaced gap parts

/-- A word starts with a character that goes on with a word. -/
theorem endsWord_of_isWord {t : Token} (hlexical : t.IsLexical) (hword : t.IsWord)
    (rest : List Char) : endsWord (t.text.toList ++ rest) = false := by
  cases t with
  | word text =>
    obtain ⟨hne, hchars⟩ := hlexical
    cases hcs : text.toList with
    | nil => exact absurd (by rw [← String.ofList_toList (s := text), hcs]) hne
    | cons c cs =>
      have hc := hchars c (by rw [hcs]; exact List.mem_cons_self)
      simp only [isWordChar, Bool.and_eq_true, Bool.not_eq_true', bne_iff_ne, ne_eq] at hc
      simp [Token.text, endsWord, hcs, hc]
  | opening => cases hword
  | closing => cases hword

/-- A parenthesis ends a word. -/
theorem endsWord_of_not_isWord {t : Token} (h : ¬ t.IsWord) (rest : List Char) :
    endsWord (t.text.toList ++ rest) = true := by
  cases t with
  | word text => exact absurd trivial h
  | opening => rfl
  | closing => rfl

/-- A word ends before a gap that is not empty, and before a parenthesis. -/
theorem endsWord_layOut {gap : List Char} {parts : List (Token × List Char)}
    (h : WellSpaced gap parts) :
    endsWord (layOut gap parts) = true ↔ ∀ part ∈ parts.head?, part.1.IsWord → gap ≠ [] := by
  cases gap with
  | cons c gap =>
    have hblank := h.isGap c List.mem_cons_self
    cases parts <;> simp [layOut, endsWord, hblank]
  | nil =>
    cases parts with
    | nil => simp [layOut, endsWord]
    | cons part rest =>
      obtain ⟨t, next⟩ := part
      have hlexical := h.isLexical _ List.mem_cons_self
      by_cases hword : t.IsWord
      · simp [layOut, endsWord_of_isWord hlexical hword, hword]
      · simp [layOut, endsWord_of_not_isWord hword, hword]

/-- A word ends before a text that starts where a word ends, or is empty, if it ends before what
follows. -/
theorem endsWord_append {cs rest : List Char} (h : endsWord cs = true)
    (hrest : endsWord rest = true) : endsWord (cs ++ rest) = true := by
  cases cs with
  | nil => exact hrest
  | cons c cs => exact h

/-- The first token is set apart from what follows if a word ends before it. -/
theorem wellSpaced_cons {gap next : List Char} {t : Token} {rest : List (Token × List Char)} :
    WellSpaced gap ((t, next) :: rest) ↔
      IsGap gap ∧ t.IsLexical ∧ (t.IsWord → endsWord (layOut next rest) = true) ∧
        WellSpaced next rest := by
  constructor
  · rintro ⟨hgap, hbehind, hlexical, happart⟩
    obtain ⟨hnext, hbehind⟩ := List.forall_mem_cons.mp hbehind
    obtain ⟨ht, hlexical⟩ := List.forall_mem_cons.mp hlexical
    obtain ⟨hfirst, happart⟩ := List.isChain_cons.mp happart
    have hrest : WellSpaced next rest := ⟨hnext, hbehind, hlexical, happart⟩
    exact ⟨hgap, ht, fun hword => (endsWord_layOut hrest).mpr fun part hpart =>
      hfirst part hpart hword, hrest⟩
  · rintro ⟨hgap, ht, hends, hrest⟩
    refine ⟨hgap, List.forall_mem_cons.mpr ⟨hrest.isGap, hrest.isGap_behind⟩,
      List.forall_mem_cons.mpr ⟨ht, hrest.isLexical⟩, List.isChain_cons.mpr ⟨?_, hrest.words_apart⟩⟩
    exact fun part hpart hword => (endsWord_layOut hrest).mp (hends hword) part hpart

/-- The blanks of a gap give no token. -/
theorem scan_gap {gap : List Char} (h : IsGap gap) (rest : List Char) :
    scan [] (gap ++ rest) = scan [] rest := by
  induction gap with
  | nil => rfl
  | cons c gap ih =>
    obtain ⟨hc, hgap⟩ := List.forall_mem_cons.mp h
    simp [scan, hc, ih hgap]

/-- A token that is set apart from what follows is the first one. -/
theorem scan_text {t : Token} {rest : List Char} (h : t.IsLexical)
    (hends : t.IsWord → endsWord rest = true) :
    scan [] (t.text.toList ++ rest) = t :: scan [] rest := by
  cases t with
  | word text => exact scan_run rest h.1 h.2 (hends trivial)
  | opening => rfl
  | closing => rfl

/-- Tokens with gaps around them are scanned as they are. -/
theorem scan_layOut {gap : List Char} {parts : List (Token × List Char)}
    (h : WellSpaced gap parts) : scan [] (layOut gap parts) = parts.map Prod.fst := by
  induction parts generalizing gap with
  | nil =>
    have hgap := scan_gap h.isGap []
    rwa [List.append_nil] at hgap
  | cons part rest ih =>
    obtain ⟨t, next⟩ := part
    obtain ⟨hgap, ht, hends, hrest⟩ := wellSpaced_cons.mp h
    rw [layOut, List.append_assoc, scan_gap hgap, scan_text ht hends, ih hrest, List.map_cons]

namespace Splits

variable {cs back : List Char} {ts us : List Token}

/-- The empty text has no tokens. -/
theorem nil : Splits [] [] :=
  ⟨[], [], rfl, rfl, ⟨by simp [IsGap], by simp, by simp, List.isChain_nil⟩⟩

/-- A gap in front widens the first gap. -/
theorem gap {front : List Char} (hfront : IsGap front) (h : Splits cs ts) :
    Splits (front ++ cs) ts := by
  obtain ⟨gap, parts, rfl, rfl, hspaced⟩ := h
  refine ⟨front ++ gap, parts, by cases parts <;> simp [layOut], rfl, ?_⟩
  exact { hspaced with isGap := List.forall_mem_append.mpr ⟨hfront, hspaced.isGap⟩ }

/-- A token in front, set apart from what follows. -/
theorem token {t : Token} (ht : t.IsLexical) (hends : t.IsWord → endsWord cs = true)
    (h : Splits cs ts) : Splits (t.text.toList ++ cs) (t :: ts) := by
  obtain ⟨gap, parts, rfl, rfl, hspaced⟩ := h
  exact ⟨[], (t, gap) :: parts, rfl, rfl, wellSpaced_cons.mpr ⟨by simp [IsGap], ht, hends, hspaced⟩⟩

/-- The characters of a word in front, last first, where a word ends. -/
theorem flush {pending : List Char} (hpending : ∀ c ∈ pending, isWordChar c = true)
    (hends : endsWord cs = true) (h : Splits cs ts) :
    Splits (pending.reverse ++ cs) (flush pending ts) := by
  unfold Token.flush
  split
  · rename_i hempty
    rw [List.isEmpty_iff.mp hempty]
    exact h
  · rename_i hne
    have hlexical : IsLexical (.word (String.ofList pending.reverse)) := by
      refine ⟨fun hnil => hne ?_, by simpa using hpending⟩
      rw [← String.toList_inj] at hnil
      simpa using hnil
    have htoken := h.token hlexical fun _ => hends
    rwa [text, String.toList_ofList] at htoken

/-- Where a word ends between two texts, they are split one after the other. -/
theorem append (h : Splits cs ts) (hback : Splits back us) (hends : endsWord back = true) :
    Splits (cs ++ back) (ts ++ us) := by
  obtain ⟨gap, parts, rfl, rfl, hspaced⟩ := h
  induction parts generalizing gap with
  | nil => exact hback.gap hspaced.isGap
  | cons part rest ih =>
    obtain ⟨t, next⟩ := part
    obtain ⟨hgap, ht, hword, hrest⟩ := wellSpaced_cons.mp hspaced
    have htoken := ((ih next hrest).token ht fun h => endsWord_append (hword h) hends).gap hgap
    simpa [layOut] using htoken

end Splits

/-- A text is split into what the scanner makes of it, also with the characters of an unfinished
word in front. -/
theorem splits_scan {pending : List Char} (hpending : ∀ c ∈ pending, isWordChar c = true)
    (cs : List Char) : Splits (pending.reverse ++ cs) (scan pending cs) := by
  induction cs generalizing pending with
  | nil => exact Splits.nil.flush hpending rfl
  | cons c rest ih =>
    have hrest : Splits rest (scan [] rest) := by simpa using @ih []
    unfold scan
    split
    · rename_i hblank
      have hgap : Splits ([c] ++ rest) (scan [] rest) := hrest.gap (by simpa [IsGap] using hblank)
      exact hgap.flush hpending (by simp [endsWord, hblank])
    · rename_i hblank
      split
      · rename_i hopening
        obtain rfl := eq_of_beq hopening
        exact (hrest.token (t := .opening) trivial False.elim).flush hpending rfl
      · rename_i hopening
        split
        · rename_i hclosing
          obtain rfl := eq_of_beq hclosing
          exact (hrest.token (t := .closing) trivial False.elim).flush hpending rfl
        · rename_i hclosing
          have hc : isWordChar c = true := by simp_all [isWordChar]
          simpa using ih (List.forall_mem_cons.mpr ⟨hc, hpending⟩)

/-- A text is split in one way only. -/
theorem tokens_eq_iff {cs : List Char} {ts : List Token} : tokens cs = ts ↔ Splits cs ts := by
  constructor
  · rintro rfl
    exact @splits_scan [] (by simp) cs
  · rintro ⟨gap, parts, rfl, rfl, hspaced⟩
    exact scan_layOut hspaced

/-- What follows where a word ends is scanned on its own. -/
theorem tokens_append {front back : List Char} (h : endsWord back = true) :
    tokens (front ++ back) = tokens front ++ tokens back :=
  tokens_eq_iff.mpr ((tokens_eq_iff.mp rfl).append (tokens_eq_iff.mp rfl) h)

/-- What follows a blank or a parenthesis is scanned on its own. -/
theorem tokens_append_of_reverse {front back : List Char} (h : endsWord front.reverse = true) :
    tokens (front ++ back) = tokens front ++ tokens back := by
  rcases List.eq_nil_or_concat front with rfl | ⟨init, c, rfl⟩
  · rfl
  · have hc : (Text.isBlank c = true ∨ c = '(') ∨ c = ')' := by simpa [endsWord] using h
    have hends (rest : List Char) : endsWord (c :: rest) = true := by simpa [endsWord] using hc
    have hlast : tokens (c :: back) = tokens [c] ++ tokens back := by
      rcases hc with (hblank | rfl) | rfl
      · simp [tokens, scan, hblank]
      · rfl
      · rfl
    calc tokens (init.concat c ++ back)
        = tokens (init ++ c :: back) := by simp
      _ = tokens init ++ (tokens [c] ++ tokens back) := by rw [tokens_append (hends back), hlast]
      _ = tokens (init.concat c) ++ tokens back := by
        rw [List.concat_eq_append, tokens_append (hends []), List.append_assoc]

/-- Scanning is the only way to split a text. The tokens are those of every splitting of the text
into gaps, parentheses and words, there is such a splitting, and where one text ends with a blank or
a parenthesis or the next one starts with one, the tokens of both are those of the one followed by
those of the other. -/
theorem tokens_maximal (cs : List Char) :
    (∀ ts, tokens cs = ts ↔ Splits cs ts) ∧
      ∀ back, endsWord cs.reverse = true ∨ endsWord back = true →
        tokens (cs ++ back) = tokens cs ++ tokens back :=
  ⟨fun _ => tokens_eq_iff, fun _ h => h.elim tokens_append_of_reverse tokens_append⟩

/-- A word right behind a parenthesis is scanned on its own, and so is one behind a wide space. -/
theorem tokens_maximal_afterParenthesis :
    endsWord "(f ?x)".toList.reverse = true ∧ endsWord "y\u3000;z".toList = false ∧
      Splits "y\u3000;z".toList [.word "y", .word ";z"] ∧
      tokens ("(f ?x)".toList ++ "y\u3000;z".toList) =
        tokens "(f ?x)".toList ++ tokens "y\u3000;z".toList := by
  have hends : endsWord "(f ?x)".toList.reverse = true := by decide
  exact ⟨hends, by decide, ((tokens_maximal _).1 _).mp (by decide),
    (tokens_maximal _).2 _ (.inl hends)⟩

end PlanDiagram.Token
