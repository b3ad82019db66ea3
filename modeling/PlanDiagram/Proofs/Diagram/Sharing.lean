import PlanDiagram.Proofs.Diagram.ComparisonTerms
import PlanDiagram.Proofs.Diagram.FunctionEllipses
import PlanDiagram.Proofs.Formula.LiteralText

/-!
# Shared operators

An operator with a literal is found again by a key, a text with bars in it. Signs may contain bars,
but literals do not, so the bars at the end of a key tell where its literals begin. Main statements:
two comparisons have the same key exactly if they show the same, and where nodes are assigned to
comparisons by their keys, two comparisons get the same node exactly if they have the same key.
-/

namespace PlanDiagram

namespace ComparisonUse

/-- The text of the left operand, if that is a literal. -/
def leftText? (use : ComparisonUse) : Option String :=
  use.arguments[0]?.bind Formula.literalText?

/-- The text of the right operand, if that is a literal. -/
def rightText? (use : ComparisonUse) : Option String :=
  use.arguments[1]?.bind Formula.literalText?

/-- What the operator of a comparison shows: the sign between the literals, behind the word `not` if
the comparison is negated. -/
def shownText (use : ComparisonUse) : String :=
  Formula.literalLabel (" ".intercalate (use.leftText?.toList ++
    (if use.sign = "" then [] else [use.sign]) ++ use.rightText?.toList)) use.negated

/-- Two comparisons show the same, and a literal is among it. -/
structure ShowSame (use use' : ComparisonUse) : Prop where
  literal : use.leftText?.isSome ∨ use.rightText?.isSome
  negated_eq : use.negated = use'.negated
  sign_eq : use.sign = use'.sign
  left_eq : use.leftText? = use'.leftText?
  right_eq : use.rightText? = use'.rightText?

/-- The text of a literal on the left is a word. -/
theorem isField_leftText? {use : ComparisonUse} : ∀ t ∈ use.leftText?, Text.IsField t := by
  intro t ht
  obtain ⟨f, -, hf⟩ := Option.bind_eq_some_iff.mp ht
  exact Formula.isField_of_literalText? hf

/-- The text of a literal on the right is a word. -/
theorem isField_rightText? {use : ComparisonUse} : ∀ t ∈ use.rightText?, Text.IsField t := by
  intro t ht
  obtain ⟨f, -, hf⟩ := Option.bind_eq_some_iff.mp ht
  exact Formula.isField_of_literalText? hf

/-- Comparisons that show the same have the same text. -/
theorem ShowSame.shownText_eq {use use' : ComparisonUse} (h : ShowSame use use') :
    use.shownText = use'.shownText := by
  rw [shownText, shownText, h.negated_eq, h.sign_eq, h.left_eq, h.right_eq]

end ComparisonUse

namespace Diagram

section

variable {left left' right right' : Option String}

/-- Squeezing leaves the text of a literal as it is, and likewise where there is none. -/
theorem squeeze_getD (h : ∀ t ∈ left, Text.IsField t) :
    Text.squeeze (left.getD "") = left.getD "" := by
  cases left with
  | none => rfl
  | some t => exact (h t rfl).squeeze_eq

/-- There are no bars in the text of a literal. -/
theorem bar_notMem_getD (h : ∀ t ∈ left, Text.IsField t) : '|' ∉ (left.getD "").toList := by
  cases left with
  | none => simp
  | some t => exact (h t rfl).bar

/-- The empty text tells that there is no literal. -/
theorem getD_eq_empty_iff (h : ∀ t ∈ left, Text.IsField t) : left.getD "" = "" ↔ left = none := by
  cases left with
  | none => simp
  | some t => simpa using (h t rfl).nonempty

/-- Literals with the same text are the same. -/
theorem eq_of_getD_eq (h : ∀ t ∈ left, Text.IsField t) (h' : ∀ t ∈ left', Text.IsField t)
    (heq : left.getD "" = left'.getD "") : left = left' := by
  cases left with
  | none => exact ((getD_eq_empty_iff h').mp heq.symm).symm
  | some t =>
    cases left' with
    | none => exact absurd heq (h t rfl).nonempty
    | some t' => exact congrArg some heq

/-- What stands before and behind a bar is known if there is no bar behind it. -/
theorem append_bar_inj {front front' back back' : String}
    (h : front ++ "|" ++ back = front' ++ "|" ++ back') (hback : '|' ∉ back.toList)
    (hback' : '|' ∉ back'.toList) : front = front' ∧ back = back' := by
  have hchars : front.toList ++ '|' :: back.toList = front'.toList ++ '|' :: back'.toList := by
    simpa using congrArg String.toList h
  have hcount : front.toList.count '|' = front'.toList.count '|' := by
    have hall := congrArg (List.count '|') hchars
    simpa [List.count_append, List.count_eq_zero.mpr hback, List.count_eq_zero.mpr hback']
      using hall
  obtain ⟨hfront, hback⟩ := append_cons_inj_of_count hchars hcount
  exact ⟨String.ext hfront, String.ext hback⟩

/-- A polarity and a sign with a bar between them are known from the whole. -/
theorem polarity_inj {negated negated' : Bool} {sign sign' : String}
    (h : (if negated then "True" else "False") ++ "|" ++ sign =
      (if negated' then "True" else "False") ++ "|" ++ sign') :
    negated = negated' ∧ sign = sign' := by
  cases negated <;> cases negated' <;> simp [← String.toList_inj] at h ⊢
  all_goals exact h

/-- There is a key exactly if there is a literal. -/
theorem comparisonKey?_eq {use : ComparisonUse} (hleft : ∀ t ∈ left, Text.IsField t)
    (hright : ∀ t ∈ right, Text.IsField t) :
    comparisonKey? use left right = if left = none ∧ right = none then none else
      some ((if use.negated then "True" else "False") ++ "|" ++ use.sign ++ "|" ++ left.getD "" ++
        "|" ++ right.getD "") := by
  simp only [comparisonKey?, squeeze_getD hleft, squeeze_getD hright, Bool.and_eq_true,
    beq_iff_eq, getD_eq_empty_iff hleft, getD_eq_empty_iff hright]

end

/-- The key of a comparison. -/
def keyOf? (use : ComparisonUse) : Option String :=
  comparisonKey? use use.leftText? use.rightText?

/-- Two comparisons have the same key exactly if they show the same. -/
theorem keyOf?_eq_iff {use use' : ComparisonUse} :
    (keyOf? use = keyOf? use' ∧ (keyOf? use).isSome) ↔ use.ShowSame use' := by
  have hleft := use.isField_leftText?
  have hright := use.isField_rightText?
  have hleft' := use'.isField_leftText?
  have hright' := use'.isField_rightText?
  rw [keyOf?, keyOf?, comparisonKey?_eq hleft hright, comparisonKey?_eq hleft' hright']
  have hliteral : (use.leftText?.isSome ∨ use.rightText?.isSome) ↔
      ¬ (use.leftText? = none ∧ use.rightText? = none) := by
    simp only [Option.isSome_iff_ne_none, ne_eq, ← not_and_or]
  by_cases hnone : use.leftText? = none ∧ use.rightText? = none
  · rw [if_pos hnone]
    exact ⟨fun h => absurd h.2 (by simp), fun h => absurd hnone (hliteral.mp h.literal)⟩
  · rw [if_neg hnone]
    constructor
    · rintro ⟨heq, -⟩
      by_cases hnone' : use'.leftText? = none ∧ use'.rightText? = none
      · rw [if_pos hnone'] at heq
        cases heq
      · rw [if_neg hnone', Option.some.injEq] at heq
        obtain ⟨heq, htextRight⟩ :=
          append_bar_inj heq (bar_notMem_getD hright) (bar_notMem_getD hright')
        obtain ⟨heq, htextLeft⟩ :=
          append_bar_inj heq (bar_notMem_getD hleft) (bar_notMem_getD hleft')
        obtain ⟨hnegated, hsign⟩ := polarity_inj heq
        exact ⟨hliteral.mpr hnone, hnegated, hsign, eq_of_getD_eq hleft hleft' htextLeft,
          eq_of_getD_eq hright hright' htextRight⟩
    · intro h
      rw [← h.left_eq, ← h.right_eq, ← h.negated_eq, ← h.sign_eq, if_neg hnone]
      exact ⟨rfl, rfl⟩

/-- The label of an operator is what the comparison shows. -/
theorem comparisonLabel_eq (use : ComparisonUse) :
    comparisonLabel use use.leftText? use.rightText? = use.shownText := by
  have hsign : Text.trim use.sign = use.sign := Keyword.trim_comparisonSign use.op
  have hempty : Text.trim "" = "" := rfl
  have htrim {t? : Option String} (h : ∀ t ∈ t?, Text.IsField t) (t : String) (ht : t? = some t) :
      Text.trim t = t ∧ t ≠ "" := ⟨(h t ht).trim_eq, (h t ht).nonempty⟩
  have hleft := htrim use.isField_leftText?
  have hright := htrim use.isField_rightText?
  unfold comparisonLabel ComparisonUse.shownText
  by_cases hnone : use.sign = ""
  · cases hl : use.leftText? <;> cases hr : use.rightText? <;>
      simp_all
  · cases hl : use.leftText? <;> cases hr : use.rightText? <;>
      simp_all

variable {α : Type} {known known' : String → Option (Node α)} {c : PlacedComparison α}
  {cs : List (PlacedComparison α)} {n : Node α} {ns first fresh : List (Node α)}

/-- A node is assigned to a comparison: the known one with its key, or else a new one with its
label, which is known afterwards. -/
inductive AssignsOne (known : String → Option (Node α)) (c : PlacedComparison α) (n : Node α) :
    (String → Option (Node α)) → List (Node α) → Prop
  | found (h : c.key.bind known = some n) : AssignsOne known c n known []
  | drawn (h : c.key.bind known = none) (htext : n.text = c.label) :
      AssignsOne known c n (fun k => if c.key = some k then some n else known k) [n]

/-- Nodes are assigned to comparisons in turn; the last list has the new ones. -/
inductive Assigns : (String → Option (Node α)) → List (PlacedComparison α) → List (Node α) →
    List (Node α) → Prop
  | nil (known : String → Option (Node α)) : Assigns known [] [] []
  | cons {known known' : String → Option (Node α)} {c : PlacedComparison α} {n : Node α}
      {cs : List (PlacedComparison α)} {ns first fresh : List (Node α)}
      (hone : AssignsOne known c n known' first) (hrest : Assigns known' cs ns fresh) :
      Assigns known (c :: cs) (n :: ns) (first ++ fresh)

/-- The known nodes are told apart by their keys, and from the new ones. -/
structure Separate (known : String → Option (Node α)) (fresh : List (Node α)) : Prop where
  injective : ∀ k k' n, known k = some n → known k' = some n → k = k'
  disjoint : ∀ k n, known k = some n → n ∉ fresh
  nodup : fresh.Nodup

/-- Where nothing is known, only the new nodes have to differ. -/
theorem Separate.of_nodup (h : fresh.Nodup) : Separate (fun _ => none) fresh :=
  ⟨by simp, by simp, h⟩

/-- Afterwards the node that is assigned is known under the key of the comparison, and nothing else
has changed. -/
theorem AssignsOne.known_eq (hone : AssignsOne known c n known' first) (k : String) :
    known' k = if c.key = some k then some n else known k := by
  cases hone with
  | found hfound =>
    split
    · rename_i hkey
      simpa only [hkey, Option.bind_some] using hfound
    · rfl
  | drawn => rfl

/-- Afterwards the node that is assigned is known under no other key. -/
theorem AssignsOne.known_eq_iff (hone : AssignsOne known c n known' first)
    (h : Separate known (first ++ fresh)) (k : String) : known' k = some n ↔ c.key = some k := by
  rw [hone.known_eq]
  split
  · simp [*]
  · rename_i hne
    refine ⟨fun hk => ?_, fun hkey => absurd hkey hne⟩
    cases hone with
    | found hfound =>
      obtain ⟨key, hkey, hknown⟩ := Option.bind_eq_some_iff.mp hfound
      rw [hkey, h.injective key k n hknown hk]
    | drawn => exact absurd List.mem_cons_self (h.disjoint k n hk)

/-- The node that is assigned is none of those that are drawn later. -/
theorem AssignsOne.notMem (hone : AssignsOne known c n known' first)
    (h : Separate known (first ++ fresh)) : n ∉ fresh := by
  cases hone with
  | found hfound =>
    obtain ⟨key, -, hknown⟩ := Option.bind_eq_some_iff.mp hfound
    exact h.disjoint key n hknown
  | drawn => exact (List.nodup_cons.mp h.nodup).1

/-- The nodes stay apart when one is assigned. -/
theorem Separate.of_assignsOne (h : Separate known (first ++ fresh))
    (hone : AssignsOne known c n known' first) : Separate known' fresh := by
  have hiff := hone.known_eq_iff h
  have hold (k : String) (m : Node α) (hm : m ≠ n) (hk : known' k = some m) : known k = some m := by
    rw [hone.known_eq] at hk
    split at hk
    · exact absurd (Option.some.inj hk).symm hm
    · exact hk
  refine ⟨fun k k' m hk hk' => ?_, fun k m hk => ?_, h.nodup.of_append_right⟩ <;>
    by_cases hm : m = n
  · subst hm
    exact Option.some.inj (((hiff k).mp hk).symm.trans ((hiff k').mp hk'))
  · exact h.injective k k' m (hold k m hm hk) (hold k' m hm hk')
  · exact hm ▸ hone.notMem h
  · exact fun hmem => h.disjoint k m (hold k m hm hk) (List.mem_append_right _ hmem)

/-- A node that is assigned is the known one with the key of the comparison, or a new one. -/
theorem Assigns.known_or_fresh (h : Assigns known cs ns fresh) :
    ∀ p ∈ cs.zip ns, p.1.key.bind known = some p.2 ∨
      p.2 ∈ fresh ∧ p.1.key.bind known = none := by
  induction h with
  | nil => simp
  | @cons known known' c n cs ns first fresh hone hrest ih =>
    have hfirst : c.key.bind known = some n ∨ n ∈ first ++ fresh ∧ c.key.bind known = none := by
      cases hone with
      | found hfound => exact .inl hfound
      | drawn hnew => exact .inr ⟨List.mem_cons_self, hnew⟩
    rw [List.zip_cons_cons, List.forall_mem_cons]
    refine ⟨hfirst, fun p hp => ?_⟩
    have hp := ih p hp
    cases hkey : p.1.key with
    | none =>
      rw [hkey] at hp
      exact .inr ⟨List.mem_append_right _ (hp.resolve_left (by simp)).1, rfl⟩
    | some k =>
      rw [hkey, Option.bind_some, hone.known_eq] at hp
      split at hp
      · rename_i hsame
        rw [hsame] at hfirst
        rcases hp with hp | ⟨-, hp⟩
        · exact Option.some.inj hp ▸ hfirst
        · cases hp
      · exact hp.imp_right fun hp => ⟨List.mem_append_right _ hp.1, hp.2⟩

/-- Two comparisons, an earlier and a later one, get the same node exactly if they have the same
key. -/
theorem Assigns.pairwise (h : Assigns known cs ns fresh) (hseparate : Separate known fresh) :
    (cs.zip ns).Pairwise fun p q => p.2 = q.2 ↔ p.1.key = q.1.key ∧ p.1.key.isSome := by
  induction h with
  | nil => exact .nil
  | @cons known known' c n cs ns first fresh hone hrest ih =>
    rw [List.zip_cons_cons, List.pairwise_cons]
    refine ⟨fun q hq => ?_, ih (hseparate.of_assignsOne hone)⟩
    have hiff := hone.known_eq_iff hseparate
    rcases hrest.known_or_fresh q hq with hq | ⟨hq, hnone⟩
    · -- the later node is known by then, under the key of its comparison
      obtain ⟨k, hkey, hk⟩ := Option.bind_eq_some_iff.mp hq
      rw [hkey, ← hiff k, hk, Option.some.injEq, eq_comm]
      exact ⟨fun heq => ⟨heq, by simp [(hiff k).mp (by rw [hk, heq])]⟩, And.left⟩
    · -- the later node is new by then, so nothing is known under the key of its comparison
      have hne : n ≠ q.2 := fun heq => hone.notMem hseparate (heq ▸ hq)
      refine ⟨fun heq => absurd heq hne, fun ⟨hkey, hsome⟩ => ?_⟩
      obtain ⟨k, hk⟩ := Option.isSome_iff_exists.mp hsome
      rw [← hkey, hk, Option.bind_some, (hiff k).mpr hk] at hnone
      cases hnone

/-- Two comparisons get the same node exactly if they are the same or have the same key. -/
theorem Assigns.eq_iff (h : Assigns known cs ns fresh) (hseparate : Separate known fresh)
    {i j : Nat} {c c' : PlacedComparison α} {n n' : Node α} (hc : cs[i]? = some c)
    (hn : ns[i]? = some n) (hc' : cs[j]? = some c') (hn' : ns[j]? = some n') :
    n = n' ↔ i = j ∨ c.key = c'.key ∧ c.key.isSome := by
  have hzip {i : Nat} {c : PlacedComparison α} {n : Node α} (hc : cs[i]? = some c)
      (hn : ns[i]? = some n) : (cs.zip ns)[i]? = some (c, n) :=
    List.getElem?_zip_eq_some.mpr ⟨hc, hn⟩
  have hlater {i j : Nat} {c c' : PlacedComparison α} {n n' : Node α} (hij : i < j)
      (hi : (cs.zip ns)[i]? = some (c, n)) (hj : (cs.zip ns)[j]? = some (c', n')) :
      n = n' ↔ c.key = c'.key ∧ c.key.isSome := by
    obtain ⟨hi, hp⟩ := List.getElem?_eq_some_iff.mp hi
    obtain ⟨hj, hq⟩ := List.getElem?_eq_some_iff.mp hj
    simpa only [hp, hq] using List.pairwise_iff_getElem.mp (h.pairwise hseparate) i j hi hj hij
  rcases Nat.lt_trichotomy i j with hij | rfl | hij
  · rw [hlater hij (hzip hc hn) (hzip hc' hn')]
    exact (or_iff_right hij.ne).symm
  · exact iff_of_true (Option.some.inj (hn.symm.trans hn')) (.inl rfl)
  · rw [eq_comm, hlater hij (hzip hc' hn') (hzip hc hn), eq_comm]
    refine Iff.trans (and_congr_right fun hkey => ?_) (or_iff_right hij.ne').symm
    rw [hkey]

/-- Every new node is assigned to a comparison. -/
theorem Assigns.fresh_subset (h : Assigns known cs ns fresh) : fresh ⊆ ns := by
  induction h with
  | nil => exact List.Subset.refl _
  | cons hone _ ih =>
    cases hone with
    | found => exact List.subset_cons_of_subset _ ih
    | drawn => exact List.cons_subset_cons _ ih

/-- Where comparisons with the same key have the same label, each node has the label of its
comparison. -/
theorem Assigns.text_eq (h : Assigns known cs ns fresh)
    (hknown : ∀ k n, known k = some n → ∀ c ∈ cs, c.key = some k → n.text = c.label)
    (hcs : ∀ c ∈ cs, ∀ c' ∈ cs, c.key = c'.key → c.key.isSome → c.label = c'.label) :
    List.Forall₂ (fun c n => n.text = c.label) cs ns := by
  induction h with
  | nil => exact .nil
  | @cons known known' c n cs ns first fresh hone hrest ih =>
    have htext : n.text = c.label := by
      cases hone with
      | found hfound =>
        obtain ⟨k, hkey, hk⟩ := Option.bind_eq_some_iff.mp hfound
        exact hknown k n hk c List.mem_cons_self hkey
      | drawn _ htext => exact htext
    refine .cons htext (ih (fun k m hk c' hc' hkey => ?_) fun c hc c' hc' =>
      hcs c (List.mem_cons_of_mem _ hc) c' (List.mem_cons_of_mem _ hc'))
    rw [hone.known_eq] at hk
    split at hk
    · rename_i hsame
      obtain rfl := Option.some.inj hk
      rw [htext]
      exact hcs c List.mem_cons_self c' (List.mem_cons_of_mem _ hc') (hsame.trans hkey.symm)
        (by rw [hsame]; rfl)
    · exact hknown k m hk c' (List.mem_cons_of_mem _ hc') hkey

end Diagram

end PlanDiagram
