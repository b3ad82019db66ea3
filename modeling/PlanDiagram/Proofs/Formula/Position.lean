import Mathlib.Algebra.Ring.Parity
import PlanDiagram.Formula.Occurrence

/-!
# Positions of occurrences

An expression stands at a position in a list of formulas: the place of a formula, and the places of
children that lead from it to the expression. Positions are ordered as lists of numbers are, which
is the order of the text. Main statement: what is collected from formulas is one record for each use
with no use above it, in the order of their positions, and a record is negated if the number of
negations above the use is odd. So a double negation anywhere above or at the uses plays no part,
and formulas may be collected in several portions.
-/

namespace PlanDiagram

namespace Formula

/-- Tells whether a formula is a use: a predicate, a comparison or a numeric effect. -/
def isUse : Formula → Bool
  | .predicate .. | .comparison .. | .numeric .. => true
  | _ => false

/-- Tells whether a formula is a negation. -/
def isNegation : Formula → Bool
  | .negation _ => true
  | _ => false

/-- The expression to which a path leads, from child to child. -/
def at? (f : Formula) : List Nat → Option Formula
  | [] => some f
  | place :: path => f.children[place]?.bind fun g => g.at? path

/-- The expressions that are passed on a path, without the one to which it leads. -/
def above (f : Formula) : List Nat → List Formula
  | [] => []
  | place :: path => f :: f.children[place]?.elim [] fun g => g.above path

/-- A path leads from a formula to a use without passing another one; the use is negated if an odd
number of negations is passed. -/
structure Sights (f : Formula) (path : List Nat) (use : Formula) (negated : Bool) : Prop where
  at_eq : f.at? path = some use
  isUse : use.isUse = true
  above_not_use : ∀ g ∈ f.above path, g.isUse = false
  negated_iff : negated = true ↔ Odd ((f.above path).countP isNegation)

/-- A formula in which one expression that is walked to is negated twice. -/
inductive Doubled : Formula → Formula → Prop
  | here (f : Formula) : Doubled f (.negation (.negation f))
  | negation {f g : Formula} (h : Doubled f g) : Doubled (.negation f) (.negation g)
  | function {f g : Formula} (name : String) (front back : List Formula) (h : Doubled f g) :
    Doubled (.function name (front ++ f :: back)) (.function name (front ++ g :: back))
  | arithmetic {f g : Formula} (op : String) (front back : List Formula) (h : Doubled f g) :
    Doubled (.arithmetic op (front ++ f :: back)) (.arithmetic op (front ++ g :: back))
  | composite {f g : Formula} (op : String) (front back : List Formula) (bound : List Parameter)
    (h : Doubled f g) :
    Doubled (.composite op (front ++ f :: back) bound) (.composite op (front ++ g :: back) bound)

variable {f g use : Formula} {path : List Nat} {place : Nat} {negated : Bool}

/-- The children of a formula are smaller than the formula. -/
theorem sizeOf_lt_of_mem_children (h : g ∈ f.children) : sizeOf g < sizeOf f := by
  have hoperands : g ∈ f.operands := by
    cases f <;> first | exact h | exact (List.mem_filter.mp h).1
  cases f with
  | parameter name type => cases h
  | number value => cases h
  | negation argument =>
    obtain rfl : g = argument := List.mem_singleton.mp h
    simp
  | _ =>
    have := List.sizeOf_lt_of_mem hoperands
    simp only [operands] at this
    simp only [predicate.sizeOf_spec, function.sizeOf_spec, numeric.sizeOf_spec,
      comparison.sizeOf_spec, arithmetic.sizeOf_spec, composite.sizeOf_spec]
    omega

/-- A use is sighted in itself, at its top and not negated. -/
theorem sights_iff_of_isUse (hf : f.isUse = true) :
    f.Sights path use negated ↔ path = [] ∧ use = f ∧ negated = false := by
  constructor
  · intro h
    cases path with
    | nil =>
      obtain rfl : f = use := Option.some.inj h.at_eq
      have hnot : ¬ negated = true := fun hneg => absurd (h.negated_iff.mp hneg) (by simp [above])
      exact ⟨rfl, rfl, Bool.eq_false_iff.mpr hnot⟩
    | cons place path =>
      have := h.above_not_use f List.mem_cons_self
      rw [hf] at this
      cases this
  · rintro ⟨rfl, rfl, rfl⟩
    exact ⟨rfl, hf, by simp [above], by simp [above]⟩

/-- In other formulas uses are sighted through the children, and a negation turns them. -/
theorem sights_iff_of_not_isUse (hf : f.isUse = false) :
    f.Sights path use negated ↔ ∃ place rest g, path = place :: rest ∧
      f.children[place]? = some g ∧ g.Sights rest use (f.isNegation ^^ negated) := by
  constructor
  · intro h
    cases path with
    | nil =>
      obtain rfl : f = use := Option.some.inj h.at_eq
      have := h.isUse
      rw [hf] at this
      cases this
    | cons place rest =>
      obtain ⟨g, hg, hat⟩ := Option.bind_eq_some_iff.mp h.at_eq
      have habove : f.above (place :: rest) = f :: g.above rest := by
        simp [above, hg]
      refine ⟨place, rest, g, rfl, hg, hat, h.isUse, fun e he => ?_, ?_⟩
      · exact h.above_not_use e (habove ▸ List.mem_cons_of_mem f he)
      · have := h.negated_iff
        rw [habove, List.countP_cons] at this
        cases hneg : f.isNegation <;> cases negated <;>
          simp_all [Nat.odd_add_one]
  · rintro ⟨place, rest, g, rfl, hg, h⟩
    have habove : f.above (place :: rest) = f :: g.above rest := by
      simp [above, hg]
    refine ⟨Option.bind_eq_some_iff.mpr ⟨g, hg, h.at_eq⟩, h.isUse, ?_, ?_⟩
    · rw [habove]
      exact List.forall_mem_cons.mpr ⟨hf, h.above_not_use⟩
    · have := h.negated_iff
      rw [habove, List.countP_cons]
      cases hneg : f.isNegation <;> cases negated <;>
        simp_all [Nat.odd_add_one]

end Formula

/-- Where a use was found in a list of formulas, and with which polarity. -/
structure Sighting where
  position : List Nat
  use : Formula
  negated : Bool

namespace Sighting

/-- The polarity is turned, if `negated` says so. -/
def turn (negated : Bool) (s : Sighting) : Sighting :=
  { s with negated := negated ^^ s.negated }

/-- The same use, seen from a formula of which the one before is a child. -/
def under (place : Nat) (s : Sighting) : Sighting :=
  { s with position := place :: s.position }

/-- The record of a predicate. -/
def literal? (role : Role) (s : Sighting) : Option LiteralUse :=
  match s.use with
  | .predicate name arguments => some ⟨name, arguments, s.negated, role⟩
  | _ => none

/-- The record of a comparison. -/
def comparison? (role : Role) (s : Sighting) : Option ComparisonUse :=
  match s.use with
  | .comparison op arguments => some ⟨op, arguments, s.negated, role⟩
  | _ => none

/-- The record of a numeric effect. -/
def change? (role : Role) (s : Sighting) : Option ChangeUse :=
  match s.use with
  | .numeric change arguments => some ⟨change, arguments, s.negated, role⟩
  | _ => none

/-- A use is found in a list of formulas if it is sighted in one of them. -/
def IsIn (formulas : List Formula) (s : Sighting) : Prop :=
  ∃ place path f, s.position = place :: path ∧ formulas[place]? = some f ∧
    f.Sights path s.use s.negated

end Sighting

namespace Occurrences

/-- The records of uses, sorted by their kinds. -/
def ofSightings (role : Role) (sightings : List Sighting) : Occurrences where
  literals := sightings.filterMap (·.literal? role)
  comparisons := sightings.filterMap (·.comparison? role)
  changes := sightings.filterMap (·.change? role)

/-- What is found in nothing adds nothing. -/
theorem append_nil (found : Occurrences) : found ++ ({} : Occurrences) = found := by
  change Occurrences.append found {} = found
  simp [Occurrences.append]

/-- Findings are put together in any grouping. -/
theorem append_assoc (first next last : Occurrences) :
    first ++ next ++ last = first ++ (next ++ last) := by
  change Occurrences.append (.append first next) last = .append first (.append next last)
  simp [Occurrences.append]

/-- The records of uses in two lists are those of the one followed by those of the other. -/
theorem ofSightings_append (role : Role) (first next : List Sighting) :
    ofSightings role (first ++ next) = ofSightings role first ++ ofSightings role next := by
  change _ = Occurrences.append _ _
  simp [ofSightings, Occurrences.append]

/-- Formulas are walked through one after the other. -/
theorem ofFormulas_append (role : Role) (negated : Bool) (first next : List Formula) :
    ofFormulas role negated (first ++ next) =
      ofFormulas role negated first ++ ofFormulas role negated next := by
  induction first with
  | nil => rfl
  | cons f rest ih =>
    rw [List.cons_append, ofFormulas, ofFormulas, ih, append_assoc]

/-- Parameters among formulas play no part. -/
theorem ofFormulas_filter_isParameter (role : Role) (negated : Bool) (formulas : List Formula) :
    ofFormulas role negated (formulas.filter (!·.isParameter)) =
      ofFormulas role negated formulas := by
  induction formulas with
  | nil => rfl
  | cons f rest ih =>
    cases hf : f.isParameter with
    | false => rw [List.filter_cons_of_pos (by simp [hf]), ofFormulas, ofFormulas, ih]
    | true =>
      rw [List.filter_cons_of_neg (by simp [hf]), ih, ofFormulas]
      cases f <;> first | rfl | cases hf

/-- Formulas that are no uses are walked through to their children, and a negation turns the
polarity. -/
theorem ofFormula_of_not_isUse {f : Formula} (hf : f.isUse = false) (role : Role)
    (negated : Bool) :
    ofFormula role negated f = ofFormulas role (negated ^^ f.isNegation) f.children := by
  cases f with
  | predicate name arguments => cases hf
  | comparison op arguments => cases hf
  | numeric change arguments => cases hf
  | parameter name type => rfl
  | number value => rfl
  | negation argument =>
    rw [ofFormula, Formula.isNegation, Bool.xor_true]
    exact (append_nil _).symm
  | function name arguments =>
    change ofFormulas role negated arguments = ofFormulas role (negated ^^ false) _
    rw [Bool.xor_false]
    exact (ofFormulas_filter_isParameter role negated arguments).symm
  | arithmetic op arguments =>
    change ofFormulas role negated arguments = ofFormulas role (negated ^^ false) _
    rw [Bool.xor_false]
    exact (ofFormulas_filter_isParameter role negated arguments).symm
  | composite op items bound =>
    change ofFormulas role negated items = ofFormulas role (negated ^^ false) items
    rw [Bool.xor_false]

/-- A use is collected by itself. -/
theorem ofFormula_of_isUse {f : Formula} (hf : f.isUse = true) (role : Role) (negated : Bool) :
    ofFormula role negated f = ofSightings role [⟨[], f, negated⟩] := by
  cases f <;> first | rfl | cases hf

/-- What is collected from a formula, listed by the positions below it. -/
structure Listing (f : Formula) (sightings : List Sighting) : Prop where
  sorted : (sightings.map Sighting.position).Pairwise (· < ·)
  mem_iff : ∀ s, s ∈ sightings ↔ f.Sights s.position s.use s.negated
  ofFormula_eq : ∀ role negated,
    ofFormula role negated f = ofSightings role (sightings.map (.turn negated))

/-- What is collected from a list of formulas, listed by positions; the first formula stands at
`start`. -/
structure ListingFrom (start : Nat) (formulas : List Formula) (sightings : List Sighting) :
    Prop where
  sorted : (sightings.map Sighting.position).Pairwise (· < ·)
  mem_iff : ∀ s, s ∈ sightings ↔ ∃ place path f, s.position = (start + place) :: path ∧
    formulas[place]? = some f ∧ f.Sights path s.use s.negated
  ofFormulas_eq : ∀ role negated,
    ofFormulas role negated formulas = ofSightings role (sightings.map (.turn negated))

/-- No formulas give nothing. -/
theorem ListingFrom.nil (start : Nat) : ListingFrom start [] [] where
  sorted := .nil
  mem_iff s := by simp
  ofFormulas_eq _ _ := rfl

/-- The uses in the first formula come before those in the others. -/
theorem ListingFrom.cons {start : Nat} {f : Formula} {rest : List Formula}
    {first others : List Sighting} (h : Listing f first)
    (hrest : ListingFrom (start + 1) rest others) :
    ListingFrom start (f :: rest) (first.map (.under start) ++ others) where
  sorted := by
    rw [List.map_append, List.pairwise_append]
    refine ⟨?_, hrest.sorted, ?_⟩
    · have hsorted := h.sorted
      rw [List.pairwise_map] at hsorted ⊢
      rw [List.pairwise_map]
      refine hsorted.imp fun hlt => ?_
      exact List.cons_lt_cons_iff.mpr (.inr ⟨rfl, hlt⟩)
    · intro p hp q hq
      obtain ⟨s, hs, rfl⟩ := List.mem_map.mp hp
      obtain ⟨t, -, rfl⟩ := List.mem_map.mp hs
      obtain ⟨u, hu, rfl⟩ := List.mem_map.mp hq
      obtain ⟨place, path, -, hposition, -, -⟩ := (hrest.mem_iff u).mp hu
      rw [hposition]
      exact List.cons_lt_cons_iff.mpr (.inl (by omega))
  mem_iff s := by
    rw [List.mem_append, List.mem_map]
    constructor
    · rintro (⟨t, ht, rfl⟩ | hs)
      · exact ⟨0, t.position, f, rfl, rfl, (h.mem_iff t).mp ht⟩
      · obtain ⟨place, path, g, hposition, hg, hsights⟩ := (hrest.mem_iff s).mp hs
        exact ⟨place + 1, path, g, by rw [hposition]; congr 1; omega, hg, hsights⟩
    · rintro ⟨place, path, g, hposition, hg, hsights⟩
      cases place with
      | zero =>
        obtain rfl : f = g := Option.some.inj hg
        refine .inl ⟨⟨path, s.use, s.negated⟩, (h.mem_iff _).mpr hsights, ?_⟩
        rw [Sighting.under]
        obtain ⟨position, use, negated⟩ := s
        exact congrArg (Sighting.mk · use negated) hposition.symm
      | succ place =>
        refine .inr ((hrest.mem_iff s).mpr ⟨place, path, g, ?_, hg, hsights⟩)
        rw [hposition]
        congr 1
        omega
  ofFormulas_eq role negated := by
    have hunder : ofSightings role (first.map (.turn negated)) =
        ofSightings role ((first.map (.under start)).map (.turn negated)) := by
      simp only [ofSightings, List.filterMap_map]
      rfl
    rw [ofFormulas, h.ofFormula_eq, hrest.ofFormulas_eq, hunder, List.map_append,
      ofSightings_append]

/-- Uses are listed in a list of formulas if they are in each of them. -/
theorem exists_listingFrom {formulas : List Formula}
    (h : ∀ f ∈ formulas, ∃ sightings, Listing f sightings) (start : Nat) :
    ∃ sightings, ListingFrom start formulas sightings := by
  induction formulas generalizing start with
  | nil => exact ⟨[], .nil start⟩
  | cons f rest ih =>
    obtain ⟨hf, hrest⟩ := List.forall_mem_cons.mp h
    obtain ⟨first, hfirst⟩ := hf
    obtain ⟨others, hothers⟩ := ih hrest (start + 1)
    exact ⟨_, .cons hfirst hothers⟩

/-- A use is all that is listed of it. -/
theorem listing_of_isUse {f : Formula} (hf : f.isUse = true) : Listing f [⟨[], f, false⟩] where
  sorted := List.pairwise_singleton _ _
  mem_iff s := by
    rw [Formula.sights_iff_of_isUse hf, List.mem_singleton]
    obtain ⟨position, use, negated⟩ := s
    simp
  ofFormula_eq role negated := by
    rw [ofFormula_of_isUse hf]
    simp [Sighting.turn]

/-- What is listed of a formula that is no use is listed of its children. -/
theorem Listing.of_children {f : Formula} (hf : f.isUse = false) {sightings : List Sighting}
    (h : ListingFrom 0 f.children sightings) :
    Listing f (sightings.map (.turn f.isNegation)) where
  sorted := by
    rw [List.map_map]
    exact h.sorted
  mem_iff s := by
    rw [Formula.sights_iff_of_not_isUse hf, List.mem_map]
    constructor
    · rintro ⟨t, ht, rfl⟩
      obtain ⟨place, path, g, hposition, hg, hsights⟩ := (h.mem_iff t).mp ht
      refine ⟨place, path, g, by rw [Nat.zero_add] at hposition; exact hposition, hg, ?_⟩
      simpa [Sighting.turn] using hsights
    · rintro ⟨place, path, g, hposition, hg, hsights⟩
      refine ⟨⟨s.position, s.use, f.isNegation ^^ s.negated⟩, ?_, by simp [Sighting.turn]⟩
      exact (h.mem_iff _).mpr ⟨place, path, g, by rw [Nat.zero_add]; exact hposition, hg, hsights⟩
  ofFormula_eq role negated := by
    rw [ofFormula_of_not_isUse hf, h.ofFormulas_eq, List.map_map]
    congr 2
    funext s
    simp [Sighting.turn]

/-- The uses in every formula can be listed. -/
theorem exists_listing (f : Formula) : ∃ sightings, Listing f sightings := by
  cases hf : f.isUse with
  | true => exact ⟨_, listing_of_isUse hf⟩
  | false =>
    obtain ⟨sightings, h⟩ := exists_listingFrom (fun g hg => exists_listing g) 0
    exact ⟨_, Listing.of_children hf h⟩
termination_by sizeOf f
decreasing_by exact Formula.sizeOf_lt_of_mem_children hg

/-- A double negation leaves what is collected as it is. -/
theorem ofFormula_of_doubled {f g : Formula} (h : f.Doubled g) (role : Role) (negated : Bool) :
    ofFormula role negated g = ofFormula role negated f := by
  induction h generalizing negated with
  | here f => rw [ofFormula, ofFormula, Bool.not_not]
  | negation _ ih => exact ih (!negated)
  | function name front back _ ih =>
    rw [ofFormula, ofFormula, ofFormulas_append, ofFormulas_append, ofFormulas, ofFormulas, ih]
  | arithmetic op front back _ ih =>
    rw [ofFormula, ofFormula, ofFormulas_append, ofFormulas_append, ofFormulas, ofFormulas, ih]
  | composite op front back bound _ ih =>
    rw [ofFormula, ofFormula, ofFormulas_append, ofFormulas_append, ofFormulas, ofFormulas, ih]

/-- Formulas may be collected in portions. -/
theorem collect_append (found : Occurrences) (role : Role) (first next : List (Option Formula)) :
    found.collect role (first ++ next) = (found.collect role first).collect role next := by
  rw [collect, collect, collect, List.filterMap_append, ofFormulas_append, append_assoc]

/-- A double negation in the first formula leaves what is collected as it is. -/
theorem collect_doubled {f g : Formula} (h : f.Doubled g) (found : Occurrences) (role : Role)
    (rest : List (Option Formula)) :
    found.collect role (some g :: rest) = found.collect role (some f :: rest) := by
  change found ++ (ofFormula role false g ++ ofFormulas role false (rest.filterMap id)) =
    found ++ (ofFormula role false f ++ ofFormulas role false (rest.filterMap id))
  rw [ofFormula_of_doubled h]

/-- What is collected from formulas, some of which may be missing, is what was found before,
followed by one record for each use in the formulas in the order of positions. A double negation of
an expression that is walked to plays no part, nor does collecting in portions. -/
theorem collect_eq_sightings (found : Occurrences) (role : Role)
    (formulas : List (Option Formula)) :
    (∃ sightings : List Sighting,
      (sightings.map Sighting.position).Pairwise (· < ·) ∧
      (∀ s, s ∈ sightings ↔ s.IsIn (formulas.filterMap id)) ∧
      (found.collect role formulas).literals =
        found.literals ++ sightings.filterMap (·.literal? role) ∧
      (found.collect role formulas).comparisons =
        found.comparisons ++ sightings.filterMap (·.comparison? role) ∧
      (found.collect role formulas).changes =
        found.changes ++ sightings.filterMap (·.change? role)) ∧
    (∀ f g, f.Doubled g → ∀ rest,
      found.collect role (formulas ++ some g :: rest) =
        found.collect role (formulas ++ some f :: rest)) ∧
    (∀ more,
      found.collect role (formulas ++ more) = (found.collect role formulas).collect role more) := by
  refine ⟨?_, fun f g h rest => ?_, collect_append found role formulas⟩
  · obtain ⟨sightings, h⟩ := exists_listingFrom
      (fun f (_ : f ∈ formulas.filterMap id) => exists_listing f) 0
    have hcollect : found.collect role formulas = found ++ ofSightings role sightings := by
      rw [collect, h.ofFormulas_eq]
      congr 2
      exact List.map_id'' (fun s => by simp [Sighting.turn]) sightings
    refine ⟨sightings, h.sorted, fun s => ?_, ?_⟩
    · simp only [h.mem_iff, Nat.zero_add, Sighting.IsIn]
    · rw [hcollect]
      exact ⟨rfl, rfl, rfl⟩
  · rw [collect_append, collect_append, collect_doubled h]

/-- A condition that holds unless a door is open and the battery is low. -/
def guardedCondition (inner : Formula) : Formula :=
  .composite "and" [
    .predicate "ready" [],
    .negation (.composite "or" [.predicate "open" [.parameter "d" .null], inner] [])] []

/-- The two uses below a negation are negated, the one before it is not, and a double negation of
one of them changes nothing. -/
theorem collect_eq_sightings_guardedCondition :
    let low : Formula := .comparison "<" [.function "battery" [], .number 3.0]
    let found := ({} : Occurrences).collect .precondition [none, some (guardedCondition low)]
    (guardedCondition low).Doubled (guardedCondition (.negation (.negation low))) ∧
      ({} : Occurrences).collect .precondition
        [none, some (guardedCondition (.negation (.negation low)))] = found ∧
      found.literals.map (fun l => (l.name, l.negated)) = [("ready", false), ("open", true)] ∧
      found.comparisons.map (fun c => (c.op, c.negated)) = [("<", true)] := by
  intro low found
  have hdoubled : (guardedCondition low).Doubled (guardedCondition (.negation (.negation low))) :=
    .composite "and" [.predicate "ready" []] [] [] <| .negation <|
      .composite "or" [.predicate "open" [.parameter "d" .null]] [] [] (.here low)
  exact ⟨hdoubled,
    (collect_eq_sightings {} .precondition [none]).2.1 _ _ hdoubled [], rfl, rfl⟩

end Occurrences

end PlanDiagram
