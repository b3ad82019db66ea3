import PlanDiagram.Proofs.Formula.Layout

/-!
# Lexical scoping

An atom that stands as an argument takes its type from the innermost list of variables around it
that binds its name, and from the scope if none does. The arguments of a form, with the lists around
them, are found without any scope, and the parameters of a formula with their positions are what
they become. Main statement: under every scope, what is read from a form mentions exactly its
arguments, each with the type that lexical scoping gives it; scopes that agree on the names that are
free give the same result; and whether, and why, a form cannot be read does not depend on the scope.
-/

namespace PlanDiagram

/-- The type that a list of variables gives to a name: that of the last entry for the name, which
may be none. -/
def Parameter.lastType? (name : String) (bound : List Parameter) : Option (Option String) :=
  (bound.reverse.find? fun p => name == p.name).map Parameter.type

/-- The type of a name under lists of variables, innermost first: that of the first list that has an
entry for the name, else that of the scope. -/
def Scope.lexicalType (scope : Scope) (binders : List (List Parameter)) (name : String) : Value :=
  match binders.findSome? (Parameter.lastType? name) with
  | some type => .ofText? type
  | none => scope.typeOf name

namespace Formula

/-- A parameter that a formula mentions, with the places of operands that lead to it. -/
structure Mention where
  position : List Nat
  name : String
  type : Value

/-- What several operands mention, seen from the formula above them. -/
def Mention.placed (mentions : List (List Mention)) : List Mention :=
  mentions.zipIdx.flatMap fun (mentions, place) =>
    mentions.map fun m => { m with position := place :: m.position }

mutual

/-- The parameters that a formula mentions, from left to right. -/
def mentions : Formula → List Mention
  | .parameter name type => [⟨[], name, type⟩]
  | .number _ => []
  | .negation argument => Mention.placed [argument.mentions]
  | .predicate _ arguments => Mention.placed (mentionsOfEach arguments)
  | .function _ arguments => Mention.placed (mentionsOfEach arguments)
  | .numeric _ arguments => Mention.placed (mentionsOfEach arguments)
  | .comparison _ arguments => Mention.placed (mentionsOfEach arguments)
  | .arithmetic _ arguments => Mention.placed (mentionsOfEach arguments)
  | .composite _ items _ => Mention.placed (mentionsOfEach items)

/-- The parameters that each of several formulas mentions. -/
def mentionsOfEach : List Formula → List (List Mention)
  | [] => []
  | f :: rest => f.mentions :: mentionsOfEach rest

end

/-- Each formula contributes its own mentions. -/
theorem mentionsOfEach_eq_map (formulas : List Formula) :
    mentionsOfEach formulas = formulas.map mentions := by
  induction formulas with
  | nil => rfl
  | cons f rest ih => rw [mentionsOfEach, ih, List.map_cons]

end Formula

namespace Form

open Formula (Mention)

/-- An atom that stands as an argument and is no numeral, with its place among what is read and the
lists of variables around it, innermost first. -/
structure Argument where
  position : List Nat
  binders : List (List Parameter)
  text : String

namespace Argument

/-- The name of an argument. -/
def name (a : Argument) : String :=
  Parameter.bareName a.text

/-- No list of variables around the argument binds its name. -/
def IsFree (a : Argument) : Prop :=
  ∀ bound ∈ a.binders, ∀ p ∈ bound, p.name ≠ a.name

/-- The parameter that an argument becomes under a scope. -/
def mention (scope : Scope) (a : Argument) : Mention :=
  ⟨a.position, a.name, scope.lexicalType a.binders a.name⟩

/-- The same argument seen from a list around it, which binds variables. -/
def under (bound : List Parameter) (place : Nat) (a : Argument) : Argument :=
  { a with position := place :: a.position, binders := a.binders ++ [bound] }

/-- The arguments of several forms, seen from a list around them. -/
def placed (bound : List Parameter) (arguments : List (List Argument)) : List Argument :=
  arguments.zipIdx.flatMap fun (arguments, place) => arguments.map (under bound place)

end Argument

mutual

/-- The arguments in a form that is read as an operand, from left to right. -/
def operandArguments : Form → List Argument
  | .atom text => if Number.isNumeral text then [] else [⟨[], [], text⟩]
  | .list [] => []
  | .list (_ :: rest) => Argument.placed [] (operandArgumentsOfEach rest)

/-- The arguments in each of several operands. -/
def operandArgumentsOfEach : List Form → List (List Argument)
  | [] => []
  | form :: rest => form.operandArguments :: operandArgumentsOfEach rest

end

mutual

/-- The arguments in a form that is read as a formula, from left to right. -/
def arguments : Form → List Argument
  | .list (.atom head :: rest) =>
    match Formula.layout head rest with
    | .ok .negation => Argument.placed [] (argumentsOfEach rest)
    | .ok (.composite _ bound skipped) =>
      Argument.placed bound ((argumentsOfEach rest).drop skipped)
    | .ok .atomic => Argument.placed [] (operandArgumentsOfEach rest)
    | .error _ => []
  | _ => []

/-- The arguments in each of several formulas. -/
def argumentsOfEach : List Form → List (List Argument)
  | [] => []
  | form :: rest => form.arguments :: argumentsOfEach rest

end

/-- Each operand contributes its own arguments. -/
theorem operandArgumentsOfEach_eq_map (forms : List Form) :
    operandArgumentsOfEach forms = forms.map operandArguments := by
  induction forms with
  | nil => rfl
  | cons form rest ih => rw [operandArgumentsOfEach, ih, List.map_cons]

/-- Each formula contributes its own arguments. -/
theorem argumentsOfEach_eq_map (forms : List Form) :
    argumentsOfEach forms = forms.map arguments := by
  induction forms with
  | nil => rfl
  | cons form rest ih => rw [argumentsOfEach, ih, List.map_cons]

/-- Forms are gone through by their entries: what holds of a list whenever it holds of its entries
holds of every form. -/
@[elab_as_elim]
theorem entriesInduction {motive : Form → Prop} (atom : ∀ text, motive (.atom text))
    (list : ∀ entries, (∀ form ∈ entries, motive form) → motive (.list entries)) (form : Form) :
    motive form := by
  cases form with
  | atom text => exact atom text
  | list entries =>
    exact list entries fun form hform =>
      have := List.sizeOf_lt_of_mem hform
      entriesInduction atom list form
termination_by sizeOf form

end Form

/-- A list of variables hides the scope for the names that it binds. -/
theorem Scope.typeOf_bind (scope : Scope) (bound : List Parameter) (name : String) :
    (scope.bind bound).typeOf name =
      match Parameter.lastType? name bound with
      | some type => .ofText? type
      | none => scope.typeOf name := by
  have hlookup (reversed : List Parameter) :
      (reversed.map fun p => (p.name, Value.ofText? p.type)).lookup name =
        (reversed.find? fun p => name == p.name).map fun p => Value.ofText? p.type := by
    induction reversed with
    | nil => rfl
    | cons p rest ih =>
      rw [List.map_cons, List.lookup_cons, List.find?_cons, ih]
      cases name == p.name <;> rfl
  rw [typeOf, bind, ← List.map_reverse, List.lookup_append, hlookup, Parameter.lastType?]
  cases bound.reverse.find? fun p => name == p.name <;> rfl

/-- The outermost list of variables can be bound in the scope. -/
theorem Scope.lexicalType_append (scope : Scope) (binders : List (List Parameter))
    (bound : List Parameter) (name : String) :
    scope.lexicalType (binders ++ [bound]) name = (scope.bind bound).lexicalType binders name := by
  rw [lexicalType, lexicalType, List.findSome?_append]
  cases binders.findSome? (Parameter.lastType? name) with
  | some type => rfl
  | none =>
    simp only [Option.none_or, List.findSome?_cons, List.findSome?_nil]
    rw [typeOf_bind]
    cases Parameter.lastType? name bound <;> rfl

/-- The type of a free name is that of the scope. -/
theorem Form.Argument.lexicalType_of_isFree {a : Argument} (h : a.IsFree) (scope : Scope) :
    scope.lexicalType a.binders a.name = scope.typeOf a.name := by
  have hnone : a.binders.findSome? (Parameter.lastType? a.name) = none := by
    rw [List.findSome?_eq_none_iff]
    intro bound hbound
    rw [Parameter.lastType?, Option.map_eq_none_iff, List.find?_eq_none]
    intro p hp
    simpa using Ne.symm (h bound hbound p (List.mem_reverse.mp hp))
  rw [Scope.lexicalType, hnone]

/-- The type of a name that is bound does not depend on the scope. -/
theorem Form.Argument.lexicalType_of_not_isFree {a : Argument} (h : ¬ a.IsFree)
    (scope other : Scope) :
    scope.lexicalType a.binders a.name = other.lexicalType a.binders a.name := by
  have hsome : a.binders.findSome? (Parameter.lastType? a.name) ≠ none := by
    intro hnone
    apply h
    intro bound hbound p hp heq
    have hlast := List.findSome?_eq_none_iff.mp hnone bound hbound
    rw [Parameter.lastType?, Option.map_eq_none_iff, List.find?_eq_none] at hlast
    exact hlast p (List.mem_reverse.mpr hp) (by simp [heq])
  obtain ⟨type, htype⟩ := Option.ne_none_iff_exists'.mp hsome
  rw [Scope.lexicalType, Scope.lexicalType, htype]

namespace Form.Argument

open Formula (Mention)

/-- What arguments become, seen from a list around them that binds variables, is what they become
under a scope with these variables. -/
theorem map_mention_placed (scope : Scope) (bound : List Parameter)
    (arguments : List (List Argument)) :
    (placed bound arguments).map (mention scope) =
      Mention.placed (arguments.map (·.map (mention (scope.bind bound)))) := by
  have hunder (place : Nat) (a : Argument) :
      (a.under bound place).mention scope =
        { a.mention (scope.bind bound) with
          position := place :: (a.mention (scope.bind bound)).position } := by
    simp only [under, mention, name, scope.lexicalType_append]
  rw [placed, Mention.placed, List.zipIdx_map, List.map_flatMap, List.flatMap_map]
  simp only [List.map_map, Function.comp_def, hunder, Prod.map]
  rfl

/-- The arguments of each form are among those seen from a list around the forms. -/
theorem exists_under_mem_placed {arguments : List Argument} {lists : List (List Argument)}
    (harguments : arguments ∈ lists) (bound : List Parameter) {a : Argument} (ha : a ∈ arguments) :
    ∃ place, a.under bound place ∈ placed bound lists := by
  obtain ⟨place, hplace, heq⟩ := List.mem_iff_getElem.mp harguments
  refine ⟨place, List.mem_flatMap.mpr ⟨(arguments, place), ?_, List.mem_map_of_mem ha⟩⟩
  rw [List.mk_mem_zipIdx_iff_getElem?, List.getElem?_eq_getElem hplace, heq]

/-- An argument has one type under both scopes. -/
def Agrees (scope other : Scope) (a : Argument) : Prop :=
  scope.lexicalType a.binders a.name = other.lexicalType a.binders a.name

/-- If all arguments seen from a list have one type under both scopes, then those of a form in it
have one type under the scopes with the variables of the list. -/
theorem agrees_of_placed {scope other : Scope} {bound : List Parameter}
    {lists : List (List Argument)} (h : ∀ a ∈ placed bound lists, a.Agrees scope other)
    {arguments : List Argument} (harguments : arguments ∈ lists) :
    ∀ a ∈ arguments, a.Agrees (scope.bind bound) (other.bind bound) := by
  intro a ha
  obtain ⟨place, hplace⟩ := exists_under_mem_placed harguments bound ha
  have hagrees := h _ hplace
  rwa [Agrees, under, Scope.lexicalType_append, Scope.lexicalType_append] at hagrees

end Form.Argument

/-- Computations that agree on the elements of a list agree on the list. -/
theorem mapM_congr {ε α β : Type} {f g : α → Except ε β} {as : List α}
    (h : ∀ a ∈ as, f a = g a) : as.mapM f = as.mapM g := by
  induction as with
  | nil => rfl
  | cons a as ih =>
    obtain ⟨ha, has⟩ := List.forall_mem_cons.mp h
    rw [List.mapM_cons, List.mapM_cons, ha, ih has]

namespace Formula

open Form (Argument)

variable {scope other : Scope} {form : Form}

/-- If each form is read as what mentions its arguments, then so are the forms together. -/
theorem placed_mentions {read : Form → Except Form.Fault Formula} {find : Form → List Argument}
    {bound : List Parameter} {forms : List Form} {fs : List Formula}
    (hread : forms.mapM read = .ok fs)
    (h : ∀ form ∈ forms, ∀ f, read form = .ok f →
      f.mentions = (find form).map (Argument.mention (scope.bind bound))) :
    Mention.placed (mentionsOfEach fs) =
      (Argument.placed bound (forms.map find)).map (Argument.mention scope) := by
  rw [Argument.map_mention_placed, mentionsOfEach_eq_map, List.map_map]
  congr 1
  rw [mapM_eq_ok_iff] at hread
  induction hread with
  | nil => rfl
  | @cons form f forms fs hf _ ih =>
    obtain ⟨hform, hforms⟩ := List.forall_mem_cons.mp h
    rw [List.map_cons, List.map_cons, hform f hf, ih hforms]
    rfl

/-- A numeral is read without regard to the scope. -/
theorem term_of_isNumeral_eq {text : String} (h : Number.isNumeral text = true)
    (scope other : Scope) : term scope text = term other text := by
  unfold term numberOf?
  simp only [h, if_true]
  cases Number.readReal? text <;> rfl

/-- An operand mentions its arguments. -/
theorem mentions_of_operandOfForm {a : Formula} (h : operandOfForm scope form = .ok a) :
    a.mentions = form.operandArguments.map (Argument.mention scope) := by
  induction form using Form.entriesInduction generalizing a with
  | atom text =>
    rw [operandOfForm] at h
    rw [Form.operandArguments]
    cases hnumeral : Number.isNumeral text with
    | true =>
      rcases cases_of_term h with ⟨x, rfl⟩ | ⟨hname, -⟩
      · rfl
      · rw [hnumeral] at hname
        cases hname
    | false =>
      rw [term_of_not_isNumeral hnumeral] at h
      obtain rfl := Except.ok.inj h
      rfl
  | list entries ih =>
    obtain ⟨head, rest, rfl⟩ := exists_of_operandOfForm h
    rw [operandOfForm_list, map_eq_ok_iff] at h
    obtain ⟨arguments, harguments, rfl⟩ := h
    have hplaced := @placed_mentions scope (operandOfForm scope) Form.operandArguments [] rest
      arguments harguments fun form hform f hf => ih form (List.mem_cons_of_mem _ hform) hf
    rw [Form.operandArguments, Form.operandArgumentsOfEach_eq_map, ← hplaced]
    split <;> rfl

/-- An operand is read alike under scopes that give its arguments the same types. -/
theorem operandOfForm_congr (h : ∀ a ∈ form.operandArguments, a.Agrees scope other) :
    operandOfForm scope form = operandOfForm other form := by
  induction form using Form.entriesInduction with
  | atom text =>
    rw [operandOfForm, operandOfForm]
    cases hnumeral : Number.isNumeral text with
    | true => exact term_of_isNumeral_eq hnumeral scope other
    | false =>
      have hargument : ⟨[], [], text⟩ ∈ (Form.atom text).operandArguments := by
        simp [Form.operandArguments, hnumeral]
      have htype : scope.typeOf _ = other.typeOf _ := h _ hargument
      rw [term_of_not_isNumeral hnumeral, term_of_not_isNumeral hnumeral]
      exact congrArg (fun type => Except.ok (Formula.parameter _ type)) htype
  | list entries ih =>
    cases entries with
    | nil => rfl
    | cons head rest =>
      cases head with
      | list _ => rfl
      | atom head =>
        rw [Form.operandArguments, Form.operandArgumentsOfEach_eq_map] at h
        rw [operandOfForm_list, operandOfForm_list]
        congr 1
        apply mapM_congr
        intro form hform
        exact ih form (List.mem_cons_of_mem _ hform)
          (Argument.agrees_of_placed h (List.mem_map_of_mem hform))

/-- Whether an operand can be read does not depend on the scope. -/
theorem operandOfForm_failsAlike (scope other : Scope) (form : Form) :
    FailsAlike (operandOfForm scope form) (operandOfForm other form) := by
  induction form using Form.entriesInduction with
  | atom text =>
    rw [operandOfForm, operandOfForm]
    cases hnumeral : Number.isNumeral text with
    | true =>
      rw [term_of_isNumeral_eq hnumeral scope other]
      exact fun _ => Iff.rfl
    | false =>
      rw [term_of_not_isNumeral hnumeral, term_of_not_isNumeral hnumeral]
      exact .ok _ _
  | list entries ih =>
    cases entries with
    | nil => exact .error _
    | cons head rest =>
      cases head with
      | list _ => exact .error _
      | atom head =>
        rw [operandOfForm_list, operandOfForm_list]
        have hrest := FailsAlike.mapM fun form hform => ih form (List.mem_cons_of_mem _ hform)
        exact hrest.map _ _

/-- A comparison, numeric effect or predicate mentions the arguments of its operands. -/
theorem mentions_of_atomicOfForm {head : String} {rest : List Form} {f : Formula}
    (h : atomicOfForm scope head rest = .ok f) :
    f.mentions =
      (Argument.placed [] (rest.map Form.operandArguments)).map (Argument.mention scope) := by
  rw [atomicOfForm_eq] at h
  obtain ⟨arguments, harguments, h⟩ := bind_eq_ok_iff.mp h
  have hplaced := @placed_mentions scope (operandOfForm scope) Form.operandArguments [] rest
    arguments harguments fun form _ a ha => mentions_of_operandOfForm ha
  rw [← hplaced]
  split at h
  · obtain ⟨-, rfl⟩ := compare_eq_ok_iff.mp h
    rfl
  · split at h
    · obtain rfl := pure_eq_ok_iff.mp h
      rfl
    · obtain rfl := pure_eq_ok_iff.mp h
      rfl

/-- A formula mentions its arguments. -/
theorem mentions_of_ofForm {f : Formula} (h : ofForm scope form = .ok f) :
    f.mentions = form.arguments.map (Argument.mention scope) := by
  induction form using layoutInduction generalizing scope f with
  | atom text =>
    unfold ofForm at h
    obtain ⟨number, -, h⟩ := bind_eq_ok_iff.mp h
    split at h <;> obtain rfl := pure_eq_ok_iff.mp h <;> rfl
  | empty =>
    cases h
    rfl
  | headless => cases h
  | refused head rest fault hlayout =>
    rw [ofForm_refused scope hlayout] at h
    cases h
  | negation head form hlayout ih =>
    rw [ofForm_layout_negation scope hlayout, map_eq_ok_iff] at h
    obtain ⟨argument, hargument, rfl⟩ := h
    simp only [Form.arguments, hlayout, Form.argumentsOfEach, Argument.map_mention_placed,
      List.map_cons, List.map_nil, Scope.bind_nil, ← ih hargument]
    rfl
  | composite head rest op bound skipped hlayout ih =>
    rw [ofForm_layout_composite scope hlayout, map_eq_ok_iff] at h
    obtain ⟨items, hitems, rfl⟩ := h
    have hplaced := placed_mentions hitems fun form hform f hf => ih form hform hf
    simp only [Form.arguments, hlayout, Form.argumentsOfEach_eq_map, ← List.map_drop, ← hplaced]
    rfl
  | atomic head rest hlayout =>
    rw [ofForm_layout_atomic scope hlayout] at h
    simp only [Form.arguments, hlayout, Form.operandArgumentsOfEach_eq_map]
    exact mentions_of_atomicOfForm h

/-- A comparison, numeric effect or predicate is read alike under scopes that give the arguments of
its operands the same types. -/
theorem atomicOfForm_congr {head : String} {rest : List Form}
    (h : ∀ a ∈ Argument.placed [] (rest.map Form.operandArguments), a.Agrees scope other) :
    atomicOfForm scope head rest = atomicOfForm other head rest := by
  have hrest : rest.mapM (operandOfForm scope) = rest.mapM (operandOfForm other) := by
    apply mapM_congr
    intro form hform
    exact operandOfForm_congr (Argument.agrees_of_placed h (List.mem_map_of_mem hform))
  rw [atomicOfForm_eq, atomicOfForm_eq, hrest]

/-- A formula is read alike under scopes that give its arguments the same types. -/
theorem ofForm_congr (h : ∀ a ∈ form.arguments, a.Agrees scope other) :
    ofForm scope form = ofForm other form := by
  induction form using layoutInduction generalizing scope other with
  | atom text => rfl
  | empty => rfl
  | headless => rfl
  | refused head rest fault hlayout =>
    rw [ofForm_refused scope hlayout, ofForm_refused other hlayout]
  | negation head form hlayout ih =>
    simp only [Form.arguments, hlayout, Form.argumentsOfEach] at h
    have hread := ih (Argument.agrees_of_placed h List.mem_cons_self)
    rw [Scope.bind_nil, Scope.bind_nil] at hread
    rw [ofForm_layout_negation scope hlayout, ofForm_layout_negation other hlayout, hread]
  | composite head rest op bound skipped hlayout ih =>
    simp only [Form.arguments, hlayout, Form.argumentsOfEach_eq_map, ← List.map_drop] at h
    have hread : (rest.drop skipped).mapM (ofForm (scope.bind bound)) =
        (rest.drop skipped).mapM (ofForm (other.bind bound)) := by
      apply mapM_congr
      intro form hform
      exact ih form hform (Argument.agrees_of_placed h (List.mem_map_of_mem hform))
    rw [ofForm_layout_composite scope hlayout, ofForm_layout_composite other hlayout, hread]
  | atomic head rest hlayout =>
    simp only [Form.arguments, hlayout, Form.operandArgumentsOfEach_eq_map] at h
    rw [ofForm_layout_atomic scope hlayout, ofForm_layout_atomic other hlayout,
      atomicOfForm_congr h]

/-- Whether a comparison, numeric effect or predicate can be read does not depend on the scope. -/
theorem atomicOfForm_failsAlike (scope other : Scope) (head : String) (rest : List Form) :
    FailsAlike (atomicOfForm scope head rest) (atomicOfForm other head rest) := by
  have hrest := FailsAlike.mapM fun form (_ : form ∈ rest) =>
    operandOfForm_failsAlike scope other form
  rw [atomicOfForm_eq, atomicOfForm_eq]
  refine hrest.bind fun as bs has hbs => ?_
  have hlength : as.length = bs.length := by
    rw [← (mapM_eq_ok_iff.mp has).length_eq, (mapM_eq_ok_iff.mp hbs).length_eq]
  split
  · unfold compare
    rw [hlength]
    split
    · exact .error _
    · exact .ok _ _
  · split <;> exact .ok _ _

/-- Whether a formula can be read, and why not, does not depend on the scope. -/
theorem ofForm_failsAlike (scope other : Scope) (form : Form) :
    FailsAlike (ofForm scope form) (ofForm other form) := by
  induction form using layoutInduction generalizing scope other with
  | atom text => exact fun _ => Iff.rfl
  | empty => exact .ok _ _
  | headless => exact .error _
  | refused head rest fault hlayout =>
    rw [ofForm_refused scope hlayout, ofForm_refused other hlayout]
    exact .error fault
  | negation head form hlayout ih =>
    rw [ofForm_layout_negation scope hlayout, ofForm_layout_negation other hlayout]
    exact (ih scope other).map _ _
  | composite head rest op bound skipped hlayout ih =>
    rw [ofForm_layout_composite scope hlayout, ofForm_layout_composite other hlayout]
    have hrest := FailsAlike.mapM fun form hform =>
      ih form hform (scope.bind bound) (other.bind bound)
    exact hrest.map _ _
  | atomic head rest hlayout =>
    rw [ofForm_layout_atomic scope hlayout, ofForm_layout_atomic other hlayout]
    exact atomicOfForm_failsAlike scope other head rest

/-- Scoping is lexical. What is read from a form mentions exactly the arguments of the form, each at
its place and with the type that the innermost list of variables around it gives to its name, or
else the scope. So scopes that give the same types to the names that are free in a form lead to the
same result, and whether a form can be read, and for which reason it cannot, does not depend on the
scope. -/
theorem ofForm_lexical (form : Form) (scope : Scope) :
    (∀ f, ofForm scope form = .ok f →
      f.mentions = form.arguments.map (Argument.mention scope)) ∧
    (∀ other : Scope,
      (∀ a ∈ form.arguments, a.IsFree → other.typeOf a.name = scope.typeOf a.name) →
        ofForm other form = ofForm scope form) ∧
    ∀ (other : Scope) (fault : Form.Fault),
      ofForm other form = .error fault ↔ ofForm scope form = .error fault := by
  refine ⟨fun f h => mentions_of_ofForm h, fun other h => ofForm_congr fun a ha => ?_,
    fun other => ofForm_failsAlike other scope form⟩
  by_cases hfree : a.IsFree
  · rw [Argument.Agrees, Argument.lexicalType_of_isFree hfree,
      Argument.lexicalType_of_isFree hfree, h a ha hfree]
  · exact Argument.lexicalType_of_not_isFree hfree other scope

/-- A quantifier that lists `x` twice, and a use of `x` beside it. -/
def shadowingForm : Form :=
  .list [.atom "and",
    .list [.atom "forall", .list [.atom "?x", .atom "-", .atom "t", .atom "?x"],
      .list [.atom "p", .atom "?x"]],
    .list [.atom "p", .atom "?x"]]

/-- Its arguments: only the second one is free. -/
def shadowingArguments : List Argument :=
  [⟨[0, 0, 0], [[], [{ name := "x", type := some "t" }, { name := "x" }], []], "?x"⟩,
    ⟨[1, 0], [[], []], "?x"⟩]

/-- In the quantifier the last entry for `x` counts, although it has no type, and beside it the
scope does. Another name in the scope changes nothing. -/
theorem ofForm_lexical_shadowing :
    ∃ f, ofForm [("x", .text "s")] shadowingForm = .ok f ∧
      f.mentions = [⟨[0, 0, 0], "x", .null⟩, ⟨[1, 0], "x", .text "s"⟩] ∧
      ofForm [("y", .text "u"), ("x", .text "s")] shadowingForm = .ok f := by
  have harguments : shadowingForm.arguments = shadowingArguments := rfl
  obtain ⟨hmentions, hagree, -⟩ := ofForm_lexical shadowingForm [("x", .text "s")]
  refine ⟨_, rfl, ?_, ?_⟩
  · rw [hmentions _ rfl, harguments]
    rfl
  · apply hagree
    rw [harguments]
    intro a ha _
    rcases List.mem_pair.mp ha with rfl | rfl <;> rfl

end Formula

end PlanDiagram
