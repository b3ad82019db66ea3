import PlanDiagram.Proofs.Document.Stages
import PlanDiagram.Proofs.Domain.OfDefinition
import PlanDiagram.Proofs.Problem.OfDefinition
import PlanDiagram.Proofs.Reordering

/-!
# The order of sections

The segments of a definition fall into buckets by what they contribute to, and the header has a
bucket of its own. A definition can be written in any order that keeps the buckets. Main statement:
a definition with one header defines the same domain or problem in any such order, or cannot be read
in either order. The reason for a failure is not part of this, since it is that of the first segment
that cannot be read.
-/

namespace PlanDiagram

/-- With one header among its segments, a definition has the kind and the name that it gives, and
all other segments are its body. -/
theorem Definition.of_single_header {head : String} {segments : List Form} {header : Form}
    (hdefine : Text.lower head = "define")
    (hsingle : (segments.filter fun segment => (header? segment).isSome) = [header]) :
    ∃ d, ofForm? (.list (.atom head :: segments)) = some d ∧
      header? header = some (d.kind, d.name) ∧
      d.body = segments.filter fun segment => !(header? segment).isSome := by
  unfold ofForm?
  simp only [hdefine, beq_self_eq_true, if_true]
  split
  · rename_i place kind name hfind
    obtain ⟨front, first, back, rfl, hplace, hfirst, hfront⟩ := findHeader?_eq_some hfind
    have hnone : front.filter (fun segment => (header? segment).isSome) = [] := by
      rw [List.filter_eq_nil_iff]
      intro segment hsegment
      simp [hfront segment hsegment]
    rw [List.filter_append, hnone, List.nil_append, List.filter_cons_of_pos (by simp [hfirst]),
      List.cons.injEq] at hsingle
    obtain ⟨rfl, hback⟩ := hsingle
    refine ⟨_, rfl, hfirst, ?_⟩
    have hkept (zs : List Form) (hzs : zs.filter (fun segment => (header? segment).isSome) = []) :
        zs.filter (fun segment => !(header? segment).isSome) = zs := by
      rw [List.filter_eq_self]
      intro segment hsegment
      simpa using List.filter_eq_nil_iff.mp hzs segment hsegment
    simp only [body, hplace, Nat.zero_add]
    rw [List.eraseIdx_append_of_length_le (Nat.le_refl _), Nat.sub_self, List.eraseIdx_zero,
      List.tail_cons, List.filter_append, hkept front hnone,
      List.filter_cons_of_neg (by simp [hfirst]), hkept back hback]
  · rename_i hfind
    have hmem : header ∈ segments.filter fun segment => (header? segment).isSome := by
      rw [hsingle]
      exact List.mem_singleton_self header
    obtain ⟨hsegment, hheader⟩ := List.mem_filter.mp hmem
    rw [findHeader?_eq_none hfind header hsegment] at hheader
    cases hheader

/-- In an order that keeps the buckets, one of which is that of headers, a definition with one
header has the same kind and the same name, and its body is ordered alike. -/
theorem Definition.exists_of_reordered {κ : Type} [DecidableEq κ] {bucket : Form → κ} {headers : κ}
    (hheaders : ∀ segment, bucket segment = headers ↔ (header? segment).isSome = true)
    {head : String} {segments others : List Form} {d : Definition}
    (hd : ofForm? (.list (.atom head :: segments)) = some d)
    (hsingle : (segments.filter fun segment => (header? segment).isSome).length = 1)
    (horder : Reordered bucket segments others) :
    ∃ d', ofForm? (.list (.atom head :: others)) = some d' ∧ d'.kind = d.kind ∧
      d'.name = d.name ∧ Reordered bucket d.body d'.body ∧
      ∀ segment ∈ d.body, bucket segment ≠ headers := by
  have hdefine : Text.lower head = "define" := by
    have hform : (Form.list (.atom head :: segments)).IsDefinition := by
      rw [← isSome_ofForm?_iff, hd]
      rfl
    exact hform
  have hisSome (segment : Form) :
      (header? segment).isSome = decide (bucket segment = headers) := by
    rw [Bool.eq_iff_iff, decide_eq_true_iff, hheaders]
  obtain ⟨header, hheader⟩ := List.length_eq_one_iff.mp hsingle
  have hheader' : (others.filter fun segment => (header? segment).isSome) = [header] := by
    rw [← hheader]
    simp only [hisSome]
    exact (horder headers).symm
  obtain ⟨first, hfirst, hkind, hbody⟩ := of_single_header hdefine hheader
  obtain ⟨d', hd', hkind', hbody'⟩ := of_single_header hdefine hheader'
  obtain rfl : first = d := Option.some.inj (hfirst.symm.trans hd)
  rw [hkind, Option.some.injEq, Prod.mk.injEq] at hkind'
  refine ⟨d', hd', hkind'.1.symm, hkind'.2.symm, ?_, ?_⟩
  · rw [hbody, hbody']
    simp only [hisSome]
    exact horder.filter fun b => !decide (b = headers)
  · intro segment hsegment
    rw [hbody] at hsegment
    simpa [hisSome] using (List.mem_filter.mp hsegment).2

/-- If what is read from a definition depends on the name, and on the body only up to the order of
the buckets, then a definition with one header is read alike in any order that keeps them. -/
theorem Definition.read_iff_of_reordered {κ ε α : Type} [DecidableEq κ] {bucket : Form → κ}
    {headers : κ} {read : Definition → Except ε α}
    (hheaders : ∀ segment, bucket segment = headers ↔ (header? segment).isSome = true)
    (hread : ∀ {d d' : Definition} {a : α}, d.name = d'.name →
      (∀ segment ∈ d.body, bucket segment ≠ headers) → Reordered bucket d.body d'.body →
        read d = .ok a → read d' = .ok a)
    {head : String} {segments others : List Form} {d : Definition}
    (hd : ofForm? (.list (.atom head :: segments)) = some d)
    (hsingle : (segments.filter fun segment => (header? segment).isSome).length = 1)
    (horder : Reordered bucket segments others) :
    ∃ d', ofForm? (.list (.atom head :: others)) = some d' ∧ d'.kind = d.kind ∧
      ∀ a, read d' = .ok a ↔ read d = .ok a := by
  obtain ⟨d', hd', hkind, hname, hbody, hheader⟩ :=
    exists_of_reordered hheaders hd hsingle horder
  have hheader' : ∀ segment ∈ d'.body, bucket segment ≠ headers :=
    fun segment hsegment => hheader segment (hbody.perm.mem_iff.mpr hsegment)
  refine ⟨d', hd', hkind, ?_⟩
  intro a
  exact ⟨hread hname hheader' hbody.symm, hread hname.symm hheader hbody⟩

namespace Domain

/-- What the segments of a domain contribute to. Both kinds of actions are listed together. -/
inductive Bucket where
  | header
  | requirements
  | types
  | constants
  | predicates
  | functions
  | actions
  | others
deriving DecidableEq

/-- The bucket of a segment. -/
def bucket (segment : Form) : Bucket :=
  match Section.keyword? segment with
  | some "domain" | some "problem" => .header
  | some ":requirements" => .requirements
  | some ":types" => .types
  | some ":constants" => .constants
  | some ":predicates" => .predicates
  | some ":functions" => .functions
  | some ":action" | some ":durative-action" => .actions
  | _ => .others

/-- The bucket that a part comes from. -/
def Part.bucket : Part → Bucket
  | .requirements _ => .requirements
  | .types _ => .types
  | .constants _ => .constants
  | .predicates _ => .predicates
  | .functions _ => .functions
  | .action _ => .actions
  | .other _ => .others

/-- The headers are the segments with the bucket for headers. -/
theorem bucket_eq_header_iff {segment : Form} :
    bucket segment = .header ↔ (Definition.header? segment).isSome = true := by
  rw [Definition.isSome_header?_iff]
  unfold bucket
  split <;> simp_all

/-- The segments that declare constants have a bucket. -/
theorem isConstants_eq (segment : Form) :
    isConstants segment = decide (bucket segment = .constants) := by
  unfold isConstants bucket
  split <;> simp_all

/-- Unless it is a header, a segment contributes to its bucket. -/
theorem Part.bucket_of_ofForm {constants : Scope} {segment : Form} {part : Part}
    (hheader : Domain.bucket segment ≠ .header) (h : Part.ofForm constants segment = .ok part) :
    part.bucket = Domain.bucket segment := by
  have hof := Part.isOf_of_ofForm h
  cases part with
  | action action => rcases hof.1 with hkey | hkey <;> simp [Part.bucket, Domain.bucket, hkey]
  | other kept =>
    have hunknown := hof.1
    unfold Domain.bucket at hheader ⊢
    split <;> simp_all [Part.bucket, knownKeywords]
  | _ => simp [Part.bucket, Domain.bucket, hof.1]

/-- The parts of a domain can be joined in any order that keeps the buckets. -/
theorem ofParts_reordered {name : String} {parts others : List Part}
    (h : Reordered Part.bucket parts others) : ofParts name parts = ofParts name others := by
  unfold ofParts
  congr 1
  · apply h.flatMap_eq .requirements
    intro part hpart
    cases part <;> simp_all [Part.bucket]
  · apply h.flatMap_eq .types
    intro part hpart
    cases part <;> simp_all [Part.bucket]
  · apply h.flatMap_eq .constants
    intro part hpart
    cases part <;> simp_all [Part.bucket]
  · apply h.flatMap_eq .predicates
    intro part hpart
    cases part <;> simp_all [Part.bucket]
  · apply h.flatMap_eq .functions
    intro part hpart
    cases part <;> simp_all [Part.bucket]
  · apply h.filterMap_eq .actions
    intro part hpart
    cases part <;> simp_all [Part.bucket]
  · apply h.filterMap_eq .others
    intro part hpart
    cases part <;> simp_all [Part.bucket]

/-- A domain that was read can be read in any order that keeps the buckets. -/
theorem ofDefinition_reordered {d d' : Definition} {domain : Domain} (hname : d.name = d'.name)
    (hheader : ∀ segment ∈ d.body, bucket segment ≠ .header)
    (hbody : Reordered bucket d.body d'.body) (h : ofDefinition d = .ok domain) :
    ofDefinition d' = .ok domain := by
  obtain ⟨declared, parts, hdeclared, hparts, rfl⟩ := ofDefinition_eq_ok_iff.mp h
  have hconstants : d.body.filter isConstants = d'.body.filter isConstants := by
    rw [funext isConstants_eq]
    exact hbody .constants
  obtain ⟨others, hothers, horder⟩ := hbody.mapM
    (fun segment hsegment _ => Part.bucket_of_ofForm (hheader segment hsegment)) hparts
  refine ofDefinition_eq_ok_iff.mpr ⟨declared, others, ?_, hothers, ?_⟩
  · rw [← hconstants]
    exact hdeclared
  · rw [← hname]
    exact ofParts_reordered horder

end Domain

namespace Problem

/-- What the segments of a problem contribute to. A metric is kept among the other sections, too. -/
inductive Bucket where
  | header
  | domainName
  | requirements
  | objects
  | init
  | goal
  | others
deriving DecidableEq

/-- The bucket of a segment. -/
def bucket (segment : Form) : Bucket :=
  match Section.keyword? segment with
  | some "domain" | some "problem" => .header
  | some ":domain" => .domainName
  | some ":requirements" => .requirements
  | some ":objects" => .objects
  | some ":init" => .init
  | some ":goal" => .goal
  | _ => .others

/-- The bucket that a part comes from. -/
def Part.bucket : Part → Bucket
  | .domainName _ => .domainName
  | .requirements _ => .requirements
  | .objects _ => .objects
  | .init _ => .init
  | .goal _ => .goal
  | .metric _ _ => .others
  | .other _ => .others

/-- The headers are the segments with the bucket for headers. -/
theorem bucket_eq_header_iff {segment : Form} :
    bucket segment = .header ↔ (Definition.header? segment).isSome = true := by
  rw [Definition.isSome_header?_iff]
  unfold bucket
  split <;> simp_all

/-- The segments that declare objects have a bucket. -/
theorem isObjects_eq (segment : Form) :
    isObjects segment = decide (bucket segment = .objects) := by
  unfold isObjects bucket
  split <;> simp_all

/-- Unless it is a header, a segment contributes to its bucket. -/
theorem Part.bucket_of_ofForm {scope : Scope} {segment : Form} {part : Part}
    (hheader : Problem.bucket segment ≠ .header) (h : Part.ofForm scope segment = .ok part) :
    part.bucket = Problem.bucket segment := by
  unfold Part.ofForm at h
  dsimp only at h
  split at h
  · rename_i hkey
    split at h <;> obtain rfl := pure_eq_ok_iff.mp h <;> simp [Part.bucket, Problem.bucket, hkey]
  · rename_i hkey
    obtain rfl := pure_eq_ok_iff.mp h
    simp [Part.bucket, Problem.bucket, hkey]
  · rename_i hkey
    obtain ⟨_, -, h⟩ := bind_eq_ok_iff.mp h
    obtain rfl := pure_eq_ok_iff.mp h
    simp [Part.bucket, Problem.bucket, hkey]
  · rename_i hkey
    obtain ⟨_, -, h⟩ := bind_eq_ok_iff.mp h
    obtain rfl := pure_eq_ok_iff.mp h
    simp [Part.bucket, Problem.bucket, hkey]
  · rename_i hkey
    obtain ⟨_, -, h⟩ := bind_eq_ok_iff.mp h
    obtain rfl := pure_eq_ok_iff.mp h
    simp [Part.bucket, Problem.bucket, hkey]
  · rename_i hkey
    obtain ⟨_, -, h⟩ := bind_eq_ok_iff.mp h
    obtain rfl := pure_eq_ok_iff.mp h
    simp [Part.bucket, Problem.bucket, hkey]
  · obtain rfl := pure_eq_ok_iff.mp h
    unfold Problem.bucket at hheader ⊢
    split <;> simp_all [Part.bucket]

/-- The parts of a problem can be joined in any order that keeps the buckets. -/
theorem ofParts_reordered {name : String} {parts others : List Part}
    (h : Reordered Part.bucket parts others) : ofParts name parts = ofParts name others := by
  unfold ofParts
  congr 1
  · congr 1
    apply h.filterMap_eq .domainName
    intro part hpart
    cases part <;> simp_all [Part.bucket]
  · apply h.flatMap_eq .requirements
    intro part hpart
    cases part <;> simp_all [Part.bucket]
  · apply h.flatMap_eq .objects
    intro part hpart
    cases part <;> simp_all [Part.bucket]
  · apply h.flatMap_eq .init
    intro part hpart
    cases part <;> simp_all [Part.bucket]
  · congr 1
    apply h.filterMap_eq .goal
    intro part hpart
    cases part <;> simp_all [Part.bucket]
  · congr 1
    apply h.filterMap_eq .others
    intro part hpart
    cases part <;> simp_all [Part.bucket]
  · apply h.filterMap_eq .others
    intro part hpart
    cases part <;> simp_all [Part.bucket]

/-- A problem that was read can be read in any order that keeps the buckets. -/
theorem ofDefinition_reordered {d d' : Definition} {p : Problem} (hname : d.name = d'.name)
    (hheader : ∀ segment ∈ d.body, bucket segment ≠ .header)
    (hbody : Reordered bucket d.body d'.body) (h : ofDefinition d = .ok p) :
    ofDefinition d' = .ok p := by
  obtain ⟨declared, parts, hdeclared, hparts, rfl⟩ := ofDefinition_eq_ok_iff.mp h
  have hobjects : d.body.filter isObjects = d'.body.filter isObjects := by
    rw [funext isObjects_eq]
    exact hbody .objects
  obtain ⟨others, hothers, horder⟩ := hbody.mapM
    (fun segment hsegment _ => Part.bucket_of_ofForm (hheader segment hsegment)) hparts
  refine ofDefinition_eq_ok_iff.mpr ⟨declared, others, ?_, hothers, ?_⟩
  · rw [← hobjects]
    exact hdeclared
  · rw [← hname]
    exact ofParts_reordered horder

end Problem

/-- Tells whether two orders of segments keep the buckets of definitions of a kind. Definitions of
neither a domain nor a problem have no buckets, and only one order. -/
def DefinitionKind.SameOrder : DefinitionKind → List Form → List Form → Prop
  | .domain => Reordered Domain.bucket
  | .problem => Reordered Problem.bucket
  | .unknown => Eq

/-- Two computations with the same results succeed and fail together. -/
theorem toOption_eq_of_ok_iff {ε α : Type} {x y : Except ε α}
    (h : ∀ a, x = .ok a ↔ y = .ok a) : x.toOption = y.toOption := by
  cases hx : x with
  | ok a => rw [(h a).mp hx]
  | error e =>
    cases hy : y with
    | ok a =>
      rw [(h a).mpr hy] at hx
      cases hx
    | error e' => rfl

namespace Document

/-- A definition of a domain is read as a domain. -/
theorem Entry.ofDefinition_domain_iff {d : Definition} (hkind : d.kind = .domain) {e : Entry} :
    Entry.ofDefinition d = .ok e ↔
      ∃ domain, Domain.ofDefinition d = .ok domain ∧ e = .domain domain := by
  rw [Entry.ofDefinition, hkind]
  cases Domain.ofDefinition d <;> simp [Except.map, Except.mapError, eq_comm]

/-- A definition of a problem is read as a problem. -/
theorem Entry.ofDefinition_problem_iff {d : Definition} (hkind : d.kind = .problem) {e : Entry} :
    Entry.ofDefinition d = .ok e ↔
      ∃ p, Problem.ofDefinition d = .ok p ∧ e = .problem p := by
  rw [Entry.ofDefinition, hkind]
  cases Problem.ofDefinition d <;> simp [Except.map, Except.mapError, eq_comm]

/-- A definition with one header defines the same in any order of its segments, the header among
them, that keeps the buckets of its kind: it is of the same kind, and it is read as the same domain
or problem or cannot be read in either order. -/
theorem ofDefinition_sectionOrder {head : String} {segments others : List Form} {d : Definition}
    (hd : Definition.ofForm? (.list (.atom head :: segments)) = some d)
    (hsingle : (segments.filter fun segment => (Definition.header? segment).isSome).length = 1)
    (horder : d.kind.SameOrder segments others) :
    ∃ d', Definition.ofForm? (.list (.atom head :: others)) = some d' ∧ d'.kind = d.kind ∧
      (Entry.ofDefinition d').toOption = (Entry.ofDefinition d).toOption := by
  cases hkind : d.kind with
  | domain =>
    rw [hkind] at horder
    obtain ⟨d', hd', hkind', hsame⟩ := Definition.read_iff_of_reordered
      (fun _ => Domain.bucket_eq_header_iff) Domain.ofDefinition_reordered hd hsingle horder
    refine ⟨d', hd', hkind'.trans hkind, ?_⟩
    apply toOption_eq_of_ok_iff
    intro e
    simp only [Entry.ofDefinition_domain_iff (hkind'.trans hkind),
      Entry.ofDefinition_domain_iff hkind, hsame]
  | problem =>
    rw [hkind] at horder
    obtain ⟨d', hd', hkind', hsame⟩ := Definition.read_iff_of_reordered
      (fun _ => Problem.bucket_eq_header_iff) Problem.ofDefinition_reordered hd hsingle horder
    refine ⟨d', hd', hkind'.trans hkind, ?_⟩
    apply toOption_eq_of_ok_iff
    intro e
    simp only [Entry.ofDefinition_problem_iff (hkind'.trans hkind),
      Entry.ofDefinition_problem_iff hkind, hsame]
  | unknown =>
    rw [hkind] at horder
    obtain rfl : segments = others := horder
    exact ⟨d, hd, hkind, rfl⟩

/-- The header of a small domain, a constant, a predicate and two actions, of which the first refers
to the constant. -/
def sectionHeader : Form :=
  .list [.atom "domain", .atom "d"]

/-- The constant. -/
def sectionConstants : Form :=
  .list [.atom ":constants", .atom "c", .atom "-", .atom "t"]

/-- The predicate. -/
def sectionPredicates : Form :=
  .list [.atom ":predicates", .list [.atom "p", .atom "?x"]]

/-- The action that refers to the constant. -/
def sectionAction : Form :=
  .list [.atom ":action", .atom "a", .atom ":effect", .list [.atom "p", .atom "c"]]

/-- The other action. -/
def sectionDurative : Form :=
  .list [.atom ":Durative-Action", .atom "b"]

/-- The definition with the actions in front and the header among the segments. -/
def actionsFirst : Definition where
  kind := .domain
  form := .list [.atom "define", sectionAction, sectionHeader, sectionDurative, sectionPredicates,
    sectionConstants]
  segments := [sectionAction, sectionHeader, sectionDurative, sectionPredicates, sectionConstants]
  name := some "d"
  headerIndex := some 1

/-- With the actions in front and the header among the segments, the definition is read, and it
defines the same as with the constant in front and the header at the end. -/
theorem ofDefinition_sectionOrder_actionsFirst :
    Definition.ofForm? actionsFirst.form = some actionsFirst ∧
      (actionsFirst.segments.filter fun segment =>
        (Definition.header? segment).isSome).length = 1 ∧
      DefinitionKind.domain.SameOrder actionsFirst.segments
        [sectionConstants, sectionPredicates, sectionAction, sectionDurative, sectionHeader] ∧
      (Entry.ofDefinition actionsFirst).toOption.isSome = true ∧
      ∃ d', Definition.ofForm? (.list [.atom "define", sectionConstants, sectionPredicates,
          sectionAction, sectionDurative, sectionHeader]) = some d' ∧ d'.kind = .domain ∧
        (Entry.ofDefinition d').toOption = (Entry.ofDefinition actionsFirst).toOption := by
  have horder : DefinitionKind.domain.SameOrder actionsFirst.segments
      [sectionConstants, sectionPredicates, sectionAction, sectionDurative, sectionHeader] := by
    intro b
    cases b <;> rfl
  exact ⟨rfl, rfl, horder, by decide +kernel,
    @ofDefinition_sectionOrder "define" _ _ actionsFirst rfl rfl horder⟩

end Document

end PlanDiagram
