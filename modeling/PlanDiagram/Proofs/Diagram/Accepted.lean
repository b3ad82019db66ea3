import PlanDiagram.Proofs.Diagram.Integrity
import PlanDiagram.Proofs.Diagram.Outcome
import PlanDiagram.Proofs.Number.Magnitude
import PlanDiagram.Proofs.Settings.Overrides

/-!
# Diagrams with accepted settings

Settings that are accepted may be infinite or no numbers, and quotients of numbers that are too far
apart overflow, so a diagram cannot always be drawn. Main statement: with accepted settings there
are columns; there is never a quotient or remainder by zero nor a role without colour, only a count
can be infinite, no number, or too great; the actions of a domain can be drawn exactly if the width
of an action and the rows of its description are finite; problems without comparisons can always be
drawn; and with settings of moderate size everything can be drawn.
-/

namespace PlanDiagram

open Diagram

/-- The sizes and numbers of columns are far from the limits of doubles. -/
structure Settings.IsModerate (s : Settings) : Prop where
  nodeHeight_ge : 1e-100 ≤ s.nodeHeight.nearestReal
  nodeHeight_le : s.nodeHeight.nearestReal ≤ 1e100
  spacingY_ge : 1e-100 ≤ s.spacingY.nearestReal
  spacingY_le : s.spacingY.nearestReal ≤ 1e100
  actionColumns_lt : s.actionColumns.count < 2 ^ 512

/-- The greater of the numbers of comparisons among the facts and in the goal of a problem; there
are none in a domain. -/
def Structure.comparisonCount : Structure → Nat
  | .domain _ => 0
  | .problem p =>
    max (({} : Occurrences).collect .init (p.init.map some)).comparisons.length
      (({} : Occurrences).collect .goal [p.goal]).comparisons.length

namespace Diagram

open Number

/-- Doubles from `1e-100` to `1e100`. -/
theorem ranges_of_moderate {x : Float} (hlow : 1e-100 ≤ x) (hhigh : x ≤ 1e100) :
    Ranges (-385) 280 x :=
  ranges_of_le (by decide +kernel) (by decide +kernel) hlow hhigh

/-- There are no more rows than cells. -/
theorem rowCount_le (cells columns : Nat) : rowCount cells columns ≤ cells := by
  unfold rowCount
  cases columns with
  | zero => simp
  | succ c =>
    cases cells with
    | zero => exact (Nat.div_eq_of_lt (by omega)).le
    | succ n =>
      have hproduct : (c + 1) * (n + 1) = c * n + c + n + 1 := by
        rw [Nat.mul_succ, Nat.succ_mul]
        omega
      refine Nat.div_le_of_le_mul ?_
      rw [hproduct]
      omega

/-- Rows of moderate number and height. -/
theorem bounded_rows {cfg : Config Float} (columns : Nat) {cells : Nat} (hcells : cells < 2 ^ 129)
    (hspacing : Ranges (-385) 280 cfg.spacingY) :
    Bounded 466 (Scalar.ofNat (rowCount cells columns) * cfg.spacingY) := by
  have hrows : Bounded 132 (Float.ofNat (rowCount cells columns)) :=
    bounded_ofNat ((rowCount_le _ _).trans_lt hcells) (by decide)
  exact hrows.mul hspacing.bounded (l := 465) (by decide) (by decide) (by decide)

/-- Bands of a moderate number of comparisons are of moderate height. -/
theorem bounded_bandHeight {cfg : Config Float} (columns : Nat) {operands operators : Nat}
    (hoperands : operands < 2 ^ 129) (hoperators : operators < 2 ^ 129)
    (hspacing : Ranges (-385) 280 cfg.spacingY) :
    Bounded 470 (cfg.bandHeight columns operands operators) := by
  have htwo : Ranges (-51) (-51) 2.0 := ranges_of_exponent? (by decide +kernel)
  have hgap : Bounded 466 cfg.sectionGap :=
    (hspacing.bounded.div htwo (l := 331) (by decide) (by decide) (by decide)).mono (by decide)
  have hzero : Bounded 466 (Float.ofNat 0) :=
    (bounded_ofNat (r := 0) (by decide) (by decide)).mono (by decide)
  have hrows := bounded_rows columns hoperands hspacing
  have hgapOrNot (c : Prop) [Decidable c] :
      Bounded 466 (if c then cfg.sectionGap else Scalar.ofNat 0) := by
    split
    · exact hgap
    · exact hzero
  have hsum := hrows.add (hgapOrNot (Scalar.ofNat 0 <
    Scalar.ofNat (rowCount operands columns) * cfg.spacingY)) (by decide) (by decide)
  have hoperatorRows := (bounded_rows columns hoperators hspacing).mono (k := 468) (by decide)
  exact hsum.add hoperatorRows (by decide) (by decide)

/-- Rows are counted by the ceiling of a quotient. -/
theorem rowsOf_of_ne_zero {cfg : Config Float} (height : Float)
    (hspacing : (cfg.spacingY == 0.0) = false) :
    rowsOf cfg height =
      match ceiling (height / cfg.spacingY) with
      | .ok n => .ok n
      | .error .infinite => .error .infiniteCount
      | .error .notANumber => .error .nanCount := by
  have hquotient : Scalar.quotient height cfg.spacingY = .ok (height / cfg.spacingY) := by
    change (if (cfg.spacingY == 0.0) = true then _ else _) = _
    rw [hspacing]
    rfl
  rw [rowsOf, hquotient]
  rfl

/-- The rows of a moderate height can be counted. -/
theorem exists_rowsOf {cfg : Config Float} {height : Float} (hheight : Bounded 470 height)
    (hspacing : Ranges (-385) 280 cfg.spacingY) : ∃ rows, rowsOf cfg height = .ok rows := by
  have hquotient : Bounded 856 (height / cfg.spacingY) :=
    hheight.div hspacing (l := 855) (by decide) (by decide) (by decide)
  obtain ⟨rows, hrows⟩ := hquotient.ceiling
  rw [rowsOf_of_ne_zero height hspacing.ne_zero, hrows]
  exact ⟨rows, rfl⟩

/-- A count is infinite, no number, or beyond the range of doubles. -/
def IsCountFault (fault : Fault) : Prop :=
  fault = .infiniteCount ∨ fault = .nanCount ∨ fault = .hugeCount

/-- Only the number of columns can go wrong with the width of an action. -/
theorem isCountFault_of_actionWidth {cfg : Config Float} (hcolumns : 0 < cfg.actionColumns)
    {fault : Fault} (h : cfg.actionWidth = .error fault) : IsCountFault fault := by
  rw [Config.actionWidth, if_neg (Nat.ne_of_gt hcolumns)] at h
  rcases bind_eq_error_iff.mp h with hcount | ⟨x, -, hx⟩
  · change (if (Float.ofNat (cfg.actionColumns - 1)).isInf = true then _ else _) = _ at hcount
    split at hcount
    · exact .inr (.inr (Except.error.inj hcount).symm)
    · cases hcount
  · cases hx

/-- Only the ceiling can go wrong with rows, unless they have no height. -/
theorem isCountFault_of_rowsOf {cfg : Config Float} {height : Float} {fault : Fault}
    (hspacing : (cfg.spacingY == 0.0) = false) (h : rowsOf cfg height = .error fault) :
    IsCountFault fault := by
  rw [rowsOf_of_ne_zero height hspacing] at h
  split at h
  · cases h
  · exact .inl (Except.error.inj h).symm
  · exact .inr (.inl (Except.error.inj h).symm)

end Diagram

namespace Settings

/-- Counts are integers, and all other settings are real numbers. -/
structure IsCast (s : Settings) : Prop where
  counts : ∀ key : Key, key.isCount = true → ∃ n, s.get key = .int n
  reals : ∀ key : Key, key.isCount = false → ∃ x, s.get key = .real x

/-- The defaults are of these kinds, whatever the palette. -/
theorem isCast_default (palette : List (String × Value)) :
    IsCast { ({} : Settings) with palette } := by
  constructor <;> intro key hkey <;> cases key <;> first | exact ⟨_, rfl⟩ | cases hkey

/-- A setting that is cast is of its kind. -/
theorem IsCast.set {s : Settings} (hs : s.IsCast) {key : Key} {v : Value} {a : Amount}
    (h : cast key v = .ok a) : (s.set key a).IsCast := by
  unfold cast at h
  constructor
  · intro other hother
    by_cases hkey : other = key
    · subst hkey
      rw [if_pos hother] at h
      obtain ⟨n, -, hn⟩ := map_eq_ok_iff.mp h
      exact ⟨n, by rw [get_set, hn]⟩
    · rw [get_set_of_ne s a hkey]
      exact hs.counts other hother
  · intro other hother
    by_cases hkey : other = key
    · subst hkey
      rw [if_neg (Bool.eq_false_iff.mp hother)] at h
      obtain ⟨x, -, hx⟩ := map_eq_ok_iff.mp h
      exact ⟨x, by rw [get_set, hx]⟩
    · rw [get_set_of_ne s a hkey]
      exact hs.reals other hother

/-- Casting settings keeps them of their kinds. -/
theorem isCast_of_castAll {v : Value} {keys : List Key} {s s' : Settings}
    (h : castAll s v keys = .ok s') (hs : s.IsCast) : s'.IsCast := by
  induction keys generalizing s with
  | nil =>
    obtain rfl : s = s' := Except.ok.inj h
    exact hs
  | cons key rest ih =>
    unfold castAll at h
    split at h
    · obtain ⟨a, hcast, hrest⟩ := bind_eq_ok_iff.mp h
      exact ih hrest (hs.set hcast)
    · exact ih h hs

/-- The settings of a description are of their kinds. -/
theorem isCast_of_ofValue {v : Value} {s : Settings} (h : ofValue v = .ok s) : s.IsCast := by
  simp only [ofValue, bind_eq_ok_iff] at h
  obtain ⟨⟨⟩, -, colours, -, reached, hcast, ⟨⟩, -, hs⟩ := h
  obtain rfl := pure_eq_ok_iff.mp hs
  exact isCast_of_castAll (mapError_eq_ok_iff.mp hcast) (isCast_default _)

/-- Settings of their kinds that are valid have columns. -/
theorem IsCast.columns_pos {s : Settings} (hs : s.IsCast) (h : s.validate = .ok ()) :
    0 < (Config.ofSettings s).actionColumns ∧ 0 < (Config.ofSettings s).problemMaxColumns := by
  have hcount (key : Key) (hkey : key.isCount = true) : 0 < (s.get key).count := by
    obtain ⟨n, hn⟩ := hs.counts key hkey
    exact Nat.pos_of_ne_zero ((isSound_of_validate h).columns key n hkey hn)
  exact ⟨hcount .actionColumns rfl, hcount .problemMaxColumns rfl⟩

/-- An accepted description gives columns. -/
theorem columns_pos {v : Value} {s : Settings} (h : ofValue v = .ok s) :
    0 < (Config.ofSettings s).actionColumns ∧ 0 < (Config.ofSettings s).problemMaxColumns :=
  (isCast_of_ofValue h).columns_pos (validate_of_ofValue h)

/-- An accepted vertical spacing is not zero. -/
theorem spacingY_ne_zero {v : Value} {s : Settings} (h : ofValue v = .ok s) :
    ((Config.ofSettings s).spacingY == 0.0) = false := by
  obtain ⟨x, hx⟩ : ∃ x, s.spacingY = .real x := (isCast_of_ofValue h).reals .spacingY rfl
  have haccepted := (validate_eq_ok_iff s).mp (validate_of_ofValue h) .spacingY
  rw [Key.accepts_of_mem (by decide)] at haccepted
  change (!s.spacingY.atMost 0) = true at haccepted
  change (s.spacingY.nearestReal == 0.0) = false
  rw [hx] at haccepted ⊢
  refine Bool.eq_false_iff.mpr fun hzero => ?_
  have hle : x ≤ Float.ofInt 0 := by
    have hsame : (0.0 : Float) = Float.ofInt 0 := by decide +kernel
    rw [← hsame]
    exact Number.le_of_beq hzero
  rw [Amount.atMost, decide_eq_true hle] at haccepted
  cases haccepted

end Settings

namespace Diagram

open Number

variable {session : Session}

/-- With moderate settings nothing goes wrong with a moderate number of comparisons. -/
theorem diagramExpected_of_isModerate {s : Settings} (h : s.IsModerate)
    (haction : 0 < (Config.ofSettings s).actionColumns)
    (hproblem : 0 < (Config.ofSettings s).problemMaxColumns) {found : Structure}
    (hfound : found.comparisonCount < 2 ^ 128) :
    (Config.ofSettings s).DiagramExpected (fun _ => False) found := by
  have hspacing : Ranges (-385) 280 (Config.ofSettings s).spacingY :=
    ranges_of_moderate h.spacingY_ge h.spacingY_le
  cases found with
  | domain domain =>
    refine fun _ => ⟨Nat.ne_of_gt haction, fun fault hfault => ?_, fun fault hfault => ?_⟩
    · rw [Config.actionWidth, if_neg (Nat.ne_of_gt haction)] at hfault
      have hcount : Bounded 515 (Float.ofNat ((Config.ofSettings s).actionColumns - 1)) :=
        bounded_ofNat ((Nat.sub_le _ 1).trans_lt h.actionColumns_lt) (by decide)
      rcases bind_eq_error_iff.mp hfault with hcolumns | ⟨x, -, hx⟩
      · change (if (Float.ofNat _).isInf = true then _ else _) = _ at hcolumns
        rw [hcount.isInf_eq_false] at hcolumns
        cases hcolumns
      · cases hx
    · have htwo : Bounded 5 (Float.ofNat 2) := bounded_ofNat (r := 2) (by decide) (by decide)
      have hheight : Bounded 339 ((Config.ofSettings s).nodeHeight * Float.ofNat 2) :=
        (ranges_of_moderate h.nodeHeight_ge h.nodeHeight_le).bounded.mul htwo (l := 338)
          (by decide) (by decide) (by decide)
      obtain ⟨rows, hrows⟩ := exists_rowsOf (hheight.mono (by decide)) hspacing
      change rowsOf _ ((Config.ofSettings s).nodeHeight * Float.ofNat 2) = _ at hfault
      rw [hrows] at hfault
      cases hfault
  | problem p =>
    refine ⟨Nat.ne_of_gt hproblem, ?_⟩
    intro columns operands operators _ hoperands hoperators fault hfault
    change operands ≤ 2 * (Structure.problem p).comparisonCount at hoperands
    change operators ≤ (Structure.problem p).comparisonCount at hoperators
    have hheight := bounded_bandHeight columns (by omega : operands < 2 ^ 129)
      (by omega : operators < 2 ^ 129) hspacing
    obtain ⟨rows, hrows⟩ := exists_rowsOf hheight hspacing
    rw [hrows] at hfault
    cases hfault

section

variable {α : Type} [Add α] [Sub α] [Mul α] [LT α] [DecidableLT α] [Scalar α] {cfg : Config α}

/-- An action that is drawn has a width, and its description has rows. -/
theorem ActionBlock.exists_of_draw {action : Action} {x y : α} {d d' : Drawing α}
    {block : Block α} (h : ActionBlock.draw cfg action x y d = .ok (block, d')) :
    (∃ width, cfg.actionWidth = .ok width) ∧
      ∃ rows, rowsOf cfg (cfg.nodeHeight * Scalar.ofNat 2) = .ok rows := by
  unfold ActionBlock.draw at h
  obtain ⟨g, d₁, -, h⟩ := Draw.bind_ok_iff.mp h
  obtain ⟨cursor, d₂, hhead, -⟩ := Draw.bind_ok_iff.mp h
  unfold ActionBlock.drawHead at hhead
  obtain ⟨g, d₃, -, hhead⟩ := Draw.bind_ok_iff.mp hhead
  obtain ⟨width, d₄, hwidth, hhead⟩ := Draw.bind_ok_iff.mp hhead
  obtain ⟨title, d₅, -, hhead⟩ := Draw.bind_ok_iff.mp hhead
  obtain ⟨description, d₆, -, hhead⟩ := Draw.bind_ok_iff.mp hhead
  obtain ⟨quotient, d₇, hquotient, hhead⟩ := Draw.bind_ok_iff.mp hhead
  obtain ⟨rows, d₈, hrows, -⟩ := Draw.bind_ok_iff.mp hhead
  refine ⟨⟨width, (Draw.lift_ok_iff.mp hwidth).1⟩, rows, ?_⟩
  exact bind_eq_ok_iff.mpr ⟨quotient, (Draw.lift_ok_iff.mp hquotient).1,
    (Draw.lift_ok_iff.mp hrows).1⟩

/-- Where there are columns, the actions of a domain can be drawn exactly if an action has a width
and its description has rows. -/
theorem domainBlocks_iff (hcolumns : 0 < cfg.actionColumns) (domain : Domain) :
    (∃ blocks, (structureBlocks cfg session (.domain domain)).2 = .ok blocks) ↔
      domain.actions = [] ∨ (∃ width, cfg.actionWidth = .ok width) ∧
        ∃ rows, rowsOf cfg (cfg.nodeHeight * Scalar.ofNat 2) = .ok rows := by
  constructor
  · rintro ⟨blocks, hblocks⟩
    change (actionBlocks cfg session cfg.startX domain.actions).2 = .ok blocks at hblocks
    cases hactions : domain.actions with
    | nil => exact .inl rfl
    | cons action rest =>
      rw [hactions] at hblocks
      unfold actionBlocks at hblocks
      split at hblocks
      · cases hblocks
      · rename_i block hblock
        obtain ⟨d', hdraw⟩ := Draw.exists_of_run (congrArg Prod.snd hblock)
        exact .inr (ActionBlock.exists_of_draw hdraw)
  · intro h
    have hexpected : cfg.DiagramExpected (fun _ => False) (.domain domain) := by
      intro hactions
      obtain ⟨⟨width, hwidth⟩, rows, hrows⟩ := h.resolve_left hactions
      refine ⟨Nat.ne_of_gt hcolumns, fun fault hfault => ?_, fun fault hfault => ?_⟩
      · rw [hwidth] at hfault
        cases hfault
      · rw [hrows] at hfault
        cases hfault
    exact (failsOnly_structureBlocks hexpected session).exists_of_false

end

/-- With rows that are apart and with columns a diagram can only fail for a count. -/
theorem failsOnly_isCountFault {cfg : Config Float} (hspacing : (cfg.spacingY == 0.0) = false)
    (haction : 0 < cfg.actionColumns) (hproblem : 0 < cfg.problemMaxColumns)
    (session : Session) (found : Structure) :
    FailsOnly (structureBlocks cfg session found).2 IsCountFault := by
  have hexpected : cfg.DiagramExpected IsCountFault found := by
    cases found with
    | domain domain =>
      exact fun _ =>
        ⟨fun hzero => absurd hzero (Nat.ne_of_gt haction),
          fun _ => isCountFault_of_actionWidth haction, fun _ => isCountFault_of_rowsOf hspacing⟩
    | problem p =>
      exact ⟨fun hzero => absurd hzero (Nat.ne_of_gt hproblem),
        fun _ _ _ _ _ _ _ => isCountFault_of_rowsOf hspacing⟩
  exact failsOnly_structureBlocks hexpected session

/-- With accepted settings there are columns, and a diagram can only fail for a count, never for a
quotient or remainder by zero or a role without colour. The actions of a domain are drawn exactly if
an action has a width and its description has rows; a problem without comparisons is always drawn;
and everything is drawn with moderate settings. -/
theorem structureBlocks_of_ofValue {v : Value} {s : Settings} (h : Settings.ofValue v = .ok s)
    (session : Session) :
    (0 < (Config.ofSettings s).actionColumns ∧ 0 < (Config.ofSettings s).problemMaxColumns) ∧
    (∀ found fault, (structureBlocks (Config.ofSettings s) session found).2 = .error fault →
      IsCountFault fault) ∧
    (∀ domain, (∃ blocks,
        (structureBlocks (Config.ofSettings s) session (.domain domain)).2 = .ok blocks) ↔
      domain.actions = [] ∨ (∃ width, (Config.ofSettings s).actionWidth = .ok width) ∧
        ∃ rows, rowsOf (Config.ofSettings s) ((Config.ofSettings s).nodeHeight * 2) = .ok rows) ∧
    (∀ p, (Structure.problem p).comparisonCount = 0 →
      ∃ blocks, (structureBlocks (Config.ofSettings s) session (.problem p)).2 = .ok blocks) ∧
    (∀ found, s.IsModerate → found.comparisonCount < 2 ^ 128 →
      ∃ blocks, (structureBlocks (Config.ofSettings s) session found).2 = .ok blocks) := by
  obtain ⟨haction, hproblem⟩ := Settings.columns_pos h
  refine ⟨⟨haction, hproblem⟩, fun found fault hfault => ?_, domainBlocks_iff haction,
    fun p hcount => ?_, fun found hmoderate hcount => ?_⟩
  · exact failsOnly_isCountFault (Settings.spacingY_ne_zero h) haction hproblem session found fault
      hfault
  · have hexpected : (Config.ofSettings s).DiagramExpected (fun _ => False) (.problem p) := by
      refine ⟨Nat.ne_of_gt hproblem, fun columns operands operators hpos => ?_⟩
      change 0 < (Structure.problem p).comparisonCount at hpos
      omega
    exact (failsOnly_structureBlocks hexpected session).exists_of_false
  · exact (failsOnly_structureBlocks
      (diagramExpected_of_isModerate hmoderate haction hproblem hcount) session).exists_of_false

/-- The text of a problem with a comparison among its facts. -/
def tankText : String :=
  "(define (problem tank) (:init (< (level) (limit))))"

/-- What is read from it. -/
def tank : Problem where
  name := "tank"
  init := [.comparison "<" [.function "level" [], .function "limit" []]]

/-- The definition in the text. -/
def tankDefinition : Definition where
  kind := .problem
  form := .list [.atom "define", .list [.atom "problem", .atom "tank"],
    .list [.atom ":init", .list [.atom "<", .list [.atom "level"], .list [.atom "limit"]]]]
  segments := [.list [.atom "problem", .atom "tank"],
    .list [.atom ":init", .list [.atom "<", .list [.atom "level"], .list [.atom "limit"]]]]
  name := some "tank"
  headerIndex := some 0

/-- The text is read as the problem. -/
theorem readPrimary_tankText : Document.readPrimary tankText = .ok (.problem tank) := by
  have hdefinitions : Document.definitions tankText = .ok [tankDefinition] := rfl
  rw [Document.readPrimary, Document.read, hdefinitions]
  rfl

/-- A description of settings with numerals. -/
def roomySettings : Value :=
  .object [("node_height", .text "48.5"), ("spacing_y", .int 90), ("action_columns", .text "4")]

/-- A problem is drawn with settings that are read from numerals. -/
theorem structureBlocks_of_ofValue_roomySettings :
    ∃ s found blocks, Settings.ofValue roomySettings = .ok s ∧ s.IsModerate ∧
      Document.readPrimary tankText = .ok found ∧ found.comparisonCount = 1 ∧
      (structureBlocks (Config.ofSettings s) {} found).2 = .ok blocks := by
  have hsettings : Settings.ofValue roomySettings =
      .ok { nodeHeight := .real 48.5, spacingY := .real 90.0, actionColumns := .int 4 } := rfl
  have hmoderate : Settings.IsModerate
      { nodeHeight := .real 48.5, spacingY := .real 90.0, actionColumns := .int 4 } :=
    ⟨by decide +kernel, by decide +kernel, by decide +kernel, by decide +kernel,
      by decide +kernel⟩
  obtain ⟨-, -, -, -, hdrawn⟩ := structureBlocks_of_ofValue hsettings {}
  obtain ⟨blocks, hblocks⟩ := hdrawn (.problem tank) hmoderate (by decide)
  exact ⟨_, _, blocks, hsettings, hmoderate, readPrimary_tankText, rfl, hblocks⟩

/-- A vertical spacing that is no number and an infinite height are accepted, but with the one a
band of comparisons cannot be drawn, and with the other the description of an action. -/
theorem structureBlocks_fails_accepted :
    (∃ s found, Settings.ofValue (.object [("spacing_y", .text "nan")]) = .ok s ∧
      Document.readPrimary tankText = .ok found ∧
      (structureBlocks (Config.ofSettings s) {} found).2.map List.length = .error .nanCount) ∧
    ∃ s, Settings.ofValue (.object [("node_height", .text "inf")]) = .ok s ∧
      (structureBlocks (Config.ofSettings s) {}
        (.domain { name := "d", actions := [{ name := "a" }] })).2.map List.length =
          .error .infiniteCount := by
  refine ⟨⟨_, _, rfl, readPrimary_tankText, ?_⟩, _, rfl, ?_⟩
  · decide +kernel
  · decide +kernel

end Diagram

end PlanDiagram
