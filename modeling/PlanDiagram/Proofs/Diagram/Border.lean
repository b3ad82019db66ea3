import PlanDiagram.Diagram.Document
import PlanDiagram.Proofs.Failure
import PlanDiagram.Proofs.Number.Zero

/-!
# Whether arrows reach the borders of boxes

An arrow runs from border to border along the line between two centres. Everything that is divided
by is compared with zero first, except for an ellipse: there the squares of the half axes are
divided by, and these may be zero although the half axes are not. Main statement: an arrow becomes
an object unless it starts or ends at an ellipse whose border is missed in a division by zero.
-/

namespace PlanDiagram.Diagram

/-- The border of an ellipse is missed on the way to a point. -/
def Box.Misses (b : Box Float) (p : Point Float) : Prop :=
  b.shape = .ellipse ∧ b.borderTowards p = .error .divisionByZero

variable {x y : Float}

/-- A quotient fails only for a division by zero. -/
theorem failsOnly_quotient (x y : Float) :
    FailsOnly (Scalar.quotient x y) fun fault => fault = .divisionByZero := by
  change FailsOnly (if y == 0.0 then .error Fault.divisionByZero else .ok (x / y)) _
  split
  · exact .error rfl
  · exact .ok _

theorem quotient_of_ne_zero (x : Float) (hy : (y == 0.0) = false) :
    Scalar.quotient x y = .ok (x / y) := by
  change (if y == 0.0 then Except.error Fault.divisionByZero else .ok (x / y)) = _
  rw [hy]
  rfl

/-- A quotient by an absolute value. -/
theorem quotient_magnitude (x : Float) (hy : (y == 0.0) = false) :
    Scalar.quotient x (Scalar.magnitude y) = .ok (x / Scalar.magnitude y) :=
  quotient_of_ne_zero x (Number.abs_ne_zero hy)

namespace Box

/-- A rectangle is left on the way to any other point. -/
theorem exists_rectangleScale (hw hh : Float) {dx dy : Float}
    (h : (Scalar.isZero dx && Scalar.isZero dy) = false) :
    ∃ scale, rectangleScale hw hh dx dy = .ok scale := by
  unfold rectangleScale
  cases hx : Scalar.isZero dx with
  | true =>
    rw [hx, Bool.true_and] at h
    exact ⟨_, quotient_magnitude hh h⟩
  | false =>
    cases hy : Scalar.isZero dy with
    | true => exact ⟨_, quotient_magnitude hw hx⟩
    | false =>
      simp only [Bool.false_eq_true, if_false]
      rw [quotient_magnitude hw hx, quotient_magnitude hh hy]
      exact ⟨_, rfl⟩

theorem failsOnly_ellipseScale (rx ry dx dy : Float) :
    FailsOnly (ellipseScale rx ry dx dy) fun fault => fault = .divisionByZero :=
  (failsOnly_quotient _ _).bind fun _ _ => (failsOnly_quotient _ _).bind fun _ _ =>
    failsOnly_quotient _ _

/-- Only the border of an ellipse is missed. -/
theorem failsOnly_borderTowards (b : Box Float) (p : Point Float) :
    FailsOnly (b.borderTowards p) fun fault => fault = .divisionByZero ∧ b.Misses p := by
  have hshape : FailsOnly (b.borderTowards p) fun fault =>
      fault = .divisionByZero ∧ b.shape = .ellipse := by
    unfold borderTowards
    simp only
    split
    · exact .pure _
    · rename_i hway
      split
      · exact .pure _
      · split
        · rename_i hellipse
          refine FailsOnly.bind ?_ fun scale _ => .pure _
          exact (failsOnly_ellipseScale _ _ _ _).mono fun _ hfault => ⟨hfault, hellipse⟩
        · obtain ⟨scale, hscale⟩ := exists_rectangleScale (Scalar.half b.width)
            (Scalar.half b.height) (Bool.eq_false_iff.mpr hway)
          rw [hscale]
          exact .pure _
  intro fault hfault
  obtain ⟨rfl, hellipse⟩ := hshape fault hfault
  exact ⟨rfl, hellipse, hfault⟩

-- A width whose square is zero.
example :
    let b : Box Float := ⟨"node", 0, 0, 1e-200, 60, .ellipse⟩
    b.Misses ⟨5, 5⟩ :=
  ⟨rfl, by decide +kernel⟩

theorem exists_relative (start length coordinate : Float) :
    ∃ r, relative start length coordinate = .ok r := by
  unfold relative
  cases hlength : Scalar.isZero length with
  | true => exact ⟨_, rfl⟩
  | false => exact ⟨_, quotient_of_ne_zero _ hlength⟩

/-- Any point has a place relative to a box. -/
theorem exists_connection (b : Box Float) (p : Point Float) : ∃ q, b.connection p = .ok q := by
  obtain ⟨rx, hx⟩ := exists_relative b.x b.width p.x
  obtain ⟨ry, hy⟩ := exists_relative b.y b.height p.y
  unfold connection
  rw [hx, ok_bind, hy]
  exact ⟨_, rfl⟩

end Box

theorem exists_arrowEnd (b : Box Float) (p : Point Float) (marker : String) :
    ∃ v, arrowEnd b p marker = .ok v := by
  obtain ⟨q, hq⟩ := b.exists_connection p
  unfold arrowEnd
  rw [hq]
  exact ⟨_, rfl⟩

/-- An arrow fails exactly if the border of the ellipse at its start or end is missed. -/
theorem Arrow.toValue_eq_error_iff (a : Arrow Float) (fault : Fault) :
    a.toValue = .error fault ↔ fault = .divisionByZero ∧
      (a.source.Misses a.target.center ∨ a.target.Misses a.source.center) := by
  unfold toValue
  cases hstart : a.source.borderTowards a.target.center with
  | error first =>
    obtain ⟨rfl, hmisses⟩ := a.source.failsOnly_borderTowards _ first hstart
    constructor
    · rintro ⟨⟩
      exact ⟨rfl, .inl hmisses⟩
    · rintro ⟨rfl, -⟩
      rfl
  | ok start =>
    rw [ok_bind]
    cases hstop : a.target.borderTowards a.source.center with
    | error second =>
      obtain ⟨rfl, hmisses⟩ := a.target.failsOnly_borderTowards _ second hstop
      constructor
      · rintro ⟨⟩
        exact ⟨rfl, .inr hmisses⟩
      · rintro ⟨rfl, -⟩
        rfl
    | ok stop =>
      obtain ⟨source, hsource⟩ := exists_arrowEnd a.source start "none"
      obtain ⟨target, htarget⟩ := exists_arrowEnd a.target stop "arrow"
      rw [ok_bind, hsource, ok_bind, htarget]
      constructor
      · rintro ⟨⟩
      · rintro ⟨-, hmisses | hmisses⟩
        · cases hstart.symm.trans hmisses.2
        · cases hstop.symm.trans hmisses.2

/-- Elements fail only for an arrow among them that misses the border of an ellipse. -/
theorem failsOnly_mapM_toValue (elements : List (Element Float)) :
    FailsOnly (elements.mapM Element.toValue) fun fault => fault = .divisionByZero ∧
      ∃ a, .arrow a ∈ elements ∧
        (a.source.Misses a.target.center ∨ a.target.Misses a.source.center) := by
  refine FailsOnly.mapM fun element helement => ?_
  cases element with
  | node n => exact .ok _
  | group g => exact .ok _
  | arrow a =>
    intro fault hfault
    obtain ⟨rfl, hmisses⟩ := (a.toValue_eq_error_iff fault).mp hfault
    exact ⟨rfl, a, helement, hmisses⟩

end PlanDiagram.Diagram
