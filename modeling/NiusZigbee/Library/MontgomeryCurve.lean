import Mathlib.AlgebraicGeometry.EllipticCurve.Affine.Point
import Mathlib.Tactic.LinearCombination

/-!
# Montgomery curves by their first coordinate

The group of points of `y² = x³ + A x² + x` over a field, seen through homogeneous coordinates
`(x : z)` of the first coordinate alone: the double of a point, and the sum of two points whose
difference is known.
-/

namespace Montgomery

open WeierstrassCurve.Affine

/-- The curve `y² = x³ + A x² + x`. -/
def curve {K : Type*} [Field K] (A : K) : WeierstrassCurve.Affine K where
  a₁ := 0
  a₂ := A
  a₃ := 0
  a₄ := 1
  a₆ := 0

variable {K : Type*} [Field K] {A : K}

theorem equation_iff {x y : K} : (curve A).Equation x y ↔ y ^ 2 = x ^ 3 + A * x ^ 2 + x := by
  rw [WeierstrassCurve.Affine.equation_iff]
  simp [curve]

theorem negY_eq (x y : K) : (curve A).negY x y = -y := by
  simp [negY, curve]

theorem nonsingular (h2 : (2 : K) ≠ 0) (hA : A ^ 2 ≠ 4) {x y : K}
    (h : y ^ 2 = x ^ 3 + A * x ^ 2 + x) : (curve A).Nonsingular x y := by
  rw [WeierstrassCurve.Affine.nonsingular_iff']
  refine ⟨equation_iff.mpr h, ?_⟩
  by_contra hsing
  simp only [curve, zero_mul, add_zero, zero_sub, ne_eq, neg_eq_zero, not_or, not_not] at hsing
  obtain ⟨hx, hy⟩ := hsing
  have hy0 : y = 0 := (mul_eq_zero.mp hy).resolve_left h2
  rw [hy0, zero_pow (by decide)] at h
  have hroot : x * (x ^ 2 + A * x + 1) = 0 := by linear_combination -h
  have hx0 : x ≠ 0 := by
    rintro rfl
    simp at hx
  have hquad : x ^ 2 + A * x + 1 = 0 := (mul_eq_zero.mp hroot).resolve_left hx0
  have hlin : 2 * x + A = 0 := by
    have : x * (2 * x + A) = 0 := by linear_combination hx - hquad
    exact (mul_eq_zero.mp this).resolve_left hx0
  apply hA
  have hx2 : x ^ 2 = 1 := by linear_combination x * hlin - hquad
  linear_combination (A - 2 * x) * hlin + 4 * hx2

/-- `(x : z)` are homogeneous coordinates of the first coordinate of the point. -/
def Coords : (curve A).Point → K → K → Prop
  | .zero, x, z => x ≠ 0 ∧ z = 0
  | .some u _ _, x, z => z ≠ 0 ∧ x = u * z

/-- The first coordinate, with 0 for the point at infinity. -/
def firstCoord : (curve A).Point → K
  | .zero => 0
  | .some u _ _ => u

theorem Coords.firstCoord {P : (curve A).Point} {x z : K} (h : Coords P x z) :
    x * z⁻¹ = firstCoord P := by
  cases P with
  | zero =>
    rw [h.2, inv_zero, mul_zero]
    rfl
  | some u v huv =>
    obtain ⟨hz, rfl⟩ := h
    exact mul_inv_cancel_right₀ hz u

variable [DecidableEq K]

/-! ## Doubles and sums -/

theorem double_some {x y u v : K} {h : (curve A).Nonsingular x y} {h' : (curve A).Nonsingular u v}
    (hdouble : Point.some x y h + Point.some x y h = Point.some u v h') :
    u * (2 * y) ^ 2 = (x ^ 2 - 1) ^ 2 ∧ 2 * y ≠ 0 := by
  have heq := equation_iff.mp h.1
  have hne : y ≠ (curve A).negY x y := by
    intro hneg
    rw [Point.add_self_of_Y_eq hneg] at hdouble
    exact Point.some_ne_zero h' hdouble.symm
  have h2y : 2 * y ≠ 0 := by
    intro hzero
    apply hne
    rw [negY_eq]
    linear_combination hzero
  rw [Point.add_self_of_Y_ne hne] at hdouble
  have hu := (Point.some.inj hdouble).1
  have hslope : (curve A).slope x x y y * (2 * y) = 3 * x ^ 2 + 2 * A * x + 1 := by
    rw [slope_of_Y_ne rfl hne, negY_eq, sub_neg_eq_add, ← two_mul, div_mul_cancel₀ _ h2y]
    simp only [curve]
    ring
  generalize (curve A).slope x x y y = l at hslope hu
  simp only [addX, curve] at hu
  refine ⟨?_, h2y⟩
  linear_combination (l * (2 * y) + 3 * x ^ 2 + 2 * A * x + 1) * hslope - 4 * (A + 2 * x) * heq
    - (2 * y) ^ 2 * hu

/-- The first coordinates of a sum and a difference. -/
theorem add_sub_some {x₁ y₁ x₂ y₂ s t u v : K} {h₁ : (curve A).Nonsingular x₁ y₁}
    {h₂ : (curve A).Nonsingular x₂ y₂} {h : (curve A).Nonsingular s t}
    {h' : (curve A).Nonsingular u v} (hx : x₁ ≠ x₂)
    (hsum : Point.some x₁ y₁ h₁ + Point.some x₂ y₂ h₂ = Point.some s t h)
    (hdiff : Point.some x₂ y₂ h₂ - Point.some x₁ y₁ h₁ = Point.some u v h') :
    s * u * (x₁ - x₂) ^ 2 = (x₁ * x₂ - 1) ^ 2 := by
  have heq₁ := equation_iff.mp h₁.1
  have heq₂ := equation_iff.mp h₂.1
  have hne : x₁ - x₂ ≠ 0 := sub_ne_zero.mpr hx
  have hne' : x₂ - x₁ ≠ 0 := sub_ne_zero.mpr hx.symm
  rw [Point.add_of_X_ne hx] at hsum
  rw [sub_eq_add_neg, Point.neg_some, Point.add_of_X_ne hx.symm] at hdiff
  have hs := (Point.some.inj hsum).1
  have hu := (Point.some.inj hdiff).1
  rw [slope_of_X_ne hx] at hs
  rw [slope_of_X_ne hx.symm, negY_eq] at hu
  have hl : (y₁ - y₂) / (x₁ - x₂) * (x₁ - x₂) = y₁ - y₂ := div_mul_cancel₀ _ hne
  have hm : (y₂ - -y₁) / (x₂ - x₁) * (x₁ - x₂) = -(y₂ + y₁) := by
    rw [← neg_sub x₂ x₁, mul_neg, div_mul_cancel₀ _ hne', sub_neg_eq_add]
  generalize (y₁ - y₂) / (x₁ - x₂) = l at hs hl
  generalize (y₂ - -y₁) / (x₂ - x₁) = m at hu hm
  simp only [addX, curve] at hs hu
  have hs' : s * (x₁ - x₂) ^ 2 = (y₁ - y₂) ^ 2 - (A + x₁ + x₂) * (x₁ - x₂) ^ 2 := by
    linear_combination (l * (x₁ - x₂) + (y₁ - y₂)) * hl - (x₁ - x₂) ^ 2 * hs
  have hu' : u * (x₁ - x₂) ^ 2 = (y₁ + y₂) ^ 2 - (A + x₁ + x₂) * (x₁ - x₂) ^ 2 := by
    linear_combination (m * (x₁ - x₂) - (y₁ + y₂)) * hm - (x₁ - x₂) ^ 2 * hu
  have hsq : (x₁ - x₂) ^ 2 ≠ 0 := pow_ne_zero 2 hne
  apply mul_right_cancel₀ hsq
  have hsplit : s * u * (x₁ - x₂) ^ 2 * (x₁ - x₂) ^ 2 =
      (s * (x₁ - x₂) ^ 2) * (u * (x₁ - x₂) ^ 2) := by ring
  rw [hsplit, hs', hu']
  linear_combination
    (y₁ ^ 2 + (x₁ ^ 3 + A * x₁ ^ 2 + x₁) - 2 * y₂ ^ 2 - 2 * (A + x₁ + x₂) * (x₁ - x₂) ^ 2) * heq₁ +
    (y₂ ^ 2 + (x₂ ^ 3 + A * x₂ ^ 2 + x₂) - 2 * (x₁ ^ 3 + A * x₁ ^ 2 + x₁) -
      2 * (A + x₁ + x₂) * (x₁ - x₂) ^ 2) * heq₂

/-! ## On homogeneous coordinates -/

theorem Coords.double (h2 : (2 : K) ≠ 0) (hA : A ^ 2 ≠ 4) {P : (curve A).Point} {x z : K}
    (h : Coords P x z) :
    Coords (P + P) ((x ^ 2 - z ^ 2) ^ 2) (4 * x * z * (x ^ 2 + A * x * z + z ^ 2)) := by
  cases P with
  | zero =>
    obtain ⟨hx, rfl⟩ := h
    refine ⟨?_, by ring⟩
    simpa using hx
  | some a b hab =>
    obtain ⟨hz, rfl⟩ := h
    have heq := equation_iff.mp hab.1
    have hform : 4 * (a * z) * z * ((a * z) ^ 2 + A * (a * z) * z + z ^ 2) =
        (2 * b) ^ 2 * z ^ 4 := by
      linear_combination -4 * z ^ 4 * heq
    have hform' : ((a * z) ^ 2 - z ^ 2) ^ 2 = (a ^ 2 - 1) ^ 2 * z ^ 4 := by ring
    rw [hform, hform']
    cases hdouble : Point.some a b hab + Point.some a b hab with
    | zero =>
      have hb : b = (curve A).negY a b := by
        by_contra hne
        rw [Point.add_self_of_Y_ne hne] at hdouble
        exact Point.some_ne_zero _ hdouble
      have h2b : 2 * b = 0 := by
        rw [negY_eq] at hb
        linear_combination hb
      refine ⟨mul_ne_zero (pow_ne_zero 2 ?_) (pow_ne_zero 4 hz), by rw [h2b]; ring⟩
      intro hone
      have hb0 : b = 0 := (mul_eq_zero.mp h2b).resolve_left h2
      rw [hb0] at heq
      have ha : A * a = -2 := by
        have ha0 : a ≠ 0 := by
          rintro rfl
          simp at hone
        apply mul_left_cancel₀ ha0
        linear_combination -heq - a * hone
      apply hA
      have : A ^ 2 * a ^ 2 = 4 := by linear_combination (A * a - 2) * ha
      linear_combination this - A ^ 2 * hone
    | some u v huv =>
      obtain ⟨hu, h2b⟩ := double_some hdouble
      refine ⟨mul_ne_zero (pow_ne_zero 2 h2b) (pow_ne_zero 4 hz), ?_⟩
      linear_combination -z ^ 4 * hu

theorem Coords.add {P Q : (curve A).Point} {x₁ z₁ x₂ z₂ u v : K} {h : (curve A).Nonsingular u v}
    (h2 : (2 : K) ≠ 0) (hu : u ≠ 0) (hP : Coords P x₁ z₁) (hQ : Coords Q x₂ z₂)
    (hdiff : Q - P = Point.some u v h) :
    Coords (P + Q) (4 * (x₁ * x₂ - z₁ * z₂) ^ 2) (u * (4 * (x₁ * z₂ - z₁ * x₂) ^ 2)) := by
  have h4 : (4 : K) ≠ 0 := by
    have : (4 : K) = 2 * 2 := by norm_num
    rw [this]
    exact mul_ne_zero h2 h2
  cases P with
  | zero =>
    obtain ⟨hx₁, rfl⟩ := hP
    rw [← Point.zero_def, sub_zero] at hdiff
    subst hdiff
    obtain ⟨hz₂, rfl⟩ := hQ
    rw [← Point.zero_def, zero_add]
    refine ⟨mul_ne_zero hu (mul_ne_zero h4 (pow_ne_zero 2 ?_)), by ring⟩
    simpa using ⟨hx₁, hz₂⟩
  | some a b hab =>
    obtain ⟨hz₁, rfl⟩ := hP
    cases Q with
    | zero =>
      obtain ⟨hx₂, rfl⟩ := hQ
      rw [← Point.zero_def, zero_sub, Point.neg_some] at hdiff
      obtain rfl := (Point.some.inj hdiff).1
      rw [← Point.zero_def, add_zero]
      refine ⟨mul_ne_zero hu (mul_ne_zero h4 (pow_ne_zero 2 ?_)), by ring⟩
      simpa using ⟨hz₁, hx₂⟩
    | some c d hcd =>
      obtain ⟨hz₂, rfl⟩ := hQ
      by_cases hac : a = c
      · rcases Point.X_eq_iff.mp hac with heq | heq
        · rw [heq, sub_self] at hdiff
          exact absurd hdiff.symm (Point.some_ne_zero h)
        · rw [heq, sub_neg_eq_add] at hdiff
          obtain ⟨hdouble, h2d⟩ := double_some hdiff
          rw [heq, neg_add_cancel]
          subst hac
          refine ⟨mul_ne_zero h4 (pow_ne_zero 2 ?_), by ring⟩
          have hone : a ^ 2 - 1 ≠ 0 := by
            intro hzero
            rw [hzero, zero_pow (by decide)] at hdouble
            exact mul_ne_zero hu (pow_ne_zero 2 h2d) hdouble
          have hfactor : a * z₁ * (a * z₂) - z₁ * z₂ = (a ^ 2 - 1) * (z₁ * z₂) := by ring
          rw [hfactor]
          exact mul_ne_zero hone (mul_ne_zero hz₁ hz₂)
      · cases hsum : Point.some a b hab + Point.some c d hcd with
        | zero =>
          rw [Point.add_of_X_ne hac] at hsum
          exact absurd hsum (Point.some_ne_zero _)
        | some s t hst =>
          have hprod := add_sub_some hac hsum hdiff
          have hne : a - c ≠ 0 := sub_ne_zero.mpr hac
          have hz : a * z₁ * z₂ - z₁ * (c * z₂) = (a - c) * (z₁ * z₂) := by ring
          refine ⟨?_, ?_⟩
          · rw [hz]
            exact mul_ne_zero hu (mul_ne_zero h4
              (pow_ne_zero 2 (mul_ne_zero hne (mul_ne_zero hz₁ hz₂))))
          · linear_combination -4 * (z₁ * z₂) ^ 2 * hprod

end Montgomery
