import NiusZigbee.Library.MontgomeryCurve
import Mathlib.FieldTheory.IsAlgClosed.AlgebraicClosure

/-!
# The Montgomery ladder

Scalar multiplication on first coordinates. Over a point the ladder ends with the first coordinate
of the multiple; an even multiple does not tell the point at infinity from the point over 0. Two
even scalars therefore commute, whatever coordinate they start from.
-/

namespace Montgomery

/-- Two points in homogeneous coordinates. -/
structure Ladder (K : Type*) where
  x₂ : K
  z₂ : K
  x₃ : K
  z₃ : K

def ofBits (bits : List Bool) : ℕ := bits.foldl (fun n r => 2 * n + r.toNat) 0

namespace Ladder

section Definitions

variable {K : Type*} [Field K] (a24 u : K)

def swap (s : Ladder K) : Bool → Ladder K
  | true => ⟨s.x₃, s.z₃, s.x₂, s.z₂⟩
  | false => s

/-- The first point is doubled, and the second is added to it; their difference lies over `u`. -/
def step (s : Ladder K) : Ladder K :=
  let aa := (s.x₂ + s.z₂) ^ 2
  let bb := (s.x₂ - s.z₂) ^ 2
  let e := aa - bb
  let da := (s.x₃ + s.z₃) * (s.x₂ - s.z₂)
  let cb := (s.x₃ - s.z₃) * (s.x₂ + s.z₂)
  { x₂ := aa * bb
    z₂ := e * (e * a24 + aa)
    x₃ := (da + cb) ^ 2
    z₃ := (da - cb) ^ 2 * u }

def bit (s : Ladder K) (r : Bool) : Ladder K := ((s.swap r).step a24 u).swap r

/-- The ladder over the bits of a scalar, the most significant first. -/
def run (bits : List Bool) : Ladder K := bits.foldl (bit a24 u) ⟨1, 0, u, 1⟩

def result (bits : List Bool) : K := (run a24 u bits).x₂ * (run a24 u bits).z₂⁻¹

end Definitions

variable {K : Type*} [Field K] {a24 u : K}

theorem run_concat (bits : List Bool) (r : Bool) :
    run a24 u (bits ++ [r]) = (run a24 u bits).bit a24 u r :=
  List.foldl_concat ..

theorem ofBits_concat (bits : List Bool) (r : Bool) :
    ofBits (bits ++ [r]) = 2 * ofBits bits + r.toNat :=
  List.foldl_concat ..

/-! ## Over a point -/

section Curve

open WeierstrassCurve.Affine

variable [DecidableEq K] {P Q : (curve (4 * a24 + 2)).Point} {v : K}
  {h : (curve (4 * a24 + 2)).Nonsingular u v} {n : ℕ} {s : Ladder K}

theorem step_coords (h2 : (2 : K) ≠ 0) (hA : (4 * a24 + 2) ^ 2 ≠ 4) (hu : u ≠ 0)
    (hP : Coords P s.x₂ s.z₂) (hQ : Coords Q s.x₃ s.z₃) (hdiff : Q - P = Point.some u v h) :
    Coords (P + P) (s.step a24 u).x₂ (s.step a24 u).z₂ ∧
      Coords (P + Q) (s.step a24 u).x₃ (s.step a24 u).z₃ := by
  have hdouble := hP.double h2 hA
  have hsum := Coords.add h2 hu hP hQ hdiff
  constructor
  · convert hdouble using 1
    · simp only [step]
      ring
    · simp only [step]
      ring
  · convert hsum using 1
    · simp only [step]
      ring
    · simp only [step]
      ring

/-- The points of the ladder are `n P` and `(n + 1) P`. -/
def Over (P : (curve (4 * a24 + 2)).Point) (n : ℕ) (s : Ladder K) : Prop :=
  Coords (n • P) s.x₂ s.z₂ ∧ Coords ((n + 1) • P) s.x₃ s.z₃

theorem Over.bit (h2 : (2 : K) ≠ 0) (hA : (4 * a24 + 2) ^ 2 ≠ 4) (hu : u ≠ 0)
    (hs : Over (Point.some u v h) n s) (r : Bool) :
    Over (Point.some u v h) (2 * n + r.toNat) (s.bit a24 u r) := by
  obtain ⟨hn, hn'⟩ := hs
  have hsucc : (n + 1) • Point.some u v h - n • Point.some u v h = Point.some u v h := by
    rw [succ_nsmul, add_sub_cancel_left]
  cases r with
  | false =>
    obtain ⟨hdouble, hsum⟩ := step_coords h2 hA hu hn hn' hsucc
    rw [← add_nsmul] at hdouble hsum
    rw [Bool.toNat_false, Nat.add_zero, two_mul]
    exact ⟨hdouble, hsum⟩
  | true =>
    have hpred : n • Point.some u v h - (n + 1) • Point.some u v h =
        Point.some u ((curve (4 * a24 + 2)).negY u v) ((nonsingular_neg u v).mpr h) := by
      rw [← neg_sub, hsucc, Point.neg_some]
    obtain ⟨hdouble, hsum⟩ := @step_coords K _ a24 u _ _ _ _ _ (s.swap true) h2 hA hu hn' hn hpred
    rw [← add_nsmul] at hdouble hsum
    rw [Bool.toNat_true]
    refine ⟨?_, ?_⟩
    · rw [show 2 * n + 1 = n + 1 + n by omega]
      exact hsum
    · rw [show 2 * n + 1 + 1 = n + 1 + (n + 1) by omega]
      exact hdouble

theorem run_over (h2 : (2 : K) ≠ 0) (hA : (4 * a24 + 2) ^ 2 ≠ 4) (hu : u ≠ 0)
    (h : (curve (4 * a24 + 2)).Nonsingular u v) (bits : List Bool) :
    Over (Point.some u v h) (ofBits bits) (run a24 u bits) := by
  induction bits using List.reverseRecOn with
  | nil =>
    refine ⟨?_, ?_⟩
    · rw [show ofBits [] = 0 from rfl, zero_nsmul]
      exact ⟨one_ne_zero, rfl⟩
    · rw [show ofBits [] = 0 from rfl, zero_add, one_nsmul]
      exact ⟨one_ne_zero, (mul_one u).symm⟩
  | append_singleton bits r ih =>
    rw [ofBits_concat, run_concat]
    exact ih.bit h2 hA hu r

end Curve

/-! ## Over 0 -/

/-- Neither point of the ladder is over anything but 0 and infinity. -/
def Degenerate (s : Ladder K) : Prop := s.x₂ * s.z₂ = 0 ∧ s.x₃ * s.z₃ = 0

theorem Degenerate.step {s : Ladder K} (hs : s.Degenerate) :
    (s.step a24 0).z₂ = 0 ∧ (s.step a24 0).z₃ = 0 := by
  refine ⟨?_, mul_zero _⟩
  have hzero : (s.x₂ + s.z₂) ^ 2 - (s.x₂ - s.z₂) ^ 2 = 0 := by linear_combination 4 * hs.1
  simp only [Ladder.step, hzero, zero_mul]

theorem Degenerate.bit {s : Ladder K} (hs : s.Degenerate) (r : Bool) :
    (s.bit a24 0 r).Degenerate := by
  cases r with
  | false =>
    obtain ⟨h₂, h₃⟩ := @Degenerate.step K _ a24 s hs
    exact ⟨mul_eq_zero_of_right _ h₂, mul_eq_zero_of_right _ h₃⟩
  | true =>
    obtain ⟨h₂, h₃⟩ := @Degenerate.step K _ a24 (s.swap true) hs.symm
    exact ⟨mul_eq_zero_of_right _ h₃, mul_eq_zero_of_right _ h₂⟩

theorem run_degenerate (bits : List Bool) : (run a24 0 bits).Degenerate := by
  induction bits using List.reverseRecOn with
  | nil => exact ⟨mul_zero 1, zero_mul 1⟩
  | append_singleton bits r ih =>
    rw [run_concat]
    exact ih.bit r

/-- An even scalar takes 0 to 0. -/
theorem result_zero (bits : List Bool) : result a24 (0 : K) (bits ++ [false]) = 0 := by
  have hzero : (run a24 (0 : K) (bits ++ [false])).z₂ = 0 := by
    rw [run_concat]
    exact (run_degenerate bits).step.1
  rw [result, hzero, inv_zero, mul_zero]

/-! ## Even scalars -/

theorem result_firstCoord [DecidableEq K] (h2 : (2 : K) ≠ 0) (hA : (4 * a24 + 2) ^ 2 ≠ 4)
    (P : (curve (4 * a24 + 2)).Point) (bits : List Bool) :
    result a24 (firstCoord P) (bits ++ [false]) =
      firstCoord (ofBits (bits ++ [false]) • P) := by
  cases P with
  | zero =>
    rw [← WeierstrassCurve.Affine.Point.zero_def, nsmul_zero]
    exact result_zero bits
  | some u v h =>
    by_cases hu : u = 0
    · subst hu
      have hv : v = 0 := by
        have heq := equation_iff.mp h.1
        simpa using heq
      have htwice : WeierstrassCurve.Affine.Point.some 0 v h +
          WeierstrassCurve.Affine.Point.some 0 v h = 0 :=
        WeierstrassCurve.Affine.Point.add_self_of_Y_eq (by rw [negY_eq, hv, neg_zero])
      have heven : ofBits (bits ++ [false]) = ofBits bits + ofBits bits := by
        rw [ofBits_concat, Bool.toNat_false, Nat.add_zero, two_mul]
      rw [heven, add_nsmul, ← nsmul_add, htwice, nsmul_zero]
      exact result_zero bits
    · exact (run_over h2 hA hu h (bits ++ [false])).1.firstCoord

theorem result_comm_of_closed [IsAlgClosed K] (h2 : (2 : K) ≠ 0) (hA : (4 * a24 + 2) ^ 2 ≠ 4)
    (u : K) (bits bits' : List Bool) :
    result a24 (result a24 u (bits ++ [false])) (bits' ++ [false]) =
      result a24 (result a24 u (bits' ++ [false])) (bits ++ [false]) := by
  classical
  obtain ⟨v, hv⟩ := IsAlgClosed.exists_pow_nat_eq (u ^ 3 + (4 * a24 + 2) * u ^ 2 + u)
    (by decide : 0 < 2)
  have hu : u = firstCoord (WeierstrassCurve.Affine.Point.some u v (nonsingular h2 hA hv)) := rfl
  rw [hu]
  simp only [result_firstCoord h2 hA]
  rw [nsmul_left_comm]

/-! ## From a field to its closure -/

section Map

variable {L : Type*} [Field L] (f : K →+* L)

def map (s : Ladder K) : Ladder L := ⟨f s.x₂, f s.z₂, f s.x₃, f s.z₃⟩

theorem run_map (bits : List Bool) : (run a24 u bits).map f = run (f a24) (f u) bits := by
  have hbit : ∀ (s : Ladder K) (r : Bool),
      (s.bit a24 u r).map f = (s.map f).bit (f a24) (f u) r := by
    intro s r
    cases r with
    | false => simp [bit, swap, step, map]
    | true => simp [bit, swap, step, map]
  induction bits using List.reverseRecOn with
  | nil => simp [run, map]
  | append_singleton bits r ih => rw [run_concat, run_concat, hbit, ih]

theorem result_map (bits : List Bool) : f (result a24 u bits) = result (f a24) (f u) bits := by
  rw [result, result, ← run_map f bits, map_mul, map_inv₀]
  rfl

end Map

theorem result_comm (h2 : (2 : K) ≠ 0) (hA : (4 * a24 + 2) ^ 2 ≠ 4) (u : K)
    (bits bits' : List Bool) :
    result a24 (result a24 u (bits ++ [false])) (bits' ++ [false]) =
      result a24 (result a24 u (bits' ++ [false])) (bits ++ [false]) := by
  have hinj := (algebraMap K (AlgebraicClosure K)).injective
  apply hinj
  simp only [result_map]
  apply result_comm_of_closed
  · rw [← map_ofNat (algebraMap K (AlgebraicClosure K)) 2, Ne, map_eq_zero]
    exact h2
  · intro hclosed
    apply hA
    apply hinj
    simpa only [map_pow, map_add, map_mul, map_ofNat] using hclosed

end Ladder

end Montgomery
