import Mathlib.Algebra.BigOperators.Fin
import Mathlib.Algebra.Order.BigOperators.Group.Finset
import Mathlib.Algebra.Order.Ring.Abs
import Mathlib.Tactic.Ring
import Mathlib.Tactic.Linarith

/-!
# Numbers in limbs of 16 bits

A vector of 64-bit limbs stands for the sum of its limbs at their powers of `2 ^ 16`. The limbs may
be larger than 16 bits, or negative. The operations on them are exact while no result leaves
64 bits.
-/

namespace Limbs

theorem foldl_invariant {σ : Type} {n : ℕ} (P : ℕ → σ → Prop) {f : σ → Fin n → σ} {s : σ}
    (hinit : P 0 s) (hstep : ∀ (i : Fin n) s, P i.1 s → P (i.1 + 1) (f s i)) :
    P n (Fin.foldl n f s) := by
  induction n with
  | zero => exact hinit
  | succ n ih =>
    rw [Fin.foldl_succ_last]
    exact hstep (Fin.last n) _ (ih fun i s h => hstep i.castSucc s h)

theorem foldl_sum {σ : Type} {n : ℕ} (P : ℕ → σ → Prop) (m : σ → ℤ) (g : Fin n → ℤ)
    {f : σ → Fin n → σ} {s : σ} (hinit : P 0 s)
    (hstep : ∀ (i : Fin n) s, P i.1 s → P (i.1 + 1) (f s i) ∧ m (f s i) = m s + g i) :
    P n (Fin.foldl n f s) ∧ m (Fin.foldl n f s) = m s + ∑ i, g i := by
  induction n with
  | zero => exact ⟨hinit, by simp⟩
  | succ n ih =>
    obtain ⟨hP, hm⟩ := ih (fun i => g i.castSucc) fun i s h => hstep i.castSucc s h
    obtain ⟨hP', hm'⟩ := hstep (Fin.last n) _ hP
    rw [Fin.foldl_succ_last, Fin.sum_univ_castSucc]
    exact ⟨hP', by rw [hm', hm, add_assoc]⟩

/-! ## Exact arithmetic -/

variable {a b : Int64}

/-- What 64 bits can hold. -/
def Fits (x : ℤ) : Prop := -2 ^ 63 ≤ x ∧ x < 2 ^ 63

theorem fits_of_abs {x B : ℤ} (h : |x| ≤ B) (hB : B < 2 ^ 63) : Fits x := by
  obtain ⟨h₁, h₂⟩ := abs_le.mp h
  exact ⟨by omega, by omega⟩

variable {x y : ℤ}

theorem toInt_add (ha : a.toInt = x) (hb : b.toInt = y) (h : Fits (x + y)) :
    (a + b).toInt = x + y := by
  rw [Int64.toInt_add, ha, hb]
  exact Int.bmod_eq_of_le h.1 h.2

theorem toInt_sub (ha : a.toInt = x) (hb : b.toInt = y) (h : Fits (x - y)) :
    (a - b).toInt = x - y := by
  rw [Int64.toInt_sub, ha, hb]
  exact Int.bmod_eq_of_le h.1 h.2

theorem toInt_mul (ha : a.toInt = x) (hb : b.toInt = y) (h : Fits (x * y)) :
    (a * b).toInt = x * y := by
  rw [Int64.toInt_mul, ha, hb]
  exact Int.bmod_eq_of_le h.1 h.2

variable {k : Int64} {c : ℕ}

theorem toInt_shiftRight (ha : a.toInt = x) (hk : (k.toBitVec.smod 64).toNat = c) :
    (a >>> k).toInt = x / 2 ^ c := by
  change (BitVec.sshiftRight' a.toBitVec (k.toBitVec.smod 64)).toInt = _
  rw [BitVec.toInt_sshiftRight', Int.shiftRight_eq_div_pow, hk, Int64.toInt_toBitVec, ha]
  push_cast
  rfl

theorem toInt_shiftLeft (ha : a.toInt = x) (hk : (k.toBitVec.smod 64).toNat = c)
    (h : Fits (x * 2 ^ c)) : (a <<< k).toInt = x * 2 ^ c := by
  change (a.toBitVec <<< (k.toBitVec.smod 64)).toInt = _
  have hmod : ((a.toBitVec.toNat * 2 ^ c : ℕ) : ℤ).bmod (2 ^ 64) = (x * 2 ^ c).bmod (2 ^ 64) := by
    rw [← ha, ← Int64.toInt_toBitVec, BitVec.toInt_eq_toNat_bmod, Int.bmod_mul_bmod]
    push_cast
    rfl
  rw [BitVec.shiftLeft_eq', BitVec.toInt_shiftLeft, hk, Nat.shiftLeft_eq, hmod]
  exact Int.bmod_eq_of_le h.1 h.2

/-- The mask `k` is `c` ones. -/
theorem toInt_and_ones (ha : a.toInt = x) (hc : c < 63) (hk : k.toBitVec.toNat = 2 ^ c - 1) :
    (a &&& k).toInt = x % 2 ^ c := by
  have hpow : (2 : ℤ) ^ c ∣ 2 ^ 64 := pow_dvd_pow 2 (by omega)
  have hlt : a.toBitVec.toNat % 2 ^ c < 2 ^ 63 :=
    Nat.lt_of_lt_of_le (Nat.mod_lt _ (by positivity)) (Nat.pow_le_pow_right (by decide) (by omega))
  have hmod : ((a.toBitVec.toNat % 2 ^ c : ℕ) : ℤ) = x % 2 ^ c := by
    have hword : (a.toBitVec.toNat : ℤ).bmod (2 ^ 64) % 2 ^ 64 = a.toBitVec.toNat % 2 ^ 64 := by
      exact_mod_cast Int.bmod_emod
    rw [← ha, ← Int64.toInt_toBitVec, BitVec.toInt_eq_toNat_bmod, ← Int.emod_emod_of_dvd _ hpow,
      hword, Int.emod_emod_of_dvd _ hpow]
    push_cast
    rfl
  change (a.toBitVec &&& k.toBitVec).toInt = _
  rw [BitVec.toInt_and, hk, Nat.and_two_pow_sub_one_eq_mod, ← hmod]
  apply Int.bmod_eq_of_le
  · omega
  · omega

theorem toInt_ofByte (u : UInt8) : u.toUInt64.toInt64.toInt = u.toNat := by
  change u.toUInt64.toBitVec.toInt = _
  have hlt := u.toNat_lt
  rw [BitVec.toInt_eq_toNat_bmod, UInt64.toNat_toBitVec, UInt8.toNat_toUInt64]
  exact Int.bmod_eq_of_le (by omega) (by omega)

theorem toNat_toByte (h₀ : 0 ≤ a.toInt) (h : a.toInt < 2 ^ 8) :
    (a.toUInt64.toUInt8.toNat : ℤ) = a.toInt := by
  have hcond := BitVec.toInt_eq_toNat_cond a.toBitVec
  have hlt := a.toBitVec.isLt
  rw [Int64.toInt_toBitVec] at hcond
  rw [UInt64.toNat_toUInt8]
  change ((a.toBitVec.toNat % 2 ^ 8 : ℕ) : ℤ) = a.toInt
  split at hcond
  · omega
  · omega

/-! ## Checked arithmetic -/

instance (x : ℤ) : Decidable (Fits x) := inferInstanceAs (Decidable (_ ∧ _))

/-- `none` where the sum leaves 64 bits. -/
def checkedAdd (a b : Int64) : Option Int64 :=
  if Fits (a.toInt + b.toInt) then some (a + b) else none

def checkedSub (a b : Int64) : Option Int64 :=
  if Fits (a.toInt - b.toInt) then some (a - b) else none

def checkedMul (a b : Int64) : Option Int64 :=
  if Fits (a.toInt * b.toInt) then some (a * b) else none

def checkedShiftLeft (a k : Int64) : Option Int64 :=
  if Fits (a.toInt * 2 ^ k.toInt.toNat) then some (a <<< k) else none

theorem checkedAdd_eq (ha : a.toInt = x) (hb : b.toInt = y) (h : Fits (x + y)) :
    checkedAdd a b = some (a + b) := by
  rw [checkedAdd, ha, hb, if_pos h]

theorem checkedSub_eq (ha : a.toInt = x) (hb : b.toInt = y) (h : Fits (x - y)) :
    checkedSub a b = some (a - b) := by
  rw [checkedSub, ha, hb, if_pos h]

theorem checkedMul_eq (ha : a.toInt = x) (hb : b.toInt = y) (h : Fits (x * y)) :
    checkedMul a b = some (a * b) := by
  rw [checkedMul, ha, hb, if_pos h]

theorem checkedShiftLeft_eq (ha : a.toInt = x) (hk : k.toInt.toNat = c) (h : Fits (x * 2 ^ c)) :
    checkedShiftLeft a k = some (a <<< k) := by
  rw [checkedShiftLeft, ha, hk, if_pos h]

theorem bind_of_some {α β : Type} {o : Option α} {r : α} {f : α → Option β} {res : Option β}
    (h : o = some r) (hf : f r = res) : (o >>= f) = res := by
  rw [h]
  exact hf

/-- A checked loop is the plain loop where no round fails. -/
theorem foldlM_some {σ : Type} {n : ℕ} (P : ℕ → σ → Prop) {f : σ → Fin n → σ}
    {g : σ → Fin n → Option σ} {s : σ} (hinit : P 0 s)
    (hstep : ∀ (i : Fin n) s, P i.1 s → g s i = some (f s i) ∧ P (i.1 + 1) (f s i)) :
    Fin.foldlM n g s = some (Fin.foldl n f s) ∧ P n (Fin.foldl n f s) := by
  induction n with
  | zero =>
    rw [Fin.foldlM_zero, Fin.foldl_zero]
    exact ⟨rfl, hinit⟩
  | succ n ih =>
    obtain ⟨hloop, hP⟩ := @ih (fun s i => f s i.castSucc) (fun s i => g s i.castSucc)
      fun i s h => hstep i.castSucc s h
    obtain ⟨hlast, hP'⟩ := hstep (Fin.last n) _ hP
    rw [Fin.foldlM_succ_last, Fin.foldl_succ_last]
    refine ⟨?_, hP'⟩
    rw [← hlast]
    exact congrArg (· >>= (g · (Fin.last n))) hloop

theorem ofFnM_some {α : Type} {n : ℕ} {f : Fin n → α} {g : Fin n → Option α}
    (h : ∀ i, g i = some (f i)) : Vector.ofFnM g = some (Vector.ofFn f) := by
  rw [funext h]
  exact Vector.ofFnM_pure

/-! ## Values -/

variable {n : ℕ} {d e : Fin n → ℤ}

def value (d : Fin n → ℤ) : ℤ := ∑ i, d i * 2 ^ (16 * i.1)

theorem value_succ_sum (d : Fin (n + 1) → ℤ) :
    value d = d 0 + ∑ i : Fin n, d i.succ * 2 ^ (16 * i.succ.1) := by
  rw [value, Fin.sum_univ_succ, Fin.val_zero, Nat.mul_zero, pow_zero, mul_one]

theorem value_succ (d : Fin (n + 1) → ℤ) :
    value d = d 0 + 2 ^ 16 * value fun i => d i.succ := by
  rw [value_succ_sum, value, Finset.mul_sum]
  congr 1
  apply Finset.sum_congr rfl
  intro i _
  rw [Fin.val_succ, Nat.mul_succ, pow_add]
  ring

theorem value_castSucc (d : Fin (n + 1) → ℤ) :
    value d = (value fun i => d i.castSucc) + d (Fin.last n) * 2 ^ (16 * n) := by
  rw [value, Fin.sum_univ_castSucc]
  rfl

theorem value_split {k : ℕ} (d : Fin (n + k) → ℤ) :
    value d = (value fun i => d (Fin.castAdd k i)) +
      2 ^ (16 * n) * value fun i => d (Fin.natAdd n i) := by
  rw [value, Fin.sum_univ_add, value, value, Finset.mul_sum]
  congr 1
  apply Finset.sum_congr rfl
  intro i _
  rw [Fin.val_natAdd, Nat.mul_add, pow_add]
  ring

theorem value_add (d e : Fin n → ℤ) : (value fun i => d i + e i) = value d + value e := by
  simp only [value, add_mul, Finset.sum_add_distrib]

theorem value_sub (d e : Fin n → ℤ) : (value fun i => d i - e i) = value d - value e := by
  simp only [value, sub_mul, Finset.sum_sub_distrib]

theorem value_mul (c : ℤ) (d : Fin n → ℤ) : (value fun i => c * d i) = c * value d := by
  simp only [value, mul_assoc, Finset.mul_sum]

theorem value_update (d : Fin n → ℤ) (i : Fin n) (x : ℤ) :
    value (Function.update d i x) = value d + (x - d i) * 2 ^ (16 * i.1) := by
  have hdiff : ∀ j, Function.update d i x j * 2 ^ (16 * j.1) =
      d j * 2 ^ (16 * j.1) + if j = i then (x - d i) * 2 ^ (16 * i.1) else 0 := by
    intro j
    by_cases hj : j = i
    · subst hj
      rw [Function.update_self, if_pos rfl]
      ring
    · rw [Function.update_of_ne hj, if_neg hj, add_zero]
  rw [value, Finset.sum_congr rfl fun j _ => hdiff j, Finset.sum_add_distrib,
    Finset.sum_ite_eq' Finset.univ i, if_pos (Finset.mem_univ i)]
  rfl

theorem value_step (d : Fin (n + 1) → ℤ) (i : Fin n) (x y : ℤ) :
    value (Function.update (Function.update d i.castSucc x) i.succ y) =
      value d + (x + 2 ^ 16 * y - (d i.castSucc + 2 ^ 16 * d i.succ)) * 2 ^ (16 * i.1) := by
  rw [value_update, value_update, Function.update_of_ne i.castSucc_lt_succ.ne', Fin.val_succ,
    Fin.val_castSucc, Nat.mul_succ, pow_add]
  ring

theorem abs_value_le {B : ℤ} (h : ∀ i, |d i| ≤ B) : |value d| ≤ B * (2 ^ (16 * n) - 1) := by
  induction n with
  | zero => simp [value]
  | succ n ih =>
    have hB : 0 ≤ B := (abs_nonneg _).trans (h 0)
    have hhead := abs_le.mp (h 0)
    have htail := abs_le.mp (ih fun i => h i.succ)
    rw [value_succ, Nat.mul_succ, pow_add, abs_le]
    constructor
    · linarith
    · linarith

/-! ## Digits -/

def Digits (d : Fin n → ℤ) : Prop := ∀ i, 0 ≤ d i ∧ d i < 2 ^ 16

theorem Digits.value_lt (h : Digits d) : 0 ≤ value d ∧ value d < 2 ^ (16 * n) := by
  induction n with
  | zero => simp [value]
  | succ n ih =>
    obtain ⟨h₀, h₁⟩ := h 0
    obtain ⟨ht₀, ht₁⟩ := ih fun i => h i.succ
    rw [value_succ, Nat.mul_succ, pow_add]
    constructor
    · positivity
    · nlinarith

theorem Digits.eq (hd : Digits d) (he : Digits e) (h : value d = value e) : d = e := by
  induction n with
  | zero => exact Subsingleton.elim d e
  | succ n ih =>
    rw [value_succ, value_succ] at h
    obtain ⟨hd₀, hd₁⟩ := hd 0
    obtain ⟨he₀, he₁⟩ := he 0
    have htail := ih (fun i => hd i.succ) (fun i => he i.succ) (by omega)
    funext i
    refine Fin.cases ?_ (fun i => congrFun htail i) i
    omega

theorem Digits.update {i : Fin n} {x : ℤ} (h : ∀ j ≠ i, 0 ≤ d j ∧ d j < 2 ^ 16)
    (hx : 0 ≤ x ∧ x < 2 ^ 16) : Digits (Function.update d i x) :=
  (Function.forall_update_iff d fun _ x => 0 ≤ x ∧ x < 2 ^ 16).mpr ⟨hx, h⟩

/-! ## Sweeps -/

/-- What a loop over the limbs leaves: `P` below limb `k`, `Q` at it and `R` above. -/
def Sweep (P Q R : ℤ → Prop) (k : ℕ) (d : Fin n → ℤ) : Prop :=
  ∀ j, (j.1 < k → P (d j)) ∧ (j.1 = k → Q (d j)) ∧ (k < j.1 → R (d j))

section Sweep

variable {P Q R : ℤ → Prop} {d : Fin (n + 1) → ℤ}

theorem Sweep.init (h₀ : Q (d 0)) (h : ∀ j ≠ 0, R (d j)) : Sweep P Q R 0 d := by
  intro j
  refine ⟨fun hj => absurd hj (Nat.not_lt_zero _), fun hj => ?_, fun hj => h j (Fin.ne_of_gt hj)⟩
  rwa [show j = 0 from Fin.ext hj]

theorem Sweep.step {i : Fin n} {x y : ℤ} (h : Sweep P Q R i.1 d) (hx : P x) (hy : Q y) :
    Sweep P Q R (i.1 + 1) (Function.update (Function.update d i.castSucc x) i.succ y) := by
  intro j
  by_cases hj : j = i.succ
  · subst hj
    rw [Function.update_self, Fin.val_succ]
    exact ⟨fun h => absurd h (Nat.lt_irrefl _), fun _ => hy, fun h => absurd h (Nat.lt_irrefl _)⟩
  rw [Function.update_of_ne hj]
  have hsucc : j.1 ≠ i.1 + 1 := fun h => hj (Fin.ext h)
  by_cases hj' : j = i.castSucc
  · subst hj'
    rw [Function.update_self]
    exact ⟨fun _ => hx, fun h => absurd h hsucc,
      fun h => absurd h (Nat.not_lt.mpr (Nat.le_succ _))⟩
  · rw [Function.update_of_ne hj']
    have hself : j.1 ≠ i.1 := fun h => hj' (Fin.ext h)
    exact ⟨fun hlt => (h j).1 (by omega), fun h => absurd h hsucc,
      fun hlt => (h j).2.2 (by omega)⟩

theorem Sweep.below (h : Sweep P Q R n d) (j : Fin (n + 1)) (hj : j ≠ Fin.last n) : P (d j) :=
  (h j).1 (Fin.val_lt_last hj)

end Sweep

/-! ## Vectors of limbs -/

def write (t : Vector Int64 n) (i : Fin n) (v : Int64) : Vector Int64 n := t.set i v

def limb (t : Vector Int64 n) (i : Fin n) : ℤ := (t.get i).toInt

@[simp] theorem get_write_self (t : Vector Int64 n) (i : Fin n) (v : Int64) :
    (write t i v).get i = v :=
  Vector.getElem_set_self _

theorem get_write_of_ne (t : Vector Int64 n) {i j : Fin n} (h : i ≠ j) (v : Int64) :
    (write t i v).get j = t.get j :=
  Vector.getElem_set_ne _ _ fun hij => h (Fin.ext hij)

theorem limb_write (t : Vector Int64 n) (i : Fin n) (v : Int64) :
    limb (write t i v) = Function.update (limb t) i v.toInt := by
  funext j
  rw [limb]
  by_cases hij : i = j
  · subst hij
    rw [get_write_self, Function.update_self]
  · rw [get_write_of_ne t hij, Function.update_of_ne fun h => hij h.symm]
    rfl

theorem limb_ofFn (f : Fin n → Int64) : limb (Vector.ofFn f) = fun i => (f i).toInt := by
  funext i
  exact congrArg Int64.toInt (Vector.getElem_ofFn _)

theorem eq_of_limb {t t' : Vector Int64 n} (h : limb t = limb t') : t = t' := by
  ext i hi
  exact Int64.toInt_inj.mp (congrFun h ⟨i, hi⟩)

end Limbs
