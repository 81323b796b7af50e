import NiusZigbee.Security.Curve25519
import Mathlib.NumberTheory.LucasPrimality
import Mathlib.Tactic.NormNum.Prime
import Mathlib.Tactic.ReduceModChar

/-!
# The modulus of X25519 is prime

A chain of Lucas tests: each prime of the chain is tested with the factors of its predecessor, and
the factors that `norm_num` does not settle come earlier in the chain.
-/

namespace NiusZigbee.ZigbeeCurve25519

/-- Lucas' test, with the factors of `n - 1` as a list of primes. -/
theorem prime_of_factors {n : ℕ} (a : ZMod n) (qs : List ℕ) (hprod : qs.prod = n - 1)
    (hqs : ∀ q ∈ qs, q.Prime) (hpow : a ^ (n - 1) = 1) (hne : ∀ q ∈ qs, a ^ ((n - 1) / q) ≠ 1) :
    n.Prime := by
  apply lucas_primality n a hpow
  intro q hq hdvd
  rw [← hprod] at hdvd
  obtain ⟨r, hr, hqr⟩ := (Prime.dvd_prod_iff hq.prime).mp hdvd
  rw [(Nat.prime_dvd_prime_iff_eq hq (hqs r hr)).mp hqr]
  exact hne r hr

private theorem prime₁ : Nat.Prime 2773320623 := by
  refine prime_of_factors 5 [2, 2437, 569003] (by decide) ?_ (by reduce_mod_char) ?_
  · simp only [List.forall_mem_cons]
    norm_num
  · simp only [List.forall_mem_cons, Nat.reduceSub, Nat.reduceDiv]
    reduce_mod_char
    decide

private theorem prime₂ : Nat.Prime 72106336199 := by
  refine prime_of_factors 7 [2, 13, 2773320623] (by decide) ?_ (by reduce_mod_char) ?_
  · simp only [List.forall_mem_cons, prime₁]
    norm_num
  · simp only [List.forall_mem_cons, Nat.reduceSub, Nat.reduceDiv]
    reduce_mod_char
    decide

private theorem prime₃ : Nat.Prime 1919519569386763 := by
  refine prime_of_factors 2 [2, 3, 7, 19, 47, 47, 127, 8574133]
    (by decide) ?_ (by reduce_mod_char) ?_
  · simp only [List.forall_mem_cons]
    norm_num
  · simp only [List.forall_mem_cons, Nat.reduceSub, Nat.reduceDiv]
    reduce_mod_char
    decide

private theorem prime₄ : Nat.Prime 75445702479781427272750846543864801 := by
  refine prime_of_factors 7 [2, 2, 2, 2, 2, 3, 3, 5, 5, 75707, 72106336199, 1919519569386763]
    (by decide) ?_ (by reduce_mod_char) ?_
  · simp only [List.forall_mem_cons, prime₂, prime₃]
    norm_num
  · simp only [List.forall_mem_cons, Nat.reduceSub, Nat.reduceDiv]
    reduce_mod_char
    decide

private theorem prime₅ : Nat.Prime 31757755568855353 := by
  refine prime_of_factors 10 [2, 2, 2, 3, 31, 107, 223, 4153, 430751]
    (by decide) ?_ (by reduce_mod_char) ?_
  · simp only [List.forall_mem_cons]
    norm_num
  · simp only [List.forall_mem_cons, Nat.reduceSub, Nat.reduceDiv]
    reduce_mod_char
    decide

private theorem prime₆ :
    Nat.Prime 74058212732561358302231226437062788676166966415465897661863160754340907 := by
  refine prime_of_factors 2
    [2, 3, 353, 57467, 132049, 1923133, 31757755568855353, 75445702479781427272750846543864801]
    (by decide) ?_ (by reduce_mod_char) ?_
  · simp only [List.forall_mem_cons, prime₅, prime₄]
    norm_num
  · simp only [List.forall_mem_cons, Nat.reduceSub, Nat.reduceDiv]
    reduce_mod_char
    decide

theorem two_pow_255_sub_19_prime :
    Nat.Prime 57896044618658097711785492504343953926634992332820282019728792003956564819949 := by
  refine prime_of_factors 2
    [2, 2, 3, 65147, 74058212732561358302231226437062788676166966415465897661863160754340907]
    (by decide) ?_ (by reduce_mod_char) ?_
  · simp only [List.forall_mem_cons, prime₆]
    norm_num
  · simp only [List.forall_mem_cons, Nat.reduceSub, Nat.reduceDiv]
    reduce_mod_char
    decide

instance : Fact prime.Prime := ⟨by
  have hprime : prime =
      57896044618658097711785492504343953926634992332820282019728792003956564819949 := by
    decide
  rw [hprime]
  exact two_pow_255_sub_19_prime⟩

end NiusZigbee.ZigbeeCurve25519
