import NiusZigbee.Library.Limbs
import Mathlib.Data.Nat.Digits.Defs

/-!
# Little-endian numbers

A list of bytes is a number in base 256, the least significant digit first. Its bits are those of
its bytes, and two bytes at a time are a limb of 16 bits.
-/

namespace LittleEndian

def number (l : List UInt8) : ℕ := Nat.ofDigits 256 (l.map UInt8.toNat)

/-- The low `n` bytes of a number. -/
def bytes (n x : ℕ) : Vector UInt8 n := Vector.ofFn fun k => UInt8.ofNat (x / 256 ^ k.1)

theorem number_cons (b : UInt8) (l : List UInt8) : number (b :: l) = b.toNat + 256 * number l :=
  Nat.ofDigits_cons

theorem getD_toList {n k : ℕ} (v : Vector UInt8 n) (hk : k < n) : v.toList.getD k 0 = v[k] := by
  have hlen : k < v.toList.length := by rwa [Vector.length_toList]
  rw [List.getD_eq_getElem?_getD, List.getElem?_eq_getElem hlen, Option.getD_some,
    Vector.getElem_toList]

theorem number_div_pow (l : List UInt8) (k : ℕ) : number l / 256 ^ k = number (l.drop k) := by
  have hdigits : ∀ d ∈ l.map UInt8.toNat, d < 256 := by
    intro d hd
    obtain ⟨b, -, rfl⟩ := List.mem_map.mp hd
    exact b.toNat_lt
  rw [number, number, List.map_drop]
  exact Nat.ofDigits_div_pow_eq_ofDigits_drop k (by decide) _ hdigits

theorem bytes_number {n : ℕ} (v : Vector UInt8 n) : bytes n (number v.toList) = v := by
  ext k hk : 1
  have hlen : k < v.toList.length := by rwa [Vector.length_toList]
  rw [bytes, Vector.getElem_ofFn, number_div_pow, List.drop_eq_getElem_cons hlen, number_cons,
    Vector.getElem_toList, ← UInt8.toNat_inj, UInt8.toNat_ofNat']
  have hlt := v[k].toNat_lt
  omega

theorem toNat_getD (l : List UInt8) (k : ℕ) : (l.getD k 0).toNat = number l / 256 ^ k % 256 := by
  rw [number_div_pow, List.getD_eq_getElem?_getD, ← List.head?_drop]
  cases l.drop k with
  | nil => rfl
  | cons b rest =>
    rw [number_cons, Nat.add_mul_mod_self_left, Nat.mod_eq_of_lt b.toNat_lt]
    rfl

theorem testBit_number (l : List UInt8) (t : ℕ) :
    (number l).testBit t = (l.getD (t / 8) 0).toNat.testBit (t % 8) := by
  have hshift : (number l).testBit t = (number (l.drop (t / 8))).testBit (t % 8) := by
    rw [← number_div_pow, show 256 = 2 ^ 8 from rfl, ← pow_mul, Nat.testBit_div_two_pow,
      Nat.mod_add_div]
  rw [hshift, List.getD_eq_getElem?_getD, ← List.head?_drop]
  cases l.drop (t / 8) with
  | nil =>
    rw [number, List.map_nil, Nat.ofDigits_nil]
    rfl
  | cons b l =>
    rw [number_cons, add_comm, show 256 = 2 ^ 8 from rfl,
      Nat.testBit_two_pow_mul_add _ b.toNat_lt, if_pos (Nat.mod_lt t (by decide))]
    rfl

theorem value_pairs {n : ℕ} (l : List UInt8) (h : l.length = 2 * n) :
    Limbs.value (fun i : Fin n => ((l.getD (2 * i.1) 0).toNat +
      (l.getD (2 * i.1 + 1) 0).toNat * 2 ^ 8 : ℤ)) = number l := by
  induction n generalizing l with
  | zero =>
    rw [List.eq_nil_of_length_eq_zero h]
    rfl
  | succ n ih =>
    obtain ⟨lo, l, rfl⟩ := List.exists_cons_of_length_eq_add_one h
    obtain ⟨hi, l, rfl⟩ := List.exists_cons_of_length_eq_add_one (Nat.succ.inj h)
    have htail := ih l (by simpa [Nat.mul_succ] using h)
    rw [Limbs.value_succ, number_cons, number_cons]
    simp only [Fin.val_succ, Nat.mul_succ, List.getD_cons_succ]
    rw [htail]
    simp only [Fin.val_zero, Nat.mul_zero, List.getD_cons_zero]
    push_cast
    ring

end LittleEndian
