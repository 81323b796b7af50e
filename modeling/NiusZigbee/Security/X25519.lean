import NiusZigbee.Library.LittleEndian
import NiusZigbee.Security.Curve25519Checked

/-!
# X25519 as a function

RFC 7748 states the function over numbers: the scalar is clamped, the coordinate loses its top bit,
and a Montgomery ladder runs modulo `2 ^ 255 - 19`. The source computes it in limbs, and none of its
computations overflows.
-/

namespace NiusZigbee.ZigbeeCurve25519

open Limbs LittleEndian Montgomery

/-! ## The function -/

/-- The three low bits and the top bit are cleared, and bit 254 is set. -/
def decodeScalar (k : Vector UInt8 32) : ℕ := 2 ^ 254 + 8 * (number k.toList / 8 % 2 ^ 251)

/-- The top bit is ignored, and the number may exceed the prime. -/
def decodeUCoordinate (u : Vector UInt8 32) : ZMod prime := (number u.toList % 2 ^ 255 : ℕ)

/-- The bytes of the representative below the prime. -/
def encodeUCoordinate (x : ZMod prime) : Vector UInt8 32 := bytes 32 x.val

/-- The bits 254 to 0, in that order. -/
def ladderBits (k : ℕ) : List Bool := List.ofFn fun i : Fin 255 => k.testBit i.rev.1

/-- The field inverse takes 0 to 0. -/
def x25519 (k u : Vector UInt8 32) : Vector UInt8 32 :=
  encodeUCoordinate (Ladder.result 121665 (decodeUCoordinate u) (ladderBits (decodeScalar k)))

/-! ## The scalar -/

theorem testBit_decodeScalar (k : Vector UInt8 32) (t : ℕ) :
    (decodeScalar k).testBit t =
      if t < 254 then decide (3 ≤ t) && (number k.toList).testBit t else decide (t = 254) := by
  have hlt : 8 * (number k.toList / 8 % 2 ^ 251) < 2 ^ 254 := by omega
  rw [decodeScalar, ← mul_one (2 ^ 254), Nat.testBit_two_pow_mul_add _ hlt]
  by_cases ht : t < 254
  · rw [if_pos ht, if_pos ht, show 8 = 2 ^ 3 from rfl, Nat.testBit_two_pow_mul,
      Nat.testBit_mod_two_pow, Nat.testBit_div_two_pow, decide_eq_true (by omega : t - 3 < 251),
      Bool.true_and]
    by_cases hlow : 3 ≤ t
    · rw [Nat.sub_add_cancel hlow]
    · rw [decide_eq_false hlow, Bool.false_and, Bool.false_and]
  · rw [if_neg ht, if_neg ht, Bool.eq_iff_iff, Nat.testBit_one_eq_true_iff_self_eq_zero,
      decide_eq_true_iff]
    omega

theorem getD_clamp (k : Vector UInt8 32) {i : ℕ} (hi : i < 32) :
    (clamp k).toList.getD i 0 =
      if i = 0 then k[0] &&& 248 else if i = 31 then (k[31] &&& 127) ||| 64 else k[i] := by
  rw [getD_toList _ hi]
  simp only [clamp, Vector.getElem_set, eq_comm (b := i), if_neg (by decide : ¬31 = 0)]

theorem testBit_firstByte (b : UInt8) {r : ℕ} (hr : r < 8) :
    (b &&& 248).toNat.testBit r = (decide (3 ≤ r) && b.toNat.testBit r) := by
  have hmask : ∀ r < 8, Nat.testBit 248 r = decide (3 ≤ r) := by decide
  rw [UInt8.toNat_and, Nat.testBit_and, UInt8.toNat_ofNat, hmask r hr, Bool.and_comm]

theorem testBit_lastByte (b : UInt8) {r : ℕ} (hr : r < 8) :
    ((b &&& 127) ||| 64).toNat.testBit r =
      if r < 6 then b.toNat.testBit r else decide (r = 6) := by
  have hmask : ∀ r < 8, Nat.testBit 127 r = decide (r < 7) ∧
      Nat.testBit 64 r = decide (r = 6) := by decide
  rw [UInt8.toNat_or, UInt8.toNat_and, Nat.testBit_or, Nat.testBit_and, UInt8.toNat_ofNat,
    UInt8.toNat_ofNat, (hmask r hr).1, (hmask r hr).2]
  rcases (by omega : r < 6 ∨ r = 6 ∨ r = 7) with hlow | rfl | rfl
  · rw [if_pos hlow, decide_eq_true (by omega : r < 7), decide_eq_false (by omega : ¬r = 6),
      Bool.and_true, Bool.or_false]
  · exact Bool.or_true _
  · exact (Bool.or_false _).trans (Bool.and_false _)

theorem number_clamp (k : Vector UInt8 32) : number (clamp k).toList = decodeScalar k := by
  apply Nat.eq_of_testBit_eq
  intro t
  have hr : t % 8 < 8 := Nat.mod_lt t (by decide)
  rw [testBit_number, testBit_decodeScalar, testBit_number]
  by_cases hinside : t / 8 < 32
  · rw [getD_clamp k hinside, getD_toList k hinside]
    by_cases hfirst : t / 8 = 0
    · simp only [hfirst, if_true]
      rw [testBit_firstByte _ hr, if_pos (by omega), show t % 8 = t by omega]
    by_cases hlast : t / 8 = 31
    · rw [if_neg hfirst, if_pos hlast, testBit_lastByte _ hr]
      simp only [hlast]
      by_cases ht : t < 254
      · rw [if_pos ht, if_pos (by omega), decide_eq_true (by omega : 3 ≤ t), Bool.true_and]
      · rw [if_neg ht, if_neg (by omega), decide_eq_decide]
        omega
    · rw [if_neg hfirst, if_neg hlast, if_pos (by omega), decide_eq_true (by omega : 3 ≤ t),
        Bool.true_and]
  · have hlen : (clamp k).toList.length ≤ t / 8 := by
      rw [Vector.length_toList]
      omega
    rw [List.getD_eq_getElem?_getD, List.getElem?_eq_none hlen, if_neg (by omega),
      decide_eq_false (by omega)]
    exact Nat.zero_testBit _

theorem scalarBit_eq_one_iff (z : Vector UInt8 32) (i : Fin 255) :
    decide (scalarBit z i = 1) = (number z.toList).testBit i.1 := by
  have hbyte : z.toList.getD (i.1 / 8) 0 = z[i.1 / 8] := getD_toList z (by omega)
  have hbit := toInt_ofByte ((z[i.1 / 8] >>> (i.1 % 8).toUInt8) &&& 1)
  have hbit' : ((z[i.1 / 8] >>> (i.1 % 8).toUInt8) &&& 1).toNat =
      z[i.1 / 8].toNat / 2 ^ (i.1 % 8) % 2 := by
    have hshift : (i.1 % 8).toUInt8.toNat % 8 = i.1 % 8 := by
      rw [Nat.toUInt8, UInt8.toNat_ofNat']
      omega
    rw [UInt8.toNat_and, UInt8.toNat_one, Nat.and_one_is_mod, UInt8.toNat_shiftRight, hshift,
      Nat.shiftRight_eq_div_pow]
  rw [testBit_number, hbyte, Nat.testBit_eq_decide_div_mod_eq, decide_eq_decide,
    ← Int64.toInt_inj, scalarBit, hbit, hbit']
  change _ = (1 : ℤ) ↔ _
  omega

theorem scalarBits_clamp_eq (k : Vector UInt8 32) :
    scalarBits (clamp k) = ladderBits (decodeScalar k) := by
  rw [scalarBits, ladderBits, ← number_clamp]
  exact congrArg List.ofFn (funext fun i => scalarBit_eq_one_iff (clamp k) i.rev)

/-! ## Coordinates -/

theorem value_word (b : Vector UInt8 32) : value (word b) = number b.toList := by
  rw [← value_pairs (n := 16) b.toList b.length_toList]
  apply congrArg value
  funext i
  rw [word, getD_toList b (by omega), getD_toList b (by omega)]

theorem element_unpack (u : Vector UInt8 32) : element (unpack u) = decodeUCoordinate u := by
  have hlow := @Digits.value_lt 15 (fun i => word u i.castSucc) fun i => word_digits u i.castSucc
  have hsplit := value_castSucc (word u)
  have hvalue : value (limb (unpack u)) = (number u.toList % 2 ^ 255 : ℕ) := by
    change value (word u) = _ + word u 15 * _ at hsplit
    rw [limb_unpack, value_update, value_word]
    rw [value_word] at hsplit
    norm_num at hsplit hlow ⊢
    omega
  rw [element, hvalue, decodeUCoordinate, Int.cast_natCast]

theorem pack_eq {n : Gfe} (hn : Reduced 1 n) : pack n = encodeUCoordinate (element n) := by
  obtain ⟨-, hlt, helement⟩ := canonical_spec hn
  have hvalue : (element n).val = number (pack n).toList := by
    have hnumber : value (limb (canonical n)) = number (pack n).toList := by
      rw [← word_pack hn, value_word]
    rw [hnumber] at hlt
    rw [← helement, element, hnumber, Int.cast_natCast, ZMod.val_natCast]
    exact Nat.mod_eq_of_lt (Nat.cast_lt.mp hlt)
  rw [encodeUCoordinate, hvalue, bytes_number]

/-! ## Scalar multiplication -/

/-- `scalarMult` is X25519, and no limb leaves 64 bits on the way. -/
theorem scalarMult_x25519 (scalar point : Vector UInt8 32) :
    scalarMult scalar point = x25519 scalar point ∧
      scalarMultChecked scalar point = some (x25519 scalar point) := by
  obtain ⟨hreduced, helement⟩ := product_spec scalar point
  have hresult : scalarMult scalar point = x25519 scalar point := by
    rw [scalarMult_eq_pack, pack_eq hreduced, helement, element_unpack, scalarBits_clamp_eq]
    rfl
  exact ⟨hresult, hresult ▸ scalarMultChecked_eq scalar point⟩

end NiusZigbee.ZigbeeCurve25519
