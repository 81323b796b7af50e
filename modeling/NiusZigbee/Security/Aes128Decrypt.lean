import NiusZigbee.Security.Aes128
import NiusZigbee.Library.LittleEndian
import Mathlib.Data.Fintype.Card
import Mathlib.Data.Finite.Prod

/-!
# Software AES-128 decryption

The chip's cipher only encrypts. The inverse cipher expands the key first, and then undoes the
rounds in reverse order, with tables and in-place rotations of its own.
-/

namespace NiusZigbee

namespace ZigbeeAes128Decrypt

open ByteCodec
open Aes128 (xorBytes)

def kSbox : List UInt8 := [
  0x63, 0x7C, 0x77, 0x7B, 0xF2, 0x6B, 0x6F, 0xC5, 0x30, 0x01, 0x67, 0x2B, 0xFE, 0xD7, 0xAB, 0x76,
  0xCA, 0x82, 0xC9, 0x7D, 0xFA, 0x59, 0x47, 0xF0, 0xAD, 0xD4, 0xA2, 0xAF, 0x9C, 0xA4, 0x72, 0xC0,
  0xB7, 0xFD, 0x93, 0x26, 0x36, 0x3F, 0xF7, 0xCC, 0x34, 0xA5, 0xE5, 0xF1, 0x71, 0xD8, 0x31, 0x15,
  0x04, 0xC7, 0x23, 0xC3, 0x18, 0x96, 0x05, 0x9A, 0x07, 0x12, 0x80, 0xE2, 0xEB, 0x27, 0xB2, 0x75,
  0x09, 0x83, 0x2C, 0x1A, 0x1B, 0x6E, 0x5A, 0xA0, 0x52, 0x3B, 0xD6, 0xB3, 0x29, 0xE3, 0x2F, 0x84,
  0x53, 0xD1, 0x00, 0xED, 0x20, 0xFC, 0xB1, 0x5B, 0x6A, 0xCB, 0xBE, 0x39, 0x4A, 0x4C, 0x58, 0xCF,
  0xD0, 0xEF, 0xAA, 0xFB, 0x43, 0x4D, 0x33, 0x85, 0x45, 0xF9, 0x02, 0x7F, 0x50, 0x3C, 0x9F, 0xA8,
  0x51, 0xA3, 0x40, 0x8F, 0x92, 0x9D, 0x38, 0xF5, 0xBC, 0xB6, 0xDA, 0x21, 0x10, 0xFF, 0xF3, 0xD2,
  0xCD, 0x0C, 0x13, 0xEC, 0x5F, 0x97, 0x44, 0x17, 0xC4, 0xA7, 0x7E, 0x3D, 0x64, 0x5D, 0x19, 0x73,
  0x60, 0x81, 0x4F, 0xDC, 0x22, 0x2A, 0x90, 0x88, 0x46, 0xEE, 0xB8, 0x14, 0xDE, 0x5E, 0x0B, 0xDB,
  0xE0, 0x32, 0x3A, 0x0A, 0x49, 0x06, 0x24, 0x5C, 0xC2, 0xD3, 0xAC, 0x62, 0x91, 0x95, 0xE4, 0x79,
  0xE7, 0xC8, 0x37, 0x6D, 0x8D, 0xD5, 0x4E, 0xA9, 0x6C, 0x56, 0xF4, 0xEA, 0x65, 0x7A, 0xAE, 0x08,
  0xBA, 0x78, 0x25, 0x2E, 0x1C, 0xA6, 0xB4, 0xC6, 0xE8, 0xDD, 0x74, 0x1F, 0x4B, 0xBD, 0x8B, 0x8A,
  0x70, 0x3E, 0xB5, 0x66, 0x48, 0x03, 0xF6, 0x0E, 0x61, 0x35, 0x57, 0xB9, 0x86, 0xC1, 0x1D, 0x9E,
  0xE1, 0xF8, 0x98, 0x11, 0x69, 0xD9, 0x8E, 0x94, 0x9B, 0x1E, 0x87, 0xE9, 0xCE, 0x55, 0x28, 0xDF,
  0x8C, 0xA1, 0x89, 0x0D, 0xBF, 0xE6, 0x42, 0x68, 0x41, 0x99, 0x2D, 0x0F, 0xB0, 0x54, 0xBB, 0x16]

def kInvSbox : List UInt8 := [
  0x52, 0x09, 0x6A, 0xD5, 0x30, 0x36, 0xA5, 0x38, 0xBF, 0x40, 0xA3, 0x9E, 0x81, 0xF3, 0xD7, 0xFB,
  0x7C, 0xE3, 0x39, 0x82, 0x9B, 0x2F, 0xFF, 0x87, 0x34, 0x8E, 0x43, 0x44, 0xC4, 0xDE, 0xE9, 0xCB,
  0x54, 0x7B, 0x94, 0x32, 0xA6, 0xC2, 0x23, 0x3D, 0xEE, 0x4C, 0x95, 0x0B, 0x42, 0xFA, 0xC3, 0x4E,
  0x08, 0x2E, 0xA1, 0x66, 0x28, 0xD9, 0x24, 0xB2, 0x76, 0x5B, 0xA2, 0x49, 0x6D, 0x8B, 0xD1, 0x25,
  0x72, 0xF8, 0xF6, 0x64, 0x86, 0x68, 0x98, 0x16, 0xD4, 0xA4, 0x5C, 0xCC, 0x5D, 0x65, 0xB6, 0x92,
  0x6C, 0x70, 0x48, 0x50, 0xFD, 0xED, 0xB9, 0xDA, 0x5E, 0x15, 0x46, 0x57, 0xA7, 0x8D, 0x9D, 0x84,
  0x90, 0xD8, 0xAB, 0x00, 0x8C, 0xBC, 0xD3, 0x0A, 0xF7, 0xE4, 0x58, 0x05, 0xB8, 0xB3, 0x45, 0x06,
  0xD0, 0x2C, 0x1E, 0x8F, 0xCA, 0x3F, 0x0F, 0x02, 0xC1, 0xAF, 0xBD, 0x03, 0x01, 0x13, 0x8A, 0x6B,
  0x3A, 0x91, 0x11, 0x41, 0x4F, 0x67, 0xDC, 0xEA, 0x97, 0xF2, 0xCF, 0xCE, 0xF0, 0xB4, 0xE6, 0x73,
  0x96, 0xAC, 0x74, 0x22, 0xE7, 0xAD, 0x35, 0x85, 0xE2, 0xF9, 0x37, 0xE8, 0x1C, 0x75, 0xDF, 0x6E,
  0x47, 0xF1, 0x1A, 0x71, 0x1D, 0x29, 0xC5, 0x89, 0x6F, 0xB7, 0x62, 0x0E, 0xAA, 0x18, 0xBE, 0x1B,
  0xFC, 0x56, 0x3E, 0x4B, 0xC6, 0xD2, 0x79, 0x20, 0x9A, 0xDB, 0xC0, 0xFE, 0x78, 0xCD, 0x5A, 0xF4,
  0x1F, 0xDD, 0xA8, 0x33, 0x88, 0x07, 0xC7, 0x31, 0xB1, 0x12, 0x10, 0x59, 0x27, 0x80, 0xEC, 0x5F,
  0x60, 0x51, 0x7F, 0xA9, 0x19, 0xB5, 0x4A, 0x0D, 0x2D, 0xE5, 0x7A, 0x9F, 0x93, 0xC9, 0x9C, 0xEF,
  0xA0, 0xE0, 0x3B, 0x4D, 0xAE, 0x2A, 0xF5, 0xB0, 0xC8, 0xEB, 0xBB, 0x3C, 0x83, 0x53, 0x99, 0x61,
  0x17, 0x2B, 0x04, 0x7E, 0xBA, 0x77, 0xD6, 0x26, 0xE1, 0x69, 0x14, 0x63, 0x55, 0x21, 0x0C, 0x7D]

def sbox (i : UInt8) : UInt8 := kSbox.getD i.toNat 0

def invSbox (i : UInt8) : UInt8 := kInvSbox.getD i.toNat 0

def xtime (x : UInt8) : UInt8 := (x <<< 1) ^^^ (if x &&& 0x80 ≠ 0 then 0x1B else 0)

/-- The loop of `mul`, with the product so far. -/
def mulFrom : ℕ → UInt8 → UInt8 → UInt8 → UInt8
  | 0, p, _, _ => p
  | n + 1, p, a, b =>
    let p := if b &&& 1 ≠ 0 then p ^^^ a else p
    let hi := a &&& 0x80
    let a := a <<< 1
    let a := if hi ≠ 0 then a ^^^ 0x1B else a
    mulFrom n p a (b >>> 1)

def mul (a b : UInt8) : UInt8 := mulFrom 8 0 a b

/-- One pass of the loop of `keyExpansion`: the four bytes from `i` on, and `rcon`. -/
def expandWord (s : List UInt8 × UInt8) (i : ℕ) : List UInt8 × UInt8 :=
  let rk := s.1
  let rcon := s.2
  let t := slice rk (i - 4) 4
  if i % 16 = 0 then
    let t := [sbox (t.getD 1 0) ^^^ rcon, sbox (t.getD 2 0), sbox (t.getD 3 0), sbox (t.getD 0 0)]
    (rk ++ xorBytes (slice rk (i - 16) 4) t, xtime rcon)
  else (rk ++ xorBytes (slice rk (i - 16) 4) t, rcon)

def keyExpansion (key : Block) : List UInt8 :=
  ((List.range 40).foldl (fun s n => expandWord s (16 + 4 * n)) (key.toList, 1)).1

def addRoundKey (s k : List UInt8) : List UInt8 := xorBytes s k

def invSubBytes (s : List UInt8) : List UInt8 := s.map invSbox

/-- The state is kept column by column; row `r` rotates right by `r`. -/
def invShiftRows (s : List UInt8) : List UInt8 :=
  -- row 1
  let t := s.getD 13 0
  let s := s.set 13 (s.getD 9 0)
  let s := s.set 9 (s.getD 5 0)
  let s := s.set 5 (s.getD 1 0)
  let s := s.set 1 t
  -- row 2, two swaps
  let t := s.getD 2 0
  let s := s.set 2 (s.getD 10 0)
  let s := s.set 10 t
  let t := s.getD 6 0
  let s := s.set 6 (s.getD 14 0)
  let s := s.set 14 t
  -- row 3, to the left by one
  let t := s.getD 3 0
  let s := s.set 3 (s.getD 7 0)
  let s := s.set 7 (s.getD 11 0)
  let s := s.set 11 (s.getD 15 0)
  s.set 15 t

def invMixColumn (a0 a1 a2 a3 : UInt8) : List UInt8 :=
  [mul a0 14 ^^^ mul a1 11 ^^^ mul a2 13 ^^^ mul a3 9,
    mul a0 9 ^^^ mul a1 14 ^^^ mul a2 11 ^^^ mul a3 13,
    mul a0 13 ^^^ mul a1 9 ^^^ mul a2 14 ^^^ mul a3 11,
    mul a0 11 ^^^ mul a1 13 ^^^ mul a2 9 ^^^ mul a3 14]

def invMixColumns : List UInt8 → List UInt8
  | a0 :: a1 :: a2 :: a3 :: rest => invMixColumn a0 a1 a2 a3 ++ invMixColumns rest
  | _ => []

/-- One pass of the loop over the rounds. -/
def undoRound (rk s : List UInt8) (round : ℕ) : List UInt8 :=
  invMixColumns (addRoundKey (invSubBytes (invShiftRows s)) (slice rk (round * 16) 16))

def decryptBlock (key block : Block) : Block :=
  let rk := keyExpansion key
  let s := addRoundKey block.toList (slice rk 160 16)
  let s := [9, 8, 7, 6, 5, 4, 3, 2, 1].foldl (undoRound rk) s
  Block.ofList (addRoundKey (invSubBytes (invShiftRows s)) (slice rk 0 16))

/-! ## The tables and the field -/

theorem sbox_eq (b : UInt8) : sbox b = Aes128.sub b := by
  have hrows : ∀ row ∈ Aes128.sBox, row.length = 16 := by decide
  have htable : kSbox = Aes128.sBox.flatten := by decide +kernel
  rw [sbox, htable, Aes128.sub, getD_rows hrows (by decide)]

-- looking a byte up in a list is slow in the kernel, a digit of a number is not
private theorem table_digits : ∀ n : Fin 256, LittleEndian.number kInvSbox /
    256 ^ (LittleEndian.number kSbox / 256 ^ n.1 % 256) % 256 = n := by
  decide +kernel

theorem invSbox_sub (b : UInt8) : invSbox (Aes128.sub b) = b := by
  rw [← sbox_eq, ← UInt8.toNat_inj, invSbox, sbox, LittleEndian.toNat_getD, LittleEndian.toNat_getD]
  exact table_digits ⟨b.toNat, b.toNat_lt⟩

theorem xtime_eq (x : UInt8) : xtime x = Aes128.xtime x := by
  rw [xtime, Aes128.xtime]
  by_cases h : x &&& 0x80 = 0
  · rw [if_neg (not_not_intro h), if_pos h]
  · rw [if_pos h, if_neg h]

theorem and_mask : ∀ a : UInt8, a &&& 0x80 = 0 ∨ a &&& 0x80 = 0x80 := by
  apply forall_byte
  decide +kernel

theorem xtime_xor (a b : UInt8) :
    Aes128.xtime (a ^^^ b) = Aes128.xtime a ^^^ Aes128.xtime b := by
  have hand : (a ^^^ b) &&& 0x80 = (a &&& 0x80) ^^^ (b &&& 0x80) := by
    apply UInt8.toNat_inj.mp
    simp only [UInt8.toNat_and, UInt8.toNat_xor, Nat.and_xor_distrib_right]
  have hfeed : ∀ u v : UInt8, (u = 0 ∨ u = 0x80) → (v = 0 ∨ v = 0x80) →
      (if u ^^^ v = 0 then (0 : UInt8) else 0x1B) =
        (if u = 0 then 0 else 0x1B) ^^^ (if v = 0 then 0 else 0x1B) := by
    rintro u v (rfl | rfl) (rfl | rfl) <;> decide
  rw [Aes128.xtime, Aes128.xtime, Aes128.xtime, UInt8.shiftLeft_xor, hand,
    hfeed _ _ (and_mask a) (and_mask b)]
  ac_rfl

theorem double_eq (a : UInt8) :
    (if a &&& 0x80 ≠ 0 then (a <<< 1) ^^^ 0x1B else a <<< 1) = Aes128.xtime a := by
  rw [Aes128.xtime]
  by_cases h : a &&& 0x80 = 0
  · rw [if_neg (not_not_intro h), if_pos h, UInt8.xor_zero]
  · rw [if_pos h, if_neg h]

theorem mulFrom_xor (n : ℕ) (p p' a a' b : UInt8) :
    mulFrom n (p ^^^ p') (a ^^^ a') b = mulFrom n p a b ^^^ mulFrom n p' a' b := by
  induction n generalizing p p' a a' b with
  | zero => rfl
  | succ n ih =>
    simp only [mulFrom, double_eq, xtime_xor]
    split
    · rw [← ih]
      congr 1
      ac_rfl
    · exact ih _ _ _ _ _

theorem mul_xor (a a' b : UInt8) : mul (a ^^^ a') b = mul a b ^^^ mul a' b :=
  mulFrom_xor 8 0 0 a a' b

/-! ## Columns -/

theorem mulFrom_succ (n : ℕ) (p a b : UInt8) : mulFrom (n + 1) p a b =
    mulFrom n (if b &&& 1 ≠ 0 then p ^^^ a else p) (Aes128.xtime a) (b >>> 1) := by
  rw [mulFrom, double_eq]

theorem mul_factor (a : UInt8) :
    let twice := Aes128.xtime a
    let fourfold := Aes128.xtime twice
    let eightfold := Aes128.xtime fourfold
    mul a 9 = 0 ^^^ a ^^^ eightfold ∧ mul a 11 = 0 ^^^ a ^^^ twice ^^^ eightfold ∧
      mul a 13 = 0 ^^^ a ^^^ fourfold ^^^ eightfold ∧
      mul a 14 = 0 ^^^ twice ^^^ fourfold ^^^ eightfold := by
  simp only [mul, mulFrom_succ]
  exact ⟨rfl, rfl, rfl, rfl⟩

theorem mixColumn_xor (a b c d a' b' c' d' : UInt8) :
    Aes128.mixColumn (a ^^^ a') (b ^^^ b') (c ^^^ c') (d ^^^ d') =
      xorBytes (Aes128.mixColumn a b c d) (Aes128.mixColumn a' b' c' d') := by
  simp only [Aes128.mixColumn, xorBytes, xtime_xor, List.zipWith_cons_cons, List.zipWith_nil_left,
    List.cons.injEq, and_true]
  refine ⟨?_, ?_, ?_, ?_⟩ <;> ac_rfl

theorem invMixColumn_xor (a b c d a' b' c' d' : UInt8) :
    invMixColumn (a ^^^ a') (b ^^^ b') (c ^^^ c') (d ^^^ d') =
      xorBytes (invMixColumn a b c d) (invMixColumn a' b' c' d') := by
  simp only [invMixColumn, xorBytes, mul_xor, List.zipWith_cons_cons, List.zipWith_nil_left,
    List.cons.injEq, and_true]
  refine ⟨?_, ?_, ?_, ?_⟩ <;> ac_rfl

theorem undo_column_xor (a b c d a' b' c' d' : UInt8) :
    invMixColumns (Aes128.mixColumn (a ^^^ a') (b ^^^ b') (c ^^^ c') (d ^^^ d')) =
      xorBytes (invMixColumns (Aes128.mixColumn a b c d))
        (invMixColumns (Aes128.mixColumn a' b' c' d')) := by
  rw [mixColumn_xor]
  exact invMixColumn_xor _ _ _ _ _ _ _ _

theorem xor_cancel_left (a b : UInt8) : a ^^^ (a ^^^ b) = b := by
  rw [← UInt8.xor_assoc, UInt8.xor_self, UInt8.zero_xor]

theorem xor_left_comm (a b c : UInt8) : a ^^^ (b ^^^ c) = b ^^^ (a ^^^ c) := by
  rw [← UInt8.xor_assoc, UInt8.xor_comm a, UInt8.xor_assoc]

theorem undo_byte (a : UInt8) :
    invMixColumns (Aes128.mixColumn a 0 0 0) = [a, 0, 0, 0] ∧
      invMixColumns (Aes128.mixColumn 0 a 0 0) = [0, a, 0, 0] ∧
      invMixColumns (Aes128.mixColumn 0 0 a 0) = [0, 0, a, 0] ∧
      invMixColumns (Aes128.mixColumn 0 0 0 a) = [0, 0, 0, a] := by
  have hzero : Aes128.xtime 0 = 0 := rfl
  simp only [Aes128.mixColumn, invMixColumns, invMixColumn, mul_factor, xtime_xor, hzero,
    UInt8.zero_xor, UInt8.xor_zero, List.append_nil, List.cons.injEq, and_true]
  refine ⟨⟨?_, ?_, ?_, ?_⟩, ⟨?_, ?_, ?_, ?_⟩, ⟨?_, ?_, ?_, ?_⟩, ?_, ?_, ?_, ?_⟩ <;>
    simp only [UInt8.xor_assoc, UInt8.xor_comm, xor_left_comm, UInt8.xor_self, UInt8.xor_zero,
      xor_cancel_left]

theorem undo_column (a b c d : UInt8) :
    invMixColumns (Aes128.mixColumn a b c d) = [a, b, c, d] := by
  have hab := undo_column_xor a 0 0 0 0 b 0 0
  have hcd := undo_column_xor 0 0 c 0 0 0 0 d
  have hsum := undo_column_xor a b 0 0 0 0 c d
  simp only [UInt8.xor_zero, UInt8.zero_xor] at hab hcd hsum
  rw [hsum, hab, hcd, (undo_byte a).1, (undo_byte b).2.1, (undo_byte c).2.2.1, (undo_byte d).2.2.2]
  simp only [xorBytes, List.zipWith_cons_cons, List.zipWith_nil_left, UInt8.xor_zero,
    UInt8.zero_xor]

theorem mixColumns_undo {s : List UInt8} (h : s.length % 4 = 0) :
    (Aes128.mixColumns s).length = s.length ∧ invMixColumns (Aes128.mixColumns s) = s := by
  induction s using Aes128.mixColumns.induct with
  | case1 a b c d rest ih =>
    simp only [List.length_cons] at h
    obtain ⟨hlength, hundo⟩ := ih (by omega)
    constructor
    · rw [Aes128.mixColumns, List.length_append, hlength]
      exact Nat.add_comm 4 rest.length
    · have hcolumn := undo_column a b c d
      change invMixColumn _ _ _ _ ++ [] = [a, b, c, d] at hcolumn
      change invMixColumn _ _ _ _ ++ invMixColumns (Aes128.mixColumns rest) = _
      rw [List.append_nil] at hcolumn
      rw [hcolumn, hundo]
      rfl
  | case2 s hs =>
    rcases s with _ | ⟨a, _ | ⟨b, _ | ⟨c, _ | ⟨d, rest⟩⟩⟩⟩
    · exact ⟨rfl, rfl⟩
    · cases h
    · cases h
    · cases h
    · exact absurd rfl (hs a b c d rest)

/-! ## Rows and round keys -/

theorem xorBytes_length {a b : List UInt8} (h : a.length = b.length) :
    (xorBytes a b).length = a.length := by
  rw [xorBytes, List.length_zipWith, h, Nat.min_self]

theorem xorBytes_cancel {a b : List UInt8} (h : a.length = b.length) :
    xorBytes (xorBytes a b) b = a := by
  apply List.ext_getElem
  · rw [xorBytes_length ((xorBytes_length h).trans h), xorBytes_length h]
  · intro i hi hi'
    simp only [xorBytes, List.getElem_zipWith, UInt8.xor_assoc, UInt8.xor_self, UInt8.xor_zero]

theorem shiftRows_length (s : List UInt8) : (Aes128.shiftRows s).length = 16 := by
  rw [Aes128.shiftRows, List.length_map, List.length_range]

theorem invShiftRows_shiftRows {s : List UInt8} (h : s.length = 16) :
    invShiftRows (Aes128.shiftRows s) = s := by
  have hshift : Aes128.shiftRows s = [s.getD 0 0, s.getD 5 0, s.getD 10 0, s.getD 15 0,
      s.getD 4 0, s.getD 9 0, s.getD 14 0, s.getD 3 0, s.getD 8 0, s.getD 13 0, s.getD 2 0,
      s.getD 7 0, s.getD 12 0, s.getD 1 0, s.getD 6 0, s.getD 11 0] := rfl
  have hback : invShiftRows (Aes128.shiftRows s) = (List.range 16).map fun i => s.getD i 0 := by
    rw [hshift]
    simp only [invShiftRows, List.set_cons_succ, List.set_cons_zero, List.getD_cons_succ,
      List.getD_cons_zero]
    rfl
  rw [hback]
  apply List.ext_getElem
  · rw [h, List.length_map, List.length_range]
  · intro i hi hi'
    rw [List.getElem_map, List.getElem_range, List.getD_eq_getElem]

/-- The state before the last step of a round: substituted and shifted. -/
def half (s : List UInt8) : List UInt8 := Aes128.shiftRows (s.map Aes128.sub)

theorem half_length (s : List UInt8) : (half s).length = 16 := shiftRows_length _

theorem undo_half {s : List UInt8} (h : s.length = 16) :
    invSubBytes (invShiftRows (half s)) = s := by
  rw [half, invShiftRows_shiftRows (by rwa [List.length_map]), invSubBytes, List.map_map]
  have hid : invSbox ∘ Aes128.sub = id := funext invSbox_sub
  rw [hid, List.map_id]

/-! ## The key schedule -/

theorem xorBytes_comm (a b : List UInt8) : xorBytes a b = xorBytes b a :=
  List.zipWith_comm_of_comm fun x y => UInt8.xor_comm x y

/-- The round constants are the powers of two. -/
def rconAt (n : ℕ) : UInt8 := Aes128.xtime^[n] 1

/-- The round keys of the cipher. -/
def keyAt (key : List UInt8) : ℕ → List UInt8
  | 0 => key
  | n + 1 => Aes128.nextKey (rconAt n) (keyAt key n)

theorem nextKey_length {key : List UInt8} (h : key.length = 16) (rcon : UInt8) :
    (Aes128.nextKey rcon key).length = 16 := by
  simp only [Aes128.nextKey, xorBytes, List.length_append, List.length_zipWith, List.length_take,
    List.length_drop, List.length_cons, List.length_nil, h]
  rfl

theorem keyAt_length {key : List UInt8} (h : key.length = 16) (n : ℕ) :
    (keyAt key n).length = 16 := by
  induction n with
  | zero => exact h
  | succ n ih => exact nextKey_length ih _

theorem slice_append_right (pre bs : List UInt8) {off : ℕ} (len : ℕ) (h : pre.length ≤ off) :
    slice (pre ++ bs) off len = slice bs (off - pre.length) len := by
  rw [slice, slice, List.drop_append, List.drop_eq_nil_of_le h, List.nil_append]

/-- The words before the last 16 bytes do not matter. -/
theorem expandWord_append (pre bs : List UInt8) (rcon : UInt8) {i : ℕ} (hi : 16 ≤ i)
    (hpre : pre.length % 16 = 0) : expandWord (pre ++ bs, rcon) (pre.length + i) =
      (pre ++ (expandWord (bs, rcon) i).1, (expandWord (bs, rcon) i).2) := by
  have hlast : slice (pre ++ bs) (pre.length + i - 4) 4 = slice bs (i - 4) 4 := by
    rw [slice_append_right pre bs 4 (by omega)]
    congr 1
    omega
  have hprev : slice (pre ++ bs) (pre.length + i - 16) 4 = slice bs (i - 16) 4 := by
    rw [slice_append_right pre bs 4 (by omega)]
    congr 1
    omega
  have hmod : (pre.length + i) % 16 = i % 16 := by omega
  simp only [expandWord, hlast, hprev, hmod]
  split <;> rw [List.append_assoc]

theorem expandWord_within {key bs w : List UInt8} (rcon : UInt8) {i : ℕ} (hkey : key.length = 16)
    (hw : w.length = 4) (hi : i = 20 + bs.length) (hle : i ≤ 28) :
    expandWord (key ++ (bs ++ w), rcon) i =
      (key ++ (bs ++ w ++ xorBytes w (slice key (i - 16) 4)), rcon) := by
  have hlast : slice (key ++ (bs ++ w)) (i - 4) 4 = w := by
    rw [← List.append_assoc]
    exact slice_of_length (by rw [List.length_append]; omega) hw.symm
  have hprev : slice (key ++ (bs ++ w)) (i - 16) 4 = slice key (i - 16) 4 :=
    slice_append_left _ (by omega)
  simp only [expandWord, hlast, hprev]
  rw [if_neg (by omega), xorBytes_comm, List.append_assoc]

theorem expandWord_round {key : List UInt8} (h : key.length = 16) (rcon : UInt8) :
    [16, 20, 24, 28].foldl expandWord (key, rcon) =
      (key ++ Aes128.nextKey rcon key, Aes128.xtime rcon) := by
  let core := [Aes128.sub ((key.drop 12).getD 1 0) ^^^ rcon, Aes128.sub ((key.drop 12).getD 2 0),
    Aes128.sub ((key.drop 12).getD 3 0), Aes128.sub ((key.drop 12).getD 0 0)]
  let w0 := xorBytes core (key.take 4)
  let w1 := xorBytes w0 (slice key 4 4)
  let w2 := xorBytes w1 (slice key 8 4)
  have hlast : slice key 12 4 = key.drop 12 :=
    List.take_of_length_le (by rw [List.length_drop, h])
  have hslice : ∀ off, off + 4 ≤ 16 → (slice key off 4).length = 4 := by
    intro off hoff
    rw [slice, List.length_take, List.length_drop]
    omega
  have hlength0 : w0.length = 4 := xorBytes_length (hslice 0 (by decide)).symm
  have hlength1 : w1.length = 4 :=
    (xorBytes_length (hlength0.trans (hslice 4 (by decide)).symm)).trans hlength0
  have hlength2 : w2.length = 4 :=
    (xorBytes_length (hlength1.trans (hslice 8 (by decide)).symm)).trans hlength1
  have hstep0 : expandWord (key, rcon) 16 = (key ++ ([] ++ w0), Aes128.xtime rcon) := by
    simp only [expandWord, hlast, sbox_eq, xtime_eq]
    rw [if_pos trivial, xorBytes_comm]
    rfl
  have hstep1 := @expandWord_within key [] w0 (Aes128.xtime rcon) 20 h hlength0 rfl (by decide)
  have hstep2 := @expandWord_within key w0 w1 (Aes128.xtime rcon) 24 h hlength1
    (by rw [hlength0]) (by decide)
  have hstep3 := @expandWord_within key (w0 ++ w1) w2 (Aes128.xtime rcon) 28 h hlength2
    (by rw [List.length_append, hlength0, hlength1]) (by decide)
  rw [hlast] at hstep3
  rw [List.nil_append] at hstep0 hstep1
  simp only [List.foldl_cons, List.foldl_nil]
  rw [hstep0, hstep1]
  change expandWord (expandWord (key ++ (w0 ++ w1), Aes128.xtime rcon) 24) 28 = _
  rw [hstep2]
  change expandWord (key ++ (w0 ++ w1 ++ w2), Aes128.xtime rcon) 28 = _
  rw [hstep3]
  rfl

/-- The schedule is the round keys, one after the other. -/
theorem expand_eq {key : List UInt8} (h : key.length = 16) (n : ℕ) :
    (List.range (4 * n)).foldl (fun s n => expandWord s (16 + 4 * n)) (key, 1) =
      ((List.range (n + 1)).flatMap (keyAt key), rconAt n) := by
  induction n with
  | zero => simp [keyAt, rconAt]
  | succ n ih =>
    let pre := (List.range n).flatMap (keyAt key)
    have hpre : pre.length = n * 16 := by
      rw [length_records (keyAt_length h), List.length_range]
    have hround : ∀ bs rcon j, expandWord (pre ++ bs, rcon) (16 + 4 * (4 * n + j)) =
        (pre ++ (expandWord (bs, rcon) (16 + 4 * j)).1,
          (expandWord (bs, rcon) (16 + 4 * j)).2) := by
      intro bs rcon j
      rw [← expandWord_append pre bs rcon (Nat.le_add_right 16 _) (by omega)]
      congr 1
      omega
    have hfold : [0, 1, 2, 3].foldl (fun s j => expandWord s (16 + 4 * (4 * n + j)))
        (pre ++ keyAt key n, rconAt n) =
        (pre ++ ([16, 20, 24, 28].foldl expandWord (keyAt key n, rconAt n)).1,
          ([16, 20, 24, 28].foldl expandWord (keyAt key n, rconAt n)).2) := by
      simp only [List.foldl_cons, List.foldl_nil, hround]
    have hrcon : Aes128.xtime (rconAt n) = rconAt (n + 1) :=
      (Function.iterate_succ_apply' Aes128.xtime n 1).symm
    have hkeys : (List.range (n + 1)).flatMap (keyAt key) = pre ++ keyAt key n := by
      rw [List.range_succ, List.flatMap_append, List.flatMap_singleton]
    rw [show 4 * (n + 1) = 4 * n + 4 by omega, List.range_add, List.foldl_append, ih, hkeys,
      List.foldl_map]
    refine hfold.trans ?_
    rw [expandWord_round (keyAt_length h n), hrcon, ← List.append_assoc, ← hkeys,
      List.range_succ (n := n + 1), List.flatMap_append, List.flatMap_singleton]
    rfl

theorem slice_keyExpansion (key : Block) {r : ℕ} (hr : r ≤ 10) :
    slice (keyExpansion key) (r * 16) 16 = keyAt key.toList r := by
  have hkey : key.toList.length = 16 := key.length_toList
  have hrange : r < (List.range 11).length := by
    rw [List.length_range]
    omega
  rw [keyExpansion, expand_eq hkey 10, slice, drop_records (keyAt_length hkey) hrange,
    List.getElem_range, List.take_left' (keyAt_length hkey r)]

/-! ## The rounds -/

/-- The passes of the decryption take back the rounds of the encryption, the last one first. -/
theorem undo_rounds {key : List UInt8} (hkey : key.length = 16) (n m : ℕ) {s : List UInt8}
    (hs : s.length = 16) :
    ((List.range' (m + 1) n).reverse).foldl
        (fun s r => invMixColumns (addRoundKey (invSubBytes (invShiftRows s)) (keyAt key r)))
        (addRoundKey (Aes128.rounds ((List.range' m (n + 1)).map rconAt) (keyAt key m) s)
          (keyAt key (m + n + 1))) = half s := by
  induction n generalizing m s with
  | zero =>
    change addRoundKey (xorBytes (half s) (keyAt key (m + 1))) (keyAt key (m + 1)) = half s
    exact xorBytes_cancel ((half_length s).trans (keyAt_length hkey _).symm)
  | succ n ih =>
    obtain ⟨hlength, hundo⟩ := mixColumns_undo (s := half s) (by rw [half_length])
    have hsame : (Aes128.mixColumns (half s)).length = (keyAt key (m + 1)).length := by
      rw [hlength, half_length, keyAt_length hkey]
    let s' := xorBytes (Aes128.mixColumns (half s)) (keyAt key (m + 1))
    have hs' : s'.length = 16 := by
      rw [xorBytes_length hsame, hlength, half_length]
    have hround : Aes128.rounds ((List.range' m (n + 2)).map rconAt) (keyAt key m) s =
        Aes128.rounds ((List.range' (m + 1) (n + 1)).map rconAt) (keyAt key (m + 1)) s' := rfl
    have hpasses : (List.range' (m + 1) (n + 1)).reverse =
        (List.range' (m + 1 + 1) n).reverse ++ [m + 1] := by
      rw [List.range'_succ, List.reverse_cons]
    rw [hround, hpasses, List.foldl_append, show m + (n + 1) + 1 = m + 1 + n + 1 by omega,
      ih (m + 1) hs', List.foldl_cons, List.foldl_nil, undo_half hs', addRoundKey,
      xorBytes_cancel hsame, hundo]

theorem rounds_length {key : List UInt8} (hkey : key.length = 16) (n m : ℕ) (s : List UInt8) :
    (Aes128.rounds ((List.range' m (n + 1)).map rconAt) (keyAt key m) s).length = 16 := by
  induction n generalizing m s with
  | zero =>
    change (xorBytes (half s) (keyAt key (m + 1))).length = 16
    rw [xorBytes_length ((half_length s).trans (keyAt_length hkey _).symm), half_length]
  | succ n ih => exact ih (m + 1) _

/-- Decryption takes back the cipher. -/
theorem decryptBlock_encrypt (key block : Block) :
    decryptBlock key (Aes128.encrypt key block) = block := by
  have hkey : key.toList.length = 16 := key.length_toList
  have hblock : block.toList.length = 16 := block.length_toList
  have hfirst : (xorBytes block.toList key.toList).length = 16 :=
    (xorBytes_length (hblock.trans hkey.symm)).trans hblock
  have hrcons : ([0x01, 0x02, 0x04, 0x08, 0x10, 0x20, 0x40, 0x80, 0x1B, 0x36] : List UInt8) =
      (List.range' 0 10).map rconAt := rfl
  have hout : (Aes128.encrypt key block).toList =
      Aes128.rounds ((List.range' 0 10).map rconAt) key.toList
        (xorBytes block.toList key.toList) := by
    rw [Aes128.encrypt, hrcons, Block.toList_ofList]
    exact rounds_length hkey 9 0 _
  have hpasses : ∀ s, [9, 8, 7, 6, 5, 4, 3, 2, 1].foldl (undoRound (keyExpansion key)) s =
      ((List.range' 1 9).reverse).foldl
        (fun s r => invMixColumns (addRoundKey (invSubBytes (invShiftRows s))
          (keyAt key.toList r))) s := by
    intro s
    apply List.foldl_ext
    intro s r hr
    have hle : r ≤ 10 := by
      revert r
      decide
    rw [undoRound, slice_keyExpansion key hle]
  have hlast := slice_keyExpansion key (Nat.le_refl 10)
  have hstart := slice_keyExpansion key (Nat.zero_le 10)
  have hundo := undo_rounds hkey 9 0 hfirst
  simp only [Nat.zero_add, Nat.reduceAdd, Nat.zero_mul, Nat.reduceMul, keyAt.eq_1]
    at hlast hstart hundo
  simp only [decryptBlock, hpasses]
  rw [hout, hlast, hstart, hundo, undo_half hfirst, addRoundKey,
    xorBytes_cancel (hblock.trans hkey.symm), Block.ofList_toList]

theorem finite_block : Finite Block := by
  have : Finite UInt8 := Finite.of_injective UInt8.toFin fun _ _ => UInt8.toFin_inj.mp
  apply Finite.of_injective fun (block : Block) (i : Fin 16) => block[i]
  intro block block' h
  ext i hi
  exact congrArg UInt8.toNat (congrFun h ⟨i, hi⟩)

/-- And the cipher takes back decryption, since blocks are finitely many. -/
theorem encrypt_decryptBlock (key block : Block) :
    Aes128.encrypt key (decryptBlock key block) = block := by
  have hfinite := finite_block
  have hinverse : Function.LeftInverse (decryptBlock key) (Aes128.encrypt key) :=
    decryptBlock_encrypt key
  obtain ⟨plain, hplain⟩ := Finite.surjective_of_injective hinverse.injective block
  rw [← hplain, hinverse plain]

end ZigbeeAes128Decrypt

end NiusZigbee
