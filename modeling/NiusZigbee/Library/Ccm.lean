import NiusZigbee.Library.ByteCodec
import Mathlib.Data.Vector.Basic

/-!
# Counter with CBC-MAC

The mode as it is defined over any cipher on 16-octet blocks, for a tag of `M` octets and a message
length in `L` octets: a CBC-MAC over a first block, the additional data behind their length, and the
message, each zero-padded to blocks; and a keystream of numbered blocks, the first of them for the
tag.
-/

namespace Ccm

abbrev Block := Vector UInt8 16

/-- The first 16 octets, with zeros behind them. -/
def block (bs : List UInt8) : Block := Vector.ofFn fun j => bs.getD j 0

def xor (a b : Block) : Block := Vector.ofFn fun j => a.get j ^^^ b.get j

/-- `n` in `k` octets, most significant first. -/
def octets (n k : Nat) : List UInt8 := (List.range k).map fun i => (n / 256 ^ (k - 1 - i)).toUInt8

/-- The octets split into blocks, the last one zero-padded. -/
def blocks (bs : List UInt8) : List Block :=
  (List.range ((bs.length + 15) / 16)).map fun i => block (bs.drop (16 * i))

variable (E : Block → Block) (M L : Nat) (nonce : List UInt8)

/-- `B_0`: the flags, the nonce, the length of the message. -/
def firstBlock (a m : List UInt8) : Block :=
  let adata := if a = [] then 0 else 1
  block ((64 * adata + 8 * ((M - 2) / 2) + (L - 1)).toUInt8 :: nonce ++ octets m.length L)

/-- The additional data behind the encoding of their length. -/
def encodeData (a : List UInt8) : List UInt8 :=
  if a = [] then []
  else if a.length < 2 ^ 16 - 2 ^ 8 then octets a.length 2 ++ a
  else if a.length < 2 ^ 32 then [0xFF, 0xFE] ++ octets a.length 4 ++ a
  else [0xFF, 0xFF] ++ octets a.length 8 ++ a

/-- Every block is added to the last ciphertext and enciphered. -/
def chain (x : Block) (bs : List Block) : Block := bs.foldl (fun x b => E (xor x b)) x

/-- The authentication field, not yet cut to `M` octets. -/
def cbcMac (a m : List UInt8) : Block :=
  chain E (E (firstBlock M L nonce a m)) (blocks (encodeData a) ++ blocks m)

/-- `S_i`, the block of the keystream with the number `i`. -/
def keyBlock (i : Nat) : Block := E (block ((L - 1).toUInt8 :: nonce ++ octets i L))

/-- The message under the octets of `S_1`, `S_2` and so on. -/
def cipher (m : List UInt8) : List UInt8 :=
  List.zipWith (· ^^^ ·) m
    ((List.range ((m.length + 15) / 16)).flatMap fun i => (keyBlock E L nonce (i + 1)).toList)

/-- The first `M` octets of the tag under `S_0`. -/
def tag (a m : List UInt8) : List UInt8 :=
  (List.zipWith (· ^^^ ·) (cbcMac E M L nonce a m).toList (keyBlock E L nonce 0).toList).take M

/-- What is sent: the encrypted message and the encrypted authentication value. -/
def encrypt (a m : List UInt8) : List UInt8 × List UInt8 :=
  (cipher E L nonce m, tag E M L nonce a m)

/-! ## Blocks -/

@[simp] theorem blocks_nil : blocks [] = [] := rfl

theorem blocks_of_ne_nil {bs : List UInt8} (h : bs ≠ []) :
    blocks bs = block bs :: blocks (bs.drop 16) := by
  have hpos := List.length_pos_of_ne_nil h
  have hcount : (bs.length + 15) / 16 = ((bs.drop 16).length + 15) / 16 + 1 := by
    rw [List.length_drop]
    omega
  have htail : ∀ i ∈ List.range (((bs.drop 16).length + 15) / 16),
      ((fun i => block (bs.drop (16 * i))) ∘ Nat.succ) i = block ((bs.drop 16).drop (16 * i)) := by
    intro i _
    have hshift : 16 * (i + 1) = 16 + 16 * i := by omega
    rw [Function.comp_apply, List.drop_drop, Nat.succ_eq_add_one, hshift]
  rw [blocks, hcount, List.range_succ_eq_map, List.map_cons, List.map_map,
    List.map_congr_left htail, Nat.mul_zero, List.drop_zero, blocks]

theorem block_append {bs : List UInt8} (rest : List UInt8) (h : bs.length = 16) :
    block (bs ++ rest) = block bs := by
  apply Vector.ext
  intro i hi
  simp [block, List.getD_eq_getElem?_getD, List.getElem?_append_left (by omega : i < bs.length)]

theorem getElem?_flatMap_blocks (f : Nat → Block) {n i : Nat} (h : i / 16 < n) :
    ((List.range n).flatMap fun k => (f k).toList)[i]? = some (f (i / 16))[i % 16] := by
  have hsize : ∀ k, (f k).toList.length = 16 := fun k => Vector.length_toList
  have hdrop := @ByteCodec.drop_records Nat (fun k => (f k).toList) 16 hsize (List.range n) (i / 16)
    (by rwa [List.length_range])
  have hlt : i % 16 < (f (i / 16)).toList.length := by
    rw [hsize]
    exact Nat.mod_lt i (by decide)
  have hsum : i / 16 * 16 + i % 16 = i := Nat.div_add_mod' i 16
  rw [← hsum, ← List.getElem?_drop, hdrop, List.getElem_range, List.getElem?_append_left hlt,
    List.getElem?_eq_getElem hlt, hsum]
  rfl

end Ccm
