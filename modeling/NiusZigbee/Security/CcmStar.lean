import NiusZigbee.Library.ByteCodec
import NiusZigbee.Library.Ccm

/-!
# CCM*

AES-CCM* over a block cipher, with a two-byte length field. The block cipher is the chip's and a
parameter here: any function of key and block. The buffers the source fills byte by byte are lists
that grow byte by byte.
-/

namespace NiusZigbee

abbrev Block := Vector UInt8 16

/-- `NrfEcb::encrypt`: a key, a block, the block it becomes. -/
abbrev BlockCipher := Block → Block → Block

namespace Block

/-- A block filled with `bs` and zeros behind them. -/
def ofList (bs : List UInt8) : Block := Vector.ofFn fun i => bs.getD i 0

def xor (a b : Block) : Block := Vector.ofFn fun i => a[i] ^^^ b[i]

theorem ofList_toList (b : Block) : ofList b.toList = b := by
  apply Vector.ext
  intro i hi
  simp [ofList, List.getD_eq_getElem?_getD]

theorem toList_ofList {bs : List UInt8} (h : bs.length = 16) : (ofList bs).toList = bs := by
  apply List.ext_getElem
  · rw [Vector.length_toList, h]
  · intro i hi hi'
    simp [ofList, List.getD_eq_getElem?_getD, List.getElem?_eq_getElem hi']

end Block

namespace CcmStar

variable (ecb : BlockCipher) (key : Block)

/-- The first CBC-MAC block: flags, nonce, message length. -/
def blockB0 (micLen : Nat) (nonce : List UInt8) (inLen : Nat) : Block :=
  Block.ofList (((0x40 : UInt8) ||| (((micLen - 2) / 2).toUInt8 <<< 3) ||| 0x01) :: nonce ++
    [0, inLen.toUInt8])

/-- Bytes are collected in `chunk`; a full chunk, or a last zero-padded one, goes into the MAC. -/
def absorb : Block → List UInt8 → List UInt8 → Block
  | x, chunk, [] => if chunk = [] then x else ecb key (x.xor (Block.ofList chunk))
  | x, chunk, b :: bs =>
    let chunk := chunk ++ [b]
    if chunk.length = 16 then absorb (ecb key (x.xor (Block.ofList chunk))) [] bs
    else absorb x chunk bs

/-- The untruncated tag over `B0`, the length-prefixed AAD and the message. -/
def cbcMac (micLen : Nat) (nonce aad message : List UInt8) : Block :=
  let x := ecb key (blockB0 micLen nonce message.length)
  let x := if aad = [] then x else absorb ecb key x [0, aad.length.toUInt8] aad
  absorb ecb key x [] message

def counterBlock (nonce : List UInt8) (counter : UInt16) : Block :=
  Block.ofList (0x01 :: nonce ++ [(counter >>> 8).toUInt8, (counter &&& 0xFF).toUInt8])

/-- Byte `i` of the keystream, from the block with counter `1 + i / 16`. -/
def keystream (nonce : List UInt8) (i : Nat) : UInt8 :=
  (ecb key (counterBlock nonce (1 + i / 16).toUInt16))[i % 16]

/-- The CTR pass: the keystream is xored onto the bytes. -/
def ctr (nonce bytes : List UInt8) : List UInt8 :=
  bytes.mapIdx fun i b => b ^^^ keystream ecb key nonce i

/-- The first `micLen` bytes of the tag under the keystream of counter 0. -/
def mic (micLen : Nat) (nonce aad message : List UInt8) : List UInt8 :=
  let tag := (cbcMac ecb key micLen nonce aad message).xor (ecb key (counterBlock nonce 0))
  tag.toList.take micLen

/-- `none` is the MIC mismatch; else the output bytes and the MIC. -/
def ccmStarCrypt (encrypt : Bool) (micLen : Nat) (nonce aad inp : List UInt8)
    (micIn : Option (List UInt8)) : Option (List UInt8 × List UInt8) :=
  let tag := mic ecb key micLen nonce aad inp
  if micIn.any (· ≠ tag) then none
  else some (if encrypt then ctr ecb key nonce inp else [], tag)

variable {ecb key}

@[simp] theorem ctr_length (nonce bytes : List UInt8) :
    (ctr ecb key nonce bytes).length = bytes.length := by simp [ctr]

/-- The keystream taken twice cancels. -/
@[simp] theorem ctr_ctr (nonce bytes : List UInt8) :
    ctr ecb key nonce (ctr ecb key nonce bytes) = bytes := by
  apply List.ext_getElem (by simp)
  intro i _ _
  simp only [ctr, List.getElem_mapIdx]
  rw [UInt8.xor_assoc, UInt8.xor_self, UInt8.xor_zero]

theorem mic_length {micLen : Nat} (h : micLen ≤ 16) (nonce aad message : List UInt8) :
    (mic ecb key micLen nonce aad message).length = micLen := by
  simp [mic, h]

end CcmStar

end NiusZigbee
