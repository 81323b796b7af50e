import NiusZigbee.Library.ByteCodec
import NiusZigbee.Library.Crc
import NiusZigbee.Library.OutBuffer
import NiusZigbee.Security.AesMmo

/-!
# Install codes

A secret of 6, 8, 12 or 16 bytes with its checksum behind it. The link key of a device is the
AES-MMO hash of the whole code, and there is none for a code whose length or checksum is wrong.
-/

namespace NiusZigbee.ZigbeeInstallCode

open ByteCodec OutBuffer Scratch ZigbeeApsSecurity.Checked

def crc16 (data : List UInt8) : UInt16 :=
  Crc.run (Crc.feedback (· >>> 1) 1 0x8408) UInt8.toUInt16 0xFFFF data ^^^ 0xFFFF

example : crc16 ("123456789".toList.map fun c => c.toNat.toUInt8) = 0x906E := by decide +kernel

def validate (codeWithCrc : List UInt8) : Bool :=
  let len := codeWithCrc.length
  if len ≠ 8 ∧ len ≠ 10 ∧ len ≠ 14 ∧ len ≠ 18 then false
  else
    let computed := crc16 (codeWithCrc.take (len - 2))
    let stored := join16 (codeWithCrc.getD (len - 2) 0) (codeWithCrc.getD (len - 1) 0)
    computed == stored

def build (data : List UInt8) (outMax : UInt8) : Built :=
  let dataLen := data.length
  if dataLen ≠ 6 ∧ dataLen ≠ 8 ∧ dataLen ≠ 12 ∧ dataLen ≠ 16 then .fail
  else if outMax.toNat < dataLen + 2 then .fail
  else .exact (data ++ le16 (crc16 data))

/-- `none` is the source's `false`; `scratch` is the buffer of the hash as it comes. -/
def deriveLinkKey (encrypt : Encrypt) (scratch : Vector UInt8 96) (codeWithCrc : List UInt8) :
    Except Fault (Option Block) :=
  if ¬ validate codeWithCrc then .ok none else aesMmoHash encrypt scratch codeWithCrc

/-- The key an install code stands for, if it stands for one. -/
def linkKey (encrypt : Encrypt) (codeWithCrc : List UInt8) : Option Block :=
  if validate codeWithCrc then mmoHash encrypt codeWithCrc else none

example : linkKey (ofCipher Aes128.encrypt) [0x83, 0xFE, 0xD3, 0x40, 0x7A, 0x93, 0x97, 0x23, 0xA5,
      0xC6, 0x39, 0xB2, 0x69, 0x16, 0xD5, 0x05, 0xC3, 0xB5] =
    some (Block.ofList [0x66, 0xB6, 0x90, 0x09, 0x81, 0xE1, 0xEE, 0x3C, 0xA4, 0x20, 0x6B, 0x6B,
      0x86, 0x1C, 0x02, 0xBB]) := by
  decide +kernel

theorem validate_length {codeWithCrc : List UInt8} (h : validate codeWithCrc = true) :
    codeWithCrc.length ≤ 18 := by
  by_contra hlong
  rw [validate, if_pos (by omega)] at h
  cases h

theorem deriveLinkKey_eq (encrypt : Encrypt) (scratch : Vector UInt8 96)
    (codeWithCrc : List UInt8) :
    deriveLinkKey encrypt scratch codeWithCrc = .ok (linkKey encrypt codeWithCrc) := by
  rw [deriveLinkKey, linkKey]
  by_cases h : validate codeWithCrc = true
  · have hshort := validate_length h
    rw [if_neg (not_not_intro h), if_pos h, aesMmoHash_short scratch (by omega)]
  · rw [if_pos h, if_neg h]

/-- What is built is valid, and a build fails by its length or its room only. -/
theorem build_valid {data : List UInt8} {outMax : UInt8}
    (hlen : data.length = 6 ∨ data.length = 8 ∨ data.length = 12 ∨ data.length = 16)
    (hroom : data.length + 2 ≤ outMax.toNat) : validate (build data outMax).bytes = true := by
  have hbuild : build data outMax = .exact (data ++ le16 (crc16 data)) := by
    simp only [build]
    rw [if_neg (by omega), if_neg (by omega)]
  have hlength : (data ++ le16 (crc16 data)).length = data.length + 2 := by
    rw [List.length_append, le16_length]
  have hstored (i : ℕ) :
      (data ++ le16 (crc16 data)).getD (data.length + i) 0 = (le16 (crc16 data)).getD i 0 := by
    rw [List.getD_append_right _ _ _ _ (Nat.le_add_right _ _), Nat.add_sub_cancel_left]
  have hlo := hstored 0
  rw [Nat.add_zero] at hlo
  rw [hbuild, Built.exact_bytes]
  simp only [validate, hlength]
  rw [if_neg (by omega), Nat.add_sub_cancel, List.take_left, hlo,
    show data.length + 2 - 1 = data.length + 1 by omega, hstored 1]
  exact beq_iff_eq.mpr (join16_bytes (crc16 data)).symm

end NiusZigbee.ZigbeeInstallCode
