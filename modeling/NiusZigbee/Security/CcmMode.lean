import NiusZigbee.Security.CcmLoops
import NiusZigbee.Security.Aes128

/-!
# CCM* is CCM

The blocks, the keystream and the MIC of `ccmStarCrypt` are those of the counter mode with CBC-MAC
with a two-octet length, wherever there are additional data and the lengths are single bytes.
-/

namespace NiusZigbee

open ByteCodec

namespace CcmStar

variable {ecb : BlockCipher} {key : Block} {micLen : Nat} {nonce aad m : List UInt8}

/-! ## The blocks -/

private theorem octets_two (n : Nat) : Ccm.octets n 2 = [(n / 256).toUInt8, n.toUInt8] := by
  simp [Ccm.octets, List.range_succ]

private theorem octets_byte {n : Nat} (h : n ≤ 255) : Ccm.octets n 2 = [0, n.toUInt8] := by
  rw [octets_two, Nat.div_eq_of_lt (by omega)]
  rfl

theorem blockB0_eq (hmic : micLen ≤ 16) (hne : aad ≠ []) (hm : m.length ≤ 255) :
    blockB0 micLen nonce m.length = Ccm.firstBlock micLen 2 nonce aad m := by
  have hflags : ∀ k : Nat, k ≤ 7 → ((0x40 : UInt8) ||| (k.toUInt8 <<< 3) ||| 0x01) =
      (64 * 1 + 8 * k + (2 - 1)).toUInt8 := by decide
  have hbyte := hflags ((micLen - 2) / 2) (by omega)
  rw [blockB0, hbyte]
  simp only [Ccm.firstBlock, if_neg hne, octets_byte hm]
  rfl

theorem encodeData_eq (hne : aad ≠ []) (haad : aad.length ≤ 255) :
    Ccm.encodeData aad = [0, aad.length.toUInt8] ++ aad := by
  rw [Ccm.encodeData, if_neg hne, if_pos (by omega), octets_byte haad]

theorem counterBlock_eq {i : Nat} (h : i < 2 ^ 16) :
    counterBlock nonce i.toUInt16 = Ccm.block ((2 - 1).toUInt8 :: nonce ++ Ccm.octets i 2) := by
  have hi : i.toUInt16.toNat = i := UInt16.toNat_ofNat_of_lt' h
  have hhigh : (i.toUInt16 >>> 8).toUInt8 = (i / 256).toUInt8 := by
    apply UInt8.toNat_inj.mp
    simp [hi, Nat.shiftRight_eq_div_pow]
  have hlow : (i.toUInt16 &&& 0xFF).toUInt8 = i.toUInt8 := by
    apply UInt8.toNat_inj.mp
    simpa using Nat.and_two_pow_sub_one_eq_mod (i % 256) 8
  rw [counterBlock, hhigh, hlow, octets_two]
  rfl

/-! ## The passes -/

theorem cbcMac_eq (hmic : micLen ≤ 16) (hne : aad ≠ []) (haad : aad.length ≤ 255)
    (hm : m.length ≤ 255) :
    cbcMac ecb key micLen nonce aad m = Ccm.cbcMac (ecb key) micLen 2 nonce aad m := by
  have hlen : [(0 : UInt8), aad.length.toUInt8].length < 16 := by simp
  rw [cbcMac, if_neg hne, CcmLoops.absorb_eq _ (by decide), CcmLoops.absorb_eq _ hlen,
    ← encodeData_eq hne haad, List.nil_append, @blockB0_eq micLen nonce aad m hmic hne hm]
  exact List.foldl_append.symm

theorem mic_eq (hmic : micLen ≤ 16) (hne : aad ≠ []) (haad : aad.length ≤ 255)
    (hm : m.length ≤ 255) :
    mic ecb key micLen nonce aad m = Ccm.tag (ecb key) micLen 2 nonce aad m := by
  have hxor : ∀ a b : Block, (a.xor b).toList = List.zipWith (· ^^^ ·) a.toList b.toList := by
    intro a b
    apply List.ext_getElem (by simp)
    intro i hi hi'
    simp [Block.xor]
  have hfirst : ecb key (counterBlock nonce 0) = Ccm.keyBlock (ecb key) 2 nonce 0 := by
    have hzero : (0 : UInt16) = (0 : Nat).toUInt16 := rfl
    rw [hzero, counterBlock_eq (by decide), Ccm.keyBlock]
  rw [mic, hxor, cbcMac_eq hmic hne haad hm, hfirst, Ccm.tag]

theorem ctr_eq (hm : m.length ≤ 255) :
    ctr ecb key nonce m = Ccm.cipher (ecb key) 2 nonce m := by
  apply List.ext_getElem?
  intro i
  rw [Ccm.cipher, List.getElem?_zipWith]
  by_cases hi : i < m.length
  · rw [Ccm.getElem?_flatMap_blocks _ (by omega), List.getElem?_eq_getElem hi]
    have hblock : ecb key (counterBlock nonce (1 + i / 16).toUInt16) =
        Ccm.keyBlock (ecb key) 2 nonce (i / 16 + 1) := by
      rw [Nat.add_comm, counterBlock_eq (by omega), Ccm.keyBlock]
    have hget : (ctr ecb key nonce m)[i]? = some (m[i] ^^^
        (ecb key (counterBlock nonce (1 + i / 16).toUInt16))[i % 16]) := by
      rw [ctr, List.getElem?_mapIdx, List.getElem?_eq_getElem hi]
      rfl
    rw [hget, hblock]
  · rw [List.getElem?_eq_none (l := m) (by omega),
      List.getElem?_eq_none (by rw [ctr_length]; omega)]

end CcmStar

namespace CcmLoops

/-- The function ends. Encrypting, it gives the ciphertext and the tag of the mode; on a plaintext
and a MIC, it returns true when the MIC is that tag. -/
theorem ccmStarCrypt_is_ccm (ecb : BlockCipher) (key : Block) {micLen : Nat}
    (hmic : micLen ∈ [4, 6, 8, 10, 12, 14, 16]) (nonce : Vector UInt8 13) {aad message : List UInt8}
    (hne : aad ≠ []) (haad : aad.length ≤ 255) (hmsg : message.length ≤ 255) :
    let sent := Ccm.encrypt (ecb key) micLen 2 nonce.toList aad message
    ccmStarCrypt ecb key true micLen nonce.toList aad message none = some (some sent) ∧
      ∀ mic : List UInt8, mic.length = micLen →
        ∃ r, ccmStarCrypt ecb key false micLen nonce.toList aad message (some mic) = some r ∧
          (r.isSome ↔ mic = sent.2) := by
  intro sent
  have hle : micLen ≤ 16 := by
    simp only [List.mem_cons, List.not_mem_nil, or_false] at hmic
    omega
  have htag : CcmStar.mic ecb key micLen nonce.toList aad message = sent.2 :=
    CcmStar.mic_eq hle hne haad hmsg
  refine ⟨?_, fun mic hlen => ⟨_, ccmStarCrypt_eq hle haad hmsg ?_, ?_⟩⟩
  · rw [ccmStarCrypt_eq hle haad hmsg (by simp), CcmStar.ccmStarCrypt, htag, CcmStar.ctr_eq hmsg]
    rfl
  · rintro _ ⟨⟩
    exact hlen
  · rw [CcmStar.ccmStarCrypt, htag]
    by_cases heq : mic = sent.2
    · simp [heq]
    · simp [heq]

/-- A byte of additional data and a message of a block and one byte. -/
theorem ccmStarCrypt_is_ccm_two_blocks :
    let key := Block.ofList [1, 2, 3]
    let nonce : Vector UInt8 13 := Vector.replicate 13 0xA5
    let message : List UInt8 := List.replicate 17 0x5A
    let sent := Ccm.encrypt (Aes128.encrypt key) 4 2 nonce.toList [0x41] message
    ccmStarCrypt Aes128.encrypt key true 4 nonce.toList [0x41] message none = some (some sent) ∧
      sent.1.length = 17 ∧
      ∃ r, ccmStarCrypt Aes128.encrypt key false 4 nonce.toList [0x41] message (some sent.2) =
        some r ∧ r.isSome := by
  intro key nonce message sent
  have h := ccmStarCrypt_is_ccm Aes128.encrypt key (by decide : 4 ∈ _) nonce
    (by decide : [(0x41 : UInt8)] ≠ []) (by decide) (by decide : message.length ≤ 255)
  have htag : sent.2.length = 4 := by
    simp [sent, Ccm.encrypt, Ccm.tag]
  obtain ⟨r, hrun, hr⟩ := h.2 sent.2 htag
  refine ⟨h.1, ?_, r, hrun, hr.mpr rfl⟩
  simp [sent, Ccm.encrypt, Ccm.cipher, message, List.range_succ]

end CcmLoops

end NiusZigbee
