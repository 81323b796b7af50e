import NiusZigbee.Security.NwkSecurity

/-!
# Opening what was secured

The receiver rebuilds nonce and authenticated data from the frame alone. Under the same key both
come out as on the sender's side, the keystream cancels, and the header gets its security bit
cleared again.
-/

namespace NiusZigbee.ZigbeeSecurity

open ByteCodec OutBuffer

/-! ## The security bit -/

private theorem securityBit_byte (b : UInt8) :
    (b ||| 0x02) &&& 0x02 ≠ 0 ∧ (b ||| 0x02) ||| 0x02 = b ||| 0x02 ∧
      (b &&& 0x02 = 0 → (b ||| 0x02) &&& ~~~0x02 = b) := by
  have hall : ∀ i : Fin 256, (UInt8.ofNat i.1 ||| 0x02) &&& 0x02 ≠ 0 ∧
      (UInt8.ofNat i.1 ||| 0x02) ||| 0x02 = UInt8.ofNat i.1 ||| 0x02 ∧
      (UInt8.ofNat i.1 &&& 0x02 = 0 →
        (UInt8.ofNat i.1 ||| 0x02) &&& ~~~0x02 = UInt8.ofNat i.1) := by decide +kernel
  have hb : b = UInt8.ofNat b.toNat := by simp
  rw [hb]
  exact hall ⟨b.toNat, b.toNat_lt⟩

@[simp] theorem setNwkSecurityBit_length (npdu : List UInt8) (on : Bool) :
    (setNwkSecurityBit npdu on).length = npdu.length := by simp [setNwkSecurityBit]

section Header

variable {hdr : List UInt8}

private theorem header_split (h : 2 ≤ hdr.length) : ∃ a b rest, hdr = a :: b :: rest := by
  match hdr, h with
  | a :: b :: rest, _ => exact ⟨a, b, rest, rfl⟩

theorem securityBit_set (h : 2 ≤ hdr.length) (tail : List UInt8) :
    nwkSecurityBit (setNwkSecurityBit hdr true ++ tail) = true := by
  obtain ⟨a, b, rest, rfl⟩ := header_split h
  have hb := (securityBit_byte b).1
  simp [nwkSecurityBit, setNwkSecurityBit, hb]

theorem setSecurityBit_again (h : 2 ≤ hdr.length) (tail : List UInt8) :
    setNwkSecurityBit (setNwkSecurityBit hdr true ++ tail) true =
      setNwkSecurityBit hdr true ++ tail := by
  obtain ⟨a, b, rest, rfl⟩ := header_split h
  have hb := (securityBit_byte b).2.1
  simp [setNwkSecurityBit, hb]

theorem securityBit_cleared (h : 2 ≤ hdr.length) {tail : List UInt8}
    (hclear : nwkSecurityBit (hdr ++ tail) = false) :
    setNwkSecurityBit (setNwkSecurityBit hdr true) false = hdr := by
  obtain ⟨a, b, rest, rfl⟩ := header_split h
  have hbit : b &&& 0x02 = 0 := by simpa [nwkSecurityBit] using hclear
  have hb := (securityBit_byte b).2.2 hbit
  simp [setNwkSecurityBit, hb]

end Header

/-! ## The secured frame -/

def controlCrypto : UInt8 := 0x28 ||| kLevel

def auxBytes (keySeq : UInt8) (srcIeee : UInt64) (frameCounter : UInt32) : List UInt8 :=
  0x28 :: le32 frameCounter ++ le64 srcIeee ++ [keySeq]

theorem auxBytes_length (keySeq : UInt8) (srcIeee : UInt64) (frameCounter : UInt32) :
    (auxBytes keySeq srcIeee frameCounter).length = kAuxLen := by
  simp [auxBytes, kAuxLen]

variable (ecb : BlockCipher)

/-- Header with its bit set, auxiliary header, ciphertext, MIC. -/
def securedBytes (key : Block) (keySeq : UInt8) (npdu : List UInt8) (headerLen : Nat)
    (srcIeee : UInt64) (frameCounter : UInt32) : List UInt8 :=
  let hdr := setNwkSecurityBit (npdu.take headerLen) true
  let aux := auxBytes keySeq srcIeee frameCounter
  let nonce := nonce srcIeee frameCounter controlCrypto
  hdr ++ aux ++ CcmStar.ctr ecb key nonce (npdu.drop headerLen) ++
    CcmStar.mic ecb key kMicLen nonce (authData (hdr ++ aux) headerLen controlCrypto)
      (npdu.drop headerLen)

variable {ecb} {s : ZigbeeSecurity} {key : Block} {keySeq : UInt8} {npdu : List UInt8}
  {headerLen : Nat} {srcIeee : UInt64} {frameCounter : UInt32} {outMax : UInt8}

theorem mic_length (nonce aad message : List UInt8) :
    (CcmStar.mic ecb key kMicLen nonce aad message).length = kMicLen :=
  CcmStar.mic_length (by decide) nonce aad message

theorem securedBytes_length (hle : headerLen ≤ npdu.length) :
    (securedBytes ecb key keySeq npdu headerLen srcIeee frameCounter).length =
      npdu.length + kAuxLen + kMicLen := by
  simp only [securedBytes, List.length_append, setNwkSecurityBit_length, List.length_take,
    auxBytes_length, CcmStar.ctr_length, List.length_drop, mic_length]
  omega

/-- The conditions under which `secureNpdu` does not return 0, for frames whose total fits. -/
structure Fits (npdu : List UInt8) (headerLen : Nat) (outMax : UInt8) : Prop where
  header : headerLen ≤ npdu.length
  aad : headerLen + kAuxLen ≤ kMaxAad
  total : npdu.length + kAuxLen + kMicLen ≤ outMax.toNat

theorem secureNpdu_eq (hkey : s.hasKey = true) (h : Fits npdu headerLen outMax) :
    s.secureNpdu ecb npdu headerLen srcIeee frameCounter outMax =
      ({ s with stats := { s.stats with secured := s.stats.secured + 1 } },
        .exact (securedBytes ecb s.key s.keySequence npdu headerLen srcIeee frameCounter)) := by
  have hmax := outMax.toNat_lt
  obtain ⟨hheader, haad, htotal⟩ := h
  have hmod : (npdu.length + kAuxLen + kMicLen) % 256 = npdu.length + kAuxLen + kMicLen := by omega
  have hhdr : (setNwkSecurityBit (npdu.take headerLen) true).length = headerLen := by simp [hheader]
  have haux := auxBytes_length s.keySequence srcIeee frameCounter
  have haad' : ¬ (headerLen + kAuxLen) % 256 > kMaxAad := by
    simp only [kMaxAad] at haad ⊢
    omega
  rw [secureNpdu, if_neg (by simp [hkey]; omega)]
  simp only [hmod, if_neg (Nat.not_lt.mpr htotal), if_neg haad', CcmStar.ccmStarCrypt,
    Option.any_none, Bool.false_eq_true, if_false, if_true]
  refine Prod.ext rfl ?_
  simp only [Built.exact, securedBytes_length hheader, Built.mk.injEq, true_and]
  change emit 0 (setNwkSecurityBit (npdu.take headerLen) true) ++
    emit headerLen (auxBytes s.keySequence srcIeee frameCounter) ++ emit (headerLen + kAuxLen) _ ++
    emit (npdu.length + kAuxLen) _ = _
  rw [emit_glue _ _ (by omega), emit_glue _ _ (by rw [List.length_append]; omega),
    emit_glue _ _ (by
      simp only [List.length_append, CcmStar.ctr_length, List.length_drop]
      omega)]
  rfl

theorem secureNpdu_fits (hlen : npdu.length + kAuxLen + kMicLen ≤ 255)
    (h : (s.secureNpdu ecb npdu headerLen srcIeee frameCounter outMax).2.len ≠ 0) :
    s.hasKey = true ∧ Fits npdu headerLen outMax := by
  have hmod : (npdu.length + kAuxLen + kMicLen) % 256 = npdu.length + kAuxLen + kMicLen := by omega
  simp only [secureNpdu, hmod] at h
  split at h
  · simp at h
  next hkey =>
  split at h
  · simp at h
  next htotal =>
  split at h
  · simp at h
  next haad =>
  simp only [Bool.or_eq_true, Bool.not_eq_true', decide_eq_true_eq, not_or, Bool.not_eq_false]
    at hkey
  refine ⟨hkey.1, by omega, ?_, by omega⟩
  simp only [kMicLen, kAuxLen, kMaxAad] at *
  omega

/-! ## The receiver's side -/

private theorem aux_fields (keySeq : UInt8) (srcIeee : UInt64) (frameCounter : UInt32) :
    slice (auxBytes keySeq srcIeee frameCounter) 1 4 = le32 frameCounter ∧
      slice (auxBytes keySeq srcIeee frameCounter) 5 8 = le64 srcIeee ∧
      (auxBytes keySeq srcIeee frameCounter).getD 13 0 = keySeq ∧
      (auxBytes keySeq srcIeee frameCounter).getD 0 0 = 0x28 := by
  refine ⟨?_, ?_, ?_, rfl⟩
  · simp [slice, auxBytes, le32]
  · rw [auxBytes, show (0x28 :: le32 frameCounter ++ le64 srcIeee ++ [keySeq] : List UInt8) =
      (0x28 :: le32 frameCounter) ++ (le64 srcIeee ++ [keySeq]) by simp, slice,
      List.drop_left' (by simp), List.take_left' (by simp)]
  · rw [auxBytes, List.getD_eq_getElem?_getD, List.getElem?_append_right (by simp)]
    simp

/-- The node has the key under this sequence number: as its active key, or as its alternate key
while the active key has another sequence number. -/
def Holds (s : ZigbeeSecurity) (key : Block) (keySeq : UInt8) : Prop :=
  s.hasKey = true ∧ (s.key = key ∧ s.keySequence = keySeq ∨
    s.hasAlt = true ∧ s.altKey = key ∧ s.altKeySeq = keySeq ∧ s.keySequence ≠ keySeq)

theorem Holds.selectKey (h : s.Holds key keySeq) : s.selectKey keySeq = some key := by
  obtain ⟨-, ⟨rfl, rfl⟩ | ⟨halt, rfl, rfl, hne⟩⟩ := h
  · simp [ZigbeeSecurity.selectKey]
  · simp [ZigbeeSecurity.selectKey, halt, hne.symm]

/-- A node with a single key tries it whatever the sequence number. -/
theorem selectKey_single (h : s.hasAlt = false) (keySeq : UInt8) :
    s.selectKey keySeq = some s.key := by
  simp [ZigbeeSecurity.selectKey, h]

/-- A frame secured under the key the receiver selects is authentic and decrypts to the
original. -/
theorem authenticate_secured (hkey : s.hasKey = true) (hsel : s.selectKey keySeq = some key)
    (htwo : 2 ≤ headerLen) (hheader : headerLen ≤ npdu.length)
    (haad : headerLen + kAuxLen ≤ kMaxAad) (hlen : npdu.length + kAuxLen + kMicLen ≤ 255)
    (hout : npdu.length ≤ outMax.toNat) (hclear : nwkSecurityBit npdu = false) :
    s.authenticate ecb (securedBytes ecb key keySeq npdu headerLen srcIeee frameCounter) headerLen
        outMax = .ok ⟨npdu, srcIeee, keySeq, frameCounter⟩ := by
  have hhdr2 : 2 ≤ (npdu.take headerLen).length := by simp [hheader, htwo]
  have hset : (setNwkSecurityBit (npdu.take headerLen) true).length = headerLen := by simp [hheader]
  have htotal : (securedBytes ecb key keySeq npdu headerLen srcIeee frameCounter).length =
      npdu.length + kAuxLen + kMicLen := securedBytes_length hheader
  obtain ⟨hfc, hieee, hseq, hctl⟩ := aux_fields keySeq srcIeee frameCounter
  obtain ⟨cipher, hcipher⟩ : ∃ cipher, cipher = CcmStar.ctr ecb key
    (nonce srcIeee frameCounter controlCrypto) (npdu.drop headerLen) := ⟨_, rfl⟩
  obtain ⟨mic, hmic⟩ : ∃ mic, mic = CcmStar.mic ecb key kMicLen
    (nonce srcIeee frameCounter controlCrypto)
    (authData (setNwkSecurityBit (npdu.take headerLen) true ++
      auxBytes keySeq srcIeee frameCounter) headerLen controlCrypto) (npdu.drop headerLen) :=
    ⟨_, rfl⟩
  have hclen : cipher.length = npdu.length - headerLen := by rw [hcipher]; simp
  obtain ⟨frame, hframe⟩ : ∃ frame, frame = setNwkSecurityBit (npdu.take headerLen) true ++
    auxBytes keySeq srcIeee frameCounter ++ cipher ++ mic := ⟨_, rfl⟩
  have hbytes : securedBytes ecb key keySeq npdu headerLen srcIeee frameCounter = frame := by
    rw [securedBytes, hframe, hcipher, hmic]
  rw [hbytes] at htotal ⊢
  have hbit : nwkSecurityBit frame = true := by
    rw [hframe, List.append_assoc, List.append_assoc]
    exact securityBit_set hhdr2 _
  have hmlen : mic.length = kMicLen := by rw [hmic, mic_length]
  obtain ⟨htake, _, haux, hcslice, hmdrop⟩ := frame_pieces
    (setNwkSecurityBit (npdu.take headerLen) true) (auxBytes keySeq srcIeee frameCounter) cipher mic
  rw [← hframe, hset] at htake haux hcslice
  rw [auxBytes_length] at haux hcslice
  rw [hclen] at hcslice
  rw [← hframe, htotal, hmlen] at hmdrop
  have hcut : (npdu.length + kAuxLen + kMicLen - headerLen - kAuxLen - kMicLen) % 256 =
      npdu.length - headerLen := by omega
  have hplain : setNwkSecurityBit (setNwkSecurityBit (npdu.take headerLen) true) false =
      npdu.take headerLen :=
    securityBit_cleared hhdr2 (by rw [List.take_append_drop]; exact hclear)
  have hctl' : ((0x28 : UInt8) &&& ~~~0x07) ||| kLevel = controlCrypto := by decide
  have hshape : ¬ ((!nwkSecurityBit frame ||
      decide (frame.length < headerLen + kAuxLen + kMicLen)) = true) := by
    rw [hbit, htotal]
    simp only [Bool.not_true, Bool.false_or, decide_eq_true_eq]
    omega
  have haad' : ¬ (headerLen + kAuxLen) % 256 > kMaxAad := by
    simp only [kMaxAad] at haad ⊢
    omega
  have hfits : ¬ outMax.toNat < (headerLen + (npdu.length - headerLen)) % 256 := by omega
  rw [authenticate, if_neg (by simp [hkey]), if_neg hshape]
  simp only [haux, hfc, hieee, hseq, hctl, hctl', join32_le32, join64_le64, hsel, htotal, hcut,
    htake, hcslice, hmdrop, hplain, setSecurityBit_again hhdr2, if_neg hfits, if_neg haad']
  rw [hcipher, CcmStar.ctr_ctr, CcmStar.ccmStarCrypt, ← hmic]
  simp

end NiusZigbee.ZigbeeSecurity
