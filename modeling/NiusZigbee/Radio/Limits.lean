import NiusZigbee.Radio.Transmit

/-!
# What the driver takes

A NWK frame goes out if it fits a PSDU with its MAC header, and under a key with the auxiliary
header and the MIC as well.
-/

namespace NiusZigbee.CC2530Radio

open ByteCodec OutBuffer ZigbeeMac ZigbeeSecurity ZigbeeNwk

instance (npdu : List UInt8) (headerLen : Nat) (outMax : UInt8) :
    Decidable (Fits npdu headerLen outMax) :=
  decidable_of_iff (headerLen ≤ npdu.length ∧ headerLen + ZigbeeSecurity.kAuxLen ≤ kMaxAad ∧
      npdu.length + ZigbeeSecurity.kAuxLen + ZigbeeSecurity.kMicLen ≤ outMax.toNat)
    ⟨fun h => ⟨h.1, h.2.1, h.2.2⟩, fun h => ⟨h.header, h.aad, h.total⟩⟩

/-- `shortDataBytes` up to the payload. -/
def kMacHeaderLen : Nat := 9

/-- The NPDUs that go out, with a key and without. -/
def Takes (keyed : Bool) (npdu : List UInt8) : Prop :=
  if keyed then
    Fits npdu (nwkHeaderLength npdu).toNat kSecuredMax ∧
      kMacHeaderLen + (npdu.length + ZigbeeSecurity.kAuxLen + ZigbeeSecurity.kMicLen) ≤ kMaxPsdu
  else kMacHeaderLen + npdu.length ≤ kMaxPsdu

instance (keyed : Bool) (npdu : List UInt8) : Decidable (Takes keyed npdu) := by
  unfold Takes
  infer_instance

def keyed (r : CC2530Radio) : Bool := r.security.any fun s => s.hasKey

variable {r : CC2530Radio} {a : Addresses} {npdu : Built}

theorem sendData_isSome (panId dst src : UInt16) (payload : List UInt8) (ackRequest : Bool) :
    (r.sendData panId dst src payload ackRequest).2.isSome = true ↔
      kMacHeaderLen + payload.length ≤ kMaxPsdu := by
  have hmax : CC2530Radio.kMaxPayload.toNat = 125 := rfl
  simp only [sendData, buildShortDataFrame, kMaxPsdu, kMacHeaderLen, hmax]
  by_cases hlong : payload.length > 125 - 9
  · simp only [if_pos hlong, Built.fail_len, if_true, Option.isSome_none, Bool.false_eq_true,
      false_iff]
    omega
  · have hroom : ¬ 125 < 9 + payload.length := by omega
    have hlen : (9 + payload.length) % 256 ≠ 0 := by omega
    simp only [if_neg hlong, if_neg hroom, if_neg hlen, Option.isSome_some, true_iff]
    omega

theorem applyTxSecurity_fits (ecb : BlockCipher) {s : ZigbeeSecurity} (hsec : r.security = some s)
    (hkey : s.hasKey = true) {npdu : List UInt8}
    (hfits : Fits npdu (nwkHeaderLength npdu).toNat kSecuredMax) :
    ∃ out, (r.applyTxSecurity ecb npdu kSecuredMax).2 = some out ∧
      out.length = npdu.length + ZigbeeSecurity.kAuxLen + ZigbeeSecurity.kMicLen := by
  have hlength : (securedBytes ecb s.key s.keySequence npdu (nwkHeaderLength npdu).toNat
      r.securityIeee (r.securityCounter + 1)).length =
      npdu.length + ZigbeeSecurity.kAuxLen + ZigbeeSecurity.kMicLen :=
    securedBytes_length hfits.header
  have htotal := hfits.total
  have hmax : kSecuredMax.toNat = 134 := rfl
  simp only [applyTxSecurity, hsec, hkey, Bool.not_true, Bool.false_eq_true, if_false,
    secureNpdu_eq hkey hfits, Built.exact_len, Built.exact_bytes, hlength]
  rw [if_neg (by simp only [ZigbeeSecurity.kAuxLen] at htotal ⊢; omega)]
  exact ⟨_, rfl, hlength⟩

/-- The driver sends what was built exactly if it takes it. -/
theorem sendSecured_isSome (ecb : BlockCipher) (hlen : npdu.bytes.length ≤ kMaxFrame)
    (ackRequest : Bool) :
    (r.sendSecured ecb a npdu ackRequest).2.isSome = true ↔
      npdu.len ≠ 0 ∧ Takes r.keyed npdu.bytes := by
  by_cases hzero : npdu.len = 0
  · simp [sendSecured, hzero]
  simp only [sendSecured, ne_eq, hzero, if_false, not_false_eq_true, true_and]
  by_cases hunsecured : r.Unsecured
  · have hkeyed : r.keyed = false := by
      cases hsec : r.security <;> simp_all [Unsecured, keyed]
    simp only [applyTxSecurity_unsecured hunsecured, sendData_isSome, Takes, hkeyed,
      Bool.false_eq_true, if_false]
  · obtain ⟨s, hsec, hkey⟩ := keyed_of_not_unsecured hunsecured
    have hkeyed : r.keyed = true := by simp [keyed, hsec, hkey]
    simp only [Takes, hkeyed, if_true]
    by_cases hfits : Fits npdu.bytes (nwkHeaderLength npdu.bytes).toNat kSecuredMax
    · obtain ⟨out, hout, hlength⟩ := applyTxSecurity_fits ecb hsec hkey hfits
      rw [← hlength]
      generalize r.applyTxSecurity ecb npdu.bytes kSecuredMax = answer at hout
      obtain ⟨r', result⟩ := answer
      obtain rfl : result = some out := hout
      simp only [sendData_isSome, hfits, true_and]
    · have hlong : npdu.bytes.length ≤ 237 := by
        simp only [kMaxFrame] at hlen
        omega
      cases hanswer : r.applyTxSecurity ecb npdu.bytes kSecuredMax with
      | mk r' result =>
        cases result with
        | none => simp [hfits]
        | some out =>
          rcases applyTxSecurity_some hlong (congrArg Prod.snd hanswer) with
            ⟨hnone, -⟩ | ⟨-, -, -, hfits', -⟩
          · exact absurd hnone hunsecured
          · exact absurd hfits' hfits

/-! ## Frames as they are built -/

/-- Longest NPDU that goes out. -/
def maxNpdu (keyed : Bool) : Nat := if keyed then 98 else kMaxFrame

theorem maxNpdu_le (keyed : Bool) : maxNpdu keyed ≤ kMaxFrame := by cases keyed <;> decide

/-- A header of up to eight relays may be authenticated. -/
theorem takes_iff {keyed : Bool} {npdu : List UInt8}
    (hheader : (nwkHeaderLength npdu).toNat ≤ npdu.length)
    (haad : (nwkHeaderLength npdu).toNat + ZigbeeSecurity.kAuxLen ≤ kMaxAad) :
    Takes keyed npdu ↔ npdu.length ≤ maxNpdu keyed := by
  have hmax : kSecuredMax.toNat = 134 := rfl
  cases keyed with
  | false =>
    simp only [Takes, maxNpdu, Bool.false_eq_true, if_false, kMacHeaderLen, kMaxPsdu, kMaxFrame]
    omega
  | true =>
    simp only [Takes, maxNpdu, if_true, kMacHeaderLen, kMaxPsdu]
    constructor
    · rintro ⟨-, hlen⟩
      simp only [ZigbeeSecurity.kAuxLen, ZigbeeSecurity.kMicLen] at hlen
      omega
    · intro hlen
      refine ⟨⟨hheader, haad, ?_⟩, ?_⟩
      · simp only [ZigbeeSecurity.kAuxLen, ZigbeeSecurity.kMicLen, hmax]
        omega
      · simp only [ZigbeeSecurity.kAuxLen, ZigbeeSecurity.kMicLen]
        omega

theorem takes_header {keyed : Bool} {fcf dst src : UInt16} {radius sequence : UInt8}
    {rest : List UInt8} (hplain : hi8 fcf &&& headerBits = 0) :
    Takes keyed (headerBytes fcf dst src radius sequence rest) ↔
      kBaseHeaderLen + rest.length ≤ maxNpdu keyed := by
  have hlength : nwkHeaderLength (headerBytes fcf dst src radius sequence rest) = 8 :=
    nwkHeaderLength_plain hplain
  rw [takes_iff, headerBytes_length]
  · rw [hlength, headerBytes_length]
    exact Nat.le_add_right 8 _
  · rw [hlength]
    decide

theorem takes_routed {keyed : Bool} {dst src : UInt16} {radius sequence relayIndex : UInt8}
    {relays : List UInt16} {payload : List UInt8} (hcount : relays.length ≤ 8) :
    Takes keyed (headerBytes (baseFcf nwkFrameData 0 ||| ((1 : UInt16) <<< 10)) dst src radius
      sequence (routedBytes relays relayIndex payload)) ↔
      kBaseHeaderLen + (2 + relays.length * 2) + payload.length ≤ maxNpdu keyed := by
  have hsize : (headerBytes (baseFcf nwkFrameData 0 ||| ((1 : UInt16) <<< 10)) dst src radius
      sequence (routedBytes relays relayIndex payload)).length =
      kBaseHeaderLen + (2 + relays.length * 2) + payload.length := by
    rw [headerBytes_length, routedBytes_length]
    omega
  have hlength : (nwkHeaderLength (headerBytes (baseFcf nwkFrameData 0 ||| ((1 : UInt16) <<< 10))
      dst src radius sequence (routedBytes relays relayIndex payload))).toNat =
      kBaseHeaderLen + (2 + relays.length * 2) := by
    have hcountByte : (headerBytes (baseFcf nwkFrameData 0 ||| ((1 : UInt16) <<< 10)) dst src radius
        sequence (routedBytes relays relayIndex payload)).getD 8 0 = relays.length.toUInt8 := rfl
    rw [nwkHeaderLength_sourceRouted (by rw [hsize]; simp only [kBaseHeaderLen]; omega)
      (by rw [getD_header_one]; decide), hcountByte]
    simp only [UInt8.toNat_add, UInt8.toNat_mul, UInt8.reduceToNat,
      toNat_toUInt8 (by omega : relays.length < 256), kBaseHeaderLen]
    omega
  rw [takes_iff, hsize]
  · rw [hlength, hsize]
    exact Nat.le_add_right _ _
  · rw [hlength]
    simp only [kBaseHeaderLen, ZigbeeSecurity.kAuxLen, kMaxAad]
    omega

end NiusZigbee.CC2530Radio
