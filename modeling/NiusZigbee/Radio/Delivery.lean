import NiusZigbee.Radio.SecurityGate
import NiusZigbee.Radio.Uart

/-!
# A ZCL command from one driver to another

The PSDU `sendZclCommand` hands to the module holds the frames of all layers, one inside the other.
Received, it comes apart again: at its NWK destination the ZCL callback gets what was sent.
-/

namespace NiusZigbee.CC2530Radio

open ByteCodec OutBuffer ZigbeeMac ZigbeeNwk ZigbeeSecurity

variable {ecb : BlockCipher}

/-! ## What is sent -/

section Sending

variable {r : CC2530Radio} {psdu : List UInt8}

theorem sendData_some {panId dst src : UInt16} {payload : List UInt8} {ackRequest : Bool}
    (h : (r.sendData panId dst src payload ackRequest).2 = some psdu) :
    payload.length ≤ kMaxPsdu - 9 ∧
      psdu = shortDataBytes panId dst src r.macSequence ackRequest payload := by
  simp only [sendData, Option.ite_none_left_eq_some, Option.some.injEq] at h
  obtain ⟨hlen, rfl⟩ := h
  obtain ⟨hpayload, hbuilt⟩ := buildShortDataFrame_bytes hlen
  exact ⟨hpayload, by rw [hbuilt, Built.exact_bytes]⟩

/-- What `applyTxSecurity` leaves to transmit: the NPDU itself, or the NPDU secured under the active
key with the next frame counter. -/
theorem applyTxSecurity_some {npdu out : List UInt8} {max : UInt8} (hlen : npdu.length ≤ 237)
    (h : (r.applyTxSecurity ecb npdu max).2 = some out) :
    (r.security.all (fun s => !s.hasKey) = true ∧ out = npdu) ∨
    ∃ s, r.security = some s ∧ s.hasKey = true ∧
      Fits npdu (nwkHeaderLength npdu).toNat kSecuredMax ∧
      out = securedBytes ecb s.key s.keySequence npdu (nwkHeaderLength npdu).toNat r.securityIeee
        (r.securityCounter + 1) := by
  cases hsec : r.security with
  | none =>
    simp only [applyTxSecurity, hsec, Option.some.injEq] at h
    exact Or.inl ⟨rfl, h.symm⟩
  | some s =>
    cases hkey : s.hasKey with
    | false =>
      simp only [applyTxSecurity, hsec, hkey, Bool.not_false, if_true, Option.some.injEq] at h
      exact Or.inl ⟨by simp [hkey], h.symm⟩
    | true =>
      simp only [applyTxSecurity, hsec, hkey, Bool.not_true, Bool.false_eq_true, if_false,
        Option.ite_none_left_eq_some, Option.some.injEq, not_or] at h
      obtain ⟨⟨hnonzero, -⟩, rfl⟩ := h
      have htotal : npdu.length + kAuxLen + kMicLen ≤ 255 := by
        simp only [kAuxLen, kMicLen]
        omega
      obtain ⟨-, hfits⟩ := secureNpdu_fits htotal hnonzero
      exact Or.inr ⟨s, rfl, hkey, hfits, by rw [secureNpdu_eq hkey hfits, Built.exact_bytes]⟩

theorem applyTxSecurity_macSequence (npdu : List UInt8) (max : UInt8) :
    (r.applyTxSecurity ecb npdu max).1.macSequence = r.macSequence := by
  simp only [applyTxSecurity]
  split
  · rfl
  split <;> rfl

end Sending

/-- The arguments of one `sendZclCommand` call. -/
structure ZclCall where
  panId : UInt16
  macDstShort : UInt16
  macSrcShort : UInt16
  nwkDstShort : UInt16
  nwkSrcShort : UInt16
  dstEndpoint : UInt8
  clusterId : UInt16
  profileId : UInt16
  srcEndpoint : UInt8
  commandId : UInt8
  payload : List UInt8
  zclFrameType : UInt8
  zclDirection : UInt8
  radius : UInt8
  ackRequest : Bool

namespace ZclCall

def send (ecb : BlockCipher) (c : ZclCall) (tx : CC2530Radio) :
    CC2530Radio × Option (List UInt8) :=
  tx.sendZclCommand ecb c.panId c.macDstShort c.macSrcShort c.nwkDstShort c.nwkSrcShort
    c.dstEndpoint c.clusterId c.profileId c.srcEndpoint c.commandId c.payload c.zclFrameType
    c.zclDirection c.radius c.ackRequest

variable (c : ZclCall) (tx : CC2530Radio)

/-- The ZCL frame, the APDU around it and the NPDU around that. -/
def zcl : List UInt8 :=
  ZigbeeZcl.commandBytes c.zclFrameType c.zclDirection tx.zclSequence c.commandId true c.payload

def apdu : List UInt8 :=
  ZigbeeAps.dataBytes c.dstEndpoint c.clusterId c.profileId c.srcEndpoint tx.apsCounter false
    (c.zcl tx)

def npdu : List UInt8 :=
  headerBytes (baseFcf nwkFrameData 0) c.nwkDstShort c.nwkSrcShort c.radius tx.nwkSequence
    (c.apdu tx)

/-- The bounds every builder on the way down has checked. -/
structure Bounded : Prop where
  frameType : ¬ c.zclFrameType > ZigbeeZcl.zclFrameClusterSpecific
  direction : ¬ c.zclDirection > ZigbeeZcl.zclDirectionServerToClient
  payload : c.payload.length ≤ ZigbeeZcl.kMaxPayload
  zcl : (c.zcl tx).length ≤ ZigbeeAps.kMaxPayload
  apdu : (c.apdu tx).length ≤ ZigbeeNwk.kMaxPayload

variable {c tx}

theorem npdu_length : (c.npdu tx).length = 8 + (c.apdu tx).length := headerBytes_length ..

theorem send_some {psdu : List UInt8} (h : (c.send ecb tx).2 = some psdu) :
    Bounded c tx ∧ ∃ out, out.length ≤ kMaxPsdu - 9 ∧
      psdu = shortDataBytes c.panId c.macDstShort c.macSrcShort tx.macSequence c.ackRequest out ∧
      ((tx.security.all (fun s => !s.hasKey) = true ∧ out = c.npdu tx) ∨
        ∃ s, tx.security = some s ∧ s.hasKey = true ∧
          Fits (c.npdu tx) (nwkHeaderLength (c.npdu tx)).toNat kSecuredMax ∧
          out = securedBytes ecb s.key s.keySequence (c.npdu tx)
            (nwkHeaderLength (c.npdu tx)).toNat tx.securityIeee (tx.securityCounter + 1)) := by
  simp only [send, sendZclCommand] at h
  split at h
  · cases h
  next hzcl =>
  obtain ⟨htype, hdirection, hpayload, hzclEq⟩ := ZigbeeZcl.buildCommandFrame_bytes hzcl
  rw [hzclEq, Built.exact_bytes] at h
  simp only [sendApsData] at h
  split at h
  · cases h
  next haps =>
  obtain ⟨hzclLen, hapsEq⟩ := ZigbeeAps.buildDataFrame_bytes haps
  rw [hapsEq, Built.exact_bytes] at h
  simp only [sendNwkData] at h
  split at h
  · cases h
  next hnwk =>
  obtain ⟨hapduLen, hnwkEq⟩ := buildDataFrame_bytes hnwk
  rw [hnwkEq, Built.exact_bytes] at h
  have hlen : (c.npdu tx).length ≤ 237 := by
    rw [npdu_length]
    simp only [ZigbeeNwk.kMaxPayload, ZigbeeNwk.kMaxFrame, kBaseHeaderLen] at hapduLen
    change (c.apdu tx).length ≤ 108 at hapduLen
    omega
  split at h
  · cases h
  next r out hout =>
  have hsecured := applyTxSecurity_some hlen (congrArg Prod.snd hout)
  have hsequence := congrArg (fun p => p.1.macSequence) hout
  simp only [applyTxSecurity_macSequence] at hsequence
  obtain ⟨houtLen, rfl⟩ := sendData_some h
  refine ⟨⟨htype, hdirection, hpayload, hzclLen, hapduLen⟩, out, houtLen, by rw [← hsequence], ?_⟩
  exact hsecured

/-! ## What is parsed -/

variable (c tx)

/-- The NWK, APS and ZCL frames as the receiver's parsers see them. -/
def nwkFrame : Parsed NwkDataFrame where
  bytes := c.npdu tx
  frame :=
    { frameType := nwkFrameData, protocolVersion := kProtocolVersion, discoverRoute := 0
      valid := true, dstShort := c.nwkDstShort, srcShort := c.nwkSrcShort, radius := c.radius
      sequence := tx.nwkSequence, payload := some kBaseHeaderLen
      payloadLen := (c.apdu tx).length }

def apsFrame : Parsed ZigbeeAps.ApsDataFrame where
  bytes := c.apdu tx
  frame :=
    { valid := true, ackRequest := false, dstEndpoint := c.dstEndpoint, clusterId := c.clusterId
      profileId := c.profileId, srcEndpoint := c.srcEndpoint, counter := tx.apsCounter
      payload := some ZigbeeAps.kBaseHeaderLen, payloadLen := (c.zcl tx).length }

def zclFrame : Parsed ZigbeeZcl.ZclFrame where
  bytes := c.zcl tx
  frame :=
    { valid := true, frameType := c.zclFrameType, direction := c.zclDirection
      disableDefaultResponse := true, sequence := tx.zclSequence, commandId := c.commandId
      payload := some ZigbeeZcl.kBaseHeaderLen, payloadLen := c.payload.length }

theorem nwkFrame_payload : (c.nwkFrame tx).frame.payloadBytes (c.npdu tx) = c.apdu tx := by
  have h := slice_headerRest (baseFcf nwkFrameData 0) c.nwkDstShort c.nwkSrcShort c.radius
    tx.nwkSequence (c.apdu tx) 0 (c.apdu tx).length
  simpa [NwkDataFrame.payloadBytes, nwkFrame, npdu, slice] using h

theorem apsFrame_payload : (c.apsFrame tx).frame.payloadBytes (c.apdu tx) = c.zcl tx :=
  ZigbeeAps.payloadBytes_data

theorem zclFrame_payload : (c.zclFrame tx).frame.payloadBytes (c.zcl tx) = c.payload :=
  ZigbeeZcl.payloadBytes_command

variable {c tx}

theorem parse_npdu (h : Bounded c tx) :
    ZigbeeNwk.parseDataFrame (c.npdu tx) = some (true, (c.nwkFrame tx).frame) :=
  parseDataFrame_header c.nwkDstShort c.nwkSrcShort c.radius tx.nwkSequence h.apdu (by decide)

theorem parse_apdu (h : Bounded c tx) :
    ZigbeeAps.parseDataFrame (c.apdu tx) = some (true, (c.apsFrame tx).frame) :=
  ZigbeeAps.parseDataFrame_bytes h.zcl

theorem parse_zcl (h : Bounded c tx) :
    ZigbeeZcl.parseFrame (c.zcl tx) = some (true, (c.zclFrame tx).frame) :=
  ZigbeeZcl.parseFrame_bytes h.frameType h.direction h.payload

theorem parseCommand_npdu :
    ∃ frame, ZigbeeNwk.parseCommandFrame (c.npdu tx) = some (false, frame) := by
  by_cases hlen : (c.npdu tx).length < kBaseHeaderLen + 1
  · exact ⟨_, by rw [ZigbeeNwk.parseCommandFrame, if_pos hlen]⟩
  · have hfcf : read16 (c.npdu tx) 0 = some (baseFcf nwkFrameData 0) := read16_header0 ..
    have htype : nwkFrameData ≠ nwkFrameCommand := by decide
    exact ⟨{}, by simp [ZigbeeNwk.parseCommandFrame, hlen, hfcf, decode_dataFcf, htype]⟩

end ZclCall

/-! ## What is dispatched -/

def Event.isZcl : Event → Bool
  | .zcl .. => true
  | _ => false

/-- The callbacks above the NWK layer. -/
def Event.isApplication : Event → Bool
  | .aps .. | .zdo .. | .zcl .. | .apsAck .. => true
  | _ => false

section Dispatch

variable {c : ZclCall} {tx : CC2530Radio} (rx : CC2530Radio) (mac : Parsed MacDataFrame)
  (rssi : Int8) (lqi : UInt8)

theorem dispatchAck_call :
    rx.dispatchAck mac rssi lqi (c.nwkFrame tx) = some [] := by
  have hpayload : (c.nwkFrame tx).frame.payloadBytes (c.nwkFrame tx).bytes = c.apdu tx :=
    c.nwkFrame_payload tx
  have htype : ZigbeeAps.frameType (c.apdu tx) = some ZigbeeAps.apsFrameData :=
    ZigbeeAps.frameType_data
  have hne : ZigbeeAps.apsFrameData ≠ ZigbeeAps.apsFrameAck := by decide
  simp only [dispatchAck, hpayload, htype, Option.bind_eq_bind, Option.bind_some, if_neg hne]
  split <;> rfl

theorem dispatchAps_call (h : c.Bounded tx) (hzcl : rx.callbacks.zcl = true) :
    ∃ events, rx.dispatchAps mac rssi lqi (c.nwkFrame tx) = some events ∧
      events.filter Event.isZcl =
        [.zcl mac (c.nwkFrame tx) (c.apsFrame tx) (c.zclFrame tx) rssi lqi] := by
  have hapdu : (c.nwkFrame tx).frame.payloadBytes (c.nwkFrame tx).bytes = c.apdu tx :=
    c.nwkFrame_payload tx
  have hzclBytes : (c.apsFrame tx).frame.payloadBytes (c.apdu tx) = c.zcl tx :=
    c.apsFrame_payload tx
  simp only [dispatchAps, dispatchZcl, hapdu, hzcl, Bool.or_true, if_true, ZclCall.parse_apdu h,
    hzclBytes, ZclCall.parse_zcl h, Option.bind_eq_bind, Option.bind_some, Option.pure_def]
  refine ⟨_, rfl, ?_⟩
  rw [List.filter_append, List.filter_append]
  split <;> split <;> rfl

theorem dispatchNwk_local (h : c.Bounded tx) (hzcl : rx.callbacks.zcl = true)
    (hlocal : c.nwkDstShort = rx.localShortAddress ∨ c.nwkDstShort ≥ 0xFFF8) :
    ∃ events, rx.dispatchNwk mac rssi lqi (c.npdu tx) = some events ∧
      events.filter Event.isZcl =
        [.zcl mac (c.nwkFrame tx) (c.apsFrame tx) (c.zclFrame tx) rssi lqi] := by
  obtain ⟨aps, haps, hfilter⟩ := dispatchAps_call rx mac rssi lqi h hzcl
  have hdst : rx.localNwkDestination (c.nwkFrame tx).frame = true := by
    simp only [localNwkDestination, Bool.or_eq_true, decide_eq_true_eq]
    exact hlocal
  have hframe : (⟨c.npdu tx, (c.nwkFrame tx).frame⟩ : Parsed NwkDataFrame) = c.nwkFrame tx := rfl
  simp only [dispatchNwk, hzcl, Bool.or_true, Bool.true_or, if_true, ZclCall.parse_npdu h, hdst,
    hframe, dispatchAck_call rx mac rssi lqi, haps, Option.bind_eq_bind, Option.bind_some,
    Option.pure_def]
  refine ⟨_, rfl, ?_⟩
  rw [List.filter_append, List.filter_append, hfilter]
  split <;> rfl

theorem dispatchNwk_remote (h : c.Bounded tx)
    (hremote : ¬ (c.nwkDstShort = rx.localShortAddress ∨ c.nwkDstShort ≥ 0xFFF8)) :
    ∃ events, rx.dispatchNwk mac rssi lqi (c.npdu tx) = some events ∧
      ∀ e ∈ events, e.isApplication = false := by
  have hdst : rx.localNwkDestination (c.nwkFrame tx).frame = false := by
    simp only [localNwkDestination, Bool.or_eq_false_iff, decide_eq_false_iff_not]
    exact not_or.mp hremote
  simp only [dispatchNwk, ZclCall.parse_npdu h, hdst, Bool.false_eq_true, if_false, if_true,
    Option.bind_eq_bind, Option.bind_some]
  split
  · refine ⟨_, rfl, ?_⟩
    split <;> simp [Event.isApplication]
  · exact ⟨[], rfl, by simp⟩

theorem dispatchNwkCommand_call : rx.dispatchNwkCommand mac rssi lqi (c.npdu tx) = some [] := by
  obtain ⟨frame, hparse⟩ : ∃ frame, ZigbeeNwk.parseCommandFrame (c.npdu tx) = some (false, frame) :=
    ZclCall.parseCommand_npdu
  simp only [dispatchNwkCommand, hparse, Option.bind_eq_bind, Option.bind_some]
  split <;> rfl

end Dispatch

/-! ## The security of both ends -/

def Unsecured (r : CC2530Radio) : Prop := r.security.all (fun s => !s.hasKey) = true

/-- Both ends are without NWK security, or both hold the sender's key, the receiver is not
promiscuous, and the counter the sender uses next is fresh in the receiver's replay table. -/
def SameSecurity (tx rx : CC2530Radio) : Prop :=
  (tx.Unsecured ∧ rx.Unsecured) ∨
  ∃ s t, tx.security = some s ∧ s.hasKey = true ∧ rx.security = some t ∧
    (t.Holds s.key s.keySequence ∨ t.hasKey = true ∧ t.hasAlt = false ∧ t.key = s.key) ∧
    rx.promiscuous = false ∧
    ∀ entry ∈ t.replay.entries, entry.key = some (tx.securityIeee, s.keySequence) →
      entry.lastCounter < tx.securityCounter + 1

section Receiving

variable {c : ZclCall} {tx rx : CC2530Radio}

theorem openReceived_unsecured (h : rx.Unsecured) (npdu : List UInt8) :
    rx.openReceived ecb npdu = (rx, some npdu) := by
  simp only [Unsecured] at h
  cases hsec : rx.security with
  | none => simp only [openReceived, hsec]
  | some t =>
    have hkey : t.hasKey = false := by simpa [hsec] using h
    simp only [openReceived, hsec, hkey, Bool.false_and, Bool.false_eq_true, if_false]

/-- The second byte of the NPDU has neither the security bit nor one that lengthens the header. -/
theorem npdu_bits :
    (c.npdu tx).getD 1 0 &&& headerBits = 0 ∧ nwkSecurityBit (c.npdu tx) = false := by
  have hbyte : (c.npdu tx).getD 1 0 = hi8 (baseFcf nwkFrameData 0) := rfl
  rw [nwkSecurityBit, hbyte]
  decide

theorem openReceived_secured {s t : ZigbeeSecurity} (hfits : Fits (c.npdu tx) 8 kSecuredMax)
    (hrx : rx.security = some t) (hkey : t.hasKey = true)
    (hsel : t.selectKey s.keySequence = some s.key) (hpromisc : rx.promiscuous = false)
    (hfresh : ∀ entry ∈ t.replay.entries, entry.key = some (tx.securityIeee, s.keySequence) →
      entry.lastCounter < tx.securityCounter + 1) :
    (rx.openReceived ecb (securedBytes ecb s.key s.keySequence (c.npdu tx) 8 tx.securityIeee
      (tx.securityCounter + 1))).2 = some (c.npdu tx) := by
  have hlen8 : 8 ≤ (c.npdu tx).length := by
    rw [ZclCall.npdu_length]
    exact Nat.le_add_right _ _
  have hheader : nwkHeaderLength (securedBytes ecb s.key s.keySequence (c.npdu tx) 8
      tx.securityIeee (tx.securityCounter + 1)) = 8 := nwkHeaderLength_secured hlen8 npdu_bits.1
  have hbit : nwkSecurityBit (securedBytes ecb s.key s.keySequence (c.npdu tx) 8 tx.securityIeee
      (tx.securityCounter + 1)) = true := by
    rw [securedBytes, List.append_assoc, List.append_assoc]
    exact securityBit_set (by rw [List.length_take]; omega) _
  have hlong : 8 ≤ (securedBytes ecb s.key s.keySequence (c.npdu tx) 8 tx.securityIeee
      (tx.securityCounter + 1)).length := by
    rw [securedBytes_length hlen8]
    omega
  have htotal : (c.npdu tx).length + kAuxLen + kMicLen ≤ 134 := hfits.total
  have hauth : t.authenticate ecb (securedBytes ecb s.key s.keySequence (c.npdu tx) 8
      tx.securityIeee (tx.securityCounter + 1)) 8 kSecuredScratch =
      .ok ⟨c.npdu tx, tx.securityIeee, s.keySequence, tx.securityCounter + 1⟩ := by
    refine authenticate_secured hkey hsel (by omega) hfits.header hfits.aad (by omega) ?_
      npdu_bits.2
    have hscratch : kSecuredScratch.toNat = 140 := rfl
    rw [hscratch]
    omega
  obtain ⟨frame, hframe⟩ : ∃ frame, frame = securedBytes ecb s.key s.keySequence (c.npdu tx) 8
    tx.securityIeee (tx.securityCounter + 1) := ⟨_, rfl⟩
  rw [← hframe] at hheader hbit hlong hauth ⊢
  have hset : frame.getD 1 0 &&& 0x02 ≠ 0 := by simpa [nwkSecurityBit] using hbit
  rcases openNpdu_authentic hauth with ⟨-, hok, -⟩ | ⟨hstale, -⟩
  · have hopen : (t.openNpdu ecb frame (nwkHeaderLength frame).toNat kSecuredScratch).2 =
        .ok ⟨c.npdu tx, tx.securityIeee⟩ := by rw [hheader]; exact hok
    have hne : c.npdu tx ≠ [] := List.ne_nil_of_length_pos (by omega)
    have hguard : (t.hasKey && !rx.promiscuous && decide (8 ≤ frame.length) &&
        decide (frame.getD 1 0 &&& 0x02 ≠ 0)) = true := by
      rw [hkey, hpromisc, decide_eq_true hlong, decide_eq_true hset]
      rfl
    simp only [openReceived, hrx, if_pos hguard]
    generalize t.openNpdu ecb frame (nwkHeaderLength frame).toNat kSecuredScratch = answer at hopen
    obtain ⟨t', result⟩ := answer
    subst hopen
    simp only [if_neg hne]
  · exact absurd (fresh_of_entries hfresh) hstale

/-- Whatever security both ends have, the receiver gets the sender's NPDU back. -/
theorem openReceived_call {psdu : List UInt8} (hsend : (c.send ecb tx).2 = some psdu)
    (hsec : SameSecurity tx rx) :
    c.Bounded tx ∧ ∃ out, out.length ≤ kMaxPsdu - 9 ∧
      psdu = shortDataBytes c.panId c.macDstShort c.macSrcShort tx.macSequence c.ackRequest out ∧
      (rx.openReceived ecb out).2 = some (c.npdu tx) := by
  obtain ⟨hbounded, out, hlen, hpsdu, hout⟩ := ZclCall.send_some hsend
  refine ⟨hbounded, out, hlen, hpsdu, ?_⟩
  rcases hout with ⟨htx, rfl⟩ | ⟨s, htx, hkey, hfits, rfl⟩
  · rcases hsec with ⟨-, hrx⟩ | ⟨s, -, htx', hkey, -⟩
    · rw [openReceived_unsecured hrx]
    · simp [htx', hkey] at htx
  · rcases hsec with ⟨htx', -⟩ | ⟨s', t, htx', -, hrx, hholds, hpromisc, hfresh⟩
    · simp [Unsecured, htx, hkey] at htx'
    · obtain rfl : s = s' := Option.some.inj (htx.symm.trans htx')
      have hrxKey : t.hasKey = true ∧ t.selectKey s.keySequence = some s.key := by
        rcases hholds with hholds | ⟨hrxKey, halt, hsame⟩
        · exact ⟨hholds.1, hholds.selectKey⟩
        · exact ⟨hrxKey, hsame ▸ selectKey_single halt _⟩
      have hheader : (nwkHeaderLength (c.npdu tx)).toNat = 8 := by
        rw [nwkHeaderLength_plain npdu_bits.1]
        rfl
      rw [hheader] at hfits ⊢
      exact openReceived_secured hfits hrx hrxKey.1 hrxKey.2 hpromisc hfresh

/-- The MAC frame the receiver parses. -/
def macFrame (c : ZclCall) (tx : CC2530Radio) (out : List UInt8) : Parsed MacDataFrame where
  bytes := shortDataBytes c.panId c.macDstShort c.macSrcShort tx.macSequence c.ackRequest out
  frame :=
    { valid := true, frameType := macFrameData, sequence := tx.macSequence
      ackRequest := c.ackRequest, panIdCompression := true, dstPanId := c.panId
      dstShort := c.macDstShort, srcPanId := c.panId, srcShort := c.macSrcShort
      payload := some 9, payloadLen := out.length }

theorem receiveData_call (hbounded : c.Bounded tx) {out : List UInt8}
    (hopen : (rx.openReceived ecb out).2 = some (c.npdu tx)) (rssi : Int8) (lqi : UInt8) :
    ∃ rx' events, rx.receiveData ecb (macFrame c tx out) rssi lqi = some (rx', events) ∧
      (rx.callbacks.zcl = true →
        c.nwkDstShort = rx.localShortAddress ∨ c.nwkDstShort ≥ 0xFFF8 →
        events.filter Event.isZcl =
          [.zcl (macFrame c tx out) (c.nwkFrame tx) (c.apsFrame tx) (c.zclFrame tx) rssi lqi]) ∧
      (¬ (c.nwkDstShort = rx.localShortAddress ∨ c.nwkDstShort ≥ 0xFFF8) →
        ∀ e ∈ events, e.isApplication = false) := by
  have hpayload : (macFrame c tx out).frame.payloadBytes (macFrame c tx out).bytes = out :=
    payloadBytes_shortData ..
  obtain ⟨security, hkeeps, -⟩ := openReceived_keeps (r := rx) ecb out
  obtain ⟨rx', hrx'⟩ : ∃ rx', rx.openReceived ecb out = (rx', some (c.npdu tx)) :=
    ⟨_, Prod.ext rfl hopen⟩
  rw [hrx'] at hkeeps
  change rx' = _ at hkeeps
  have hcallbacks : rx'.callbacks = rx.callbacks := by rw [hkeeps]
  have haddress : rx'.localShortAddress = rx.localShortAddress := by rw [hkeeps]
  obtain ⟨events, hevents, -⟩ := rx'.dispatchNwk_about (macFrame c tx out) rssi lqi (c.npdu tx)
  simp only [receiveData, hpayload, hrx', dispatchNwkCommand_call, hevents, Option.bind_eq_bind,
    Option.bind_some, List.append_nil]
  refine ⟨rx', _, rfl, ?_, ?_⟩
  · intro hzcl hlocal
    obtain ⟨events', hevents', hfilter⟩ := dispatchNwk_local rx' (macFrame c tx out) rssi lqi
      hbounded (hcallbacks ▸ hzcl) (haddress ▸ hlocal)
    obtain rfl : events = events' := Option.some.inj (hevents.symm.trans hevents')
    rw [List.filter_append, hfilter]
    split <;> rfl
  · intro hremote e he
    obtain ⟨events', hevents', hnone⟩ := dispatchNwk_remote rx' (macFrame c tx out) rssi lqi
      hbounded (haddress ▸ hremote)
    obtain rfl : events = events' := Option.some.inj (hevents.symm.trans hevents')
    rcases List.mem_append.mp he with h | h
    · split at h
      · rw [List.mem_singleton.mp h]
        rfl
      · cases h
    · exact hnone e h

/-- The event hands over what the call sent. -/
structure ZclCall.Delivered (c : ZclCall) (tx : CC2530Radio) (nwk : Parsed NwkDataFrame)
    (aps : Parsed ZigbeeAps.ApsDataFrame) (zcl : Parsed ZigbeeZcl.ZclFrame) : Prop where
  frameType : zcl.frame.frameType = c.zclFrameType
  direction : zcl.frame.direction = c.zclDirection
  sequence : zcl.frame.sequence = tx.zclSequence
  commandId : zcl.frame.commandId = c.commandId
  payload : zcl.frame.payloadBytes zcl.bytes = c.payload
  dstEndpoint : aps.frame.dstEndpoint = c.dstEndpoint
  srcEndpoint : aps.frame.srcEndpoint = c.srcEndpoint
  clusterId : aps.frame.clusterId = c.clusterId
  profileId : aps.frame.profileId = c.profileId
  dstShort : nwk.frame.dstShort = c.nwkDstShort
  srcShort : nwk.frame.srcShort = c.nwkSrcShort

theorem delivered_frames (c : ZclCall) (tx : CC2530Radio) :
    c.Delivered tx (c.nwkFrame tx) (c.apsFrame tx) (c.zclFrame tx) :=
  ⟨rfl, rfl, rfl, rfl, c.zclFrame_payload tx, rfl, rfl, rfl, rfl, rfl, rfl⟩

theorem receivePsdu_call {psdu : List UInt8} (hsend : (c.send ecb tx).2 = some psdu)
    (hsec : SameSecurity tx rx) (rssi : Int8) (lqi : UInt8) :
    psdu.length ≤ kMaxPsdu ∧
    ∃ rx' events, rx.receivePsdu ecb rssi lqi psdu = some (rx', events) ∧
      (rx.callbacks.zcl = true →
        c.nwkDstShort = rx.localShortAddress ∨ c.nwkDstShort ≥ 0xFFF8 →
        ∃ mac nwk aps zcl, events.filter Event.isZcl = [.zcl mac nwk aps zcl rssi lqi] ∧
          c.Delivered tx nwk aps zcl) ∧
      (¬ (c.nwkDstShort = rx.localShortAddress ∨ c.nwkDstShort ≥ 0xFFF8) →
        ∀ e ∈ events, e.isApplication = false) := by
  obtain ⟨hbounded, out, hlen, rfl, hopen⟩ := openReceived_call hsend hsec
  obtain ⟨rx', events, hevents, hlocal, hremote⟩ := receiveData_call hbounded hopen rssi lqi
  have hpsdu : (shortDataBytes c.panId c.macDstShort c.macSrcShort tx.macSequence c.ackRequest
      out).length ≤ kMaxPsdu := by
    simp only [kMaxPsdu] at hlen ⊢
    simp [shortDataBytes]
    omega
  refine ⟨hpsdu, ?_⟩
  have hparse := parseShortDataFrame_bytes c.panId c.macDstShort c.macSrcShort tx.macSequence
    c.ackRequest hlen
  have hrx : ∀ e ∈ (if rx.callbacks.rx then [Event.rx (shortDataBytes c.panId c.macDstShort
      c.macSrcShort tx.macSequence c.ackRequest out) rssi lqi] else []),
      e.isZcl = false ∧ e.isApplication = false := by
    split <;> simp [Event.isZcl, Event.isApplication]
  change rx.receiveData ecb ⟨_, _⟩ rssi lqi = _ at hevents
  simp only [receivePsdu, hparse, hevents, if_true, Option.bind_eq_bind, Option.bind_some]
  split
  · refine ⟨rx', _, rfl, ?_, ?_⟩
    · intro hzcl hdst
      refine ⟨macFrame c tx out, _, _, _, ?_, delivered_frames c tx⟩
      rw [List.filter_append, hlocal hzcl hdst, List.append_left_eq_self, List.filter_eq_nil_iff]
      intro e he
      simp [(hrx e he).1]
    · intro hdst e he
      rcases List.mem_append.mp he with h | h
      · exact (hrx e h).2
      · exact hremote hdst e h
  · next hnone =>
    refine ⟨rx, _, rfl, ?_, fun _ e he => (hrx e he).2⟩
    intro hzcl _
    simp [hzcl] at hnone

/-- A PSDU that `sendZclCommand` got as far as handing to the module, fed to an idle receiver as one
received frame: if the receiver is the NWK destination, its ZCL callback runs once, with what was
sent; if not, no callback above the NWK layer runs. -/
theorem zcl_delivery {psdu : List UInt8} (hsend : (c.send ecb tx).2 = some psdu)
    (hsec : SameSecurity tx rx) (hidle : rx.state = .sof) (rssi lqi : UInt8) :
    ∃ rx' events, Transducer.run (feed ecb) rx (uartFrame (rxBody rssi lqi psdu)) =
        some (rx', events) ∧
      (rx.callbacks.zcl = true →
        c.nwkDstShort = rx.localShortAddress ∨ c.nwkDstShort ≥ 0xFFF8 →
        ∃ mac nwk aps zcl,
          events.filter Event.isZcl = [.zcl mac nwk aps zcl (rssi.toInt8 - rssiOffset) lqi] ∧
          c.Delivered tx nwk aps zcl) ∧
      (¬ (c.nwkDstShort = rx.localShortAddress ∨ c.nwkDstShort ≥ 0xFFF8) →
        ∀ e ∈ events, e.isApplication = false) := by
  obtain ⟨body, hbody⟩ : ∃ body, body = rxBody rssi lqi psdu := ⟨_, rfl⟩
  -- the parser reaches the PSDU with the driver as it was, but for its own fields
  have hsec' : SameSecurity tx { rx with
      len := body.length.toUInt8, buf := body, state := .sof
      fcs := body.foldl (· ^^^ ·) body.length.toUInt8 } := hsec
  obtain ⟨hlen, rx', events, hevents, hdelivered⟩ :=
    receivePsdu_call hsend hsec' (rssi.toInt8 - rssiOffset) lqi
  have hlen' : psdu.length ≤ 125 := hlen
  have hbodyLen : body.length = psdu.length + 3 := by rw [hbody]; rfl
  rw [← receiveFrame_rx (by omega) hbody (by rw [hbody])] at hevents
  rw [← hbody]
  exact ⟨rx', events, run_uartFrame hidle (List.ne_nil_of_length_pos (by omega)) (by omega) hevents,
    hdelivered⟩

private def onCommand : ZclCall where
  panId := 0x1A62
  macDstShort := 0x0000
  macSrcShort := 0x1234
  nwkDstShort := 0x0000
  nwkSrcShort := 0x1234
  dstEndpoint := 1
  clusterId := 0x0006
  profileId := 0x0104
  srcEndpoint := 1
  commandId := 0x01
  payload := []
  zclFrameType := 1
  zclDirection := 0
  radius := 30
  ackRequest := false

private def keyedRadio : CC2530Radio :=
  { callbacks := { zcl := true }
    security := some (init.setNetworkKey (Block.ofList [0xA1, 0xA2]) 1)
    securityIeee := 0x1122
    localShortAddress := 0x0000 }

/-- A secured On command to the coordinator. -/
theorem zcl_delivery_on_command :
    ∃ psdu rx' events mac nwk aps zcl, (onCommand.send Aes128.encrypt keyedRadio).2 = some psdu ∧
      Transducer.run (feed Aes128.encrypt) keyedRadio (uartFrame (rxBody 0xD0 0xE4 psdu)) =
        some (rx', events) ∧
      events.filter Event.isZcl =
        [.zcl mac nwk aps zcl ((0xD0 : UInt8).toInt8 - rssiOffset) 0xE4] ∧
      onCommand.Delivered keyedRadio nwk aps zcl := by
  obtain ⟨psdu, hsend⟩ := Option.isSome_iff_exists.mp
    (by decide : (onCommand.send Aes128.encrypt keyedRadio).2.isSome)
  have hsec : SameSecurity keyedRadio keyedRadio :=
    Or.inr ⟨_, _, rfl, rfl, rfl, Or.inl ⟨rfl, Or.inl ⟨rfl, rfl⟩⟩, rfl, by decide⟩
  obtain ⟨rx', events, hrun, hlocal, -⟩ := zcl_delivery hsend hsec rfl 0xD0 0xE4
  obtain ⟨mac, nwk, aps, zcl, hfilter, hdelivered⟩ := hlocal rfl (Or.inl rfl)
  exact ⟨psdu, rx', events, mac, nwk, aps, zcl, hsend, hrun, hfilter, hdelivered⟩

end Receiving

end NiusZigbee.CC2530Radio
