import NiusZigbee.Mac.Codec
import NiusZigbee.Radio.Delivery

/-!
# The driver's transmissions

Every sender builds its frame with the next sequence numbers and hands a PSDU to the module. The
senders of NWK frames, but for the one that delivers a key, put NWK security in between: build,
secure under the next frame counter, wrap in a MAC data frame.
-/

namespace NiusZigbee.CC2530Radio

open ByteCodec OutBuffer ZigbeeMac ZigbeeSecurity

/-! ## MAC frames -/

/-- A MAC frame under the next MAC sequence number. -/
def sendMac (r : CC2530Radio) (build : UInt8 → Built) : CC2530Radio × Option (List UInt8) :=
  let psdu := build r.macSequence
  ({ r with macSequence := r.macSequence + 1 }, if psdu.len = 0 then none else some psdu.bytes)

def sendAssociationRequest (r : CC2530Radio) (panId coordShort : UInt16) (srcIeee : UInt64)
    (capability : UInt8) (ackRequest : Bool) : CC2530Radio × Option (List UInt8) :=
  r.sendMac fun sequence =>
    buildAssociationRequest kMaxPayload panId coordShort srcIeee sequence capability ackRequest

def sendAssociationResponse (r : CC2530Radio) (panId : UInt16) (dstIeee : UInt64)
    (srcShort assignedShort : UInt16) (status : UInt8) (ackRequest : Bool) :
    CC2530Radio × Option (List UInt8) :=
  r.sendMac fun sequence =>
    buildAssociationResponse kMaxPayload panId dstIeee srcShort sequence assignedShort status
      ackRequest

def sendBeaconRequest (r : CC2530Radio) : CC2530Radio × Option (List UInt8) :=
  r.sendMac fun sequence => buildBeaconRequest kMaxPayload sequence

def sendBeacon (r : CC2530Radio) (panId srcShort : UInt16)
    (panCoordinator associationPermit : Bool) (payload : List UInt8) :
    CC2530Radio × Option (List UInt8) :=
  r.sendMac fun sequence =>
    buildBeacon kMaxPayload panId srcShort sequence panCoordinator associationPermit payload

/-! ## NWK frames -/

/-- PAN, MAC and NWK addresses of a NWK frame. -/
structure Addresses where
  panId : UInt16
  macDstShort : UInt16
  macSrcShort : UInt16
  nwkDstShort : UInt16
  nwkSrcShort : UInt16
deriving DecidableEq, Repr

variable (ecb : BlockCipher)

/-- A built NPDU, secured if there is a key, inside a MAC data frame. -/
def sendSecured (r : CC2530Radio) (a : Addresses) (npdu : Built) (ackRequest : Bool) :
    CC2530Radio × Option (List UInt8) :=
  if npdu.len = 0 then (r, none)
  else
    match r.applyTxSecurity ecb npdu.bytes kSecuredMax with
    | (r, none) => (r, none)
    | (r, some npdu) => r.sendData a.panId a.macDstShort a.macSrcShort npdu ackRequest

def sendNwkDataSourceRouted (r : CC2530Radio) (a : Addresses) (relays : List UInt16)
    (relayIndex : UInt8) (payload : List UInt8) (radius sequence : UInt8) (ackRequest : Bool) :
    CC2530Radio × Option (List UInt8) :=
  r.sendSecured ecb a (ZigbeeNwk.buildDataFrameSourceRouted ZigbeeNwk.kMaxFrame.toUInt8
    a.nwkDstShort a.nwkSrcShort radius sequence relays relayIndex payload 0) ackRequest

def sendNwkCommand (r : CC2530Radio) (a : Addresses) (commandId : UInt8) (payload : List UInt8)
    (radius : UInt8) (ackRequest : Bool) : CC2530Radio × Option (List UInt8) :=
  { r with nwkSequence := r.nwkSequence + 1 }.sendSecured ecb a
    (ZigbeeNwk.buildCommandFrame ZigbeeNwk.kMaxFrame.toUInt8 a.nwkDstShort a.nwkSrcShort radius
      r.nwkSequence commandId payload 0) ackRequest

/-- Past NWK security on purpose: the frame carries the network key, under the APS layer's. -/
def sendNwkDataUnsecured (r : CC2530Radio) (a : Addresses) (payload : List UInt8) (radius : UInt8)
    (ackRequest : Bool) : CC2530Radio × Option (List UInt8) :=
  let npdu := ZigbeeNwk.buildDataFrame ZigbeeNwk.kMaxFrame.toUInt8 a.nwkDstShort a.nwkSrcShort
    radius r.nwkSequence payload 0
  let r := { r with nwkSequence := r.nwkSequence + 1 }
  if npdu.len = 0 then (r, none)
  else r.sendData a.panId a.macDstShort a.macSrcShort npdu.bytes ackRequest

/-- `ZigbeeZdo::kEndpoint`. -/
def kZdoEndpoint : UInt8 := 0

def sendZdoCommand (r : CC2530Radio) (a : Addresses) (clusterId : UInt16) (payload : List UInt8)
    (radius : UInt8) (ackRequest : Bool) : CC2530Radio × Option (List UInt8) :=
  r.sendApsData ecb a.panId a.macDstShort a.macSrcShort a.nwkDstShort a.nwkSrcShort
    kZdoEndpoint clusterId ZigbeeAps.kProfileZigbeeDevice kZdoEndpoint payload radius
    ackRequest

/-- The calls that go through NWK security. -/
inductive NwkTx where
  | data (payload : List UInt8) (radius : UInt8)
  | sourceRouted (relays : List UInt16) (relayIndex : UInt8) (payload : List UInt8)
    (radius sequence : UInt8)
  | command (commandId : UInt8) (payload : List UInt8) (radius : UInt8)
  | aps (dstEndpoint : UInt8) (clusterId profileId : UInt16) (srcEndpoint : UInt8)
    (payload : List UInt8) (radius : UInt8)
  | zdo (clusterId : UInt16) (payload : List UInt8) (radius : UInt8)
  | zcl (dstEndpoint : UInt8) (clusterId profileId : UInt16) (srcEndpoint commandId : UInt8)
    (payload : List UInt8) (zclFrameType zclDirection radius : UInt8)
deriving DecidableEq, Repr

/-- The radio with the sequence numbers above MAC used up, and the NPDU around an APS data frame. -/
def prepareAps (a : Addresses) (r : CC2530Radio) (dstEndpoint : UInt8)
    (clusterId profileId : UInt16) (srcEndpoint : UInt8) (payload : List UInt8) (radius : UInt8) :
    CC2530Radio × Built :=
  let apdu := ZigbeeAps.buildDataFrame ZigbeeAps.kMaxFrame.toUInt8 dstEndpoint clusterId profileId
    srcEndpoint r.apsCounter payload false
  let r := { r with apsCounter := r.apsCounter + 1 }
  if apdu.len = 0 then (r, .fail)
  else
    ({ r with nwkSequence := r.nwkSequence + 1 },
      ZigbeeNwk.buildDataFrame ZigbeeNwk.kMaxFrame.toUInt8 a.nwkDstShort a.nwkSrcShort radius
        r.nwkSequence apdu.bytes 0)

namespace NwkTx

def run (a : Addresses) (ackRequest : Bool) (r : CC2530Radio) :
    NwkTx → CC2530Radio × Option (List UInt8)
  | .data payload radius =>
    r.sendNwkData ecb a.panId a.macDstShort a.macSrcShort a.nwkDstShort a.nwkSrcShort payload radius
      ackRequest
  | .sourceRouted relays relayIndex payload radius sequence =>
    r.sendNwkDataSourceRouted ecb a relays relayIndex payload radius sequence ackRequest
  | .command commandId payload radius => r.sendNwkCommand ecb a commandId payload radius ackRequest
  | .aps dstEndpoint clusterId profileId srcEndpoint payload radius =>
    r.sendApsData ecb a.panId a.macDstShort a.macSrcShort a.nwkDstShort a.nwkSrcShort dstEndpoint
      clusterId profileId srcEndpoint payload radius ackRequest
  | .zdo clusterId payload radius => r.sendZdoCommand ecb a clusterId payload radius ackRequest
  | .zcl dstEndpoint clusterId profileId srcEndpoint commandId payload zclFrameType zclDirection
      radius =>
    r.sendZclCommand ecb a.panId a.macDstShort a.macSrcShort a.nwkDstShort a.nwkSrcShort
      dstEndpoint clusterId profileId srcEndpoint commandId payload zclFrameType zclDirection radius
      ackRequest

/-- The radio with the sequence numbers of the layers above MAC used up, and the NPDU built. -/
def prepare (a : Addresses) (r : CC2530Radio) : NwkTx → CC2530Radio × Built
  | .data payload radius =>
    ({ r with nwkSequence := r.nwkSequence + 1 },
      ZigbeeNwk.buildDataFrame ZigbeeNwk.kMaxFrame.toUInt8 a.nwkDstShort a.nwkSrcShort radius
        r.nwkSequence payload 0)
  | .sourceRouted relays relayIndex payload radius sequence =>
    (r, ZigbeeNwk.buildDataFrameSourceRouted ZigbeeNwk.kMaxFrame.toUInt8 a.nwkDstShort
      a.nwkSrcShort radius sequence relays relayIndex payload 0)
  | .command commandId payload radius =>
    ({ r with nwkSequence := r.nwkSequence + 1 },
      ZigbeeNwk.buildCommandFrame ZigbeeNwk.kMaxFrame.toUInt8 a.nwkDstShort a.nwkSrcShort radius
        r.nwkSequence commandId payload 0)
  | .aps dstEndpoint clusterId profileId srcEndpoint payload radius =>
    prepareAps a r dstEndpoint clusterId profileId srcEndpoint payload radius
  | .zdo clusterId payload radius =>
    prepareAps a r kZdoEndpoint clusterId ZigbeeAps.kProfileZigbeeDevice kZdoEndpoint payload radius
  | .zcl dstEndpoint clusterId profileId srcEndpoint commandId payload zclFrameType zclDirection
      radius =>
    let zcl := ZigbeeZcl.buildCommandFrame ZigbeeZcl.kMaxFrame.toUInt8 zclFrameType r.zclSequence
      commandId payload zclDirection true
    let r := { r with zclSequence := r.zclSequence + 1 }
    if zcl.len = 0 then (r, .fail)
    else prepareAps a r dstEndpoint clusterId profileId srcEndpoint zcl.bytes radius

variable {ecb} {a : Addresses} {r : CC2530Radio}

/-- Whatever a call sends, it is one NPDU through NWK security and a MAC data frame. -/
theorem run_eq (ackRequest : Bool) (tx : NwkTx) :
    tx.run ecb a ackRequest r =
      (tx.prepare a r).1.sendSecured ecb a (tx.prepare a r).2 ackRequest := by
  have haps (r : CC2530Radio) (dstEndpoint : UInt8) (clusterId profileId : UInt16)
      (srcEndpoint : UInt8) (payload : List UInt8) (radius : UInt8) :
      r.sendApsData ecb a.panId a.macDstShort a.macSrcShort a.nwkDstShort a.nwkSrcShort dstEndpoint
        clusterId profileId srcEndpoint payload radius ackRequest =
      (prepareAps a r dstEndpoint clusterId profileId srcEndpoint payload radius).1.sendSecured ecb
        a (prepareAps a r dstEndpoint clusterId profileId srcEndpoint payload radius).2
        ackRequest := by
    simp only [sendApsData, prepareAps]
    split
    · rfl
    · rfl
  cases tx with
  | data => rfl
  | sourceRouted => rfl
  | command => rfl
  | aps => exact haps ..
  | zdo => exact haps ..
  | zcl =>
    simp only [run, sendZclCommand, prepare]
    split
    · rfl
    · exact haps ..

/-! ## What is built -/

/-- The relays of a source-routed frame fit the one-byte header length. -/
def RelaysFit : NwkTx → Prop
  | .sourceRouted relays .. => relays.length ≤ 122
  | _ => True

instance : DecidablePred RelaysFit := fun tx =>
  match tx with
  | .sourceRouted relays .. => inferInstanceAs (Decidable (relays.length ≤ 122))
  | .data .. | .command .. | .aps .. | .zdo .. | .zcl .. => isTrue trivial

end NwkTx

/-- A NWK frame as the builders leave it: short, without the security bit, with a header that
`nwkHeaderLength` measures, and one that a NWK parser takes. -/
structure Unprotected (npdu : List UInt8) : Prop where
  lower : 8 ≤ npdu.length
  upper : npdu.length ≤ ZigbeeNwk.kMaxFrame
  clear : nwkSecurityBit npdu = false
  header : npdu.getD 1 0 &&& headerBits = 0 ∨
    8 < npdu.length ∧ npdu.getD 1 0 &&& headerBits = 0x04 ∧ npdu.getD 8 0 ≤ 122
  parses : (∃ frame, ZigbeeNwk.parseDataFrame npdu = some (true, frame)) ∨
    ∃ frame, ZigbeeNwk.parseCommandFrame npdu = some (true, frame)

open ZigbeeNwk

theorem getD_header_one (fcf dst src : UInt16) (radius sequence : UInt8) (rest : List UInt8) :
    (headerBytes fcf dst src radius sequence rest).getD 1 0 = hi8 fcf := rfl

theorem unprotected_header {fcf dst src : UInt16} {radius sequence : UInt8} {rest : List UInt8}
    (hlen : rest.length ≤ ZigbeeNwk.kMaxPayload) (hclear : hi8 fcf &&& 0x02 = 0)
    (hplain : hi8 fcf &&& headerBits = 0)
    (hparses : (∃ frame, ZigbeeNwk.parseDataFrame (headerBytes fcf dst src radius sequence rest) =
        some (true, frame)) ∨
      ∃ frame, ZigbeeNwk.parseCommandFrame (headerBytes fcf dst src radius sequence rest) =
        some (true, frame)) :
    Unprotected (headerBytes fcf dst src radius sequence rest) where
  lower := by rw [headerBytes_length, kBaseHeaderLen]; omega
  upper := by
    rw [headerBytes_length]
    simp only [ZigbeeNwk.kMaxPayload, kMaxFrame, kBaseHeaderLen] at hlen ⊢
    omega
  clear := by simp only [nwkSecurityBit, getD_header_one, hclear, bne_self_eq_false]
  header := Or.inl hplain
  parses := hparses

theorem unprotected_routed {dst src : UInt16} {radius sequence relayIndex : UInt8}
    {relays : List UInt16} {payload : List UInt8} (hcount : relays.length ≤ 122)
    (hlen : kBaseHeaderLen + (2 + relays.length * 2) + payload.length ≤ kMaxFrame) :
    Unprotected (headerBytes (baseFcf nwkFrameData 0 ||| ((1 : UInt16) <<< 10)) dst src radius
      sequence (routedBytes relays relayIndex payload)) where
  lower := by rw [headerBytes_length, kBaseHeaderLen]; omega
  upper := by rw [headerBytes_length, routedBytes_length]; omega
  clear := by
    rw [nwkSecurityBit, getD_header_one]
    decide
  header := by
    have hcountByte : (headerBytes (baseFcf nwkFrameData 0 ||| ((1 : UInt16) <<< 10)) dst src radius
        sequence (routedBytes relays relayIndex payload)).getD 8 0 = relays.length.toUInt8 := rfl
    refine Or.inr ⟨?_, by rw [getD_header_one]; decide, ?_⟩
    · rw [headerBytes_length, routedBytes_length, kBaseHeaderLen]
      omega
    · rw [hcountByte, UInt8.le_iff_toNat_le, Nat.toUInt8, UInt8.toNat_ofNat']
      exact le_trans (Nat.mod_le _ _) hcount
  parses := by
    have hpayload : payload.length ≤ ZigbeeNwk.kMaxPayload := by
      simp only [ZigbeeNwk.kMaxPayload]
      omega
    exact Or.inl ⟨_, parseDataFrame_routed dst src radius sequence hcount hpayload (by decide)⟩

theorem buildDataFrame_unprotected {dst src : UInt16} {radius sequence : UInt8}
    {payload : List UInt8}
    (h : (buildDataFrame kMaxFrame.toUInt8 dst src radius sequence payload 0).len ≠ 0) :
    Unprotected (buildDataFrame kMaxFrame.toUInt8 dst src radius sequence payload 0).bytes := by
  obtain ⟨hlen, heq⟩ := buildDataFrame_bytes h
  rw [heq, Built.exact_bytes]
  exact unprotected_header hlen rfl rfl
    (Or.inl ⟨_, parseDataFrame_header dst src radius sequence hlen (by decide)⟩)

theorem buildCommandFrame_unprotected {dst src : UInt16} {radius sequence commandId : UInt8}
    {payload : List UInt8}
    (h : (buildCommandFrame kMaxFrame.toUInt8 dst src radius sequence commandId payload 0).len ≠
      0) :
    Unprotected
      (buildCommandFrame kMaxFrame.toUInt8 dst src radius sequence commandId payload 0).bytes := by
  have hlen : payload.length ≤ ZigbeeNwk.kMaxPayload - 1 := by
    by_contra hlong
    have hmod : (ZigbeeNwk.kMaxPayload - 1) % 256 = ZigbeeNwk.kMaxPayload - 1 := rfl
    rw [buildCommandFrame, if_pos (by omega)] at h
    exact h rfl
  have hmax : kBaseHeaderLen + 1 + payload.length ≤ kMaxFrame.toUInt8.toNat := by
    have hout : kMaxFrame.toUInt8.toNat = kMaxFrame := rfl
    rw [hout]
    simp only [ZigbeeNwk.kMaxPayload, kMaxFrame, kBaseHeaderLen] at hlen ⊢
    omega
  rw [buildCommandFrame_eq dst src radius sequence commandId hmax hlen (by decide),
    Built.exact_bytes]
  refine unprotected_header ?_ rfl rfl
    (Or.inr ⟨_, parseCommandFrame_header dst src radius sequence commandId hlen (by decide)⟩)
  simp only [List.length_cons, ZigbeeNwk.kMaxPayload, kMaxFrame, kBaseHeaderLen] at hlen ⊢
  omega

theorem buildDataFrameSourceRouted_length {dst src : UInt16} {radius sequence relayIndex : UInt8}
    {relays : List UInt16} {payload : List UInt8} :
    (buildDataFrameSourceRouted kMaxFrame.toUInt8 dst src radius sequence relays relayIndex payload
      0).bytes.length ≤ kMaxFrame := by
  rw [Built.bytes, List.length_map, List.length_range]
  simp only [buildDataFrameSourceRouted]
  split
  · exact Nat.zero_le _
  split
  · exact Nat.zero_le _
  next hmax =>
  split
  · exact Nat.zero_le _
  · have hout : kMaxFrame.toUInt8.toNat = kMaxFrame := rfl
    rw [hout] at hmax
    exact le_trans (Nat.mod_le _ _) (Nat.not_lt.mp hmax)

theorem buildDataFrameSourceRouted_unprotected {dst src : UInt16}
    {radius sequence relayIndex : UInt8} {relays : List UInt16} {payload : List UInt8}
    (hcount : relays.length ≤ 122)
    (h : (buildDataFrameSourceRouted kMaxFrame.toUInt8 dst src radius sequence relays relayIndex
      payload 0).len ≠ 0) :
    Unprotected (buildDataFrameSourceRouted kMaxFrame.toUInt8 dst src radius sequence relays
      relayIndex payload 0).bytes := by
  have hout : kMaxFrame.toUInt8.toNat = kMaxFrame := rfl
  have hhead : (kBaseHeaderLen + (2 + relays.length * 2) % 256) % 256 =
      kBaseHeaderLen + (2 + relays.length * 2) := by
    simp only [kBaseHeaderLen]
    omega
  have hfits : kBaseHeaderLen + (2 + relays.length * 2) + payload.length ≤ kMaxFrame := by
    by_contra hlong
    simp only [buildDataFrameSourceRouted, hhead] at h
    rw [if_neg (by decide), if_pos (by omega)] at h
    exact h rfl
  have hlen : payload.length ≤ ZigbeeNwk.kMaxPayload := by
    simp only [ZigbeeNwk.kMaxPayload]
    omega
  rw [buildDataFrameSourceRouted_eq dst src radius sequence relayIndex hcount (by omega) hlen
    (by decide), Built.exact_bytes]
  exact unprotected_routed hcount hfits

namespace NwkTx

variable {a : Addresses} {r : CC2530Radio}

theorem prepareAps_unprotected {dstEndpoint : UInt8} {clusterId profileId : UInt16}
    {srcEndpoint : UInt8} {payload : List UInt8} {radius : UInt8}
    (h : (prepareAps a r dstEndpoint clusterId profileId srcEndpoint payload radius).2.len ≠ 0) :
    Unprotected
      (prepareAps a r dstEndpoint clusterId profileId srcEndpoint payload radius).2.bytes := by
  simp only [prepareAps] at h ⊢
  split at h
  · exact absurd rfl h
  · next haps =>
    rw [if_neg haps]
    exact buildDataFrame_unprotected h

theorem prepare_unprotected {tx : NwkTx} (hrelays : tx.RelaysFit)
    (h : (tx.prepare a r).2.len ≠ 0) : Unprotected (tx.prepare a r).2.bytes := by
  cases tx with
  | data => exact buildDataFrame_unprotected h
  | sourceRouted => exact buildDataFrameSourceRouted_unprotected hrelays h
  | command => exact buildCommandFrame_unprotected h
  | aps => exact prepareAps_unprotected h
  | zdo => exact prepareAps_unprotected h
  | zcl =>
    simp only [prepare] at h ⊢
    split at h
    · exact absurd rfl h
    · next hzcl =>
      rw [if_neg hzcl]
      exact prepareAps_unprotected h

theorem prepare_length {tx : NwkTx} (h : (tx.prepare a r).2.len ≠ 0) :
    (tx.prepare a r).2.bytes.length ≤ kMaxFrame := by
  by_cases hrelays : tx.RelaysFit
  · exact (prepare_unprotected hrelays h).upper
  · cases tx with
    | sourceRouted => exact buildDataFrameSourceRouted_length
    | data | command | aps | zdo | zcl => exact absurd trivial hrelays

end NwkTx

/-! ## What a transmission leaves behind -/

/-- Only sequence numbers differ. -/
def Sequences (r r' : CC2530Radio) : Prop :=
  ∃ mac nwk aps zcl, r' =
    { r with macSequence := mac, nwkSequence := nwk, apsCounter := aps, zclSequence := zcl }

theorem Sequences.refl (r : CC2530Radio) : Sequences r r := ⟨_, _, _, _, rfl⟩

theorem Sequences.trans {r r' r'' : CC2530Radio} (h : Sequences r r') (h' : Sequences r' r'') :
    Sequences r r'' := by
  obtain ⟨_, _, _, _, rfl⟩ := h
  obtain ⟨_, _, _, _, rfl⟩ := h'
  exact ⟨_, _, _, _, rfl⟩

/-- The MAC data frame around `npdu`, secured under the counter after the radio's. -/
def SecuredPsdu (ecb : BlockCipher) (r : CC2530Radio) (s : ZigbeeSecurity)
    (npdu psdu : List UInt8) : Prop :=
  Fits npdu (nwkHeaderLength npdu).toNat kSecuredMax ∧
    ∃ panId dst src sequence ackRequest,
      (securedBytes ecb s.key s.keySequence npdu (nwkHeaderLength npdu).toNat r.securityIeee
        (r.securityCounter + 1)).length ≤ kMaxPsdu - 9 ∧
      psdu = shortDataBytes panId dst src sequence ackRequest
        (securedBytes ecb s.key s.keySequence npdu (nwkHeaderLength npdu).toNat r.securityIeee
          (r.securityCounter + 1))

section Effect

variable {ecb : BlockCipher} {r : CC2530Radio} {npdu : List UInt8}

theorem applyTxSecurity_unsecured (h : r.Unsecured) (npdu : List UInt8) (max : UInt8) :
    r.applyTxSecurity ecb npdu max = (r, some npdu) := by
  simp only [Unsecured] at h
  cases hsec : r.security with
  | none => simp only [applyTxSecurity, hsec]
  | some s =>
    have hkey : s.hasKey = false := by simpa [hsec] using h
    simp only [applyTxSecurity, hsec, hkey, Bool.not_false, if_true]

/-- Under a key, securing uses the next frame counter, whether it succeeds or not. -/
theorem applyTxSecurity_keyed (ecb : BlockCipher) {s : ZigbeeSecurity} (hsec : r.security = some s)
    (hkey : s.hasKey = true) (npdu : List UInt8) (max : UInt8) :
    ∃ stats, (r.applyTxSecurity ecb npdu max).1 =
      { r with
        security := some { s with stats := stats }, securityCounter := r.securityCounter + 1 } := by
  simp only [applyTxSecurity, hsec, hkey, Bool.not_true, Bool.false_eq_true, if_false]
  obtain ⟨stats, hstats⟩ : ∃ stats, (s.secureNpdu ecb npdu (nwkHeaderLength npdu).toNat
      r.securityIeee (r.securityCounter + 1) kSecuredMax).1 = { s with stats := stats } := by
    simp only [secureNpdu]
    split
    · exact ⟨_, rfl⟩
    split
    · exact ⟨_, rfl⟩
    split
    · exact ⟨_, rfl⟩
    split <;> exact ⟨_, rfl⟩
  refine ⟨stats, ?_⟩
  rw [hstats]
  simp only [hkey]

theorem keyed_of_not_unsecured (h : ¬ r.Unsecured) :
    ∃ s, r.security = some s ∧ s.hasKey = true := by
  cases hsec : r.security with
  | none => exact absurd (by simp [Unsecured, hsec]) h
  | some s => exact ⟨s, rfl, by simpa [Unsecured, hsec] using h⟩

theorem sendMac_sequences (build : UInt8 → Built) : Sequences r (r.sendMac build).1 :=
  ⟨_, _, _, _, rfl⟩

theorem sendData_sequences (panId dst src : UInt16) (payload : List UInt8) (ackRequest : Bool) :
    Sequences r (r.sendData panId dst src payload ackRequest).1 :=
  ⟨_, _, _, _, rfl⟩

theorem sendSecured_unsecured (h : r.Unsecured) (a : Addresses) (npdu : Built)
    (ackRequest : Bool) : Sequences r (r.sendSecured ecb a npdu ackRequest).1 := by
  simp only [sendSecured, applyTxSecurity_unsecured h]
  split
  · exact Sequences.refl r
  · apply sendData_sequences

/-- Under a key: nothing was built, or the next frame counter is used up, and what is handed to the
module is the NPDU secured under it. -/
theorem sendSecured_keyed (ecb : BlockCipher) {s : ZigbeeSecurity} (hsec : r.security = some s)
    (hkey : s.hasKey = true) (a : Addresses) {npdu : Built} (hlen : npdu.bytes.length ≤ kMaxFrame)
    (ackRequest : Bool) :
    (npdu.len = 0 ∧ r.sendSecured ecb a npdu ackRequest = (r, none)) ∨
    (npdu.len ≠ 0 ∧ (∃ stats, Sequences { r with
          security := some { s with stats := stats }, securityCounter := r.securityCounter + 1 }
        (r.sendSecured ecb a npdu ackRequest).1) ∧
      ∀ psdu, (r.sendSecured ecb a npdu ackRequest).2 = some psdu →
        SecuredPsdu ecb r s npdu.bytes psdu) := by
  by_cases hzero : npdu.len = 0
  · exact Or.inl ⟨hzero, by rw [sendSecured, if_pos hzero]⟩
  · obtain ⟨stats, hstats⟩ := applyTxSecurity_keyed ecb hsec hkey npdu.bytes kSecuredMax
    refine Or.inr ⟨hzero, ⟨stats, ?_⟩, ?_⟩
    · rw [sendSecured, if_neg hzero]
      split
      · next r' hout =>
        rw [← hstats, hout]
        exact Sequences.refl r'
      · next r' out hout =>
        rw [← hstats, hout]
        apply sendData_sequences
    · intro psdu hpsdu
      rw [sendSecured, if_neg hzero] at hpsdu
      split at hpsdu
      · cases hpsdu
      · next r' out hout =>
        have hlong : npdu.bytes.length ≤ 237 := by
          simp only [kMaxFrame] at hlen
          omega
        rcases applyTxSecurity_some hlong (congrArg Prod.snd hout) with
          ⟨hunsecured, -⟩ | ⟨s', hsec', -, hfits, rfl⟩
        · simp [hsec, hkey] at hunsecured
        · obtain rfl : s = s' := Option.some.inj (hsec.symm.trans hsec')
          obtain ⟨houtLen, rfl⟩ := sendData_some hpsdu
          exact ⟨hfits, _, _, _, _, _, houtLen, rfl⟩

end Effect

namespace NwkTx

variable {a : Addresses} {r : CC2530Radio}

theorem prepareAps_sequences (dstEndpoint : UInt8) (clusterId profileId : UInt16)
    (srcEndpoint : UInt8) (payload : List UInt8) (radius : UInt8) :
    Sequences r
      (prepareAps a r dstEndpoint clusterId profileId srcEndpoint payload radius).1 := by
  simp only [prepareAps]
  split <;> exact ⟨_, _, _, _, rfl⟩

theorem prepare_sequences (tx : NwkTx) : Sequences r (tx.prepare a r).1 := by
  cases tx with
  | data | command => exact ⟨_, _, _, _, rfl⟩
  | sourceRouted => exact Sequences.refl r
  | aps | zdo => exact prepareAps_sequences ..
  | zcl =>
    simp only [prepare]
    split
    · exact ⟨_, _, _, _, rfl⟩
    · exact Sequences.trans ⟨_, _, _, _, rfl⟩ (prepareAps_sequences ..)

end NwkTx

/-! ## Any transmission -/

/-- A call of one of the driver's senders. -/
inductive TxCall where
  | data (panId dstShort srcShort : UInt16) (payload : List UInt8) (ackRequest : Bool)
  | associationRequest (panId coordShort : UInt16) (srcIeee : UInt64) (capability : UInt8)
    (ackRequest : Bool)
  | associationResponse (panId : UInt16) (dstIeee : UInt64) (srcShort assignedShort : UInt16)
    (status : UInt8) (ackRequest : Bool)
  | beaconRequest
  | beacon (panId srcShort : UInt16) (panCoordinator associationPermit : Bool)
    (payload : List UInt8)
  | nwkUnsecured (a : Addresses) (payload : List UInt8) (radius : UInt8) (ackRequest : Bool)
  | nwk (a : Addresses) (ackRequest : Bool) (tx : NwkTx)

namespace TxCall

def run (ecb : BlockCipher) (r : CC2530Radio) : TxCall → CC2530Radio × Option (List UInt8)
  | .data panId dstShort srcShort payload ackRequest =>
    r.sendData panId dstShort srcShort payload ackRequest
  | .associationRequest panId coordShort srcIeee capability ackRequest =>
    r.sendAssociationRequest panId coordShort srcIeee capability ackRequest
  | .associationResponse panId dstIeee srcShort assignedShort status ackRequest =>
    r.sendAssociationResponse panId dstIeee srcShort assignedShort status ackRequest
  | .beaconRequest => r.sendBeaconRequest
  | .beacon panId srcShort panCoordinator associationPermit payload =>
    r.sendBeacon panId srcShort panCoordinator associationPermit payload
  | .nwkUnsecured a payload radius ackRequest =>
    r.sendNwkDataUnsecured a payload radius ackRequest
  | .nwk a ackRequest tx => tx.run ecb a ackRequest r

def RelaysFit : TxCall → Prop
  | .nwk _ _ tx => tx.RelaysFit
  | _ => True

/-- The NPDU a call secures under the frame counter after the radio's; `none` where it uses none. -/
def secures (r : CC2530Radio) : TxCall → Option (List UInt8)
  | .nwk a _ tx =>
    if r.security.all (fun s => !s.hasKey) || (tx.prepare a r).2.len = 0 then none
    else some (tx.prepare a r).2.bytes
  | _ => none

variable {ecb : BlockCipher} {r : CC2530Radio}

theorem run_unsecuring {call : TxCall} (h : call.secures r = none) :
    Sequences r (call.run ecb r).1 := by
  cases call with
  | nwk a ackRequest tx =>
    rw [run, NwkTx.run_eq]
    have hkept : Sequences r (tx.prepare a r).1 := tx.prepare_sequences
    apply hkept.trans
    simp only [secures, ite_eq_left_iff, reduceCtorEq, imp_false, not_not, Bool.or_eq_true,
      decide_eq_true_eq] at h
    rcases h with hunsecured | hzero
    · apply sendSecured_unsecured
      obtain ⟨_, _, _, _, hradio⟩ := hkept
      rw [hradio]
      exact hunsecured
    · rw [sendSecured, if_pos hzero]
      exact Sequences.refl _
  | nwkUnsecured a payload radius ackRequest =>
    simp only [run, sendNwkDataUnsecured]
    split
    · exact ⟨_, _, _, _, rfl⟩
    · exact Sequences.trans ⟨_, _, _, _, rfl⟩ (sendData_sequences ..)
  | data => exact sendData_sequences ..
  | associationRequest | associationResponse | beaconRequest | beacon => exact sendMac_sequences _

theorem run_securing (ecb : BlockCipher) {call : TxCall} {npdu : List UInt8}
    (h : call.secures r = some npdu) :
    npdu.length ≤ kMaxFrame ∧ (call.RelaysFit → Unprotected npdu) ∧
    ∃ s, r.security = some s ∧ s.hasKey = true ∧
      (∃ stats, Sequences { r with
          security := some { s with stats := stats }, securityCounter := r.securityCounter + 1 }
        (call.run ecb r).1) ∧
      ∀ psdu, (call.run ecb r).2 = some psdu → SecuredPsdu ecb r s npdu psdu := by
  cases call with
  | nwk a ackRequest tx =>
    simp only [secures, Option.ite_none_left_eq_some, Bool.or_eq_true, decide_eq_true_eq,
      Option.some.injEq, not_or] at h
    obtain ⟨⟨hkeyed, hnonzero⟩, rfl⟩ := h
    obtain ⟨s, hsec, hkey⟩ := keyed_of_not_unsecured hkeyed
    refine ⟨tx.prepare_length hnonzero, fun hrelays => tx.prepare_unprotected hrelays hnonzero, s,
      hsec, hkey, ?_⟩
    obtain ⟨mac, nwk, aps, zcl, hradio⟩ : Sequences r (tx.prepare a r).1 := tx.prepare_sequences
    have hsec' : (tx.prepare a r).1.security = some s := by rw [hradio]; exact hsec
    rw [run, NwkTx.run_eq]
    rcases sendSecured_keyed ecb hsec' hkey a (tx.prepare_length hnonzero) ackRequest with
      ⟨hzero, -⟩ | ⟨-, ⟨stats, hkept⟩, hpsdu⟩
    · exact absurd hzero hnonzero
    · refine ⟨⟨stats, Sequences.trans ⟨mac, nwk, aps, zcl, ?_⟩ hkept⟩, ?_⟩
      · rw [hradio]
      · intro psdu hout
        have hsecured := hpsdu psdu hout
        rw [SecuredPsdu, hradio] at hsecured
        exact hsecured
  | data | associationRequest | associationResponse | beaconRequest | beacon | nwkUnsecured =>
    cases h

end TxCall

/-! ## What a receiver makes of it -/

section Opening

variable {ecb : BlockCipher} {rx : CC2530Radio} {s t : ZigbeeSecurity} {npdu : List UInt8}
  {srcIeee : UInt64} {frameCounter : UInt32}

theorem securedBytes_front {a b : UInt8} {rest : List UInt8} {headerLen : Nat} :
    ∃ tail, securedBytes ecb s.key s.keySequence (a :: b :: rest) (headerLen + 2) srcIeee
      frameCounter = a :: (b ||| 0x02) :: (rest.take headerLen ++ tail) :=
  ⟨_, by simp only [securedBytes, List.take_succ_cons, setNwkSecurityBit, List.append_assoc]; rfl⟩

theorem Unprotected.two_le (h : Unprotected npdu) : 2 ≤ (nwkHeaderLength npdu).toNat := by
  rcases h.header with hplain | ⟨hlong, hrouted, hcount⟩
  · rw [nwkHeaderLength_plain hplain]
    decide
  · have hcount' : (npdu.getD 8 0).toNat ≤ 122 := UInt8.le_iff_toNat_le.mp hcount
    rw [nwkHeaderLength_sourceRouted hlong hrouted]
    simp only [UInt8.toNat_add, UInt8.toNat_mul, UInt8.reduceToNat]
    omega

/-- Setting the security bit moves neither end of the header. -/
theorem exists_front {npdu : List UInt8} (h : 8 ≤ npdu.length) :
    ∃ a b rest, npdu = a :: b :: rest := by
  match npdu, h with
  | a :: b :: rest, _ => exact ⟨a, b, rest, rfl⟩

theorem Unprotected.headerLength_secured (h : Unprotected npdu)
    (hheader : (nwkHeaderLength npdu).toNat ≤ npdu.length) :
    nwkHeaderLength (securedBytes ecb s.key s.keySequence npdu (nwkHeaderLength npdu).toNat srcIeee
      frameCounter) = nwkHeaderLength npdu := by
  rcases h.header with hplain | ⟨hlong, hrouted, hcount⟩
  · rw [nwkHeaderLength_plain hplain]
    exact nwkHeaderLength_secured h.lower hplain
  · have hlength := nwkHeaderLength_sourceRouted hlong hrouted
    have hcount' : (npdu.getD 8 0).toNat ≤ 122 := UInt8.le_iff_toNat_le.mp hcount
    have hnat : (nwkHeaderLength npdu).toNat = 8 + (npdu.getD 8 0).toNat * 2 + 2 := by
      rw [hlength]
      simp only [UInt8.toNat_add, UInt8.toNat_mul, UInt8.reduceToNat]
      omega
    obtain ⟨a, b, rest, rfl⟩ := exists_front h.lower
    rw [hnat]
    obtain ⟨tail, htail⟩ : ∃ tail, securedBytes ecb s.key s.keySequence (a :: b :: rest)
        (8 + ((a :: b :: rest).getD 8 0).toNat * 2 + 2) srcIeee frameCounter =
      a :: (b ||| 0x02) :: (rest.take (8 + ((a :: b :: rest).getD 8 0).toNat * 2) ++ tail) :=
      securedBytes_front
    obtain ⟨out, hout⟩ : ∃ out, out = a :: (b ||| 0x02) ::
        (rest.take (8 + ((a :: b :: rest).getD 8 0).toNat * 2) ++ tail) := ⟨_, rfl⟩
    have hrest : 6 < rest.length := by
      simp only [List.length_cons] at hlong
      omega
    have hset : ∀ i : Fin 256, UInt8.ofNat i.1 &&& headerBits = 0x04 →
        (UInt8.ofNat i.1 ||| 0x02) &&& headerBits = 0x04 := by decide +kernel
    have hb : b = UInt8.ofNat b.toNat := by simp
    have hbit : out.getD 1 0 &&& headerBits = 0x04 := by
      rw [hout]
      exact hb ▸ hset ⟨b.toNat, b.toNat_lt⟩ (hb ▸ hrouted)
    have heighth : out.getD 8 0 = (a :: b :: rest).getD 8 0 := by
      rw [hout]
      simp only [List.getD_cons_succ]
      rw [List.getD_append _ _ _ _ (by rw [List.length_take]; omega)]
      simp only [List.getD_eq_getElem?_getD]
      rw [List.getElem?_take_of_lt (by omega)]
    have houtLen : 8 < out.length := by
      rw [hout]
      simp only [List.length_cons, List.length_append, List.length_take]
      omega
    rw [htail, ← hout, nwkHeaderLength_sourceRouted houtLen hbit, heighth, hlength]

/-- A receiver with the sender's key takes a secured frame back to the NPDU it was made from when
its counter is fresh, and drops it when not. -/
theorem openReceived_unprotected (ecb : BlockCipher) (srcIeee : UInt64) (frameCounter : UInt32)
    (h : Unprotected npdu)
    (hfits : Fits npdu (nwkHeaderLength npdu).toNat kSecuredMax) (hrx : rx.security = some t)
    (hkey : t.hasKey = true) (hsel : t.selectKey s.keySequence = some s.key)
    (hpromisc : rx.promiscuous = false) :
    let out := securedBytes ecb s.key s.keySequence npdu (nwkHeaderLength npdu).toNat srcIeee
      frameCounter
    (HighWater.Fresh t.replay.mark (srcIeee, s.keySequence) frameCounter.toNat ∧
      ∃ stats, rx.openReceived ecb out =
        ({ rx with security := some { t with
            replay := t.replay.store (srcIeee, s.keySequence) frameCounter, stats := stats } },
          some npdu)) ∨
    (¬ HighWater.Fresh t.replay.mark (srcIeee, s.keySequence) frameCounter.toNat ∧
      ∃ stats, rx.openReceived ecb out =
        ({ rx with security := some { t with stats := stats } }, none)) := by
  intro out
  have hlower : 8 ≤ npdu.length := h.lower
  have hupper : npdu.length ≤ 116 := h.upper
  have hlen : out.length = npdu.length + kAuxLen + kMicLen := securedBytes_length hfits.header
  have htwo : 2 ≤ (nwkHeaderLength npdu).toNat := h.two_le
  have hheader : nwkHeaderLength out = nwkHeaderLength npdu := h.headerLength_secured hfits.header
  have hbit : nwkSecurityBit out = true := by
    change nwkSecurityBit (securedBytes ecb s.key s.keySequence npdu (nwkHeaderLength npdu).toNat
      srcIeee frameCounter) = true
    rw [securedBytes, List.append_assoc, List.append_assoc]
    exact securityBit_set (by rw [List.length_take]; omega) _
  have hauth : t.authenticate ecb out (nwkHeaderLength npdu).toNat kSecuredScratch =
      .ok ⟨npdu, srcIeee, s.keySequence, frameCounter⟩ := by
    refine authenticate_secured hkey hsel htwo hfits.header hfits.aad ?_ ?_ h.clear
    · simp only [kAuxLen, kMicLen]
      omega
    · have hscratch : kSecuredScratch.toNat = 140 := rfl
      rw [hscratch]
      omega
  clear_value out
  have hset : out.getD 1 0 &&& 0x02 ≠ 0 := by simpa [nwkSecurityBit] using hbit
  have hguard : (t.hasKey && !rx.promiscuous && decide (8 ≤ out.length) &&
      decide (out.getD 1 0 &&& 0x02 ≠ 0)) = true := by
    rw [hkey, hpromisc, decide_eq_true (by omega), decide_eq_true hset]
    rfl
  have hne : npdu ≠ [] := List.ne_nil_of_length_pos (by omega)
  obtain ⟨replay, stats, hkeeps⟩ : ∃ replay stats, (t.openNpdu ecb out
      (nwkHeaderLength npdu).toNat kSecuredScratch).1 =
      { t with replay := replay, stats := stats } := openNpdu_keeps _ _ _
  have hcases := openNpdu_authentic hauth
  simp only [openReceived, hrx, if_pos hguard, hheader]
  generalize t.openNpdu ecb out (nwkHeaderLength npdu).toNat kSecuredScratch = answer
    at hkeeps hcases
  obtain ⟨t', result⟩ := answer
  subst hkeeps
  rcases hcases with ⟨hfresh, rfl, rfl⟩ | ⟨hstale, rfl | rfl, rfl⟩
  · left
    refine ⟨hfresh, stats, ?_⟩
    simp only [if_neg hne]
    rfl
  · right
    exact ⟨hstale, stats, rfl⟩
  · right
    exact ⟨hstale, stats, rfl⟩

end Opening

end NiusZigbee.CC2530Radio
