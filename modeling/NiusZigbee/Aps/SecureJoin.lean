import NiusZigbee.Aps.KeyCommands
import NiusZigbee.Aps.Security
import NiusZigbee.Radio.Listening

/-!
# Joining with a transported network key

A joiner starts with the well-known link key only. After it has associated, the Trust Center sends
it the network key in an APS Transport-Key command under the key-transport key, past NWK security,
again and again until the joiner announces itself under the key. The joiner installs the first key
that opens and no other.
-/

namespace NiusZigbee.SecureJoin

open ByteCodec OutBuffer ZigbeeMac CC2530Radio ZigbeeApsKey

def kKeyXportEp : UInt8 := 2
def kKeyXportCluster : UInt16 := 0x0009
def kApsProfile : UInt16 := 0x0104

/-- The one header byte in front of the protected command. -/
def kKeyXportHeader : List UInt8 := [0x21]

variable (ecb : BlockCipher) (gKtk : Block)

/-! ## The joiner -/

structure Joiner where
  radio : CC2530Radio
  keyInstalled : Bool := false

/-- The Transport-Key command in an APS payload, if it opens to one. -/
def transported (blob : List UInt8) : Option ApsTransportKey :=
  match ZigbeeApsSecurity.openCommand ecb blob 1 gKtk 40 with
  | none => none
  | some opened =>
    if opened.payload.length = 0 then none
    else
      match parseTransportNetworkKey opened.payload with
      | some (true, t) => some t
      | _ => none

def installNetworkKeyFrom (j : Joiner) (blob : List UInt8) : Joiner :=
  match transported ecb gKtk blob with
  | none => j
  | some t =>
    { radio := { j.radio with
        security := j.radio.security.map (·.setNetworkKey t.key t.keySeqNumber) }
      keyInstalled := true }

/-- The payload of an APS data frame on the key-transport cluster. -/
def keyBlob : Event → Option (List UInt8)
  | .aps _ _ aps _ _ =>
    if aps.frame.clusterId = kKeyXportCluster then some (aps.frame.payloadBytes aps.bytes) else none
  | _ => none

/-- `onApsData` on the joiner, for the key-transport cluster. -/
def onApsData (j : Joiner) (e : Event) : Joiner :=
  match keyBlob e with
  | none => j
  | some blob => if j.keyInstalled then j else installNetworkKeyFrom ecb gKtk j blob

/-- A received PSDU and the callbacks it leads to. The security object is consulted before the first
callback only, so a key installed by one of them does not change what the others see. -/
def hear (j : Joiner) (rssi : Int8) (lqi : UInt8) (psdu : List UInt8) : Joiner :=
  match j.radio.receivePsdu ecb rssi lqi psdu with
  | none => j
  | some (radio, events) => events.foldl (onApsData ecb gKtk) { j with radio := radio }

/-- The key-transport payloads in a PSDU, as the joiner's driver hands them up. -/
def heardBlobs (j : Joiner) (rssi : Int8) (lqi : UInt8) (psdu : List UInt8) : List (List UInt8) :=
  match j.radio.receivePsdu ecb rssi lqi psdu with
  | none => []
  | some (_, events) => events.filterMap keyBlob

/-! ## The Trust Center -/

structure TrustCenter where
  radio : CC2530Radio
  thisIeee : UInt64
  panId : UInt16
  nwkAddress : UInt16
  networkKey : Block
  apsCounter : UInt8 := 0
  apsSecCounter : UInt32 := 1
  pendingKeyXport : Bool := false
  keyXportIeee : UInt64 := 0
  keyXportAddr : UInt16 := 0
  keyXportTries : UInt8 := 0
  keyXportAt : UInt32 := 0

/-- An accepted association schedules the transport. -/
def scheduleKey (tc : TrustCenter) (ieee : UInt64) (addr : UInt16) (nowMs : UInt32) :
    TrustCenter :=
  { tc with
    pendingKeyXport := true, keyXportIeee := ieee, keyXportAddr := addr, keyXportTries := 0
    keyXportAt := nowMs + 350 }

/-- A Device_annce of the device that was keyed ends it. -/
def noteAnnounce (tc : TrustCenter) (nwkAddress : UInt16) : TrustCenter :=
  if tc.pendingKeyXport ∧ nwkAddress = tc.keyXportAddr then { tc with pendingKeyXport := false }
  else tc

def transportKey (tc : TrustCenter) : ApsTransportKey where
  keyType := apsKeyStandardNetwork
  key := tc.networkKey
  keySeqNumber := (tc.radio.security.map fun s => s.keySequence).getD 0
  destAddress := tc.keyXportIeee
  srcAddress := tc.thisIeee

def serviceKeyTransport (tc : TrustCenter) (nowMs : UInt32) : TrustCenter × Option (List UInt8) :=
  if !tc.pendingKeyXport then (tc, none)
  else if (nowMs - tc.keyXportAt).toInt32 < 0 then (tc, none)
  else if tc.keyXportTries ≥ 12 then ({ tc with pendingKeyXport := false }, none)
  else
    let tc := { tc with keyXportTries := tc.keyXportTries + 1, keyXportAt := nowMs + 2000 }
    let cmd := buildTransportNetworkKey 40 (transportKey tc)
    if cmd.len = 0 then ({ tc with pendingKeyXport := false }, none)
    else
      let secured := ZigbeeApsSecurity.secureCommand ecb kKeyXportHeader gKtk
        ZigbeeApsSecurity.apsSecKeyKeyTransport tc.thisIeee tc.apsSecCounter cmd.bytes 80
      let tc := { tc with apsSecCounter := tc.apsSecCounter + 1 }
      if secured.len = 0 then ({ tc with pendingKeyXport := false }, none)
      else
        let apdu := ZigbeeAps.buildDataFrame ZigbeeAps.kMaxFrame.toUInt8 kKeyXportEp
          kKeyXportCluster kApsProfile kKeyXportEp tc.apsCounter secured.bytes false
        let tc := { tc with apsCounter := tc.apsCounter + 1 }
        if apdu.len = 0 then ({ tc with pendingKeyXport := false }, none)
        else
          let sent := tc.radio.sendNwkDataUnsecured
            ⟨tc.panId, tc.keyXportAddr, tc.nwkAddress, tc.keyXportAddr, tc.nwkAddress⟩ apdu.bytes
            30 true
          ({ tc with radio := sent.1 }, sent.2)

/-! ## One transport -/

/-- The protected command, the APS frame around it and the NPDU around that. -/
def transportBlob (thisIeee : UInt64) (counter : UInt32) (t : ApsTransportKey) : List UInt8 :=
  ZigbeeApsSecurity.securedBytes ecb kKeyXportHeader gKtk ZigbeeApsSecurity.apsSecKeyKeyTransport
    thisIeee counter ([apsCmdTransportKey] ++ transportKeyFormat.put t)

variable {ecb} {gKtk}

theorem transportKeyBytes_length (t : ApsTransportKey) :
    ([apsCmdTransportKey] ++ transportKeyFormat.put t).length = 35 := by
  rw [List.length_append, transportKeyFormat.length_put]
  rfl

theorem transportBlob_length (thisIeee : UInt64) (counter : UInt32) (t : ApsTransportKey) :
    (transportBlob ecb gKtk thisIeee counter t).length = 53 := by
  rw [transportBlob, ZigbeeApsSecurity.securedBytes_length, transportKeyBytes_length]
  rfl

/-- Under the key-transport key the joiner gets the command the Trust Center built. -/
theorem transported_blob (thisIeee : UInt64) (counter : UInt32) {t : ApsTransportKey}
    (ht : IsNetworkKey t) :
    transported ecb gKtk (transportBlob ecb gKtk thisIeee counter t) = some t := by
  have hlen := transportKeyBytes_length t
  have hopen : ZigbeeApsSecurity.openCommand ecb (transportBlob ecb gKtk thisIeee counter t) 1 gKtk
      40 = if (40 : UInt8).toNat < ([apsCmdTransportKey] ++ transportKeyFormat.put t).length then
        none else some ⟨[apsCmdTransportKey] ++ transportKeyFormat.put t, counter, thisIeee⟩ :=
    ZigbeeApsSecurity.openCommand_secured (by decide) (by omega)
  rw [if_neg (by rw [hlen]; decide)] at hopen
  have hparse := transportKey_roundTrips.recovered t [] ht
  rw [List.append_nil] at hparse
  simp only [transported, hopen, hlen, hparse, Nat.reduceEqDiff, if_false]

/-- The PSDU of one transport. -/
def transportPsdu (ecb : BlockCipher) (gKtk : Block) (thisIeee : UInt64) (counter : UInt32)
    (t : ApsTransportKey) (panId addr src : UInt16) (macSequence nwkSequence apsCounter : UInt8) :
    List UInt8 :=
  shortDataBytes panId addr src macSequence true
    (ZigbeeNwk.headerBytes (ZigbeeNwk.baseFcf ZigbeeNwk.nwkFrameData 0) addr src 30 nwkSequence
      (ZigbeeAps.dataBytes kKeyXportEp kKeyXportCluster kApsProfile kKeyXportEp apsCounter false
        (transportBlob ecb gKtk thisIeee counter t)))

theorem apdu_length (apsCounter : UInt8) {blob : List UInt8} (h : blob.length = 53) :
    (ZigbeeAps.dataBytes kKeyXportEp kKeyXportCluster kApsProfile kKeyXportEp apsCounter false
      blob).length = 61 := by
  simp [ZigbeeAps.dataBytes, h]

theorem sendData_fits (r : CC2530Radio) (panId dst src : UInt16) {payload : List UInt8}
    (hlen : payload.length ≤ 116) (ackRequest : Bool) :
    r.sendData panId dst src payload ackRequest =
      ({ r with macSequence := r.macSequence + 1 },
        some (shortDataBytes panId dst src r.macSequence ackRequest payload)) := by
  have hmax : kMaxPayload.toNat = 125 := rfl
  have hbuilt : (buildShortDataFrame kMaxPayload panId dst src r.macSequence payload
      ackRequest).len ≠ 0 := by
    rw [buildShortDataFrame, if_neg (by rw [kMaxPsdu]; omega), if_neg (by omega)]
    exact fun h => by
      simp only at h
      omega
  rw [sendData, (buildShortDataFrame_bytes hbuilt).2, Built.exact_bytes, if_neg]
  rw [Built.exact_len, shortDataBytes, List.length_append, List.length_append]
  simp

theorem sendNwkDataUnsecured_fits (r : CC2530Radio) (a : Addresses) {payload : List UInt8}
    (hlen : payload.length ≤ 108) (radius : UInt8) (ackRequest : Bool) :
    r.sendNwkDataUnsecured a payload radius ackRequest =
      ({ r with nwkSequence := r.nwkSequence + 1, macSequence := r.macSequence + 1 },
        some (shortDataBytes a.panId a.macDstShort a.macSrcShort r.macSequence ackRequest
          (ZigbeeNwk.headerBytes (ZigbeeNwk.baseFcf ZigbeeNwk.nwkFrameData 0) a.nwkDstShort
            a.nwkSrcShort radius r.nwkSequence payload))) := by
  have hmax : ZigbeeNwk.kBaseHeaderLen + payload.length ≤ ZigbeeNwk.kMaxFrame.toUInt8.toNat := by
    have hframe : ZigbeeNwk.kMaxFrame.toUInt8.toNat = 116 := rfl
    rw [hframe, ZigbeeNwk.kBaseHeaderLen]
    omega
  have hnpdu : (ZigbeeNwk.headerBytes (ZigbeeNwk.baseFcf ZigbeeNwk.nwkFrameData 0) a.nwkDstShort
      a.nwkSrcShort radius r.nwkSequence payload).length ≤ 116 := by
    rw [ZigbeeNwk.headerBytes_length, ZigbeeNwk.kBaseHeaderLen]
    omega
  have hpos : (Built.exact (ZigbeeNwk.headerBytes (ZigbeeNwk.baseFcf ZigbeeNwk.nwkFrameData 0)
      a.nwkDstShort a.nwkSrcShort radius r.nwkSequence payload)).len ≠ 0 := by
    rw [Built.exact_len, ZigbeeNwk.headerBytes_length, ZigbeeNwk.kBaseHeaderLen]
    omega
  simp only [sendNwkDataUnsecured, ZigbeeNwk.buildDataFrame_eq a.nwkDstShort a.nwkSrcShort radius
    r.nwkSequence hmax hlen (by decide : (0 : UInt8) ≤ 3), if_neg hpos, Built.exact_bytes,
    sendData_fits _ _ _ _ hnpdu]

theorem serviceKeyTransport_due {tc : TrustCenter} {nowMs : UInt32}
    (hpending : tc.pendingKeyXport = true) (hdue : ¬ (nowMs - tc.keyXportAt).toInt32 < 0)
    (htries : ¬ tc.keyXportTries ≥ 12) :
    serviceKeyTransport ecb gKtk tc nowMs =
      ({ tc with
          pendingKeyXport := true, keyXportTries := tc.keyXportTries + 1
          keyXportAt := nowMs + 2000, apsSecCounter := tc.apsSecCounter + 1
          apsCounter := tc.apsCounter + 1
          radio := { tc.radio with
            nwkSequence := tc.radio.nwkSequence + 1, macSequence := tc.radio.macSequence + 1 } },
        some (transportPsdu ecb gKtk tc.thisIeee tc.apsSecCounter (transportKey tc) tc.panId
          tc.keyXportAddr tc.nwkAddress tc.radio.macSequence tc.radio.nwkSequence
          tc.apsCounter)) := by
  have hblob :
      (transportBlob ecb gKtk tc.thisIeee tc.apsSecCounter (transportKey tc)).length = 53 :=
    transportBlob_length ..
  have hcmd : buildTransportNetworkKey 40 (transportKey tc) =
      .exact ([apsCmdTransportKey] ++ transportKeyFormat.put (transportKey tc)) :=
    buildTransportNetworkKey_eq (by decide) _
  have hcmdLen := transportKeyBytes_length (transportKey tc)
  have hsecured : ZigbeeApsSecurity.secureCommand ecb kKeyXportHeader gKtk
      ZigbeeApsSecurity.apsSecKeyKeyTransport tc.thisIeee tc.apsSecCounter
      ([apsCmdTransportKey] ++ transportKeyFormat.put (transportKey tc)) 80 =
      .exact (transportBlob ecb gKtk tc.thisIeee tc.apsSecCounter (transportKey tc)) := by
    apply (ZigbeeApsSecurity.secureCommand_bytes _).2
    simp only [ZigbeeApsSecurity.secureCommand, hcmdLen]
    rw [if_neg (by decide), if_neg (by decide)]
    simp [CcmStar.ccmStarCrypt, kKeyXportHeader, ZigbeeApsSecurity.kAuxLen,
      ZigbeeApsSecurity.kMicLen]
  have hapdu : ZigbeeAps.buildDataFrame ZigbeeAps.kMaxFrame.toUInt8 kKeyXportEp kKeyXportCluster
      kApsProfile kKeyXportEp tc.apsCounter
      (transportBlob ecb gKtk tc.thisIeee tc.apsSecCounter (transportKey tc)) false =
      .exact (ZigbeeAps.dataBytes kKeyXportEp kKeyXportCluster kApsProfile kKeyXportEp
        tc.apsCounter false
        (transportBlob ecb gKtk tc.thisIeee tc.apsSecCounter (transportKey tc))) := by
    apply (ZigbeeAps.buildDataFrame_bytes _).2
    rw [ZigbeeAps.buildDataFrame, hblob, if_neg (by decide), if_neg (by decide)]
    exact show (61 : ℕ) ≠ 0 by decide
  have hapduLen := apdu_length tc.apsCounter hblob
  have hsame (pending : Bool) : transportKey
      { tc with
        pendingKeyXport := pending, keyXportTries := tc.keyXportTries + 1
        keyXportAt := nowMs + 2000 } = transportKey tc := rfl
  have hblob' : ¬ (transportBlob ecb gKtk tc.thisIeee tc.apsSecCounter
      (transportKey tc)).length = 0 := by omega
  have hapduLen' : ¬ (ZigbeeAps.dataBytes kKeyXportEp kKeyXportCluster kApsProfile kKeyXportEp
      tc.apsCounter false
      (transportBlob ecb gKtk tc.thisIeee tc.apsSecCounter (transportKey tc))).length = 0 := by
    omega
  simp only [serviceKeyTransport, hpending, Bool.not_true, Bool.false_eq_true, if_false, hdue,
    htries, hsame, hcmd, Built.exact_len, hcmdLen, Nat.reduceEqDiff, Built.exact_bytes, hsecured,
    hblob', hapdu, hapduLen']
  rw [sendNwkDataUnsecured_fits _ _ (by omega)]
  rfl

variable (ecb gKtk) in
/-- Else nothing goes out; after twelve transports the Trust Center gives up. -/
theorem serviceKeyTransport_idle {tc : TrustCenter} {nowMs : UInt32}
    (h : ¬ (tc.pendingKeyXport = true ∧ ¬ (nowMs - tc.keyXportAt).toInt32 < 0 ∧
      ¬ tc.keyXportTries ≥ 12)) :
    (serviceKeyTransport ecb gKtk tc nowMs).2 = none ∧
      ∃ pending, (pending = tc.pendingKeyXport ∨ tc.keyXportTries ≥ 12 ∧ pending = false) ∧
        (serviceKeyTransport ecb gKtk tc nowMs).1 = { tc with pendingKeyXport := pending } := by
  simp only [serviceKeyTransport]
  split
  · exact ⟨rfl, tc.pendingKeyXport, Or.inl rfl, rfl⟩
  next hpending =>
  split
  · exact ⟨rfl, tc.pendingKeyXport, Or.inl rfl, rfl⟩
  next hdue =>
  split
  · next htries => exact ⟨rfl, false, Or.inr ⟨htries, rfl⟩, rfl⟩
  next htries =>
  rw [Bool.not_eq_true', Bool.not_eq_false] at hpending
  exact absurd ⟨hpending, hdue, htries⟩ h

/-! ## Receiving it -/

section Receiving

variable {rx : CC2530Radio} {mac : Parsed MacDataFrame} {rssi : Int8} {lqi : UInt8}

theorem dispatchZcl_blobs (nwk : Parsed ZigbeeNwk.NwkDataFrame)
    (aps : Parsed ZigbeeAps.ApsDataFrame) {events : List Event}
    (h : rx.dispatchZcl mac rssi lqi nwk aps = some events) : events.filterMap keyBlob = [] := by
  simp only [dispatchZcl] at h
  split at h
  · simp only [Option.bind_eq_bind, Option.bind_eq_some_iff, Option.pure_def,
      Option.some.injEq] at h
    obtain ⟨⟨ok, frame⟩, -, rfl⟩ := h
    cases ok <;> rfl
  · cases h
    rfl

theorem dispatchNwkCommand_blobs {npdu : List UInt8} {events : List Event}
    (h : rx.dispatchNwkCommand mac rssi lqi npdu = some events) :
    events.filterMap keyBlob = [] := by
  simp only [dispatchNwkCommand] at h
  split at h
  · simp only [Option.bind_eq_bind, Option.bind_eq_some_iff, Option.pure_def,
      Option.some.injEq] at h
    obtain ⟨⟨ok, frame⟩, -, rfl⟩ := h
    cases ok <;> rfl
  · cases h
    rfl

theorem openReceived_clear {npdu : List UInt8} (h : ZigbeeSecurity.nwkSecurityBit npdu = false) :
    rx.openReceived ecb npdu = (rx, some npdu) := by
  have hbit : ¬ npdu.getD 1 0 &&& 0x02 ≠ 0 := by
    simpa only [ZigbeeSecurity.nwkSecurityBit, bne_eq_false_iff_eq, not_not] using h
  simp only [openReceived]
  split
  · rfl
  · rw [decide_eq_false hbit, Bool.and_false, if_neg Bool.false_ne_true]

variable (mac rssi lqi)

/-- Of an APS data frame on the key-transport cluster, the handler gets the payload once. -/
theorem dispatchAps_blobs (haps : rx.callbacks.aps = true) (nwk : Parsed ZigbeeNwk.NwkDataFrame)
    {apdu : List UInt8} {frame : ZigbeeAps.ApsDataFrame}
    (hapdu : nwk.frame.payloadBytes nwk.bytes = apdu)
    (hparse : ZigbeeAps.parseDataFrame apdu = some (true, frame))
    (hcluster : frame.clusterId = kKeyXportCluster) :
    ∃ events, rx.dispatchAps mac rssi lqi nwk = some events ∧
      events.filterMap keyBlob = [frame.payloadBytes apdu] := by
  obtain ⟨zcl, hzcl, -⟩ := rx.dispatchZcl_about mac rssi lqi nwk ⟨apdu, frame⟩
  have hzclBlobs := dispatchZcl_blobs nwk ⟨apdu, frame⟩ hzcl
  have hkey : keyBlob (.aps mac nwk ⟨apdu, frame⟩ rssi lqi) = some (frame.payloadBytes apdu) :=
    if_pos hcluster
  simp only [dispatchAps, haps, Bool.true_or, if_true, hapdu, hparse, hzcl, Option.bind_eq_bind,
    Option.bind_some]
  refine ⟨_, rfl, ?_⟩
  have hzdo : (if rx.callbacks.zdo = true ∧ frame.profileId = ZigbeeAps.kProfileZigbeeDevice ∧
      frame.dstEndpoint = 0 then [Event.zdo mac nwk ⟨apdu, frame⟩ rssi lqi] else []).filterMap
      keyBlob = [] := by split <;> rfl
  simp only [List.filterMap_append, hzclBlobs, hzdo, List.filterMap_cons, hkey,
    List.filterMap_nil, List.append_nil]

theorem dispatchAck_data (nwk : Parsed ZigbeeNwk.NwkDataFrame)
    (h : ZigbeeAps.frameType (nwk.frame.payloadBytes nwk.bytes) = some ZigbeeAps.apsFrameData) :
    rx.dispatchAck mac rssi lqi nwk = some [] := by
  have hne : ZigbeeAps.apsFrameData ≠ ZigbeeAps.apsFrameAck := by decide
  simp only [dispatchAck, h, Option.bind_eq_bind, Option.bind_some, if_neg hne]
  split <;> rfl

theorem dispatchNwk_blobs (haps : rx.callbacks.aps = true) {npdu apdu : List UInt8}
    {frame : ZigbeeNwk.NwkDataFrame} {aps : ZigbeeAps.ApsDataFrame}
    (hnpdu : ZigbeeNwk.parseDataFrame npdu = some (true, frame))
    (hapdu : frame.payloadBytes npdu = apdu)
    (htype : ZigbeeAps.frameType apdu = some ZigbeeAps.apsFrameData)
    (hparse : ZigbeeAps.parseDataFrame apdu = some (true, aps))
    (hcluster : aps.clusterId = kKeyXportCluster) :
    ∃ events, rx.dispatchNwk mac rssi lqi npdu = some events ∧ events.filterMap keyBlob =
      if rx.localNwkDestination frame then [aps.payloadBytes apdu] else [] := by
  obtain ⟨events, hevents, hblobs⟩ :=
    dispatchAps_blobs mac rssi lqi haps ⟨npdu, frame⟩ hapdu hparse hcluster
  have hack : rx.dispatchAck mac rssi lqi ⟨npdu, frame⟩ = some [] :=
    dispatchAck_data mac rssi lqi ⟨npdu, frame⟩ (hapdu.symm ▸ htype)
  have hnwk : (if rx.callbacks.nwk then [Event.nwk mac ⟨npdu, frame⟩ rssi lqi] else []).filterMap
      keyBlob = [] := by split <;> rfl
  simp only [dispatchNwk, haps, Bool.or_true, Bool.true_or, if_true, hnpdu, hack, hevents,
    Option.bind_eq_bind, Option.bind_some]
  by_cases hdst : rx.localNwkDestination frame = true
  · refine ⟨_, if_pos hdst, ?_⟩
    rw [List.filterMap_append, List.filterMap_append, hnwk, hblobs, if_pos hdst]
    rfl
  · exact ⟨_, if_neg hdst, by rw [hnwk, if_neg hdst]⟩

variable (ecb gKtk) in
/-- A transport is one key-transport payload where it is for, and none elsewhere. -/
theorem receivePsdu_transport (haps : rx.callbacks.aps = true) (thisIeee : UInt64)
    (counter : UInt32) (t : ApsTransportKey) (panId addr src : UInt16)
    (macSequence nwkSequence apsCounter : UInt8) :
    ∃ events, rx.receivePsdu ecb rssi lqi (transportPsdu ecb gKtk thisIeee counter t panId addr src
        macSequence nwkSequence apsCounter) = some (rx, events) ∧
      events.filterMap keyBlob = if addr = rx.localShortAddress ∨ addr ≥ 0xFFF8 then
        [transportBlob ecb gKtk thisIeee counter t] else [] := by
  have hblob : (transportBlob ecb gKtk thisIeee counter t).length = 53 := transportBlob_length ..
  have hapduLen := apdu_length apsCounter hblob
  have hblobMax : (transportBlob ecb gKtk thisIeee counter t).length ≤ ZigbeeAps.kMaxPayload := by
    rw [hblob]
    decide
  obtain ⟨apdu, hapdu⟩ : ∃ apdu, ZigbeeAps.dataBytes kKeyXportEp kKeyXportCluster kApsProfile
      kKeyXportEp apsCounter false (transportBlob ecb gKtk thisIeee counter t) = apdu := ⟨_, rfl⟩
  have htype : ZigbeeAps.frameType apdu = some ZigbeeAps.apsFrameData :=
    hapdu ▸ ZigbeeAps.frameType_data
  obtain ⟨aps, haps', hcluster, hblob'⟩ : ∃ aps, ZigbeeAps.parseDataFrame apdu = some (true, aps) ∧
      aps.clusterId = kKeyXportCluster ∧
      aps.payloadBytes apdu = transportBlob ecb gKtk thisIeee counter t := by
    subst hapdu
    exact ⟨_, ZigbeeAps.parseDataFrame_bytes hblobMax, rfl, ZigbeeAps.payloadBytes_data⟩
  obtain ⟨npdu, hnpdu⟩ : ∃ npdu, ZigbeeNwk.headerBytes (ZigbeeNwk.baseFcf ZigbeeNwk.nwkFrameData 0)
      addr src 30 nwkSequence apdu = npdu := ⟨_, rfl⟩
  rw [hapdu] at hapduLen
  have hnpduLen : npdu.length = 69 := by
    rw [← hnpdu, ZigbeeNwk.headerBytes_length, hapduLen]
    rfl
  obtain ⟨frame, hframe, hdst, hpayload⟩ : ∃ frame, ZigbeeNwk.parseDataFrame npdu =
      some (true, frame) ∧ frame.dstShort = addr ∧ frame.payloadBytes npdu = apdu := by
    have hslice := ZigbeeNwk.slice_headerRest (ZigbeeNwk.baseFcf ZigbeeNwk.nwkFrameData 0) addr src
      30 nwkSequence apdu 0 apdu.length
    subst hnpdu
    refine ⟨_, ZigbeeNwk.parseDataFrame_header addr src 30 nwkSequence
      (by rw [hapduLen]; decide) (by decide : (0 : UInt8) ≤ 3), rfl, ?_⟩
    simpa [ZigbeeNwk.NwkDataFrame.payloadBytes, slice] using hslice
  have hclear : ZigbeeSecurity.nwkSecurityBit npdu = false := by
    rw [← hnpdu, ZigbeeSecurity.nwkSecurityBit, getD_header_one]
    rfl
  have hopen : rx.openReceived ecb npdu = (rx, some npdu) := openReceived_clear hclear
  obtain ⟨mac, hmac, hmacPayload⟩ : ∃ mac, parseShortDataFrame (shortDataBytes panId addr src
      macSequence true npdu) = some (true, mac) ∧
      mac.payloadBytes (shortDataBytes panId addr src macSequence true npdu) = npdu :=
    ⟨_, parseShortDataFrame_bytes panId addr src macSequence true (by rw [hnpduLen]; decide),
      payloadBytes_shortData panId addr src macSequence true npdu⟩
  have hpsdu : transportPsdu ecb gKtk thisIeee counter t panId addr src macSequence nwkSequence
      apsCounter = shortDataBytes panId addr src macSequence true npdu := by
    rw [transportPsdu, hapdu, hnpdu]
  obtain ⟨psdu, hbytes⟩ : ∃ psdu, shortDataBytes panId addr src macSequence true npdu = psdu :=
    ⟨_, rfl⟩
  rw [hbytes] at hpsdu hmac hmacPayload
  obtain ⟨events, hevents, hblobs⟩ := dispatchNwk_blobs ⟨psdu, mac⟩ rssi lqi haps hframe
    hpayload htype haps' hcluster
  have hlocal : rx.localNwkDestination frame = true ↔
      addr = rx.localShortAddress ∨ addr ≥ 0xFFF8 := by
    simp only [localNwkDestination, hdst, Bool.or_eq_true, decide_eq_true_eq]
  obtain ⟨command, hcommand, -⟩ := rx.dispatchNwkCommand_about ⟨psdu, mac⟩ rssi lqi npdu
  have hcommandBlobs := dispatchNwkCommand_blobs hcommand
  simp only [hpsdu, receivePsdu, haps, Bool.or_true, Bool.true_or, if_true, hmac, receiveData,
    hmacPayload, hopen, hevents, hcommand, Option.bind_eq_bind, Option.bind_some]
  refine ⟨_, rfl, ?_⟩
  have hrx : (if rx.callbacks.rx then [Event.rx psdu rssi lqi] else []).filterMap keyBlob = [] := by
    split <;> rfl
  have hdata : (if rx.callbacks.data then [Event.data ⟨psdu, mac⟩ rssi lqi] else []).filterMap
      keyBlob = [] := by split <;> rfl
  simp only [List.filterMap_append, hblobs, hcommandBlobs, hblob', hrx, hdata, hlocal,
    List.append_nil, List.nil_append]

end Receiving

end NiusZigbee.SecureJoin
