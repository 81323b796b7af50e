import NiusZigbee.Mac.Frame

/-!
# MAC commands, inter-PAN frames and beacons

The remaining builders and parsers of `ZigbeeMac`. The receive path offers a PSDU to four parsers;
each stays inside it, and at most one accepts it.
-/

namespace NiusZigbee.ZigbeeMac

open ByteCodec OutBuffer

def macCmdAssociationRequest : UInt8 := 0x01
def macCmdAssociationResponse : UInt8 := 0x02
def macCmdDataRequest : UInt8 := 0x04
def macCmdBeaconRequest : UInt8 := 0x07

def kBroadcastPan : UInt16 := 0xFFFF

structure MacAssociationResponse where
  valid : Bool := false
  shortAddress : UInt16 := 0
  status : UInt8 := 0
deriving DecidableEq, Repr

structure MacInterPanFrame where
  valid : Bool := false
  sequence : UInt8 := 0
  ackRequest : Bool := false
  dstAddrMode : UInt8 := 0
  dstPanId : UInt16 := 0
  dstShort : UInt16 := 0
  dstIeee : UInt64 := 0
  srcPanId : UInt16 := 0
  srcIeee : UInt64 := 0
  payload : Option Nat := none
  payloadLen : Nat := 0
deriving DecidableEq, Repr

/-! ## Builders -/

/-- The frame-control word as the builders put it together, flag by flag. -/
def fcfWord (frameType : UInt8) (ackRequest panCompression : Bool) (dstMode version : UInt8)
    (srcMode : UInt8) : UInt16 :=
  frameType.toUInt16 ||| (if ackRequest then (1 : UInt16) <<< 5 else 0) |||
    (if panCompression then (1 : UInt16) <<< 6 else 0) ||| (dstMode.toUInt16 <<< 10) |||
    (version.toUInt16 <<< 12) ||| (srcMode.toUInt16 <<< 14)

def associationRequestFcf (ackRequest : Bool) : UInt16 :=
  fcfWord macFrameCommand ackRequest true macAddrShort 1 macAddrExtended

def associationResponseFcf (ackRequest : Bool) : UInt16 :=
  fcfWord macFrameCommand ackRequest true macAddrExtended 1 macAddrShort

def beaconRequestFcf : UInt16 := fcfWord macFrameCommand false false macAddrShort 0 macAddrNone

def dataRequestFcf : UInt16 := fcfWord macFrameCommand true true macAddrShort 0 macAddrShort

def interPanFcf (dstAddrMode : UInt8) (ackRequest : Bool) : UInt16 :=
  fcfWord macFrameData ackRequest false (dstAddrMode &&& 0x3) 0 macAddrExtended

def beaconFcf : UInt16 := fcfWord macFrameBeacon false false macAddrNone 0 macAddrShort

def buildAssociationRequest (outMax : UInt8) (panId coordShort : UInt16) (srcIeee : UInt64)
    (sequence capability : UInt8) (ackRequest : Bool) : Built :=
  if outMax.toNat < 17 then .fail
  else
    { len := 17
      writes := emit 0 (le16 (associationRequestFcf ackRequest)) ++ emit 2 [sequence] ++
        emit 3 (le16 panId) ++ emit 5 (le16 coordShort) ++ emit 7 (le64 srcIeee) ++
        emit 15 [macCmdAssociationRequest] ++ emit 16 [capability] }

def buildAssociationResponse (outMax : UInt8) (panId : UInt16) (dstIeee : UInt64)
    (srcShort : UInt16) (sequence : UInt8) (assignedShort : UInt16) (status : UInt8)
    (ackRequest : Bool) : Built :=
  if outMax.toNat < 19 then .fail
  else
    { len := 19
      writes := emit 0 (le16 (associationResponseFcf ackRequest)) ++ emit 2 [sequence] ++
        emit 3 (le16 panId) ++ emit 5 (le64 dstIeee) ++ emit 13 (le16 srcShort) ++
        emit 15 [macCmdAssociationResponse] ++ emit 16 (le16 assignedShort) ++ emit 18 [status] }

def buildBeaconRequest (outMax sequence : UInt8) : Built :=
  if outMax.toNat < 8 then .fail
  else
    { len := 8
      writes := emit 0 (le16 beaconRequestFcf) ++ emit 2 [sequence] ++
        emit 3 (le16 kBroadcastPan) ++ emit 5 (le16 kBroadcastShort) ++
        emit 7 [macCmdBeaconRequest] }

def buildDataRequest (outMax : UInt8) (panId parentShort childShort : UInt16)
    (sequence : UInt8) : Built :=
  if outMax.toNat < 10 then .fail
  else
    { len := 10
      writes := emit 0 (le16 dataRequestFcf) ++ emit 2 [sequence] ++ emit 3 (le16 panId) ++
        emit 5 (le16 parentShort) ++ emit 7 (le16 childShort) ++ emit 9 [macCmdDataRequest] }

def buildInterPanFrame (outMax dstAddrMode : UInt8) (dstPanId dstShort : UInt16)
    (dstIeee : UInt64) (srcPanId : UInt16) (srcIeee : UInt64) (sequence : UInt8)
    (payload : List UInt8) (ackRequest : Bool) : Built :=
  if dstAddrMode ≠ macAddrShort && dstAddrMode ≠ macAddrExtended then .fail
  else
    let dstAddrLen := if dstAddrMode = macAddrExtended then 8 else 2
    let headerLen := (2 + 1 + 2 + dstAddrLen + 2 + 8) % 256
    if payload.length > kMaxPsdu - headerLen then .fail
    else if outMax.toNat < headerLen + payload.length then .fail
    else
      let dst := if dstAddrMode = macAddrShort then le16 dstShort else le64 dstIeee
      let off := 5 + dst.length
      { len := (off + 2 + 8 + payload.length) % 256
        writes := emit 0 (le16 (interPanFcf dstAddrMode ackRequest)) ++ emit 2 [sequence] ++
          emit 3 (le16 dstPanId) ++ emit 5 dst ++ emit off (le16 srcPanId) ++
          emit (off + 2) (le64 srcIeee) ++ emit (off + 2 + 8) payload }

/-- Beacon order, superframe order and final CAP slot 15, with the two permit flags. -/
def beaconSuperframe (panCoordinator associationPermit : Bool) : UInt16 :=
  (0x0FFF : UInt16) ||| (if panCoordinator then (1 : UInt16) <<< 14 else 0) |||
    (if associationPermit then (1 : UInt16) <<< 15 else 0)

def buildBeacon (outMax : UInt8) (srcPanId srcShort : UInt16) (sequence : UInt8)
    (panCoordinator associationPermit : Bool) (payload : List UInt8) : Built :=
  let headerLen := 11
  if payload.length > kMaxPsdu - headerLen then .fail
  else if outMax.toNat < headerLen + payload.length then .fail
  else
    { len := (headerLen + payload.length) % 256
      writes := emit 0 (le16 beaconFcf) ++ emit 2 [sequence] ++ emit 3 (le16 srcPanId) ++
        emit 5 (le16 srcShort) ++
        emit 7 (le16 (beaconSuperframe panCoordinator associationPermit)) ++ emit 9 [0] ++
        emit 10 [0] ++ emit headerLen payload }

/-! ## Parsers -/

/-- Both PANs and an extended source; the addresses are walked as in a command frame. -/
def parseInterPanFrame (psdu : List UInt8) : Option (Bool × MacInterPanFrame) :=
  if psdu.length < 5 then some (false, {})
  else do
    let fcf := decodeFcf (← read16 psdu 0)
    if fcf.frameType ≠ macFrameData || fcf.srcMode ≠ macAddrExtended || fcf.panCompression then
      return (false, {})
    else if fcf.dstMode ≠ macAddrShort && fcf.dstMode ≠ macAddrExtended then return (false, {})
    else
      match ← parseDestination psdu fcf.dstMode 3 with
      | none => return (false, {})
      | some dst =>
        match ← parseOrigin psdu fcf.srcMode fcf.panCompression dst.panId dst.offset with
        | none => return (false, {})
        | some src =>
          return (true,
            { valid := true
              sequence := ← read8 psdu 2
              ackRequest := fcf.ackRequest
              dstAddrMode := fcf.dstMode
              dstPanId := dst.panId
              dstShort := dst.short
              dstIeee := dst.ieee
              srcPanId := src.panId
              srcIeee := src.ieee
              payload := some src.offset
              payloadLen := (psdu.length - src.offset) % 256 })

/-- A byte behind the frame's payload pointer; `none` also when the pointer is null. -/
def MacCommandFrame.payloadAt (frame : MacCommandFrame) (psdu : List UInt8) (i : Nat) :
    Option UInt8 :=
  match frame.payload with
  | none => none
  | some off => read8 psdu (off + i)

def parseAssociationRequest (psdu : List UInt8) (frame : MacCommandFrame) :
    Option (Bool × MacAssociationRequest) :=
  if !frame.valid || frame.commandId ≠ macCmdAssociationRequest || frame.payloadLen < 1 then
    some (false, {})
  else do
    let capability ← frame.payloadAt psdu 0
    return (true,
      { valid := true
        capability := capability
        fullFunctionDevice := (capability &&& 0x02) != 0
        receiverOnWhenIdle := (capability &&& 0x08) != 0
        allocateAddress := (capability &&& 0x80) != 0 })

def parseAssociationResponse (psdu : List UInt8) (frame : MacCommandFrame) :
    Option (Bool × MacAssociationResponse) :=
  if !frame.valid || frame.commandId ≠ macCmdAssociationResponse || frame.payloadLen < 3 then
    some (false, {})
  else do
    return (true,
      { valid := true
        shortAddress := join16 (← frame.payloadAt psdu 0) (← frame.payloadAt psdu 1)
        status := ← frame.payloadAt psdu 2 })

/-! ## What a parser returns -/

/-- The parsers the receive path tries on a PSDU. -/
inductive MacParser where
  | shortData
  | interPan
  | command
  | beacon
deriving DecidableEq, Repr

namespace MacParser

/-- The verdict, with the payload pointer and length left in the frame. -/
def run (psdu : List UInt8) : MacParser → Option (Bool × Option Nat × Nat)
  | shortData => (parseShortDataFrame psdu).map fun r => (r.1, r.2.payload, r.2.payloadLen)
  | interPan => (parseInterPanFrame psdu).map fun r => (r.1, r.2.payload, r.2.payloadLen)
  | command => (parseCommandFrame psdu).map fun r => (r.1, r.2.payload, r.2.payloadLen)
  | beacon => (parseBeacon psdu).map fun r => (r.1, r.2.payload, r.2.payloadLen)

def Accepts (psdu : List UInt8) (parser : MacParser) : Prop :=
  ∃ payload, parser.run psdu = some (true, payload)

/-- The frames a parser is for. -/
def Selects (fcf : MacFcf) : MacParser → Prop
  | shortData => fcf.frameType = macFrameData ∧ fcf.srcMode = macAddrShort
  | interPan => fcf.frameType = macFrameData ∧ fcf.srcMode = macAddrExtended
  | command => fcf.frameType = macFrameCommand
  | beacon => fcf.frameType = macFrameBeacon

/-- No payload from a refused PSDU; from an accepted one, whatever is behind a header of the
parser's own kind. -/
def Sound (psdu : List UInt8) (parser : MacParser) (r : Bool × Option Nat × Nat) : Prop :=
  r = (false, none, 0) ∨
    (∃ word, read16 psdu 0 = some word ∧ parser.Selects (decodeFcf word)) ∧
    ∃ off, off ≤ psdu.length ∧ r = (true, some off, (psdu.length - off) % 256)

private theorem refused {psdu : List UInt8} {parser : MacParser} {α : Type}
    {project : Bool × α → Bool × Option Nat × Nat} {frame : α}
    (h : project (false, frame) = (false, none, 0)) :
    ∃ r, Option.map project (some (false, frame)) = some r ∧ parser.Sound psdu r :=
  ⟨_, rfl, Or.inl h⟩

theorem parseAddress_offset {psdu : List UInt8} {mode : UInt8} {panId : UInt16} {offset : Nat}
    {address : MacAddress} (h : parseAddress psdu mode panId offset = some (some address)) :
    address.offset ≤ psdu.length := by
  simp only [parseAddress] at h
  split at h
  · split at h
    · simp at h
    · cases hread : read16 psdu offset with
      | none => simp [hread] at h
      | some short =>
        simp only [hread, Option.bind_eq_bind, Option.bind_some, Option.pure_def,
          Option.some.injEq] at h
        rw [← h]
        dsimp only
        omega
  split at h
  · split at h
    · simp at h
    · cases hread : read64 psdu offset with
      | none => simp [hread] at h
      | some ieee =>
        simp only [hread, Option.bind_eq_bind, Option.bind_some, Option.pure_def,
          Option.some.injEq] at h
        rw [← h]
        dsimp only
        omega
  · simp at h

theorem beaconPayloadOffset_le {psdu : List UInt8} {offset : Nat}
    (h : beaconPayloadOffset psdu = some (some offset)) : offset ≤ psdu.length := by
  simp only [beaconPayloadOffset, read8_eq, Option.bind_eq_bind] at h
  cases hgts : psdu[9]? with
  | none => simp [hgts] at h
  | some gts =>
    simp only [hgts, Option.bind_some] at h
    generalize (if gts &&& 0x07 > 0 then 1 + 3 * (gts &&& 0x07) else 0 : UInt8) = gtsBytes at h
    split at h
    · simp at h
    split at h
    · simp at h
    cases hpending : psdu[10 + gtsBytes.toNat]? with
    | none => simp [hpending] at h
    | some pending =>
      simp only [hpending, Option.bind_some] at h
      split at h
      · simp at h
      · simp only [Option.pure_def, Option.some.injEq] at h
        omega

theorem parseDestination_offset {psdu : List UInt8} {mode : UInt8} {offset : Nat}
    {address : MacAddress} (hoff : offset ≤ psdu.length)
    (h : parseDestination psdu mode offset = some (some address)) :
    address.offset ≤ psdu.length := by
  simp only [parseDestination] at h
  split at h
  · simp only [Option.some.injEq] at h
    rw [← h]
    exact hoff
  split at h
  · simp at h
  · obtain ⟨panId, hpan⟩ := read16_isSome (by omega : offset + 1 < psdu.length)
    simp only [hpan, Option.bind_eq_bind, Option.bind_some] at h
    exact parseAddress_offset h

theorem parseOrigin_offset {psdu : List UInt8} {mode : UInt8} {panCompression : Bool}
    {dstPanId : UInt16} {offset : Nat} {address : MacAddress} (hoff : offset ≤ psdu.length)
    (h : parseOrigin psdu mode panCompression dstPanId offset = some (some address)) :
    address.offset ≤ psdu.length := by
  simp only [parseOrigin] at h
  split at h
  · simp only [Option.some.injEq] at h
    rw [← h]
    exact hoff
  split at h
  · exact parseAddress_offset h
  split at h
  · simp at h
  · obtain ⟨panId, hpan⟩ := read16_isSome (by omega : offset + 1 < psdu.length)
    simp only [hpan, Option.bind_eq_bind, Option.bind_some] at h
    exact parseAddress_offset h

private theorem shortData_sound (psdu : List UInt8) :
    ∃ r, shortData.run psdu = some r ∧ shortData.Sound psdu r := by
  simp only [run, parseShortDataFrame]
  split
  · exact refused rfl
  next hlen =>
  obtain ⟨word, hword⟩ := read16_isSome (by omega : 0 + 1 < psdu.length)
  obtain ⟨sequence, h2⟩ := getElem?_isSome (by omega : 2 < psdu.length)
  obtain ⟨panId, h3⟩ := read16_isSome (by omega : 3 + 1 < psdu.length)
  obtain ⟨dst, h5⟩ := read16_isSome (by omega : 5 + 1 < psdu.length)
  obtain ⟨src, h7⟩ := read16_isSome (by omega : 7 + 1 < psdu.length)
  simp only [hword, read8_eq, h2, h3, h5, h7, Option.bind_eq_bind, Option.bind_some]
  split
  · exact refused rfl
  next hmodes =>
  have hselect : shortData.Selects (decodeFcf word) := by
    simp only [ne_eq, Bool.or_eq_true, decide_eq_true_eq, not_or, not_not] at hmodes
    exact ⟨hmodes.1.1, hmodes.2⟩
  -- behind either PAN layout, the source address and the payload
  have hsource : ∀ frame offset, ∃ r,
      (parseSource psdu frame offset).map (fun r => (r.1, r.2.payload, r.2.payloadLen)) = some r ∧
        shortData.Sound psdu r := by
    intro frame offset
    simp only [parseSource]
    split
    · exact refused rfl
    next hshort =>
    obtain ⟨src, hsrc⟩ := read16_isSome (by omega : offset + 1 < psdu.length)
    simp only [hsrc, Option.bind_eq_bind, Option.bind_some, Option.pure_def]
    exact ⟨_, rfl, Or.inr ⟨⟨word, hword, hselect⟩, offset + 2, by omega, rfl⟩⟩
  split <;> exact hsource _ _

private theorem interPan_sound (psdu : List UInt8) :
    ∃ r, interPan.run psdu = some r ∧ interPan.Sound psdu r := by
  simp only [run, parseInterPanFrame]
  split
  · exact refused rfl
  next hlen =>
  obtain ⟨word, hword⟩ := read16_isSome (by omega : 0 + 1 < psdu.length)
  obtain ⟨sequence, h2⟩ := getElem?_isSome (by omega : 2 < psdu.length)
  obtain ⟨dst, hdst⟩ := parseDestination_isSome psdu (decodeFcf word).dstMode 3
  simp only [hword, read8_eq, h2, hdst, Option.bind_eq_bind, Option.bind_some]
  split
  · exact refused rfl
  next hmodes =>
  have hselect : interPan.Selects (decodeFcf word) := by
    simp only [ne_eq, Bool.or_eq_true, decide_eq_true_eq, not_or, not_not] at hmodes
    exact hmodes.1
  split
  · exact refused rfl
  cases dst with
  | none => exact refused rfl
  | some dst =>
    have hoff := parseDestination_offset (by omega) hdst
    obtain ⟨src, hsrc⟩ := parseOrigin_isSome psdu (decodeFcf word).srcMode
      (decodeFcf word).panCompression dst.panId dst.offset
    simp only [hsrc, Option.bind_some]
    cases src with
    | none => exact refused rfl
    | some src =>
      exact ⟨_, rfl, Or.inr ⟨⟨word, hword, hselect⟩, src.offset, parseOrigin_offset hoff hsrc,
        rfl⟩⟩

private theorem command_sound (psdu : List UInt8) :
    ∃ r, command.run psdu = some r ∧ command.Sound psdu r := by
  simp only [run, parseCommandFrame]
  split
  · exact refused rfl
  next hlen =>
  obtain ⟨word, hword⟩ := read16_isSome (by omega : 0 + 1 < psdu.length)
  obtain ⟨sequence, h2⟩ := getElem?_isSome (by omega : 2 < psdu.length)
  obtain ⟨dst, hdst⟩ := parseDestination_isSome psdu (decodeFcf word).dstMode 3
  simp only [hword, read8_eq, h2, hdst, Option.bind_eq_bind, Option.bind_some]
  split
  · exact refused rfl
  next htype =>
  cases dst with
  | none => exact refused rfl
  | some dst =>
    obtain ⟨src, hsrc⟩ := parseOrigin_isSome psdu (decodeFcf word).srcMode
      (decodeFcf word).panCompression dst.panId dst.offset
    simp only [hsrc, Option.bind_some]
    cases src with
    | none => exact refused rfl
    | some src =>
      dsimp only
      split
      · exact refused rfl
      next hend =>
      obtain ⟨commandId, hcommand⟩ := getElem?_isSome (by omega : src.offset < psdu.length)
      simp only [hcommand, Option.bind_some]
      exact ⟨_, rfl, Or.inr ⟨⟨word, hword, not_not.mp htype⟩, src.offset + 1, by omega, rfl⟩⟩

private theorem beacon_sound (psdu : List UInt8) :
    ∃ r, beacon.run psdu = some r ∧ beacon.Sound psdu r := by
  simp only [run, parseBeacon]
  split
  · exact refused rfl
  next hlen =>
  obtain ⟨word, hword⟩ := read16_isSome (by omega : 0 + 1 < psdu.length)
  obtain ⟨sequence, h2⟩ := getElem?_isSome (by omega : 2 < psdu.length)
  obtain ⟨panId, h3⟩ := read16_isSome (by omega : 3 + 1 < psdu.length)
  obtain ⟨src, h5⟩ := read16_isSome (by omega : 5 + 1 < psdu.length)
  obtain ⟨superframe, h7⟩ := read16_isSome (by omega : 7 + 1 < psdu.length)
  obtain ⟨offset, hoffset⟩ := beaconPayloadOffset_isSome hlen
  simp only [hword, read8_eq, h2, h3, h5, h7, hoffset, Option.bind_eq_bind, Option.bind_some]
  split
  · exact refused rfl
  next hmodes =>
  have hselect : beacon.Selects (decodeFcf word) := by
    simp only [ne_eq, Bool.or_eq_true, decide_eq_true_eq, not_or, not_not] at hmodes
    exact hmodes.1.1
  cases offset with
  | none => exact refused rfl
  | some offset =>
    exact ⟨_, rfl, Or.inr ⟨⟨word, hword, hselect⟩, offset, beaconPayloadOffset_le hoffset, rfl⟩⟩

theorem run_sound (psdu : List UInt8) (parser : MacParser) :
    ∃ r, parser.run psdu = some r ∧ parser.Sound psdu r := by
  cases parser with
  | shortData => exact shortData_sound psdu
  | interPan => exact interPan_sound psdu
  | command => exact command_sound psdu
  | beacon => exact beacon_sound psdu

/-- The frame types differ, and the two data parsers differ in the source address. -/
theorem selects_unique {fcf : MacFcf} {p q : MacParser} (hp : p.Selects fcf)
    (hq : q.Selects fcf) : p = q := by
  rcases fcf with ⟨frameType, ack, compression, dstMode, srcMode⟩
  cases p <;> cases q <;> simp only [Selects] at hp hq <;> try rfl
  all_goals
    simp_all [macFrameData, macFrameCommand, macFrameBeacon, macAddrShort, macAddrExtended]

theorem accepts_unique {psdu : List UInt8} {p q : MacParser} (hp : p.Accepts psdu)
    (hq : q.Accepts psdu) : p = q := by
  have hselect : ∀ {parser : MacParser}, parser.Accepts psdu →
      ∃ word, read16 psdu 0 = some word ∧ parser.Selects (decodeFcf word) := by
    intro parser ⟨payload, haccept⟩
    obtain ⟨r, hrun, hsound⟩ := run_sound psdu parser
    rw [haccept, Option.some.injEq] at hrun
    rcases hsound with hrefused | ⟨hword, -⟩
    · simp [hrefused] at hrun
    · exact hword
  obtain ⟨word, hword, hpselect⟩ := hselect hp
  obtain ⟨word', hword', hqselect⟩ := hselect hq
  have heq : word = word' := by simpa [hword] using hword'
  subst heq
  exact selects_unique hpselect hqselect

end MacParser

end NiusZigbee.ZigbeeMac
