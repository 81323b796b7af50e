import NiusZigbee.Library.OutBuffer

/-!
# MAC frames

`ZigbeeMac` builds and parses short-address data frames and parses the MAC commands and beacons the
driver hands up. As in the NWK layer a parsed frame points into the PSDU, and every read is checked.
-/

namespace NiusZigbee.ZigbeeMac

open ByteCodec OutBuffer

def macFrameBeacon : UInt8 := 0
def macFrameData : UInt8 := 1
def macFrameCommand : UInt8 := 3

def macAddrNone : UInt8 := 0
def macAddrShort : UInt8 := 2
def macAddrExtended : UInt8 := 3

def macAssocSuccess : UInt8 := 0x00
def macAssocPanAtCapacity : UInt8 := 0x01
def macAssocPanAccessDenied : UInt8 := 0x02

def kMaxPsdu : Nat := 125
def kBroadcastShort : UInt16 := 0xFFFF

structure MacDataFrame where
  valid : Bool := false
  frameType : UInt8 := 0
  sequence : UInt8 := 0
  ackRequest : Bool := false
  panIdCompression : Bool := false
  dstPanId : UInt16 := 0
  dstShort : UInt16 := 0
  srcPanId : UInt16 := 0
  srcShort : UInt16 := 0
  payload : Option Nat := none
  payloadLen : Nat := 0
deriving DecidableEq, Repr

structure MacCommandFrame where
  valid : Bool := false
  frameType : UInt8 := 0
  sequence : UInt8 := 0
  ackRequest : Bool := false
  panIdCompression : Bool := false
  dstAddrMode : UInt8 := 0
  srcAddrMode : UInt8 := 0
  dstPanId : UInt16 := 0
  dstShort : UInt16 := 0
  dstIeee : UInt64 := 0
  srcPanId : UInt16 := 0
  srcShort : UInt16 := 0
  srcIeee : UInt64 := 0
  commandId : UInt8 := 0
  payload : Option Nat := none
  payloadLen : Nat := 0
deriving DecidableEq, Repr

structure MacAssociationRequest where
  valid : Bool := false
  capability : UInt8 := 0
  allocateAddress : Bool := false
  receiverOnWhenIdle : Bool := false
  fullFunctionDevice : Bool := false
deriving DecidableEq, Repr

structure MacBeaconFrame where
  valid : Bool := false
  sequence : UInt8 := 0
  srcPanId : UInt16 := 0
  srcShort : UInt16 := 0
  panCoordinator : Bool := false
  associationPermit : Bool := false
  payload : Option Nat := none
  payloadLen : Nat := 0
deriving DecidableEq, Repr

/-! ## The frame-control word -/

structure MacFcf where
  frameType : UInt8
  ackRequest : Bool
  panCompression : Bool
  dstMode : UInt8
  srcMode : UInt8
deriving DecidableEq, Repr

def decodeFcf (fcf : UInt16) : MacFcf where
  frameType := (fcf &&& 0x7).toUInt8
  ackRequest := (fcf &&& ((1 : UInt16) <<< 5)) != 0
  panCompression := (fcf &&& ((1 : UInt16) <<< 6)) != 0
  dstMode := ((fcf >>> 10) &&& 0x3).toUInt8
  srcMode := ((fcf >>> 14) &&& 0x3).toUInt8

/-- Data, PAN ID compression, short addresses on both sides, version 2006. -/
def shortDataFcf (ackRequest : Bool) : UInt16 :=
  macFrameData.toUInt16 ||| (if ackRequest then (1 : UInt16) <<< 5 else 0) |||
    ((1 : UInt16) <<< 6) ||| ((2 : UInt16) <<< 10) ||| ((1 : UInt16) <<< 12) |||
    ((2 : UInt16) <<< 14)

theorem decode_shortDataFcf (ackRequest : Bool) :
    decodeFcf (shortDataFcf ackRequest) =
      ⟨macFrameData, ackRequest, true, macAddrShort, macAddrShort⟩ := by
  cases ackRequest <;> decide

/-! ## Data frames -/

def buildShortDataFrame (outMax : UInt8) (panId dstShort srcShort : UInt16) (sequence : UInt8)
    (payload : List UInt8) (ackRequest : Bool) : Built :=
  let headerLen := 9
  if payload.length > kMaxPsdu - headerLen then .fail
  else if outMax.toNat < headerLen + payload.length then .fail
  else
    { len := (headerLen + payload.length) % 256
      writes := emit 0 (le16 (shortDataFcf ackRequest)) ++ emit 2 [sequence] ++
        emit 3 (le16 panId) ++ emit 5 (le16 dstShort) ++ emit 7 (le16 srcShort) ++
        emit headerLen payload }

/-- Source address and payload, behind the PAN ids. -/
def parseSource (psdu : List UInt8) (frame : MacDataFrame) (offset : Nat) :
    Option (Bool × MacDataFrame) :=
  if psdu.length < offset + 2 then some (false, {})
  else do
    return (true,
      { frame with
        valid := true
        srcShort := ← read16 psdu offset
        payload := some (offset + 2)
        payloadLen := (psdu.length - (offset + 2)) % 256 })

def parseShortDataFrame (psdu : List UInt8) : Option (Bool × MacDataFrame) :=
  if psdu.length < 9 then some (false, {})
  else do
    let fcf := decodeFcf (← read16 psdu 0)
    if fcf.frameType ≠ macFrameData || fcf.dstMode ≠ macAddrShort || fcf.srcMode ≠ macAddrShort then
      return (false, {})
    else
      let dstPanId ← read16 psdu 3
      let frame : MacDataFrame :=
        { frameType := fcf.frameType
          sequence := ← read8 psdu 2
          ackRequest := fcf.ackRequest
          panIdCompression := fcf.panCompression
          dstPanId := dstPanId
          dstShort := ← read16 psdu 5 }
      if fcf.panCompression then parseSource psdu { frame with srcPanId := dstPanId } 7
      else if psdu.length < 7 + 2 then return (false, {})
      else parseSource psdu { frame with srcPanId := ← read16 psdu 7 } 9

def MacDataFrame.payloadBytes (frame : MacDataFrame) (psdu : List UInt8) : List UInt8 :=
  match frame.payload with
  | none => []
  | some off => slice psdu off frame.payloadLen

/-- The bytes of a data frame. -/
def shortDataBytes (panId dstShort srcShort : UInt16) (sequence : UInt8) (ackRequest : Bool)
    (payload : List UInt8) : List UInt8 :=
  le16 (shortDataFcf ackRequest) ++ [sequence] ++ le16 panId ++ le16 dstShort ++ le16 srcShort ++
    payload

theorem buildShortDataFrame_bytes {outMax : UInt8} {panId dstShort srcShort : UInt16}
    {sequence : UInt8} {payload : List UInt8} {ackRequest : Bool}
    (h : (buildShortDataFrame outMax panId dstShort srcShort sequence payload ackRequest).len ≠ 0) :
    payload.length ≤ kMaxPsdu - 9 ∧
    buildShortDataFrame outMax panId dstShort srcShort sequence payload ackRequest =
      .exact (shortDataBytes panId dstShort srcShort sequence ackRequest payload) := by
  simp only [buildShortDataFrame] at h ⊢
  split at h
  · simp at h
  next hlen =>
  split at h
  · simp at h
  next hmax =>
  rw [if_neg hlen, if_neg hmax]
  refine ⟨by omega, ?_⟩
  rw [emit_glue _ _ (by rfl), emit_glue _ _ (by rfl), emit_glue _ _ (by rfl),
    emit_glue _ _ (by rfl), emit_glue _ _ (by rfl)]
  simp only [Built.exact, shortDataBytes, List.length_append, le16_length, List.length_singleton,
    Built.mk.injEq, and_true]
  simp only [kMaxPsdu] at hlen
  omega

theorem parseShortDataFrame_bytes (panId dstShort srcShort : UInt16) (sequence : UInt8)
    (ackRequest : Bool) {payload : List UInt8} (hlen : payload.length ≤ kMaxPsdu - 9) :
    parseShortDataFrame (shortDataBytes panId dstShort srcShort sequence ackRequest payload) =
      some (true,
        { valid := true, frameType := macFrameData, sequence := sequence, ackRequest := ackRequest
          panIdCompression := true, dstPanId := panId, dstShort := dstShort, srcPanId := panId
          srcShort := srcShort, payload := some 9, payloadLen := payload.length }) := by
  have h0 : read16 (shortDataBytes panId dstShort srcShort sequence ackRequest payload) 0 =
      some (shortDataFcf ackRequest) := by simp [shortDataBytes]
  have h3 : read16 (shortDataBytes panId dstShort srcShort sequence ackRequest payload) 3 =
      some panId := by simp [shortDataBytes, le16, read16]
  have h5 : read16 (shortDataBytes panId dstShort srcShort sequence ackRequest payload) 5 =
      some dstShort := by simp [shortDataBytes, le16, read16]
  have h7 : read16 (shortDataBytes panId dstShort srcShort sequence ackRequest payload) 7 =
      some srcShort := by simp [shortDataBytes, le16, read16]
  have h2 : (shortDataBytes panId dstShort srcShort sequence ackRequest payload)[2]? =
      some sequence := rfl
  have htotal : (shortDataBytes panId dstShort srcShort sequence ackRequest payload).length =
      9 + payload.length := by
    simp [shortDataBytes]
    omega
  have hp : payload.length % 256 = payload.length := by
    simp only [kMaxPsdu] at hlen
    omega
  have hshort : ¬ 9 + payload.length < 9 := by omega
  simp [parseShortDataFrame, parseSource, h0, h2, h3, h5, h7, decode_shortDataFcf, htotal, hp,
    hshort]

theorem payloadBytes_shortData (panId dstShort srcShort : UInt16) (sequence : UInt8)
    (ackRequest : Bool) (payload : List UInt8) :
    slice (shortDataBytes panId dstShort srcShort sequence ackRequest payload) 9 payload.length =
      payload := by
  rw [shortDataBytes]
  exact slice_of_length rfl rfl

theorem parseShortDataFrame_isSome (psdu : List UInt8) :
    ∃ r, parseShortDataFrame psdu = some r := by
  have hsource : ∀ frame offset, ∃ r, parseSource psdu frame offset = some r := by
    intro frame offset
    by_cases hshort : psdu.length < offset + 2
    · exact ⟨_, by rw [parseSource, if_pos hshort]⟩
    · obtain ⟨src, hsrc⟩ := read16_isSome (by omega : offset + 1 < psdu.length)
      simp [parseSource, hshort, hsrc]
  by_cases hlen : psdu.length < 9
  · exact ⟨_, by rw [parseShortDataFrame, if_pos hlen]⟩
  · obtain ⟨fcf, hfcf⟩ := read16_isSome (by omega : 0 + 1 < psdu.length)
    obtain ⟨sequence, h2⟩ := getElem?_isSome (by omega : 2 < psdu.length)
    obtain ⟨panId, h3⟩ := read16_isSome (by omega : 3 + 1 < psdu.length)
    obtain ⟨dst, h5⟩ := read16_isSome (by omega : 5 + 1 < psdu.length)
    obtain ⟨src, h7⟩ := read16_isSome (by omega : 7 + 1 < psdu.length)
    simp only [parseShortDataFrame, if_neg hlen, hfcf, read8_eq, h2, h3, h5, h7,
      Option.bind_eq_bind, Option.bind_some]
    split
    · exact ⟨_, rfl⟩
    split <;> exact hsource _ _

/-! ## Commands and beacons -/

/-- One side of a command's addressing, with the offset behind it. -/
structure MacAddress where
  panId : UInt16 := 0
  short : UInt16 := 0
  ieee : UInt64 := 0
  offset : Nat
deriving DecidableEq, Repr

/-- The address behind a PAN id; the inner `none` is the parser's `return false`. -/
def parseAddress (psdu : List UInt8) (mode : UInt8) (panId : UInt16) (offset : Nat) :
    Option (Option MacAddress) :=
  if mode = macAddrShort then
    if psdu.length < offset + 2 then some none
    else do return some { panId := panId, short := ← read16 psdu offset, offset := offset + 2 }
  else if mode = macAddrExtended then
    if psdu.length < offset + 8 then some none
    else do return some { panId := panId, ieee := ← read64 psdu offset, offset := offset + 8 }
  else some none

def parseDestination (psdu : List UInt8) (mode : UInt8) (offset : Nat) :
    Option (Option MacAddress) :=
  if mode = macAddrNone then some (some { offset := offset })
  else if psdu.length < offset + 2 then some none
  else do parseAddress psdu mode (← read16 psdu offset) (offset + 2)

/-- As the destination, but under compression the PAN id is the destination's. -/
def parseOrigin (psdu : List UInt8) (mode : UInt8) (panCompression : Bool) (dstPanId : UInt16)
    (offset : Nat) : Option (Option MacAddress) :=
  if mode = macAddrNone then some (some { offset := offset })
  else if panCompression then parseAddress psdu mode dstPanId offset
  else if psdu.length < offset + 2 then some none
  else do parseAddress psdu mode (← read16 psdu offset) (offset + 2)

def parseCommandFrame (psdu : List UInt8) : Option (Bool × MacCommandFrame) :=
  if psdu.length < 4 then some (false, {})
  else do
    let fcf := decodeFcf (← read16 psdu 0)
    if fcf.frameType ≠ macFrameCommand then return (false, {})
    else
      match ← parseDestination psdu fcf.dstMode 3 with
      | none => return (false, {})
      | some dst =>
        match ← parseOrigin psdu fcf.srcMode fcf.panCompression dst.panId dst.offset with
        | none => return (false, {})
        | some src =>
          if psdu.length < src.offset + 1 then return (false, {})
          else
            return (true,
              { valid := true
                frameType := fcf.frameType
                sequence := ← read8 psdu 2
                ackRequest := fcf.ackRequest
                panIdCompression := fcf.panCompression
                dstAddrMode := fcf.dstMode
                srcAddrMode := fcf.srcMode
                dstPanId := dst.panId
                dstShort := dst.short
                dstIeee := dst.ieee
                srcPanId := src.panId
                srcShort := src.short
                srcIeee := src.ieee
                commandId := ← read8 psdu src.offset
                payload := some (src.offset + 1)
                payloadLen := (psdu.length - (src.offset + 1)) % 256 })

/-- The offset behind the GTS and pending-address fields. -/
def beaconPayloadOffset (psdu : List UInt8) : Option (Option Nat) := do
  let gtsCount := (← read8 psdu 9) &&& 0x07
  let gtsBytes : UInt8 := if gtsCount > 0 then 1 + 3 * gtsCount else 0
  let offset := 10 + gtsBytes.toNat
  if gtsCount > 0 && psdu.length < offset then return none
  else if psdu.length < offset + 1 then return none
  else
    let pending ← read8 psdu offset
    let pendingBytes : UInt8 := 2 * (pending &&& 7) + 8 * ((pending >>> (4 : UInt8)) &&& 7)
    if psdu.length < offset + 1 + pendingBytes.toNat then return none
    else return some (offset + 1 + pendingBytes.toNat)

def parseBeacon (psdu : List UInt8) : Option (Bool × MacBeaconFrame) :=
  if psdu.length < 11 then some (false, {})
  else do
    let fcf := decodeFcf (← read16 psdu 0)
    if fcf.frameType ≠ macFrameBeacon || fcf.dstMode ≠ macAddrNone ||
        fcf.srcMode ≠ macAddrShort then
      return (false, {})
    else
      let superframe ← read16 psdu 7
      match ← beaconPayloadOffset psdu with
      | none => return (false, {})
      | some offset =>
        return (true,
          { valid := true
            sequence := ← read8 psdu 2
            srcPanId := ← read16 psdu 3
            srcShort := ← read16 psdu 5
            panCoordinator := (superframe &&& ((1 : UInt16) <<< 14)) != 0
            associationPermit := (superframe &&& ((1 : UInt16) <<< 15)) != 0
            payload := some offset
            payloadLen := (psdu.length - offset) % 256 })

section Reads

variable {psdu : List UInt8}

theorem parseAddress_isSome (psdu : List UInt8) (mode : UInt8) (panId : UInt16) (offset : Nat) :
    ∃ r, parseAddress psdu mode panId offset = some r := by
  simp only [parseAddress]
  split
  · split
    · exact ⟨_, rfl⟩
    · next hlen =>
      obtain ⟨short, hshort⟩ := read16_isSome (by omega : offset + 1 < psdu.length)
      simp [hshort]
  split
  · split
    · exact ⟨_, rfl⟩
    · next hlen =>
      obtain ⟨ieee, hieee⟩ := read64_isSome (by omega : offset + 8 ≤ psdu.length)
      simp [hieee]
  · exact ⟨_, rfl⟩

theorem parseDestination_isSome (psdu : List UInt8) (mode : UInt8) (offset : Nat) :
    ∃ r, parseDestination psdu mode offset = some r := by
  simp only [parseDestination]
  split
  · exact ⟨_, rfl⟩
  split
  · exact ⟨_, rfl⟩
  · next hlen =>
    obtain ⟨panId, hpan⟩ := read16_isSome (by omega : offset + 1 < psdu.length)
    simpa only [hpan, Option.bind_eq_bind, Option.bind_some] using parseAddress_isSome psdu mode _ _

theorem parseOrigin_isSome (psdu : List UInt8) (mode : UInt8) (panCompression : Bool)
    (dstPanId : UInt16) (offset : Nat) :
    ∃ r, parseOrigin psdu mode panCompression dstPanId offset = some r := by
  simp only [parseOrigin]
  split
  · exact ⟨_, rfl⟩
  split
  · exact parseAddress_isSome psdu mode dstPanId offset
  split
  · exact ⟨_, rfl⟩
  · next hlen =>
    obtain ⟨panId, hpan⟩ := read16_isSome (by omega : offset + 1 < psdu.length)
    simpa only [hpan, Option.bind_eq_bind, Option.bind_some] using parseAddress_isSome psdu mode _ _

theorem parseCommandFrame_isSome (psdu : List UInt8) :
    ∃ r, parseCommandFrame psdu = some r := by
  by_cases hlen : psdu.length < 4
  · exact ⟨_, by rw [parseCommandFrame, if_pos hlen]⟩
  obtain ⟨fcf, hfcf⟩ := read16_isSome (by omega : 0 + 1 < psdu.length)
  obtain ⟨sequence, h2⟩ := getElem?_isSome (by omega : 2 < psdu.length)
  obtain ⟨dst, hdst⟩ := parseDestination_isSome psdu (decodeFcf fcf).dstMode 3
  simp only [parseCommandFrame, if_neg hlen, hfcf, read8_eq, h2, hdst, Option.bind_eq_bind,
    Option.bind_some]
  split
  · exact ⟨_, rfl⟩
  cases dst with
  | none => exact ⟨_, rfl⟩
  | some dst =>
    obtain ⟨src, hsrc⟩ := parseOrigin_isSome psdu (decodeFcf fcf).srcMode
      (decodeFcf fcf).panCompression dst.panId dst.offset
    simp only [hsrc, Option.bind_some]
    cases src with
    | none => exact ⟨_, rfl⟩
    | some src =>
      by_cases hend : psdu.length < src.offset + 1
      · simp [hend]
      · obtain ⟨commandId, hcommand⟩ := getElem?_isSome (by omega : src.offset < psdu.length)
        simp [hend, hcommand]

theorem beaconPayloadOffset_isSome (hlen : ¬ psdu.length < 11) :
    ∃ r, beaconPayloadOffset psdu = some r := by
  obtain ⟨gts, hgts⟩ := getElem?_isSome (by omega : 9 < psdu.length)
  simp only [beaconPayloadOffset, read8_eq, hgts, Option.bind_eq_bind, Option.bind_some]
  generalize (if gts &&& 0x07 > 0 then 1 + 3 * (gts &&& 0x07) else 0 : UInt8) = gtsBytes
  split
  · exact ⟨_, rfl⟩
  split
  · exact ⟨_, rfl⟩
  next hpending =>
  obtain ⟨pending, hread⟩ := getElem?_isSome (by omega : 10 + gtsBytes.toNat < psdu.length)
  simp only [hread, Option.bind_some]
  split <;> exact ⟨_, rfl⟩

theorem parseBeacon_isSome (psdu : List UInt8) : ∃ r, parseBeacon psdu = some r := by
  by_cases hlen : psdu.length < 11
  · exact ⟨_, by rw [parseBeacon, if_pos hlen]⟩
  obtain ⟨fcf, hfcf⟩ := read16_isSome (by omega : 0 + 1 < psdu.length)
  obtain ⟨sequence, h2⟩ := getElem?_isSome (by omega : 2 < psdu.length)
  obtain ⟨panId, h3⟩ := read16_isSome (by omega : 3 + 1 < psdu.length)
  obtain ⟨src, h5⟩ := read16_isSome (by omega : 5 + 1 < psdu.length)
  obtain ⟨superframe, h7⟩ := read16_isSome (by omega : 7 + 1 < psdu.length)
  obtain ⟨offset, hoffset⟩ := beaconPayloadOffset_isSome hlen
  simp only [parseBeacon, if_neg hlen, hfcf, read8_eq, h2, h3, h5, h7, hoffset,
    Option.bind_eq_bind, Option.bind_some]
  split
  · exact ⟨_, rfl⟩
  · cases offset <;> exact ⟨_, rfl⟩

end Reads

end NiusZigbee.ZigbeeMac
