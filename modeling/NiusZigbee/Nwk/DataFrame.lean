import NiusZigbee.Library.OutBuffer

/-!
# NWK data frames

`ZigbeeNwk` builds and parses NWK data frames, plain or with a source-route subframe. Lengths are
naturals reduced modulo 256 wherever the source casts to `uint8_t`. A parsed frame points into the
bytes it was parsed from: pointers are offsets, and dereferencing one is a checked read.
-/

namespace NiusZigbee.ZigbeeNwk

open ByteCodec OutBuffer

def nwkFrameData : UInt8 := 0
def nwkFrameCommand : UInt8 := 1

def kProtocolVersion : UInt8 := 2
def kBaseHeaderLen : Nat := 8
def kMaxFrame : Nat := 116
def kMaxPayload : Nat := kMaxFrame - kBaseHeaderLen

/-- The fields of the NWK frame-control word. -/
structure NwkFcf where
  frameType : UInt8 := 0
  protocolVersion : UInt8 := 0
  discoverRoute : UInt8 := 0
  multicast : Bool := false
  security : Bool := false
  sourceRoute : Bool := false
  dstIeeePresent : Bool := false
  srcIeeePresent : Bool := false
  endDeviceInitiator : Bool := false
deriving DecidableEq, Repr

def fcfBit (fcf : UInt16) (n : UInt16) : Bool := (fcf &&& (1 <<< n)) != 0

def decodeFcf (fcf : UInt16) : NwkFcf where
  frameType := (fcf &&& 0x03).toUInt8
  protocolVersion := ((fcf >>> 2) &&& 0x0F).toUInt8
  discoverRoute := ((fcf >>> 6) &&& 0x03).toUInt8
  multicast := fcfBit fcf 8
  security := fcfBit fcf 9
  sourceRoute := fcfBit fcf 10
  dstIeeePresent := fcfBit fcf 11
  srcIeeePresent := fcfBit fcf 12
  endDeviceInitiator := fcfBit fcf 13

structure NwkDataFrame extends NwkFcf where
  valid : Bool := false
  dstShort : UInt16 := 0
  srcShort : UInt16 := 0
  radius : UInt8 := 0
  sequence : UInt8 := 0
  srRelayCount : UInt8 := 0
  srRelayIndex : UInt8 := 0
  srRelayList : Option Nat := none
  payload : Option Nat := none
  payloadLen : Nat := 0
deriving DecidableEq, Repr

/-- The frame type, protocol version and discover-route bits both builders start from. -/
def baseFcf (frameType discoverRoute : UInt8) : UInt16 :=
  frameType.toUInt16 ||| (kProtocolVersion.toUInt16 <<< 2) |||
    ((discoverRoute &&& 0x03).toUInt16 <<< 6)

def buildDataFrame (outMax : UInt8) (dstShort srcShort : UInt16) (radius sequence : UInt8)
    (payload : List UInt8) (discoverRoute : UInt8) : Built :=
  if payload.length > kMaxPayload then .fail
  else if outMax.toNat < kBaseHeaderLen + payload.length then .fail
  else if discoverRoute > 3 then .fail
  else
    { len := (kBaseHeaderLen + payload.length) % 256
      writes := emit 0 (le16 (baseFcf nwkFrameData discoverRoute)) ++ emit 2 (le16 dstShort) ++
        emit 4 (le16 srcShort) ++ emit 6 [radius] ++ emit 7 [sequence] ++
        emit kBaseHeaderLen payload }

def buildDataFrameSourceRouted (outMax : UInt8) (dstShort srcShort : UInt16)
    (radius sequence : UInt8) (relays : List UInt16) (relayIndex : UInt8) (payload : List UInt8)
    (discoverRoute : UInt8) : Built :=
  let subframeLen := (2 + relays.length * 2) % 256
  let headerLen := (kBaseHeaderLen + subframeLen) % 256
  if discoverRoute > 3 then .fail
  else if headerLen + payload.length > outMax.toNat then .fail
  else if payload.length > kMaxPayload then .fail
  else
    { len := (headerLen + payload.length) % 256
      writes := emit 0 (le16 (baseFcf nwkFrameData discoverRoute ||| ((1 : UInt16) <<< 10))) ++
        emit 2 (le16 dstShort) ++ emit 4 (le16 srcShort) ++ emit 6 [radius] ++ emit 7 [sequence] ++
        emit 8 [relays.length.toUInt8] ++ emit 9 [relayIndex] ++
        relays.zipIdx.flatMap (fun p => emit (10 + p.2 * 2) (le16 p.1)) ++
        emit headerLen payload }

/-- What the source-route branch of the parser leaves behind. -/
structure Subframe where
  relayCount : UInt8
  relayIndex : UInt8
  relayList : Option Nat
  offset : Nat

/-- The source-route branch of the parser; the inner `none` is its `return false`. -/
def parseSubframe (npdu : List UInt8) (sourceRoute : Bool) : Option (Option Subframe) :=
  if !sourceRoute then some (some ⟨0, 0, none, kBaseHeaderLen⟩)
  else if npdu.length < (kBaseHeaderLen + 2) % 256 then some none
  else do
    let relayCount ← read8 npdu kBaseHeaderLen
    let relayIndex ← read8 npdu (kBaseHeaderLen + 1)
    let subframeLen := (2 + relayCount.toNat * 2) % 256
    let offset := (kBaseHeaderLen + subframeLen) % 256
    if npdu.length < offset then pure none
    else pure (some ⟨relayCount, relayIndex, some (kBaseHeaderLen + 2), offset⟩)

def parseDataFrame (npdu : List UInt8) : Option (Bool × NwkDataFrame) :=
  if npdu.length < kBaseHeaderLen then some (false, {})
  else do
    let fcf := decodeFcf (← read16 npdu 0)
    if fcf.frameType ≠ nwkFrameData then return (false, {})
    else if fcf.multicast || fcf.security || fcf.dstIeeePresent || fcf.srcIeeePresent then
      return (false, {})
    else
      match ← parseSubframe npdu fcf.sourceRoute with
      | none => return (false, {})
      | some sub =>
        return (true,
          { toNwkFcf := fcf
            valid := true
            dstShort := ← read16 npdu 2
            srcShort := ← read16 npdu 4
            radius := ← read8 npdu 6
            sequence := ← read8 npdu 7
            srRelayCount := sub.relayCount
            srRelayIndex := sub.relayIndex
            srRelayList := sub.relayList
            payload := some sub.offset
            payloadLen := (npdu.length - sub.offset) % 256 })

/-- The bytes a frame's payload pointer and length denote. -/
def NwkDataFrame.payloadBytes (frame : NwkDataFrame) (npdu : List UInt8) : List UInt8 :=
  match frame.payload with
  | none => []
  | some off => slice npdu off frame.payloadLen

/-- The relay at `index`; the inner `none` is `return false`. -/
def getDataFrameRelay (npdu : List UInt8) (frame : NwkDataFrame) (index : UInt8) :
    Option (Option UInt16) :=
  match frame.srRelayList with
  | none => some none
  | some list =>
    if !frame.valid || !frame.sourceRoute || index ≥ frame.srRelayCount then some none
    else (read16 npdu (list + index.toNat * 2)).map some

/-- What a node does with a source-routed frame, and what it hands back with `relay`. -/
inductive NwkSourceRouteAction where
  | deliver
  | relay (nextHop : UInt16) (outRelayIndex : UInt8)
  | drop
deriving DecidableEq, Repr

def sourceRouteAction (npdu : List UInt8) (frame : NwkDataFrame) (selfShort : UInt16) :
    Option NwkSourceRouteAction :=
  if !frame.valid || !frame.sourceRoute then some .drop
  else if frame.dstShort = selfShort then some .deliver
  else match frame.srRelayList with
    | none => some .drop
    | some list =>
      if frame.srRelayIndex ≥ frame.srRelayCount then some .drop
      else do
        let expected ← read16 npdu (list + frame.srRelayIndex.toNat * 2)
        if expected ≠ selfShort then return .drop
        else
          let nextIdx := frame.srRelayIndex + 1
          if nextIdx < frame.srRelayCount then
            return .relay (← read16 npdu (list + nextIdx.toNat * 2)) nextIdx
          else return .relay frame.dstShort nextIdx

/-! ## The frame-control word -/

private theorem discoverRoute_cases {d : UInt8} (h : d ≤ 3) : d = 0 ∨ d = 1 ∨ d = 2 ∨ d = 3 := by
  have hd : d.toNat ≤ 3 := h
  simp only [← UInt8.toNat_inj, UInt8.reduceToNat]
  omega

theorem decode_dataFcf {d : UInt8} (h : d ≤ 3) :
    decodeFcf (baseFcf nwkFrameData d) =
      { frameType := nwkFrameData, protocolVersion := kProtocolVersion, discoverRoute := d } := by
  rcases discoverRoute_cases h with rfl | rfl | rfl | rfl <;> decide

theorem decode_commandFcf {d : UInt8} (h : d ≤ 3) :
    decodeFcf (baseFcf nwkFrameCommand d) =
      { frameType := nwkFrameCommand, protocolVersion := kProtocolVersion,
        discoverRoute := d } := by
  rcases discoverRoute_cases h with rfl | rfl | rfl | rfl <;> decide

theorem decode_sourceRoutedFcf {d : UInt8} (h : d ≤ 3) :
    decodeFcf (baseFcf nwkFrameData d ||| ((1 : UInt16) <<< 10)) =
      { frameType := nwkFrameData, protocolVersion := kProtocolVersion, discoverRoute := d,
        sourceRoute := true } := by
  rcases discoverRoute_cases h with rfl | rfl | rfl | rfl <;> decide

/-! ## Plain data frames -/

/-- The bytes of the fixed part of the header and what follows it. -/
def headerBytes (fcf dstShort srcShort : UInt16) (radius sequence : UInt8) (rest : List UInt8) :
    List UInt8 :=
  le16 fcf ++ le16 dstShort ++ le16 srcShort ++ [radius] ++ [sequence] ++ rest

@[simp] theorem headerBytes_length (fcf dst src : UInt16) (radius sequence : UInt8)
    (rest : List UInt8) :
    (headerBytes fcf dst src radius sequence rest).length = kBaseHeaderLen + rest.length := by
  simp [headerBytes, kBaseHeaderLen]
  omega

theorem emit_header (fcf dst src : UInt16) (radius sequence : UInt8) :
    emit 0 (le16 fcf) ++ emit 2 (le16 dst) ++ emit 4 (le16 src) ++ emit 6 [radius] ++
      emit 7 [sequence] = emit 0 (headerBytes fcf dst src radius sequence []) := by
  rw [emit_glue _ _ (by rfl), emit_glue _ _ (by rfl), emit_glue _ _ (by rfl),
    emit_glue _ _ (by rfl)]
  simp [headerBytes]

theorem buildDataFrame_eq {outMax : UInt8} {payload : List UInt8} {discoverRoute : UInt8}
    (dst src : UInt16) (radius sequence : UInt8)
    (hmax : kBaseHeaderLen + payload.length ≤ outMax.toNat) (hlen : payload.length ≤ kMaxPayload)
    (hdr : discoverRoute ≤ 3) :
    buildDataFrame outMax dst src radius sequence payload discoverRoute =
      .exact (headerBytes (baseFcf nwkFrameData discoverRoute) dst src radius sequence
        payload) := by
  have hdr' : ¬ discoverRoute > 3 := UInt8.not_lt.mpr hdr
  have hbytes : emit 0 (headerBytes (baseFcf nwkFrameData discoverRoute) dst src radius sequence [])
      ++ emit kBaseHeaderLen payload =
      emit 0 (headerBytes (baseFcf nwkFrameData discoverRoute) dst src radius sequence
        payload) := by
    rw [emit_glue _ _ (by simp)]
    simp [headerBytes]
  rw [buildDataFrame, if_neg (by omega), if_neg (by omega), if_neg hdr', emit_header, hbytes]
  simp only [Built.exact, headerBytes_length, Built.mk.injEq, and_true]
  simp only [kMaxPayload, kMaxFrame, kBaseHeaderLen] at hlen ⊢
  omega

theorem buildDataFrame_bytes {outMax : UInt8} {dst src : UInt16} {radius sequence : UInt8}
    {payload : List UInt8} {discoverRoute : UInt8}
    (h : (buildDataFrame outMax dst src radius sequence payload discoverRoute).len ≠ 0) :
    payload.length ≤ kMaxPayload ∧
    buildDataFrame outMax dst src radius sequence payload discoverRoute =
      .exact (headerBytes (baseFcf nwkFrameData discoverRoute) dst src radius sequence
        payload) := by
  simp only [buildDataFrame] at h
  split at h
  · simp at h
  next hlen =>
  split at h
  · simp at h
  next hmax =>
  split at h
  · simp at h
  next hdr =>
  exact ⟨Nat.not_lt.mp hlen, buildDataFrame_eq dst src radius sequence (Nat.not_lt.mp hmax)
    (Nat.not_lt.mp hlen) (UInt8.not_lt.mp hdr)⟩

@[simp] theorem read16_header0 (fcf dst src : UInt16) (radius sequence : UInt8)
    (rest : List UInt8) :
    read16 (headerBytes fcf dst src radius sequence rest) 0 = some fcf := by
  simp [headerBytes]

@[simp] theorem read16_header2 (fcf dst src : UInt16) (radius sequence : UInt8)
    (rest : List UInt8) :
    read16 (headerBytes fcf dst src radius sequence rest) 2 = some dst := by
  simp [headerBytes, le16, read16]

@[simp] theorem read16_header4 (fcf dst src : UInt16) (radius sequence : UInt8)
    (rest : List UInt8) :
    read16 (headerBytes fcf dst src radius sequence rest) 4 = some src := by
  simp [headerBytes, le16, read16]

@[simp] theorem getElem_header6 (fcf dst src : UInt16) (radius sequence : UInt8)
    (rest : List UInt8) :
    (headerBytes fcf dst src radius sequence rest)[6]? = some radius := rfl

@[simp] theorem getElem_header7 (fcf dst src : UInt16) (radius sequence : UInt8)
    (rest : List UInt8) :
    (headerBytes fcf dst src radius sequence rest)[7]? = some sequence := rfl

theorem getElem_headerRest (fcf dst src : UInt16) (radius sequence : UInt8) (rest : List UInt8)
    (i : Nat) :
    (headerBytes fcf dst src radius sequence rest)[kBaseHeaderLen + i]? = rest[i]? := by
  rw [Nat.add_comm]
  rfl

theorem read16_headerRest (fcf dst src : UInt16) (radius sequence : UInt8) (rest : List UInt8)
    (i : Nat) :
    read16 (headerBytes fcf dst src radius sequence rest) (kBaseHeaderLen + i) = read16 rest i := by
  simp only [read16, Nat.add_assoc, getElem_headerRest]

theorem slice_headerRest (fcf dst src : UInt16) (radius sequence : UInt8) (rest : List UInt8)
    (i len : Nat) :
    slice (headerBytes fcf dst src radius sequence rest) (kBaseHeaderLen + i) len =
      slice rest i len := by
  rw [Nat.add_comm]
  rfl

theorem parseDataFrame_header {payload : List UInt8} {discoverRoute : UInt8}
    (dst src : UInt16) (radius sequence : UInt8) (hlen : payload.length ≤ kMaxPayload)
    (hdr : discoverRoute ≤ 3) :
    parseDataFrame (headerBytes (baseFcf nwkFrameData discoverRoute) dst src radius sequence
      payload)
      = some (true,
        { frameType := nwkFrameData, protocolVersion := kProtocolVersion
          discoverRoute := discoverRoute, valid := true, dstShort := dst, srcShort := src
          radius := radius, sequence := sequence, payload := some kBaseHeaderLen
          payloadLen := payload.length }) := by
  have hp : payload.length % 256 = payload.length := by
    simp only [kMaxPayload, kMaxFrame, kBaseHeaderLen] at hlen
    omega
  simp [parseDataFrame, parseSubframe, decode_dataFcf hdr, hp]

/-! ## Source-routed data frames -/

/-- What follows the fixed header: relay count, relay index, the relays, the payload. -/
def routedBytes (relays : List UInt16) (relayIndex : UInt8) (payload : List UInt8) : List UInt8 :=
  relays.length.toUInt8 :: relayIndex :: (relays.flatMap le16 ++ payload)

@[simp] theorem routedBytes_length (relays : List UInt16) (relayIndex : UInt8)
    (payload : List UInt8) :
    (routedBytes relays relayIndex payload).length = 2 + relays.length * 2 + payload.length := by
  simp only [routedBytes, List.length_cons, List.length_append, length_words]
  omega

theorem buildDataFrameSourceRouted_eq {outMax : UInt8} {relays : List UInt16}
    {payload : List UInt8} {discoverRoute : UInt8} (dst src : UInt16)
    (radius sequence relayIndex : UInt8) (hcount : relays.length ≤ 122)
    (hmax : kBaseHeaderLen + (2 + relays.length * 2) + payload.length ≤ outMax.toNat)
    (hlen : payload.length ≤ kMaxPayload) (hdr : discoverRoute ≤ 3) :
    buildDataFrameSourceRouted outMax dst src radius sequence relays relayIndex payload
        discoverRoute =
      .exact (headerBytes (baseFcf nwkFrameData discoverRoute ||| ((1 : UInt16) <<< 10)) dst src
        radius sequence (routedBytes relays relayIndex payload)) := by
  have hout := outMax.toNat_lt
  have hdr' : ¬ discoverRoute > 3 := UInt8.not_lt.mpr hdr
  -- no wrap: the subframe ends at index 254 at most
  have hhead : (kBaseHeaderLen + (2 + relays.length * 2) % 256) % 256 =
      kBaseHeaderLen + (2 + relays.length * 2) := by
    simp only [kBaseHeaderLen]
    omega
  have hrelays := emit_records le16 2 le16_length 10 0 relays
  simp only [Nat.zero_mul, Nat.add_zero] at hrelays
  simp only [buildDataFrameSourceRouted, hhead]
  rw [if_neg hdr', if_neg (by omega), if_neg (by omega), emit_header, hrelays,
    emit_glue _ _ (by simp [kBaseHeaderLen]), emit_glue _ _ (by simp [kBaseHeaderLen]),
    emit_glue _ _ (by simp [kBaseHeaderLen]),
    emit_glue _ _ (by simp [kBaseHeaderLen]; omega)]
  simp only [Built.exact, headerBytes_length, routedBytes_length, Built.mk.injEq]
  constructor
  · rw [Nat.mod_eq_of_lt (by omega)]
    omega
  · simp [headerBytes, routedBytes]

section Routed

variable {relays : List UInt16} {relayIndex : UInt8} {payload : List UInt8}

/-- The parser's view of a source-routed frame. -/
def routedFrame (dst src : UInt16) (radius sequence discoverRoute : UInt8) (relays : List UInt16)
    (relayIndex : UInt8) (payload : List UInt8) : NwkDataFrame where
  frameType := nwkFrameData
  protocolVersion := kProtocolVersion
  discoverRoute := discoverRoute
  sourceRoute := true
  valid := true
  dstShort := dst
  srcShort := src
  radius := radius
  sequence := sequence
  srRelayCount := relays.length.toUInt8
  srRelayIndex := relayIndex
  srRelayList := some (kBaseHeaderLen + 2)
  payload := some (kBaseHeaderLen + (2 + relays.length * 2))
  payloadLen := payload.length

section Fields

variable (dst src : UInt16) (radius sequence discoverRoute : UInt8) (relays : List UInt16)
  (relayIndex : UInt8) (payload : List UInt8)

@[simp] theorem routedFrame_dstShort : (routedFrame dst src radius sequence discoverRoute relays
    relayIndex payload).dstShort = dst := rfl

@[simp] theorem routedFrame_srcShort : (routedFrame dst src radius sequence discoverRoute relays
    relayIndex payload).srcShort = src := rfl

@[simp] theorem routedFrame_radius : (routedFrame dst src radius sequence discoverRoute relays
    relayIndex payload).radius = radius := rfl

@[simp] theorem routedFrame_sequence : (routedFrame dst src radius sequence discoverRoute relays
    relayIndex payload).sequence = sequence := rfl

end Fields

theorem parseSubframe_routed (fcf dst src : UInt16) (radius sequence : UInt8)
    (hcount : relays.length ≤ 122) :
    parseSubframe (headerBytes fcf dst src radius sequence (routedBytes relays relayIndex payload))
        true =
      some (some ⟨relays.length.toUInt8, relayIndex, some (kBaseHeaderLen + 2),
        kBaseHeaderLen + (2 + relays.length * 2)⟩) := by
  have h8 := getElem_headerRest fcf dst src radius sequence
    (routedBytes relays relayIndex payload) 0
  have h9 := getElem_headerRest fcf dst src radius sequence
    (routedBytes relays relayIndex payload) 1
  have hshort : ¬ kBaseHeaderLen + (2 + relays.length * 2 + payload.length) <
      (kBaseHeaderLen + 2) % 256 := by
    simp only [kBaseHeaderLen]
    omega
  have hoff : (kBaseHeaderLen + (2 + relays.length * 2)) % 256 =
      kBaseHeaderLen + (2 + relays.length * 2) := by
    simp only [kBaseHeaderLen]
    omega
  have hfit : ¬ kBaseHeaderLen + (2 + relays.length * 2 + payload.length) <
      kBaseHeaderLen + (2 + relays.length * 2) := by omega
  simp only [Nat.add_zero] at h8
  simp only [parseSubframe, read8_eq, headerBytes_length, routedBytes_length, h8, h9, Bool.not_true,
    Bool.false_eq_true, if_false, if_neg hshort]
  simp [routedBytes, toNat_toUInt8 (by omega : relays.length < 256), hoff, hfit]

theorem parseDataFrame_routed {discoverRoute : UInt8} (dst src : UInt16)
    (radius sequence : UInt8) (hcount : relays.length ≤ 122)
    (hlen : payload.length ≤ kMaxPayload) (hdr : discoverRoute ≤ 3) :
    parseDataFrame (headerBytes (baseFcf nwkFrameData discoverRoute ||| ((1 : UInt16) <<< 10))
        dst src radius sequence (routedBytes relays relayIndex payload)) =
      some (true, routedFrame dst src radius sequence discoverRoute relays relayIndex payload) := by
  have hp : payload.length % 256 = payload.length := by
    simp only [kMaxPayload, kMaxFrame, kBaseHeaderLen] at hlen
    omega
  have hpay : kBaseHeaderLen + (2 + relays.length * 2 + payload.length) -
      (kBaseHeaderLen + (2 + relays.length * 2)) = payload.length := by omega
  simp [parseDataFrame, decode_sourceRoutedFcf hdr, parseSubframe_routed _ _ _ _ _ hcount,
    routedFrame, hpay, hp]

theorem getDataFrameRelay_routed (dst src : UInt16) (radius sequence discoverRoute : UInt8)
    (fcf : UInt16) (hcount : relays.length ≤ 122) {i : UInt8} (hi : i.toNat < relays.length) :
    getDataFrameRelay (headerBytes fcf dst src radius sequence
        (routedBytes relays relayIndex payload))
      (routedFrame dst src radius sequence discoverRoute relays relayIndex payload) i =
      some (some relays[i.toNat]) := by
  have hlt : ¬ i ≥ relays.length.toUInt8 := by
    rw [ge_iff_le, UInt8.not_le, UInt8.lt_iff_toNat_lt, toNat_toUInt8 (by omega)]
    exact hi
  have hread : read16 (headerBytes fcf dst src radius sequence
      (routedBytes relays relayIndex payload)) (kBaseHeaderLen + 2 + i.toNat * 2) =
      some relays[i.toNat] := by
    rw [Nat.add_assoc, read16_headerRest, routedBytes, show 2 + i.toNat * 2 = i.toNat * 2 + 1 + 1
      by omega, read16_cons, read16_cons, read16_words _ _ hi]
  simp [getDataFrameRelay, routedFrame, hlt, hread]

theorem payloadBytes_routed (dst src : UInt16) (radius sequence discoverRoute : UInt8)
    (fcf : UInt16) :
    (routedFrame dst src radius sequence discoverRoute relays relayIndex payload).payloadBytes
      (headerBytes fcf dst src radius sequence (routedBytes relays relayIndex payload)) =
      payload := by
  simp only [NwkDataFrame.payloadBytes, routedFrame, slice_headerRest]
  rw [show routedBytes relays relayIndex payload =
    (relays.length.toUInt8 :: relayIndex :: relays.flatMap le16) ++ payload by simp [routedBytes]]
  apply slice_of_length _ rfl
  simp only [List.length_cons, length_words]
  omega

end Routed

end NiusZigbee.ZigbeeNwk
