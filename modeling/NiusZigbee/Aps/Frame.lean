import NiusZigbee.Library.OutBuffer

/-!
# APS frames

`ZigbeeAps` builds unicast data frames, and parses data frames and acknowledgements. A rejected data
frame keeps the fields its parser had set by then.
-/

namespace NiusZigbee.ZigbeeAps

open ByteCodec OutBuffer

def apsFrameData : UInt8 := 0
def apsFrameAck : UInt8 := 2

def apsDeliveryUnicast : UInt8 := 0
def apsDeliveryGroup : UInt8 := 3

def kBaseHeaderLen : Nat := 8
def kGroupHeaderLen : Nat := 9
def kMaxFrame : Nat := 108
def kMaxPayload : Nat := kMaxFrame - kBaseHeaderLen
def kProfileZigbeeDevice : UInt16 := 0x0000

structure ApsDataFrame where
  valid : Bool := false
  frameType : UInt8 := 0
  deliveryMode : UInt8 := 0
  ackRequest : Bool := false
  security : Bool := false
  extendedHeader : Bool := false
  firstBlock : Bool := false
  blockNumber : UInt8 := 0
  dstEndpoint : UInt8 := 0
  groupAddress : UInt16 := 0
  clusterId : UInt16 := 0
  profileId : UInt16 := 0
  srcEndpoint : UInt8 := 0
  counter : UInt8 := 0
  payload : Option Nat := none
  payloadLen : Nat := 0
deriving DecidableEq, Repr

structure ApsAckFrame where
  valid : Bool := false
  dstEndpoint : UInt8 := 0
  clusterId : UInt16 := 0
  profileId : UInt16 := 0
  srcEndpoint : UInt8 := 0
  counter : UInt8 := 0
deriving DecidableEq, Repr

def dataFcf (deliveryMode : UInt8) (ackRequest : Bool) : UInt8 :=
  apsFrameData ||| (deliveryMode <<< 2) ||| (if ackRequest then (1 : UInt8) <<< 6 else 0)

def buildDataFrame (outMax : UInt8) (dstEndpoint : UInt8) (clusterId profileId : UInt16)
    (srcEndpoint counter : UInt8) (payload : List UInt8) (ackRequest : Bool) : Built :=
  if payload.length > kMaxPayload then .fail
  else if outMax.toNat < kBaseHeaderLen + payload.length then .fail
  else
    { len := (kBaseHeaderLen + payload.length) % 256
      writes := emit 0 [dataFcf apsDeliveryUnicast ackRequest] ++ emit 1 [dstEndpoint] ++
        emit 2 (le16 clusterId) ++ emit 4 (le16 profileId) ++ emit 6 [srcEndpoint] ++
        emit 7 [counter] ++ emit kBaseHeaderLen payload }

def buildGroupDataFrame (outMax : UInt8) (groupAddress clusterId profileId : UInt16)
    (srcEndpoint counter : UInt8) (payload : List UInt8) (ackRequest : Bool) : Built :=
  if payload.length > kMaxFrame - kGroupHeaderLen then .fail
  else if outMax.toNat < (kGroupHeaderLen + payload.length) % 256 then .fail
  else
    { len := (kGroupHeaderLen + payload.length) % 256
      writes := emit 0 [dataFcf apsDeliveryGroup ackRequest] ++ emit 1 (le16 groupAddress) ++
        emit 3 (le16 clusterId) ++ emit 5 (le16 profileId) ++ emit 7 [srcEndpoint] ++
        emit 8 [counter] ++ emit kGroupHeaderLen payload }

def buildAckFrame (outMax ackDstEndpoint : UInt8) (clusterId profileId : UInt16)
    (ackSrcEndpoint counter : UInt8) : Built :=
  if outMax.toNat < kBaseHeaderLen then .fail
  else
    { len := kBaseHeaderLen
      writes := emit 0 [apsFrameAck ||| (apsDeliveryUnicast <<< 2)] ++ emit 1 [ackDstEndpoint] ++
        emit 2 (le16 clusterId) ++ emit 4 (le16 profileId) ++ emit 6 [ackSrcEndpoint] ++
        emit 7 [counter] }

def frameType (apdu : List UInt8) : Option UInt8 :=
  if apdu.length < 1 then some 0xFF else (read8 apdu 0).map (· &&& 0x03)

def parseAckFrame (apdu : List UInt8) : Option (Bool × ApsAckFrame) :=
  if apdu.length < kBaseHeaderLen then some (false, {})
  else do
    let fcf ← read8 apdu 0
    if fcf &&& 0x03 ≠ apsFrameAck then return (false, {})
    else
      return (true,
        { valid := true
          dstEndpoint := ← read8 apdu 1
          clusterId := ← read16 apdu 2
          profileId := ← read16 apdu 4
          srcEndpoint := ← read8 apdu 6
          counter := ← read8 apdu 7 })

/-- The extended header, if there is one, and the payload behind it. -/
def parseExtension (apdu : List UInt8) (frame : ApsDataFrame) (hdr : Nat) :
    Option (Bool × ApsDataFrame) :=
  if frame.extendedHeader then
    if hdr + 2 > apdu.length then some (false, frame)
    else do
      let extFcf ← read8 apdu hdr
      return (true,
        { frame with
          firstBlock := extFcf &&& 0x03 = 0x01
          blockNumber := ← read8 apdu (hdr + 1)
          payload := some (hdr + 2)
          payloadLen := (apdu.length - (hdr + 2)) % 256 })
  else
    some (true, { frame with payload := some hdr, payloadLen := (apdu.length - hdr) % 256 })

def parseGroup (apdu : List UInt8) (frame : ApsDataFrame) : Option (Bool × ApsDataFrame) :=
  if apdu.length < kGroupHeaderLen then some (false, frame)
  else do
    parseExtension apdu
      { frame with
        groupAddress := ← read16 apdu 1
        clusterId := ← read16 apdu 3
        profileId := ← read16 apdu 5
        srcEndpoint := ← read8 apdu 7
        counter := ← read8 apdu 8 } kGroupHeaderLen

def parseUnicast (apdu : List UInt8) (frame : ApsDataFrame) : Option (Bool × ApsDataFrame) := do
  parseExtension apdu
    { frame with
      dstEndpoint := ← read8 apdu 1
      clusterId := ← read16 apdu 2
      profileId := ← read16 apdu 4
      srcEndpoint := ← read8 apdu 6
      counter := ← read8 apdu 7 } kBaseHeaderLen

def parseDataFrame (apdu : List UInt8) : Option (Bool × ApsDataFrame) :=
  if apdu.length < kBaseHeaderLen then some (false, {})
  else do
    let fcf ← read8 apdu 0
    let frameType := fcf &&& 0x03
    let deliveryMode := (fcf >>> (2 : UInt8)) &&& 0x03
    let security := (fcf &&& ((1 : UInt8) <<< 5)) != 0
    let frame : ApsDataFrame :=
      { valid := true
        frameType := frameType
        deliveryMode := deliveryMode
        ackRequest := (fcf &&& ((1 : UInt8) <<< 6)) != 0
        security := security
        extendedHeader := (fcf &&& ((1 : UInt8) <<< 7)) != 0 }
    if frameType ≠ apsFrameData then return (false, {})
    else if security then return (false, {})
    else if deliveryMode = apsDeliveryGroup then parseGroup apdu frame
    else if deliveryMode = apsDeliveryUnicast then parseUnicast apdu frame
    else return (false, {})

def ApsDataFrame.payloadBytes (frame : ApsDataFrame) (apdu : List UInt8) : List UInt8 :=
  match frame.payload with
  | none => []
  | some off => slice apdu off frame.payloadLen

/-! ## What is built is parsed -/

/-- The bytes of a unicast data frame. -/
def dataBytes (dstEndpoint : UInt8) (clusterId profileId : UInt16) (srcEndpoint counter : UInt8)
    (ackRequest : Bool) (payload : List UInt8) : List UInt8 :=
  [dataFcf apsDeliveryUnicast ackRequest] ++ [dstEndpoint] ++ le16 clusterId ++ le16 profileId ++
    [srcEndpoint] ++ [counter] ++ payload

section Unicast

variable {dstEndpoint srcEndpoint counter : UInt8} {clusterId profileId : UInt16}
  {ackRequest : Bool} {payload : List UInt8}

theorem buildDataFrame_bytes {outMax : UInt8}
    (h : (buildDataFrame outMax dstEndpoint clusterId profileId srcEndpoint counter payload
      ackRequest).len ≠ 0) :
    payload.length ≤ kMaxPayload ∧
    buildDataFrame outMax dstEndpoint clusterId profileId srcEndpoint counter payload ackRequest =
      .exact (dataBytes dstEndpoint clusterId profileId srcEndpoint counter ackRequest
        payload) := by
  simp only [buildDataFrame] at h ⊢
  split at h
  · simp at h
  next hlen =>
  split at h
  · simp at h
  next hmax =>
  rw [if_neg hlen, if_neg hmax]
  refine ⟨by omega, ?_⟩
  rw [emit_glue _ _ (by rfl), emit_glue _ _ (by rfl), emit_glue _ _ (by rfl),
    emit_glue _ _ (by rfl), emit_glue _ _ (by rfl), emit_glue _ _ (by rfl)]
  simp only [Built.exact, dataBytes, List.length_append, le16_length, List.length_singleton,
    Built.mk.injEq, and_true]
  simp only [kMaxPayload, kMaxFrame, kBaseHeaderLen] at hlen ⊢
  omega

theorem dataBytes_length :
    (dataBytes dstEndpoint clusterId profileId srcEndpoint counter ackRequest payload).length =
      kBaseHeaderLen + payload.length := by
  simp [dataBytes, kBaseHeaderLen]
  omega

theorem parseDataFrame_bytes (hlen : payload.length ≤ kMaxPayload) :
    parseDataFrame (dataBytes dstEndpoint clusterId profileId srcEndpoint counter ackRequest
        payload) =
      some (true,
        { valid := true, ackRequest := ackRequest, dstEndpoint := dstEndpoint
          clusterId := clusterId, profileId := profileId, srcEndpoint := srcEndpoint
          counter := counter, payload := some kBaseHeaderLen, payloadLen := payload.length }) := by
  have h0 : (dataBytes dstEndpoint clusterId profileId srcEndpoint counter ackRequest
      payload)[0]? = some (dataFcf apsDeliveryUnicast ackRequest) := rfl
  have h1 : (dataBytes dstEndpoint clusterId profileId srcEndpoint counter ackRequest
      payload)[1]? = some dstEndpoint := rfl
  have h2 : read16 (dataBytes dstEndpoint clusterId profileId srcEndpoint counter ackRequest
      payload) 2 = some clusterId := by simp [dataBytes, le16, read16]
  have h4 : read16 (dataBytes dstEndpoint clusterId profileId srcEndpoint counter ackRequest
      payload) 4 = some profileId := by simp [dataBytes, le16, read16]
  have h6 : (dataBytes dstEndpoint clusterId profileId srcEndpoint counter ackRequest
      payload)[6]? = some srcEndpoint := rfl
  have h7 : (dataBytes dstEndpoint clusterId profileId srcEndpoint counter ackRequest
      payload)[7]? = some counter := rfl
  have hshort : ¬ kBaseHeaderLen + payload.length < kBaseHeaderLen := by omega
  have hp : payload.length % 256 = payload.length := by
    simp only [kMaxPayload, kMaxFrame, kBaseHeaderLen] at hlen
    omega
  simp only [parseDataFrame, parseUnicast, parseExtension, dataBytes_length, if_neg hshort,
    read8_eq, h0, h1, h2, h4, h6, h7, Option.bind_eq_bind, Option.bind_some,
    Nat.add_sub_cancel_left, hp]
  cases ackRequest <;> rfl

theorem payloadBytes_data :
    slice (dataBytes dstEndpoint clusterId profileId srcEndpoint counter ackRequest payload)
      kBaseHeaderLen payload.length = payload := slice_of_length rfl rfl

theorem frameType_data :
    frameType (dataBytes dstEndpoint clusterId profileId srcEndpoint counter ackRequest payload) =
      some apsFrameData := by
  have h0 : (dataBytes dstEndpoint clusterId profileId srcEndpoint counter ackRequest
      payload)[0]? = some (dataFcf apsDeliveryUnicast ackRequest) := rfl
  rw [frameType, if_neg (by rw [dataBytes_length, kBaseHeaderLen]; omega), read8_eq, h0]
  cases ackRequest <;> rfl

end Unicast

section Group

variable {groupAddress clusterId profileId : UInt16} {srcEndpoint counter : UInt8}
  {ackRequest : Bool} {payload : List UInt8}

/-- The bytes of a group data frame. -/
def groupBytes (groupAddress clusterId profileId : UInt16) (srcEndpoint counter : UInt8)
    (ackRequest : Bool) (payload : List UInt8) : List UInt8 :=
  [dataFcf apsDeliveryGroup ackRequest] ++ le16 groupAddress ++ le16 clusterId ++ le16 profileId ++
    [srcEndpoint] ++ [counter] ++ payload

theorem buildGroupDataFrame_bytes {outMax : UInt8}
    (h : (buildGroupDataFrame outMax groupAddress clusterId profileId srcEndpoint counter payload
      ackRequest).len ≠ 0) :
    payload.length ≤ kMaxFrame - kGroupHeaderLen ∧
    buildGroupDataFrame outMax groupAddress clusterId profileId srcEndpoint counter payload
      ackRequest =
      .exact (groupBytes groupAddress clusterId profileId srcEndpoint counter ackRequest
        payload) := by
  simp only [buildGroupDataFrame] at h ⊢
  split at h
  · simp at h
  next hlen =>
  split at h
  · simp at h
  next hmax =>
  rw [if_neg hlen, if_neg hmax]
  refine ⟨by omega, ?_⟩
  rw [emit_glue _ _ (by rfl), emit_glue _ _ (by rfl), emit_glue _ _ (by rfl),
    emit_glue _ _ (by rfl), emit_glue _ _ (by rfl), emit_glue _ _ (by rfl)]
  simp only [Built.exact, groupBytes, List.length_append, le16_length, List.length_singleton,
    Built.mk.injEq, and_true]
  simp only [kMaxFrame, kGroupHeaderLen] at hlen ⊢
  omega

end Group

section Ack

variable {dstEndpoint srcEndpoint counter : UInt8} {clusterId profileId : UInt16}

/-- The bytes of an acknowledgement. -/
def ackBytes (dstEndpoint : UInt8) (clusterId profileId : UInt16) (srcEndpoint counter : UInt8) :
    List UInt8 :=
  [apsFrameAck ||| (apsDeliveryUnicast <<< 2)] ++ [dstEndpoint] ++ le16 clusterId ++
    le16 profileId ++ [srcEndpoint] ++ [counter]

theorem buildAckFrame_bytes {outMax : UInt8} (h : kBaseHeaderLen ≤ outMax.toNat) :
    buildAckFrame outMax dstEndpoint clusterId profileId srcEndpoint counter =
      .exact (ackBytes dstEndpoint clusterId profileId srcEndpoint counter) := by
  rw [buildAckFrame, if_neg (by omega)]
  rw [emit_glue _ _ (by rfl), emit_glue _ _ (by rfl), emit_glue _ _ (by rfl),
    emit_glue _ _ (by rfl), emit_glue _ _ (by rfl)]
  rfl

theorem parseAckFrame_bytes :
    parseAckFrame (ackBytes dstEndpoint clusterId profileId srcEndpoint counter) =
      some (true,
        { valid := true, dstEndpoint := dstEndpoint, clusterId := clusterId
          profileId := profileId, srcEndpoint := srcEndpoint, counter := counter }) := by
  have h2 : read16 (ackBytes dstEndpoint clusterId profileId srcEndpoint counter) 2 =
      some clusterId := by simp [ackBytes, le16, read16]
  have h4 : read16 (ackBytes dstEndpoint clusterId profileId srcEndpoint counter) 4 =
      some profileId := by simp [ackBytes, le16, read16]
  have hlen : ¬ (ackBytes dstEndpoint clusterId profileId srcEndpoint counter).length <
      kBaseHeaderLen := Nat.lt_irrefl 8
  simp only [parseAckFrame, if_neg hlen, read8_eq, h2, h4]
  rfl

end Ack

/-! ## The parsers read inside the APDU -/

section Reads

variable (apdu : List UInt8)

theorem frameType_isSome : ∃ t, frameType apdu = some t := by
  by_cases hlen : apdu.length < 1
  · exact ⟨_, by rw [frameType, if_pos hlen]⟩
  · obtain ⟨fcf, h0⟩ := getElem?_isSome (by omega : 0 < apdu.length)
    exact ⟨_, by rw [frameType, if_neg hlen, read8_eq, h0]; rfl⟩

theorem parseAckFrame_isSome : ∃ r, parseAckFrame apdu = some r := by
  by_cases hlen : apdu.length < kBaseHeaderLen
  · exact ⟨_, by rw [parseAckFrame, if_pos hlen]⟩
  have hlen' : 8 ≤ apdu.length := Nat.not_lt.mp hlen
  obtain ⟨fcf, h0⟩ := getElem?_isSome (by omega : 0 < apdu.length)
  obtain ⟨dst, h1⟩ := getElem?_isSome (by omega : 1 < apdu.length)
  obtain ⟨cluster, h2⟩ := read16_isSome (by omega : 2 + 1 < apdu.length)
  obtain ⟨profile, h4⟩ := read16_isSome (by omega : 4 + 1 < apdu.length)
  obtain ⟨src, h6⟩ := getElem?_isSome (by omega : 6 < apdu.length)
  obtain ⟨counter, h7⟩ := getElem?_isSome (by omega : 7 < apdu.length)
  simp only [parseAckFrame, if_neg hlen, read8_eq, h0, h1, h2, h4, h6, h7, Option.bind_eq_bind,
    Option.bind_some]
  split <;> exact ⟨_, rfl⟩

theorem parseExtension_isSome (frame : ApsDataFrame) (hdr : Nat) :
    ∃ r, parseExtension apdu frame hdr = some r := by
  simp only [parseExtension]
  split
  · split
    · exact ⟨_, rfl⟩
    · next hlen =>
      obtain ⟨extFcf, hext⟩ := getElem?_isSome (by omega : hdr < apdu.length)
      obtain ⟨block, hblock⟩ := getElem?_isSome (by omega : hdr + 1 < apdu.length)
      simp [hext, hblock]
  · exact ⟨_, rfl⟩

theorem parseGroup_isSome (frame : ApsDataFrame) : ∃ r, parseGroup apdu frame = some r := by
  by_cases hlen : apdu.length < kGroupHeaderLen
  · exact ⟨_, by rw [parseGroup, if_pos hlen]⟩
  have hlen' : 9 ≤ apdu.length := Nat.not_lt.mp hlen
  obtain ⟨group, h1⟩ := read16_isSome (by omega : 1 + 1 < apdu.length)
  obtain ⟨cluster, h3⟩ := read16_isSome (by omega : 3 + 1 < apdu.length)
  obtain ⟨profile, h5⟩ := read16_isSome (by omega : 5 + 1 < apdu.length)
  obtain ⟨src, h7⟩ := getElem?_isSome (by omega : 7 < apdu.length)
  obtain ⟨counter, h8⟩ := getElem?_isSome (by omega : 8 < apdu.length)
  simp only [parseGroup, if_neg hlen, read8_eq, h1, h3, h5, h7, h8, Option.bind_eq_bind,
    Option.bind_some]
  exact parseExtension_isSome apdu _ _

theorem parseUnicast_isSome (hlen : kBaseHeaderLen ≤ apdu.length) (frame : ApsDataFrame) :
    ∃ r, parseUnicast apdu frame = some r := by
  have hlen' : 8 ≤ apdu.length := hlen
  obtain ⟨dst, h1⟩ := getElem?_isSome (by omega : 1 < apdu.length)
  obtain ⟨cluster, h2⟩ := read16_isSome (by omega : 2 + 1 < apdu.length)
  obtain ⟨profile, h4⟩ := read16_isSome (by omega : 4 + 1 < apdu.length)
  obtain ⟨src, h6⟩ := getElem?_isSome (by omega : 6 < apdu.length)
  obtain ⟨counter, h7⟩ := getElem?_isSome (by omega : 7 < apdu.length)
  simp only [parseUnicast, read8_eq, h1, h2, h4, h6, h7, Option.bind_eq_bind, Option.bind_some]
  exact parseExtension_isSome apdu _ _

theorem parseDataFrame_isSome : ∃ r, parseDataFrame apdu = some r := by
  by_cases hlen : apdu.length < kBaseHeaderLen
  · exact ⟨_, by rw [parseDataFrame, if_pos hlen]⟩
  have hlen' := Nat.not_lt.mp hlen
  obtain ⟨fcf, h0⟩ := getElem?_isSome (Nat.lt_of_lt_of_le (by decide : 0 < kBaseHeaderLen) hlen')
  simp only [parseDataFrame, if_neg hlen, read8_eq, h0, Option.bind_eq_bind, Option.bind_some]
  split
  · exact ⟨_, rfl⟩
  split
  · exact ⟨_, rfl⟩
  split
  · exact parseGroup_isSome apdu _
  split
  · exact parseUnicast_isSome apdu hlen' _
  · exact ⟨_, rfl⟩

end Reads

end NiusZigbee.ZigbeeAps
