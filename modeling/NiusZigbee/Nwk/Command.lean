import NiusZigbee.Nwk.DataFrame

/-!
# NWK command frames and their payloads

The command frame, the command payloads of route discovery, status, route record, leave, rejoin
and link status, and the NWK beacon payload.
-/

namespace NiusZigbee.ZigbeeNwk

open ByteCodec OutBuffer

/-! ## Command frames -/

structure NwkCommandFrame extends NwkFcf where
  valid : Bool := false
  dstShort : UInt16 := 0
  srcShort : UInt16 := 0
  radius : UInt8 := 0
  sequence : UInt8 := 0
  commandId : UInt8 := 0
  payload : Option Nat := none
  payloadLen : Nat := 0
deriving DecidableEq, Repr

def buildCommandFrame (outMax : UInt8) (dstShort srcShort : UInt16) (radius sequence : UInt8)
    (commandId : UInt8) (payload : List UInt8) (discoverRoute : UInt8) : Built :=
  if payload.length > (kMaxPayload - 1) % 256 then .fail
  else if outMax.toNat < kBaseHeaderLen + 1 + payload.length then .fail
  else if discoverRoute > 3 then .fail
  else
    { len := (kBaseHeaderLen + 1 + payload.length) % 256
      writes := emit 0 (le16 (baseFcf nwkFrameCommand discoverRoute)) ++ emit 2 (le16 dstShort) ++
        emit 4 (le16 srcShort) ++ emit 6 [radius] ++ emit 7 [sequence] ++ emit 8 [commandId] ++
        emit (kBaseHeaderLen + 1) payload }

def parseCommandFrame (npdu : List UInt8) : Option (Bool × NwkCommandFrame) :=
  if npdu.length < kBaseHeaderLen + 1 then some (false, {})
  else do
    let fcf := decodeFcf (← read16 npdu 0)
    if fcf.frameType ≠ nwkFrameCommand then return (false, {})
    else if fcf.multicast || fcf.security || fcf.sourceRoute || fcf.dstIeeePresent ||
        fcf.srcIeeePresent then
      return (false, {})
    else
      return (true,
        { toNwkFcf := fcf
          valid := true
          dstShort := ← read16 npdu 2
          srcShort := ← read16 npdu 4
          radius := ← read8 npdu 6
          sequence := ← read8 npdu 7
          commandId := ← read8 npdu 8
          payload := some (kBaseHeaderLen + 1)
          payloadLen := (npdu.length - kBaseHeaderLen - 1) % 256 })

def NwkCommandFrame.payloadBytes (frame : NwkCommandFrame) (npdu : List UInt8) : List UInt8 :=
  match frame.payload with
  | none => []
  | some off => slice npdu off frame.payloadLen

theorem buildCommandFrame_eq {outMax : UInt8} {payload : List UInt8} {discoverRoute : UInt8}
    (dst src : UInt16) (radius sequence commandId : UInt8)
    (hmax : kBaseHeaderLen + 1 + payload.length ≤ outMax.toNat)
    (hlen : payload.length ≤ kMaxPayload - 1) (hdr : discoverRoute ≤ 3) :
    buildCommandFrame outMax dst src radius sequence commandId payload discoverRoute =
      .exact (headerBytes (baseFcf nwkFrameCommand discoverRoute) dst src radius sequence
        (commandId :: payload)) := by
  have hdr' : ¬ discoverRoute > 3 := UInt8.not_lt.mpr hdr
  simp only [kMaxPayload, kMaxFrame, kBaseHeaderLen] at hlen
  rw [buildCommandFrame, if_neg (by simp [kMaxPayload, kMaxFrame, kBaseHeaderLen]; omega),
    if_neg (by omega), if_neg hdr', emit_header, emit_glue _ _ (by simp [kBaseHeaderLen]),
    emit_glue _ _ (by simp [kBaseHeaderLen])]
  simp only [Built.exact, headerBytes_length, List.length_cons, Built.mk.injEq]
  constructor
  · simp only [kBaseHeaderLen] at hmax ⊢
    omega
  · simp [headerBytes]

theorem parseCommandFrame_header {payload : List UInt8} {discoverRoute : UInt8}
    (dst src : UInt16) (radius sequence commandId : UInt8)
    (hlen : payload.length ≤ kMaxPayload - 1) (hdr : discoverRoute ≤ 3) :
    parseCommandFrame (headerBytes (baseFcf nwkFrameCommand discoverRoute) dst src radius sequence
        (commandId :: payload)) =
      some (true,
        { frameType := nwkFrameCommand, protocolVersion := kProtocolVersion
          discoverRoute := discoverRoute, valid := true, dstShort := dst, srcShort := src
          radius := radius, sequence := sequence, commandId := commandId
          payload := some (kBaseHeaderLen + 1), payloadLen := payload.length }) := by
  have h8 := getElem_headerRest (baseFcf nwkFrameCommand discoverRoute) dst src radius sequence
    (commandId :: payload) 0
  have hp : payload.length % 256 = payload.length := by
    simp only [kMaxPayload, kMaxFrame, kBaseHeaderLen] at hlen
    omega
  simp only [kBaseHeaderLen, Nat.add_zero] at h8
  simp [parseCommandFrame, decode_commandFcf hdr, h8, hp]

/-! ## Route Request -/

structure NwkRouteRequestCommand where
  valid : Bool := false
  manyToOne : Bool := false
  destinationIeeePresent : Bool := false
  multicast : Bool := false
  routeRequestId : UInt8 := 0
  destination : UInt16 := 0
  pathCost : UInt8 := 0
  destinationIeee : UInt64 := 0
deriving DecidableEq, Repr

def optionBit (set : Bool) (mask : UInt8) : UInt8 := if set then mask else 0

def buildRouteRequestPayload (outMax : UInt8) (routeRequestId : UInt8) (destination : UInt16)
    (pathCost : UInt8) (manyToOne : Bool) (destinationIeee : Option UInt64) (multicast : Bool) :
    Built :=
  let n := if destinationIeee.isSome then 13 else 5
  if outMax.toNat < n then .fail
  else
    let options := optionBit manyToOne 0x08 ||| optionBit destinationIeee.isSome 0x10 |||
      optionBit multicast 0x20
    { len := n
      writes := emit 0 [options] ++ emit 1 [routeRequestId] ++ emit 2 (le16 destination) ++
        emit 4 [pathCost] ++ emit 5 (destinationIeee.elim [] le64) }

def parseRouteRequestPayload (payload : List UInt8) : Option (Bool × NwkRouteRequestCommand) :=
  if payload.length < 5 then some (false, {})
  else do
    let options ← read8 payload 0
    let command : NwkRouteRequestCommand :=
      { valid := true
        manyToOne := (options &&& 0x08) != 0
        destinationIeeePresent := (options &&& 0x10) != 0
        multicast := (options &&& 0x20) != 0
        routeRequestId := ← read8 payload 1
        destination := ← read16 payload 2
        pathCost := ← read8 payload 4 }
    if command.destinationIeeePresent then
      -- `valid` is already set when the IEEE address turns out to be missing
      if payload.length < 13 then return (false, command)
      else return (true, { command with destinationIeee := ← read64 payload 5 })
    else return (true, command)

/-! ## Route Reply -/

structure NwkRouteReplyCommand where
  valid : Bool := false
  originatorIeeePresent : Bool := false
  responderIeeePresent : Bool := false
  multicast : Bool := false
  routeRequestId : UInt8 := 0
  originator : UInt16 := 0
  responder : UInt16 := 0
  pathCost : UInt8 := 0
  originatorIeee : UInt64 := 0
  responderIeee : UInt64 := 0
deriving DecidableEq, Repr

def buildRouteReplyPayload (outMax : UInt8) (routeRequestId : UInt8)
    (originator responder : UInt16) (pathCost : UInt8)
    (originatorIeee responderIeee : Option UInt64) (multicast : Bool) : Built :=
  let n := 7 + (if originatorIeee.isSome then 8 else 0) + (if responderIeee.isSome then 8 else 0)
  if outMax.toNat < n then .fail
  else
    let options := optionBit originatorIeee.isSome 0x10 ||| optionBit responderIeee.isSome 0x20 |||
      optionBit multicast 0x40
    let idx := 7 + (if originatorIeee.isSome then 8 else 0)
    { len := idx + (if responderIeee.isSome then 8 else 0)
      writes := emit 0 [options] ++ emit 1 [routeRequestId] ++ emit 2 (le16 originator) ++
        emit 4 (le16 responder) ++ emit 6 [pathCost] ++ emit 7 (originatorIeee.elim [] le64) ++
        emit idx (responderIeee.elim [] le64) }

def parseRouteReplyPayload (payload : List UInt8) : Option (Bool × NwkRouteReplyCommand) :=
  if payload.length < 7 then some (false, {})
  else do
    let options ← read8 payload 0
    let command : NwkRouteReplyCommand :=
      { valid := true
        originatorIeeePresent := (options &&& 0x10) != 0
        responderIeeePresent := (options &&& 0x20) != 0
        multicast := (options &&& 0x40) != 0
        routeRequestId := ← read8 payload 1
        originator := ← read16 payload 2
        responder := ← read16 payload 4
        pathCost := ← read8 payload 6 }
    if command.originatorIeeePresent && payload.length < 7 + 8 then return (false, command)
    else
      let originatorIeee ← if command.originatorIeeePresent then read64 payload 7 else some 0
      let command := { command with originatorIeee := originatorIeee }
      let idx := if command.originatorIeeePresent then 7 + 8 else 7
      if command.responderIeeePresent then
        if payload.length < idx + 8 then return (false, command)
        else return (true, { command with responderIeee := ← read64 payload idx })
      else return (true, command)

/-! ## Network Status -/

structure NwkNetworkStatusCommand where
  valid : Bool := false
  status : UInt8 := 0
  destination : UInt16 := 0
deriving DecidableEq, Repr

def buildNetworkStatusPayload (outMax : UInt8) (status : UInt8) (destination : UInt16) : Built :=
  if outMax < 3 then .fail
  else { len := 3, writes := emit 0 [status] ++ emit 1 (le16 destination) }

def parseNetworkStatusPayload (payload : List UInt8) : Option (Bool × NwkNetworkStatusCommand) :=
  if payload.length < 3 then some (false, {})
  else do
    return (true, { valid := true, status := ← read8 payload 0, destination := ← read16 payload 1 })

/-! ## Route Record -/

structure NwkRouteRecordCommand where
  valid : Bool := false
  relayCount : UInt8 := 0
  relayList : Option Nat := none
deriving DecidableEq, Repr

def buildRouteRecordPayload (outMax : UInt8) (relays : List UInt16) : Built :=
  if outMax.toNat < (1 + relays.length * 2) % 256 then .fail
  else
    { len := (1 + relays.length * 2) % 256
      writes := emit 0 [relays.length.toUInt8] ++
        relays.zipIdx.flatMap (fun p => emit (1 + p.2 * 2) (le16 p.1)) }

def parseRouteRecordPayload (payload : List UInt8) : Option (Bool × NwkRouteRecordCommand) :=
  if payload.length < 1 then some (false, {})
  else do
    let relayCount ← read8 payload 0
    if payload.length < (1 + relayCount.toNat * 2) % 256 then
      return (false, { relayCount := relayCount })
    else return (true, { valid := true, relayCount := relayCount, relayList := some 1 })

/-- The relay at `index`; the inner `none` is `return false`. -/
def getRouteRecordRelay (payload : List UInt8) (command : NwkRouteRecordCommand) (index : UInt8) :
    Option (Option UInt16) :=
  match command.relayList with
  | none => some none
  | some list =>
    if !command.valid || index ≥ command.relayCount then some none
    else (read16 payload (list + index.toNat * 2)).map some

/-! ## Leave and rejoin -/

structure NwkLeaveCommand where
  valid : Bool := false
  rejoin : Bool := false
  request : Bool := false
  removeChildren : Bool := false
deriving DecidableEq, Repr

def buildLeavePayload (outMax : UInt8) (rejoin request removeChildren : Bool) : Built :=
  if outMax < 1 then .fail
  else
    -- the source ors the three bits into `out[0]` one after the other
    { len := 1
      writes := emit 0 [optionBit rejoin 0x20 ||| optionBit request 0x40 |||
        optionBit removeChildren 0x80] }

def parseLeavePayload (payload : List UInt8) : Option (Bool × NwkLeaveCommand) :=
  if payload.length < 1 then some (false, {})
  else do
    let options ← read8 payload 0
    return (true,
      { valid := true
        rejoin := (options &&& 0x20) != 0
        request := (options &&& 0x40) != 0
        removeChildren := (options &&& 0x80) != 0 })

structure NwkRejoinRequestCommand where
  valid : Bool := false
  capability : UInt8 := 0
deriving DecidableEq, Repr

def buildRejoinRequestPayload (outMax : UInt8) (capability : UInt8) : Built :=
  if outMax < 1 then .fail else { len := 1, writes := emit 0 [capability] }

def parseRejoinRequestPayload (payload : List UInt8) : Option (Bool × NwkRejoinRequestCommand) :=
  if payload.length < 1 then some (false, {})
  else do return (true, { valid := true, capability := ← read8 payload 0 })

structure NwkRejoinResponseCommand where
  valid : Bool := false
  nwkAddress : UInt16 := 0
  status : UInt8 := 0
deriving DecidableEq, Repr

def buildRejoinResponsePayload (outMax : UInt8) (nwkAddress : UInt16) (status : UInt8) : Built :=
  if outMax < 3 then .fail
  else { len := 3, writes := emit 0 (le16 nwkAddress) ++ emit 2 [status] }

def parseRejoinResponsePayload (payload : List UInt8) : Option (Bool × NwkRejoinResponseCommand) :=
  if payload.length < 3 then some (false, {})
  else do
    return (true, { valid := true, nwkAddress := ← read16 payload 0, status := ← read8 payload 2 })

/-! ## Link Status -/

structure NwkLinkStatusEntry where
  address : UInt16 := 0
  incomingCost : UInt8 := 0
  outgoingCost : UInt8 := 0
deriving DecidableEq, Repr

structure NwkLinkStatusCommand where
  valid : Bool := false
  firstFrame : Bool := false
  lastFrame : Bool := false
  entryCount : UInt8 := 0
  entries : Option Nat := none
deriving DecidableEq, Repr

def costByte (entry : NwkLinkStatusEntry) : UInt8 :=
  (entry.incomingCost &&& (0x07 : UInt8)) ||| ((entry.outgoingCost &&& 0x07) <<< 4)

def linkStatusOptions (entryCount : Nat) (firstFrame lastFrame : Bool) : UInt8 :=
  (entryCount.toUInt8 &&& 0x1F) ||| optionBit firstFrame 0x20 ||| optionBit lastFrame 0x40

def buildLinkStatusPayload (outMax : UInt8) (entries : List NwkLinkStatusEntry)
    (firstFrame lastFrame : Bool) : Built :=
  if entries.length > 31 then .fail
  else
    let needed := (1 + 3 * entries.length) % 256
    if outMax.toNat < needed then .fail
    else
      { len := needed
        writes := emit 0 [linkStatusOptions entries.length firstFrame lastFrame] ++
          entries.zipIdx.flatMap (fun p =>
            emit (1 + 3 * p.2) (le16 p.1.address) ++ emit (3 + 3 * p.2) [costByte p.1]) }

def parseLinkStatusPayload (payload : List UInt8) : Option (Bool × NwkLinkStatusCommand) :=
  if payload.length < 1 then some (false, {})
  else do
    let first ← read8 payload 0
    let count := first &&& 0x1F
    if payload.length < 1 + 3 * count.toNat then return (false, {})
    else
      return (true,
        { valid := true
          firstFrame := (first &&& 0x20) != 0
          lastFrame := (first &&& 0x40) != 0
          entryCount := count
          entries := some 1 })

/-- The entry at `index`; the inner `none` is `return false`. -/
def getLinkStatusEntry (payload : List UInt8) (command : NwkLinkStatusCommand) (index : UInt8) :
    Option (Option NwkLinkStatusEntry) :=
  match command.entries with
  | none => some none
  | some p =>
    if !command.valid || index ≥ command.entryCount then some none
    else do
      let address ← read16 payload (p + 3 * index.toNat)
      let costs ← read8 payload (p + 3 * index.toNat + 2)
      return some
        { address := address
          incomingCost := costs &&& 0x07
          outgoingCost := (costs >>> 4) &&& 0x07 }

/-! ## Beacon payload -/

structure NwkBeaconPayload where
  valid : Bool := false
  protocolId : UInt8 := 0
  stackProfile : UInt8 := 0
  protocolVersion : UInt8 := 0
  routerCapacity : Bool := false
  deviceDepth : UInt8 := 0
  endDeviceCapacity : Bool := false
  extendedPanId : UInt64 := 0
  txOffset : UInt32 := 0
  updateId : UInt8 := 0
deriving DecidableEq, Repr

def kBeaconPayloadLen : Nat := 15
def kProtocolIdZigbee : UInt8 := 0x00
def kStackProfilePro : UInt8 := 0x02
def kBeaconlessTxOffset : UInt32 := 0xFFFFFF

def beaconProfile (stackProfile : UInt8) : UInt8 :=
  (stackProfile &&& (0x0F : UInt8)) ||| ((kProtocolVersion &&& 0x0F) <<< 4)

def beaconCapacity (routerCapacity : Bool) (deviceDepth : UInt8) (endDeviceCapacity : Bool) :
    UInt8 :=
  (optionBit routerCapacity 1 <<< 2) ||| ((deviceDepth &&& 0x0F) <<< 3) |||
    (optionBit endDeviceCapacity 1 <<< 7)

def buildBeaconPayload (outMax : UInt8) (extendedPanId : UInt64) (deviceDepth : UInt8)
    (routerCapacity endDeviceCapacity : Bool) (updateId stackProfile : UInt8) : Built :=
  if outMax.toNat < kBeaconPayloadLen then .fail
  else
    { len := kBeaconPayloadLen
      writes := emit 0 [kProtocolIdZigbee] ++
        emit 1 [beaconProfile stackProfile] ++
        emit 2 [beaconCapacity routerCapacity deviceDepth endDeviceCapacity] ++
        emit 3 (le64 extendedPanId) ++
        emit 11 [(kBeaconlessTxOffset &&& 0xFF).toUInt8] ++
        emit 12 [((kBeaconlessTxOffset >>> 8) &&& 0xFF).toUInt8] ++
        emit 13 [((kBeaconlessTxOffset >>> 16) &&& 0xFF).toUInt8] ++
        emit 14 [updateId] }

def parseBeaconPayload (payload : List UInt8) : Option (Bool × NwkBeaconPayload) :=
  if payload.length < kBeaconPayloadLen then some (false, {})
  else do
    let protocolId ← read8 payload 0
    if protocolId ≠ kProtocolIdZigbee then return (false, {})
    else
      let p1 ← read8 payload 1
      let p2 ← read8 payload 2
      let t0 ← read8 payload 11
      let t1 ← read8 payload 12
      let t2 ← read8 payload 13
      return (true,
        { valid := true
          protocolId := protocolId
          stackProfile := p1 &&& 0x0F
          protocolVersion := (p1 >>> 4) &&& 0x0F
          routerCapacity := (p2 &&& ((1 : UInt8) <<< 2)) != 0
          deviceDepth := (p2 >>> 3) &&& 0x0F
          endDeviceCapacity := (p2 &&& ((1 : UInt8) <<< 7)) != 0
          extendedPanId := ← read64 payload 3
          txOffset := t0.toUInt32 ||| (t1.toUInt32 <<< 8) ||| (t2.toUInt32 <<< 16)
          updateId := ← read8 payload 14 })

end NiusZigbee.ZigbeeNwk
