import NiusZigbee.Library.OutBuffer

/-!
# ZDO payloads

`ZigbeeZdo` builds and parses the payloads of device, descriptor, binding and management requests.
Lists stay in the payload: a parsed list is a pointer and a count from the peer. Most sizes are
computed in `uint8_t`, and two builders run a `uint8_t` index over their lists.
-/

namespace NiusZigbee.ZigbeeZdo

open ByteCodec OutBuffer

def zdoStatusSuccess : UInt8 := 0x00
def zdoStatusNoDescriptor : UInt8 := 0x89

structure ZdoAddressRequest where
  sequence : UInt8 := 0
  ieeeAddress : UInt64 := 0
  nwkAddress : UInt16 := 0
  requestType : UInt8 := 0
  startIndex : UInt8 := 0
deriving DecidableEq, Repr

structure ZdoAddressResponse where
  sequence : UInt8 := 0
  status : UInt8 := 0
  ieeeAddress : UInt64 := 0
  nwkAddress : UInt16 := 0
  associatedDeviceCount : UInt8 := 0
  startIndex : UInt8 := 0
  associatedDevices : Option Nat := none
deriving DecidableEq, Repr

structure ZdoActiveEndpointRequest where
  sequence : UInt8 := 0
  nwkAddress : UInt16 := 0
deriving DecidableEq, Repr

/-- The active-endpoint and the match-descriptor response. -/
structure ZdoEndpointListResponse where
  sequence : UInt8 := 0
  status : UInt8 := 0
  nwkAddress : UInt16 := 0
  endpointCount : UInt8 := 0
  endpoints : Option Nat := none
deriving DecidableEq, Repr

/-- The two cluster lists of a descriptor or a match request, as a parser leaves them. -/
structure ClusterLists where
  inputClusterCount : UInt8 := 0
  inputClusters : Option Nat := none
  outputClusterCount : UInt8 := 0
  outputClusters : Option Nat := none
deriving DecidableEq, Repr

/-- A descriptor to be sent, with its clusters. -/
structure ZdoSimpleDescriptor where
  endpoint : UInt8
  profileId : UInt16
  deviceId : UInt16
  deviceVersion : UInt8
  inputClusters : List UInt16
  outputClusters : List UInt16
deriving DecidableEq, Repr

/-- A descriptor that was received, pointing into the payload. -/
structure ZdoReceivedDescriptor extends ClusterLists where
  endpoint : UInt8 := 0
  profileId : UInt16 := 0
  deviceId : UInt16 := 0
  deviceVersion : UInt8 := 0
deriving DecidableEq, Repr

structure ZdoSimpleDescriptorRequest where
  sequence : UInt8 := 0
  nwkAddress : UInt16 := 0
  endpoint : UInt8 := 0
deriving DecidableEq, Repr

structure ZdoSimpleDescriptorResponse where
  sequence : UInt8 := 0
  status : UInt8 := 0
  nwkAddress : UInt16 := 0
  descriptor : ZdoReceivedDescriptor := {}
deriving DecidableEq, Repr

structure ZdoMatchDescriptorRequest extends ClusterLists where
  sequence : UInt8 := 0
  nwkAddress : UInt16 := 0
  profileId : UInt16 := 0
deriving DecidableEq, Repr

structure ZdoDeviceAnnounce where
  sequence : UInt8 := 0
  nwkAddress : UInt16 := 0
  ieeeAddress : UInt64 := 0
  capability : UInt8 := 0
deriving DecidableEq, Repr

structure ZdoMgmtRequest where
  sequence : UInt8 := 0
  startIndex : UInt8 := 0
deriving DecidableEq, Repr

structure ZdoBindRequest where
  sequence : UInt8 := 0
  srcAddress : UInt64 := 0
  srcEndpoint : UInt8 := 0
  clusterId : UInt16 := 0
  dstAddrMode : UInt8 := 0
  dstGroup : UInt16 := 0
  dstAddress : UInt64 := 0
  dstEndpoint : UInt8 := 0
deriving DecidableEq, Repr

structure ZdoBindResponse where
  sequence : UInt8 := 0
  status : UInt8 := 0
deriving DecidableEq, Repr

structure ZdoNeighborListEntry where
  extendedPanId : UInt64 := 0
  extendedAddress : UInt64 := 0
  nwkAddress : UInt16 := 0
  deviceType : UInt8 := 0
  rxOnWhenIdle : UInt8 := 0
  relationship : UInt8 := 0
  permitJoining : UInt8 := 0
  depth : UInt8 := 0
  lqi : UInt8 := 0
deriving DecidableEq, Repr

structure ZdoMgmtLqiResponse where
  sequence : UInt8 := 0
  status : UInt8 := 0
  neighborTableEntries : UInt8 := 0
  startIndex : UInt8 := 0
  listCount : UInt8 := 0
  list : Option Nat := none
deriving DecidableEq, Repr

structure ZdoRoutingListEntry where
  destinationAddress : UInt16 := 0
  status : UInt8 := 0
  memoryConstrained : Bool := false
  manyToOne : Bool := false
  routeRecordRequired : Bool := false
  nextHopAddress : UInt16 := 0
deriving DecidableEq, Repr

structure ZdoMgmtRtgResponse where
  sequence : UInt8 := 0
  status : UInt8 := 0
  routingTableEntries : UInt8 := 0
  startIndex : UInt8 := 0
  listCount : UInt8 := 0
  list : Option Nat := none
deriving DecidableEq, Repr

def kBindAddrModeGroup : UInt8 := 0x01
def kBindAddrModeIeee : UInt8 := 0x03
def kNeighborEntryLen : Nat := 22
def kRoutingEntryLen : Nat := 5

/-! ## Addresses -/

def buildNwkAddressRequest (outMax sequence : UInt8) (ieeeAddress : UInt64)
    (requestType startIndex : UInt8) : Built :=
  if outMax.toNat < 11 then .fail
  else
    { len := 11
      writes := emit 0 [sequence] ++ emit 1 (le64 ieeeAddress) ++ emit 9 [requestType] ++
        emit 10 [startIndex] }

def parseNwkAddressRequest (payload : List UInt8) : Option (Bool × ZdoAddressRequest) :=
  if payload.length < 11 then some (false, {})
  else do
    return (true,
      { sequence := ← read8 payload 0
        ieeeAddress := ← read64 payload 1
        requestType := ← read8 payload 9
        startIndex := ← read8 payload 10 })

def buildIeeeAddressRequest (outMax sequence : UInt8) (nwkAddress : UInt16)
    (requestType startIndex : UInt8) : Built :=
  if outMax.toNat < 5 then .fail
  else
    { len := 5
      writes := emit 0 [sequence] ++ emit 1 (le16 nwkAddress) ++ emit 3 [requestType] ++
        emit 4 [startIndex] }

def parseIeeeAddressRequest (payload : List UInt8) : Option (Bool × ZdoAddressRequest) :=
  if payload.length < 5 then some (false, {})
  else do
    return (true,
      { sequence := ← read8 payload 0
        nwkAddress := ← read16 payload 1
        requestType := ← read8 payload 3
        startIndex := ← read8 payload 4 })

def buildAddressResponse (outMax sequence status : UInt8) (ieeeAddress : UInt64)
    (nwkAddress : UInt16) (associatedDevices : List UInt16) (startIndex : UInt8) : Built :=
  let n := (12 + 2 + associatedDevices.length * 2) % 256
  if outMax.toNat < n then .fail
  else
    { len := n
      writes := emit 0 [sequence] ++ emit 1 [status] ++ emit 2 (le64 ieeeAddress) ++
        emit 10 (le16 nwkAddress) ++ emit 12 [associatedDevices.length.toUInt8] ++
        emit 13 [startIndex] ++
        associatedDevices.zipIdx.flatMap fun p => emit (14 + p.2 * 2) (le16 p.1) }

/-- A response of 12 or 13 bytes has no device list. -/
def parseAddressResponse (payload : List UInt8) : Option (Bool × ZdoAddressResponse) :=
  if payload.length < 12 then some (false, {})
  else do
    let response : ZdoAddressResponse :=
      { sequence := ← read8 payload 0
        status := ← read8 payload 1
        ieeeAddress := ← read64 payload 2
        nwkAddress := ← read16 payload 10 }
    if payload.length ≥ 14 then
      let count ← read8 payload 12
      let startIndex ← read8 payload 13
      if payload.length < (14 + count.toNat * 2) % 256 then return (false, {})
      else
        return (true,
          { response with
            associatedDeviceCount := count
            startIndex := startIndex
            associatedDevices := some 14 })
    else return (true, response)

/-! ## Endpoint lists -/

def buildActiveEndpointRequest (outMax sequence : UInt8) (nwkAddress : UInt16) : Built :=
  if outMax.toNat < 3 then .fail
  else { len := 3, writes := emit 0 [sequence] ++ emit 1 (le16 nwkAddress) }

def parseActiveEndpointRequest (payload : List UInt8) :
    Option (Bool × ZdoActiveEndpointRequest) :=
  if payload.length < 3 then some (false, {})
  else do
    return (true, { sequence := ← read8 payload 0, nwkAddress := ← read16 payload 1 })

/-- The body that the two endpoint-list builders share. -/
def buildEndpointList (outMax sequence status : UInt8) (nwkAddress : UInt16)
    (endpoints : List UInt8) : Built :=
  if outMax.toNat < (5 + endpoints.length) % 256 then .fail
  else
    { len := (5 + endpoints.length) % 256
      writes := emit 0 [sequence] ++ emit 1 [status] ++ emit 2 (le16 nwkAddress) ++
        emit 4 [endpoints.length.toUInt8] ++ emit 5 endpoints }

def parseEndpointList (payload : List UInt8) : Option (Bool × ZdoEndpointListResponse) :=
  if payload.length < 5 then some (false, {})
  else do
    let count ← read8 payload 4
    if payload.length < (5 + count.toNat) % 256 then return (false, {})
    else
      return (true,
        { sequence := ← read8 payload 0
          status := ← read8 payload 1
          nwkAddress := ← read16 payload 2
          endpointCount := count
          endpoints := some 5 })

def buildActiveEndpointResponse (outMax sequence status : UInt8) (nwkAddress : UInt16)
    (endpoints : List UInt8) : Built :=
  buildEndpointList outMax sequence status nwkAddress endpoints

def parseActiveEndpointResponse (payload : List UInt8) :
    Option (Bool × ZdoEndpointListResponse) := parseEndpointList payload

def buildMatchDescriptorResponse (outMax sequence status : UInt8) (nwkAddress : UInt16)
    (endpoints : List UInt8) : Built :=
  buildEndpointList outMax sequence status nwkAddress endpoints

def parseMatchDescriptorResponse (payload : List UInt8) :
    Option (Bool × ZdoEndpointListResponse) := parseEndpointList payload

/-! ## Cluster lists -/

/-- The stores behind a header of `idx` bytes whose last one is the input count; the index they run
over is a `uint8_t`. -/
def clusterListWrites (idx : Nat) (inputs outputs : List UInt16) : List (Nat × UInt8) :=
  let idx' := idx + inputs.length * 2
  emit (idx - 1) [inputs.length.toUInt8] ++
    (inputs.zipIdx.flatMap fun p => emit ((idx + p.2 * 2) % 256) (le16 p.1)) ++
    emit (idx' % 256) [outputs.length.toUInt8] ++
    outputs.zipIdx.flatMap fun p => emit ((idx' + 1 + p.2 * 2) % 256) (le16 p.1)

/-- The two lists behind a header of `idx` bytes, against a length of `payloadLen`; the inner `none`
is the parser's `return false`. -/
def parseClusterLists (payload : List UInt8) (payloadLen idx : Nat) :
    Option (Option ClusterLists) := do
  let inputCount ← read8 payload (idx - 1)
  if payloadLen < (idx + inputCount.toNat * 2 + 1) % 256 then return none
  else
    let idx' := (idx + inputCount.toNat * 2) % 256
    let outputCount ← read8 payload idx'
    let idx'' := (idx' + 1) % 256
    if payloadLen < (idx'' + outputCount.toNat * 2) % 256 then return none
    else
      return some
        { inputClusterCount := inputCount
          inputClusters := some idx
          outputClusterCount := outputCount
          outputClusters := some idx'' }

def buildSimpleDescriptor (outMax : UInt8) (descriptor : ZdoSimpleDescriptor) : Built :=
  let size := 8 + descriptor.inputClusters.length * 2 + descriptor.outputClusters.length * 2
  if outMax.toNat < size % 256 then .fail
  else
    { len := size % 256
      writes := emit 0 [descriptor.endpoint] ++ emit 1 (le16 descriptor.profileId) ++
        emit 3 (le16 descriptor.deviceId) ++ emit 5 [descriptor.deviceVersion &&& 0x0F] ++
        clusterListWrites 7 descriptor.inputClusters descriptor.outputClusters }

/-- The length is the caller's; the response parser passes one taken from the payload. -/
def parseSimpleDescriptor (payload : List UInt8) (payloadLen : Nat) :
    Option (Bool × ZdoReceivedDescriptor) :=
  if payloadLen < 8 then some (false, {})
  else do
    let endpoint ← read8 payload 0
    let profileId ← read16 payload 1
    let deviceId ← read16 payload 3
    let deviceVersion ← read8 payload 5
    match ← parseClusterLists payload payloadLen 7 with
    | none => return (false, {})
    | some lists =>
      return (true,
        { lists with
          endpoint := endpoint
          profileId := profileId
          deviceId := deviceId
          deviceVersion := deviceVersion &&& 0x0F })

def buildSimpleDescriptorRequest (outMax sequence : UInt8) (nwkAddress : UInt16)
    (endpoint : UInt8) : Built :=
  if outMax.toNat < 4 then .fail
  else
    { len := 4, writes := emit 0 [sequence] ++ emit 1 (le16 nwkAddress) ++ emit 3 [endpoint] }

def parseSimpleDescriptorRequest (payload : List UInt8) :
    Option (Bool × ZdoSimpleDescriptorRequest) :=
  if payload.length < 4 then some (false, {})
  else do
    return (true,
      { sequence := ← read8 payload 0
        nwkAddress := ← read16 payload 1
        endpoint := ← read8 payload 3 })

/-- The same stores, `k` bytes further on. -/
def shiftWrites (k : Nat) (writes : List (Nat × UInt8)) : List (Nat × UInt8) :=
  writes.map fun w => (k + w.1, w.2)

def buildSimpleDescriptorResponse (outMax sequence status : UInt8) (nwkAddress : UInt16)
    (descriptor : Option ZdoSimpleDescriptor) : Built :=
  if outMax.toNat < 5 then .fail
  else
    let head := emit 0 [sequence] ++ emit 1 [status] ++ emit 2 (le16 nwkAddress) ++ emit 4 [0]
    match descriptor with
    | none => { len := 5, writes := head }
    | some descriptor =>
      if status ≠ zdoStatusSuccess then { len := 5, writes := head }
      else
        let built := buildSimpleDescriptor (outMax - 5) descriptor
        let writes := head ++ shiftWrites 5 built.writes
        if built.len = 0 then { len := 0, writes := writes }
        else { len := (5 + built.len) % 256, writes := writes ++ emit 4 [built.len.toUInt8] }

def parseSimpleDescriptorResponse (payload : List UInt8) :
    Option (Bool × ZdoSimpleDescriptorResponse) :=
  if payload.length < 5 then some (false, {})
  else do
    let response : ZdoSimpleDescriptorResponse :=
      { sequence := ← read8 payload 0
        status := ← read8 payload 1
        nwkAddress := ← read16 payload 2 }
    let descLen ← read8 payload 4
    if payload.length < (5 + descLen.toNat) % 256 then return (false, {})
    else if descLen = 0 then return (true, response)
    else
      let (accepted, descriptor) ← parseSimpleDescriptor (payload.drop 5) descLen.toNat
      return (accepted, { response with descriptor := descriptor })

/-- The size that is checked leaves out the output count. -/
def buildMatchDescriptorRequest (outMax sequence : UInt8) (nwkAddress profileId : UInt16)
    (inputClusters outputClusters : List UInt16) : Built :=
  let n := (6 + inputClusters.length * 2 + outputClusters.length * 2) % 256
  if outMax.toNat < n then .fail
  else
    { len := (6 + inputClusters.length * 2 + 1 + outputClusters.length * 2) % 256
      writes := emit 0 [sequence] ++ emit 1 (le16 nwkAddress) ++ emit 3 (le16 profileId) ++
        clusterListWrites 6 inputClusters outputClusters }

def parseMatchDescriptorRequest (payload : List UInt8) :
    Option (Bool × ZdoMatchDescriptorRequest) :=
  if payload.length < 6 then some (false, {})
  else do
    let sequence ← read8 payload 0
    let nwkAddress ← read16 payload 1
    let profileId ← read16 payload 3
    match ← parseClusterLists payload payload.length 6 with
    | none => return (false, {})
    | some lists =>
      return (true,
        { lists with sequence := sequence, nwkAddress := nwkAddress, profileId := profileId })

/-! ## Announcements and bindings -/

def buildDeviceAnnounce (outMax sequence : UInt8) (nwkAddress : UInt16) (ieeeAddress : UInt64)
    (capability : UInt8) : Built :=
  if outMax.toNat < 12 then .fail
  else
    { len := 12
      writes := emit 0 [sequence] ++ emit 1 (le16 nwkAddress) ++ emit 3 (le64 ieeeAddress) ++
        emit 11 [capability] }

def parseDeviceAnnounce (payload : List UInt8) : Option (Bool × ZdoDeviceAnnounce) :=
  if payload.length < 12 then some (false, {})
  else do
    return (true,
      { sequence := ← read8 payload 0
        nwkAddress := ← read16 payload 1
        ieeeAddress := ← read64 payload 3
        capability := ← read8 payload 11 })

/-- Every mode but the group's is sent as an extended address and an endpoint. -/
def buildBindRequest (outMax : UInt8) (r : ZdoBindRequest) : Built :=
  let needed := if r.dstAddrMode = kBindAddrModeGroup then 15 else 22
  if outMax.toNat < needed then .fail
  else
    { len := needed
      writes := emit 0 [r.sequence] ++ emit 1 (le64 r.srcAddress) ++ emit 9 [r.srcEndpoint] ++
        emit 10 (le16 r.clusterId) ++ emit 12 [r.dstAddrMode] ++
        (if r.dstAddrMode = kBindAddrModeGroup then emit 13 (le16 r.dstGroup)
          else emit 13 (le64 r.dstAddress) ++ emit 21 [r.dstEndpoint]) }

def parseBindRequest (payload : List UInt8) : Option (Bool × ZdoBindRequest) :=
  if payload.length < 13 then some (false, {})
  else do
    let r : ZdoBindRequest :=
      { sequence := ← read8 payload 0
        srcAddress := ← read64 payload 1
        srcEndpoint := ← read8 payload 9
        clusterId := ← read16 payload 10
        dstAddrMode := ← read8 payload 12 }
    if r.dstAddrMode = kBindAddrModeGroup then
      if payload.length < 15 then return (false, {})
      else return (true, { r with dstGroup := ← read16 payload 13 })
    else if r.dstAddrMode = kBindAddrModeIeee then
      if payload.length < 22 then return (false, {})
      else
        return (true,
          { r with dstAddress := ← read64 payload 13, dstEndpoint := ← read8 payload 21 })
    else return (false, {})

def buildBindResponse (outMax sequence status : UInt8) : Built :=
  if outMax.toNat < 2 then .fail else { len := 2, writes := emit 0 [sequence] ++ emit 1 [status] }

def parseBindResponse (payload : List UInt8) : Option (Bool × ZdoBindResponse) :=
  if payload.length < 2 then some (false, {})
  else do return (true, { sequence := ← read8 payload 0, status := ← read8 payload 1 })

/-! ## Management tables -/

def buildMgmtLqiRequest (outMax sequence startIndex : UInt8) : Built :=
  if outMax.toNat < 2 then .fail
  else { len := 2, writes := emit 0 [sequence] ++ emit 1 [startIndex] }

def buildMgmtRtgRequest (outMax sequence startIndex : UInt8) : Built :=
  buildMgmtLqiRequest outMax sequence startIndex

def parseMgmtRequest (payload : List UInt8) : Option (Bool × ZdoMgmtRequest) :=
  if payload.length < 2 then some (false, {})
  else do return (true, { sequence := ← read8 payload 0, startIndex := ← read8 payload 1 })

/-- A neighbor list entry on air. -/
def neighborEntryBytes (e : ZdoNeighborListEntry) : List UInt8 :=
  le64 e.extendedPanId ++ le64 e.extendedAddress ++ le16 e.nwkAddress ++
    [(e.deviceType &&& 0x03) ||| ((e.rxOnWhenIdle &&& 0x03) <<< (2 : UInt8)) |||
        ((e.relationship &&& 0x07) <<< (4 : UInt8)),
      e.permitJoining &&& 0x03, e.depth, e.lqi]

/-- A routing list entry on air. -/
def routingEntryBytes (e : ZdoRoutingListEntry) : List UInt8 :=
  le16 e.destinationAddress ++
    [(e.status &&& 0x07) ||| (if e.memoryConstrained then 0x08 else 0) |||
        (if e.manyToOne then 0x10 else 0) ||| (if e.routeRecordRequired then 0x20 else 0)] ++
    le16 e.nextHopAddress

/-- A management response: its size is computed in 16 bits, so it never wraps. -/
def buildMgmtResponse {α : Type} (entryLen : Nat) (entryBytes : α → List UInt8)
    (outMax sequence status tableEntries startIndex : UInt8) (entries : List α) : Built :=
  let needed := 5 + entries.length * entryLen
  if outMax.toNat < needed then .fail
  else
    { len := needed % 256
      writes := emit 0 [sequence] ++ emit 1 [status] ++ emit 2 [tableEntries] ++
        emit 3 [startIndex] ++ emit 4 [entries.length.toUInt8] ++
        entries.zipIdx.flatMap fun p => emit (5 + p.2 * entryLen) (entryBytes p.1) }

def buildMgmtLqiResponse (outMax sequence status neighborTableEntries startIndex : UInt8)
    (entries : List ZdoNeighborListEntry) : Built :=
  buildMgmtResponse kNeighborEntryLen neighborEntryBytes outMax sequence status
    neighborTableEntries startIndex entries

def buildMgmtRtgResponse (outMax sequence status routingTableEntries startIndex : UInt8)
    (entries : List ZdoRoutingListEntry) : Built :=
  buildMgmtResponse kRoutingEntryLen routingEntryBytes outMax sequence status routingTableEntries
    startIndex entries

def parseMgmtLqiResponse (payload : List UInt8) : Option (Bool × ZdoMgmtLqiResponse) :=
  if payload.length < 5 then some (false, {})
  else do
    let count ← read8 payload 4
    if payload.length < 5 + count.toNat * kNeighborEntryLen then return (false, {})
    else
      return (true,
        { sequence := ← read8 payload 0
          status := ← read8 payload 1
          neighborTableEntries := ← read8 payload 2
          startIndex := ← read8 payload 3
          listCount := count
          list := some 5 })

def parseMgmtRtgResponse (payload : List UInt8) : Option (Bool × ZdoMgmtRtgResponse) :=
  if payload.length < 5 then some (false, {})
  else do
    let count ← read8 payload 4
    if payload.length < 5 + count.toNat * kRoutingEntryLen then return (false, {})
    else
      return (true,
        { sequence := ← read8 payload 0
          status := ← read8 payload 1
          routingTableEntries := ← read8 payload 2
          startIndex := ← read8 payload 3
          listCount := count
          list := some 5 })

/-- The entry at `index`; the inner `none` is the getter's `return false`. -/
def getNeighborListEntry (payload : List UInt8) (response : ZdoMgmtLqiResponse) (index : UInt8) :
    Option (Option ZdoNeighborListEntry) :=
  match response.list with
  | none => some none
  | some list =>
    if index ≥ response.listCount then some none
    else do
      let p := list + index.toNat * kNeighborEntryLen
      let flags ← read8 payload (p + 18)
      return some
        { extendedPanId := ← read64 payload p
          extendedAddress := ← read64 payload (p + 8)
          nwkAddress := ← read16 payload (p + 16)
          deviceType := flags &&& 0x03
          rxOnWhenIdle := (flags >>> (2 : UInt8)) &&& 0x03
          relationship := (flags >>> (4 : UInt8)) &&& 0x07
          permitJoining := (← read8 payload (p + 19)) &&& 0x03
          depth := ← read8 payload (p + 20)
          lqi := ← read8 payload (p + 21) }

def getRoutingListEntry (payload : List UInt8) (response : ZdoMgmtRtgResponse) (index : UInt8) :
    Option (Option ZdoRoutingListEntry) :=
  match response.list with
  | none => some none
  | some list =>
    if index ≥ response.listCount then some none
    else do
      let p := list + index.toNat * kRoutingEntryLen
      let flags ← read8 payload (p + 2)
      return some
        { destinationAddress := ← read16 payload p
          status := flags &&& 0x07
          memoryConstrained := (flags &&& 0x08) != 0
          manyToOne := (flags &&& 0x10) != 0
          routeRecordRequired := (flags &&& 0x20) != 0
          nextHopAddress := ← read16 payload (p + 3) }

end NiusZigbee.ZigbeeZdo
