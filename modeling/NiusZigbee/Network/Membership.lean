import NiusZigbee.Library.Runs
import NiusZigbee.Mac.Frame
import NiusZigbee.Network.AddressAllocator
import NiusZigbee.Nwk.Command

/-!
# A node's membership in its network

`ZigbeeNetwork` with the neighbor table attached to it: identity, scan and join, children, Link
Status and neighbor aging.
-/

namespace NiusZigbee

open ZigbeeMac ZigbeeNwk

inductive ZigbeeNetworkState where
  | idle
  | coordinator
  | joining
  | router
  | endDevice
  | leaving
  | scanning
deriving DecidableEq, Repr

structure ZigbeeNetworkInfo where
  joined : Bool := false
  state : ZigbeeNetworkState := .idle
  deviceType : UInt8 := 0
  panId : UInt16 := 0
  extendedPanId : UInt64 := 0
  channel : UInt8 := 0
  nwkAddress : UInt16 := 0
  parentAddress : UInt16 := 0
  depth : UInt8 := 0
  updateId : UInt8 := 0
  outgoingFrameCounter : UInt32 := 0
deriving DecidableEq, Repr

structure ZigbeeParentCandidate where
  used : Bool := false
  channel : UInt8 := 0
  panId : UInt16 := 0
  extendedPanId : UInt64 := 0
  shortAddress : UInt16 := 0
  depth : UInt8 := 0
  lqi : UInt8 := 0
  rssi : Int8 := 0
  permitJoining : Bool := false
  routerCapacity : Bool := false
  endDeviceCapacity : Bool := false
  stackProfile : UInt8 := 0
  updateId : UInt8 := 0
deriving DecidableEq, Repr

structure ZigbeeAssociationDecision where
  accepted : Bool := false
  assignedAddress : UInt16 := 0
  status : UInt8 := 0
  deviceType : UInt8 := 0
  rxOnWhenIdle : Bool := false
deriving DecidableEq, Repr

structure AgingResult where
  removed : UInt8 := 0
  parentLost : Bool := false
deriving DecidableEq, Repr

structure ZigbeeNetwork where
  info : ZigbeeNetworkInfo
  neighbors : List ZigbeeNeighbor
  permitJoin : ZigbeePermitJoin
  allocator : ZigbeeAddressAllocator
  candidates : List ZigbeeParentCandidate
  scanDeviceType : UInt8
deriving DecidableEq, Repr

namespace ZigbeeNetwork

def kMaxParentCandidates : Nat := 8
def kLinkStatusPeriodMs : UInt32 := 15000
def kRouterAgeLimit : UInt8 := 3

def leftInfo : ZigbeeNetworkInfo :=
  { deviceType := zbDeviceUnknown, panId := 0xFFFF, nwkAddress := zbNwkAddrInvalid
    parentAddress := zbNwkAddrInvalid, depth := 0xFF }

/-- A fresh node with an attached neighbor table. -/
def init (neighbors : List ZigbeeNeighbor) : ZigbeeNetwork where
  info := leftInfo
  neighbors := neighbors
  permitJoin := .close
  allocator := {}
  candidates := List.replicate kMaxParentCandidates {}
  scanDeviceType := zbDeviceUnknown

variable (net : ZigbeeNetwork)

def isCoordinator : Bool := net.info.joined && net.info.deviceType == zbDeviceCoordinator
def isRouter : Bool := net.info.joined && net.info.deviceType == zbDeviceRouter
def isJoining : Bool := net.info.state == .joining

/-! ## Identity -/

def configureAddressPool (firstAddress lastAddress : UInt16) : ZigbeeNetwork :=
  { net with allocator := .begin firstAddress lastAddress }

def beginCoordinator (panId : UInt16) (extendedPanId : UInt64) (channel updateId : UInt8) :
    ZigbeeNetwork :=
  { net with
    info :=
      { joined := true, state := .coordinator, deviceType := zbDeviceCoordinator, panId := panId
        extendedPanId := extendedPanId, channel := channel, nwkAddress := zbNwkAddrCoordinator
        parentAddress := zbNwkAddrInvalid, depth := 0, updateId := updateId } }

def beginJoinedDevice (deviceType : UInt8) (panId : UInt16) (extendedPanId : UInt64)
    (channel : UInt8) (nwkAddress parentAddress : UInt16) (depth updateId : UInt8) :
    ZigbeeNetwork :=
  { net with
    info :=
      { joined := true
        state := if deviceType = zbDeviceRouter then .router
          else if deviceType = zbDeviceEndDevice then .endDevice else .idle
        deviceType := deviceType, panId := panId, extendedPanId := extendedPanId
        channel := channel, nwkAddress := nwkAddress, parentAddress := parentAddress
        depth := depth, updateId := updateId } }

def beginJoining (deviceType : UInt8) (panId : UInt16) (extendedPanId : UInt64) (channel : UInt8)
    (parentAddress : UInt16) (updateId : UInt8) : ZigbeeNetwork :=
  { net with
    info :=
      { joined := false, state := .joining, deviceType := deviceType, panId := panId
        extendedPanId := extendedPanId, channel := channel, nwkAddress := zbNwkAddrInvalid
        parentAddress := parentAddress, depth := 0xFF, updateId := updateId } }

def completeJoin (nwkAddress parentAddress : UInt16) (parentDepth : UInt8) :
    ZigbeeNetwork × Bool :=
  if !net.isJoining || !ZigbeeAddressAllocator.isUsable nwkAddress then (net, false)
  else
    ({ net with
       info :=
        { net.info with
          joined := true
          nwkAddress := nwkAddress
          parentAddress := parentAddress
          depth := parentDepth + 1
          state := if net.info.deviceType = zbDeviceRouter then .router else .endDevice } }, true)

def leave : ZigbeeNetwork := { net with info := leftInfo, permitJoin := .close }

def nextFrameCounter : ZigbeeNetwork × UInt32 :=
  let counter := net.info.outgoingFrameCounter + 1
  ({ net with info := { net.info with outgoingFrameCounter := counter } }, counter)

def permitJoining (durationSeconds : UInt8) (nowMs : UInt32) : ZigbeeNetwork :=
  { net with permitJoin := .open durationSeconds nowMs }

def closeJoining : ZigbeeNetwork := { net with permitJoin := .close }

/-! ## Scan and parent selection -/

def beginScan (deviceType : UInt8) : ZigbeeNetwork :=
  { net with
    candidates := List.replicate kMaxParentCandidates {}
    scanDeviceType := deviceType
    info :=
      { joined := false, state := .scanning, deviceType := deviceType, panId := 0xFFFF
        nwkAddress := zbNwkAddrInvalid, parentAddress := zbNwkAddrInvalid, depth := 0xFF } }

/-- Sightings of one sender share a slot. -/
def candidateKey (c : ZigbeeParentCandidate) : Option (UInt8 × UInt16 × UInt16) :=
  if c.used then some (c.channel, c.panId, c.shortAddress) else none

def weaker (c weakest : ZigbeeParentCandidate) : Bool := c.lqi < weakest.lqi

def sighted (channel : UInt8) (beacon : MacBeaconFrame) (payload : NwkBeaconPayload) (rssi : Int8)
    (lqi : UInt8) : ZigbeeParentCandidate where
  used := true
  channel := channel
  panId := beacon.srcPanId
  extendedPanId := payload.extendedPanId
  shortAddress := beacon.srcShort
  depth := payload.deviceDepth
  lqi := lqi
  rssi := rssi
  permitJoining := beacon.associationPermit
  routerCapacity := payload.routerCapacity
  endDeviceCapacity := payload.endDeviceCapacity
  stackProfile := payload.stackProfile
  updateId := payload.updateId

/-- The slot a sighting goes to, and whether the slot's candidate is already the better one. -/
def candidateSlot (key : UInt8 × UInt16 × UInt16) (lqi : UInt8) : Option (Nat × Bool) :=
  match SlotTable.find candidateKey net.candidates key with
  | some i => some (i, net.candidates[i]?.any fun c => lqi < c.lqi)
  | none =>
    match SlotTable.firstFree candidateKey net.candidates with
    | some i => some (i, false)
    | none =>
      (SlotTable.least candidateKey weaker net.candidates).bind fun i =>
        if net.candidates[i]?.any fun c => c.lqi ≥ lqi then none else some (i, false)

def noteBeacon (channel : UInt8) (beacon : MacBeaconFrame) (payload : NwkBeaconPayload)
    (rssi : Int8) (lqi : UInt8) (requiredExtendedPanId : UInt64) : ZigbeeNetwork × Bool :=
  if !beacon.valid || !payload.valid then (net, false)
  else if requiredExtendedPanId ≠ 0 ∧ payload.extendedPanId ≠ requiredExtendedPanId then
    (net, false)
  else
    match net.candidateSlot (channel, beacon.srcPanId, beacon.srcShort) lqi with
    | none => (net, false)
    | some (_, true) => (net, true)
    | some (i, false) =>
      ({ net with candidates := net.candidates.set i (sighted channel beacon payload rssi lqi) },
        true)

def candidateUsableFor (c : ZigbeeParentCandidate) (deviceType : UInt8) : Bool :=
  if !c.used || !c.permitJoining then false
  else if c.stackProfile ≠ kStackProfilePro then false
  else if deviceType = zbDeviceRouter then c.routerCapacity
  else if deviceType = zbDeviceEndDevice then c.endDeviceCapacity
  else false

/-- The scan for a parent: the best one so far gives way to a usable one with a higher LQI, or with
the same LQI and less depth. -/
def betterParent (deviceType : UInt8) (best : Option ZigbeeParentCandidate)
    (c : ZigbeeParentCandidate) : Option ZigbeeParentCandidate :=
  if !candidateUsableFor c deviceType then best
  else if best.all fun b => c.lqi > b.lqi || (c.lqi == b.lqi && c.depth < b.depth) then some c
  else best

def selectParent : Option ZigbeeParentCandidate :=
  net.candidates.foldl (betterParent net.scanDeviceType) none

def beginJoiningCandidate (parent : ZigbeeParentCandidate) : ZigbeeNetwork × Bool :=
  if !parent.used then (net, false)
  else
    (net.beginJoining net.scanDeviceType parent.panId parent.extendedPanId parent.channel
      parent.shortAddress parent.updateId, true)

def rejoinParent : ZigbeeNetwork × Bool :=
  if net.info.panId = 0xFFFF ∨ net.info.parentAddress = zbNwkAddrInvalid ∨
      net.info.deviceType = zbDeviceUnknown ∨ net.info.deviceType = zbDeviceCoordinator then
    (net, false)
  else
    ({ net with
       info :=
        { net.info with
          joined := false, state := .joining, nwkAddress := zbNwkAddrInvalid, depth := 0xFF } },
      true)

/-! ## Children and parent -/

/-- A known child keeps its address, another one gets the next free address of the pool. -/
def childAddress (ieeeAddress : UInt64) : ZigbeeAddressAllocator × UInt16 :=
  match ZigbeeNeighborTable.findByIeee net.neighbors ieeeAddress with
  | some existing => (net.allocator, existing.nwkAddress)
  | none => net.allocator.allocate net.neighbors

/-- The gate of both admission paths. -/
def takesChildren (nowMs : UInt32) : Bool :=
  (net.isCoordinator || net.isRouter) && net.permitJoin.isOpen nowMs

def acceptChild (ieeeAddress : UInt64) (deviceType : UInt8) (rxOnWhenIdle : Bool) (lqi : UInt8)
    (nowMs : UInt32) : ZigbeeNetwork × Option ZigbeeNeighbor :=
  if !net.takesChildren nowMs then (net, none)
  else
    let address := net.childAddress ieeeAddress
    if address.2 = zbNwkAddrInvalid then ({ net with allocator := address.1 }, none)
    else
      let r := ZigbeeNeighborTable.upsert net.neighbors address.2 ieeeAddress deviceType zbRelChild
        (net.info.depth + 1) lqi rxOnWhenIdle false nowMs
      ({ net with allocator := address.1, neighbors := r.1 }, r.2.bind fun i => r.1[i]?)

def handleAssociationRequest (ieeeAddress : UInt64) (request : MacAssociationRequest) (lqi : UInt8)
    (nowMs : UInt32) : ZigbeeNetwork × ZigbeeAssociationDecision :=
  let denied : ZigbeeAssociationDecision :=
    { status := macAssocPanAccessDenied, assignedAddress := zbNwkAddrInvalid }
  if !request.valid || !request.allocateAddress then (net, denied)
  else if !net.takesChildren nowMs then (net, denied)
  else
    let childType := if request.fullFunctionDevice then zbDeviceRouter else zbDeviceEndDevice
    let r := net.acceptChild ieeeAddress childType request.receiverOnWhenIdle lqi nowMs
    match r.2 with
    | none => (r.1, { denied with status := macAssocPanAtCapacity })
    | some child =>
      (r.1,
        { accepted := true
          assignedAddress := child.nwkAddress
          status := macAssocSuccess
          deviceType := childType
          rxOnWhenIdle := request.receiverOnWhenIdle })

def noteParent (nwkAddress : UInt16) (ieeeAddress : UInt64) (deviceType depth lqi : UInt8)
    (permitJoining : Bool) (nowMs : UInt32) : ZigbeeNetwork × Bool :=
  if !net.info.joined then (net, false)
  else
    let r := ZigbeeNeighborTable.upsert net.neighbors nwkAddress ieeeAddress deviceType zbRelParent
      depth lqi true permitJoining nowMs
    match r.2 with
    | none => ({ net with neighbors := r.1 }, false)
    | some _ =>
      ({ net with neighbors := r.1, info := { net.info with parentAddress := nwkAddress } }, true)

/-! ## Link Status and aging -/

def costFromLqi (lqi : UInt8) : UInt8 :=
  if lqi ≥ 105 then 1
  else if lqi ≥ 95 then 2
  else if lqi ≥ 85 then 3
  else if lqi ≥ 75 then 4
  else if lqi ≥ 65 then 5
  else if lqi ≥ 55 then 6
  else 7

/-- The neighbors a Link Status tells of. -/
def isListed (neighbor : ZigbeeNeighbor) : Bool :=
  neighbor.used && neighbor.relationship != zbRelPreviousChild &&
    ZigbeeNeighborTable.isRouterType neighbor

def linkStatusEntry (neighbor : ZigbeeNeighbor) : NwkLinkStatusEntry where
  address := neighbor.nwkAddress
  incomingCost := if neighbor.incomingCost ≠ 0 then neighbor.incomingCost
    else costFromLqi neighbor.lqi
  outgoingCost := neighbor.outgoingCost

def collectLinkStatusEntries (maxEntries : UInt8) : List NwkLinkStatusEntry :=
  ((net.neighbors.filter isListed).take maxEntries.toNat).map linkStatusEntry

/-- The cost the sender reports for hearing us, if an entry from `index` on names us. -/
def reportedCost (payload : List UInt8) (command : NwkLinkStatusCommand) (self : UInt16) :
    Nat → UInt8 → Option (Option UInt8)
  | 0, _ => some none
  | left + 1, index => do
    match ← getLinkStatusEntry payload command index with
    | none => return none
    | some entry =>
      if entry.address = self then return some entry.incomingCost
      else reportedCost payload command self left (index + 1)

/-- `none` is a command whose entries lie outside its payload. -/
def handleLinkStatus (senderShort : UInt16) (payload : List UInt8) (command : NwkLinkStatusCommand)
    (lqi : UInt8) (nowMs : UInt32) : Option (ZigbeeNetwork × Bool) :=
  if !command.valid || !net.info.joined then some (net, false)
  else
    let existing := ZigbeeNeighborTable.findByNwk net.neighbors senderShort
    let relationship := if senderShort = net.info.parentAddress then zbRelParent
      else existing.elim zbRelSibling (·.relationship)
    let r := ZigbeeNeighborTable.upsert net.neighbors senderShort (existing.elim 0 (·.ieeeAddress))
      zbDeviceRouter relationship (existing.elim 0xFF (·.depth)) lqi true
      (existing.elim false (·.permitJoining)) nowMs
    match r.2 with
    | none => some ({ net with neighbors := r.1 }, false)
    | some i =>
      (reportedCost payload command net.info.nwkAddress command.entryCount.toNat 0).map
        fun reported =>
          ({ net with
             neighbors := r.1.modify i fun sender =>
              { sender with
                incomingCost := costFromLqi lqi
                outgoingCost := reported.getD sender.outgoingCost } }, true)

def ageNeighbors (nowMs : UInt32) : ZigbeeNetwork × AgingResult :=
  if !net.info.joined then (net, {})
  else
    let maxAge := kLinkStatusPeriodMs * kRouterAgeLimit.toUInt32
    if nowMs < maxAge then (net, {})
    else
      let cutoff := nowMs - maxAge
      let r := ZigbeeNeighborTable.removeStaleRouters net.neighbors cutoff net.info.parentAddress
      ({ net with neighbors := r.1 },
        { removed := r.2
          parentLost := !net.isCoordinator && net.info.parentAddress != zbNwkAddrInvalid &&
            (ZigbeeNeighborTable.findByNwk r.1 net.info.parentAddress).any
              (·.lastSeenMs < cutoff) })

/-! ## Runs -/

/-- A call on the network object. -/
inductive Op where
  | configureAddressPool (firstAddress lastAddress : UInt16)
  | beginCoordinator (panId : UInt16) (extendedPanId : UInt64) (channel updateId : UInt8)
  | beginJoinedDevice (deviceType : UInt8) (panId : UInt16) (extendedPanId : UInt64)
      (channel : UInt8) (nwkAddress parentAddress : UInt16) (depth updateId : UInt8)
  | beginJoining (deviceType : UInt8) (panId : UInt16) (extendedPanId : UInt64) (channel : UInt8)
      (parentAddress : UInt16) (updateId : UInt8)
  | completeJoin (nwkAddress parentAddress : UInt16) (parentDepth : UInt8)
  | leave
  | nextFrameCounter
  | permitJoining (durationSeconds : UInt8) (nowMs : UInt32)
  | closeJoining
  | beginScan (deviceType : UInt8)
  | noteBeacon (channel : UInt8) (beacon : MacBeaconFrame) (payload : NwkBeaconPayload)
      (rssi : Int8) (lqi : UInt8) (requiredExtendedPanId : UInt64)
  | beginJoiningCandidate (parent : ZigbeeParentCandidate)
  | rejoinParent
  | acceptChild (ieeeAddress : UInt64) (deviceType : UInt8) (rxOnWhenIdle : Bool) (lqi : UInt8)
      (nowMs : UInt32)
  | handleAssociationRequest (ieeeAddress : UInt64) (request : MacAssociationRequest)
      (lqi : UInt8) (nowMs : UInt32)
  | noteParent (nwkAddress : UInt16) (ieeeAddress : UInt64) (deviceType depth lqi : UInt8)
      (permitJoining : Bool) (nowMs : UInt32)
  | handleLinkStatus (senderShort : UInt16) (payload : List UInt8)
      (command : NwkLinkStatusCommand) (lqi : UInt8) (nowMs : UInt32)
  | ageNeighbors (nowMs : UInt32)

/-- The network after a call. A Link Status whose entries lie outside its payload has no defined
outcome and counts as no call. -/
def next : Op → ZigbeeNetwork
  | .configureAddressPool firstAddress lastAddress =>
    net.configureAddressPool firstAddress lastAddress
  | .beginCoordinator panId extendedPanId channel updateId =>
    net.beginCoordinator panId extendedPanId channel updateId
  | .beginJoinedDevice deviceType panId extendedPanId channel nwkAddress parentAddress depth
      updateId =>
    net.beginJoinedDevice deviceType panId extendedPanId channel nwkAddress parentAddress depth
      updateId
  | .beginJoining deviceType panId extendedPanId channel parentAddress updateId =>
    net.beginJoining deviceType panId extendedPanId channel parentAddress updateId
  | .completeJoin nwkAddress parentAddress parentDepth =>
    (net.completeJoin nwkAddress parentAddress parentDepth).1
  | .leave => net.leave
  | .nextFrameCounter => net.nextFrameCounter.1
  | .permitJoining durationSeconds nowMs => net.permitJoining durationSeconds nowMs
  | .closeJoining => net.closeJoining
  | .beginScan deviceType => net.beginScan deviceType
  | .noteBeacon channel beacon payload rssi lqi requiredExtendedPanId =>
    (net.noteBeacon channel beacon payload rssi lqi requiredExtendedPanId).1
  | .beginJoiningCandidate parent => (net.beginJoiningCandidate parent).1
  | .rejoinParent => net.rejoinParent.1
  | .acceptChild ieeeAddress deviceType rxOnWhenIdle lqi nowMs =>
    (net.acceptChild ieeeAddress deviceType rxOnWhenIdle lqi nowMs).1
  | .handleAssociationRequest ieeeAddress request lqi nowMs =>
    (net.handleAssociationRequest ieeeAddress request lqi nowMs).1
  | .noteParent nwkAddress ieeeAddress deviceType depth lqi permitJoining nowMs =>
    (net.noteParent nwkAddress ieeeAddress deviceType depth lqi permitJoining nowMs).1
  | .handleLinkStatus senderShort payload command lqi nowMs =>
    (net.handleLinkStatus senderShort payload command lqi nowMs).elim net (·.1)
  | .ageNeighbors nowMs => (net.ageNeighbors nowMs).1

/-- The device a call admits, with the short address it is given. -/
def grant : Op → Option (UInt64 × UInt16)
  | .acceptChild ieeeAddress deviceType rxOnWhenIdle lqi nowMs =>
    (net.acceptChild ieeeAddress deviceType rxOnWhenIdle lqi nowMs).2.map
      fun child => (ieeeAddress, child.nwkAddress)
  | .handleAssociationRequest ieeeAddress request lqi nowMs =>
    let decision := (net.handleAssociationRequest ieeeAddress request lqi nowMs).2
    if decision.accepted then some (ieeeAddress, decision.assignedAddress) else none
  | _ => none

/-- The keys an admission stores its child under, if it gets that far. -/
def childKeys (ieeeAddress : UInt64) (nowMs : UInt32) : Option (UInt16 × UInt64) :=
  if net.takesChildren nowMs ∧ (net.childAddress ieeeAddress).2 ≠ zbNwkAddrInvalid then
    some ((net.childAddress ieeeAddress).2, ieeeAddress)
  else none

/-- The keys a call upserts in the neighbor table, if it upserts at all. -/
def upsertKeys : Op → Option (UInt16 × UInt64)
  | .acceptChild ieeeAddress _ _ _ nowMs => net.childKeys ieeeAddress nowMs
  | .handleAssociationRequest ieeeAddress request _ nowMs =>
    if request.valid && request.allocateAddress then net.childKeys ieeeAddress nowMs else none
  | .noteParent nwkAddress ieeeAddress _ _ _ _ _ =>
    if net.info.joined then some (nwkAddress, ieeeAddress) else none
  | .handleLinkStatus senderShort _ command _ _ =>
    if command.valid && net.info.joined then
      some (senderShort,
        (ZigbeeNeighborTable.findByNwk net.neighbors senderShort).elim 0 (·.ieeeAddress))
    else none
  | _ => none

/-- The call recycles a slot in use. -/
def Recycles (op : Op) : Prop :=
  ∃ keys ∈ net.upsertKeys op, ZigbeeNeighborTable.Recycles net.neighbors keys.1 keys.2

instance (op : Op) : Decidable (net.Recycles op) :=
  inferInstanceAs (Decidable (∃ keys ∈ net.upsertKeys op, _))

/-! ## Admissions -/

variable {net} {ieeeAddress : UInt64} {deviceType lqi : UInt8} {rxOnWhenIdle : Bool}
  {nowMs : UInt32}

/-- The child as an admission leaves it in the slot it found. -/
def admitted (net : ZigbeeNetwork) (old : ZigbeeNeighbor) (ieeeAddress : UInt64)
    (deviceType : UInt8) (rxOnWhenIdle : Bool) (lqi : UInt8) (nowMs : UInt32) : ZigbeeNeighbor :=
  ZigbeeNeighborTable.stored old (net.childAddress ieeeAddress).2 ieeeAddress deviceType zbRelChild
    (net.info.depth + 1) lqi rxOnWhenIdle false nowMs

theorem acceptChild_cases :
    ((net.acceptChild ieeeAddress deviceType rxOnWhenIdle lqi nowMs).2 = none ∧
      ∃ allocator, (net.acceptChild ieeeAddress deviceType rxOnWhenIdle lqi nowMs).1 =
        { net with allocator := allocator }) ∨
    ∃ i old,
      net.childKeys ieeeAddress nowMs = some ((net.childAddress ieeeAddress).2, ieeeAddress) ∧
      (net.childAddress ieeeAddress).2 ≠ zbNwkAddrInvalid ∧
      ZigbeeNeighborTable.slotFor net.neighbors (net.childAddress ieeeAddress).2 ieeeAddress =
        some i ∧
      net.neighbors[i]? = some old ∧
      net.acceptChild ieeeAddress deviceType rxOnWhenIdle lqi nowMs =
        ({ net with
           allocator := (net.childAddress ieeeAddress).1
           neighbors := net.neighbors.set i
            (net.admitted old ieeeAddress deviceType rxOnWhenIdle lqi nowMs) },
          some (net.admitted old ieeeAddress deviceType rxOnWhenIdle lqi nowMs)) := by
  unfold acceptChild childKeys
  cases hopen : net.takesChildren nowMs with
  | false => exact .inl ⟨rfl, net.allocator, rfl⟩
  | true =>
    by_cases hinv : (net.childAddress ieeeAddress).2 = zbNwkAddrInvalid
    · simp only [Bool.not_true, Bool.false_eq_true, if_false, if_pos hinv]
      exact .inl ⟨trivial, _, rfl⟩
    · simp only [Bool.not_true, Bool.false_eq_true, if_false, if_neg hinv]
      rcases ZigbeeNeighborTable.upsert_cases net.neighbors (net.childAddress ieeeAddress).2
          ieeeAddress deviceType zbRelChild (net.info.depth + 1) lqi rxOnWhenIdle false nowMs with
        ⟨_, hupsert⟩ | ⟨i, old, hslot, hold, hupsert⟩
      · rw [hupsert]
        exact .inl ⟨rfl, _, rfl⟩
      · have hlt : i < net.neighbors.length := (List.getElem?_eq_some_iff.mp hold).1
        refine .inr ⟨i, old, by simp [hinv], hinv, hslot, hold, ?_⟩
        rw [hupsert]
        simp [admitted, hlt]

/-- An association request that asks for an address is an admission of its device. -/
theorem associationRequest_eq {request : MacAssociationRequest}
    (hvalid : (request.valid && request.allocateAddress) = true) :
    let op := Op.acceptChild ieeeAddress
      (if request.fullFunctionDevice then zbDeviceRouter else zbDeviceEndDevice)
      request.receiverOnWhenIdle lqi nowMs
    net.next (.handleAssociationRequest ieeeAddress request lqi nowMs) = net.next op ∧
      net.grant (.handleAssociationRequest ieeeAddress request lqi nowMs) = net.grant op := by
  have hv : (!request.valid || !request.allocateAddress) = false := by
    rw [← Bool.not_and, hvalid]
    rfl
  simp only [next, grant, handleAssociationRequest, hv, Bool.false_eq_true, if_false]
  cases hopen : net.takesChildren nowMs with
  | false => simp [acceptChild, hopen]
  | true =>
    simp only [Bool.not_true, Bool.false_eq_true, if_false]
    split <;> simp_all

theorem associationRequest_refused {request : MacAssociationRequest}
    (hvalid : (request.valid && request.allocateAddress) = false) :
    net.next (.handleAssociationRequest ieeeAddress request lqi nowMs) = net ∧
      net.grant (.handleAssociationRequest ieeeAddress request lqi nowMs) = none := by
  have hv : (!request.valid || !request.allocateAddress) = true := by
    rw [← Bool.not_and, hvalid]
    rfl
  simp [next, grant, handleAssociationRequest, hv]

theorem next_associationRequest {P : ZigbeeNetwork → Prop} (hnet : P net)
    (haccept : ∀ deviceType rxOnWhenIdle,
      P (net.next (.acceptChild ieeeAddress deviceType rxOnWhenIdle lqi nowMs)))
    (request : MacAssociationRequest) :
    P (net.next (.handleAssociationRequest ieeeAddress request lqi nowMs)) := by
  cases hvalid : request.valid && request.allocateAddress with
  | false => rwa [(associationRequest_refused hvalid).1]
  | true =>
    rw [(associationRequest_eq hvalid).1]
    exact haccept _ _

theorem grant_acceptChild {pair : UInt64 × UInt16}
    (h : net.grant (.acceptChild ieeeAddress deviceType rxOnWhenIdle lqi nowMs) = some pair) :
    pair = (ieeeAddress, (net.childAddress ieeeAddress).2) := by
  simp only [grant] at h
  rcases @acceptChild_cases net ieeeAddress deviceType lqi rxOnWhenIdle nowMs with
    ⟨hnone, _⟩ | hsome
  · simp [hnone] at h
  · obtain ⟨i, old, _, _, _, _, heq⟩ := hsome
    rw [heq] at h
    exact (Option.some.inj h).symm

/-- An open node with a table admits whoever it has an address for. -/
theorem grant_of_takesChildren (hopen : net.takesChildren nowMs = true)
    (haddr : (net.childAddress ieeeAddress).2 ≠ zbNwkAddrInvalid) (hne : net.neighbors ≠ []) :
    net.grant (.acceptChild ieeeAddress deviceType rxOnWhenIdle lqi nowMs) =
      some (ieeeAddress, (net.childAddress ieeeAddress).2) := by
  obtain ⟨i, hslot⟩ := ZigbeeNeighborTable.slotFor_isSome hne (net.childAddress ieeeAddress).2
    ieeeAddress
  obtain ⟨old, hold, _⟩ := ZigbeeNeighborTable.slotFor_cases hslot
  simp [grant, acceptChild, hopen, haddr, ZigbeeNeighborTable.upsert, hslot, hold,
    ZigbeeNeighborTable.stored]

theorem grant_eq_some {op : Op} {pair : UInt64 × UInt16} (h : net.grant op = some pair) :
    ∃ deviceType rxOnWhenIdle lqi nowMs,
      let child := Op.acceptChild pair.1 deviceType rxOnWhenIdle lqi nowMs
      net.grant child = some pair ∧ net.next op = net.next child ∧
        (net.Recycles op ↔ net.Recycles child) := by
  cases op with
  | acceptChild ieeeAddress deviceType rxOnWhenIdle lqi nowMs =>
    have hieee : pair.1 = ieeeAddress := congrArg Prod.fst (grant_acceptChild h)
    exact ⟨deviceType, rxOnWhenIdle, lqi, nowMs, by rwa [hieee], by rw [hieee], by rw [hieee]⟩
  | handleAssociationRequest ieeeAddress request lqi nowMs =>
    cases hvalid : request.valid && request.allocateAddress with
    | false =>
      rw [(associationRequest_refused hvalid).2] at h
      cases h
    | true =>
      obtain ⟨hnext, hgrant⟩ := @associationRequest_eq net ieeeAddress lqi nowMs _ hvalid
      rw [hgrant] at h
      have hieee : pair.1 = ieeeAddress := congrArg Prod.fst (grant_acceptChild h)
      refine ⟨_, request.receiverOnWhenIdle, lqi, nowMs, by rw [hieee]; exact h,
        by rw [hieee]; exact hnext, ?_⟩
      rw [hieee]
      simp [Recycles, upsertKeys, hvalid]
  | _ => simp [grant] at h

/-! ## Link Status -/

/-- The relationship a Link Status leaves its sender in. -/
def heardAs (net : ZigbeeNetwork) (senderShort : UInt16) : UInt8 :=
  if senderShort = net.info.parentAddress then zbRelParent
  else (ZigbeeNeighborTable.findByNwk net.neighbors senderShort).elim zbRelSibling (·.relationship)

/-- The sender of a Link Status as it is left in the slot it was found or put in. -/
def heardFrom (net : ZigbeeNetwork) (old : ZigbeeNeighbor) (senderShort : UInt16)
    (reported : Option UInt8) (lqi : UInt8) (nowMs : UInt32) : ZigbeeNeighbor :=
  let existing := ZigbeeNeighborTable.findByNwk net.neighbors senderShort
  let sender := ZigbeeNeighborTable.stored old senderShort (existing.elim 0 (·.ieeeAddress))
    zbDeviceRouter (net.heardAs senderShort) (existing.elim 0xFF (·.depth)) lqi true
    (existing.elim false (·.permitJoining)) nowMs
  { sender with
    incomingCost := costFromLqi lqi
    outgoingCost := reported.getD sender.outgoingCost }

theorem handleLinkStatus_heard {senderShort : UInt16} {payload : List UInt8}
    {command : NwkLinkStatusCommand} {i : Nat} {old : ZigbeeNeighbor} {reported : Option UInt8}
    (hvalid : command.valid = true) (hjoined : net.info.joined = true)
    (hslot : ZigbeeNeighborTable.slotFor net.neighbors senderShort
      ((ZigbeeNeighborTable.findByNwk net.neighbors senderShort).elim 0 (·.ieeeAddress)) = some i)
    (hold : net.neighbors[i]? = some old)
    (hreported : reportedCost payload command net.info.nwkAddress command.entryCount.toNat 0 =
      some reported) :
    net.handleLinkStatus senderShort payload command lqi nowMs =
      some ({ net with
              neighbors := net.neighbors.set i
                (net.heardFrom old senderShort reported lqi nowMs) }, true) := by
  have hlt : i < net.neighbors.length := (List.getElem?_eq_some_iff.mp hold).1
  have hwrite (f : ZigbeeNeighbor → ZigbeeNeighbor) :
      net.neighbors.modify i f = net.neighbors.set i (f old) := by
    rw [List.modify_eq_set_getElem?, hold]
    rfl
  simp only [handleLinkStatus, hvalid, hjoined, Bool.not_true, Bool.or_self, Bool.false_eq_true,
    if_false, ZigbeeNeighborTable.upsert, hslot, hwrite, hreported, Option.map_some]
  rw [List.modify_eq_set_getElem?, List.getElem?_set_self hlt]
  simp only [Option.map_eq_map, Option.map_some, Option.getD_some, List.set_set]
  rfl

/-- A Link Status changes nothing, or one slot, whose IEEE address it takes from the table. -/
theorem handleLinkStatus_cases {senderShort : UInt16} {payload : List UInt8}
    {command : NwkLinkStatusCommand} :
    (net.next (.handleLinkStatus senderShort payload command lqi nowMs) = net ∧
      ((reportedCost payload command net.info.nwkAddress command.entryCount.toNat 0).isSome = true →
        ∀ keys ∈ net.upsertKeys (.handleLinkStatus senderShort payload command lqi nowMs),
          ZigbeeNeighborTable.slotFor net.neighbors keys.1 keys.2 = none)) ∨
    ∃ i old heard,
      let ieee :=
        (ZigbeeNeighborTable.findByNwk net.neighbors senderShort).elim 0 (·.ieeeAddress)
      net.upsertKeys (.handleLinkStatus senderShort payload command lqi nowMs) =
          some (senderShort, ieee) ∧
        ZigbeeNeighborTable.slotFor net.neighbors senderShort ieee = some i ∧
        net.neighbors[i]? = some old ∧
        (heard.used = true ∧ heard.nwkAddress = senderShort ∧ heard.ieeeAddress = ieee ∧
          heard.relationship = net.heardAs senderShort ∧ heard.lastSeenMs = nowMs ∧
          ∃ reported,
            reportedCost payload command net.info.nwkAddress command.entryCount.toNat 0 =
              some reported ∧
            heard = net.heardFrom old senderShort reported lqi nowMs) ∧
        net.next (.handleLinkStatus senderShort payload command lqi nowMs) =
          { net with neighbors := net.neighbors.set i heard } := by
  cases hgate : (!command.valid || !net.info.joined) with
  | true =>
    have hclosed : (command.valid && net.info.joined) = false := by
      rwa [← Bool.not_eq_true', Bool.not_and]
    refine .inl ⟨?_, fun _ _ hkeys => by simp [upsertKeys, hclosed] at hkeys⟩
    simp only [next, handleLinkStatus, hgate, if_true, Option.elim_some]
  | false =>
    have hpass : (command.valid && net.info.joined) = true := by
      rwa [← Bool.not_eq_false', Bool.not_and]
    obtain ⟨hvalid, hjoined⟩ := Bool.and_eq_true_iff.mp hpass
    have hkeys : net.upsertKeys (.handleLinkStatus senderShort payload command lqi nowMs) =
        some (senderShort,
          (ZigbeeNeighborTable.findByNwk net.neighbors senderShort).elim 0 (·.ieeeAddress)) := by
      rw [upsertKeys, if_pos hpass]
    cases hslot : ZigbeeNeighborTable.slotFor net.neighbors senderShort
        ((ZigbeeNeighborTable.findByNwk net.neighbors senderShort).elim 0 (·.ieeeAddress)) with
    | none =>
      refine .inl ⟨?_, fun _ keys hsome => ?_⟩
      · simp only [next, handleLinkStatus, hgate, Bool.false_eq_true, if_false,
          ZigbeeNeighborTable.upsert, hslot, Option.elim_some]
      · obtain rfl := Option.some.inj (hkeys.symm.trans hsome)
        exact hslot
    | some i =>
      obtain ⟨old, hold, _⟩ := ZigbeeNeighborTable.slotFor_cases hslot
      cases hreported : reportedCost payload command net.info.nwkAddress command.entryCount.toNat 0
        with
      | none =>
        refine .inl ⟨?_, fun hsome => by cases hsome⟩
        simp only [next, handleLinkStatus, hgate, Bool.false_eq_true, if_false,
          ZigbeeNeighborTable.upsert, hslot, hreported, Option.map_none, Option.elim_none]
      | some reported =>
        refine .inr ⟨i, old, net.heardFrom old senderShort reported lqi nowMs, hkeys, hslot, hold,
          ⟨rfl, rfl, rfl, rfl, rfl, reported, rfl, rfl⟩, ?_⟩
        rw [next, handleLinkStatus_heard hvalid hjoined hslot hold hreported]
        rfl

end ZigbeeNetwork

end NiusZigbee
