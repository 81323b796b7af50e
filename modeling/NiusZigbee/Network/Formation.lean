import NiusZigbee.Library.Descent
import NiusZigbee.Library.Runs
import NiusZigbee.Mac.RoundTrip
import NiusZigbee.Network.Membership
import NiusZigbee.Nwk.Payload

/-!
# How a network forms

Nodes scan for beacons, choose a parent, ask it for an address and become parents themselves, in any
order and with frames lost, repeated or heard late. As long as no node loses its parent, the parent
addresses lead from every joined node to a coordinator, and the depth of a node counts the way there
up to the four bits a beacon has for it.
-/

namespace NiusZigbee.Formation

open ByteCodec OutBuffer ZigbeeMac ZigbeeNwk ZigbeeNetwork

inductive Role where
  | coordinator
  | router
  | endDevice
deriving DecidableEq

/-- The part of the sketch that forms the network. -/
structure Node where
  role : Role
  thisIeee : UInt64
  secureJoin : Bool
  network : ZigbeeNetwork
  chosenParent : ZigbeeParentCandidate := {}

namespace Node

variable (node : Node)

def parentCapable : Bool := node.role != .endDevice

def capability : UInt8 := if node.role = .endDevice then 0x88 else 0x8A

def kMaxPsduOut : UInt8 := 125

/-- `sendOurBeacon`. -/
def sendOurBeacon (nowMs : UInt32) (sequence : UInt8) : Built :=
  let info := node.network.info
  let permit := node.network.permitJoin.isOpen nowMs
  let payload := buildBeaconPayload kBeaconPayloadLen.toUInt8 info.extendedPanId info.depth permit
    permit info.updateId kStackProfilePro
  buildBeacon kMaxPsduOut info.panId info.nwkAddress sequence node.network.isCoordinator permit
    payload.bytes

/-- `onBeacon`, on what the driver hands it of a PSDU. -/
def onBeacon (psdu : List UInt8) (scanChannel : UInt8) (rssi : Int8) (lqi : UInt8) : Node :=
  match parseBeacon psdu with
  | some (true, beacon) =>
    if node.role = .coordinator ∨ node.network.info.state ≠ .scanning then node
    else
      match parseBeaconPayload (payloadSlice psdu beacon.payload beacon.payloadLen) with
      | some (true, payload) =>
        { node with
          network := (node.network.noteBeacon scanChannel beacon payload rssi (lqi &&& 0x7F) 0).1 }
      | _ => node
  | _ => node

def onAssociationRequest (psdu : List UInt8) (frame : MacCommandFrame) (lqi : UInt8)
    (nowMs : UInt32) (sequence : UInt8) : Node × Option Built :=
  let info := node.network.info
  if node.parentCapable && info.joined && frame.dstPanId == info.panId &&
      frame.dstShort == info.nwkAddress then
    match parseAssociationRequest psdu frame with
    | some (true, request) =>
      let decided :=
        node.network.handleAssociationRequest frame.srcIeee request (lqi &&& 0x7F) nowMs
      ({ node with network := decided.1 },
        some (buildAssociationResponse kMaxPsduOut info.panId frame.srcIeee info.nwkAddress sequence
          decided.2.assignedAddress decided.2.status true))
    | _ => (node, none)
  else (node, none)

/-- The sender of the response is not compared with the chosen parent. -/
def onAssociationResponse (psdu : List UInt8) (frame : MacCommandFrame) (nowMs : UInt32) : Node :=
  if node.role ≠ .coordinator ∧ frame.dstIeee = node.thisIeee then
    match parseAssociationResponse psdu frame with
    | some (true, response) =>
      let parent := node.chosenParent
      if response.status = macAssocSuccess then
        match node.network.completeJoin response.shortAddress parent.shortAddress parent.depth with
        | (network, true) =>
          { node with
            network := (network.noteParent parent.shortAddress 0
              (if parent.depth = 0 then zbDeviceCoordinator else zbDeviceRouter) parent.depth
              parent.lqi true nowMs).1 }
        | (_, false) => node
      else node
    | _ => node
  else node

/-- `onMacCommand`, with the frame it answers with. -/
def onMacCommand (psdu : List UInt8) (lqi : UInt8) (nowMs : UInt32) (sequence : UInt8) :
    Node × Option Built :=
  match ZigbeeMac.parseCommandFrame psdu with
  | some (true, frame) =>
    if frame.commandId = macCmdBeaconRequest then
      (node, if node.parentCapable && node.network.info.joined &&
        node.network.permitJoin.isOpen nowMs then
          some (node.sendOurBeacon nowMs sequence) else none)
    else if frame.commandId = macCmdAssociationRequest then
      node.onAssociationRequest psdu frame lqi nowMs sequence
    else if frame.commandId = macCmdAssociationResponse then
      (node.onAssociationResponse psdu frame nowMs, none)
    else (node, none)
  | _ => (node, none)

/-- `runActiveScan` up to the beacons, from the states the main loop scans in. -/
def scan : Node :=
  if node.role ≠ .coordinator ∧ (node.network.info.state = .idle ∨
      node.network.info.state = .scanning ∨ node.network.info.state = .joining) then
    let deviceType := if node.role = .endDevice then zbDeviceEndDevice else zbDeviceRouter
    { node with network := node.network.beginScan deviceType }
  else node

/-- `runActiveScan` after the beacons. -/
def choose : Node :=
  if node.role ≠ .coordinator ∧ node.network.info.state = .scanning then
    match node.network.selectParent with
    | none => node
    | some parent =>
      if node.secureJoin ∧ parent.depth ≠ 0 then node
      else
        { node with
          chosenParent := parent, network := (node.network.beginJoiningCandidate parent).1 }
  else node

/-- The association request of the main loop. -/
def request (sequence : UInt8) : Option Built :=
  if node.role ≠ .coordinator ∧ node.network.isJoining then
    some (buildAssociationRequest kMaxPsduOut node.chosenParent.panId node.chosenParent.shortAddress
      node.thisIeee sequence node.capability true)
  else none

def becomeParent (poolFirst poolLast : UInt16) (nowMs : UInt32) : Node :=
  if node.role = .router ∧ node.network.info.joined then
    { node with
      network := (node.network.configureAddressPool poolFirst poolLast).permitJoining 0xFF nowMs }
  else node

/-- Aging; a node that lost its parent starts to join again. -/
def age (nowMs : UInt32) : Node :=
  if node.network.info.joined ∧ node.parentCapable then
    let aged := node.network.ageNeighbors nowMs
    { node with network := if aged.2.parentLost then aged.1.rejoinParent.1 else aged.1 }
  else node

end Node

/-! ## The network -/

/-- The nodes, all PSDUs sent so far, and when each node joined. -/
structure World (ι : Type) where
  node : ι → Node
  air : List (List UInt8) := []
  joins : Nat := 0
  joinedAt : ι → Nat := fun _ => 0

inductive Op (ι : Type) where
  | scan (i : ι) (sequence : UInt8)
  | choose (i : ι)
  | request (i : ι) (sequence : UInt8)
  | hear (i : ι) (psdu : List UInt8) (scanChannel : UInt8) (rssi : Int8) (lqi : UInt8)
      (nowMs : UInt32) (sequence : UInt8)
  | becomeParent (i : ι) (poolFirst poolLast : UInt16) (nowMs : UInt32)
  | linkStatus (i : ι) (senderShort : UInt16) (payload : List UInt8)
      (command : NwkLinkStatusCommand) (lqi : UInt8) (nowMs : UInt32)
  | age (i : ι) (nowMs : UInt32)

variable {ι : Type} [DecidableEq ι]

/-- A node that is joined now and was not before has joined. -/
def World.put (w : World ι) (i : ι) (node : Node) (sent : Option Built) : World ι :=
  let joins := !(w.node i).network.info.joined && node.network.info.joined
  { node := Function.update w.node i node
    air := w.air ++ (sent.toList.filter fun b => b.len ≠ 0).map (·.bytes)
    joins := if joins then w.joins + 1 else w.joins
    joinedAt := if joins then Function.update w.joinedAt i (w.joins + 1) else w.joinedAt }

def step (w : World ι) : Op ι → World ι
  | .scan i sequence =>
    w.put i (w.node i).scan (some (buildBeaconRequest Node.kMaxPsduOut sequence))
  | .choose i => w.put i (w.node i).choose none
  | .request i sequence => w.put i (w.node i) ((w.node i).request sequence)
  | .hear i psdu scanChannel rssi lqi nowMs sequence =>
    let answered := (w.node i).onMacCommand psdu lqi nowMs sequence
    w.put i (answered.1.onBeacon psdu scanChannel rssi lqi) answered.2
  | .becomeParent i poolFirst poolLast nowMs =>
    w.put i ((w.node i).becomeParent poolFirst poolLast nowMs) none
  | .linkStatus i senderShort payload command lqi nowMs =>
    let call : ZigbeeNetwork.Op := .handleLinkStatus senderShort payload command lqi nowMs
    let node := w.node i
    w.put i { node with network := node.network.next call } none
  | .age i nowMs => w.put i ((w.node i).age nowMs) none

/-- Only frames of this network are heard, and aging finds the parent alive. -/
def Allowed (w : World ι) : Op ι → Prop
  | .hear _ psdu _ _ _ _ _ => psdu ∈ w.air
  | .age i nowMs => ((w.node i).network.ageNeighbors nowMs).2.parentLost = false
  | _ => True

instance (w : World ι) : ∀ op, Decidable (Allowed w op)
  | .hear _ psdu _ _ _ _ _ => inferInstanceAs (Decidable (psdu ∈ w.air))
  | .age i nowMs =>
    inferInstanceAs (Decidable (((w.node i).network.ageNeighbors nowMs).2.parentLost = false))
  | .scan .. | .choose .. | .request .. | .becomeParent .. | .linkStatus .. => .isTrue trivial

/-! ## What the network object keeps -/

section Calls

variable {net : ZigbeeNetwork}

/-- Identity and parent candidates are as before. -/
def Untouched (net net' : ZigbeeNetwork) : Prop :=
  net'.info = net.info ∧ net'.candidates = net.candidates

theorem untouched_associationRequest (ieeeAddress : UInt64) (request : MacAssociationRequest)
    (lqi : UInt8) (nowMs : UInt32) :
    Untouched net (net.handleAssociationRequest ieeeAddress request lqi nowMs).1 := by
  apply next_associationRequest (P := Untouched net) ⟨rfl, rfl⟩
  intro deviceType rxOnWhenIdle
  rcases @acceptChild_cases net ieeeAddress deviceType lqi rxOnWhenIdle nowMs with
    ⟨_, _, heq⟩ | ⟨_, _, _, _, _, _, heq⟩ <;> rw [next, heq] <;> exact ⟨rfl, rfl⟩

theorem untouched_linkStatus (senderShort : UInt16) (payload : List UInt8)
    (command : NwkLinkStatusCommand) (lqi : UInt8) (nowMs : UInt32) :
    Untouched net (net.next (.handleLinkStatus senderShort payload command lqi nowMs)) := by
  rcases @handleLinkStatus_cases net lqi nowMs senderShort payload command with
    ⟨heq, _⟩ | ⟨_, _, _, _, _, _, _, heq⟩ <;> rw [heq] <;> exact ⟨rfl, rfl⟩

theorem untouched_age (nowMs : UInt32) : Untouched net (net.ageNeighbors nowMs).1 := by
  simp only [ageNeighbors]
  split
  · exact ⟨rfl, rfl⟩
  · split <;> exact ⟨rfl, rfl⟩

theorem noteParent_info (nwkAddress : UInt16) (ieeeAddress : UInt64) (deviceType depth lqi : UInt8)
    (permitJoining : Bool) (nowMs : UInt32) (hsame : net.info.parentAddress = nwkAddress) :
    Untouched net (net.noteParent nwkAddress ieeeAddress deviceType depth lqi permitJoining
      nowMs).1 := by
  simp only [noteParent]
  split
  · exact ⟨rfl, rfl⟩
  · split
    · exact ⟨rfl, rfl⟩
    · exact ⟨by rw [← hsame], rfl⟩

end Calls

/-! ## One node -/

section Handlers

variable {node : Node} {psdu : List UInt8}

/-- A candidate that a beacon in `psdu` makes. -/
def Sighted (psdu : List UInt8) (c : ZigbeeParentCandidate) : Prop :=
  ∃ beacon payload scanChannel rssi lqi, parseBeacon psdu = some (true, beacon) ∧
    parseBeaconPayload (payloadSlice psdu beacon.payload beacon.payloadLen) =
      some (true, payload) ∧
    c = sighted scanChannel beacon payload rssi lqi

/-- What one step may do to a node, where `heard` are the PSDUs it may have heard. -/
inductive Moved (heard : List (List UInt8)) (node node' : Node) : Prop
  | same (role : node'.role = node.role) (chosen : node'.chosenParent = node.chosenParent)
      (untouched : Untouched node.network node'.network)
  | noted (role : node'.role = node.role) (chosen : node'.chosenParent = node.chosenParent)
      (info : node'.network.info = node.network.info)
      (candidates : ∀ c ∈ node'.network.candidates,
        c ∈ node.network.candidates ∨ ∃ psdu ∈ heard, Sighted psdu c)
  | joined (nwkAddress : UInt16) (state : ZigbeeNetworkState) (role : node'.role = node.role)
      (chosen : node'.chosenParent = node.chosenParent)
      (candidates : node'.network.candidates = node.network.candidates)
      (outsider : node.role ≠ .coordinator) (was : node.network.info.state = .joining)
      (is : state = .router ∨ state = .endDevice)
      (info : node'.network.info =
        { node.network.info with
          joined := true, nwkAddress := nwkAddress
          parentAddress := node.chosenParent.shortAddress
          depth := node.chosenParent.depth + 1, state := state })
  | scanning (role : node'.role = node.role) (outsider : node.role ≠ .coordinator)
      (was : node.network.info.state = .idle ∨ node.network.info.state = .scanning ∨
        node.network.info.state = .joining)
      (candidates : ∀ c ∈ node'.network.candidates, c.used = false)
      (info : node'.network.info.joined = false ∧ node'.network.info.state = .scanning)
  | chose (parent : ZigbeeParentCandidate) (role : node'.role = node.role)
      (outsider : node.role ≠ .coordinator) (was : node.network.info.state = .scanning)
      (mem : parent ∈ node.network.candidates) (used : parent.used = true)
      (chosen : node'.chosenParent = parent)
      (candidates : node'.network.candidates = node.network.candidates)
      (info : node'.network.info.joined = false ∧ node'.network.info.state = .joining ∧
        node'.network.info.panId = parent.panId)

theorem Moved.refl (heard : List (List UInt8)) (node : Node) : Moved heard node node :=
  .same rfl rfl ⟨rfl, rfl⟩

theorem noteBeacon_candidates (net : ZigbeeNetwork) (scanChannel : UInt8) (beacon : MacBeaconFrame)
    (payload : NwkBeaconPayload) (rssi : Int8) (lqi : UInt8) (required : UInt64) :
    let net' := (net.noteBeacon scanChannel beacon payload rssi lqi required).1
    net'.info = net.info ∧ ∀ c ∈ net'.candidates,
      c ∈ net.candidates ∨ c = sighted scanChannel beacon payload rssi lqi := by
  have hkept : ∀ c ∈ net.candidates, c ∈ net.candidates ∨
      c = sighted scanChannel beacon payload rssi lqi := fun c hc => Or.inl hc
  simp only [noteBeacon]
  split
  · exact ⟨rfl, hkept⟩
  split
  · exact ⟨rfl, hkept⟩
  split
  · exact ⟨rfl, hkept⟩
  · exact ⟨rfl, hkept⟩
  · exact ⟨rfl, fun c hc => List.mem_or_eq_of_mem_set hc⟩

theorem moved_onBeacon {heard : List (List UInt8)} (hpsdu : psdu ∈ heard) (scanChannel : UInt8)
    (rssi : Int8) (lqi : UInt8) : Moved heard node (node.onBeacon psdu scanChannel rssi lqi) := by
  simp only [Node.onBeacon]
  split
  · next beacon hbeacon =>
    split
    · exact .refl heard node
    split
    · next payload hpayload =>
      obtain ⟨hinfo, hcandidates⟩ := noteBeacon_candidates node.network scanChannel beacon payload
        rssi (lqi &&& 0x7F) 0
      refine .noted rfl rfl hinfo fun c hc => ?_
      rcases hcandidates c hc with hold | hnew
      · exact Or.inl hold
      · exact Or.inr ⟨psdu, hpsdu, beacon, payload, _, _, _, hbeacon, hpayload, hnew⟩
    · exact .refl heard node
  · exact .refl heard node

theorem moved_onAssociationRequest (heard : List (List UInt8)) (frame : MacCommandFrame)
    (lqi : UInt8) (nowMs : UInt32) (sequence : UInt8) :
    Moved heard node (node.onAssociationRequest psdu frame lqi nowMs sequence).1 := by
  simp only [Node.onAssociationRequest]
  split
  · split
    · exact .same rfl rfl (untouched_associationRequest _ _ _ _)
    · exact .refl heard node
  · exact .refl heard node

theorem moved_onAssociationResponse (heard : List (List UInt8)) (frame : MacCommandFrame)
    (nowMs : UInt32) : Moved heard node (node.onAssociationResponse psdu frame nowMs) := by
  simp only [Node.onAssociationResponse]
  split
  · next hrole =>
    split
    · next response hresponse =>
      split
      · split
        · next network hjoin =>
          obtain ⟨hjoining, hinfo, hcandidates, hstate⟩ : node.network.info.state = .joining ∧
              (∃ state, (state = .router ∨ state = .endDevice) ∧ network.info =
                { node.network.info with
                  joined := true, nwkAddress := response.shortAddress
                  parentAddress := node.chosenParent.shortAddress
                  depth := node.chosenParent.depth + 1, state := state }) ∧
              network.candidates = node.network.candidates ∧
              network.info.parentAddress = node.chosenParent.shortAddress := by
            simp only [completeJoin] at hjoin
            split at hjoin
            · cases hjoin
            · next hgate =>
              simp only [Bool.or_eq_true, Bool.not_eq_true', not_or, Bool.not_eq_false, isJoining,
                beq_iff_eq] at hgate
              cases hjoin
              refine ⟨hgate.1, ⟨_, ?_, rfl⟩, rfl, rfl⟩
              split
              · exact Or.inl rfl
              · exact Or.inr rfl
          obtain ⟨state, his, hinfo⟩ := hinfo
          obtain ⟨hinfo', hcandidates'⟩ := noteParent_info node.chosenParent.shortAddress 0
            (if node.chosenParent.depth = 0 then zbDeviceCoordinator else zbDeviceRouter)
            node.chosenParent.depth node.chosenParent.lqi true nowMs hstate
          exact .joined response.shortAddress state rfl rfl (hcandidates'.trans hcandidates)
            hrole.1 hjoining his (hinfo'.trans hinfo)
        · exact .refl heard node
      · exact .refl heard node
    · exact .refl heard node
  · exact .refl heard node

theorem moved_hear {heard : List (List UInt8)} (hpsdu : psdu ∈ heard) (scanChannel : UInt8)
    (rssi : Int8) (lqi : UInt8) (nowMs : UInt32) (sequence : UInt8) :
    Moved heard node ((node.onMacCommand psdu lqi nowMs sequence).1.onBeacon psdu scanChannel rssi
      lqi) := by
  by_cases hcommand : ∃ frame, ZigbeeMac.parseCommandFrame psdu = some (true, frame)
  · -- a command frame is no beacon
    obtain ⟨frame, hparse⟩ := hcommand
    have hbeacon : ∀ beacon, parseBeacon psdu ≠ some (true, beacon) := by
      intro beacon hbeacon
      have haccepts : MacParser.command.Accepts psdu :=
        ⟨(frame.payload, frame.payloadLen), by rw [MacParser.run, hparse, Option.map_some]⟩
      have haccepts' : MacParser.beacon.Accepts psdu :=
        ⟨(beacon.payload, beacon.payloadLen), by rw [MacParser.run, hbeacon, Option.map_some]⟩
      cases MacParser.accepts_unique haccepts haccepts'
    have hsame (other : Node) : other.onBeacon psdu scanChannel rssi lqi = other := by
      unfold Node.onBeacon
      split
      · next beacon heq => exact absurd heq (hbeacon beacon)
      · rfl
    rw [hsame]
    simp only [Node.onMacCommand, hparse]
    split
    · exact .refl heard node
    split
    · exact moved_onAssociationRequest heard frame lqi nowMs sequence
    split
    · exact moved_onAssociationResponse heard frame nowMs
    · exact .refl heard node
  · have hsame : (node.onMacCommand psdu lqi nowMs sequence).1 = node := by
      simp only [Node.onMacCommand]
      split
      · next frame heq => exact absurd ⟨frame, heq⟩ hcommand
      · rfl
    rw [hsame]
    exact moved_onBeacon hpsdu scanChannel rssi lqi

theorem moved_scan (heard : List (List UInt8)) : Moved heard node node.scan := by
  simp only [Node.scan]
  split
  · next h =>
    refine .scanning rfl h.1 h.2 (fun c hc => ?_) ⟨rfl, rfl⟩
    rw [(List.mem_replicate.mp hc).2]
  · exact .refl heard node

theorem selectParent_mem {net : ZigbeeNetwork} {parent : ZigbeeParentCandidate}
    (h : net.selectParent = some parent) : parent ∈ net.candidates ∧ parent.used = true := by
  have hfold : ∀ (candidates : List ZigbeeParentCandidate) (best : Option ZigbeeParentCandidate),
      (∀ b ∈ best, b ∈ net.candidates ∧ b.used = true) →
      (∀ c ∈ candidates, c ∈ net.candidates) →
      ∀ b ∈ candidates.foldl (betterParent net.scanDeviceType) best,
        b ∈ net.candidates ∧ b.used = true := by
    intro candidates
    induction candidates with
    | nil => exact fun best hbest _ => hbest
    | cons c candidates ih =>
      intro best hbest hmem
      apply ih
      · intro b hb
        simp only [betterParent] at hb
        split at hb
        · exact hbest b hb
        · next husable =>
          split at hb
          · obtain rfl : c = b := Option.some.inj hb
            refine ⟨hmem c List.mem_cons_self, ?_⟩
            by_contra hunused
            simp [candidateUsableFor, hunused] at husable
          · exact hbest b hb
      · exact fun c' hc' => hmem c' (List.mem_cons_of_mem c hc')
  exact hfold net.candidates none nofun (fun _ hc => hc) parent h

theorem moved_choose (heard : List (List UInt8)) : Moved heard node node.choose := by
  simp only [Node.choose]
  split
  · next h =>
    split
    · exact .refl heard node
    · next parent hparent =>
      obtain ⟨hmem, hused⟩ := selectParent_mem hparent
      split
      · exact .refl heard node
      · have hbegin : node.network.beginJoiningCandidate parent =
            (node.network.beginJoining node.network.scanDeviceType parent.panId
              parent.extendedPanId parent.channel parent.shortAddress parent.updateId, true) :=
          if_neg (by rw [hused]; decide)
        refine .chose parent rfl h.1 h.2 hmem hused rfl ?_ ?_ <;> simp only [hbegin]
        · rfl
        · exact ⟨rfl, rfl, rfl⟩
  · exact .refl heard node

theorem moved_age (heard : List (List UInt8)) {nowMs : UInt32}
    (h : (node.network.ageNeighbors nowMs).2.parentLost = false) :
    Moved heard node (node.age nowMs) := by
  simp only [Node.age]
  split
  · simp only [h, Bool.false_eq_true, if_false]
    exact .same rfl rfl (untouched_age nowMs)
  · exact .refl heard node

theorem moved_becomeParent (heard : List (List UInt8)) (poolFirst poolLast : UInt16)
    (nowMs : UInt32) : Moved heard node (node.becomeParent poolFirst poolLast nowMs) := by
  simp only [Node.becomeParent]
  split
  · exact .same rfl rfl ⟨rfl, rfl⟩
  · exact .refl heard node

/-- What a node sends: MAC commands, and beacons about itself once it is joined. -/
def Speaks (node : Node) (sent : Option Built) : Prop :=
  ∀ b ∈ sent, b.len ≠ 0 → MacParser.command.Accepts b.bytes ∨
    node.network.info.joined = true ∧ ∃ nowMs sequence, b = node.sendOurBeacon nowMs sequence

theorem speaks_command {sent : Option Built} (call : MacCall) (hcommand : call.parser = .command)
    (h : sent = some (call.build Node.kMaxPsduOut)) : Speaks node sent := by
  intro b hb hlen
  obtain rfl : call.build Node.kMaxPsduOut = b := Option.some.inj (h.symm.trans hb)
  exact Or.inl (hcommand ▸ ((MacCall.mac_codec.2 call _ hlen).1 call.parser).mpr rfl)

theorem speaks_none : Speaks node none := nofun

theorem speaks_hear (lqi : UInt8) (nowMs : UInt32) (sequence : UInt8) :
    Speaks node (node.onMacCommand psdu lqi nowMs sequence).2 := by
  simp only [Node.onMacCommand]
  split
  · next frame hparse =>
    split
    · split
      · next hgate =>
        simp only [Bool.and_eq_true] at hgate
        intro b hb hlen
        exact Or.inr ⟨hgate.1.2, nowMs, sequence, (Option.some.inj hb).symm⟩
      · exact speaks_none
    split
    · simp only [Node.onAssociationRequest]
      split
      · split
        · exact speaks_command (.associationResponse ..) rfl rfl
        · exact speaks_none
      · exact speaks_none
    split
    · exact speaks_none
    · exact speaks_none
  · exact speaks_none

theorem speaks_request (sequence : UInt8) : Speaks node (node.request sequence) := by
  simp only [Node.request]
  split
  · exact speaks_command (.associationRequest ..) rfl rfl
  · exact speaks_none

theorem sendOurBeacon_sighted {nowMs : UInt32} {sequence : UInt8} {c : ZigbeeParentCandidate}
    (hlen : (node.sendOurBeacon nowMs sequence).len ≠ 0)
    (h : Sighted (node.sendOurBeacon nowMs sequence).bytes c) :
    c.panId = node.network.info.panId ∧ c.shortAddress = node.network.info.nwkAddress ∧
      c.depth = node.network.info.depth &&& 0x0F := by
  obtain ⟨beacon, payload, scanChannel, rssi, lqi, hbeacon, hpayload, rfl⟩ := h
  have hcapacity (router endDevice : Bool) : beaconCapacity router node.network.info.depth
      endDevice = beaconCapacity router (node.network.info.depth &&& 0x0F) endDevice := by
    rw [beaconCapacity, beaconCapacity, UInt8.and_assoc, UInt8.and_self]
  have hdepth : (node.network.info.depth &&& 0x0F).toNat < 16 := by
    rw [UInt8.toNat_and]
    exact Nat.lt_of_le_of_lt Nat.and_le_right (by decide)
  obtain ⟨bytes, hbytes⟩ : ∃ bytes, beaconPayloadBytes node.network.info.extendedPanId
      (node.network.info.depth &&& 0x0F) (node.network.permitJoin.isOpen nowMs)
      (node.network.permitJoin.isOpen nowMs) node.network.info.updateId kStackProfilePro =
        bytes := ⟨_, rfl⟩
  have hbuilt : buildBeaconPayload kBeaconPayloadLen.toUInt8 node.network.info.extendedPanId
      node.network.info.depth (node.network.permitJoin.isOpen nowMs)
      (node.network.permitJoin.isOpen nowMs) node.network.info.updateId kStackProfilePro =
        .exact bytes := by
    rw [← hbytes, buildBeaconPayload_eq, if_neg (by simp [beaconPayloadBytes, kBeaconPayloadLen]),
      beaconPayloadBytes, beaconPayloadBytes, hcapacity]
  have hsmall : bytes.length < 245 := by
    rw [← hbytes]
    simp [beaconPayloadBytes]
  simp only [Node.sendOurBeacon, hbuilt, Built.exact_bytes] at hlen hbeacon hpayload
  obtain ⟨-, hframe⟩ := MacCall.beacon_build hlen
  rw [hframe, Built.exact_bytes, MacCall.parseBeacon_bytes _ _ _ _ _ hsmall] at hbeacon
  simp only [Option.some.injEq, Prod.mk.injEq, true_and] at hbeacon
  rw [← hbeacon, hframe, Built.exact_bytes] at hpayload
  have hslice : payloadSlice (MacCall.beaconBytes node.network.info.panId
      node.network.info.nwkAddress sequence node.network.isCoordinator
      (node.network.permitJoin.isOpen nowMs) bytes) (some 11)
      bytes.length = bytes := slice_of_length rfl rfl
  rw [hslice, ← hbytes, parseBeaconPayload_bytes _ _ _ _ hdepth (by decide)] at hpayload
  simp only [Option.some.injEq, Prod.mk.injEq, true_and] at hpayload
  rw [← hbeacon, ← hpayload]
  exact ⟨rfl, rfl, rfl⟩

end Handlers

/-! ## Anchors -/

section Anchors

omit [DecidableEq ι]

def World.info (w : World ι) (i : ι) : ZigbeeNetworkInfo := (w.node i).network.info

/-- A joined node has this PAN id and short address, and this depth as far as a beacon tells. -/
def Anchored (w : World ι) (panId shortAddress : UInt16) (depth : UInt8) : Prop :=
  ∃ u, (w.info u).joined = true ∧ (w.info u).panId = panId ∧
    (w.info u).nwkAddress = shortAddress ∧ depth = (w.info u).depth &&& 0x0F

/-- The parent address of `v` is that of `u`. -/
structure Hop (w : World ι) (v u : ι) : Prop where
  joined : (w.info u).joined = true
  panId : (w.info v).panId = (w.info u).panId
  address : (w.info v).parentAddress = (w.info u).nwkAddress
  depth : (w.info v).depth = ((w.info u).depth &&& 0x0F) + 1

/-- States in which a node is not joined. -/
def Outside (state : ZigbeeNetworkState) : Prop :=
  state = .idle ∨ state = .scanning ∨ state = .joining

structure Inv (w : World ι) : Prop where
  roots : ∀ u, (w.node u).role = .coordinator → (w.info u).joined = true ∧ (w.info u).depth = 0
  clock : ∀ u, (w.info u).joined = true → w.joinedAt u ≤ w.joins
  state : ∀ u, Outside (w.info u).state → (w.info u).joined = false
  beacons : ∀ psdu ∈ w.air, ∀ c, Sighted psdu c → Anchored w c.panId c.shortAddress c.depth
  candidates : ∀ i, ∀ c ∈ (w.node i).network.candidates, c.used = true →
    Anchored w c.panId c.shortAddress c.depth
  chosen : ∀ i, (w.info i).state = .joining → Anchored w (w.info i).panId
    (w.node i).chosenParent.shortAddress (w.node i).chosenParent.depth
  parents : ∀ v, (w.info v).joined = true → (w.node v).role ≠ .coordinator →
    ∃ u, Hop w v u ∧ w.joinedAt u < w.joinedAt v

/-- Nodes that are joined stay as they are. -/
def Keeps (w w' : World ι) : Prop :=
  w.joins ≤ w'.joins ∧ ∀ u, (w.info u).joined = true →
    w'.info u = w.info u ∧ w'.joinedAt u = w.joinedAt u

variable {w w' : World ι}

theorem Anchored.keeps {panId shortAddress : UInt16} {depth : UInt8}
    (h : Anchored w panId shortAddress depth) (hk : Keeps w w') :
    Anchored w' panId shortAddress depth := by
  obtain ⟨u, hjoined, hrest⟩ := h
  refine ⟨u, ?_⟩
  rw [(hk.2 u hjoined).1]
  exact ⟨hjoined, hrest⟩

theorem Hop.keeps {v u : ι} (h : Hop w v u) (hv : (w.info v).joined = true) (hk : Keeps w w') :
    Hop w' v u := by
  have hinfo := (hk.2 u h.joined).1
  have hinfo' := (hk.2 v hv).1
  exact ⟨hinfo ▸ h.joined, by rw [hinfo, hinfo', h.panId], by rw [hinfo, hinfo', h.address],
    by rw [hinfo, hinfo', h.depth]⟩

end Anchors

/-! ## One step -/

section Step

variable {w : World ι} {i : ι} {node : Node} {sent : Option Built}

theorem put_info_self : (w.put i node sent).info i = node.network.info := by
  simp only [World.info, World.put, Function.update_self]

theorem put_info_other {u : ι} (hu : u ≠ i) : (w.put i node sent).info u = w.info u := by
  simp only [World.info, World.put, Function.update_of_ne hu]

theorem put_joinedAt_other {u : ι} (hu : u ≠ i) :
    (w.put i node sent).joinedAt u = w.joinedAt u := by
  simp only [World.put]
  split
  · exact Function.update_of_ne hu _ _
  · rfl

omit [DecidableEq ι] in
/-- A joined node can only be moved in ways that leave its identity alone. -/
theorem Inv.info_of_joined (h : Inv w) (hm : Moved w.air (w.node i) node)
    (hjoined : (w.info i).joined = true) : node.network.info = w.info i := by
  have hoff : ¬ Outside (w.info i).state := by
    intro hout
    rw [h.state i hout] at hjoined
    cases hjoined
  cases hm with
  | same role chosen untouched => exact untouched.1
  | noted role chosen info candidates => exact info
  | joined nwkAddress state role chosen candidates outsider was is info =>
    exact absurd (Or.inr (Or.inr was)) hoff
  | scanning role outsider was candidates info => exact absurd was hoff
  | chose parent role outsider was mem used chosen candidates info =>
    exact absurd (Or.inr (Or.inl was)) hoff

theorem Inv.keeps (h : Inv w) (hm : Moved w.air (w.node i) node) :
    Keeps w (w.put i node sent) := by
  refine ⟨?_, fun u hu => ?_⟩
  · simp only [World.put]
    split
    · exact Nat.le_succ _
    · exact Nat.le_refl _
  · by_cases hui : u = i
    · subst hui
      refine ⟨put_info_self.trans (h.info_of_joined hm hu), ?_⟩
      have hjoined : (w.node u).network.info.joined = true := hu
      simp only [World.put, hjoined, Bool.not_true, Bool.false_and, Bool.false_eq_true, if_false]
    · exact ⟨put_info_other hui, put_joinedAt_other hui⟩

section Moves

omit [DecidableEq ι]

theorem Inv.moved_candidates (h : Inv w) (hm : Moved w.air (w.node i) node) :
    ∀ c ∈ node.network.candidates, c.used = true →
      Anchored w c.panId c.shortAddress c.depth := by
  intro c hc hused
  cases hm with
  | same role chosen untouched => exact h.candidates i c (untouched.2 ▸ hc) hused
  | noted role chosen info candidates =>
    rcases candidates c hc with hold | ⟨psdu, hpsdu, hsighted⟩
    · exact h.candidates i c hold hused
    · exact h.beacons psdu hpsdu c hsighted
  | joined nwkAddress state role chosen candidates outsider was is info =>
    exact h.candidates i c (candidates ▸ hc) hused
  | scanning role outsider was candidates info =>
    rw [candidates c hc] at hused
    cases hused
  | chose parent role outsider was mem used chosen candidates info =>
    exact h.candidates i c (candidates ▸ hc) hused

theorem Inv.moved_state (h : Inv w) (hm : Moved w.air (w.node i) node) :
    Outside node.network.info.state → node.network.info.joined = false := by
  intro hout
  cases hm with
  | same role chosen untouched =>
    rw [untouched.1] at hout ⊢
    exact h.state i hout
  | noted role chosen info candidates =>
    rw [info] at hout ⊢
    exact h.state i hout
  | joined nwkAddress state role chosen candidates outsider was is info =>
    rw [info] at hout
    rcases is with rfl | rfl <;> rcases hout with hout | hout | hout <;> cases hout
  | scanning role outsider was candidates info => exact info.1
  | chose parent role outsider was mem used chosen candidates info => exact info.1

theorem Inv.moved_chosen (h : Inv w) (hm : Moved w.air (w.node i) node)
    (hjoining : node.network.info.state = .joining) :
    Anchored w node.network.info.panId node.chosenParent.shortAddress
      node.chosenParent.depth := by
  cases hm with
  | same role chosen untouched =>
    rw [untouched.1] at hjoining ⊢
    rw [chosen]
    exact h.chosen i hjoining
  | noted role chosen info candidates =>
    rw [info] at hjoining ⊢
    rw [chosen]
    exact h.chosen i hjoining
  | joined nwkAddress state role chosen candidates outsider was is info =>
    rw [info] at hjoining
    simp only at hjoining
    rcases is with rfl | rfl <;> cases hjoining
  | scanning role outsider was candidates info =>
    rw [info.2] at hjoining
    cases hjoining
  | chose parent role outsider was mem used chosen candidates info =>
    rw [info.2.2, chosen]
    exact h.candidates i parent mem used

theorem Inv.moved_parent (h : Inv w) (hm : Moved w.air (w.node i) node)
    (hwas : (w.info i).joined = false) (hjoined : node.network.info.joined = true) :
    ∃ u, (w.info u).joined = true ∧ node.network.info.panId = (w.info u).panId ∧
      node.network.info.parentAddress = (w.info u).nwkAddress ∧
      node.network.info.depth = ((w.info u).depth &&& 0x0F) + 1 := by
  cases hm with
  | same role chosen untouched =>
    rw [untouched.1] at hjoined
    exact absurd (hwas.symm.trans hjoined) Bool.false_ne_true
  | noted role chosen info candidates =>
    rw [info] at hjoined
    exact absurd (hwas.symm.trans hjoined) Bool.false_ne_true
  | joined nwkAddress state role chosen candidates outsider was is info =>
    obtain ⟨u, hu, hpan, haddr, hdepth⟩ := h.chosen i was
    refine ⟨u, hu, ?_, ?_, ?_⟩ <;> rw [info]
    · exact hpan.symm
    · exact haddr.symm
    · exact congrArg (· + 1) hdepth
  | scanning role outsider was candidates info =>
    exact absurd (info.1.symm.trans hjoined) Bool.false_ne_true
  | chose parent role outsider was mem used chosen candidates info =>
    exact absurd (info.1.symm.trans hjoined) Bool.false_ne_true

theorem Moved.role {heard : List (List UInt8)} {a b : Node} (hm : Moved heard a b) :
    b.role = a.role := by
  cases hm <;> assumption

end Moves

theorem Inv.put (h : Inv w) (hm : Moved w.air (w.node i) node) (hs : Speaks (w.node i) sent) :
    Inv (w.put i node sent) := by
  have hk : Keeps w (w.put i node sent) := h.keeps hm
  have hself : (w.put i node sent).node i = node := Function.update_self ..
  have hother {u : ι} (hu : u ≠ i) : (w.put i node sent).node u = w.node u :=
    Function.update_of_ne hu ..
  have hjoins : (w.info i).joined = false → node.network.info.joined = true →
      (w.put i node sent).joins = w.joins + 1 ∧ (w.put i node sent).joinedAt i = w.joins + 1 := by
    intro hwas hnow
    have hwas' : (w.node i).network.info.joined = false := hwas
    simp only [World.put, hwas', hnow, Bool.not_false, Bool.true_and, if_true,
      Function.update_self, and_self]
  have hrole' (u : ι) : ((w.put i node sent).node u).role = (w.node u).role := by
    by_cases hui : u = i
    · subst hui
      rw [hself, hm.role]
    · rw [hother hui]
  refine ⟨fun u hu => ?_, fun u hu => ?_, fun u hout => ?_, fun psdu hpsdu c hc => ?_,
    fun u c hc hused => ?_, fun u hjoining => ?_, fun v hv hrole => ?_⟩
  · obtain ⟨hjoined, hdepth⟩ := h.roots u (hrole' u ▸ hu)
    rw [(hk.2 u hjoined).1]
    exact ⟨hjoined, hdepth⟩
  · by_cases hwas : (w.info u).joined = true
    · rw [(hk.2 u hwas).2]
      exact le_trans (h.clock u hwas) hk.1
    · rw [Bool.not_eq_true] at hwas
      by_cases hui : u = i
      · subst hui
        rw [put_info_self] at hu
        rw [(hjoins hwas hu).1, (hjoins hwas hu).2]
      · rw [put_info_other hui, hwas] at hu
        cases hu
  · by_cases hui : u = i
    · subst hui
      rw [put_info_self] at hout ⊢
      exact h.moved_state hm hout
    · rw [put_info_other hui] at hout ⊢
      exact h.state u hout
  · rcases List.mem_append.mp hpsdu with hold | hnew
    · exact (h.beacons psdu hold c hc).keeps hk
    · obtain ⟨b, hb, rfl⟩ := List.mem_map.mp hnew
      obtain ⟨hsent, hlen⟩ := List.mem_filter.mp hb
      rcases hs b (Option.mem_toList.mp hsent) (of_decide_eq_true hlen) with
        hcommand | ⟨hjoined, nowMs, sequence, rfl⟩
      · obtain ⟨beacon, payload, _, _, _, hbeacon, -, -⟩ := hc
        have haccepts : MacParser.beacon.Accepts b.bytes :=
          ⟨(beacon.payload, beacon.payloadLen), by rw [MacParser.run, hbeacon, Option.map_some]⟩
        cases MacParser.accepts_unique hcommand haccepts
      · obtain ⟨hpan, haddr, hdepth⟩ := sendOurBeacon_sighted (of_decide_eq_true hlen) hc
        have hanchored : Anchored w c.panId c.shortAddress c.depth :=
          ⟨i, hjoined, hpan.symm, haddr.symm, hdepth⟩
        exact hanchored.keeps hk
  · apply Anchored.keeps ?_ hk
    by_cases hui : u = i
    · subst hui
      rw [hself] at hc
      exact h.moved_candidates hm c hc hused
    · rw [hother hui] at hc
      exact h.candidates u c hc hused
  · apply Anchored.keeps ?_ hk
    by_cases hui : u = i
    · subst hui
      rw [put_info_self] at hjoining ⊢
      rw [hself]
      exact h.moved_chosen hm hjoining
    · rw [put_info_other hui] at hjoining ⊢
      rw [hother hui]
      exact h.chosen u hjoining
  · by_cases hwas : (w.info v).joined = true
    · rw [hrole'] at hrole
      obtain ⟨u, hhop, hlt⟩ := h.parents v hwas hrole
      refine ⟨u, hhop.keeps hwas hk, ?_⟩
      rw [(hk.2 u hhop.joined).2, (hk.2 v hwas).2]
      exact hlt
    · rw [Bool.not_eq_true] at hwas
      by_cases hvi : v = i
      · subst hvi
        rw [put_info_self] at hv
        obtain ⟨u, hu, hpan, haddr, hdepth⟩ := h.moved_parent hm hwas hv
        refine ⟨u, ⟨?_, ?_, ?_, ?_⟩, ?_⟩
        · rw [(hk.2 u hu).1, hu]
        · rw [put_info_self, (hk.2 u hu).1, hpan]
        · rw [put_info_self, (hk.2 u hu).1, haddr]
        · rw [put_info_self, (hk.2 u hu).1, hdepth]
        · rw [(hk.2 u hu).2, (hjoins hwas hv).2]
          exact Nat.lt_succ_of_le (h.clock u hu)
      · rw [put_info_other hvi, hwas] at hv
        cases hv

theorem Inv.step (h : Inv w) (op : Op ι) (hop : Allowed w op) : Inv (step w op) := by
  cases op with
  | scan i sequence =>
    exact h.put (moved_scan w.air) (speaks_command (.beaconRequest sequence) rfl rfl)
  | choose i => exact h.put (moved_choose w.air) speaks_none
  | request i sequence => exact h.put (.refl w.air _) (speaks_request sequence)
  | hear i psdu scanChannel rssi lqi nowMs sequence =>
    exact h.put (moved_hear hop scanChannel rssi lqi nowMs sequence)
      (speaks_hear lqi nowMs sequence)
  | becomeParent i poolFirst poolLast nowMs =>
    exact h.put (moved_becomeParent w.air poolFirst poolLast nowMs) speaks_none
  | linkStatus i senderShort payload command lqi nowMs =>
    exact h.put (.same rfl rfl (untouched_linkStatus senderShort payload command lqi nowMs))
      speaks_none
  | age i nowMs => exact h.put (moved_age w.air hop) speaks_none

end Step

/-! ## The tree -/

/-- A coordinator that has formed its network, or a node that has not looked for one yet. -/
def Starts (node : Node) : Prop :=
  (∀ c ∈ node.network.candidates, c.used = false) ∧
    ((node.role = .coordinator ∧ node.network.info.joined = true ∧
        node.network.info.state = .coordinator ∧ node.network.info.depth = 0) ∨
      (node.role ≠ .coordinator ∧ node.network.info.joined = false ∧
        node.network.info.state = .idle))

omit [DecidableEq ι] in
theorem Inv.start {nodes : ι → Node} (h : ∀ i, Starts (nodes i)) :
    Inv ⟨nodes, [], 0, fun _ => 0⟩ := by
  have hidle (i : ι) : (nodes i).role ≠ .coordinator →
      (nodes i).network.info.joined = false ∧ (nodes i).network.info.state = .idle := by
    intro hrole
    rcases (h i).2 with hroot | hother
    · exact absurd hroot.1 hrole
    · exact hother.2
  have hroot (i : ι) : (nodes i).role = .coordinator → (nodes i).network.info.joined = true ∧
      (nodes i).network.info.state = .coordinator ∧ (nodes i).network.info.depth = 0 := by
    intro hrole
    rcases (h i).2 with hroot | hother
    · exact hroot.2
    · exact absurd hrole hother.1
  have hstate (i : ι) : (nodes i).network.info.state = .coordinator ∨
      (nodes i).network.info.joined = false ∧ (nodes i).network.info.state = .idle := by
    rcases (h i).2 with hroot | hother
    · exact Or.inl hroot.2.2.1
    · exact Or.inr hother.2
  refine ⟨fun u hu => ⟨(hroot u hu).1, (hroot u hu).2.2⟩, fun _ _ => Nat.le_refl 0,
    fun u hout => ?_, nofun, fun u c hc hused => ?_, fun u hjoining => ?_, fun v hv hrole => ?_⟩
  · rcases hstate u with hcoordinator | hother
    · simp only [World.info, hcoordinator, Outside, reduceCtorEq, or_self] at hout
    · exact hother.1
  · rw [(h u).1 c hc] at hused
    cases hused
  · have hjoining' : (nodes u).network.info.state = .joining := hjoining
    rcases hstate u with hcoordinator | ⟨-, hidle⟩
    · rw [hcoordinator] at hjoining'
      cases hjoining'
    · rw [hidle] at hjoining'
      cases hjoining'
  · have hv' : (nodes v).network.info.joined = true := hv
    rw [(hidle v hrole).1] at hv'
    cases hv'

/-- The depth of a node `n` hops away from a coordinator: a beacon has four bits for it. -/
def depthAt : Nat → Nat
  | 0 => 0
  | n + 1 => depthAt n % 16 + 1

omit [DecidableEq ι] in
theorem depth_of_walk {w : World ι} {root v : ι} {path : List ι} (hdepth : (w.info root).depth = 0)
    (hwalk : Descent.Walk (Hop w) w.joinedAt root v path) :
    (w.info v).depth.toNat = depthAt (path.length - 1) := by
  have hchain : ∀ (path : List ι) (v : ι), (v :: path).IsChain (Hop w) →
      (v :: path).getLast? = some root → (w.info v).depth.toNat = depthAt path.length := by
    intro path
    induction path with
    | nil =>
      intro v _ hlast
      obtain rfl : v = root := by simpa using hlast
      rw [hdepth]
      rfl
    | cons u path ih =>
      intro v hfollows hlast
      obtain ⟨hvu, hrest⟩ := List.isChain_cons_cons.mp hfollows
      have hu := ih u hrest (by simpa using hlast)
      have hmod : ((w.info u).depth &&& 0x0F).toNat = (w.info u).depth.toNat % 16 := by
        rw [UInt8.toNat_and]
        exact Nat.and_two_pow_sub_one_eq_mod _ 4
      rw [hvu.depth, UInt8.toNat_add, hmod, hu]
      simp only [List.length_cons, depthAt]
      have hlt := Nat.mod_lt (depthAt path.length) (show 0 < 16 by decide)
      exact Nat.mod_eq_of_lt (by simp only [UInt8.toNat_one]; omega)
  cases path with
  | nil => cases hwalk.start
  | cons x path =>
    obtain rfl : x = v := by simpa using hwalk.start
    exact hchain path x hwalk.follows hwalk.finish

/-- From every joined node the parent addresses lead to a coordinator, from each node to one that
joined before it, and its depth counts the hops. -/
theorem formation_tree {nodes : ι → Node} (hstart : ∀ i, Starts (nodes i)) (ops : List (Op ι))
    (hops : Runs.Along step Allowed ⟨nodes, [], 0, fun _ => 0⟩ ops) :
    let w := ops.foldl step ⟨nodes, [], 0, fun _ => 0⟩
    ∀ v, (w.info v).joined = true → ∃ root path, (w.node root).role = .coordinator ∧
      (w.info root).joined = true ∧ Descent.Walk (Hop w) w.joinedAt root v path ∧
      (w.info v).depth.toNat = depthAt (path.length - 1) := by
  intro w v hv
  have h : Inv w := hops.invariant (fun _ op hi hop => hi.step op hop) (.start hstart)
  have hnext : ∀ v, (w.info v).joined = true → ¬ (w.node v).role = .coordinator →
      ∃ u, Hop w v u ∧ w.joinedAt u < w.joinedAt v ∧ (w.info u).joined = true := by
    intro v hv hrole
    obtain ⟨u, hhop, hlt⟩ := h.parents v hv hrole
    exact ⟨u, hhop, hlt, hhop.joined⟩
  obtain ⟨root, path, hroot, hjoined, hwalk⟩ := Descent.exists_walk_to (Hop w) hnext v hv
  exact ⟨root, path, hroot, hjoined, hwalk, depth_of_walk (h.roots root hroot).2 hwalk⟩

section Witness

private def hall : Bool → Node
  | true =>
    let net := (init (List.replicate 8 {})).beginCoordinator 0x1A62 0x195E 15 0
    { role := .coordinator, thisIeee := 0x1A62195E00000001, secureJoin := false
      network := (net.configureAddressPool 0x30 0x3F).permitJoining 0xFF 0 }
  | false =>
    { role := .router, thisIeee := 0x1A62195E00000002, secureJoin := false
      network := init (List.replicate 8 {}) }

private def hallAt (ops : List (Op Bool)) : World Bool :=
  ops.foldl step ⟨hall, [], 0, fun _ => 0⟩

/-- After `ops`, node `i` hears what was sent last. -/
private def hears (i : Bool) (ops : List (Op Bool)) : List (Op Bool) :=
  ops ++ [.hear i ((hallAt ops).air.getLast?.getD []) 15 (-40) 200 100 7]

private def lampJoinsHall : List (Op Bool) :=
  hears false (hears true (hears false (hears true [.scan false 1]) ++
    [.choose false, .request false 2]))

theorem formation_tree_hall : ∃ root path,
    ((hallAt lampJoinsHall).node root).role = .coordinator ∧
      ((hallAt lampJoinsHall).info root).joined = true ∧
      Descent.Walk (Hop (hallAt lampJoinsHall)) (hallAt lampJoinsHall).joinedAt root false path ∧
      ((hallAt lampJoinsHall).info false).depth.toNat = depthAt (path.length - 1) := by
  have hstart : ∀ i, Starts (hall i) := by
    intro i
    cases i with
    | true => exact ⟨by decide, Or.inl ⟨rfl, rfl, rfl, rfl⟩⟩
    | false => exact ⟨by decide, Or.inr ⟨by decide, rfl, rfl⟩⟩
  exact formation_tree hstart lampJoinsHall (by decide +kernel) false (by decide +kernel)

end Witness

end NiusZigbee.Formation
