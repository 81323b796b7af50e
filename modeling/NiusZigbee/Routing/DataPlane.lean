import NiusZigbee.Library.Runs
import NiusZigbee.Network.Formation
import NiusZigbee.Radio.Limits
import NiusZigbee.Routing.Discovery
import NiusZigbee.Routing.SourceRoute

/-!
# Frames passed on by the nodes

A node of the sketch learns a route back from every data frame it gets, follows the source route of
a frame that has one and passes other frames on by its route table. A frame goes out if the driver
takes it, secured or not, and is here as the driver of a receiver opens it. Whatever the route
tables hold, and whatever is lost, repeated or overheard, a frame in the air carries what its source
sent, and has been passed on as often as its radius says.
-/

namespace NiusZigbee.DataPlane

open ByteCodec OutBuffer ZigbeeNwk
open Formation (Role)

def kDefaultRadius : UInt8 := 30
def kBroadcastRxOnWhenIdle : UInt16 := 0xFFFD
def zbNwkAddrCoordinator : UInt16 := 0x0000
def nwkCmdRouteRecord : UInt8 := 0x05

/-- The part of the sketch that passes frames on. -/
structure Node where
  role : Role
  /-- Built with `NIUS_ZIGBEE_SOURCEROUTE`. -/
  sourceRouting : Bool
  joined : Bool
  shortAddress : UInt16
  parentAddress : UInt16
  routing : ZigbeeRouting
  /-- A network key is attached to the radio. -/
  keyed : Bool := false
  nwkSequence : UInt8 := 0
  srSeq : UInt8 := 0
  srDst : UInt16 := 0xFFFF
  srRelays : List UInt16 := []

/-- A frame handed to the radio, with its MAC destination. -/
structure Out where
  macDst : UInt16
  npdu : List UInt8
deriving DecidableEq

namespace Node

variable (node : Node)

/-- What the radio sends: nothing if the driver does not take the frame. -/
def radioSend (macDst : UInt16) (npdu : List UInt8) : Option Out :=
  if CC2530Radio.Takes node.keyed npdu then some ⟨macDst, npdu⟩ else none

/-- What it sends of a frame that was built. -/
def transmit (macDst : UInt16) (npdu : Built) : Option Out :=
  if npdu.len = 0 then none else node.radioSend macDst npdu.bytes

def sendNwkData (macDst dst src : UInt16) (payload : List UInt8) (radius : UInt8) :
    Node × Option Out :=
  ({ node with nwkSequence := node.nwkSequence + 1 },
    node.transmit macDst
      (buildDataFrame kMaxFrame.toUInt8 dst src radius node.nwkSequence payload 0))

def sendNwkCommand (macDst dst src : UInt16) (commandId : UInt8) (payload : List UInt8) :
    Node × Option Out :=
  ({ node with nwkSequence := node.nwkSequence + 1 },
    node.transmit macDst
      (buildCommandFrame kMaxFrame.toUInt8 dst src kDefaultRadius node.nwkSequence commandId payload
        0))

/-- Over the mesh towards `dst`, or straight to it without a route. -/
def sendApsRouted (dst : UInt16) (apdu : List UInt8) : Node × Option Out :=
  let nextHop := node.routing.nextHopFor dst
  node.sendNwkData (if nextHop = ZigbeeRouting.kNoNextHop then dst else nextHop) dst
    node.shortAddress apdu kDefaultRadius

/-- `serviceGroupCast`. -/
def groupCast (apdu : List UInt8) : Node × Option Out :=
  node.sendNwkData ZigbeeMac.kBroadcastShort kBroadcastRxOnWhenIdle node.shortAddress apdu
    kDefaultRadius

/-! ## Data frames -/

/-- Whoever handed on a frame leads back to its source. -/
def learn (macSrc nwkSrc : UInt16) (nowMs : UInt32) : Node :=
  if nwkSrc ≠ node.shortAddress ∧ macSrc < 0xFFF8 ∧ nwkSrc < 0xFFF8 then
    let routes :=
      ZigbeeRouteTable.upsert node.routing.routes nwkSrc macSrc .active false false nowMs
    { node with routing := { node.routing with routes := routes } }
  else node

def relayPolicy : RelayPolicy :=
  ⟨kMaxFrame.toUInt8, fun radius => if radius > 1 then radius - 1 else 1, 0⟩

def forward (frame : NwkDataFrame) (payload : List UInt8) : Node × Option Out :=
  if frame.dstShort ≠ node.shortAddress ∧ frame.dstShort < 0xFFF8 then
    let nextHop := node.routing.nextHopFor frame.dstShort
    if nextHop ≠ ZigbeeRouting.kNoNextHop ∧ frame.radius > 1 ∧ node.role ≠ .endDevice then
      node.sendNwkData nextHop frame.dstShort frame.srcShort payload (frame.radius - 1)
    else (node, none)
  else (node, none)

def onNwkData (macSrc : UInt16) (npdu : List UInt8) (frame : NwkDataFrame) (nowMs : UInt32) :
    Node × Option Out :=
  if !node.joined then (node, none)
  else
    let learned := node.learn macSrc frame.srcShort nowMs
    if node.sourceRouting && frame.sourceRoute then
      if frame.dstShort = node.shortAddress then (learned, none)
      else
        match hop relayPolicy ⟨node.shortAddress, npdu⟩ with
        | some (.forwarded next) => (learned, node.radioSend next.node next.npdu)
        | _ => (learned, none)
    else learned.forward frame (frame.payloadBytes npdu)

/-- What the driver hands to the application, beside `onNwkData`. -/
def receives (frame : NwkDataFrame) : Bool :=
  frame.dstShort = node.shortAddress || frame.dstShort ≥ 0xFFF8

/-! ## Route records -/

def towardCoordinator : UInt16 :=
  let nextHop := node.routing.nextHopFor zbNwkAddrCoordinator
  if nextHop = ZigbeeRouting.kNoNextHop then node.parentAddress else nextHop

/-- The end device's part of `serviceSourceRoute`. -/
def sendRouteRecord : Node × Option Out :=
  if node.sourceRouting && node.joined && node.role == .endDevice then
    node.sendNwkCommand node.towardCoordinator zbNwkAddrCoordinator node.shortAddress
      nwkCmdRouteRecord (buildRouteRecordPayload 8 []).bytes
  else (node, none)

/-- The concentrator's part of `serviceSourceRoute`. -/
def sendSourceRouted (payload : List UInt8) : Node × Option Out :=
  match node.srRelays with
  | [] => (node, none)
  | first :: _ =>
    if node.sourceRouting && node.joined && node.role == .coordinator then
      ({ node with srSeq := node.srSeq + 1 },
        node.transmit first
          (buildDataFrameSourceRouted kMaxFrame.toUInt8 node.srDst node.shortAddress kDefaultRadius
            node.srSeq node.srRelays 0 payload 0))
    else (node, none)

/-- The Route Record branch of `onNwkCommand`. -/
def onRouteRecord (npdu : List UInt8) (frame : NwkCommandFrame) : Node × Option Out :=
  let payload := frame.payloadBytes npdu
  match parseRouteRecordPayload payload with
  | some (true, record) =>
    match extractRelays payload record 7 with
    | none => (node, none)
    | some relays =>
      if node.role = .coordinator then
        ({ node with srDst := frame.srcShort, srRelays := relays.reverse }, none)
      else
        let relays := if relays.length < 7 then relays ++ [node.shortAddress] else relays
        node.sendNwkCommand node.towardCoordinator zbNwkAddrCoordinator frame.srcShort
          nwkCmdRouteRecord (buildRouteRecordPayload 40 relays).bytes
  | _ => (node, none)

def onNwkCommand (npdu : List UInt8) (frame : NwkCommandFrame) : Node × Option Out :=
  if node.sourceRouting && node.joined && frame.commandId == nwkCmdRouteRecord then
    node.onRouteRecord npdu frame
  else (node, none)

/-- A frame that arrives, by its type. -/
def hear (macSrc : UInt16) (npdu : List UInt8) (nowMs : UInt32) : Node × Option Out :=
  match parseDataFrame npdu with
  | some (true, frame) => node.onNwkData macSrc npdu frame nowMs
  | _ =>
    match parseCommandFrame npdu with
    | some (true, frame) => node.onNwkCommand npdu frame
    | _ => (node, none)

end Node

/-! ## The network -/

structure Message where
  src : UInt16
  dst : UInt16
  payload : List UInt8
deriving DecidableEq

/-- A frame in the air, with who sent it and how often it had been passed on. -/
structure Hop (ι : Type) where
  macSrc : UInt16
  macDst : UInt16
  npdu : List UInt8
  sender : ι
  forwards : Nat
deriving DecidableEq

/-- A message handed to the application of a node that had this address. -/
structure Arrival (ι : Type) where
  node : ι
  address : UInt16
  message : Message
deriving DecidableEq

/-- The nodes, all frames in the air, and as history what was sent and what arrived. -/
structure World (ι : Type) where
  node : ι → Node
  air : List (Hop ι) := []
  sent : List Message := []
  arrived : List (Arrival ι) := []

inductive Op (ι : Type) where
  | send (i : ι) (dst : UInt16) (apdu : List UInt8)
  | groupCast (i : ι) (apdu : List UInt8)
  | sendRouteRecord (i : ι)
  | sendSourceRouted (i : ι) (payload : List UInt8)
  | hear (i : ι) (hop : Hop ι) (nowMs : UInt32)
  /-- Joining, leaving, a key and route discovery, whatever they come to. -/
  | control (i : ι) (joined keyed : Bool) (shortAddress parentAddress : UInt16)
    (routing : ZigbeeRouting)

variable {ι : Type} [DecidableEq ι]

/-- Node `i` comes out as `result` says, which may put a frame into the air. -/
def World.put (w : World ι) (i : ι) (result : Node × Option Out) (forwards : Nat) : World ι :=
  { w with
    node := Function.update w.node i result.1
    air := w.air ++ result.2.toList.map fun out =>
      ⟨(w.node i).shortAddress, out.macDst, out.npdu, i, forwards⟩ }

/-- Node `i` sends a payload of its own to `dst`. -/
def World.emit (w : World ι) (i : ι) (dst : UInt16) (payload : List UInt8)
    (result : Node × Option Out) : World ι :=
  { w.put i result 0 with
    sent := w.sent ++ result.2.toList.map fun _ => ⟨(w.node i).shortAddress, dst, payload⟩ }

/-- What the application of a node gets out of a frame. -/
def arrivals (i : ι) (node : Node) (npdu : List UInt8) : List (Arrival ι) :=
  match parseDataFrame npdu with
  | some (true, frame) =>
    if node.receives frame then
      [⟨i, node.shortAddress, ⟨frame.srcShort, frame.dstShort, frame.payloadBytes npdu⟩⟩]
    else []
  | _ => []

def step (w : World ι) : Op ι → World ι
  | .send i dst apdu => w.emit i dst apdu ((w.node i).sendApsRouted dst apdu)
  | .groupCast i apdu => w.emit i kBroadcastRxOnWhenIdle apdu ((w.node i).groupCast apdu)
  | .sendRouteRecord i => w.put i (w.node i).sendRouteRecord 0
  | .sendSourceRouted i payload =>
    w.emit i (w.node i).srDst payload ((w.node i).sendSourceRouted payload)
  | .hear i hop nowMs =>
    { w.put i ((w.node i).hear hop.macSrc hop.npdu nowMs) (hop.forwards + 1) with
      arrived := w.arrived ++ arrivals i (w.node i) hop.npdu }
  | .control i joined keyed shortAddress parentAddress routing =>
    let node := w.node i
    w.put i
      ({ node with
          joined := joined, keyed := keyed, shortAddress := shortAddress
          parentAddress := parentAddress, routing := routing }, none) 0

/-- Only frames that were sent are heard. -/
def Allowed (w : World ι) : Op ι → Prop
  | .hear _ hop _ => hop ∈ w.air
  | _ => True

instance (w : World ι) : ∀ op, Decidable (Allowed w op)
  | .hear _ hop _ => inferInstanceAs (Decidable (hop ∈ w.air))
  | .send .. | .groupCast .. | .sendRouteRecord .. | .sendSourceRouted .. | .control .. =>
    .isTrue trivial

/-! ## One node -/

section Handlers

variable {node : Node} {macSrc : UInt16} {npdu : List UInt8} {nowMs : UInt32}

/-- Passing frames on changes neither who a node is nor where it is. -/
structure Same (node node' : Node) : Prop where
  role : node'.role = node.role
  sourceRouting : node'.sourceRouting = node.sourceRouting
  joined : node'.joined = node.joined
  keyed : node'.keyed = node.keyed
  shortAddress : node'.shortAddress = node.shortAddress
  parentAddress : node'.parentAddress = node.parentAddress

theorem Same.refl (node : Node) : Same node node := ⟨rfl, rfl, rfl, rfl, rfl, rfl⟩

theorem Same.trans {node' node'' : Node} (h : Same node node') (h' : Same node' node'') :
    Same node node'' :=
  ⟨h'.role.trans h.role, h'.sourceRouting.trans h.sourceRouting, h'.joined.trans h.joined,
    h'.keyed.trans h.keyed, h'.shortAddress.trans h.shortAddress,
    h'.parentAddress.trans h.parentAddress⟩

theorem learn_same (nwkSrc : UInt16) : Same node (node.learn macSrc nwkSrc nowMs) ∧
    (node.learn macSrc nwkSrc nowMs).srRelays = node.srRelays := by
  unfold Node.learn
  split <;> exact ⟨⟨rfl, rfl, rfl, rfl, rfl, rfl⟩, rfl⟩

theorem forward_same (frame : NwkDataFrame) (payload : List UInt8) :
    Same node (node.forward frame payload).1 ∧
      (node.forward frame payload).1.srRelays = node.srRelays ∧
      (node.forward frame payload).1.routing = node.routing := by
  simp only [Node.forward]
  split
  · split <;> exact ⟨⟨rfl, rfl, rfl, rfl, rfl, rfl⟩, rfl, rfl⟩
  · exact ⟨.refl node, rfl, rfl⟩

theorem onNwkData_same (frame : NwkDataFrame) :
    Same node (node.onNwkData macSrc npdu frame nowMs).1 ∧
      (node.onNwkData macSrc npdu frame nowMs).1.srRelays = node.srRelays := by
  have hlearn := @learn_same node macSrc nowMs frame.srcShort
  simp only [Node.onNwkData]
  split
  · exact ⟨.refl node, rfl⟩
  split
  · split
    · exact hlearn
    · split <;> exact hlearn
  · have hforward := @forward_same (node.learn macSrc frame.srcShort nowMs) frame
      (frame.payloadBytes npdu)
    exact ⟨hlearn.1.trans hforward.1, hforward.2.1.trans hlearn.2⟩

theorem mapM_length {f : Nat → Option UInt16} {l : List Nat} {relays : List UInt16}
    (h : l.mapM f = some relays) : relays.length = l.length := by
  induction l generalizing relays with
  | nil =>
    obtain rfl : [] = relays := Option.some.inj h
    rfl
  | cons x l ih =>
    simp only [List.mapM_cons, Option.pure_def, Option.bind_eq_bind, Option.bind_eq_some_iff,
      Option.some.injEq] at h
    obtain ⟨relay, -, rest, hrest, rfl⟩ := h
    rw [List.length_cons, List.length_cons, ih hrest]

theorem onRouteRecord_same (frame : NwkCommandFrame) (hrelays : node.srRelays.length ≤ 7) :
    Same node (node.onRouteRecord npdu frame).1 ∧
      (node.onRouteRecord npdu frame).1.srRelays.length ≤ 7 := by
  simp only [Node.onRouteRecord]
  split
  · split
    · exact ⟨.refl node, hrelays⟩
    · next relays hextract =>
      split
      · refine ⟨⟨rfl, rfl, rfl, rfl, rfl, rfl⟩, ?_⟩
        simp only [List.length_reverse]
        rw [mapM_length hextract, List.length_range]
        exact Nat.min_le_right _ _
      · exact ⟨⟨rfl, rfl, rfl, rfl, rfl, rfl⟩, hrelays⟩
  · exact ⟨.refl node, hrelays⟩

theorem hear_same (hrelays : node.srRelays.length ≤ 7) :
    Same node (node.hear macSrc npdu nowMs).1 ∧
      (node.hear macSrc npdu nowMs).1.srRelays.length ≤ 7 := by
  unfold Node.hear
  split
  · next frame _ =>
    obtain ⟨hsame, hrest⟩ := @onNwkData_same node macSrc npdu nowMs frame
    exact ⟨hsame, by rw [hrest]; exact hrelays⟩
  · split
    · next frame _ =>
      unfold Node.onNwkCommand
      split
      · exact onRouteRecord_same frame hrelays
      · exact ⟨.refl node, hrelays⟩
    · exact ⟨.refl node, hrelays⟩

/-- A message as bytes: plain, passed on by routers only, or at the relay its route is at. `role`
is the sender's. -/
inductive Shape (role : Role) (m : Message) (radius : UInt8) (forwards : Nat) : List UInt8 → Prop
  | plain (sequence : UInt8) (fits : m.payload.length ≤ kMaxPayload)
      (passed : forwards ≠ 0 → m.dst < 0xFFF8 ∧ role ≠ .endDevice) :
      Shape role m radius forwards
        (headerBytes (baseFcf nwkFrameData 0) m.dst m.src radius sequence m.payload)
  | routed (sequence : UInt8) (relays : List UInt16)
      (fits : Node.relayPolicy.Admits relays m.payload) (here : forwards ≤ relays.length) :
      Shape role m radius forwards
        (routedNpdu m.dst m.src radius sequence 0 relays forwards.toUInt8 m.payload)

theorem Shape.parse {role : Role} {m : Message} {radius : UInt8} {forwards : Nat}
    (h : Shape role m radius forwards npdu) :
    ∃ frame, parseDataFrame npdu = some (true, frame) ∧ frame.srcShort = m.src ∧
      frame.dstShort = m.dst ∧ frame.payloadBytes npdu = m.payload ∧ frame.radius = radius ∧
      (frame.sourceRoute = true → forwards ≤ frame.srRelayCount.toNat) ∧
      (frame.sourceRoute = false → forwards ≠ 0 → m.dst < 0xFFF8 ∧ role ≠ .endDevice) := by
  cases h with
  | plain sequence fits passed =>
    have hslice : slice (headerBytes (baseFcf nwkFrameData 0) m.dst m.src radius sequence m.payload)
        kBaseHeaderLen m.payload.length = m.payload :=
      (slice_headerRest _ m.dst m.src radius sequence m.payload 0 _).trans
        (slice_append [] m.payload)
    exact ⟨_, parseDataFrame_header m.dst m.src radius sequence fits (by decide), rfl, rfl, hslice,
      rfl, nofun, fun _ => passed⟩
  | routed sequence relays fits here =>
    refine ⟨_, parse_routed fits (by decide) forwards.toUInt8, rfl, rfl,
      payloadBytes_routed m.dst m.src radius sequence 0 _, rfl, fun _ => ?_, nofun⟩
    have hcount := fits.count
    simp only [ZigbeeSourceRouteTable.kMaxRelays] at hcount
    change forwards ≤ relays.length.toUInt8.toNat
    rw [toNat_toUInt8 (by omega)]
    exact here

theorem transmit_some {macDst : UInt16} {npdu : Built} {out : Out}
    (h : node.transmit macDst npdu = some out) :
    npdu.len ≠ 0 ∧ CC2530Radio.Takes node.keyed npdu.bytes ∧ out = ⟨macDst, npdu.bytes⟩ := by
  simp only [Node.transmit, Node.radioSend, Option.ite_none_left_eq_some,
    Option.ite_none_right_eq_some, Option.some.injEq] at h
  exact ⟨h.1, h.2.1, h.2.2.symm⟩

theorem transmit_data {macDst dst src : UInt16} {radius sequence : UInt8} {payload : List UInt8}
    {out : Out} (h : node.transmit macDst (buildDataFrame kMaxFrame.toUInt8 dst src radius sequence
      payload 0) = some out) :
    payload.length ≤ kMaxPayload ∧ out =
      ⟨macDst, headerBytes (baseFcf nwkFrameData 0) dst src radius sequence payload⟩ := by
  obtain ⟨hlen, -, rfl⟩ := transmit_some h
  obtain ⟨hfits, hbuilt⟩ := buildDataFrame_bytes hlen
  exact ⟨hfits, by rw [hbuilt, Built.exact_bytes]⟩

theorem transmit_routed {macDst dst src : UInt16} {radius sequence : UInt8} {relays : List UInt16}
    {payload : List UInt8} {out : Out} (hcount : relays.length ≤ 7)
    (h : node.transmit macDst (buildDataFrameSourceRouted kMaxFrame.toUInt8 dst src radius sequence
      relays 0 payload 0) = some out) :
    Node.relayPolicy.Admits relays payload ∧
      out = ⟨macDst, routedNpdu dst src radius sequence 0 relays 0 payload⟩ := by
  obtain ⟨hlen, -, rfl⟩ := transmit_some h
  have hsize : (kBaseHeaderLen + (2 + relays.length * 2) % 256) % 256 + payload.length ≤
      kMaxFrame.toUInt8.toNat ∧ payload.length ≤ kMaxPayload := by
    by_contra hbad
    apply hlen
    rw [not_and_or, Nat.not_le, Nat.not_le] at hbad
    simp only [buildDataFrameSourceRouted]
    rw [if_neg (by decide)]
    split
    · rfl
    · next hsize => rw [if_pos (hbad.resolve_left hsize)]; rfl
  have hfits : Node.relayPolicy.Admits relays payload :=
    { count := Nat.le_succ_of_le hcount
      size := by
        have hsize := hsize.1
        simp only [kBaseHeaderLen] at hsize ⊢
        change _ ≤ kMaxFrame.toUInt8.toNat
        omega
      payload := hsize.2
      discover := by decide }
  exact ⟨hfits, congrArg _ (build_routed hfits dst src radius sequence 0).2⟩

/-- A source-routed frame is passed on by the relay its route is at, and by nobody else. -/
theorem hop_routed {dst src : UInt16} {radius sequence : UInt8} {relays : List UInt16}
    {payload : List UInt8} {k : Nat} (hfits : Node.relayPolicy.Admits relays payload)
    (hk : k ≤ relays.length) {self : UInt16} (hself : dst ≠ self) {next : InFlight}
    (h : hop Node.relayPolicy
      ⟨self, routedNpdu dst src radius sequence 0 relays k.toUInt8 payload⟩ =
        some (.forwarded next)) :
    relays[k]? = some self ∧ next = ⟨relays[k + 1]?.getD dst,
      routedNpdu dst src (Node.relayPolicy.nextRadius radius) sequence 0 relays (k + 1).toUInt8
        payload⟩ := by
  by_cases hrelay : relays[k]? = some self
  · refine ⟨hrelay, ?_⟩
    rw [hop_relay hfits (by decide) hrelay hself.symm] at h
    exact (HopResult.forwarded.inj (Option.some.inj h)).symm
  · simp only [hop, parse_routed hfits (show (0 : UInt8) ≤ 3 by decide),
      sourceRouteAction_routed hfits hk, if_neg hself, if_neg hrelay, Option.bind_eq_bind,
      Option.bind_some, Bool.not_true, Bool.false_eq_true, if_false, Option.pure_def,
      Option.some.injEq, reduceCtorEq] at h

theorem radius_pred {radius : UInt8} (h : radius > 1) :
    (radius - 1).toNat + 1 = radius.toNat := by
  have hlt := UInt8.lt_iff_toNat_lt.mp h
  rw [UInt8.toNat_one] at hlt
  rw [UInt8.toNat_sub_of_le _ _ (UInt8.le_iff_toNat_le.mpr (by rw [UInt8.toNat_one]; omega)),
    UInt8.toNat_one]
  omega

theorem forward_shape {m : Message} {frame : NwkDataFrame} {forwards : Nat} {out : Out}
    (hsrc : frame.srcShort = m.src) (hdst : frame.dstShort = m.dst)
    (hbudget : frame.radius.toNat + forwards = 30)
    (h : (node.forward frame m.payload).2 = some out) :
    ∃ radius, radius.toNat + (forwards + 1) = 30 ∧ 0 < radius.toNat ∧
      Shape node.role m radius (forwards + 1) out.npdu := by
  simp only [Node.forward] at h
  split at h
  · next hunicast =>
    split at h
    · next hgate =>
      obtain ⟨hfits, rfl⟩ := transmit_data h
      have hpred := radius_pred hgate.2.1
      have hone := UInt8.lt_iff_toNat_lt.mp hgate.2.1
      rw [UInt8.toNat_one] at hone
      refine ⟨frame.radius - 1, by omega, by omega, ?_⟩
      rw [hsrc, hdst]
      exact .plain _ hfits fun _ => ⟨hdst ▸ hunicast.2, hgate.2.2⟩
    · cases h
  · cases h

/-- What a node makes of a message it hears is the same message, one hop on. -/
theorem hear_shape {role : Role} {m : Message} {radius : UInt8} {forwards : Nat} {out : Out}
    (hshape : Shape role m radius forwards npdu) (hbudget : radius.toNat + forwards = 30)
    (h : (node.hear macSrc npdu nowMs).2 = some out) :
    ∃ radius, radius.toNat + (forwards + 1) = 30 ∧ 0 < radius.toNat ∧
      Shape node.role m radius (forwards + 1) out.npdu := by
  obtain ⟨frame, hparse, hsrc, hdst, hpayload, hradius, -, -⟩ := hshape.parse
  have hrole : (node.learn macSrc frame.srcShort nowMs).role = node.role :=
    (learn_same frame.srcShort).1.role
  simp only [Node.hear, hparse, Node.onNwkData] at h
  split at h
  · cases h
  split at h
  · next hfollow =>
    split at h
    · cases h
    · next hself =>
      split at h
      · next next hhop =>
        simp only [Node.radioSend, Option.ite_none_right_eq_some, Option.some.injEq] at h
        obtain ⟨-, rfl⟩ := h
        cases hshape with
        | plain sequence fits passed =>
          rw [parseDataFrame_header m.dst m.src radius sequence fits (by decide)] at hparse
          obtain rfl := (Prod.mk.inj (Option.some.inj hparse)).2
          simp at hfollow
        | routed sequence relays fits here =>
          obtain ⟨hrelay, rfl⟩ := hop_routed fits here (hdst ▸ hself) hhop
          obtain ⟨hlt, -⟩ := List.getElem?_eq_some_iff.mp hrelay
          have hcount := fits.count
          simp only [ZigbeeSourceRouteTable.kMaxRelays] at hcount
          have hbig : radius > 1 := by
            rw [gt_iff_lt, UInt8.lt_iff_toNat_lt, UInt8.toNat_one]
            omega
          have hpred := radius_pred hbig
          have hnext : Node.relayPolicy.nextRadius radius = radius - 1 := if_pos hbig
          rw [hnext]
          exact ⟨radius - 1, by omega, by omega, .routed sequence relays fits hlt⟩
      · cases h
  · rw [hpayload] at h
    rw [← hrole]
    exact forward_shape hsrc hdst (hradius ▸ hbudget) h

/-- A NWK command as bytes. -/
def Command (npdu : List UInt8) : Prop :=
  ∃ dst src radius sequence rest,
    npdu = headerBytes (baseFcf nwkFrameCommand 0) dst src radius sequence rest

theorem Command.parse (h : Command npdu) : parseDataFrame npdu = some (false, {}) := by
  obtain ⟨dst, src, radius, sequence, rest, rfl⟩ := h
  have hfcf := decode_commandFcf (show (0 : UInt8) ≤ 3 by decide)
  simp only [parseDataFrame, headerBytes_length, read16_header0, Option.bind_eq_bind,
    Option.bind_some, hfcf]
  rw [if_neg (by simp [kBaseHeaderLen]), if_pos (by decide)]
  rfl

theorem transmit_command {macDst dst src : UInt16} {radius sequence commandId : UInt8}
    {payload : List UInt8} {out : Out}
    (h : node.transmit macDst (buildCommandFrame kMaxFrame.toUInt8 dst src radius sequence commandId
      payload 0) = some out) :
    payload.length ≤ kMaxPayload - 1 ∧ out = ⟨macDst,
      headerBytes (baseFcf nwkFrameCommand 0) dst src radius sequence (commandId :: payload)⟩ := by
  obtain ⟨hlen, -, rfl⟩ := transmit_some h
  have hfits : payload.length ≤ kMaxPayload - 1 := by
    by_contra hlong
    apply hlen
    rw [buildCommandFrame, if_pos (by simp [kMaxPayload, kMaxFrame, kBaseHeaderLen] at hlong ⊢
                                      omega)]
    rfl
  refine ⟨hfits, ?_⟩
  rw [buildCommandFrame_eq dst src radius sequence commandId _ hfits (by decide),
    Built.exact_bytes]
  simp only [kMaxPayload, kMaxFrame, kBaseHeaderLen] at hfits ⊢
  change _ ≤ 116
  omega

theorem sendNwkCommand_command {macDst dst src : UInt16} {commandId : UInt8} {payload : List UInt8}
    {out : Out} (h : (node.sendNwkCommand macDst dst src commandId payload).2 = some out) :
    Command out.npdu := by
  obtain ⟨-, rfl⟩ := transmit_command h
  exact ⟨_, _, _, _, _, rfl⟩

theorem hear_command {out : Out} (hcommand : Command npdu)
    (h : (node.hear macSrc npdu nowMs).2 = some out) : Command out.npdu := by
  simp only [Node.hear, hcommand.parse] at h
  split at h
  · simp only [Node.onNwkCommand] at h
    split at h
    · simp only [Node.onRouteRecord] at h
      split at h
      · split at h
        · cases h
        · split at h
          · cases h
          · exact sendNwkCommand_command h
      · cases h
    · cases h
  · cases h

end Handlers

/-! ## Whole runs -/

section Runs

omit [DecidableEq ι] in
/-- A frame in the air is a message that was sent, or a command. -/
inductive Carried (w : World ι) (hop : Hop ι) : Prop
  | message (m : Message) (sent : m ∈ w.sent) (radius : UInt8)
      (budget : radius.toNat + hop.forwards = 30) (alive : 0 < radius.toNat)
      (shape : Shape (w.node hop.sender).role m radius hop.forwards hop.npdu)
  | command (command : Command hop.npdu)

structure Inv (w : World ι) : Prop where
  air : ∀ hop ∈ w.air, Carried w hop
  arrived : ∀ a ∈ w.arrived, a.message ∈ w.sent ∧
    (a.message.dst = a.address ∨ a.message.dst ≥ 0xFFF8)
  records : ∀ i, (w.node i).srRelays.length ≤ 7

variable {w : World ι} {i : ι}

omit [DecidableEq ι] in
theorem Carried.mono {w' : World ι} {hop : Hop ι} (h : Carried w hop)
    (hsent : ∀ m ∈ w.sent, m ∈ w'.sent) (hrole : ∀ i, (w'.node i).role = (w.node i).role) :
    Carried w' hop := by
  cases h with
  | message m sent radius budget alive shape =>
    exact .message m (hsent m sent) radius budget alive (hrole hop.sender ▸ shape)
  | command command => exact .command command

/-- What a step must show: the node is the same, and what it sends is carried. -/
theorem Inv.next {w' : World ι} (h : Inv w) {result : Node × Option Out} {forwards : Nat}
    (hnode : w'.node = Function.update w.node i result.1)
    (hair : w'.air = w.air ++ result.2.toList.map fun out =>
      ⟨(w.node i).shortAddress, out.macDst, out.npdu, i, forwards⟩)
    (hrole : result.1.role = (w.node i).role) (hrecords : result.1.srRelays.length ≤ 7)
    (hsent : ∀ m ∈ w.sent, m ∈ w'.sent)
    (harrived : ∀ a ∈ w'.arrived, a ∈ w.arrived ∨
      a.message ∈ w'.sent ∧ (a.message.dst = a.address ∨ a.message.dst ≥ 0xFFF8))
    (hout : ∀ out, result.2 = some out →
      Carried w' ⟨(w.node i).shortAddress, out.macDst, out.npdu, i, forwards⟩) : Inv w' := by
  have hroles (j : ι) : (w'.node j).role = (w.node j).role := by
    by_cases hj : j = i
    · subst hj
      rw [hnode, Function.update_self, hrole]
    · rw [hnode, Function.update_of_ne hj]
  refine ⟨fun hop hhop => ?_, fun a ha => ?_, fun j => ?_⟩
  · rw [hair] at hhop
    rcases List.mem_append.mp hhop with hold | hnew
    · exact (h.air hop hold).mono hsent hroles
    · obtain ⟨out, hmem, rfl⟩ := List.mem_map.mp hnew
      exact hout out (Option.mem_toList.mp hmem)
  · rcases harrived a ha with hold | hnew
    · obtain ⟨hmem, hdst⟩ := h.arrived a hold
      exact ⟨hsent _ hmem, hdst⟩
    · exact hnew
  · by_cases hj : j = i
    · subst hj
      rw [hnode, Function.update_self]
      exact hrecords
    · rw [hnode, Function.update_of_ne hj]
      exact h.records j

theorem Inv.emit (h : Inv w) {dst : UInt16} {payload : List UInt8} {result : Node × Option Out}
    (hrole : result.1.role = (w.node i).role) (hrecords : result.1.srRelays.length ≤ 7)
    (hout : ∀ out, result.2 = some out →
      Shape (w.node i).role ⟨(w.node i).shortAddress, dst, payload⟩ kDefaultRadius 0 out.npdu) :
    Inv (w.emit i dst payload result) := by
  apply h.next rfl rfl hrole hrecords
  · exact fun m hm => List.mem_append_left _ hm
  · exact fun a ha => Or.inl ha
  · intro out hsome
    refine .message ⟨(w.node i).shortAddress, dst, payload⟩ ?_ kDefaultRadius rfl (by decide) ?_
    · apply List.mem_append_right
      rw [hsome]
      exact List.mem_singleton_self _
    · have hself : ((w.emit i dst payload result).node i).role = (w.node i).role := by
        rw [← hrole]
        exact congrArg Node.role (Function.update_self ..)
      rw [hself]
      exact hout out hsome

omit [DecidableEq ι] in
theorem sendNwkData_shape {node : Node} {macDst dst : UInt16} {payload : List UInt8} {out : Out}
    (h : (node.sendNwkData macDst dst node.shortAddress payload kDefaultRadius).2 = some out) :
    Shape node.role ⟨node.shortAddress, dst, payload⟩ kDefaultRadius 0 out.npdu := by
  obtain ⟨hfits, rfl⟩ := transmit_data h
  exact .plain _ hfits (absurd rfl)

omit [DecidableEq ι] in
theorem sendSourceRouted_shape {node : Node} (hrecords : node.srRelays.length ≤ 7)
    (payload : List UInt8) :
    (node.sendSourceRouted payload).1.role = node.role ∧
      (node.sendSourceRouted payload).1.srRelays = node.srRelays ∧
      ∀ out, (node.sendSourceRouted payload).2 = some out →
        Shape node.role ⟨node.shortAddress, node.srDst, payload⟩ kDefaultRadius 0 out.npdu := by
  unfold Node.sendSourceRouted
  split
  · exact ⟨rfl, rfl, nofun⟩
  · split
    · refine ⟨rfl, rfl, fun out h => ?_⟩
      obtain ⟨hfits, rfl⟩ := transmit_routed hrecords h
      exact .routed _ _ hfits (Nat.zero_le _)
    · exact ⟨rfl, rfl, nofun⟩

omit [DecidableEq ι] in
theorem sendRouteRecord_command {node : Node} :
    Same node node.sendRouteRecord.1 ∧ node.sendRouteRecord.1.srRelays = node.srRelays ∧
      ∀ out, node.sendRouteRecord.2 = some out → Command out.npdu := by
  unfold Node.sendRouteRecord
  split
  · exact ⟨⟨rfl, rfl, rfl, rfl, rfl, rfl⟩, rfl, fun out h => sendNwkCommand_command h⟩
  · exact ⟨.refl node, rfl, nofun⟩

omit [DecidableEq ι] in
/-- What arrives with a carried frame was sent, and to this address or to all. -/
theorem Carried.arrivals {hop : Hop ι} (h : Carried w hop) {node : Node} {a : Arrival ι}
    (ha : a ∈ arrivals i node hop.npdu) :
    a.message ∈ w.sent ∧ (a.message.dst = a.address ∨ a.message.dst ≥ 0xFFF8) := by
  cases h with
  | message m sent radius budget alive shape =>
    obtain ⟨frame, hparse, hsrc, hdst, hpayload, -, -, -⟩ := shape.parse
    simp only [DataPlane.arrivals, hparse] at ha
    split at ha
    · next hreceives =>
      obtain rfl := List.mem_singleton.mp ha
      simp only [Node.receives, Bool.or_eq_true, decide_eq_true_eq] at hreceives
      rw [hsrc, hdst, hpayload]
      exact ⟨sent, hdst ▸ hreceives⟩
    · cases ha
  | command command =>
    simp only [DataPlane.arrivals, command.parse] at ha
    cases ha

theorem Inv.hear (h : Inv w) {hop : Hop ι} (hmem : hop ∈ w.air) (nowMs : UInt32) :
    Inv (step w (.hear i hop nowMs)) := by
  have hcarried := h.air hop hmem
  obtain ⟨hsame, hrecords⟩ :=
    @hear_same (w.node i) hop.macSrc hop.npdu nowMs (h.records i)
  refine h.next rfl rfl hsame.role hrecords (fun _ hm => hm) (fun a ha => ?_) fun out hsome => ?_
  · rcases List.mem_append.mp ha with hold | hnew
    · exact Or.inl hold
    · exact Or.inr (hcarried.arrivals hnew)
  · have hself : ((DataPlane.step w (.hear i hop nowMs)).node i).role = (w.node i).role := by
      rw [← hsame.role]
      exact congrArg Node.role (Function.update_self ..)
    cases hcarried with
    | message m sent radius budget alive shape =>
      obtain ⟨radius', hbudget', halive', hshape'⟩ := hear_shape shape budget hsome
      exact .message m sent radius' hbudget' halive' (hself ▸ hshape')
    | command command => exact .command (hear_command command hsome)

theorem Inv.step (h : Inv w) (op : Op ι) (hop : Allowed w op) : Inv (step w op) := by
  cases op with
  | send i dst apdu => exact h.emit rfl (h.records i) fun out => sendNwkData_shape
  | groupCast i apdu => exact h.emit rfl (h.records i) fun out => sendNwkData_shape
  | sendRouteRecord i =>
    obtain ⟨hsame, hrecords, hcommand⟩ := @sendRouteRecord_command (w.node i)
    exact h.next rfl rfl hsame.role (hrecords ▸ h.records i) (fun _ hm => hm)
      (fun _ ha => Or.inl ha) fun out hsome => .command (hcommand out hsome)
  | sendSourceRouted i payload =>
    obtain ⟨hrole, hrecords, hout⟩ := sendSourceRouted_shape (h.records i) payload
    exact h.emit hrole (hrecords ▸ h.records i) hout
  | hear i hop' nowMs => exact h.hear hop nowMs
  | control i joined shortAddress parentAddress routing =>
    exact h.next rfl rfl rfl (h.records i) (fun _ hm => hm) (fun _ ha => Or.inl ha) nofun

end Runs

/-- A frame in the air is one that its source sent, passed on once for every step its radius is
below the radius it started with, and never by an end device unless a source route named it; what
arrives was sent, to the address it arrives at. -/
theorem carried_as_sent {nodes : ι → Node} (hrecords : ∀ i, (nodes i).srRelays.length ≤ 7)
    (ops : List (Op ι)) (hops : Runs.Along step Allowed { node := nodes } ops) :
    let w := ops.foldl step { node := nodes }
    (∀ hop ∈ w.air, ∀ frame, parseDataFrame hop.npdu = some (true, frame) →
      (⟨frame.srcShort, frame.dstShort, frame.payloadBytes hop.npdu⟩ : Message) ∈ w.sent ∧
      frame.radius.toNat + hop.forwards = 30 ∧ hop.forwards < 30 ∧
      (frame.sourceRoute = true → hop.forwards ≤ frame.srRelayCount.toNat) ∧
      (frame.sourceRoute = false → hop.forwards ≠ 0 →
        frame.dstShort < 0xFFF8 ∧ (w.node hop.sender).role ≠ .endDevice)) ∧
    ∀ a ∈ w.arrived, a.message ∈ w.sent ∧
      (a.message.dst = a.address ∨ a.message.dst ≥ 0xFFF8) := by
  intro w
  have h : Inv w :=
    hops.invariant (fun _ op hi hop => hi.step op hop) ⟨nofun, nofun, hrecords⟩
  refine ⟨fun hop hhop frame hparse => ?_, h.arrived⟩
  cases h.air hop hhop with
  | message m sent radius budget alive shape =>
    obtain ⟨frame', hparse', hsrc, hdst, hpayload, hradius, hrouted, hplain⟩ := shape.parse
    obtain rfl : frame' = frame := (Prod.mk.inj (Option.some.inj (hparse'.symm.trans hparse))).2
    rw [hsrc, hdst, hpayload, hradius]
    exact ⟨sent, budget, by omega, hrouted, hplain⟩
  | command command =>
    rw [command.parse] at hparse
    cases hparse

section Witness

/-- Coordinator, router and end device in a line. -/
def line : Fin 3 → Node
  | 0 =>
    { role := .coordinator, sourceRouting := false, joined := true, shortAddress := 0
      parentAddress := 0xFFFF, routing := .init (List.replicate 4 {}) }
  | 1 =>
    { role := .router, sourceRouting := false, joined := true, shortAddress := 1
      parentAddress := 0
      routing := .init [{ used := true, dstAddress := 0, nextHop := 0 }, {}, {}, {}] }
  | 2 =>
    { role := .endDevice, sourceRouting := false, joined := true, shortAddress := 2
      parentAddress := 1
      routing := .init [{ used := true, dstAddress := 0, nextHop := 1 }, {}, {}, {}] }

private def lineAt (ops : List (Op (Fin 3))) : World (Fin 3) := ops.foldl step { node := line }

private def hears (i : Fin 3) (ops : List (Op (Fin 3))) : List (Op (Fin 3)) :=
  ops ++ ((lineAt ops).air.getLast?.toList.map fun hop => .hear i hop 100)

/-- The end device sends to the coordinator over the router. -/
private def upTheLine : List (Op (Fin 3)) := hears 0 (hears 1 [.send 2 0 [0x41]])

theorem carried_as_sent_line :
    ⟨0, 0, ⟨2, 0, [0x41]⟩⟩ ∈ (lineAt upTheLine).arrived ∧
    ∀ a ∈ (lineAt upTheLine).arrived, a.message ∈ (lineAt upTheLine).sent ∧
      (a.message.dst = a.address ∨ a.message.dst ≥ 0xFFF8) :=
  ⟨by decide +kernel, (carried_as_sent (show ∀ i, (line i).srRelays.length ≤ 7 by decide) upTheLine
    (by decide +kernel)).2⟩

end Witness

end NiusZigbee.DataPlane
