import NiusZigbee.Nwk.Command
import NiusZigbee.Routing.RouteTable

/-!
# Route discovery decisions

`ZigbeeRouting` decides what one node does with a Route Request or a Route Reply and records
reverse and forward routes on the way.
-/

namespace NiusZigbee

open ZigbeeNwk

structure ZigbeeRouteDiscoveryEntry where
  used : Bool := false
  requestId : UInt8 := 0
  originator : UInt16 := 0
  previousHop : UInt16 := 0
  forwardCost : UInt8 := 0
  expiresMs : UInt32 := 0
deriving DecidableEq, Repr

structure ZigbeeRreqDecision where
  duplicate : Bool := false
  replyAsDestination : Bool := false
  rebroadcast : Bool := false
  replyTo : UInt16 := 0
  pathCost : UInt8 := 0
deriving DecidableEq, Repr

structure ZigbeeRrepDecision where
  routeInstalled : Bool := false
  forward : Bool := false
  forwardTo : UInt16 := 0
  pathCost : UInt8 := 0
deriving DecidableEq, Repr

structure ZigbeeRouting where
  routes : List ZigbeeRoute
  discoveries : List ZigbeeRouteDiscoveryEntry
  requestId : UInt8
deriving DecidableEq, Repr

namespace ZigbeeRouting

def kMaxDiscoveries : Nat := 4
def kDiscoveryLifetimeMs : UInt32 := 10000
def kNoNextHop : UInt16 := 0xFFFF

/-- A fresh node with an attached route table. -/
def init (routes : List ZigbeeRoute) : ZigbeeRouting :=
  ⟨routes, List.replicate kMaxDiscoveries {}, 0⟩

/-- What identifies a discovery: its request id and its originator. -/
def discoveryKey (entry : ZigbeeRouteDiscoveryEntry) : Option (UInt8 × UInt16) :=
  if entry.used then some (entry.requestId, entry.originator) else none

def sooner (entry oldest : ZigbeeRouteDiscoveryEntry) : Bool := entry.expiresMs < oldest.expiresMs

def findDiscovery (node : ZigbeeRouting) (requestId : UInt8) (originator : UInt16) :
    Option ZigbeeRouteDiscoveryEntry :=
  SlotTable.lookup discoveryKey node.discoveries (requestId, originator)

/-- The entry found or allocated for the discovery is overwritten. -/
def record (node : ZigbeeRouting) (entry : ZigbeeRouteDiscoveryEntry) :
    Option (List ZigbeeRouteDiscoveryEntry) :=
  (SlotTable.slotFor discoveryKey (SlotTable.least discoveryKey sooner) node.discoveries
    (entry.requestId, entry.originator)).map fun i => node.discoveries.set i entry

def originateDiscovery (node : ZigbeeRouting) (destination : UInt16) (nowMs : UInt32) :
    ZigbeeRouting × UInt8 :=
  let requestId := node.requestId + 1
  ({ node with
      requestId := requestId
      routes := ZigbeeRouteTable.upsert node.routes destination kNoNextHop .discoveryUnderway false
        false nowMs }, requestId)

/-- What a node notes down about a request it takes. -/
def requestEntry (previousHop originator : UInt16) (rreq : NwkRouteRequestCommand)
    (linkCost : UInt8) (nowMs : UInt32) : ZigbeeRouteDiscoveryEntry where
  used := true
  requestId := rreq.routeRequestId
  originator := originator
  previousHop := previousHop
  forwardCost := rreq.pathCost + linkCost
  expiresMs := nowMs + kDiscoveryLifetimeMs

def handleRouteRequest (node : ZigbeeRouting) (selfShort : UInt16) (isRouter : Bool)
    (previousHop originator : UInt16) (rreq : NwkRouteRequestCommand) (linkCost : UInt8)
    (nowMs : UInt32) : ZigbeeRouting × ZigbeeRreqDecision :=
  let refused : ZigbeeRreqDecision := { duplicate := true, replyTo := previousHop }
  if !rreq.valid || originator = selfShort then (node, refused)
  else
    let cost := rreq.pathCost + linkCost
    if (node.findDiscovery rreq.routeRequestId originator).any (·.forwardCost ≤ cost) then
      (node, refused)
    else
      match node.record (requestEntry previousHop originator rreq linkCost nowMs) with
      | none => (node, refused)
      | some discoveries =>
        let node : ZigbeeRouting :=
          { node with
            discoveries := discoveries
            routes := ZigbeeRouteTable.upsert node.routes originator previousHop .active false false
              nowMs }
        if rreq.destination = selfShort then
          (node, { replyTo := previousHop, replyAsDestination := true, pathCost := 0 })
        else if isRouter then
          (node, { replyTo := previousHop, rebroadcast := true, pathCost := cost })
        else (node, { replyTo := previousHop })

def handleRouteReply (node : ZigbeeRouting) (selfShort previousHop : UInt16)
    (rrep : NwkRouteReplyCommand) (linkCost : UInt8) (nowMs : UInt32) :
    ZigbeeRouting × ZigbeeRrepDecision :=
  if !rrep.valid then (node, {})
  else
    let cost := rrep.pathCost + linkCost
    let installed : ZigbeeRouting :=
      { node with
        routes := ZigbeeRouteTable.upsert node.routes rrep.responder previousHop .active false false
          nowMs }
    if rrep.originator = selfShort then (installed, { pathCost := cost, routeInstalled := true })
    else
      match node.findDiscovery rrep.routeRequestId rrep.originator with
      | none => (node, { pathCost := cost })
      | some entry =>
        (installed, { pathCost := cost, forward := true, forwardTo := entry.previousHop })

def nextHopFor (node : ZigbeeRouting) (destination : UInt16) : UInt16 :=
  match ZigbeeRouteTable.find node.routes destination with
  | none => kNoNextHop
  | some route => if route.status ≠ .active then kNoNextHop else route.nextHop

def routeIsActive (node : ZigbeeRouting) (destination : UInt16) : Bool :=
  node.nextHopFor destination ≠ kNoNextHop

/-- Entries whose time has come are dropped. The routes stay as they are. -/
def expire (node : ZigbeeRouting) (nowMs : UInt32) : ZigbeeRouting :=
  { node with
    discoveries := node.discoveries.map fun d =>
      if d.used && (nowMs - d.expiresMs).toInt32 ≥ 0 then {} else d }

/-! ## What the decisions record -/

/-- Recording the discovery recycles no other one. -/
abbrev HasRoom (node : ZigbeeRouting) (requestId : UInt8) (originator : UInt16) : Prop :=
  SlotTable.HasRoom discoveryKey node.discoveries (requestId, originator)

theorem lookup_record {node : ZigbeeRouting} {entry : ZigbeeRouteDiscoveryEntry}
    {discoveries : List ZigbeeRouteDiscoveryEntry} (hused : entry.used = true)
    (hrecord : node.record entry = some discoveries) :
    SlotTable.lookup discoveryKey discoveries (entry.requestId, entry.originator) = some entry := by
  obtain ⟨i, hi, rfl⟩ := Option.map_eq_some_iff.mp hrecord
  exact SlotTable.lookup_store_self hi (SlotTable.slotFor_least_lt hi) (if_pos hused)

theorem record_eq {node : ZigbeeRouting} {entry : ZigbeeRouteDiscoveryEntry}
    (hused : entry.used = true) (hroom : node.HasRoom entry.requestId entry.originator) :
    ∃ discoveries, node.record entry = some discoveries ∧
      SlotTable.lookup discoveryKey discoveries (entry.requestId, entry.originator) =
        some entry := by
  obtain ⟨i, hi⟩ := SlotTable.slotFor_isSome (SlotTable.least discoveryKey sooner) hroom
  have hrecord : node.record entry = some (node.discoveries.set i entry) := by
    rw [record, hi, Option.map_some]
  exact ⟨_, hrecord, lookup_record hused hrecord⟩

theorem record_isSome {node : ZigbeeRouting} (hne : node.discoveries ≠ [])
    (entry : ZigbeeRouteDiscoveryEntry) : ∃ discoveries, node.record entry = some discoveries := by
  obtain ⟨i, hi⟩ : ∃ i, SlotTable.slotFor discoveryKey (SlotTable.least discoveryKey sooner)
      node.discoveries (entry.requestId, entry.originator) = some i :=
    SlotTable.slotFor_least_isSome hne _
  exact ⟨node.discoveries.set i entry, by rw [record, hi, Option.map_some]⟩

/-- A request the node takes is valid, another node's, and better than the one it recorded. -/
def Takes (node : ZigbeeRouting) (selfShort originator : UInt16) (rreq : NwkRouteRequestCommand)
    (linkCost : UInt8) : Prop :=
  rreq.valid = true ∧ originator ≠ selfShort ∧
    ∀ old ∈ node.findDiscovery rreq.routeRequestId originator,
      rreq.pathCost + linkCost < old.forwardCost

instance (node : ZigbeeRouting) (selfShort originator : UInt16) (rreq : NwkRouteRequestCommand)
    (linkCost : UInt8) : Decidable (node.Takes selfShort originator rreq linkCost) :=
  inferInstanceAs (Decidable (_ ∧ _ ∧ _))

section Request

variable {node : ZigbeeRouting} {selfShort originator previousHop : UInt16} {isRouter : Bool}
  {rreq : NwkRouteRequestCommand} {linkCost : UInt8} {nowMs : UInt32}

theorem handleRouteRequest_dropped (h : ¬ node.Takes selfShort originator rreq linkCost) :
    node.handleRouteRequest selfShort isRouter previousHop originator rreq linkCost nowMs =
      (node, { duplicate := true, replyTo := previousHop }) := by
  by_cases hself : (!rreq.valid || decide (originator = selfShort)) = true
  · rw [handleRouteRequest, if_pos hself]
  · have hold : (node.findDiscovery rreq.routeRequestId originator).any
        (·.forwardCost ≤ rreq.pathCost + linkCost) = true := by
      by_contra hnew
      refine h ⟨by simpa using (not_or.mp (mt (Bool.or_eq_true _ _).mpr hself)).1,
        by simpa using (not_or.mp (mt (Bool.or_eq_true _ _).mpr hself)).2, fun old hfind => ?_⟩
      rw [Option.mem_def.mp hfind] at hnew
      exact UInt8.not_le.mp (by simpa using hnew)
    simp only [handleRouteRequest, if_neg hself, hold, if_true]

private theorem Takes.gate (h : node.Takes selfShort originator rreq linkCost) :
    ¬ (!rreq.valid || decide (originator = selfShort)) = true := by
  simp [h.1, h.2.1]

private theorem Takes.better (h : node.Takes selfShort originator rreq linkCost) :
    (node.findDiscovery rreq.routeRequestId originator).any
      (·.forwardCost ≤ rreq.pathCost + linkCost) = false := by
  cases hfind : node.findDiscovery rreq.routeRequestId originator with
  | none => rfl
  | some old => simpa using UInt8.not_le.mpr (h.2.2 old hfind)

theorem handleRouteRequest_taken (h : node.Takes selfShort originator rreq linkCost)
    {discoveries : List ZigbeeRouteDiscoveryEntry}
    (hrecord : node.record (requestEntry previousHop originator rreq linkCost nowMs) =
      some discoveries) :
    node.handleRouteRequest selfShort isRouter previousHop originator rreq linkCost nowMs =
      ({ node with
         discoveries := discoveries
         routes := ZigbeeRouteTable.upsert node.routes originator previousHop .active false false
          nowMs },
        if rreq.destination = selfShort then
          { replyTo := previousHop, replyAsDestination := true, pathCost := 0 }
        else if isRouter then
          { replyTo := previousHop, rebroadcast := true, pathCost := rreq.pathCost + linkCost }
        else { replyTo := previousHop }) := by
  simp only [handleRouteRequest, if_neg h.gate, h.better, Bool.false_eq_true, if_false, hrecord]
  split
  · rfl
  · split <;> rfl

theorem handleRouteRequest_discoveries :
    (node.handleRouteRequest selfShort isRouter previousHop originator rreq linkCost
      nowMs).1.discoveries =
      if node.Takes selfShort originator rreq linkCost then
        (node.record (requestEntry previousHop originator rreq linkCost nowMs)).getD
          node.discoveries
      else node.discoveries := by
  by_cases htakes : node.Takes selfShort originator rreq linkCost
  · rw [if_pos htakes]
    cases hrecord : node.record (requestEntry previousHop originator rreq linkCost nowMs) with
    | none =>
      simp only [handleRouteRequest, if_neg htakes.gate, htakes.better, Bool.false_eq_true,
        if_false, hrecord, Option.getD_none]
    | some discoveries => rw [handleRouteRequest_taken htakes hrecord, Option.getD_some]
  · rw [if_neg htakes, handleRouteRequest_dropped htakes]

end Request

/-- A node before and after it records a better request: the discovery and the reverse route, both
over `previousHop`, and no other route. -/
structure Recorded (node node' : ZigbeeRouting) (requestId : UInt8) (originator : UInt16)
    (entry : ZigbeeRouteDiscoveryEntry) : Prop where
  improves : ∀ old, node.findDiscovery requestId originator = some old →
    entry.forwardCost < old.forwardCost
  discovery : node'.findDiscovery requestId originator = some entry
  route : ∃ route, ZigbeeRouteTable.find node'.routes originator = some route ∧
    route.status = .active ∧ route.nextHop = entry.previousHop
  others : ∀ other, other ≠ originator →
    ZigbeeRouteTable.find node'.routes other = ZigbeeRouteTable.find node.routes other

/-- A Route Request is dropped without a trace, or recorded; only the destination answers and only
a router that is not the destination rebroadcasts, with the cost it recorded. -/
theorem handleRouteRequest_cases {node : ZigbeeRouting} {selfShort originator : UInt16}
    (isRouter : Bool) (previousHop : UInt16) (rreq : NwkRouteRequestCommand) (linkCost : UInt8)
    (nowMs : UInt32)
    (hroom : selfShort ≠ originator → node.HasRoom rreq.routeRequestId originator ∧
      ZigbeeRouteTable.HasRoom node.routes originator) :
    let r := node.handleRouteRequest selfShort isRouter previousHop originator rreq linkCost nowMs
    (r = (node, { duplicate := true, replyTo := previousHop })) ∨
    (selfShort ≠ originator ∧ ∃ entry, entry.previousHop = previousHop ∧
      entry.forwardCost = rreq.pathCost + linkCost ∧
      Recorded node r.1 rreq.routeRequestId originator entry ∧ r.2.replyTo = previousHop ∧
      (r.2.replyAsDestination = true → rreq.destination = selfShort ∧ r.2.pathCost = 0 ∧
        r.2.rebroadcast = false) ∧
      (r.2.rebroadcast = true → rreq.destination ≠ selfShort ∧
        r.2.pathCost = rreq.pathCost + linkCost)) := by
  dsimp only
  by_cases htakes : node.Takes selfShort originator rreq linkCost
  swap
  · left
    exact handleRouteRequest_dropped htakes
  right
  have hne : selfShort ≠ originator := Ne.symm htakes.2.1
  obtain ⟨hdisc, hroute⟩ := hroom hne
  obtain ⟨discoveries, hrecord, hlookup⟩ : ∃ discoveries,
      node.record (requestEntry previousHop originator rreq linkCost nowMs) = some discoveries ∧
      SlotTable.lookup discoveryKey discoveries (rreq.routeRequestId, originator) =
        some (requestEntry previousHop originator rreq linkCost nowMs) := record_eq rfl hdisc
  have hrecorded : Recorded node
      { node with
        discoveries := discoveries
        routes := ZigbeeRouteTable.upsert node.routes originator previousHop .active false false
          nowMs }
      rreq.routeRequestId originator (requestEntry previousHop originator rreq linkCost nowMs) :=
    { improves := htakes.2.2
      discovery := hlookup
      route := ⟨_, ZigbeeRouteTable.find_upsert_self hroute, rfl, rfl⟩
      others := fun _ hother => ZigbeeRouteTable.find_upsert_other hroute hother }
  refine ⟨hne, requestEntry previousHop originator rreq linkCost nowMs, rfl, rfl, ?_⟩
  rw [handleRouteRequest_taken htakes hrecord]
  dsimp only
  by_cases hdest : rreq.destination = selfShort
  · rw [if_pos hdest]
    exact ⟨hrecorded, rfl, fun _ => ⟨hdest, rfl, rfl⟩, by simp⟩
  · rw [if_neg hdest]
    cases isRouter with
    | true => exact ⟨hrecorded, rfl, by simp, fun _ => ⟨hdest, rfl⟩⟩
    | false => exact ⟨hrecorded, rfl, by simp, by simp⟩

/-- A node that takes a Route Reply: its route to the responder leads over the hop the reply came
from, its discoveries and other routes are as before. -/
structure Installed (node node' : ZigbeeRouting) (responder previousHop : UInt16) : Prop where
  discoveries : node'.discoveries = node.discoveries
  route : ∃ route, ZigbeeRouteTable.find node'.routes responder = some route ∧
    route.status = .active ∧ route.nextHop = previousHop
  others : ∀ other, other ≠ responder →
    ZigbeeRouteTable.find node'.routes other = ZigbeeRouteTable.find node.routes other

/-- Takes part in the discovery: started it, or recorded a request of it. -/
def Involved (node : ZigbeeRouting) (selfShort : UInt16) (requestId : UInt8)
    (originator : UInt16) : Prop :=
  originator = selfShort ∨ (node.findDiscovery requestId originator).isSome

instance (node : ZigbeeRouting) (selfShort : UInt16) (requestId : UInt8) (originator : UInt16) :
    Decidable (node.Involved selfShort requestId originator) :=
  inferInstanceAs (Decidable (_ ∨ _))

theorem handleRouteReply_next (node : ZigbeeRouting) (selfShort previousHop : UInt16)
    (rrep : NwkRouteReplyCommand) (linkCost : UInt8) (nowMs : UInt32) :
    (node.handleRouteReply selfShort previousHop rrep linkCost nowMs).1 =
        (if rrep.valid = true ∧ node.Involved selfShort rrep.routeRequestId rrep.originator then
          { node with
            routes := ZigbeeRouteTable.upsert node.routes rrep.responder previousHop .active false
              false nowMs }
        else node) ∧
      ((node.handleRouteReply selfShort previousHop rrep linkCost nowMs).2.routeInstalled = true ↔
        rrep.valid = true ∧ rrep.originator = selfShort) := by
  unfold handleRouteReply
  cases hvalid : rrep.valid with
  | false => simp
  | true =>
    simp only [Bool.not_true, Bool.false_eq_true, if_false, true_and]
    by_cases hself : rrep.originator = selfShort
    · simp [hself, Involved]
    · cases hfind : node.findDiscovery rrep.routeRequestId rrep.originator with
      | none => simp [hself, Involved, hfind]
      | some entry => simp [hself, Involved, hfind]

/-- A node outside the discovery ignores a Route Reply; any other installs its route, whatever it
costs, and a node on the way passes it on, with the cost added up, to the hop its request came
from. -/
theorem handleRouteReply_cases {node : ZigbeeRouting} {selfShort : UInt16} (previousHop : UInt16)
    (rrep : NwkRouteReplyCommand) (linkCost : UInt8) (nowMs : UInt32)
    (hroom : node.Involved selfShort rrep.routeRequestId rrep.originator →
      ZigbeeRouteTable.HasRoom node.routes rrep.responder) :
    let r := node.handleRouteReply selfShort previousHop rrep linkCost nowMs
    ((rrep.valid = true → ¬ node.Involved selfShort rrep.routeRequestId rrep.originator) ∧
      r.1 = node ∧ r.2.forward = false) ∨
    (node.Involved selfShort rrep.routeRequestId rrep.originator ∧
      Installed node r.1 rrep.responder previousHop ∧
      (r.2.forward = true → r.2.pathCost = rrep.pathCost + linkCost ∧
        ∃ entry, node.findDiscovery rrep.routeRequestId rrep.originator = some entry ∧
          r.2.forwardTo = entry.previousHop)) := by
  dsimp only
  by_cases hvalid : rrep.valid = false
  · left
    simp [handleRouteReply, hvalid]
  have hinstalled (h : node.Involved selfShort rrep.routeRequestId rrep.originator) :
      Installed node
        { node with
          routes := ZigbeeRouteTable.upsert node.routes rrep.responder previousHop .active false
            false nowMs } rrep.responder previousHop :=
    { discoveries := rfl
      route := ⟨_, ZigbeeRouteTable.find_upsert_self (hroom h), rfl, rfl⟩
      others := fun _ hother => ZigbeeRouteTable.find_upsert_other (hroom h) hother }
  simp only [Bool.not_eq_false] at hvalid
  simp only [handleRouteReply, hvalid, Bool.not_true, Bool.false_eq_true, if_false]
  by_cases hself : rrep.originator = selfShort
  · right
    simp only [if_pos hself]
    exact ⟨Or.inl hself, hinstalled (Or.inl hself), by simp⟩
  · simp only [if_neg hself]
    cases hfind : node.findDiscovery rrep.routeRequestId rrep.originator with
    | none =>
      left
      refine ⟨fun _ hinvolved => ?_, rfl, rfl⟩
      rcases hinvolved with hinvolved | hinvolved
      · exact hself hinvolved
      · simp [hfind] at hinvolved
    | some entry =>
      right
      have hinvolved : node.Involved selfShort rrep.routeRequestId rrep.originator :=
        Or.inr (by rw [hfind]; rfl)
      exact ⟨hinvolved, hinstalled hinvolved, fun _ => ⟨rfl, entry, rfl, rfl⟩⟩

/-- An active route is the next hop, unless it leads to the address that stands for none. -/
theorem nextHopFor_active {node : ZigbeeRouting} {destination : UInt16}
    (h : node.routeIsActive destination = true) :
    ∃ route, ZigbeeRouteTable.find node.routes destination = some route ∧
      route.status = .active ∧ node.nextHopFor destination = route.nextHop := by
  cases hfind : ZigbeeRouteTable.find node.routes destination with
  | none => simp [routeIsActive, nextHopFor, hfind] at h
  | some route =>
    by_cases hstatus : route.status = .active
    · exact ⟨route, rfl, hstatus, by simp [nextHopFor, hfind, hstatus]⟩
    · simp [routeIsActive, nextHopFor, hfind, hstatus] at h

theorem nextHopFor_congr {node node' : ZigbeeRouting} {destination : UInt16}
    (h : ZigbeeRouteTable.find node'.routes destination =
      ZigbeeRouteTable.find node.routes destination) :
    node'.nextHopFor destination = node.nextHopFor destination := by
  rw [nextHopFor, nextHopFor, h]

end ZigbeeRouting

end NiusZigbee
