import NiusZigbee.Aps.DuplicateTable
import NiusZigbee.Library.Recency
import NiusZigbee.Network.NeighborKeys
import NiusZigbee.Routing.DiscoveryRuns

/-!
# What a full table gives up

The neighbors, the routes, the APS peers and the discoveries are kept in tables that recycle the
slot of the least time stamp. Their calls are made at true times, of which the code sees the
readings.
-/

namespace NiusZigbee

open Recency

/-! ## Neighbors -/

namespace ZigbeeNeighborTable

/-- The call made at a true time. -/
def Call.at (time : Nat) : Call → Call
  | .upsert nwkAddress ieeeAddress deviceType relationship depth lqi rxOnWhenIdle permitJoining _ =>
    .upsert nwkAddress ieeeAddress deviceType relationship depth lqi rxOnWhenIdle permitJoining
      (Clock.reading time)
  | call => call

def recency : Table (List ZigbeeNeighbor) ZigbeeNeighbor UInt16 (Nat × Call) where
  slots := id
  key := nwkKey
  stamp := (·.lastSeenMs)
  next entries call := next entries (call.2.at call.1)
  stamps entries call :=
    match call.2 with
    | .upsert nwkAddress ieeeAddress .. =>
      (slotFor entries nwkAddress ieeeAddress).map fun i => (i, call.1)
    | _ => none
  recycled entries call :=
    match call.2 with
    | .upsert nwkAddress ieeeAddress .. =>
      if Recycles entries nwkAddress ieeeAddress then leastRecentlySeen entries else none
    | _ => none

theorem recency_lawful : recency.Lawful where
  length entries call := by
    obtain ⟨time, call⟩ := call
    cases call with
    | upsert =>
      simp only [recency, id, next, Call.at, upsert]
      split
      · rfl
      · exact List.length_modify _ _ _
    | removeByNwk =>
      simp only [recency, id, next, Call.at, removeByNwk]
      split
      · rfl
      · exact List.length_set
    | removeOlderThan => exact List.length_map _
    | removeStaleRouters => exact List.length_map _
  stamped entries call i time e hstamps he := by
    obtain ⟨time', call⟩ := call
    cases call with
    | upsert nwkAddress ieeeAddress =>
      obtain ⟨j, hslot, hpair⟩ := Option.map_eq_some_iff.mp hstamps
      obtain ⟨rfl, rfl⟩ := Prod.mk.inj hpair
      simp only [recency, id, next, Call.at, upsert, hslot, List.getElem?_modify_eq] at he
      obtain ⟨old, _, rfl⟩ := Option.map_eq_some_iff.mp he
      rfl
    | _ => cases hstamps
  kept entries call j e hother he hkey := by
    obtain ⟨time, call⟩ := call
    cases call with
    | upsert nwkAddress ieeeAddress =>
      simp only [recency, id, next, Call.at, upsert] at he
      cases hslot : slotFor entries nwkAddress ieeeAddress with
      | none =>
        rw [hslot] at he
        exact kept_refl he hkey
      | some i =>
        have hij : i ≠ j := by
          rintro rfl
          exact hother time (by simp only [recency, hslot, Option.map_some])
        simp only [hslot, List.getElem?_modify_ne _ _ hij] at he
        exact kept_refl he hkey
    | removeByNwk =>
      simp only [recency, id, next, Call.at, removeByNwk] at he
      split at he
      · exact kept_refl he hkey
      · exact kept_set he hkey fun _ => rfl
    | removeOlderThan cutoffMs =>
      refine kept_map he hkey fun n hn => ?_
      by_cases hold : isOlder cutoffMs n = true
      · rw [if_pos hold] at hn
        exact absurd rfl hn
      · rw [if_neg hold] at hn ⊢
        exact ⟨hn, rfl⟩
    | removeStaleRouters cutoffMs spareAddress =>
      refine kept_map he hkey fun n hn => ?_
      by_cases hstale : isStale cutoffMs spareAddress n = true
      · rw [if_pos hstale] at hn ⊢
        unfold aged at hn ⊢
        split at hn
        · next hchild =>
          rw [if_pos hchild]
          exact ⟨hn, rfl⟩
        · exact absurd rfl hn
      · rw [if_neg hstale] at hn ⊢
        exact ⟨hn, rfl⟩
  recycled entries call j hrecycled := by
    obtain ⟨time, call⟩ := call
    cases call with
    | upsert nwkAddress ieeeAddress =>
      obtain ⟨hrecycles, hleast⟩ := Option.ite_none_right_eq_some.mp hrecycled
      exact ⟨SlotTable.firstFree_eq_none hrecycles.2.2.1, hleast⟩
    | _ => cases hrecycled

end ZigbeeNeighborTable

/-! ## Routes -/

namespace ZigbeeRouteTable

/-- A call on the route table. -/
inductive Call where
  | upsert (dstAddress nextHop : UInt16) (status : ZigbeeRouteStatus)
      (manyToOne routeRecordRequired : Bool) (nowMs : UInt32)
  | remove (dstAddress : UInt16)
  | removeInactive

def next (entries : List ZigbeeRoute) : Call → List ZigbeeRoute
  | .upsert dstAddress nextHop status manyToOne routeRecordRequired nowMs =>
    ZigbeeRouteTable.upsert entries dstAddress nextHop status manyToOne routeRecordRequired nowMs
  | .remove dstAddress => (ZigbeeRouteTable.remove entries dstAddress).1
  | .removeInactive => (ZigbeeRouteTable.removeInactive entries).1

/-- The call made at a true time. -/
def Call.at (time : Nat) : Call → Call
  | .upsert dstAddress nextHop status manyToOne routeRecordRequired _ =>
    .upsert dstAddress nextHop status manyToOne routeRecordRequired (Clock.reading time)
  | call => call

def slotFor (entries : List ZigbeeRoute) (dstAddress : UInt16) : Option Nat :=
  SlotTable.slotFor destination (SlotTable.least destination older) entries dstAddress

def recency : Table (List ZigbeeRoute) ZigbeeRoute UInt16 (Nat × Call) where
  slots := id
  key := destination
  stamp := (·.updatedMs)
  next entries call := next entries (call.2.at call.1)
  stamps entries call :=
    match call.2 with
    | .upsert dstAddress .. => (slotFor entries dstAddress).map fun i => (i, call.1)
    | _ => none
  recycled entries call :=
    match call.2 with
    | .upsert dstAddress .. =>
      if HasRoom entries dstAddress then none else slotFor entries dstAddress
    | _ => none

theorem recency_lawful : recency.Lawful where
  length entries call := by
    obtain ⟨time, call⟩ := call
    cases call with
    | upsert => exact upsert_length
    | remove =>
      simp only [recency, id, next, Call.at, remove]
      split
      · rfl
      · exact List.length_set
    | removeInactive => exact List.length_map _
  stamped entries call i time e hstamps he := by
    obtain ⟨time', call⟩ := call
    cases call with
    | upsert dstAddress =>
      obtain ⟨j, hslot, hpair⟩ := Option.map_eq_some_iff.mp hstamps
      obtain ⟨rfl, rfl⟩ := Prod.mk.inj hpair
      rw [slotFor] at hslot
      simp only [recency, id, next, Call.at, upsert, hslot] at he
      rw [List.getElem?_set_self'] at he
      obtain ⟨_, _, rfl⟩ := Option.map_eq_some_iff.mp he
      rfl
    | _ => cases hstamps
  kept entries call j e hother he hkey := by
    obtain ⟨time, call⟩ := call
    cases call with
    | upsert dstAddress =>
      simp only [recency, id, next, Call.at, upsert] at he
      split at he
      · exact kept_refl he hkey
      · next i hslot =>
        refine kept_set he hkey ?_
        rintro rfl
        exact absurd (by simp only [recency, slotFor, hslot, Option.map_some]) (hother time)
    | remove =>
      simp only [recency, id, next, Call.at, remove] at he
      split at he
      · exact kept_refl he hkey
      · exact kept_set he hkey fun _ => rfl
    | removeInactive =>
      refine kept_map he hkey fun route hroute => ?_
      by_cases hinactive : isInactive route = true
      · rw [if_pos hinactive] at hroute
        exact absurd rfl hroute
      · rw [if_neg hinactive] at hroute ⊢
        exact ⟨hroute, rfl⟩
  recycled entries call j hrecycled := by
    obtain ⟨time, call⟩ := call
    cases call with
    | upsert dstAddress =>
      obtain ⟨hfull, hslot⟩ := Option.ite_none_left_eq_some.mp hrecycled
      rw [slotFor, SlotTable.slotFor_of_full _ hfull] at hslot
      exact ⟨SlotTable.used_of_full hfull, hslot⟩
    | _ => cases hrecycled

end ZigbeeRouteTable

/-! ## APS peers -/

namespace ZigbeeApsDuplicateTable

/-- A frame to check and record. -/
structure Call where
  srcShort : UInt16
  srcEndpoint : UInt8
  counter : UInt8

def recency : Table (List ApsDupeEntry) ApsDupeEntry (UInt16 × UInt8) (Nat × Call) where
  slots := id
  key := peer
  stamp := (·.lastSeenMs)
  next entries call :=
    (checkAndRecord entries call.2.srcShort call.2.srcEndpoint call.2.counter
      (Clock.reading call.1)).1
  stamps entries call :=
    (slotFor entries call.2.srcShort call.2.srcEndpoint).map fun i => (i, call.1)
  recycled entries call :=
    if SlotTable.HasRoom peer entries (call.2.srcShort, call.2.srcEndpoint) then none
    else slotFor entries call.2.srcShort call.2.srcEndpoint

theorem recency_lawful : recency.Lawful where
  length entries call := by
    simp only [recency, id, checkAndRecord]
    split
    · rfl
    · exact List.length_set
  stamped entries call i time e hstamps he := by
    obtain ⟨j, hslot, hpair⟩ := Option.map_eq_some_iff.mp hstamps
    obtain ⟨rfl, rfl⟩ := Prod.mk.inj hpair
    simp only [recency, id, checkAndRecord, hslot] at he
    rw [List.getElem?_set_self'] at he
    obtain ⟨_, _, rfl⟩ := Option.map_eq_some_iff.mp he
    rfl
  kept entries call j e hother he hkey := by
    simp only [recency, id, checkAndRecord] at he
    split at he
    · exact kept_refl he hkey
    · next i hslot =>
      refine kept_set he hkey ?_
      rintro rfl
      exact absurd (by simp only [recency, hslot, Option.map_some]) (hother call.1)
  recycled entries call j hrecycled := by
    obtain ⟨hfull, hslot⟩ := Option.ite_none_left_eq_some.mp hrecycled
    rw [slotFor, SlotTable.slotFor_of_full _ hfull] at hslot
    exact ⟨SlotTable.used_of_full hfull, hslot⟩

end ZigbeeApsDuplicateTable

/-! ## Discoveries -/

namespace ZigbeeRouting

/-- The call made at a true time. -/
def Call.at (time : Nat) : Call → Call
  | .originateDiscovery destination _ => .originateDiscovery destination (Clock.reading time)
  | .handleRouteRequest selfShort isRouter previousHop originator rreq linkCost _ =>
    .handleRouteRequest selfShort isRouter previousHop originator rreq linkCost
      (Clock.reading time)
  | .handleRouteReply selfShort previousHop rrep linkCost _ =>
    .handleRouteReply selfShort previousHop rrep linkCost (Clock.reading time)
  | .expire _ => .expire (Clock.reading time)

def discoverySlot (node : ZigbeeRouting) (requestId : UInt8) (originator : UInt16) : Option Nat :=
  SlotTable.slotFor discoveryKey (SlotTable.least discoveryKey sooner) node.discoveries
    (requestId, originator)

/-- The stamp of a discovery is its expiry. -/
def recency : Table ZigbeeRouting ZigbeeRouteDiscoveryEntry (UInt8 × UInt16) (Nat × Call) where
  slots := (·.discoveries)
  key := discoveryKey
  stamp := (·.expiresMs)
  next node call := node.next (call.2.at call.1)
  stamps node call :=
    match call.2 with
    | .handleRouteRequest selfShort _ _ originator rreq linkCost _ =>
      if node.Takes selfShort originator rreq linkCost then
        (node.discoverySlot rreq.routeRequestId originator).map fun i =>
          (i, call.1 + kDiscoveryLifetimeMs.toNat)
      else none
    | _ => none
  recycled node call :=
    match call.2 with
    | .handleRouteRequest selfShort _ _ originator rreq linkCost _ =>
      if node.Takes selfShort originator rreq linkCost ∧
          ¬ node.HasRoom rreq.routeRequestId originator then
        node.discoverySlot rreq.routeRequestId originator
      else none
    | _ => none

theorem recency_lawful : recency.Lawful where
  length node call := by
    obtain ⟨time, call⟩ := call
    cases call with
    | handleRouteRequest =>
      simp only [recency, next, Call.at, handleRouteRequest_discoveries, record]
      split
      · cases SlotTable.slotFor discoveryKey _ node.discoveries _ with
        | none => rfl
        | some i => exact List.length_set
      · rfl
    | originateDiscovery => rfl
    | handleRouteReply =>
      simp only [recency, next, Call.at, (handleRouteReply_next node _ _ _ _ _).1]
      split <;> rfl
    | expire => exact List.length_map _
  stamped node call i time e hstamps he := by
    obtain ⟨time', call⟩ := call
    cases call with
    | handleRouteRequest selfShort isRouter previousHop originator rreq linkCost =>
      obtain ⟨htakes, hstamps⟩ := Option.ite_none_right_eq_some.mp hstamps
      obtain ⟨j, hslot, hpair⟩ := Option.map_eq_some_iff.mp hstamps
      obtain ⟨rfl, rfl⟩ := Prod.mk.inj hpair
      rw [discoverySlot] at hslot
      simp only [recency, next, Call.at, handleRouteRequest_discoveries, if_pos htakes, record,
        requestEntry, hslot, Option.map_some, Option.getD_some] at he
      rw [List.getElem?_set_self'] at he
      obtain ⟨_, _, rfl⟩ := Option.map_eq_some_iff.mp he
      exact (Clock.reading_add time' kDiscoveryLifetimeMs.toNat).symm
    | _ => cases hstamps
  kept node call j e hother he hkey := by
    obtain ⟨time, call⟩ := call
    cases call with
    | handleRouteRequest selfShort isRouter previousHop originator rreq linkCost =>
      simp only [recency, next, Call.at, handleRouteRequest_discoveries] at he
      split at he
      · next htakes =>
        cases hslot : node.discoverySlot rreq.routeRequestId originator with
        | none =>
          rw [discoverySlot] at hslot
          simp only [record, requestEntry, hslot, Option.map_none, Option.getD_none] at he
          exact kept_refl he hkey
        | some i =>
          have hij : i ≠ j := by
            rintro rfl
            exact absurd (by simp only [recency, if_pos htakes, hslot, Option.map_some])
              (hother (time + kDiscoveryLifetimeMs.toNat))
          rw [discoverySlot] at hslot
          simp only [record, requestEntry, hslot, Option.map_some, Option.getD_some] at he
          exact kept_set he hkey fun heq => absurd heq hij
      · exact kept_refl he hkey
    | originateDiscovery => exact kept_refl he hkey
    | handleRouteReply =>
      simp only [recency, next, Call.at, (handleRouteReply_next node _ _ _ _ _).1] at he
      split at he <;> exact kept_refl he hkey
    | expire =>
      refine kept_map he hkey fun d hd => ?_
      split at hd
      · exact absurd rfl hd
      · next hlive =>
        rw [if_neg hlive]
        exact ⟨hd, rfl⟩
  recycled node call j hrecycled := by
    obtain ⟨time, call⟩ := call
    cases call with
    | handleRouteRequest selfShort isRouter previousHop originator rreq linkCost =>
      obtain ⟨⟨_, hfull⟩, hslot⟩ := Option.ite_none_right_eq_some.mp hrecycled
      rw [discoverySlot, SlotTable.slotFor_of_full _ hfull] at hslot
      exact ⟨SlotTable.used_of_full hfull, hslot⟩
    | _ => cases hrecycled

end ZigbeeRouting

/-! ## All four -/

/-- Whatever the run, the slot a full table gives up is its oldest just while no wrap of the clock
lies between two of the times it holds. -/
theorem recycled_oldest_iff (capacity : UInt8) :
    (∀ calls call j,
      let s := ZigbeeNeighborTable.recency.run (ZigbeeNeighborTable.begin capacity) calls
      ZigbeeNeighborTable.recency.recycled s.state call = some j → Close s.times →
        (Oldest s.times j ↔ OneLap s.times)) ∧
    (∀ calls call j,
      let s := ZigbeeRouteTable.recency.run (List.replicate capacity.toNat {}) calls
      ZigbeeRouteTable.recency.recycled s.state call = some j → Close s.times →
        (Oldest s.times j ↔ OneLap s.times)) ∧
    (∀ calls call j,
      let s := ZigbeeApsDuplicateTable.recency.run (ZigbeeApsDuplicateTable.begin capacity) calls
      ZigbeeApsDuplicateTable.recency.recycled s.state call = some j → Close s.times →
        (Oldest s.times j ↔ OneLap s.times)) ∧
    (∀ calls call j,
      let s := ZigbeeRouting.recency.run
        (ZigbeeRouting.init (List.replicate capacity.toNat {})) calls
      ZigbeeRouting.recency.recycled s.state call = some j → Close s.times →
        (Oldest s.times j ↔ OneLap s.times)) := by
  refine ⟨fun calls call j hrecycled hclose => ?_, fun calls call j hrecycled hclose => ?_,
    fun calls call j hrecycled hclose => ?_, fun calls call j hrecycled hclose => ?_⟩
  · exact ZigbeeNeighborTable.recency_lawful.run_oldest_iff
      (List.forall_mem_replicate.mpr (.inr rfl)) hrecycled hclose
  · exact ZigbeeRouteTable.recency_lawful.run_oldest_iff
      (List.forall_mem_replicate.mpr (.inr rfl)) hrecycled hclose
  · exact ZigbeeApsDuplicateTable.recency_lawful.run_oldest_iff
      (List.forall_mem_replicate.mpr (.inr rfl)) hrecycled hclose
  · have hunused : ∀ e ∈ ZigbeeRouting.recency.slots
        (ZigbeeRouting.init (List.replicate capacity.toNat {})),
        ZigbeeRouting.recency.key e = none := List.forall_mem_replicate.mpr (.inr rfl)
    exact ZigbeeRouting.recency_lawful.run_oldest_iff hunused hrecycled hclose

private def seen (time : Nat) (nwkAddress : UInt16) : Nat × ZigbeeNeighborTable.Call :=
  (time, .upsert nwkAddress 0 zbDeviceRouter zbRelSibling 1 100 true false 0)

/-- A neighbor heard a second before the clock wraps outlasts one heard half a second after. -/
theorem recycled_across_wrap :
    let s := ZigbeeNeighborTable.recency.run (ZigbeeNeighborTable.begin 2)
      [seen (Clock.lap - 1000) 1, seen (Clock.lap + 500) 2]
    ZigbeeNeighborTable.recency.recycled s.state (seen (Clock.lap + 1000) 3) = some 1 ∧
      Close s.times ∧ ¬ Oldest s.times 1 := by
  decide

/-- Within a lap the first of the two makes room. -/
theorem recycled_within_lap :
    let s := ZigbeeNeighborTable.recency.run (ZigbeeNeighborTable.begin 2)
      [seen (Clock.lap + 500) 1, seen (Clock.lap + 1500) 2]
    Oldest s.times 0 :=
  ((recycled_oldest_iff 2).1 [seen (Clock.lap + 500) 1, seen (Clock.lap + 1500) 2]
    (seen (Clock.lap + 2000) 3) 0 (by decide) (by decide)).mpr (by decide)

end NiusZigbee
