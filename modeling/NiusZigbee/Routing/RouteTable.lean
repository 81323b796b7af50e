import NiusZigbee.Library.SlotTable

/-!
# The route table

`ZigbeeRouteTable` as a list of routes. A table that was never attached behaves as one without
slots: lookups find nothing and `upsert` stores nothing.
-/

namespace NiusZigbee

inductive ZigbeeRouteStatus where
  | active
  | discoveryUnderway
  | discoveryFailed
  | inactive
  | validationUnderway
deriving DecidableEq, Repr

structure ZigbeeRoute where
  used : Bool := false
  dstAddress : UInt16 := 0
  nextHop : UInt16 := 0
  status : ZigbeeRouteStatus := .active
  manyToOne : Bool := false
  routeRecordRequired : Bool := false
  updatedMs : UInt32 := 0
deriving DecidableEq, Repr

namespace ZigbeeRouteTable

def destination (route : ZigbeeRoute) : Option UInt16 :=
  if route.used then some route.dstAddress else none

/-- `entries_[i].updatedMs < best->updatedMs`, without regard to the clock wrapping. -/
def older (entry best : ZigbeeRoute) : Bool := entry.updatedMs < best.updatedMs

def find (entries : List ZigbeeRoute) (dstAddress : UInt16) : Option ZigbeeRoute :=
  SlotTable.lookup destination entries dstAddress

/-- An upsert of `dstAddress` recycles no other route. -/
abbrev HasRoom (entries : List ZigbeeRoute) (dstAddress : UInt16) : Prop :=
  SlotTable.HasRoom destination entries dstAddress

def upsert (entries : List ZigbeeRoute) (dstAddress nextHop : UInt16) (status : ZigbeeRouteStatus)
    (manyToOne routeRecordRequired : Bool) (nowMs : UInt32) : List ZigbeeRoute :=
  match SlotTable.slotFor destination (SlotTable.least destination older) entries dstAddress with
  | none => entries
  | some i =>
    entries.set i
      { used := true, dstAddress := dstAddress, nextHop := nextHop, status := status
        manyToOne := manyToOne, routeRecordRequired := routeRecordRequired, updatedMs := nowMs }

def remove (entries : List ZigbeeRoute) (dstAddress : UInt16) : List ZigbeeRoute × Bool :=
  match SlotTable.find destination entries dstAddress with
  | none => (entries, false)
  | some i => (entries.set i {}, true)

def isInactive (route : ZigbeeRoute) : Bool := route.used && route.status ≠ .active

def removeInactive (entries : List ZigbeeRoute) : List ZigbeeRoute × UInt8 :=
  (entries.map fun route => if isInactive route then {} else route,
    (entries.countP isInactive).toUInt8)

variable {entries : List ZigbeeRoute} {dstAddress other nextHop : UInt16}
  {status : ZigbeeRouteStatus} {manyToOne routeRecordRequired : Bool} {nowMs : UInt32}

theorem upsert_nil : upsert [] dstAddress nextHop status manyToOne routeRecordRequired nowMs = [] :=
  rfl

theorem find_upsert (hne : entries ≠ []) :
    find (upsert entries dstAddress nextHop status manyToOne routeRecordRequired nowMs) dstAddress =
      some { used := true, dstAddress := dstAddress, nextHop := nextHop, status := status
             manyToOne := manyToOne, routeRecordRequired := routeRecordRequired
             updatedMs := nowMs } := by
  obtain ⟨i, hi⟩ : ∃ i, SlotTable.slotFor destination (SlotTable.least destination older) entries
      dstAddress = some i := SlotTable.slotFor_least_isSome hne dstAddress
  simp only [find, upsert, hi]
  exact SlotTable.lookup_store_self hi (SlotTable.slotFor_least_lt hi) rfl

theorem find_upsert_self (h : HasRoom entries dstAddress) :
    find (upsert entries dstAddress nextHop status manyToOne routeRecordRequired nowMs) dstAddress =
      some { used := true, dstAddress := dstAddress, nextHop := nextHop, status := status
             manyToOne := manyToOne, routeRecordRequired := routeRecordRequired
             updatedMs := nowMs } := by
  apply find_upsert
  rintro rfl
  rcases h with h | h <;> cases h

theorem find_upsert_other (h : HasRoom entries dstAddress) (hne : other ≠ dstAddress) :
    find (upsert entries dstAddress nextHop status manyToOne routeRecordRequired nowMs) other =
      find entries other := by
  obtain ⟨i, hi⟩ := SlotTable.slotFor_isSome (SlotTable.least destination older) h
  simp only [find, upsert, hi]
  exact SlotTable.lookup_store_other h hi rfl hne

/-- An upsert of `dstAddress` costs the table its route to `other`. -/
abbrev Evicts (entries : List ZigbeeRoute) (dstAddress other : UInt16) : Prop :=
  SlotTable.Evicts destination (SlotTable.least destination older) entries dstAddress other

theorem find_upsert_kept (h : ¬ Evicts entries dstAddress other) (hne : other ≠ dstAddress) :
    find (upsert entries dstAddress nextHop status manyToOne routeRecordRequired nowMs) other =
      find entries other := by
  unfold upsert
  split
  · rfl
  · next i hi => exact SlotTable.lookup_not_evicted h hi rfl hne

theorem find_upsert_evicted (hd : SlotTable.Distinct destination entries)
    (h : Evicts entries dstAddress other) (hne : other ≠ dstAddress) :
    find (upsert entries dstAddress nextHop status manyToOne routeRecordRequired nowMs) other =
      none := by
  unfold upsert
  split
  · next hnone =>
    have hslot := h.2
    rw [← SlotTable.slotFor_of_full (SlotTable.least destination older) h.1, hnone] at hslot
    cases hslot
  · next i hi => exact hd.lookup_evicted h hi rfl hne

theorem upsert_distinct (hd : SlotTable.Distinct destination entries) :
    SlotTable.Distinct destination
      (upsert entries dstAddress nextHop status manyToOne routeRecordRequired nowMs) := by
  unfold upsert
  split
  · exact hd
  · next i hi => exact hd.store hi rfl

theorem upsert_length : (upsert entries dstAddress nextHop status manyToOne routeRecordRequired
    nowMs).length = entries.length := by
  unfold upsert
  split
  · rfl
  · rw [List.length_set]

end ZigbeeRouteTable

end NiusZigbee
