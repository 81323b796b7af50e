import NiusZigbee.Library.SlotTable

/-!
# The neighbor table

`ZigbeeNeighborTable` as a list of neighbors. An upsert looks for its short address first, then for
its IEEE address, then for an unused slot, and recycles the least recently seen neighbor last.
-/

namespace NiusZigbee

def zbDeviceCoordinator : UInt8 := 0
def zbDeviceRouter : UInt8 := 1
def zbDeviceEndDevice : UInt8 := 2
def zbDeviceUnknown : UInt8 := 0xFF

def zbRelParent : UInt8 := 0
def zbRelChild : UInt8 := 1
def zbRelSibling : UInt8 := 2
def zbRelNone : UInt8 := 3
def zbRelPreviousChild : UInt8 := 4

structure ZigbeeNeighbor where
  used : Bool := false
  nwkAddress : UInt16 := 0
  ieeeAddress : UInt64 := 0
  deviceType : UInt8 := 0
  relationship : UInt8 := 0
  depth : UInt8 := 0
  lqi : UInt8 := 0
  incomingCost : UInt8 := 0
  outgoingCost : UInt8 := 0
  rxOnWhenIdle : Bool := false
  permitJoining : Bool := false
  lastSeenMs : UInt32 := 0
deriving DecidableEq, Repr

namespace ZigbeeNeighborTable

def begin (capacity : UInt8) : List ZigbeeNeighbor := List.replicate capacity.toNat {}

def nwkKey (e : ZigbeeNeighbor) : Option UInt16 := if e.used then some e.nwkAddress else none

def ieeeKey (e : ZigbeeNeighbor) : Option UInt64 := if e.used then some e.ieeeAddress else none

/-- `entries_[i].lastSeenMs < best->lastSeenMs`, without regard to the clock wrapping. -/
def older (entry best : ZigbeeNeighbor) : Bool := entry.lastSeenMs < best.lastSeenMs

def findByNwk (entries : List ZigbeeNeighbor) (nwkAddress : UInt16) : Option ZigbeeNeighbor :=
  SlotTable.lookup nwkKey entries nwkAddress

def findByIeee (entries : List ZigbeeNeighbor) (ieeeAddress : UInt64) : Option ZigbeeNeighbor :=
  SlotTable.lookup ieeeKey entries ieeeAddress

def firstFree (entries : List ZigbeeNeighbor) : Option Nat := SlotTable.firstFree nwkKey entries

def leastRecentlySeen (entries : List ZigbeeNeighbor) : Option Nat :=
  SlotTable.least nwkKey older entries

/-- The slot an upsert writes. -/
def slotFor (entries : List ZigbeeNeighbor) (nwkAddress : UInt16) (ieeeAddress : UInt64) :
    Option Nat :=
  match SlotTable.find nwkKey entries nwkAddress with
  | some i => some i
  | none =>
    match if ieeeAddress ≠ 0 then SlotTable.find ieeeKey entries ieeeAddress else none with
    | some i => some i
    | none =>
      match firstFree entries with
      | some i => some i
      | none => leastRecentlySeen entries

/-- The slot as an upsert leaves it. The costs survive only under the same short address. -/
def stored (entry : ZigbeeNeighbor) (nwkAddress : UInt16) (ieeeAddress : UInt64)
    (deviceType relationship depth lqi : UInt8) (rxOnWhenIdle permitJoining : Bool)
    (nowMs : UInt32) : ZigbeeNeighbor :=
  let fresh := !entry.used || entry.nwkAddress != nwkAddress
  { used := true
    nwkAddress := nwkAddress
    ieeeAddress := ieeeAddress
    deviceType := deviceType
    relationship := relationship
    depth := depth
    lqi := lqi
    incomingCost := if fresh then 0 else entry.incomingCost
    outgoingCost := if fresh then 0 else entry.outgoingCost
    rxOnWhenIdle := rxOnWhenIdle
    permitJoining := permitJoining
    lastSeenMs := nowMs }

/-- The table, and the slot that was written. -/
def upsert (entries : List ZigbeeNeighbor) (nwkAddress : UInt16) (ieeeAddress : UInt64)
    (deviceType relationship depth lqi : UInt8) (rxOnWhenIdle permitJoining : Bool)
    (nowMs : UInt32) : List ZigbeeNeighbor × Option Nat :=
  match slotFor entries nwkAddress ieeeAddress with
  | none => (entries, none)
  | some i =>
    (entries.modify i fun entry => stored entry nwkAddress ieeeAddress deviceType relationship depth
      lqi rxOnWhenIdle permitJoining nowMs, some i)

def isRouterType (e : ZigbeeNeighbor) : Bool :=
  e.deviceType == zbDeviceRouter || e.deviceType == zbDeviceCoordinator

/-- The neighbors an aging pass acts on. A previous child is already a lease and stays one. -/
def isStale (cutoffMs : UInt32) (spareAddress : UInt16) (n : ZigbeeNeighbor) : Bool :=
  n.used && n.nwkAddress != spareAddress && isRouterType n && n.lastSeenMs < cutoffMs &&
    n.relationship != zbRelPreviousChild

/-- A stale child becomes a lease on its address; any other stale neighbor is removed. -/
def aged (n : ZigbeeNeighbor) : ZigbeeNeighbor :=
  if n.relationship == zbRelChild && n.ieeeAddress != 0 then
    { n with
      relationship := zbRelPreviousChild, incomingCost := 0, outgoingCost := 0
      permitJoining := false }
  else {}

def removeStaleRouters (entries : List ZigbeeNeighbor) (cutoffMs : UInt32)
    (spareAddress : UInt16) : List ZigbeeNeighbor × UInt8 :=
  (entries.map fun n => if isStale cutoffMs spareAddress n then aged n else n,
    (entries.countP (isStale cutoffMs spareAddress)).toUInt8)

def removeByNwk (entries : List ZigbeeNeighbor) (nwkAddress : UInt16) :
    List ZigbeeNeighbor × Bool :=
  match SlotTable.find nwkKey entries nwkAddress with
  | none => (entries, false)
  | some i => (entries.set i {}, true)

def isOlder (cutoffMs : UInt32) (n : ZigbeeNeighbor) : Bool := n.used && n.lastSeenMs < cutoffMs

def removeOlderThan (entries : List ZigbeeNeighbor) (cutoffMs : UInt32) :
    List ZigbeeNeighbor × UInt8 :=
  (entries.map fun n => if isOlder cutoffMs n then {} else n,
    (entries.countP (isOlder cutoffMs)).toUInt8)

/-- The upsert has to recycle a slot in use. -/
def Recycles (entries : List ZigbeeNeighbor) (nwkAddress : UInt16) (ieeeAddress : UInt64) : Prop :=
  findByNwk entries nwkAddress = none ∧ (ieeeAddress ≠ 0 → findByIeee entries ieeeAddress = none) ∧
    firstFree entries = none ∧ entries ≠ []

instance (entries : List ZigbeeNeighbor) (nwkAddress : UInt16) (ieeeAddress : UInt64) :
    Decidable (Recycles entries nwkAddress ieeeAddress) :=
  inferInstanceAs (Decidable (_ ∧ _ ∧ _ ∧ _))

/-! ## Keys -/

theorem nwkKey_eq_some {e : ZigbeeNeighbor} {a : UInt16} :
    nwkKey e = some a ↔ e.used = true ∧ e.nwkAddress = a := by
  unfold nwkKey
  split <;> simp_all

theorem ieeeKey_eq_some {e : ZigbeeNeighbor} {a : UInt64} :
    ieeeKey e = some a ↔ e.used = true ∧ e.ieeeAddress = a := by
  unfold ieeeKey
  split <;> simp_all

theorem nwkKey_eq_none {e : ZigbeeNeighbor} : nwkKey e = none ↔ e.used = false := by
  unfold nwkKey
  split <;> simp_all

theorem nwkKey_stored {entry : ZigbeeNeighbor} {nwkAddress : UInt16} {ieeeAddress : UInt64}
    {deviceType relationship depth lqi : UInt8} {rxOnWhenIdle permitJoining : Bool}
    {nowMs : UInt32} :
    nwkKey (stored entry nwkAddress ieeeAddress deviceType relationship depth lqi rxOnWhenIdle
      permitJoining nowMs) = some nwkAddress := rfl

theorem findByNwk_eq_some {entries : List ZigbeeNeighbor} {a : UInt16} {e : ZigbeeNeighbor}
    (h : findByNwk entries a = some e) : e ∈ entries ∧ e.used = true ∧ e.nwkAddress = a :=
  ⟨SlotTable.lookup_mem h, nwkKey_eq_some.mp (SlotTable.lookup_key h)⟩

theorem findByIeee_eq_some {entries : List ZigbeeNeighbor} {a : UInt64} {e : ZigbeeNeighbor}
    (h : findByIeee entries a = some e) : e ∈ entries ∧ e.used = true ∧ e.ieeeAddress = a :=
  ⟨SlotTable.lookup_mem h, ieeeKey_eq_some.mp (SlotTable.lookup_key h)⟩

theorem findByNwk_eq_none {entries : List ZigbeeNeighbor} {a : UInt16} :
    findByNwk entries a = none ↔ ∀ e ∈ entries, e.used = true → e.nwkAddress ≠ a := by
  unfold findByNwk
  rw [SlotTable.lookup_eq_none]
  simp [nwkKey_eq_some]

theorem findByIeee_eq_none {entries : List ZigbeeNeighbor} {a : UInt64} :
    findByIeee entries a = none ↔ ∀ e ∈ entries, e.used = true → e.ieeeAddress ≠ a := by
  unfold findByIeee
  rw [SlotTable.lookup_eq_none]
  simp [ieeeKey_eq_some]

/-! ## What an upsert does -/

section Upsert

variable {entries : List ZigbeeNeighbor} {nwkAddress : UInt16} {ieeeAddress : UInt64}
  {deviceType relationship depth lqi : UInt8} {rxOnWhenIdle permitJoining : Bool} {nowMs : UInt32}
  {i : Nat}

/-- The slot an upsert writes holds the short address, or the IEEE address, or is unused, or is
recycled. -/
theorem slotFor_cases (h : slotFor entries nwkAddress ieeeAddress = some i) :
    ∃ old, entries[i]? = some old ∧
      ((SlotTable.find nwkKey entries nwkAddress = some i ∧ old.used = true ∧
          old.nwkAddress = nwkAddress) ∨
        (findByNwk entries nwkAddress = none ∧ ieeeAddress ≠ 0 ∧ old.used = true ∧
          old.ieeeAddress = ieeeAddress) ∨
        (findByNwk entries nwkAddress = none ∧
          (ieeeAddress ≠ 0 → findByIeee entries ieeeAddress = none) ∧
          (old.used = false ∨ Recycles entries nwkAddress ieeeAddress))) := by
  unfold slotFor at h
  cases hn : SlotTable.find nwkKey entries nwkAddress with
  | some j =>
    simp only [hn, Option.some.injEq] at h
    subst h
    obtain ⟨hj, hkey, _⟩ := SlotTable.find_eq_some hn
    have hused := nwkKey_eq_some.mp hkey
    exact ⟨entries[j], List.getElem?_eq_getElem hj, .inl ⟨rfl, hused⟩⟩
  | none =>
    have hnone : findByNwk entries nwkAddress = none := SlotTable.lookup_of_find_none hn
    simp only [hn] at h
    cases hs : (if ieeeAddress ≠ 0 then SlotTable.find ieeeKey entries ieeeAddress else none) with
    | some j =>
      simp only [hs, Option.some.injEq] at h
      subst h
      by_cases h0 : ieeeAddress ≠ 0
      · rw [if_pos h0] at hs
        obtain ⟨hj, hkey, _⟩ := SlotTable.find_eq_some hs
        have hused := ieeeKey_eq_some.mp hkey
        exact ⟨entries[j], List.getElem?_eq_getElem hj, .inr (.inl ⟨hnone, h0, hused⟩)⟩
      · rw [if_neg h0] at hs
        cases hs
    | none =>
      have hieee : ieeeAddress ≠ 0 → findByIeee entries ieeeAddress = none := by
        intro h0
        rw [if_pos h0] at hs
        exact SlotTable.lookup_of_find_none hs
      simp only [hs] at h
      cases hfree : firstFree entries with
      | some j =>
        simp only [hfree, Option.some.injEq] at h
        subst h
        obtain ⟨hj, hkey⟩ := SlotTable.firstFree_eq_some hfree
        exact ⟨entries[j], List.getElem?_eq_getElem hj,
          .inr (.inr ⟨hnone, hieee, .inl (nwkKey_eq_none.mp hkey)⟩)⟩
      | none =>
        simp only [hfree] at h
        have hj := SlotTable.least_lt h
        have hne : entries ≠ [] := List.ne_nil_of_length_pos (by omega)
        exact ⟨entries[i], List.getElem?_eq_getElem hj,
          .inr (.inr ⟨hnone, hieee, .inr ⟨hnone, hieee, hfree, hne⟩⟩)⟩

theorem slotFor_isSome (hne : entries ≠ []) (nwkAddress : UInt16) (ieeeAddress : UInt64) :
    ∃ i, slotFor entries nwkAddress ieeeAddress = some i := by
  unfold slotFor
  split
  · exact ⟨_, rfl⟩
  split
  · exact ⟨_, rfl⟩
  split
  · exact ⟨_, rfl⟩
  · next hfull => exact SlotTable.least_isSome hne (SlotTable.firstFree_eq_none hfull)

theorem upsert_cases (entries : List ZigbeeNeighbor) (nwkAddress : UInt16) (ieeeAddress : UInt64)
    (deviceType relationship depth lqi : UInt8) (rxOnWhenIdle permitJoining : Bool)
    (nowMs : UInt32) :
    (slotFor entries nwkAddress ieeeAddress = none ∧
      upsert entries nwkAddress ieeeAddress deviceType relationship depth lqi rxOnWhenIdle
        permitJoining nowMs = (entries, none)) ∨
    ∃ i old, slotFor entries nwkAddress ieeeAddress = some i ∧ entries[i]? = some old ∧
      upsert entries nwkAddress ieeeAddress deviceType relationship depth lqi rxOnWhenIdle
        permitJoining nowMs =
        (entries.set i (stored old nwkAddress ieeeAddress deviceType relationship depth lqi
          rxOnWhenIdle permitJoining nowMs), some i) := by
  cases hslot : slotFor entries nwkAddress ieeeAddress with
  | none => exact .inl ⟨rfl, by rw [upsert, hslot]⟩
  | some i =>
    obtain ⟨old, hold, _⟩ := slotFor_cases hslot
    refine .inr ⟨i, old, rfl, hold, ?_⟩
    simp only [upsert, hslot]
    rw [List.modify_eq_set_getElem?, hold]
    rfl

/-- No slot but the written one can hold the short address. -/
theorem slotFor_nwk (hd : SlotTable.Distinct nwkKey entries)
    (h : slotFor entries nwkAddress ieeeAddress = some i) {j : Nat} {b : ZigbeeNeighbor}
    (hj : j ≠ i) (hb : entries[j]? = some b) : nwkKey b ≠ some nwkAddress := by
  intro hkey
  obtain ⟨old, hold, hcase⟩ := slotFor_cases h
  rcases hcase with ⟨hfind, _⟩ | ⟨hnone, _⟩ | ⟨hnone, _⟩
  · exact hj (hd.of_find hfind hb hkey)
  all_goals
    have hused := nwkKey_eq_some.mp hkey
    exact findByNwk_eq_none.mp hnone b (List.mem_of_getElem? hb) hused.1 hused.2

theorem slotFor_known (hknown : (findByNwk entries nwkAddress).isSome = true)
    (h : slotFor entries nwkAddress ieeeAddress = some i) :
    ∃ old, entries[i]? = some old ∧ nwkKey old = some nwkAddress := by
  obtain ⟨old, hold, hcase⟩ := slotFor_cases h
  rcases hcase with ⟨_, hused⟩ | ⟨hnone, _⟩ | ⟨hnone, _⟩
  · exact ⟨old, hold, nwkKey_eq_some.mpr hused⟩
  all_goals
    rw [hnone] at hknown
    cases hknown

theorem findByNwk_written (h : slotFor entries nwkAddress ieeeAddress = some i)
    {e : ZigbeeNeighbor} (hkey : nwkKey e = some nwkAddress) :
    findByNwk (entries.set i e) nwkAddress = some e := by
  obtain ⟨old, hold, hcase⟩ := slotFor_cases h
  refine SlotTable.lookup_set_self (List.getElem?_eq_some_iff.mp hold).1 ?_ hkey
  rcases hcase with ⟨hfind, _⟩ | ⟨hnone, _⟩ | ⟨hnone, _⟩
  · exact (SlotTable.find_eq_some hfind).2.2
  all_goals
    intro j hj
    exact SlotTable.lookup_eq_none.mp hnone _ (List.getElem_mem _)

theorem upsert_nwk_distinct (hd : SlotTable.Distinct nwkKey entries) :
    SlotTable.Distinct nwkKey
      (upsert entries nwkAddress ieeeAddress deviceType relationship depth lqi rxOnWhenIdle
        permitJoining nowMs).1 := by
  rcases upsert_cases entries nwkAddress ieeeAddress deviceType relationship depth lqi rxOnWhenIdle
      permitJoining nowMs with ⟨_, hupsert⟩ | ⟨i, old, hslot, _, hupsert⟩
  · rwa [hupsert]
  · rw [hupsert]
    refine hd.set fun j b k hj hb hk => ?_
    rw [nwkKey_stored, Option.some.injEq] at hk
    exact hk ▸ slotFor_nwk hd hslot hj hb

end Upsert

end ZigbeeNeighborTable

end NiusZigbee
