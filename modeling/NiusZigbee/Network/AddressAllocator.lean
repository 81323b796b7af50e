import Mathlib.Data.UInt
import NiusZigbee.Network.NeighborTable

/-!
# Child addresses and the permit-join window

`ZigbeeAddressAllocator` walks its pool from the address after the last one it gave out.
`ZigbeePermitJoin` is the window in which a node takes children at all.
-/

namespace NiusZigbee

def zbNwkAddrCoordinator : UInt16 := 0x0000
def zbNwkAddrInvalid : UInt16 := 0xFFFF
def zbNwkAddrReservedMin : UInt16 := 0xFFF8

/-! ## Permit join -/

structure ZigbeePermitJoin where
  open_ : Bool := false
  durationSeconds : UInt8 := 0
  openedMs : UInt32 := 0
deriving DecidableEq, Repr

namespace ZigbeePermitJoin

def «open» (durationSeconds : UInt8) (nowMs : UInt32) : ZigbeePermitJoin where
  open_ := durationSeconds != 0
  durationSeconds := durationSeconds
  openedMs := nowMs

def close : ZigbeePermitJoin := {}

def isOpen (permit : ZigbeePermitJoin) (nowMs : UInt32) : Bool :=
  if !permit.open_ then false
  else if permit.durationSeconds = 0xFF then true
  else nowMs - permit.openedMs < permit.durationSeconds.toUInt32 * 1000

def remainingSeconds (permit : ZigbeePermitJoin) (nowMs : UInt32) : UInt8 :=
  if !permit.isOpen nowMs then 0
  else if permit.durationSeconds = 0xFF then 0xFF
  else
    let elapsedSec := (nowMs - permit.openedMs) / 1000
    if elapsedSec ≥ permit.durationSeconds.toUInt32 then 0
    else (permit.durationSeconds.toUInt32 - elapsedSec).toUInt8

end ZigbeePermitJoin

/-! ## The allocator -/

structure ZigbeeAddressAllocator where
  firstAddress : UInt16 := 0x0001
  lastAddress : UInt16 := 0xFFF7
  nextCandidate : UInt16 := 0x0001
deriving DecidableEq, Repr

namespace ZigbeeAddressAllocator

def isUsable (address : UInt16) : Bool :=
  address != zbNwkAddrCoordinator && address < zbNwkAddrReservedMin

def begin (firstAddress lastAddress : UInt16) : ZigbeeAddressAllocator :=
  let first := if !isUsable firstAddress || firstAddress > lastAddress then 0x0001 else firstAddress
  let last := if !isUsable lastAddress || lastAddress < first then 0xFFF7 else lastAddress
  { firstAddress := first, lastAddress := last, nextCandidate := first }

variable (allocator : ZigbeeAddressAllocator) (neighbors : List ZigbeeNeighbor)

def isInPool (address : UInt16) : Bool :=
  isUsable address && address ≥ allocator.firstAddress && address ≤ allocator.lastAddress

def advance (address : UInt16) : UInt16 :=
  if address ≥ allocator.lastAddress then allocator.firstAddress else address + 1

/-- The neighbor holds its address as a child of this node, or as one that may come back. -/
def isLease (e : ZigbeeNeighbor) : Bool :=
  e.ieeeAddress != 0 &&
    (e.relationship == zbRelChild || e.relationship == zbRelPreviousChild)

/-- The candidate's occupant is an allocated child. -/
def allocatedChild (candidate : UInt16) : Bool :=
  (ZigbeeNeighborTable.findByNwk neighbors candidate).any isLease

/-- The loop of `allocate`, with the number of candidates still to try. -/
def allocateFrom : Nat → UInt16 → Option UInt16
  | 0, _ => none
  | tries + 1, candidate =>
    if allocator.isInPool candidate && !allocatedChild neighbors candidate then some candidate
    else allocateFrom tries (allocator.advance candidate)

def span : UInt16 := allocator.lastAddress - allocator.firstAddress + 1

def allocate : ZigbeeAddressAllocator × UInt16 :=
  if allocator.firstAddress > allocator.lastAddress then (allocator, zbNwkAddrInvalid)
  else
    match allocator.allocateFrom neighbors allocator.span.toNat allocator.nextCandidate with
    | none => (allocator, zbNwkAddrInvalid)
    | some candidate =>
      ({ allocator with nextCandidate := allocator.advance candidate }, candidate)

variable {allocator neighbors}

theorem allocateFrom_eq_some {tries : Nat} {candidate address : UInt16}
    (h : allocator.allocateFrom neighbors tries candidate = some address) :
    allocator.isInPool address = true ∧ allocatedChild neighbors address = false := by
  induction tries generalizing candidate with
  | zero => simp [allocateFrom] at h
  | succ tries ih =>
    unfold allocateFrom at h
    split at h
    · next hfree =>
      cases h
      simpa using hfree
    · exact ih h

/-- An address that is handed out lies in the pool and is no lease. -/
theorem allocate_spec (h : (allocator.allocate neighbors).2 ≠ zbNwkAddrInvalid) :
    allocator.isInPool (allocator.allocate neighbors).2 = true ∧
      allocatedChild neighbors (allocator.allocate neighbors).2 = false := by
  unfold allocate at h ⊢
  split at h
  · exact absurd rfl h
  · next hpool =>
    rw [if_neg hpool]
    cases ha : allocator.allocateFrom neighbors allocator.span.toNat allocator.nextCandidate with
    | none => simp [ha] at h
    | some candidate => exact allocateFrom_eq_some ha

/-! ## The pool -/

/-- What `begin` makes of any two bounds, and every allocation keeps. -/
structure WellFormed (allocator : ZigbeeAddressAllocator) : Prop where
  pos : 1 ≤ allocator.firstAddress.toNat
  last_le : allocator.lastAddress.toNat ≤ 0xFFF7
  first_le_next : allocator.firstAddress.toNat ≤ allocator.nextCandidate.toNat
  next_le_last : allocator.nextCandidate.toNat ≤ allocator.lastAddress.toNat

theorem isUsable_iff {address : UInt16} :
    isUsable address = true ↔ 1 ≤ address.toNat ∧ address.toNat ≤ 0xFFF7 := by
  have hmin : zbNwkAddrReservedMin.toNat = 0xFFF8 := rfl
  simp only [isUsable, zbNwkAddrCoordinator, Bool.and_eq_true, bne_iff_ne, decide_eq_true_eq,
    UInt16.lt_iff_toNat_lt, hmin, ne_eq, ← UInt16.toNat_inj, UInt16.toNat_zero]
  omega

theorem isInPool_iff {address : UInt16} :
    allocator.isInPool address = true ↔
      (1 ≤ address.toNat ∧ address.toNat ≤ 0xFFF7) ∧
        allocator.firstAddress.toNat ≤ address.toNat ∧
        address.toNat ≤ allocator.lastAddress.toNat := by
  simp only [isInPool, Bool.and_eq_true, decide_eq_true_eq, isUsable_iff, UInt16.le_iff_toNat_le,
    ge_iff_le, and_assoc]

private theorem usable_of_begin (firstAddress lastAddress : UInt16) :
    isUsable (begin firstAddress lastAddress).firstAddress = true ∧
      isUsable (begin firstAddress lastAddress).lastAddress = true ∧
      (begin firstAddress lastAddress).firstAddress.toNat ≤
        (begin firstAddress lastAddress).lastAddress.toNat := by
  have hfirst : isUsable (begin firstAddress lastAddress).firstAddress = true := by
    unfold begin
    dsimp only
    split
    · rfl
    · next h => simp_all
  refine ⟨hfirst, ?_⟩
  unfold begin at hfirst ⊢
  dsimp only at hfirst ⊢
  generalize (if !isUsable firstAddress || firstAddress > lastAddress then 0x0001
    else firstAddress) = first at hfirst ⊢
  split
  · exact ⟨rfl, (isUsable_iff.mp hfirst).2⟩
  · next h =>
    simp only [Bool.or_eq_true, Bool.not_eq_eq_eq_not, Bool.not_true, decide_eq_true_eq, not_or,
      Bool.not_eq_false, UInt16.not_lt] at h
    exact ⟨h.1, UInt16.le_iff_toNat_le.mp h.2⟩

theorem begin_wellFormed (firstAddress lastAddress : UInt16) :
    (begin firstAddress lastAddress).WellFormed := by
  obtain ⟨hfirst, hlast, hle⟩ := usable_of_begin firstAddress lastAddress
  exact ⟨(isUsable_iff.mp hfirst).1, (isUsable_iff.mp hlast).2, le_refl _, hle⟩

theorem default_wellFormed : ({} : ZigbeeAddressAllocator).WellFormed :=
  ⟨by decide, by decide, by decide, by decide⟩

theorem advance_mem (hw : allocator.WellFormed) {address : UInt16}
    (hf : allocator.firstAddress.toNat ≤ address.toNat) :
    allocator.firstAddress.toNat ≤ (allocator.advance address).toNat ∧
      (allocator.advance address).toNat ≤ allocator.lastAddress.toNat := by
  have hle := le_trans hw.first_le_next hw.next_le_last
  have hlast := hw.last_le
  unfold advance
  split
  · exact ⟨le_refl _, hle⟩
  · next h =>
    have hlt : address.toNat < allocator.lastAddress.toNat := by
      simpa [UInt16.le_iff_toNat_le] using h
    have hsucc : (address + 1).toNat = address.toNat + 1 := by
      rw [UInt16.toNat_add]
      simp
      omega
    omega

theorem allocate_wellFormed (hw : allocator.WellFormed) :
    (allocator.allocate neighbors).1.WellFormed := by
  unfold allocate
  split
  · exact hw
  · cases ha : allocator.allocateFrom neighbors allocator.span.toNat allocator.nextCandidate with
    | none => exact hw
    | some candidate =>
      have hpool := isInPool_iff.mp (allocateFrom_eq_some ha).1
      have hnext := advance_mem hw hpool.2.1
      exact ⟨hw.pos, hw.last_le, hnext.1, hnext.2⟩

theorem span_toNat (hw : allocator.WellFormed) :
    allocator.span.toNat = allocator.lastAddress.toNat - allocator.firstAddress.toNat + 1 := by
  have hle := le_trans hw.first_le_next hw.next_le_last
  have hlast := hw.last_le
  have hsub := UInt16.toNat_sub_of_le _ _ (UInt16.le_iff_toNat_le.mpr hle)
  unfold span
  rw [UInt16.toNat_add, hsub]
  simp
  omega

theorem allocate_next (hw : allocator.WellFormed)
    (hfree : allocatedChild neighbors allocator.nextCandidate = false) :
    (allocator.allocate neighbors).2 = allocator.nextCandidate := by
  have hpos := hw.pos
  have hlast := hw.last_le
  have hfirst := hw.first_le_next
  have hnext := hw.next_le_last
  have hpool : allocator.isInPool allocator.nextCandidate = true :=
    isInPool_iff.mpr ⟨⟨by omega, by omega⟩, hfirst, hnext⟩
  have hspan : allocator.span.toNat =
      (allocator.lastAddress.toNat - allocator.firstAddress.toNat) + 1 := span_toNat hw
  have hopen : ¬ allocator.firstAddress > allocator.lastAddress := by
    simp only [gt_iff_lt, UInt16.lt_iff_toNat_lt]
    omega
  unfold allocate
  rw [if_neg hopen, hspan, allocateFrom, if_pos (by simp [hpool, hfree])]

/-! ## Leases and aging -/

section Aging

open ZigbeeNeighborTable

/-- An aging pass keeps a neighbor's keys, and its lease, or clears its slot, which was no lease. -/
theorem age_cases (cutoffMs : UInt32) (spareAddress : UInt16) (n : ZigbeeNeighbor) :
    let n' := if isStale cutoffMs spareAddress n then aged n else n
    (n'.used = n.used ∧ n'.nwkAddress = n.nwkAddress ∧ n'.ieeeAddress = n.ieeeAddress ∧
        (isLease n = true → isLease n' = true)) ∨
      (n'.used = false ∧ (n.ieeeAddress ≠ 0 → isLease n = false)) := by
  dsimp only
  split
  · next hstale =>
    simp only [isStale, Bool.and_eq_true, bne_iff_ne] at hstale
    unfold aged
    split
    · next hchild =>
      simp only [Bool.and_eq_true, beq_iff_eq, bne_iff_ne] at hchild
      refine .inl ⟨rfl, rfl, rfl, fun _ => ?_⟩
      simp [isLease, hchild.2]
    · next hother =>
      refine .inr ⟨rfl, fun hne => ?_⟩
      have hnot : n.relationship ≠ zbRelChild := by
        intro hrel
        exact hother (by simp [hrel, hne])
      simp [isLease, hnot, hstale.2]
  · exact .inl ⟨rfl, rfl, rfl, id⟩

theorem removeStaleRouters_nwk_distinct (h : SlotTable.Distinct nwkKey neighbors)
    {cutoffMs : UInt32} {spareAddress : UInt16} :
    SlotTable.Distinct nwkKey (removeStaleRouters neighbors cutoffMs spareAddress).1 := by
  refine h.map fun n => ?_
  rcases age_cases cutoffMs spareAddress n with ⟨hused, hnwk, _⟩ | ⟨hused, _⟩
  · exact .inr (by rw [nwkKey, nwkKey, hused, hnwk])
  · exact .inl (nwkKey_eq_none.mpr hused)

end Aging

end ZigbeeAddressAllocator

end NiusZigbee
