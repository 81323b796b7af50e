import NiusZigbee.Network.NetworkUpdate
import NiusZigbee.Library.FifoSet
import NiusZigbee.Library.Runs
import Mathlib.Data.List.Perm.Subperm

/-!
# A fresh PAN id

The manager keeps the PAN ids it hears in a ring of 16 and picks a new one that is not among them.
The ring is meant to hold the ids heard last. `begin` empties it and leaves the position it recycles
where it was, so that after an earlier eviction the ring gives up an id other than the oldest.
-/

namespace NiusZigbee

open FifoSet

def ZigbeePanIdConflict.isConflict (ourPanId : UInt16) (ourExtPanId : UInt64)
    (heardPanId : UInt16) (heardExtPanId : UInt64) : Bool :=
  heardPanId == ourPanId && heardExtPanId != ourExtPanId

/-- The network manager with the filled part of `heard_`, `heardCount_` long, and `evict_`. -/
structure ZigbeePanIdManager extends ZigbeeNetworkManager where
  heard : List UInt16 := []
  evict : Nat := 0
deriving DecidableEq, Repr

namespace ZigbeePanIdManager

def kMaxHeardPanIds : Nat := 16

variable (mgr : ZigbeePanIdManager)

/-- `evict_` stays. -/
def begin (panId : UInt16) (extPanId : UInt64) (channel nwkUpdateId : UInt8) :
    ZigbeePanIdManager :=
  { mgr with
    panId := panId
    extPanId := extPanId
    channel := channel
    updateId := nwkUpdateId
    heard := [] }

def isHeard (panId : UInt16) : Bool := mgr.heard.contains panId

def recordHeardPanId (panId : UInt16) : ZigbeePanIdManager :=
  if mgr.isHeard panId then mgr
  else if mgr.heard.length < kMaxHeardPanIds then { mgr with heard := mgr.heard ++ [panId] }
  else
    { mgr with
      heard := mgr.heard.set mgr.evict panId
      evict := (mgr.evict + 1) % kMaxHeardPanIds }

def noteBeacon (heardPanId : UInt16) (heardExtPanId : UInt64) : Bool × ZigbeePanIdManager :=
  (ZigbeePanIdConflict.isConflict mgr.panId mgr.extPanId heardPanId heardExtPanId,
    mgr.recordHeardPanId heardPanId)

def isFree (cand : UInt16) : Bool :=
  !(cand == 0x0000 || cand == 0xFFFF) && cand != mgr.panId && !mgr.isHeard cand

/-- The loop of `selectNewPanId`, with the rounds it has left. -/
def selectFrom : Nat → UInt16 → UInt16
  | 0, _ => mgr.panId
  | rounds + 1, cand => if mgr.isFree cand then cand else selectFrom rounds (cand + 1)

def selectNewPanId (seed : UInt16) : UInt16 := mgr.selectFrom 0xFFFE seed

/-! ## The search -/

/-- What the search passes over. -/
def taken : List UInt16 := 0x0000 :: 0xFFFF :: mgr.panId :: mgr.heard

variable {mgr}

theorem isFree_iff {cand : UInt16} : mgr.isFree cand = true ↔ cand ∉ mgr.taken := by
  simp [isFree, taken, isHeard, and_assoc]

theorem selectFrom_free {rounds k : Nat} {cand : UInt16} (hk : k < rounds)
    (hfree : mgr.isFree (cand + UInt16.ofNat k) = true) :
    mgr.isFree (mgr.selectFrom rounds cand) = true := by
  induction rounds generalizing k cand with
  | zero => omega
  | succ rounds ih =>
    rw [selectFrom]
    by_cases hcand : mgr.isFree cand = true
    · rw [if_pos hcand]
      exact hcand
    rw [if_neg hcand]
    cases k with
    | zero => exact absurd (by simpa using hfree) hcand
    | succ k =>
      have hsucc : UInt16.ofNat (k + 1) = 1 + UInt16.ofNat k := by
        rw [UInt16.ofNat_add, UInt16.add_comm]
        rfl
      rw [hsucc, ← UInt16.add_assoc] at hfree
      exact ih (Nat.lt_of_succ_lt_succ hk) hfree

private theorem candidates_nodup (seed : UInt16) {n : Nat} (hn : n ≤ 2 ^ 16) :
    ((List.range n).map fun k => seed + UInt16.ofNat k).Nodup := by
  refine List.Nodup.map_on ?_ List.nodup_range
  intro a ha b hb hab
  rw [List.mem_range] at ha hb
  have hnat := congrArg UInt16.toNat ((UInt16.add_right_inj seed).mp hab)
  rwa [UInt16.toNat_ofNat', UInt16.toNat_ofNat', Nat.mod_eq_of_lt (by omega),
    Nat.mod_eq_of_lt (by omega)] at hnat

/-- One of more candidates than are taken is free. -/
theorem exists_free (seed : UInt16) {n : Nat} (hn : n ≤ 2 ^ 16) (hmore : mgr.taken.length < n) :
    ∃ k < n, mgr.isFree (seed + UInt16.ofNat k) = true := by
  by_contra hnone
  push Not at hnone
  have hsub : ((List.range n).map fun k => seed + UInt16.ofNat k) ⊆ mgr.taken := by
    intro cand hcand
    obtain ⟨k, hk, rfl⟩ := List.mem_map.mp hcand
    have htaken := hnone k (List.mem_range.mp hk)
    rw [ne_eq, isFree_iff, not_not] at htaken
    exact htaken
  have hle := (List.subperm_of_subset (candidates_nodup seed hn) hsub).length_le
  rw [List.length_map, List.length_range] at hle
  omega

theorem selectNewPanId_free (hfits : mgr.heard.length ≤ kMaxHeardPanIds) (seed : UInt16) :
    mgr.selectNewPanId seed ∉ mgr.taken := by
  have hlen : mgr.taken.length ≤ 19 := by
    simp only [taken, List.length_cons, kMaxHeardPanIds] at hfits ⊢
    omega
  obtain ⟨k, hk, hfree⟩ := @exists_free mgr seed 20 (by decide) (by omega)
  exact isFree_iff.mp (selectFrom_free (by omega) hfree)

/-! ## The ring -/

def ring (mgr : ZigbeePanIdManager) : RingBuffer UInt16 := ⟨mgr.heard, mgr.evict⟩

theorem recordHeardPanId_ring (panId : UInt16) :
    (mgr.recordHeardPanId panId).ring = mgr.ring.insert kMaxHeardPanIds panId := by
  have hheard : mgr.isHeard panId = true ↔ panId ∈ mgr.ring.slots := by simp [isHeard, ring]
  rw [recordHeardPanId, RingBuffer.insert]
  by_cases hmem : mgr.isHeard panId = true
  · rw [if_pos hmem, if_pos (hheard.mp hmem)]
  rw [if_neg hmem, if_neg fun h => hmem (hheard.mpr h)]
  by_cases hroom : mgr.heard.length < kMaxHeardPanIds
  · rw [if_pos hroom, if_pos (show mgr.ring.slots.length < _ from hroom)]
    rfl
  · rw [if_neg hroom, if_neg (show ¬ mgr.ring.slots.length < _ from hroom)]
    rfl

/-- A call to the manager. -/
inductive ManagerCall where
  | begin (panId : UInt16) (extPanId : UInt64) (channel nwkUpdateId : UInt8)
  | noteBeacon (heardPanId : UInt16) (heardExtPanId : UInt64)

/-- A manager, and the first-in-first-out set of the PAN ids heard since the last `begin`. -/
structure Session where
  mgr : ZigbeePanIdManager := {}
  recent : List UInt16 := []

namespace Session

def step (s : Session) : ManagerCall → Session
  | .begin panId extPanId channel nwkUpdateId =>
      { mgr := s.mgr.begin panId extPanId channel nwkUpdateId, recent := [] }
  | .noteBeacon heardPanId heardExtPanId =>
      { mgr := (s.mgr.noteBeacon heardPanId heardExtPanId).2
        recent := FifoSet.insert kMaxHeardPanIds s.recent heardPanId }

/-- If the call recycles a slot of the full ring, then that of the id heard first. -/
def RecyclesOldest (s : Session) : ManagerCall → Prop
  | .begin _ _ _ _ => True
  | .noteBeacon heardPanId _ =>
      s.mgr.ring.Recycles kMaxHeardPanIds heardPanId → s.mgr.heard[s.mgr.evict]? = s.recent.head?

instance (s : Session) : (call : ManagerCall) → Decidable (s.RecyclesOldest call)
  | .begin _ _ _ _ => isTrue trivial
  | .noteBeacon _ _ => inferInstanceAs (Decidable (_ → _))

/-- The ring holds the PAN ids heard last. -/
def Follows (s : Session) : Prop := s.mgr.ring.Follows kMaxHeardPanIds s.recent

theorem start_follows : Follows {} := RingBuffer.follows_nil (by decide)

theorem step_follows_iff (s : Session) (call : ManagerCall) (hs : s.Follows) :
    (s.step call).Follows ↔ s.RecyclesOldest call := by
  cases call with
  | begin panId extPanId channel nwkUpdateId =>
    exact iff_of_true (RingBuffer.follows_nil hs.next_lt) trivial
  | noteBeacon heardPanId heardExtPanId =>
    have hring : (s.step (.noteBeacon heardPanId heardExtPanId)).mgr.ring =
        s.mgr.ring.insert kMaxHeardPanIds heardPanId := recordHeardPanId_ring heardPanId
    rw [Follows, hring]
    exact RingBuffer.Follows.insert_iff hs

/-- The ring holds the ids heard last all along just when it never recycles another slot. -/
theorem follows_iff (calls : List ManagerCall) :
    Runs.Along step RecyclesOldest {} calls ↔ ∀ n, ((calls.take n).foldl step {}).Follows :=
  Runs.along_iff step_follows_iff start_follows calls

/-- A selected PAN id is none of those heard last, if the ring recycles their slots in order. -/
theorem selectNewPanId_fresh {calls : List ManagerCall}
    (hrun : Runs.Along step RecyclesOldest {} calls) (seed : UInt16) :
    let s := calls.foldl step {}
    s.mgr.selectNewPanId seed ≠ 0x0000 ∧ s.mgr.selectNewPanId seed ≠ 0xFFFF ∧
      s.mgr.selectNewPanId seed ≠ s.mgr.panId ∧ s.mgr.selectNewPanId seed ∉ s.recent := by
  intro s
  have hs : s.Follows :=
    Runs.Along.invariant (fun s call hs hcall => (step_follows_iff s call hs).mpr hcall)
      start_follows hrun
  have hfree := selectNewPanId_free hs.fits seed
  simp only [taken, List.mem_cons, not_or] at hfree
  obtain ⟨hzero, hbroadcast, hown, hheard⟩ := hfree
  exact ⟨hzero, hbroadcast, hown, fun hrecent => hheard (hs.mem_iff.mpr hrecent)⟩

/-- Beacons of the PAN ids from 1 to `n`. -/
def beacons (n : Nat) : List ManagerCall :=
  (List.range n).map fun i => .noteBeacon (UInt16.ofNat (i + 1)) 0xAA

theorem selectNewPanId_fresh_seventeen :
    let s := (.begin 0x1A62 0xBB 15 0 :: beacons 17).foldl step {}
    s.mgr.selectNewPanId 2 ≠ 0x0000 ∧ s.mgr.selectNewPanId 2 ≠ 0xFFFF ∧
      s.mgr.selectNewPanId 2 ≠ s.mgr.panId ∧ s.mgr.selectNewPanId 2 ∉ s.recent :=
  selectNewPanId_fresh (by decide) 2

/-- A seventeenth neighbour moves the position on. After a new `begin` the same neighbours take the
slot of the second of them, and its PAN id is selected. -/
theorem selectNewPanId_heard :
    ¬ ∀ (calls : List ManagerCall) (seed : UInt16),
      let s := calls.foldl step {}
      s.mgr.selectNewPanId seed ≠ 0x0000 ∧ s.mgr.selectNewPanId seed ≠ 0xFFFF ∧
        s.mgr.selectNewPanId seed ≠ s.mgr.panId ∧ s.mgr.selectNewPanId seed ∉ s.recent := by
  intro h
  have hlost := (h (beacons 17 ++ .begin 0x1A62 0xBB 15 0 :: beacons 17) 2).2.2.2
  revert hlost
  decide

end Session

end ZigbeePanIdManager

end NiusZigbee
