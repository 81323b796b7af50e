import NiusZigbee.Library.SlotTable

/-!
# APS receive-side duplicate rejection

`ZigbeeApsDuplicateTable` remembers the last counter of each source address and endpoint. A table
without slots is one that was never attached: every frame is new.
-/

namespace NiusZigbee

structure ApsDupeEntry where
  used : Bool := false
  srcShort : UInt16 := 0
  srcEndpoint : UInt8 := 0
  lastCounter : UInt8 := 0
  lastSeenMs : UInt32 := 0
deriving DecidableEq, Repr

namespace ZigbeeApsDuplicateTable

def begin (capacity : UInt8) : List ApsDupeEntry := List.replicate capacity.toNat {}

def peer (e : ApsDupeEntry) : Option (UInt16 × UInt8) :=
  if e.used then some (e.srcShort, e.srcEndpoint) else none

/-- `entries_[i].lastSeenMs < slot->lastSeenMs`, without regard to the clock wrapping. -/
def older (entry slot : ApsDupeEntry) : Bool := entry.lastSeenMs < slot.lastSeenMs

/-- The slot a frame of this peer is recorded in. -/
def slotFor (entries : List ApsDupeEntry) (srcShort : UInt16) (srcEndpoint : UInt8) : Option Nat :=
  SlotTable.slotFor peer (SlotTable.least peer older) entries (srcShort, srcEndpoint)

def find (entries : List ApsDupeEntry) (srcShort : UInt16) (srcEndpoint : UInt8) :
    Option ApsDupeEntry :=
  SlotTable.lookup peer entries (srcShort, srcEndpoint)

/-- Whether the frame is new, and the table with it recorded. -/
def checkAndRecord (entries : List ApsDupeEntry) (srcShort : UInt16) (srcEndpoint counter : UInt8)
    (nowMs : UInt32) : List ApsDupeEntry × Bool :=
  match slotFor entries srcShort srcEndpoint with
  | none => (entries, true)
  | some i =>
    (entries.set i
      { used := true, srcShort := srcShort, srcEndpoint := srcEndpoint, lastCounter := counter
        lastSeenMs := nowMs },
      match find entries srcShort srcEndpoint with
      | none => true
      | some e => e.lastCounter ≠ counter)

variable {entries : List ApsDupeEntry}

section Recorded

variable (srcShort : UInt16) (srcEndpoint counter : UInt8) (nowMs : UInt32)

theorem slotFor_isSome (hne : entries ≠ []) :
    ∃ i, slotFor entries srcShort srcEndpoint = some i ∧ i < entries.length := by
  obtain ⟨i, hi⟩ : ∃ i, slotFor entries srcShort srcEndpoint = some i :=
    SlotTable.slotFor_least_isSome hne _
  exact ⟨i, hi, SlotTable.slotFor_least_lt hi⟩

theorem checkAndRecord_ne_nil (hne : entries ≠ []) :
    (checkAndRecord entries srcShort srcEndpoint counter nowMs).1 ≠ [] := by
  obtain ⟨i, hi, -⟩ := slotFor_isSome srcShort srcEndpoint hne
  rw [checkAndRecord, hi]
  apply List.ne_nil_of_length_pos
  rw [List.length_set]
  exact List.length_pos_of_ne_nil hne

/-- A frame is new unless its counter is the last one recorded of its peer. -/
theorem checkAndRecord_isNew (hne : entries ≠ []) :
    (checkAndRecord entries srcShort srcEndpoint counter nowMs).2 = true ↔
      (find entries srcShort srcEndpoint).map (·.lastCounter) ≠ some counter := by
  obtain ⟨i, hi, -⟩ := slotFor_isSome srcShort srcEndpoint hne
  rw [checkAndRecord, hi]
  cases hfind : find entries srcShort srcEndpoint with
  | none => simp
  | some e => simp

theorem checkAndRecord_find (hne : entries ≠ []) :
    (find (checkAndRecord entries srcShort srcEndpoint counter nowMs).1 srcShort srcEndpoint).map
      (·.lastCounter) = some counter := by
  obtain ⟨i, hi, hlt⟩ := slotFor_isSome srcShort srcEndpoint hne
  rw [checkAndRecord, hi, find, SlotTable.lookup_store_self hi hlt rfl]
  rfl

end Recorded

theorem checkAndRecord_other {srcShort otherShort : UInt16}
    {srcEndpoint otherEndpoint counter : UInt8} {nowMs : UInt32}
    (hother : (otherShort, otherEndpoint) ≠ (srcShort, srcEndpoint))
    (hslot : ∀ i e, slotFor entries otherShort otherEndpoint = some i → entries[i]? = some e →
      peer e ≠ some (srcShort, srcEndpoint)) :
    find (checkAndRecord entries otherShort otherEndpoint counter nowMs).1 srcShort srcEndpoint =
      find entries srcShort srcEndpoint := by
  rw [checkAndRecord]
  split
  · rfl
  · next i hi =>
    apply SlotTable.lookup_set_other
    · intro hlt
      exact hslot i _ hi (List.getElem?_eq_getElem hlt)
    · intro hpeer
      exact hother (Option.some.inj hpeer)

end ZigbeeApsDuplicateTable

end NiusZigbee
