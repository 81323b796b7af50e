import NiusZigbee.Library.SlotTable
import NiusZigbee.Nwk.Payload

/-!
# The concentrator's source route store

Paths are stored in travel order, device to concentrator, as a Route Record carries them, and
read out reversed. An entry's relay list never exceeds its array.
-/

namespace NiusZigbee

open ByteCodec OutBuffer

structure SourceRouteEntry where
  used : Bool
  destAddr : UInt16
  relays : List UInt16
  updatedMs : UInt32
  relays_le : relays.length ≤ 8
deriving DecidableEq

namespace ZigbeeSourceRouteTable

def kMaxRelays : Nat := 8

def emptyEntry : SourceRouteEntry := ⟨false, 0xFFFF, [], 0, by decide⟩

def destination (entry : SourceRouteEntry) : Option UInt16 :=
  if entry.used then some entry.destAddr else none

/-- `entries_[i].updatedMs` comes before the candidate's, on the wrapping clock. -/
def older (entry candidate : SourceRouteEntry) : Bool :=
  (entry.updatedMs - candidate.updatedMs).toInt32 < 0

def begin (capacity : Nat) : List SourceRouteEntry := List.replicate capacity emptyEntry

def install (entries : List SourceRouteEntry) (destAddr : UInt16) (relays : List UInt16)
    (nowMs : UInt32) : Bool × List SourceRouteEntry :=
  if h : relays.length ≤ kMaxRelays then
    match SlotTable.slotFor destination (SlotTable.least destination older) entries destAddr with
    | none => (false, entries)
    | some i => (true, entries.set i ⟨true, destAddr, relays, nowMs, h⟩)
  else (false, entries)

/-- The stored path reversed; `none` is the source's 255. -/
def downstreamRoute (entries : List SourceRouteEntry) (destAddr : UInt16) (outMax : UInt8) :
    Option (List UInt16) :=
  match SlotTable.lookup destination entries destAddr with
  | none => none
  | some entry => if outMax.toNat < entry.relays.length then none else some entry.relays.reverse

theorem slot_exists {entries : List SourceRouteEntry} (h : entries ≠ []) (destAddr : UInt16) :
    ∃ i, SlotTable.slotFor destination (SlotTable.least destination older) entries destAddr =
      some i := by
  by_cases hroom : SlotTable.HasRoom destination entries destAddr
  · exact SlotTable.slotFor_isSome _ hroom
  · simp only [SlotTable.HasRoom, not_or, Option.not_isSome_iff_eq_none] at hroom
    obtain ⟨i, hi⟩ : ∃ i, SlotTable.least destination older entries = some i :=
      SlotTable.least_isSome h (SlotTable.firstFree_eq_none hroom.2)
    exact ⟨i, by simp [SlotTable.slotFor, hroom.1, hroom.2, hi]⟩

/-- What was installed is what comes back, reversed. -/
theorem downstreamRoute_install {entries : List SourceRouteEntry} (h : entries ≠ [])
    (destAddr : UInt16) {relays : List UInt16} (hlen : relays.length ≤ kMaxRelays) (nowMs : UInt32)
    {outMax : UInt8} (hmax : relays.length ≤ outMax.toNat) :
    (install entries destAddr relays nowMs).1 = true ∧
      downstreamRoute (install entries destAddr relays nowMs).2 destAddr outMax =
        some relays.reverse := by
  obtain ⟨i, hi⟩ := slot_exists h destAddr
  have hstored := SlotTable.lookup_store_self (e := ⟨true, destAddr, relays, nowMs, hlen⟩) hi
    (SlotTable.slotFor_least_lt hi) (by simp [destination])
  simp only [install, hlen, dite_true, hi]
  exact ⟨trivial, by simp [downstreamRoute, hstored, Nat.not_lt.mpr hmax]⟩

end ZigbeeSourceRouteTable

end NiusZigbee
