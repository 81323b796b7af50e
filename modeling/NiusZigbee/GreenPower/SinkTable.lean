import NiusZigbee.Library.SlotTable
import NiusZigbee.Security.CcmStar

/-!
# The sink table

`ZigbeeGpSinkTable` holds key and last frame counter of each commissioned device. It never evicts
one: with every slot in use, a new device is not commissioned.
-/

namespace NiusZigbee

structure GpSinkEntry where
  used : Bool := false
  srcId : UInt32 := 0
  deviceId : UInt8 := 0
  key : Block := Block.ofList []
  lastFrameCounter : UInt32 := 0
deriving DecidableEq, Repr

/-- The counter does not advance past the stored one; a stored 0 means that none was seen yet. -/
def GpSinkEntry.Seen (e : GpSinkEntry) (frameCounter : UInt32) : Prop :=
  frameCounter ≤ e.lastFrameCounter ∧ e.lastFrameCounter ≠ 0

instance (e : GpSinkEntry) (frameCounter : UInt32) : Decidable (e.Seen frameCounter) :=
  inferInstanceAs (Decidable (_ ∧ _))

theorem GpSinkEntry.seen_stored {e : GpSinkEntry} {frameCounter counter : UInt32}
    (hcounter : e.lastFrameCounter < frameCounter) (hle : counter ≤ frameCounter) :
    { e with lastFrameCounter := frameCounter }.Seen counter := by
  refine ⟨hle, ?_⟩
  rintro rfl
  exact absurd hcounter (UInt32.not_lt.mpr UInt32.zero_le)

namespace ZigbeeGpSinkTable

def begin (capacity : UInt8) : List GpSinkEntry := List.replicate capacity.toNat {}

def device (e : GpSinkEntry) : Option UInt32 := if e.used then some e.srcId else none

def find (sink : List GpSinkEntry) (srcId : UInt32) : Option GpSinkEntry :=
  SlotTable.lookup device sink srcId

/-- The table, and the entry commissioned, if there was a slot for it. -/
def commission (sink : List GpSinkEntry) (srcId : UInt32) (deviceId : UInt8) (key : Block) :
    List GpSinkEntry × Option GpSinkEntry :=
  match SlotTable.slotFor device (fun _ => none) sink srcId with
  | none => (sink, none)
  | some i =>
    let e : GpSinkEntry :=
      { used := true, srcId := srcId, deviceId := deviceId, key := key, lastFrameCounter := 0 }
    (sink.set i e, some e)

def checkAndUpdateCounter (sink : List GpSinkEntry) (srcId frameCounter : UInt32) :
    List GpSinkEntry × Bool :=
  match SlotTable.find device sink srcId with
  | none => (sink, false)
  | some i =>
    if sink[i]?.any fun e => e.Seen frameCounter then (sink, false)
    else (sink.modify i fun e => { e with lastFrameCounter := frameCounter }, true)

variable {sink : List GpSinkEntry} {srcId other frameCounter : UInt32} {deviceId : UInt8}
  {key : Block} {e : GpSinkEntry}

theorem device_eq_some : device e = some srcId ↔ e.used = true ∧ e.srcId = srcId := by
  unfold device
  split <;> simp_all

/-! ## Counters -/

private theorem find_slot (h : find sink srcId = some e) :
    ∃ i, SlotTable.find device sink srcId = some i ∧ i < sink.length ∧ sink[i]? = some e ∧
      ∀ j (hj : j < sink.length), j < i → device sink[j] ≠ some srcId := by
  cases hf : SlotTable.find device sink srcId with
  | none => simp [find, SlotTable.lookup_of_find_none hf] at h
  | some i =>
    obtain ⟨hi, _, hlt⟩ := SlotTable.find_eq_some hf
    rw [find, SlotTable.lookup_of_find hf] at h
    exact ⟨i, rfl, hi, h, fun j _ hj => hlt j hj⟩

theorem checkAndUpdateCounter_seen (h : find sink srcId = some e) (hseen : e.Seen frameCounter) :
    checkAndUpdateCounter sink srcId frameCounter = (sink, false) := by
  obtain ⟨i, hf, _, hi, _⟩ := find_slot h
  simp [checkAndUpdateCounter, hf, hi, hseen]

private theorem checkAndUpdateCounter_stores (h : find sink srcId = some e)
    (hfresh : ¬ e.Seen frameCounter) :
    ∃ i, i < sink.length ∧ sink[i]? = some e ∧
      (∀ j (hj : j < sink.length), j < i → device sink[j] ≠ some srcId) ∧
      checkAndUpdateCounter sink srcId frameCounter =
        (sink.set i { e with lastFrameCounter := frameCounter }, true) := by
  obtain ⟨i, hf, hlt, hi, hbefore⟩ := find_slot h
  refine ⟨i, hlt, hi, hbefore, ?_⟩
  simp only [checkAndUpdateCounter, hf, hi, Option.any_some, decide_eq_true_eq, if_neg hfresh]
  rw [List.modify_eq_set_getElem?, hi]
  rfl

/-- A counter not seen passes and is stored; no other device is affected. -/
theorem checkAndUpdateCounter_fresh (h : find sink srcId = some e)
    (hfresh : ¬ e.Seen frameCounter) :
    (checkAndUpdateCounter sink srcId frameCounter).2 = true ∧
      find (checkAndUpdateCounter sink srcId frameCounter).1 srcId =
        some { e with lastFrameCounter := frameCounter } ∧
      ∀ other, other ≠ srcId →
        find (checkAndUpdateCounter sink srcId frameCounter).1 other = find sink other := by
  obtain ⟨i, hlt, hi, hbefore, heq⟩ := checkAndUpdateCounter_stores h hfresh
  have hdev : device { e with lastFrameCounter := frameCounter } = some srcId := by
    have hkey := SlotTable.lookup_key h
    rw [device_eq_some] at hkey ⊢
    exact hkey
  rw [heq]
  refine ⟨rfl, ?_, fun other hne => ?_⟩
  · exact SlotTable.lookup_set_self hlt (fun j hj => hbefore j (by omega) hj) hdev
  · refine SlotTable.lookup_set_other (fun hi' hother => hne ?_) (fun hother => hne ?_)
    · have hold : sink[i] = e := by
        rw [List.getElem?_eq_getElem hlt] at hi
        exact Option.some.inj hi
      rw [hold, SlotTable.lookup_key h, Option.some.injEq] at hother
      exact hother.symm
    · rw [hdev, Option.some.injEq] at hother
      exact hother.symm

/-- The table changes just when the counter advances past the stored one. -/
theorem checkAndUpdateCounter_unchanged (h : find sink srcId = some e) :
    (checkAndUpdateCounter sink srcId frameCounter).1 = sink ↔
      frameCounter ≤ e.lastFrameCounter := by
  by_cases hseen : e.Seen frameCounter
  · rw [checkAndUpdateCounter_seen h hseen]
    exact iff_of_true rfl hseen.1
  constructor
  · intro hsame
    obtain ⟨_, hstored, _⟩ := checkAndUpdateCounter_fresh h hseen
    rw [hsame, h, Option.some.injEq] at hstored
    have hlast := congrArg GpSinkEntry.lastFrameCounter hstored
    dsimp only at hlast
    rw [hlast]
    exact UInt32.le_refl _
  · intro hle
    -- nothing was stored, and 0 is stored again
    have hlast : e.lastFrameCounter = 0 := by
      by_contra hstored
      exact hseen ⟨hle, hstored⟩
    have hzero : frameCounter = e.lastFrameCounter := by
      rw [hlast] at hle ⊢
      exact UInt32.le_antisymm hle UInt32.zero_le
    obtain ⟨i, hlt, hi, _, heq⟩ := checkAndUpdateCounter_stores h hseen
    rw [heq, hzero]
    rw [List.getElem?_eq_getElem hlt, Option.some.injEq] at hi
    rw [← hi]
    exact List.set_getElem_self hlt

/-! ## Commissioning -/

theorem commission_none (h : (commission sink srcId deviceId key).2 = none) :
    (commission sink srcId deviceId key).1 = sink := by
  unfold commission at h ⊢
  split
  · rfl
  · next hslot => simp [hslot] at h

theorem commission_some (h : (commission sink srcId deviceId key).2 = some e) :
    e = { used := true, srcId := srcId, deviceId := deviceId, key := key, lastFrameCounter := 0 } ∧
      find (commission sink srcId deviceId key).1 srcId = some e ∧
      ∀ other, other ≠ srcId →
        find (commission sink srcId deviceId key).1 other = find sink other := by
  unfold commission at h ⊢
  cases hslot : SlotTable.slotFor device (fun _ => none) sink srcId with
  | none => simp [hslot] at h
  | some i =>
    simp only [hslot, Option.some.injEq] at h
    have hroom := SlotTable.hasRoom_of_slotFor hslot
    obtain ⟨hi, _⟩ := SlotTable.slotFor_of_room hroom hslot
    subst h
    exact ⟨rfl, SlotTable.lookup_store_self hslot hi rfl,
      fun other hne => SlotTable.lookup_store_other hroom hslot rfl hne⟩

theorem commission_known (h : find sink srcId = some e) (deviceId : UInt8) (key : Block) :
    ∃ e', (commission sink srcId deviceId key).2 = some e' := by
  obtain ⟨i, hi, _⟩ := find_slot h
  have hslot : SlotTable.slotFor device (fun _ => none) sink srcId = some i := by
    simp [SlotTable.slotFor, hi]
  simp [commission, hslot]

end ZigbeeGpSinkTable

end NiusZigbee
