import NiusZigbee.GreenPower.Cluster

/-!
# The Green Power proxy

`ZigbeeGpProxy` takes a frame apart without its key and sends its pieces to the sink. It suppresses
frames whose counter does not advance past the last one it forwarded for the device.
-/

namespace NiusZigbee

open ByteCodec OutBuffer

structure GpProxyEntry where
  used : Bool := false
  srcId : UInt32 := 0
  lastFrameCounter : UInt32 := 0
deriving DecidableEq, Repr

/-- The table, the cluster command chosen, if one was, and the payload; length 0 is a dropped
frame. -/
structure GpForwarded where
  entries : List GpProxyEntry
  clusterCmd : Option UInt8 := none
  out : Built := .fail

namespace ZigbeeGpProxy

def begin (capacity : UInt8) : List GpProxyEntry := List.replicate capacity.toNat {}

def device (e : GpProxyEntry) : Option UInt32 := if e.used then some e.srcId else none

def find (entries : List GpProxyEntry) (srcId : UInt32) : Option GpProxyEntry :=
  SlotTable.lookup device entries srcId

def lower (entry oldest : GpProxyEntry) : Bool := entry.lastFrameCounter < oldest.lastFrameCounter

/-- The device's slot, an unused one, or the one with the lowest counter. -/
def slotFor (entries : List GpProxyEntry) (srcId : UInt32) : Option Nat :=
  SlotTable.slotFor device (SlotTable.least device lower) entries srcId

def isDuplicate (entries : List GpProxyEntry) (srcId frameCounter : UInt32) :
    List GpProxyEntry × Bool :=
  if (find entries srcId).any fun e => frameCounter ≤ e.lastFrameCounter then (entries, true)
  else
    match slotFor entries srcId with
    | none => (entries, false)
    | some i =>
      (entries.set i { used := true, srcId := srcId, lastFrameCounter := frameCounter }, false)

/-- The notification for a frame, as far as its header goes. -/
def notice (f : GpdfFrame) (gppShortAddr : UInt16) (gppLink : UInt8) : GpNotification where
  securityLevel := f.securityLevel
  rxAfterTx := f.rxAfterTx
  srcId := f.srcId
  frameCounter := f.frameCounter
  proxyInfoPresent := true
  gppShortAddr := gppShortAddr
  gppLink := gppLink

def forward (entries : List GpProxyEntry) (gpdf : List UInt8) (gppShortAddr : UInt16)
    (gppLink outMax : UInt8) : GpForwarded :=
  let (parsed, f) := ZigbeeGreenPower.parse gpdf
  if !parsed then { entries := entries }
  else if f.applicationId ≠ 0 then { entries := entries }
  else
    let commissioning := f.securityLevel = gpSecNone ∧ f.commandId = gpdCmdCommissioning
    let checked :=
      if ¬ commissioning ∧ f.securityLevel ≥ gpSecFcMic then
        isDuplicate entries f.srcId f.frameCounter
      else (entries, false)
    if checked.2 then { entries := checked.1 }
    else
      let n := notice f gppShortAddr gppLink
      if commissioning then
        { entries := checked.1
          clusterCmd := some gpCmdCommissioningNotification
          out := ZigbeeGreenPowerCluster.buildNotification outMax
            { n with commandId := f.commandId, payload := f.payload } }
      else if f.securityLevel = gpSecEncFcMic then
        if gpdf.length < 10 + 1 + 4 then { entries := checked.1 }
        else
          let encLen := (gpdf.length - 10 - 4) % 256
          if encLen < 1 ∨ encLen > 48 then { entries := checked.1 }
          else
            { entries := checked.1
              clusterCmd := some gpCmdNotification
              out := ZigbeeGreenPowerCluster.buildNotification outMax
                { n with
                  secured := true
                  commandId := gpdf.getD 10 0
                  payload := slice gpdf 11 (encLen - 1)
                  mic := Mic.ofList (gpdf.drop (gpdf.length - 4)) } }
      else
        { entries := checked.1
          clusterCmd := some gpCmdNotification
          out := ZigbeeGreenPowerCluster.buildNotification outMax
            { n with commandId := f.commandId, payload := f.payload } }

/-! ## Duplicates -/

section Duplicate

variable {entries : List GpProxyEntry} {srcId frameCounter : UInt32}

theorem slotFor_isSome (hne : entries ≠ []) :
    ∃ i, slotFor entries srcId = some i ∧ i < entries.length := by
  have hsome : ∃ i, slotFor entries srcId = some i := by
    by_cases hroom : SlotTable.HasRoom device entries srcId
    · exact SlotTable.slotFor_isSome _ hroom
    · simp only [SlotTable.HasRoom, not_or, Option.not_isSome_iff_eq_none] at hroom
      simp only [slotFor, SlotTable.slotFor, hroom.1, hroom.2]
      exact SlotTable.least_isSome hne (SlotTable.firstFree_eq_none hroom.2)
  obtain ⟨i, hi⟩ := hsome
  exact ⟨i, hi, SlotTable.slotFor_least_lt hi⟩

/-- A counter above the device's last one is no duplicate, and one the next time. -/
theorem isDuplicate_fresh
    (h : ∀ e, find entries srcId = some e → e.lastFrameCounter < frameCounter) :
    (isDuplicate entries srcId frameCounter).2 = false ∧
      (entries ≠ [] →
        ∃ e, find (isDuplicate entries srcId frameCounter).1 srcId = some e ∧
          e.lastFrameCounter = frameCounter) := by
  have hnot : ¬ ((find entries srcId).any fun e => frameCounter ≤ e.lastFrameCounter) = true := by
    cases hf : find entries srcId with
    | none => simp
    | some e => simpa [UInt32.not_le] using h e hf
  unfold isDuplicate
  rw [if_neg hnot]
  refine ⟨by split <;> rfl, fun hne => ?_⟩
  obtain ⟨i, hslot, hi⟩ := @slotFor_isSome entries srcId hne
  simp only [hslot]
  exact ⟨_, SlotTable.lookup_store_self hslot hi rfl, rfl⟩

theorem isDuplicate_again {e : GpProxyEntry} (h : find entries srcId = some e)
    (hle : frameCounter ≤ e.lastFrameCounter) :
    isDuplicate entries srcId frameCounter = (entries, true) := by
  simp [isDuplicate, h, hle]

end Duplicate

end ZigbeeGpProxy

end NiusZigbee
