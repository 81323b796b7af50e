import NiusZigbee.GreenPower.SinkSecurity

/-!
# Notifications the sink rejects

The counter of a notification is stored before its command is found too long for the caller's
buffer. A notification rejected for its length alone has spent its counter.
-/

namespace NiusZigbee.ZigbeeGreenPowerCluster

variable {ecb : BlockCipher} {sink : List GpSinkEntry} {payload : List UInt8} {outMax : UInt8}
  {n : GpNotification} {e : GpSinkEntry}

/-- The notification would be taken from a known device, but for the buffer. -/
def OnlyTooLong (ecb : BlockCipher) (sink : List GpSinkEntry) (payload : List UInt8)
    (outMax : UInt8) : Prop :=
  ∃ n e, parseNotification payload = some n ∧ ZigbeeGpSinkTable.find sink n.srcId = some e ∧
    (n.secured = true → n.payload.length ≤ 47 ∧ Verifies ecb e.key n) ∧
    e.lastFrameCounter < n.frameCounter ∧ outMax.toNat < n.payload.length

/-- A notification from a known device fails its key, or comes down to its counter and length. -/
theorem handleNotification_known (hparse : parseNotification payload = some n)
    (hfind : ZigbeeGpSinkTable.find sink n.srcId = some e) (outMax : UInt8) :
    if n.secured = true → n.payload.length ≤ 47 ∧ Verifies ecb e.key n then
      ∃ commandId plain, plain.length = n.payload.length ∧
        handleNotification ecb sink payload outMax =
          deliver (counterChecked sink n) commandId plain outMax
    else handleNotification ecb sink payload outMax = { sink := sink, accepted := false } := by
  cases hsec : n.secured with
  | false =>
    rw [if_pos (by simp)]
    exact ⟨n.commandId, n.payload, rfl, handleNotification_unsecured hparse hfind hsec⟩
  | true =>
    have hchecked : counterChecked sink n =
        ZigbeeGpSinkTable.checkAndUpdateCounter sink n.srcId n.frameCounter :=
      if_neg (by simp [hsec])
    have hhandled := @handleNotification_secured ecb sink payload outMax n e hparse hfind hsec
    by_cases hok : n.payload.length ≤ 47 ∧ Verifies ecb e.key n
    · rw [if_pos fun _ => hok, hchecked]
      refine ⟨(plainCommand ecb e.key n).getD 0 0, (plainCommand ecb e.key n).drop 1, ?_, ?_⟩
      · simp [plainCommand]
      · rw [hhandled, if_pos hok]
    · rw [if_neg fun h => hok (h rfl), hhandled, if_neg hok]

/-- The check leaves the table as it is just when the counter does not advance; one that does
passes. -/
private theorem counterChecked_sink (hfind : ZigbeeGpSinkTable.find sink n.srcId = some e) :
    ((counterChecked sink n).1 = sink ↔ n.frameCounter ≤ e.lastFrameCounter) ∧
      (e.lastFrameCounter < n.frameCounter → (counterChecked sink n).2 = true) := by
  by_cases hnone : n.secured = false ∧ n.frameCounter = 0
  · have hchecked : counterChecked sink n = (sink, true) := if_pos hnone
    rw [hchecked, hnone.2]
    exact ⟨iff_of_true rfl UInt32.zero_le, fun _ => rfl⟩
  have hchecked : counterChecked sink n =
      ZigbeeGpSinkTable.checkAndUpdateCounter sink n.srcId n.frameCounter := if_neg hnone
  rw [hchecked]
  refine ⟨ZigbeeGpSinkTable.checkAndUpdateCounter_unchanged hfind, fun hadvances => ?_⟩
  have hunseen : ¬ e.Seen n.frameCounter := fun h => absurd hadvances (UInt32.not_lt.mpr h.1)
  exact (ZigbeeGpSinkTable.checkAndUpdateCounter_fresh hfind hunseen).1

theorem handleNotification_unknown
    (hunknown : ¬ ∃ n e, parseNotification payload = some n ∧
      ZigbeeGpSinkTable.find sink n.srcId = some e) :
    handleNotification ecb sink payload outMax = { sink := sink, accepted := false } := by
  cases hparse : parseNotification payload with
  | none => simp only [handleNotification, hparse]
  | some n =>
    cases hfind : ZigbeeGpSinkTable.find sink n.srcId with
    | none => simp only [handleNotification, hparse, hfind]
    | some e => exact absurd ⟨n, e, hparse, hfind⟩ hunknown

theorem onlyTooLong_known (hparse : parseNotification payload = some n)
    (hfind : ZigbeeGpSinkTable.find sink n.srcId = some e) :
    OnlyTooLong ecb sink payload outMax ↔
      (n.secured = true → n.payload.length ≤ 47 ∧ Verifies ecb e.key n) ∧
        e.lastFrameCounter < n.frameCounter ∧ outMax.toNat < n.payload.length := by
  constructor
  · rintro ⟨n', e', hparse', hfind', h⟩
    obtain rfl := Option.some.inj (hparse.symm.trans hparse')
    obtain rfl := Option.some.inj (hfind.symm.trans hfind')
    exact h
  · exact fun h => ⟨n, e, hparse, hfind, h⟩

theorem rejected_keeps_sink :
    ((handleNotification ecb sink payload outMax).accepted = false →
      (handleNotification ecb sink payload outMax).sink = sink) ↔
    ¬ OnlyTooLong ecb sink payload outMax := by
  by_cases hknown : ∃ n e, parseNotification payload = some n ∧
    ZigbeeGpSinkTable.find sink n.srcId = some e
  swap
  · rw [handleNotification_unknown hknown]
    refine iff_of_true (fun _ => rfl) ?_
    rintro ⟨n, e, hparse, hfind, _⟩
    exact hknown ⟨n, e, hparse, hfind⟩
  obtain ⟨n, e, hparse, hfind⟩ := hknown
  have hhandled := @handleNotification_known ecb sink payload n e hparse hfind outMax
  rw [onlyTooLong_known hparse hfind]
  by_cases hkey : n.secured = true → n.payload.length ≤ 47 ∧ Verifies ecb e.key n
  swap
  · rw [if_neg hkey] at hhandled
    rw [hhandled]
    exact iff_of_true (fun _ => rfl) fun h => hkey h.1
  rw [if_pos hkey] at hhandled
  obtain ⟨commandId, plain, hlen, hhandled⟩ := hhandled
  obtain ⟨hsame, hpass⟩ := counterChecked_sink hfind
  have haccepted := deliver_accepted (counterChecked sink n) commandId plain outMax
  rw [hlen] at haccepted
  rw [hhandled, deliver_sink, hsame, ← Bool.not_eq_true, haccepted]
  constructor
  · rintro hkept ⟨_, hadvances, hlong⟩
    have hback := hkept fun h => absurd h.2 (Nat.not_le.mpr hlong)
    exact absurd hadvances (UInt32.not_lt.mpr hback)
  · intro hfits hrejected
    rw [← UInt32.not_lt]
    intro hadvances
    refine hfits ⟨hkey, hadvances, ?_⟩
    rw [← Nat.not_le]
    exact fun h => hrejected ⟨hpass hadvances, h⟩

/-- A rejected notification leaves the table as it was, and is judged again as it would have been,
just when it was not rejected for its length alone. -/
theorem rejected_without_effect_iff (ecb : BlockCipher) (sink : List GpSinkEntry)
    (payload : List UInt8) (outMax : UInt8) :
    ((handleNotification ecb sink payload outMax).accepted = false →
      (handleNotification ecb sink payload outMax).sink = sink ∧
      ∀ outMax', handleNotification ecb (handleNotification ecb sink payload outMax).sink payload
        outMax' = handleNotification ecb sink payload outMax') ↔
    ¬ OnlyTooLong ecb sink payload outMax := by
  rw [← rejected_keeps_sink]
  constructor
  · exact fun h hrejected => (h hrejected).1
  · intro h hrejected
    rw [h hrejected]
    exact ⟨rfl, fun _ => rfl⟩

private def tooLong : List UInt8 :=
  notificationBytes (notified Aes128.encrypt gpdKey 0x01234567 5 [0x20, 0x01] 0x1234 0xE0)

/-- A secured command of one byte, and no room for it: the counter 5 is spent, and the command is
not taken with room either. -/
theorem rejected_with_effect :
    let rejected := handleNotification Aes128.encrypt commissioned tooLong 0
    rejected.accepted = false ∧ rejected.sink ≠ commissioned ∧
    (ZigbeeGpSinkTable.find commissioned 0x01234567).map (·.lastFrameCounter) = some 0 ∧
    (ZigbeeGpSinkTable.find rejected.sink 0x01234567).map (·.lastFrameCounter) = some 5 ∧
    (handleNotification Aes128.encrypt rejected.sink tooLong 48).accepted = false ∧
    (handleNotification Aes128.encrypt commissioned tooLong 48).accepted = true := by
  intro rejected
  have hhandled : ∀ (sink : List GpSinkEntry) (e : GpSinkEntry) (outMax : UInt8),
      ZigbeeGpSinkTable.find sink 0x01234567 = some e → e.key = gpdKey →
      handleNotification Aes128.encrypt sink tooLong outMax =
        deliver (ZigbeeGpSinkTable.checkAndUpdateCounter sink 0x01234567 5) 0x20 [0x01] outMax :=
    fun _ _ _ hfind hkey => handleNotification_notified (by decide) hfind hkey
  have hrejected : rejected = _ := hhandled commissioned (commissioned.getD 0 {}) 0 rfl rfl
  have hsink : rejected.sink =
      [{ used := true, srcId := 0x01234567, deviceId := 0x02, key := gpdKey
         lastFrameCounter := 5 }, {}, {}, {}] := by
    rw [hrejected]
    rfl
  rw [hhandled rejected.sink (rejected.sink.getD 0 {}) 48 (by rw [hsink]; rfl) (by rw [hsink]; rfl),
    hhandled commissioned (commissioned.getD 0 {}) 48 rfl rfl, hsink]
  rw [hrejected]
  decide

end NiusZigbee.ZigbeeGreenPowerCluster
