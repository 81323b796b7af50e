import NiusZigbee.GreenPower.EndToEnd
import NiusZigbee.Library.Runs

/-!
# What the sink accepts

A notification marked as secured takes the key of its device; one that is not so marked passes
without. A frame counter is accepted once, as long as the counter the sink stored is not set back.
-/

namespace NiusZigbee.ZigbeeGreenPowerCluster

section Key

variable {ecb : BlockCipher} {sink : List GpSinkEntry} {payload : List UInt8} {outMax : UInt8}
  {n : GpNotification} {e : GpSinkEntry}

/-- The notification carries a ciphertext and a MIC, and they verify under the key. -/
def Authentic (ecb : BlockCipher) (key : Block) (n : GpNotification) : Prop :=
  n.secured = true ∧ Verifies ecb key n

instance (key : Block) (n : GpNotification) : Decidable (Authentic ecb key n) :=
  inferInstanceAs (Decidable (_ ∧ _))

theorem handleNotification_unverified (hparse : parseNotification payload = some n)
    (hfind : ZigbeeGpSinkTable.find sink n.srcId = some e) (hsec : n.secured = true)
    (hkey : ¬ Verifies ecb e.key n) :
    handleNotification ecb sink payload outMax = { sink := sink, accepted := false } := by
  rw [handleNotification_secured hparse hfind hsec, if_neg fun h => hkey h.2]

/-- The check of the counter; an unsecured notification may come without one. -/
def counterChecked (sink : List GpSinkEntry) (n : GpNotification) : List GpSinkEntry × Bool :=
  if n.secured = false ∧ n.frameCounter = 0 then (sink, true)
  else ZigbeeGpSinkTable.checkAndUpdateCounter sink n.srcId n.frameCounter

theorem handleNotification_unsecured (hparse : parseNotification payload = some n)
    (hfind : ZigbeeGpSinkTable.find sink n.srcId = some e) (hsec : n.secured = false) :
    handleNotification ecb sink payload outMax =
      deliver (counterChecked sink n) n.commandId n.payload outMax := by
  simp only [handleNotification, hparse, hfind, hsec, counterChecked, Bool.false_eq_true,
    if_false, true_and]
  by_cases hzero : n.frameCounter = 0
  · rw [if_neg (not_not_intro hzero), if_pos hzero]
  · rw [if_pos hzero, if_neg hzero]

/-- A counter that is checked passes unless it was seen, and is then the one stored. -/
private theorem check_counter (hfind : ZigbeeGpSinkTable.find sink n.srcId = some e)
    (hsec : n.secured = false) :
    ((counterChecked sink n).2 = true ↔ n.frameCounter = 0 ∨ ¬ e.Seen n.frameCounter) ∧
      (∃ counter, ZigbeeGpSinkTable.find (counterChecked sink n).1 n.srcId =
        some { e with lastFrameCounter := counter } ∧ e.lastFrameCounter ≤ counter) ∧
      ∀ other, other ≠ n.srcId →
        ZigbeeGpSinkTable.find (counterChecked sink n).1 other =
          ZigbeeGpSinkTable.find sink other := by
  have hkept : ∃ counter, ZigbeeGpSinkTable.find sink n.srcId =
      some { e with lastFrameCounter := counter } ∧ e.lastFrameCounter ≤ counter :=
    ⟨e.lastFrameCounter, hfind, UInt32.le_refl _⟩
  by_cases hzero : n.frameCounter = 0
  · have hchecked : counterChecked sink n = (sink, true) := if_pos ⟨hsec, hzero⟩
    rw [hchecked]
    exact ⟨iff_of_true rfl (Or.inl hzero), hkept, fun _ _ => rfl⟩
  have hchecked : counterChecked sink n =
      ZigbeeGpSinkTable.checkAndUpdateCounter sink n.srcId n.frameCounter :=
    if_neg fun h => hzero h.2
  rw [hchecked]
  by_cases hseen : e.Seen n.frameCounter
  · rw [ZigbeeGpSinkTable.checkAndUpdateCounter_seen hfind hseen]
    refine ⟨iff_of_false Bool.false_ne_true ?_, hkept, fun _ _ => rfl⟩
    rintro (h | h)
    · exact hzero h
    · exact h hseen
  · obtain ⟨hpass, hstored, hothers⟩ := ZigbeeGpSinkTable.checkAndUpdateCounter_fresh hfind hseen
    refine ⟨iff_of_true hpass (Or.inr hseen), ⟨_, hstored, ?_⟩, hothers⟩
    by_contra hback
    rw [UInt32.not_le] at hback
    refine hseen ⟨UInt32.le_of_lt hback, ?_⟩
    intro hnone
    rw [hnone] at hback
    exact absurd hback (UInt32.not_lt.mpr UInt32.zero_le)

/-- Without the key, a notification marked as secured is refused and changes nothing. One that is
not so marked passes the counter check alone, and leaves every key as it is. -/
theorem handleNotification_without_key (hparse : parseNotification payload = some n)
    (hfind : ZigbeeGpSinkTable.find sink n.srcId = some e) (hkey : ¬ Authentic ecb e.key n) :
    let handled := handleNotification ecb sink payload outMax
    (n.secured = true → handled.accepted = false ∧ handled.sink = sink) ∧
    (n.secured = false →
      (handled.accepted = true ↔
        (n.frameCounter = 0 ∨ ¬ e.Seen n.frameCounter) ∧ n.payload.length ≤ outMax.toNat) ∧
      (∃ counter, ZigbeeGpSinkTable.find handled.sink n.srcId =
        some { e with lastFrameCounter := counter } ∧ e.lastFrameCounter ≤ counter) ∧
      ∀ other, other ≠ n.srcId →
        ZigbeeGpSinkTable.find handled.sink other = ZigbeeGpSinkTable.find sink other) := by
  intro handled
  refine ⟨fun hsec => ?_, fun hsec => ?_⟩
  · have hrefused : handled = { sink := sink, accepted := false } :=
      handleNotification_unverified hparse hfind hsec fun h => hkey ⟨hsec, h⟩
    rw [hrefused]
    exact ⟨rfl, rfl⟩
  · obtain ⟨hpass, hstored, hothers⟩ := check_counter hfind hsec
    have hhandled : handled = deliver (counterChecked sink n) n.commandId n.payload outMax :=
      handleNotification_unsecured hparse hfind hsec
    rw [hhandled, deliver_sink]
    refine ⟨?_, hstored, hothers⟩
    rw [← hpass]
    exact deliver_accepted _ _ _ _

end Key

private def forged : GpNotification :=
  tunnelled 0x01234567 5 [0x20, 0x01] [0xDE, 0xAD, 0xBE, 0xEF] 0x1234 0xE0

theorem forged_without_key :
    (handleNotification Aes128.encrypt commissioned (notificationBytes forged) 48).accepted =
      false ∧
    (handleNotification Aes128.encrypt commissioned (notificationBytes forged) 48).sink =
      commissioned := by
  have hparse : parseNotification (notificationBytes forged) = some (onWire forged) :=
    parseNotification_bytes (by decide)
  have hfind : ZigbeeGpSinkTable.find commissioned (onWire forged).srcId =
      some (commissioned.getD 0 {}) := rfl
  exact (handleNotification_without_key hparse hfind (by decide +kernel)).1 rfl

/-- A notification without a key moves the counter of a device that has one. -/
theorem unsecured_accepted :
    let payload := notificationBytes
      { srcId := 0x01234567, frameCounter := 5, commandId := 0x20 }
    let handled := handleNotification Aes128.encrypt commissioned payload 48
    (∃ n, parseNotification payload = some n ∧ n.srcId = 0x01234567 ∧
      ¬ Authentic Aes128.encrypt gpdKey n) ∧
    (ZigbeeGpSinkTable.find commissioned 0x01234567).map (·.key) = some gpdKey ∧
    handled.accepted = true ∧ handled.sink ≠ commissioned := by
  refine ⟨⟨_, rfl, rfl, ?_⟩, by decide, by decide, by decide⟩
  rintro ⟨hsec, _⟩
  exact absurd hsec (by decide)

/-! ## Counters over a run -/

/-- Source id, device id and key that a commissioning notification gives, if it gives them. -/
def commissioningOf (payload : List UInt8) : Option (UInt32 × UInt8 × Block) :=
  match parseNotification payload with
  | none => none
  | some n =>
    if n.commandId ≠ gpdCmdCommissioning then none
    else
      match ZigbeeGreenPower.parseCommissioning n.payload with
      | none => none
      | some c => if !c.keyPresent then none else some (n.srcId, c.deviceId, c.key)

theorem handleCommissioningNotification_sink (sink : List GpSinkEntry) (payload : List UInt8)
    (sinkNwkAddr : UInt16) :
    (handleCommissioningNotification sink payload sinkNwkAddr).1 =
      match commissioningOf payload with
      | none => sink
      | some (srcId, deviceId, key) =>
        (ZigbeeGpSinkTable.commission sink srcId deviceId key).1 := by
  simp only [handleCommissioningNotification, commissioningOf]
  cases parseNotification payload with
  | none => rfl
  | some n =>
    dsimp only
    split
    · rfl
    · cases ZigbeeGreenPower.parseCommissioning n.payload with
      | none => rfl
      | some c =>
        dsimp only
        split <;> rfl

inductive SinkOp where
  | notification (payload : List UInt8) (outMax : UInt8)
  | commissioning (payload : List UInt8) (sinkNwkAddr : UInt16)

/-- The sink, and source id and counter of what it accepted, the latest first. -/
structure SinkRun where
  sink : List GpSinkEntry
  accepted : List (UInt32 × UInt32) := []

namespace SinkRun

variable (ecb : BlockCipher)

def step (s : SinkRun) : SinkOp → SinkRun
  | .notification payload outMax =>
    let handled := handleNotification ecb s.sink payload outMax
    match parseNotification payload with
    | none => { s with sink := handled.sink }
    | some n =>
      { sink := handled.sink
        accepted :=
          if handled.accepted then (n.srcId, n.frameCounter) :: s.accepted else s.accepted }
  | .commissioning payload sinkNwkAddr =>
    { s with sink := (handleCommissioningNotification s.sink payload sinkNwkAddr).1 }

/-- Notifications are secured, and a device is commissioned again with the key it has. -/
def Enabled (s : SinkRun) : SinkOp → Prop
  | .notification payload _ => ∀ n ∈ parseNotification payload, n.secured = true
  | .commissioning payload _ => ∀ c ∈ commissioningOf payload,
    ∀ e ∈ ZigbeeGpSinkTable.find s.sink c.1, c.2.2 = e.key

/-- The counter 0 does not come first, and no device whose counter is stored is commissioned. -/
def KeepsCounter (s : SinkRun) : SinkOp → Prop
  | .notification payload _ => ∀ n ∈ parseNotification payload,
    ∀ e ∈ ZigbeeGpSinkTable.find s.sink n.srcId,
      n.frameCounter = 0 → e.lastFrameCounter = 0 → ¬ Verifies ecb e.key n
  | .commissioning payload _ => ∀ c ∈ commissioningOf payload,
    ∀ e ∈ ZigbeeGpSinkTable.find s.sink c.1, e.lastFrameCounter = 0

instance (s : SinkRun) : ∀ op, Decidable (s.Enabled op)
  | .notification .. => inferInstanceAs (Decidable (∀ _ ∈ _, _))
  | .commissioning .. => inferInstanceAs (Decidable (∀ _ ∈ _, _))

instance (s : SinkRun) : ∀ op, Decidable (s.KeepsCounter ecb op)
  | .notification .. => inferInstanceAs (Decidable (∀ _ ∈ _, _))
  | .commissioning .. => inferInstanceAs (Decidable (∀ _ ∈ _, _))

/-- Every counter accepted is covered by the one stored for its device. -/
structure Covered (s : SinkRun) : Prop where
  nodup : s.accepted.Nodup
  stored : ∀ p ∈ s.accepted, ∃ e, ZigbeeGpSinkTable.find s.sink p.1 = some e ∧ e.Seen p.2

variable {ecb} {s : SinkRun}

theorem handleNotification_passed {sink : List GpSinkEntry} {payload : List UInt8} {outMax : UInt8}
    {n : GpNotification} {e : GpSinkEntry} (hparse : parseNotification payload = some n)
    (hfind : ZigbeeGpSinkTable.find sink n.srcId = some e) (hsec : n.secured = true)
    (hok : Verifies ecb e.key n)
    (hpass : (ZigbeeGpSinkTable.checkAndUpdateCounter sink n.srcId n.frameCounter).2 = true)
    (hfits : n.payload.length ≤ min 47 outMax.toNat) :
    handleNotification ecb sink payload outMax =
      { sink := (ZigbeeGpSinkTable.checkAndUpdateCounter sink n.srcId n.frameCounter).1
        accepted := true
        commandId := some ((plainCommand ecb e.key n).getD 0 0)
        payload := (plainCommand ecb e.key n).drop 1 } := by
  have hlen : ((plainCommand ecb e.key n).drop 1).length = n.payload.length := by
    simp [plainCommand]
  have hcond : n.payload.length ≤ 47 ∧ Verifies ecb e.key n := ⟨by omega, hok⟩
  rw [handleNotification_secured hparse hfind hsec, if_pos hcond, deliver, hpass,
    if_neg (by simp), if_neg (by omega)]

/-- A secured notification is refused and changes nothing, or it verifies and its counter was not
seen. -/
theorem handleNotification_cases {sink : List GpSinkEntry} {payload : List UInt8} {outMax : UInt8}
    {n : GpNotification} (hparse : parseNotification payload = some n) (hsec : n.secured = true) :
    handleNotification ecb sink payload outMax = { sink := sink, accepted := false } ∨
    ∃ e, ZigbeeGpSinkTable.find sink n.srcId = some e ∧ Verifies ecb e.key n ∧
      ¬ e.Seen n.frameCounter ∧ (handleNotification ecb sink payload outMax).sink =
        (ZigbeeGpSinkTable.checkAndUpdateCounter sink n.srcId n.frameCounter).1 := by
  cases hfind : ZigbeeGpSinkTable.find sink n.srcId with
  | none =>
    left
    simp only [handleNotification, hparse, hfind]
  | some e =>
    rw [handleNotification_secured hparse hfind hsec]
    by_cases hok : n.payload.length ≤ 47 ∧ Verifies ecb e.key n
    swap
    · exact Or.inl (if_neg hok)
    rw [if_pos hok]
    by_cases hseen : e.Seen n.frameCounter
    · left
      rw [ZigbeeGpSinkTable.checkAndUpdateCounter_seen hfind hseen]
      rfl
    · right
      exact ⟨e, rfl, hok.2, hseen, deliver_sink _ _ _ _⟩

theorem Covered.advance (h : s.Covered) {srcId frameCounter : UInt32} {e : GpSinkEntry}
    (hfind : ZigbeeGpSinkTable.find s.sink srcId = some e) (hfresh : ¬ e.Seen frameCounter)
    (hadvances : e.lastFrameCounter < frameCounter) :
    ∀ p ∈ (srcId, frameCounter) :: s.accepted, ∃ e', ZigbeeGpSinkTable.find
      (ZigbeeGpSinkTable.checkAndUpdateCounter s.sink srcId frameCounter).1 p.1 = some e' ∧
        e'.Seen p.2 := by
  obtain ⟨_, hfound, hothers⟩ := ZigbeeGpSinkTable.checkAndUpdateCounter_fresh hfind hfresh
  intro p hp
  rcases List.mem_cons.mp hp with rfl | hp
  · exact ⟨_, hfound, GpSinkEntry.seen_stored hadvances (UInt32.le_refl _)⟩
  obtain ⟨e', hfind', hseen⟩ := h.stored p hp
  by_cases hsrc : p.1 = srcId
  · rw [hsrc, hfind, Option.some.injEq] at hfind'
    rw [hsrc]
    refine ⟨_, hfound, GpSinkEntry.seen_stored hadvances ?_⟩
    exact UInt32.le_of_lt (UInt32.lt_of_le_of_lt (hfind' ▸ hseen.1) hadvances)
  · exact ⟨e', by rw [hothers _ hsrc, hfind'], hseen⟩

theorem Covered.notification (h : s.Covered) (payload : List UInt8) (outMax : UInt8)
    (hsec : s.Enabled (.notification payload outMax))
    (hkeeps : s.KeepsCounter ecb (.notification payload outMax)) :
    (s.step ecb (.notification payload outMax)).Covered := by
  cases hparse : parseNotification payload with
  | none =>
    have hstep : s.step ecb (.notification payload outMax) = s := by
      simp only [step, handleNotification, hparse]
    rw [hstep]
    exact h
  | some n =>
  have hstep : s.step ecb (.notification payload outMax) =
      { sink := (handleNotification ecb s.sink payload outMax).sink
        accepted := if (handleNotification ecb s.sink payload outMax).accepted then
          (n.srcId, n.frameCounter) :: s.accepted else s.accepted } := by
    simp only [step, hparse]
  rcases @handleNotification_cases ecb s.sink payload outMax n hparse (hsec n hparse) with
    hrefused | ⟨e, hfind, hok, hfresh, hsink⟩
  · rw [hstep, hrefused]
    exact h
  have hadvances : e.lastFrameCounter < n.frameCounter := by
    rw [← UInt32.not_le]
    intro hle
    by_cases hlast : e.lastFrameCounter = 0
    · rw [hlast] at hle
      exact hkeeps n hparse e hfind (UInt32.le_antisymm hle UInt32.zero_le) hlast hok
    · exact hfresh ⟨hle, hlast⟩
  have hnew : (n.srcId, n.frameCounter) ∉ s.accepted := by
    intro hmem
    obtain ⟨e', hfind', hseen⟩ := h.stored _ hmem
    rw [hfind, Option.some.injEq] at hfind'
    exact hfresh (hfind' ▸ hseen)
  rw [hstep]
  constructor
  · dsimp only
    split
    · exact List.nodup_cons.mpr ⟨hnew, h.nodup⟩
    · exact h.nodup
  · intro p hp
    simp only [hsink] at hp ⊢
    apply h.advance hfind hfresh hadvances
    split at hp
    · exact hp
    · exact List.mem_cons_of_mem _ hp

theorem Covered.commissioning (h : s.Covered) (payload : List UInt8) (sinkNwkAddr : UInt16)
    (hkeeps : s.KeepsCounter ecb (.commissioning payload sinkNwkAddr)) :
    (s.step ecb (.commissioning payload sinkNwkAddr)).Covered := by
  refine ⟨h.nodup, fun p hp => ?_⟩
  obtain ⟨e, hfind, hseen⟩ := h.stored p hp
  refine ⟨e, ?_, hseen⟩
  simp only [step, handleCommissioningNotification_sink]
  cases hgiven : commissioningOf payload with
  | none => exact hfind
  | some c =>
    obtain ⟨srcId, deviceId, key⟩ := c
    have hother : p.1 ≠ srcId := by
      intro hsrc
      exact hseen.2 (hkeeps _ hgiven e (hsrc ▸ hfind))
    dsimp only
    cases hdone : (ZigbeeGpSinkTable.commission s.sink srcId deviceId key).2 with
    | none => rw [ZigbeeGpSinkTable.commission_none hdone, hfind]
    | some _ => rw [(ZigbeeGpSinkTable.commission_some hdone).2.2 _ hother, hfind]

/-- The sink accepts no source id and counter twice, in a run in which the counter 0 does not come
first and no device whose counter is stored is commissioned again. -/
theorem accepted_once (sink : List GpSinkEntry) (ops : List SinkOp)
    (hrun : Runs.Along (step ecb) (fun s op => s.Enabled op ∧ s.KeepsCounter ecb op)
      { sink := sink } ops) :
    (ops.foldl (step ecb) { sink := sink }).accepted.Nodup := by
  refine (hrun.invariant (I := Covered) ?_ ⟨List.nodup_nil, by simp⟩).nodup
  intro s op h hop
  cases op with
  | notification payload outMax => exact h.notification payload outMax hop.1 hop.2
  | commissioning payload sinkNwkAddr => exact h.commissioning payload sinkNwkAddr hop.2

/-- The counter 0 leaves the stored counter at 0, and passes each time. -/
theorem zero_repeats {sink : List GpSinkEntry} {payload : List UInt8} {outMax : UInt8}
    {n : GpNotification} {e : GpSinkEntry} (hparse : parseNotification payload = some n)
    (hsec : n.secured = true) (hfind : ZigbeeGpSinkTable.find sink n.srcId = some e)
    (hok : Verifies ecb e.key n) (hzero : n.frameCounter = 0) (hlast : e.lastFrameCounter = 0)
    (hfits : n.payload.length ≤ min 47 outMax.toNat) :
    (handleNotification ecb sink payload outMax).accepted = true ∧
      ZigbeeGpSinkTable.find (handleNotification ecb sink payload outMax).sink n.srcId =
        some e := by
  have hfresh : ¬ e.Seen n.frameCounter := fun h => h.2 hlast
  obtain ⟨hpass, hfound, _⟩ := ZigbeeGpSinkTable.checkAndUpdateCounter_fresh hfind hfresh
  rw [handleNotification_passed hparse hfind hsec hok hpass hfits]
  refine ⟨rfl, ?_⟩
  rw [hfound, hzero, ← hlast]

/-- A device commissioned with the key it has is heard again, whatever its counter. -/
theorem commissioning_forgets {sink : List GpSinkEntry} {payload request : List UInt8}
    {outMax deviceId : UInt8} {n : GpNotification} {e : GpSinkEntry}
    (hparse : parseNotification payload = some n) (hsec : n.secured = true)
    (hfind : ZigbeeGpSinkTable.find sink n.srcId = some e) (hok : Verifies ecb e.key n)
    (hfits : n.payload.length ≤ min 47 outMax.toNat)
    (hrequest : commissioningOf request = some (n.srcId, deviceId, e.key)) (sinkNwkAddr : UInt16) :
    (handleNotification ecb (handleCommissioningNotification sink request sinkNwkAddr).1 payload
      outMax).accepted = true := by
  simp only [handleCommissioningNotification_sink, hrequest]
  obtain ⟨e', hdone⟩ := ZigbeeGpSinkTable.commission_known hfind deviceId e.key
  obtain ⟨he', hfind', _⟩ := ZigbeeGpSinkTable.commission_some hdone
  have hfresh : ¬ e'.Seen n.frameCounter := by
    rw [he']
    exact fun h => h.2 rfl
  obtain ⟨hpass, _⟩ := ZigbeeGpSinkTable.checkAndUpdateCounter_fresh hfind' hfresh
  rw [handleNotification_passed hparse hfind' hsec (by rw [he']; exact hok) hpass hfits]

private def commissionRequest : List UInt8 :=
  notificationBytes
    { srcId := 0x01234567, commandId := gpdCmdCommissioning
      payload := [0x02, 0x20] ++ gpdKey.toList }

private def command (frameCounter : UInt32) : SinkOp :=
  .notification (notificationBytes (notified Aes128.encrypt gpdKey 0x01234567 frameCounter
    [0x20, 0x01] 0x1234 0xE0)) 48

/-- The run after the device was commissioned, with the counter stored for it. -/
private def heard (lastFrameCounter : UInt32) (accepted : List (UInt32 × UInt32)) : SinkRun where
  sink :=
    [{ used := true, srcId := 0x01234567, deviceId := 0x02, key := gpdKey
       lastFrameCounter := lastFrameCounter }, {}, {}, {}]
  accepted := accepted

private theorem command_parsed (frameCounter : UInt32) :
    parseNotification (notificationBytes (notified Aes128.encrypt gpdKey 0x01234567 frameCounter
      [0x20, 0x01] 0x1234 0xE0)) = some (notified Aes128.encrypt gpdKey 0x01234567 frameCounter
        [0x20, 0x01] 0x1234 0xE0) := by
  rw [parseNotification_bytes (by rw [notified_payload_length]; decide), onWire_notified]

private theorem command_enabled (frameCounter : UInt32) (s : SinkRun) :
    s.Enabled (command frameCounter) := by
  intro n hn
  rw [command_parsed, Option.mem_some_iff] at hn
  rw [← hn]
  rfl

private theorem command_keeps {frameCounter : UInt32} (h : frameCounter ≠ 0) (s : SinkRun) :
    s.KeepsCounter Aes128.encrypt (command frameCounter) := by
  intro n hn e _ hzero
  rw [command_parsed, Option.mem_some_iff] at hn
  rw [← hn] at hzero
  exact absurd hzero h

private theorem step_command (lastFrameCounter frameCounter : UInt32)
    (accepted : List (UInt32 × UInt32)) :
    (heard lastFrameCounter accepted).step Aes128.encrypt (command frameCounter) =
      if frameCounter ≤ lastFrameCounter ∧ lastFrameCounter ≠ 0 then
        heard lastFrameCounter accepted
      else heard frameCounter ((0x01234567, frameCounter) :: accepted) := by
  have hhandled := @handleNotification_notified Aes128.encrypt gpdKey 0x01234567 frameCounter 0x20
    [0x01] 0x1234 0xE0 (heard lastFrameCounter accepted).sink _ 48 (by decide) rfl rfl
  simp only [command, step, command_parsed, hhandled]
  by_cases hseen : frameCounter ≤ lastFrameCounter ∧ lastFrameCounter ≠ 0
  · have hcheck : ZigbeeGpSinkTable.checkAndUpdateCounter (heard lastFrameCounter accepted).sink
        0x01234567 frameCounter = ((heard lastFrameCounter accepted).sink, false) :=
      @ZigbeeGpSinkTable.checkAndUpdateCounter_seen _ 0x01234567 frameCounter
        ((heard lastFrameCounter accepted).sink.getD 0 {}) rfl hseen
    rw [if_pos hseen, hcheck]
    rfl
  · have hslot : SlotTable.find ZigbeeGpSinkTable.device (heard lastFrameCounter accepted).sink
        0x01234567 = some 0 := rfl
    have hcheck : ZigbeeGpSinkTable.checkAndUpdateCounter (heard lastFrameCounter accepted).sink
        0x01234567 frameCounter = ((heard frameCounter accepted).sink, true) := by
      simp only [ZigbeeGpSinkTable.checkAndUpdateCounter, hslot]
      exact if_neg fun h => hseen (of_decide_eq_true h)
    rw [if_neg hseen, hcheck]
    rfl

private theorem step_commissionRequest (lastFrameCounter : UInt32)
    (accepted : List (UInt32 × UInt32)) :
    (heard lastFrameCounter accepted).step Aes128.encrypt (.commissioning commissionRequest 0) =
      heard 0 accepted := by
  rfl

theorem accepted_once_commissioned :
    let start : SinkRun := { sink := ZigbeeGpSinkTable.begin 4 }
    let ops := [.commissioning commissionRequest 0, command 5, command 5, command 7, command 6]
    (ops.foldl (step Aes128.encrypt) start).accepted = [(0x01234567, 7), (0x01234567, 5)] ∧
    (ops.foldl (step Aes128.encrypt) start).accepted.Nodup := by
  intro start ops
  have hfirst : start.step Aes128.encrypt (.commissioning commissionRequest 0) = heard 0 [] := rfl
  have hrun : Runs.Along (step Aes128.encrypt)
      (fun s op => s.Enabled op ∧ s.KeepsCounter Aes128.encrypt op) start ops :=
    ⟨⟨by decide, by decide⟩, ⟨command_enabled _ _, command_keeps (by decide) _⟩,
      ⟨command_enabled _ _, command_keeps (by decide) _⟩,
      ⟨command_enabled _ _, command_keeps (by decide) _⟩,
      ⟨command_enabled _ _, command_keeps (by decide) _⟩, trivial⟩
  have hend : ops.foldl (step Aes128.encrypt) start =
      heard 7 [(0x01234567, 7), (0x01234567, 5)] := by
    simp only [ops, List.foldl_cons, List.foldl_nil, hfirst]
    simp [step_command]
  refine ⟨?_, accepted_once _ _ hrun⟩
  rw [hend]
  rfl

/-- The counter 0 is accepted again and again, and any other once more after the device was
commissioned with the key it has. -/
theorem accepted_twice :
    let start : SinkRun := { sink := commissioned }
    let zeros := [command 0, command 0]
    let again := [command 5, .commissioning commissionRequest 0, command 5]
    (Runs.Along (step Aes128.encrypt) Enabled start zeros ∧
      ¬ (zeros.foldl (step Aes128.encrypt) start).accepted.Nodup) ∧
    Runs.Along (step Aes128.encrypt) Enabled start again ∧
      ¬ (again.foldl (step Aes128.encrypt) start).accepted.Nodup := by
  intro start zeros again
  have hstart : start = heard 0 [] := rfl
  have hzeros : zeros.foldl (step Aes128.encrypt) start =
      heard 0 [(0x01234567, 0), (0x01234567, 0)] := by
    simp [zeros, hstart, step_command]
  have hagain : again.foldl (step Aes128.encrypt) start =
      heard 5 [(0x01234567, 5), (0x01234567, 5)] := by
    simp [again, hstart, step_command, step_commissionRequest]
  rw [hzeros, hagain]
  refine ⟨⟨⟨command_enabled _ _, command_enabled _ _, trivial⟩, by decide⟩,
    ⟨command_enabled _ _, ?_, command_enabled _ _, trivial⟩, by decide⟩
  rw [hstart, step_command]
  decide

end SinkRun

end NiusZigbee.ZigbeeGreenPowerCluster
