import NiusZigbee.GreenPower.ProxyForward

/-!
# Frames the proxy drops

The proxy stores the counter of a frame before it knows whether it can send the frame on. One that
is cut short, too long, or too long for the buffer suppresses the frames up to its counter.
-/

namespace NiusZigbee.ZigbeeGpProxy

open ByteCodec OutBuffer ZigbeeGreenPower
open ZigbeeGreenPowerCluster (notificationBytes)

/-- A frame with a counter can be sent on in a buffer of this length. -/
def Sendable (gpdf : List UInt8) (outMax : UInt8) : Prop :=
  if levelOf gpdf = gpSecEncFcMic then
    15 ≤ gpdf.length ∧ gpdf.length ≤ 62 ∧ gpdf.length + 4 ≤ outMax.toNat
  else 15 ≤ outMax.toNat

/-- The counter of the frame advances, and the frame cannot be sent on. -/
def CounterSpent (entries : List GpProxyEntry) (gpdf : List UInt8) (outMax : UInt8) : Prop :=
  Parsable gpdf ∧ Counted gpdf ∧ entries ≠ [] ∧
    (∀ e, find entries (sourceOf gpdf) = some e → e.lastFrameCounter < counterOf gpdf) ∧
    ¬ Sendable gpdf outMax

variable {entries : List GpProxyEntry} {gpdf : List UInt8} {gppShortAddr : UInt16}
  {gppLink outMax : UInt8} {srcId frameCounter : UInt32}

theorem ciphered_length (h : levelOf gpdf = gpSecEncFcMic) (hlen : 15 ≤ gpdf.length) :
    (notificationBytes (ciphered gpdf gppShortAddr gppLink)).length = gpdf.length + 4 := by
  have hpayload : (slice (body gpdf) 1 (gpdf.length - 15)).length = gpdf.length - 15 := by
    rw [slice, List.length_take, List.length_drop, body, headerEnd_encrypted h, List.length_drop]
    omega
  simp only [ZigbeeGreenPowerCluster.notificationBytes_length, ciphered, hpayload, notice, if_true]
  omega

theorem inClear_length (h : levelOf gpdf ≠ gpSecNone) :
    (notificationBytes (inClear gpdf gppShortAddr gppLink)).length = 15 := by
  simp [ZigbeeGreenPowerCluster.notificationBytes_length, inClear, notice, frameOf, h]

theorem heard_sendable (hcounted : Counted gpdf) :
    (∃ n, heard gpdf gppShortAddr gppLink = some n ∧
      (notificationBytes n).length ≤ outMax.toNat) ↔ Sendable gpdf outMax := by
  have hclear : levelOf gpdf ≠ gpSecNone := by
    intro hnone
    rw [Counted, hnone] at hcounted
    exact absurd hcounted (by decide)
  unfold Sendable
  constructor
  · rintro ⟨n, hheard, hroom⟩
    rcases heard_eq_some.mp hheard with ⟨hencrypted, hlen, rfl⟩ | ⟨hother, rfl⟩
    · rw [ciphered_length hencrypted hlen.1] at hroom
      rw [if_pos hencrypted]
      exact ⟨hlen.1, hlen.2, hroom⟩
    · rw [inClear_length hclear] at hroom
      rwa [if_neg hother]
  · intro hsendable
    split at hsendable
    · next hencrypted =>
      refine ⟨_, heard_eq_some.mpr (Or.inl ⟨hencrypted, ⟨hsendable.1, hsendable.2.1⟩, rfl⟩), ?_⟩
      rw [ciphered_length hencrypted hsendable.1]
      exact hsendable.2.2
    · next hother =>
      refine ⟨_, heard_eq_some.mpr (Or.inr ⟨hother, rfl⟩), ?_⟩
      rwa [inClear_length hclear]

theorem isDuplicate_nil : isDuplicate [] srcId frameCounter = ([], false) := rfl

theorem isDuplicate_stores (hne : entries ≠ [])
    (hfresh : ∀ e, find entries srcId = some e → e.lastFrameCounter < frameCounter) :
    (isDuplicate entries srcId frameCounter).1 ≠ entries := by
  intro hsame
  obtain ⟨e, hstored, hlast⟩ := (isDuplicate_fresh hfresh).2 hne
  rw [hsame] at hstored
  have hadvances := hfresh e hstored
  rw [hlast] at hadvances
  exact UInt32.lt_irrefl _ hadvances

/-- A frame leaves the table as it is, passes the check and changes it, or finds no slot. -/
theorem checked_cases :
    (checked entries gpdf).1 = entries ∨
      Counted gpdf ∧ entries ≠ [] ∧ (checked entries gpdf).1 ≠ entries ∧
        (checked entries gpdf).2 = false ∧
        ∀ e, find entries (sourceOf gpdf) = some e → e.lastFrameCounter < counterOf gpdf := by
  by_cases hcounted : Counted gpdf
  swap
  · left
    rw [checked, if_neg hcounted]
  rw [checked, if_pos hcounted]
  by_cases hne : entries = []
  · left
    rw [hne, isDuplicate_nil]
  by_cases hfresh : ∀ e, find entries (sourceOf gpdf) = some e →
    e.lastFrameCounter < counterOf gpdf
  · right
    exact ⟨hcounted, hne, isDuplicate_stores hne hfresh, (isDuplicate_fresh hfresh).1, hfresh⟩
  · left
    push Not at hfresh
    obtain ⟨e, hfound, hback⟩ := hfresh
    rw [isDuplicate_again hfound (UInt32.not_lt.mp hback)]

theorem dropped_keeps_table (hlen : gpdf.length < 256) :
    ((forward entries gpdf gppShortAddr gppLink outMax).out.len = 0 →
      (forward entries gpdf gppShortAddr gppLink outMax).entries = entries) ↔
    ¬ CounterSpent entries gpdf outMax := by
  by_cases hparsable : Parsable gpdf
  swap
  · rw [forward_unparsable hparsable]
    exact iff_of_true (fun _ => rfl) fun h => hparsable h.1
  have hsent := @forward_sent entries gpdf gppShortAddr gppLink outMax hparsable hlen
  rw [(forward_parsable hparsable hlen).1]
  rcases @checked_cases entries gpdf with hkept | ⟨hcounted, hne, hchanged, hpass, hfresh⟩
  · refine iff_of_true (fun _ => hkept) ?_
    rintro ⟨_, hcounted, hne, hfresh, _⟩
    rw [checked, if_pos hcounted] at hkept
    exact isDuplicate_stores hne hfresh hkept
  · rw [heard_sendable hcounted] at hsent
    constructor
    · rintro hdropped ⟨_, _, _, _, hunsendable⟩
      refine hchanged (hdropped ?_)
      by_contra hlen0
      exact hunsendable (hsent.mp hlen0).2
    · intro hunspent hlen0
      refine absurd ⟨hparsable, hcounted, hne, hfresh, fun hsendable => ?_⟩ hunspent
      exact hsent.mpr ⟨hpass, hsendable⟩ hlen0

/-- A frame that is not sent on leaves the table as it was, and every frame after it is taken as if
it had not been heard, just when its counter was not spent. -/
theorem dropped_without_effect_iff {gpdf : List UInt8} (hlen : gpdf.length < 256)
    (entries : List GpProxyEntry) (gppShortAddr : UInt16) (gppLink outMax : UInt8) :
    ((forward entries gpdf gppShortAddr gppLink outMax).out.len = 0 →
      (forward entries gpdf gppShortAddr gppLink outMax).entries = entries ∧
      ∀ gpdf' gppShortAddr' gppLink' outMax',
        forward (forward entries gpdf gppShortAddr gppLink outMax).entries gpdf' gppShortAddr'
          gppLink' outMax' = forward entries gpdf' gppShortAddr' gppLink' outMax') ↔
    ¬ CounterSpent entries gpdf outMax := by
  rw [← @dropped_keeps_table entries gpdf gppShortAddr gppLink outMax hlen]
  constructor
  · exact fun h hdropped => (h hdropped).1
  · intro h hdropped
    rw [h hdropped]
    exact ⟨rfl, fun _ _ _ _ => rfl⟩

/-- The table after the frame was sent on. -/
private def frameHeard : List GpProxyEntry :=
  [{ used := true, srcId := 0x01234567, lastFrameCounter := 5 }, {}, {}, {}]

theorem duplicate_without_effect :
    (forward (begin 4) (commandFrame 0x18) 0x1234 0xE0 64).entries = frameHeard ∧
    (forward frameHeard (commandFrame 0x18) 0x1234 0xE0 64).out.len = 0 ∧
    (forward frameHeard (commandFrame 0x18) 0x1234 0xE0 64).entries = frameHeard := by
  have hdropped : (forward frameHeard (commandFrame 0x18) 0x1234 0xE0 64).out.len = 0 := by
    decide
  have hunspent : ¬ CounterSpent frameHeard (commandFrame 0x18) 64 := by
    rintro ⟨_, _, _, hfresh, _⟩
    exact absurd (hfresh _ rfl) (by decide)
  refine ⟨by decide, hdropped, ?_⟩
  exact ((dropped_without_effect_iff (by decide) _ _ _ _).mpr hunspent hdropped).1

/-- A frame cut short is dropped, and the whole one after it taken for a duplicate. -/
theorem dropped_with_effect :
    let dropped := forward (begin 4) ((commandFrame 0x18).take 14) 0x1234 0xE0 64
    dropped.out.len = 0 ∧ dropped.entries = frameHeard ∧ frameHeard ≠ begin 4 ∧
    (forward dropped.entries (commandFrame 0x18) 0x1234 0xE0 64).out.len = 0 ∧
    (forward (begin 4) (commandFrame 0x18) 0x1234 0xE0 64).out.len = 20 := by
  decide

end NiusZigbee.ZigbeeGpProxy
