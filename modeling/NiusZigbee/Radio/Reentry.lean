import NiusZigbee.Radio.PassiveCallbacks

/-!
# The gate under callbacks that act on the driver

Until a callback of a frame has made the driver read, an NPDU whose security bit is set goes up only
as `openNpdu` returned it for this frame. Afterwards whatever a nested frame left in the buffers
goes up, authentic or not.
-/

namespace NiusZigbee

open ByteCodec ZigbeeMac
open CC2530Radio ZigbeeNwk ZigbeeAps ZigbeeZcl
open ZigbeeSecurity (nwkSecurityBit)

namespace Host

variable {σ : Type}

section Gate

variable (ecb : BlockCipher)

/-- A received NPDU may go up as this one: it is the received one with its security bit clear, or
what `openNpdu` returned in this frame for the received one with its security bit set. -/
def Cleared (opened : List Opening) (frameAt : Nat)
    (received npdu : List UInt8) : Prop :=
  (nwkSecurityBit received = false ∧ npdu = received) ∨
  (nwkSecurityBit received = true ∧ ∃ o ∈ opened, o.frameAt = frameAt ∧ o.received = received ∧
    o.result.npdu = npdu ∧
    (o.security.openNpdu ecb received (nwkHeaderLength received).toNat kSecuredScratch).2 =
      .ok o.result)

/-- If nothing was read between the end of the frame and the callback, it is about this frame. -/
def Gated (opened : List Opening) (r : Handed) : Prop :=
  r.invokedAt = r.frameAt → ∀ mac npdu, r.event.npdu = some (mac, npdu) →
    mac.bytes = r.psdu ∧ Cleared ecb opened r.frameAt (mac.frame.payloadBytes r.psdu) npdu

structure Sound (h : Host σ) : Prop where
  gathered : h.Gathered
  guarded : h.radio.Guarded
  gated : ∀ r ∈ h.handed, Gated ecb h.memory.opened r

/-- The driver has read, or its buffers are as they were. -/
def Follows (h h' : Host σ) : Prop :=
  h.reads < h'.reads ∨ (h'.reads = h.reads ∧ h'.memory = h.memory)

def Sane (handler : Handler σ) : Prop :=
  ∀ event h, Sound ecb h → ∃ h', handler event h = some h' ∧ Sound ecb h' ∧ Follows h h'

/-- In the middle of handing up a frame: unless the driver has read since, this holds of its
buffers. -/
structure Holds (rx : Reception) (Q : Memory → Prop) (h : Host σ) : Prop where
  sound : Sound ecb h
  since : rx.frameAt ≤ h.reads
  undisturbed : h.reads = rx.frameAt → Q h.memory

/-- The received frame is still there. -/
def Kept (rx : Reception) (m : Memory) : Prop := m.psdu rx.len = rx.psdu

/-- And so is the NPDU; no NWK parser takes one of fewer than eight bytes. -/
def LetThrough (rx : Reception) (frame : MacDataFrame) (span : Span) (m : Memory) : Prop :=
  Kept rx m ∧ (8 ≤ (m.npdu rx.len span).length →
    Cleared ecb m.opened rx.frameAt (frame.payloadBytes rx.psdu) (m.npdu rx.len span))

def Ready (rx : Reception) (frame : MacDataFrame) (span : Span) (m : Memory) : Prop :=
  Kept rx m ∧ Cleared ecb m.opened rx.frameAt (frame.payloadBytes rx.psdu) (m.npdu rx.len span)

end Gate

variable {ecb : BlockCipher} {handler : Handler σ} {rx : Reception} {h h' : Host σ}
  {Q Q' : Memory → Prop}

theorem Follows.refl : Follows h h := Or.inr ⟨rfl, rfl⟩

theorem Follows.trans {h'' : Host σ} (hfirst : Follows h h') (hsecond : Follows h' h'') :
    Follows h h'' := by
  rcases hfirst with hread | ⟨hreads, hmemory⟩
  · left
    rcases hsecond with hread' | ⟨hreads', -⟩ <;> omega
  · rcases hsecond with hread' | ⟨hreads', hmemory'⟩
    · left
      omega
    · right
      exact ⟨hreads'.trans hreads, hmemory'.trans hmemory⟩

theorem Holds.mono (hold : Holds ecb rx Q h)
    (himp : h.reads = rx.frameAt → Q h.memory → Q' h.memory) :
    Holds ecb rx Q' h :=
  ⟨hold.sound, hold.since, fun hreads => himp hreads (hold.undisturbed hreads)⟩

theorem Holds.follows (hold : Holds ecb rx Q h) (hsound : Sound ecb h') (hfollows : Follows h h') :
    Holds ecb rx Q h' := by
  have hsince := hold.since
  refine ⟨hsound, ?_, fun hreads => ?_⟩
  · rcases hfollows with hread | ⟨hreads, -⟩ <;> omega
  · rcases hfollows with hread | ⟨hsame, hmemory⟩
    · omega
    · rw [hmemory]
      exact hold.undisturbed (hsame.symm.trans hreads)

theorem invoke_holds (hsane : Sane ecb handler) (registered : Bool) (event : Event)
    (hold : Holds ecb rx Q h)
    (hevent : h.reads = rx.frameAt → Q h.memory → ∀ mac npdu, event.npdu = some (mac, npdu) →
      mac.bytes = rx.psdu ∧
        Cleared ecb h.memory.opened rx.frameAt (mac.frame.payloadBytes rx.psdu) npdu) :
    ∃ h', invoke handler rx registered event h = some h' ∧ Holds ecb rx Q h' := by
  cases registered with
  | false => exact ⟨h, rfl, hold⟩
  | true =>
    simp only [invoke, if_true]
    have hsound : Sound ecb
        { h with handed := h.handed ++ [⟨event, rx.frameAt, rx.psdu, h.reads⟩] } :=
      { gathered := ⟨hold.sound.gathered.size, hold.sound.gathered.framed,
          hold.sound.gathered.stored⟩
        guarded := hold.sound.guarded
        gated := by
          intro r hr
          rcases List.mem_append.mp hr with hr | hr
          · exact hold.sound.gated r hr
          · rw [List.mem_singleton.mp hr]
            intro hreads mac npdu hnpdu
            exact hevent hreads (hold.undisturbed hreads) mac npdu hnpdu }
    obtain ⟨h', hrun, hsound', hfollows⟩ := hsane event _ hsound
    exact ⟨h', hrun, hold.follows hsound' hfollows⟩

theorem invoke_below (hsane : Sane ecb handler) (registered : Bool) (event : Event)
    (hevent : event.npdu = none) (hold : Holds ecb rx Q h) :
    ∃ h', invoke handler rx registered event h = some h' ∧ Holds ecb rx Q h' := by
  apply invoke_holds hsane registered event hold
  intro _ _ mac npdu hnpdu
  rw [hevent] at hnpdu
  cases hnpdu

variable {frame : MacDataFrame} {span : Span}

theorem invoke_ready (hsane : Sane ecb handler) (registered : Bool) (event : Event)
    (hevent : event.npdu =
      some (⟨h.memory.psdu rx.len, frame⟩, h.memory.npdu rx.len span))
    (hold : Holds ecb rx (Ready ecb rx frame span) h) :
    ∃ h', invoke handler rx registered event h = some h' ∧
      Holds ecb rx (Ready ecb rx frame span) h' := by
  apply invoke_holds hsane registered event hold
  intro _ hready mac npdu hnpdu
  rw [hevent] at hnpdu
  cases hnpdu
  exact ⟨hready.1, hready.2⟩

/-! ## The dispatchers -/

theorem dispatchAck_ready (hsane : Sane ecb handler) (nwk : NwkDataFrame)
    (hold : Holds ecb rx (Ready ecb rx frame span) h) :
    ∃ h', dispatchAck handler rx frame span nwk h = some h' ∧
      Holds ecb rx (Ready ecb rx frame span) h' := by
  simp only [dispatchAck]
  split
  · obtain ⟨t, ht⟩ := ZigbeeAps.frameType_isSome (nwk.payloadBytes (h.memory.npdu rx.len span))
    obtain ⟨⟨ok, ack⟩, hack⟩ :=
      ZigbeeAps.parseAckFrame_isSome (nwk.payloadBytes (h.memory.npdu rx.len span))
    simp only [ht, hack, Option.bind_eq_bind, Option.bind_some]
    split
    · exact invoke_ready hsane ok _ rfl hold
    · exact ⟨h, rfl, hold⟩
  · exact ⟨h, rfl, hold⟩

theorem dispatchZcl_ready (hsane : Sane ecb handler) (nwk : NwkDataFrame) (aps : ApsDataFrame)
    (hold : Holds ecb rx (Ready ecb rx frame span) h) :
    ∃ h', dispatchZcl handler rx frame span nwk aps h = some h' ∧
      Holds ecb rx (Ready ecb rx frame span) h' := by
  simp only [dispatchZcl]
  split
  · obtain ⟨⟨ok, zcl⟩, hzcl⟩ := ZigbeeZcl.parseFrame_isSome
      (aps.payloadBytes (nwk.payloadBytes (h.memory.npdu rx.len span)))
    simp only [hzcl, Option.bind_eq_bind, Option.bind_some]
    exact invoke_ready hsane ok _ rfl hold
  · exact ⟨h, rfl, hold⟩

theorem dispatchAps_ready (hsane : Sane ecb handler) (nwk : NwkDataFrame)
    (hold : Holds ecb rx (Ready ecb rx frame span) h) :
    ∃ h', dispatchAps handler rx frame span nwk h = some h' ∧
      Holds ecb rx (Ready ecb rx frame span) h' := by
  simp only [dispatchAps]
  split
  · obtain ⟨⟨ok, aps⟩, haps⟩ :=
      ZigbeeAps.parseDataFrame_isSome (nwk.payloadBytes (h.memory.npdu rx.len span))
    simp only [haps, Option.bind_eq_bind, Option.bind_some]
    split
    · obtain ⟨first, hfirst, hold⟩ := invoke_ready hsane h.radio.callbacks.aps
        (apsEvent rx frame span .aps nwk aps h) rfl hold
      obtain ⟨second, hsecond, hold⟩ := invoke_ready hsane
        (first.radio.callbacks.zdo ∧ aps.profileId = kProfileZigbeeDevice ∧ aps.dstEndpoint = 0)
        (apsEvent rx frame span .zdo nwk aps first) rfl hold
      simp only [hfirst, hsecond, Option.bind_some]
      exact dispatchZcl_ready hsane nwk aps hold
    · exact ⟨h, rfl, hold⟩
  · exact ⟨h, rfl, hold⟩

theorem Holds.letThrough (hold : Holds ecb rx (Ready ecb rx frame span) h) :
    Holds ecb rx (LetThrough ecb rx frame span) h :=
  hold.mono fun _ hready => ⟨hready.1, fun _ => hready.2⟩

theorem Holds.ready (hold : Holds ecb rx (LetThrough ecb rx frame span) h)
    (hlen : 8 ≤ (h.memory.npdu rx.len span).length) : Holds ecb rx (Ready ecb rx frame span) h :=
  hold.mono fun _ hopened => ⟨hopened.1, hopened.2 hlen⟩

theorem dispatchNwk_letThrough (hsane : Sane ecb handler)
    (hold : Holds ecb rx (LetThrough ecb rx frame span) h) :
    ∃ h', dispatchNwk handler rx frame span h = some h' ∧
      Holds ecb rx (LetThrough ecb rx frame span) h' := by
  simp only [dispatchNwk]
  split
  · obtain ⟨⟨ok, nwk⟩, hparse⟩ := ZigbeeNwk.parseDataFrame_isSome (h.memory.npdu rx.len span)
    simp only [hparse, Option.bind_eq_bind, Option.bind_some]
    cases ok with
    | false => exact ⟨h, rfl, hold⟩
    | true =>
      obtain ⟨-, -, hlen, -⟩ := parseDataFrame_accepts hparse
      obtain ⟨first, hfirst, hready⟩ := invoke_ready hsane h.radio.callbacks.nwk
        (.nwk ⟨h.memory.psdu rx.len, frame⟩ ⟨h.memory.npdu rx.len span, nwk⟩ rx.rssi
          rx.lqi) rfl (hold.ready hlen)
      simp only [hfirst, Option.bind_some, if_true]
      split
      · obtain ⟨second, hsecond, hready⟩ := dispatchAck_ready hsane nwk hready
        obtain ⟨third, hthird, hready⟩ := dispatchAps_ready hsane nwk hready
        simp only [hsecond, Option.bind_some]
        exact ⟨third, hthird, hready.letThrough⟩
      · exact ⟨first, rfl, hready.letThrough⟩
  · exact ⟨h, rfl, hold⟩

theorem dispatchNwkCommand_letThrough (hsane : Sane ecb handler)
    (hold : Holds ecb rx (LetThrough ecb rx frame span) h) :
    ∃ h', dispatchNwkCommand handler rx frame span h = some h' ∧
      Holds ecb rx (LetThrough ecb rx frame span) h' := by
  simp only [dispatchNwkCommand]
  split
  · obtain ⟨⟨ok, nwk⟩, hparse⟩ := ZigbeeNwk.parseCommandFrame_isSome (h.memory.npdu rx.len span)
    simp only [hparse, Option.bind_eq_bind, Option.bind_some]
    cases ok with
    | false => exact ⟨h, rfl, hold⟩
    | true =>
      have hlen : 8 + 1 ≤ (h.memory.npdu rx.len span).length := parseCommandFrame_length hparse
      obtain ⟨h', hrun, hready⟩ := invoke_ready hsane true
        (.nwkCommand ⟨h.memory.psdu rx.len, frame⟩ ⟨h.memory.npdu rx.len span, nwk⟩
          rx.rssi rx.lqi) rfl (hold.ready (by omega))
      exact ⟨h', hrun, hready.letThrough⟩
  · exact ⟨h, rfl, hold⟩

/-! ## One received frame -/

theorem Gated.mono {opened opened' : List Opening} {r : Handed}
    (h : Gated ecb opened r) (hsub : opened ⊆ opened') : Gated ecb opened' r := by
  intro hreads mac npdu hnpdu
  obtain ⟨hbytes, hplain | ⟨hbit, o, hmem, hopened⟩⟩ := h hreads mac npdu hnpdu
  · exact ⟨hbytes, Or.inl hplain⟩
  · exact ⟨hbytes, Or.inr ⟨hbit, o, hsub hmem, hopened⟩⟩

/-- Opening a frame writes the security object, the scratch buffer and the history. -/
theorem Sound.secured (hsound : Sound ecb h) {s : ZigbeeSecurity} (hkey : s.hasKey = true)
    (scratch : List UInt8) {opened : List Opening}
    (hsub : h.memory.opened ⊆ opened) :
    Sound ecb { h with
      radio := { h.radio with security := some s }
      memory := { h.memory with securedScratch := scratch, opened := opened } } :=
  { gathered := ⟨hsound.gathered.size, hsound.gathered.framed, hsound.gathered.stored⟩
    guarded := ⟨by simpa using hkey, hsound.guarded.2⟩
    gated := fun r hr => (hsound.gated r hr).mono hsub }

theorem openReceived_letThrough (frame : MacDataFrame) (hold : Holds ecb rx (Kept rx) h) :
    Holds ecb rx (Kept rx) (h.openReceived ecb rx frame).1 ∧
      ∀ span, (h.openReceived ecb rx frame).2 = some span →
        Holds ecb rx (LetThrough ecb rx frame span) (h.openReceived ecb rx frame).1 := by
  obtain ⟨s, hsec, hkey⟩ := (Option.any_eq_true _ _).mp hold.sound.guarded.1
  have hbit : ∀ npdu, nwkSecurityBit npdu = true ↔ npdu.getD 1 0 &&& 0x02 ≠ 0 := by
    simp [nwkSecurityBit]
  have hpromisc : h.radio.promiscuous = false := hold.sound.guarded.2
  simp only [openReceived, hsec]
  generalize hnpdu : frame.payloadBytes (h.memory.psdu rx.len) = npdu
  split
  · next hset =>
    simp only [Bool.and_eq_true, decide_eq_true_eq] at hset
    obtain ⟨replay, stats, hkeeps⟩ : ∃ replay stats,
        (s.openNpdu ecb npdu (nwkHeaderLength npdu).toNat kSecuredScratch).1 =
          { s with replay := replay, stats := stats } := ZigbeeSecurity.openNpdu_keeps _ _ _
    have hdecrypted : ∀ opened, (s.openNpdu ecb npdu (nwkHeaderLength npdu).toNat
        kSecuredScratch).2 = .ok opened → opened.npdu = s.decrypted ecb npdu
          (nwkHeaderLength npdu).toNat kSecuredScratch := fun opened h =>
      ZigbeeSecurity.openNpdu_decrypted h
    generalize hopen : s.openNpdu ecb npdu (nwkHeaderLength npdu).toNat kSecuredScratch = answer
      at hkeeps hdecrypted
    generalize s.decrypted ecb npdu (nwkHeaderLength npdu).toNat kSecuredScratch = out
      at hdecrypted
    obtain ⟨s', result⟩ := answer
    subst hkeeps
    have hsecured : ∀ {opened}, h.memory.opened ⊆ opened → Sound ecb { h with
        radio := { h.radio with security := some { s with replay := replay, stats := stats } }
        memory :=
          { h.memory with
            securedScratch := out ++ h.memory.securedScratch.drop out.length
            opened := opened } } :=
      hold.sound.secured (s := { s with replay := replay, stats := stats }) hkey _
    cases result with
    | error e =>
      refine ⟨⟨hsecured (List.Subset.refl _), hold.since, hold.undisturbed⟩, ?_⟩
      intro span hspan
      cases hspan
    | ok opened =>
      have hsound :=
        hsecured (List.subset_append_left h.memory.opened [⟨rx.frameAt, s, npdu, opened⟩])
      refine ⟨⟨hsound, hold.since, hold.undisturbed⟩, fun span hspan => ⟨hsound, hold.since, ?_⟩⟩
      intro hreads
      have hkept : h.memory.psdu rx.len = rx.psdu := hold.undisturbed hreads
      simp only [Option.ite_none_left_eq_some, Option.some.injEq] at hspan
      obtain ⟨-, rfl⟩ := hspan
      have hreceived : frame.payloadBytes rx.psdu = npdu := by rw [← hkept, hnpdu]
      refine ⟨hkept, fun _ => Or.inr ⟨?_, ⟨rx.frameAt, s, npdu, opened⟩, by simp, rfl, ?_, ?_, ?_⟩⟩
      · rw [hreceived]
        exact (hbit npdu).mpr hset.2
      · exact hreceived.symm
      · simp [Memory.npdu, hdecrypted opened rfl]
      · rw [hreceived, hopen]
  · next hpass =>
    refine ⟨hold, ?_⟩
    intro span hspan
    cases hspan
    apply hold.mono
    intro _ hkept
    refine ⟨hkept, fun hlen => Or.inl ⟨?_, ?_⟩⟩
    · simp only [Memory.npdu, hnpdu] at hlen
      simp only [hkey, hpromisc, hlen, Bool.not_false, decide_true, Bool.true_and,
        decide_eq_true_eq] at hpass
      rw [← hkept, hnpdu, Bool.eq_false_iff]
      exact fun hset => hpass ((hbit npdu).mp hset)
    · rw [← hkept]
      rfl

theorem receiveData_sound (hsane : Sane ecb handler) (frame : MacDataFrame)
    (hold : Holds ecb rx (Kept rx) h) :
    ∃ h', receiveData ecb handler rx frame h = some h' ∧ Sound ecb h' ∧ rx.frameAt ≤ h'.reads := by
  obtain ⟨first, hfirst, hold⟩ := invoke_below hsane h.radio.callbacks.data
    (.data ⟨h.memory.psdu rx.len, frame⟩ rx.rssi rx.lqi) rfl hold
  obtain ⟨hkept, hopened⟩ := openReceived_letThrough frame hold
  simp only [receiveData, hfirst, Option.bind_eq_bind, Option.bind_some]
  generalize first.openReceived ecb rx frame = answer at hkept hopened
  obtain ⟨second, span⟩ := answer
  cases span with
  | none => exact ⟨second, rfl, hkept.sound, hkept.since⟩
  | some span =>
    obtain ⟨third, hthird, hold⟩ := dispatchNwk_letThrough hsane (hopened span rfl)
    obtain ⟨h', hrun, hold⟩ := dispatchNwkCommand_letThrough hsane hold
    simp only [hthird, Option.bind_some]
    exact ⟨h', hrun, hold.sound, hold.since⟩

theorem receiveCommand_kept (hsane : Sane ecb handler) (hold : Holds ecb rx Q h) :
    ∃ h', receiveCommand handler rx h = some h' ∧ Holds ecb rx Q h' := by
  simp only [receiveCommand]
  split
  · obtain ⟨⟨ok, frame⟩, hparse⟩ := ZigbeeMac.parseCommandFrame_isSome (h.memory.psdu rx.len)
    simp only [hparse, Option.bind_eq_bind, Option.bind_some]
    exact invoke_below hsane ok _ rfl hold
  · exact ⟨h, rfl, hold⟩

theorem receiveBeacon_kept (hsane : Sane ecb handler) (hold : Holds ecb rx Q h) :
    ∃ h', receiveBeacon handler rx h = some h' ∧ Holds ecb rx Q h' := by
  simp only [receiveBeacon]
  split
  · obtain ⟨⟨ok, frame⟩, hparse⟩ := parseBeacon_isSome (h.memory.psdu rx.len)
    simp only [hparse, Option.bind_eq_bind, Option.bind_some]
    exact invoke_below hsane ok _ rfl hold
  · exact ⟨h, rfl, hold⟩

theorem receivePsdu_sound (hsane : Sane ecb handler) (hold : Holds ecb rx (Kept rx) h) :
    ∃ h', receivePsdu ecb handler rx h = some h' ∧ Sound ecb h' ∧ rx.frameAt ≤ h'.reads := by
  obtain ⟨first, hfirst, hold⟩ := invoke_below hsane h.radio.callbacks.rx
    (.rx (h.memory.psdu rx.len) rx.rssi rx.lqi) rfl hold
  simp only [receivePsdu, hfirst, Option.bind_eq_bind, Option.bind_some]
  split
  · obtain ⟨⟨ok, frame⟩, hparse⟩ := parseShortDataFrame_isSome (first.memory.psdu rx.len)
    simp only [hparse, Option.bind_some]
    cases ok with
    | true => exact receiveData_sound hsane frame hold
    | false =>
      obtain ⟨second, hsecond, hold⟩ := receiveCommand_kept hsane hold
      obtain ⟨h', hrun, hold⟩ := receiveBeacon_kept hsane hold
      simp only [hsecond, Option.bind_some, Bool.false_eq_true, if_false]
      exact ⟨h', hrun, hold.sound, hold.since⟩
  · exact ⟨first, rfl, hold.sound, hold.since⟩

/-! ## The byte stream -/

theorem receiveFrame_sound (hsane : Sane ecb handler) (hsound : Sound ecb h)
    (hstate : h.radio.state = .sof) (hlen : 0 < h.radio.len.toNat)
    (hbuf : h.radio.buf.length = h.radio.len.toNat)
    (hkept : h.memory.psdu (h.radio.len.toNat - 3) = h.radio.buf.drop 3) :
    ∃ h', receiveFrame ecb handler h = some h' ∧ Sound ecb h' ∧ h.reads ≤ h'.reads := by
  obtain ⟨cmd, h0⟩ := getElem?_isSome (by omega : 0 < h.radio.buf.length)
  simp only [receiveFrame, read8_eq, h0, Option.bind_eq_bind, Option.bind_some]
  split
  · next hrx =>
    have hthree : 3 ≤ h.radio.buf.length := hbuf ▸ UInt8.le_iff_toNat_le.mp hrx.2
    obtain ⟨rssi, h1⟩ := getElem?_isSome (by omega : 1 < h.radio.buf.length)
    obtain ⟨lqi, h2⟩ := getElem?_isSome (by omega : 2 < h.radio.buf.length)
    simp only [h1, h2, Option.bind_some]
    exact receivePsdu_sound hsane ⟨hsound, le_rfl, fun _ => hkept⟩
  · obtain ⟨radio, events, hradio, hstate', hguarded⟩ :=
      CC2530Radio.receiveFrame_gated ecb hlen hbuf
    have hsof : radio.state = .sof := hstate'.trans hstate
    simp only [hradio, Option.bind_some]
    refine ⟨_, rfl, ⟨⟨hsound.gathered.size, ?_, ?_⟩, (hguarded hsound.guarded).1, hsound.gated⟩,
      le_rfl⟩
    · simp [Framed, hsof]
    · simp [hsof]

theorem feed_sound (hsane : Sane ecb handler) (hsound : Sound ecb h) (b : UInt8) :
    ∃ h', feed ecb handler b h = some h' ∧ Sound ecb h' ∧ h.reads < h'.reads := by
  obtain ⟨radio, events, hradio, -, hguarded⟩ := feed_gated ecb hsound.gathered.framed b
  by_cases hstate : h.radio.state = .fcs
  · have hsof : Sound ecb { h with
        radio := { h.radio with state := .sof }, reads := h.reads + 1 } :=
      ⟨⟨hsound.gathered.size, trivial, by simp⟩, hsound.guarded, hsound.gated⟩
    have hkept := hsound.gathered.psdu hstate
    have hcomplete := hsound.gathered.framed
    simp only [Framed, hstate] at hcomplete
    simp only [feed, hstate]
    split
    · exact ⟨_, rfl, hsof, Nat.lt_succ_self _⟩
    · obtain ⟨h', hrun, hsound', hreads⟩ :=
        receiveFrame_sound hsane hsof rfl hcomplete.1 hcomplete.2 hkept
      exact ⟨h', hrun, hsound', hreads⟩
  · obtain ⟨radio', buf, hrun, hparse, hgathered⟩ :=
      feed_parses ecb handler hsound.gathered hstate b
    obtain ⟨rfl, -⟩ : radio = radio' ∧ events = [] := by simpa using hradio.symm.trans hparse
    exact ⟨_, hrun, ⟨hgathered, (hguarded hsound.guarded).1, hsound.gated⟩, Nat.lt_succ_self _⟩

/-! ## The callbacks of an application -/

theorem Keeps.sound (hkeeps : Keeps h h') (hsound : Sound ecb h) : Sound ecb h' := by
  obtain ⟨hmemory, -, hhanded, hstate, hlen, hbuf, hpromisc, hkey⟩ := hkeeps
  refine ⟨⟨?_, ?_, ?_⟩, ⟨hkey.trans hsound.guarded.1, hpromisc.trans hsound.guarded.2⟩, ?_⟩
  · rw [hmemory]
    exact hsound.gathered.size
  · have hframed := hsound.gathered.framed
    simp only [Framed] at hframed ⊢
    rw [hstate, hlen, hbuf]
    exact hframed
  · rw [hstate, hlen, hbuf, hmemory]
    exact hsound.gathered.stored
  · rw [hhanded, hmemory]
    exact hsound.gated

theorem perform_sane {read : UInt8 → Host σ → Option (Host σ)}
    (hread : ∀ b h, Sound ecb h → ∃ h', read b h = some h' ∧ Sound ecb h' ∧ Follows h h')
    (acts : List (Act σ)) {h : Host σ} (hsound : Sound ecb h) :
    ∃ h', perform read acts h = some h' ∧ Sound ecb h' ∧ Follows h h' := by
  induction acts generalizing h with
  | nil => exact ⟨h, rfl, hsound, Follows.refl⟩
  | cons act acts ih =>
    simp only [perform, List.foldlM_cons, Option.bind_eq_bind]
    cases act with
    | change c =>
      have hkeeps := c.keeps h
      obtain ⟨h', hrun, hsound', hfollows⟩ := ih (hkeeps.sound hsound)
      exact ⟨h', hrun, hsound', Follows.trans (Or.inr ⟨hkeeps.reads, hkeeps.memory⟩) hfollows⟩
    | read b =>
      obtain ⟨first, hfirst, hsound, hfollows⟩ := hread b h hsound
      obtain ⟨h', hrun, hsound', hfollows'⟩ := ih hsound
      simp only [hfirst, Option.bind_some]
      exact ⟨h', hrun, hsound', hfollows.trans hfollows'⟩

/-- Callbacks of every depth keep the gate: a read inside of one is a `feed` of its own. -/
theorem callbacks_sane (app : Application σ) (depth : Nat) :
    Sane ecb (callbacks ecb app depth) := by
  induction depth with
  | zero =>
    intro event h hsound
    exact perform_sane (fun b h hsound => ⟨h, rfl, hsound, Follows.refl⟩) (app event h) hsound
  | succ depth ih =>
    intro event h hsound
    apply perform_sane _ (app event h) hsound
    intro b h hsound
    obtain ⟨h', hrun, hsound', hreads⟩ := feed_sound ih hsound b
    exact ⟨h', hrun, hsound', Or.inl hreads⟩

theorem run_sound (hsane : Sane ecb handler) (hsound : Sound ecb h) (bytes : List UInt8) :
    ∃ h', run ecb handler h bytes = some h' ∧ Sound ecb h' := by
  induction bytes generalizing h with
  | nil => exact ⟨h, rfl, hsound⟩
  | cons b bytes ih =>
    obtain ⟨first, hfirst, hsound, -⟩ := feed_sound hsane hsound b
    obtain ⟨h', hrun, hsound'⟩ := ih hsound
    simp only [run, List.foldlM_cons, Option.bind_eq_bind, hfirst, Option.bind_some]
    exact ⟨h', hrun, hsound'⟩

/-- Over every byte stream, with callbacks that change the driver and read from the module as they
like: an NPDU that goes up before a callback of its frame has read arrived in this frame, and its
security bit is clear or it is what `openNpdu` made of it. -/
theorem npdus_gated (app : Application σ) (depth : Nat) (hgathered : h.Gathered)
    (hguarded : h.radio.Guarded) (hfresh : h.handed = []) (bytes : List UInt8) :
    ∃ h', run ecb (callbacks ecb app depth) h bytes = some h' ∧ h'.radio.Guarded ∧
      ∀ r ∈ h'.handed, r.invokedAt = r.frameAt → ∀ mac npdu, r.event.npdu = some (mac, npdu) →
        mac.bytes = r.psdu ∧
        Cleared ecb h'.memory.opened r.frameAt (mac.frame.payloadBytes r.psdu) npdu := by
  have hsound : Sound ecb h := ⟨hgathered, hguarded, by simp [hfresh]⟩
  obtain ⟨h', hrun, hsound'⟩ := run_sound (callbacks_sane app depth) hsound bytes
  exact ⟨h', hrun, hsound'.guarded, hsound'.gated⟩

private def guardedHost : Host Unit :=
  { radio :=
      { callbacks := { nwk := true, nwkCommand := true }
        security := some (ZigbeeSecurity.init.setNetworkKey (Block.ofList [0xA1]) 1) }
    app := () }

/-- One received frame on the UART: a MAC data frame with this NPDU in it. -/
private def received (npdu : List UInt8) : List UInt8 :=
  let body := [rspRxFrame, 208, 228, 0x41, 0x98, 1, 0x62, 0x1A, 0, 0, 0x34, 0x12] ++ npdu
  let len := body.length.toUInt8
  [sofByte, len] ++ body ++ [body.foldl (· ^^^ ·) len]

private def plainNpdu : List UInt8 := [8, 0, 0, 0, 0x34, 0x12, 30, 7, 0xAA]

/-- An NPDU whose security bit is clear reaches the NWK callback, and `openNpdu` has returned
nothing. -/
theorem unsecured_npdu_handed_up :
    guardedHost.Gathered ∧ guardedHost.radio.Guarded ∧
    ∃ h', run Aes128.encrypt (callbacks Aes128.encrypt (fun _ _ => []) 0) guardedHost
      (received plainNpdu) = some h' ∧ h'.memory.opened = [] ∧
      ∃ r ∈ h'.handed, r.invokedAt = r.frameAt ∧ ∃ mac, r.event.npdu = some (mac, plainNpdu) ∧
        nwkSecurityBit (mac.frame.payloadBytes r.psdu) = false := by
  have hrun : (run Aes128.encrypt (callbacks Aes128.encrypt (fun _ _ => []) 0) guardedHost
      (received plainNpdu)).any (fun h' => h'.memory.opened.isEmpty && h'.handed.any fun r =>
        decide (r.invokedAt = r.frameAt) && r.event.npdu.any fun up =>
          decide (up.2 = plainNpdu) &&
            !nwkSecurityBit (up.1.frame.payloadBytes r.psdu)) = true := by
    decide +kernel
  refine ⟨⟨rfl, trivial, by simp [guardedHost]⟩, ⟨rfl, rfl⟩, ?_⟩
  obtain ⟨h', hrun, hfacts⟩ := (Option.any_eq_true _ _).mp hrun
  simp only [Bool.and_eq_true, List.isEmpty_iff, List.any_eq_true, decide_eq_true_eq] at hfacts
  obtain ⟨hopened, r, hr, hinvoked, hup⟩ := hfacts
  obtain ⟨⟨mac, npdu⟩, hnpdu, hup⟩ := (Option.any_eq_true _ _).mp hup
  simp only [Bool.and_eq_true, decide_eq_true_eq, Bool.not_eq_true'] at hup
  obtain ⟨rfl, hbit⟩ := hup
  exact ⟨h', hrun, hopened, r, hr, hinvoked, mac, hnpdu, hbit⟩

/-- A cipher that is easy to follow: every key stream and every MIC is zero. -/
private def zeroCipher : BlockCipher := fun _ _ => Vector.replicate 16 0

private def genuineNpdu : List UInt8 :=
  [8, 2, 0, 0, 0x34, 0x12, 30, 7] ++ [0x28, 1, 0, 0, 0, 1, 0, 0, 0, 0, 0, 0, 0, 1] ++
    [0xAA] ++ [0, 0, 0, 0]

/-- A NWK command with a wrong MIC. -/
private def forgedNpdu : List UInt8 :=
  [9, 2, 0, 0, 0x34, 0x12, 30, 7] ++ [0x28, 2, 0, 0, 0, 1, 0, 0, 0, 0, 0, 0, 0, 1] ++
    [0xBB] ++ [1, 2, 3, 4]

/-- A relay: its NWK callback sends, and reads the forged frame while it waits for the answer. -/
private def relaying : Application Unit := fun event _ =>
  match event with
  | .nwk .. => (received forgedNpdu).map .read
  | _ => []

theorem npdus_gated_relaying :
    ∃ h', run zeroCipher (callbacks zeroCipher relaying 1) guardedHost (received genuineNpdu) =
      some h' ∧ h'.radio.Guarded ∧
      ∀ r ∈ h'.handed, r.invokedAt = r.frameAt → ∀ mac npdu, r.event.npdu = some (mac, npdu) →
        mac.bytes = r.psdu ∧
        Cleared zeroCipher h'.memory.opened r.frameAt (mac.frame.payloadBytes r.psdu) npdu :=
  npdus_gated (h := guardedHost) relaying 1 ⟨rfl, trivial, by simp [guardedHost]⟩ ⟨rfl, rfl⟩ rfl
    (received genuineNpdu)

/-- After the nested read the forged command is in `securedScratch_`, and goes up. -/
example : ((run zeroCipher (callbacks zeroCipher relaying 1) guardedHost
    (received genuineNpdu)).map fun h' => (h'.handed.map fun r =>
      (r.event.npdu.map fun up => up.2, decide (r.invokedAt = r.frameAt)),
      h'.memory.opened.map fun o => o.result.npdu)) =
    some ([(some [8, 0, 0, 0, 0x34, 0x12, 30, 7, 0xAA], true),
      (some [9, 0, 0, 0, 0x34, 0x12, 30, 7, 0xBB], false)],
      [[8, 0, 0, 0, 0x34, 0x12, 30, 7, 0xAA]]) := by decide +kernel

end Host

end NiusZigbee
