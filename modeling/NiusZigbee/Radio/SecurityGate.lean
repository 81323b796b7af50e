import NiusZigbee.Nwk.Bounds
import NiusZigbee.Radio.Driver

/-!
# What gets past NWK security

With a key attached and the frame filter on, a received NPDU whose security bit is set goes up only
as `openNpdu` returned it. One whose security bit is clear goes up as it came. The callbacks do not
act on the driver here.
-/

namespace NiusZigbee.CC2530Radio

open ByteCodec ZigbeeMac ZigbeeNwk ZigbeeSecurity

variable (ecb : BlockCipher) (r : CC2530Radio) (mac : Parsed MacDataFrame) (rssi : Int8)
  (lqi : UInt8)

/-- The MAC frame and the NPDU behind a callback of the NWK layer or above. -/
def Event.npdu : Event → Option (Parsed MacDataFrame × List UInt8)
  | .nwk m n _ _ | .aps m n _ _ _ | .zdo m n _ _ _ | .zcl m n _ _ _ _ | .apsAck m n _ _ _ =>
    some (m, n.bytes)
  | .nwkCommand m n _ _ => some (m, n.bytes)
  | _ => none

/-- All events are about this NPDU, which arrived in this MAC frame. -/
def About (npdu : List UInt8) (events : List Event) : Prop :=
  ∀ e ∈ events, e.npdu = some (mac, npdu)

variable {mac} {npdu : List UInt8}

theorem About.nil : About mac npdu [] := by simp [About]

theorem About.one {e : Event} (h : e.npdu = some (mac, npdu)) : About mac npdu [e] := by
  simpa [About] using h

theorem About.append {a b : List Event} (ha : About mac npdu a) (hb : About mac npdu b) :
    About mac npdu (a ++ b) := by
  intro e he
  rcases List.mem_append.mp he with h | h
  · exact ha e h
  · exact hb e h

theorem About.ite {p : Prop} [Decidable p] {events : List Event} (h : About mac npdu events) :
    About mac npdu (if p then events else []) := by
  split
  · exact h
  · exact About.nil

/-! ## The dispatchers -/

variable (mac)

section Dispatch

variable (nwk : Parsed NwkDataFrame)

theorem dispatchAck_about : ∃ events, r.dispatchAck mac rssi lqi nwk = some events ∧
    About mac nwk.bytes events := by
  simp only [dispatchAck]
  split
  · obtain ⟨t, ht⟩ := ZigbeeAps.frameType_isSome (nwk.frame.payloadBytes nwk.bytes)
    obtain ⟨ack, hack⟩ := ZigbeeAps.parseAckFrame_isSome (nwk.frame.payloadBytes nwk.bytes)
    simp only [ht, hack, Option.bind_eq_bind, Option.bind_some]
    split
    · exact ⟨_, rfl, About.ite (About.one rfl)⟩
    · exact ⟨_, rfl, About.nil⟩
  · exact ⟨_, rfl, About.nil⟩

theorem dispatchZcl_about (aps : Parsed ZigbeeAps.ApsDataFrame) :
    ∃ events, r.dispatchZcl mac rssi lqi nwk aps = some events ∧ About mac nwk.bytes events := by
  simp only [dispatchZcl]
  split
  · obtain ⟨zcl, hzcl⟩ := ZigbeeZcl.parseFrame_isSome (aps.frame.payloadBytes aps.bytes)
    simp only [hzcl, Option.bind_eq_bind, Option.bind_some]
    exact ⟨_, rfl, About.ite (About.one rfl)⟩
  · exact ⟨_, rfl, About.nil⟩

theorem dispatchAps_about : ∃ events, r.dispatchAps mac rssi lqi nwk = some events ∧
    About mac nwk.bytes events := by
  simp only [dispatchAps]
  split
  · obtain ⟨⟨ok, frame⟩, haps⟩ := ZigbeeAps.parseDataFrame_isSome (nwk.frame.payloadBytes nwk.bytes)
    obtain ⟨zcl, hzcl, hzclAbout⟩ := r.dispatchZcl_about mac rssi lqi nwk
      ⟨nwk.frame.payloadBytes nwk.bytes, frame⟩
    simp only [haps, hzcl, Option.bind_eq_bind, Option.bind_some]
    split
    · exact ⟨_, rfl, ((About.ite (About.one rfl)).append (About.ite (About.one rfl))).append
        hzclAbout⟩
    · exact ⟨_, rfl, About.nil⟩
  · exact ⟨_, rfl, About.nil⟩

end Dispatch

theorem dispatchNwk_about (npdu : List UInt8) : ∃ events,
    r.dispatchNwk mac rssi lqi npdu = some events ∧ About mac npdu events ∧
      (events ≠ [] → 8 ≤ npdu.length) := by
  simp only [dispatchNwk]
  split
  · obtain ⟨⟨ok, frame⟩, hparse⟩ := ZigbeeNwk.parseDataFrame_isSome npdu
    simp only [hparse, Option.bind_eq_bind, Option.bind_some]
    cases ok with
    | false => exact ⟨[], rfl, About.nil, by simp⟩
    | true =>
      obtain ⟨-, -, hlen, -⟩ := parseDataFrame_accepts hparse
      obtain ⟨ack, hack, hackAbout⟩ := r.dispatchAck_about mac rssi lqi ⟨npdu, frame⟩
      obtain ⟨aps, haps, hapsAbout⟩ := r.dispatchAps_about mac rssi lqi ⟨npdu, frame⟩
      have hnwk :
          About mac npdu (if r.callbacks.nwk then [.nwk mac ⟨npdu, frame⟩ rssi lqi] else []) :=
        About.ite (About.one rfl)
      simp only [hack, haps, Option.bind_some, if_true]
      split
      · exact ⟨_, rfl, (hnwk.append hackAbout).append hapsAbout, fun _ => hlen⟩
      · exact ⟨_, rfl, hnwk, fun _ => hlen⟩
  · exact ⟨[], rfl, About.nil, by simp⟩

theorem dispatchNwkCommand_about (npdu : List UInt8) : ∃ events,
    r.dispatchNwkCommand mac rssi lqi npdu = some events ∧ About mac npdu events ∧
      (events ≠ [] → 8 ≤ npdu.length) := by
  simp only [dispatchNwkCommand]
  split
  · obtain ⟨⟨ok, frame⟩, hparse⟩ := ZigbeeNwk.parseCommandFrame_isSome npdu
    simp only [hparse, Option.bind_eq_bind, Option.bind_some]
    cases ok with
    | false => exact ⟨[], rfl, About.nil, by simp⟩
    | true =>
      have hlen : 8 + 1 ≤ npdu.length := parseCommandFrame_length hparse
      exact ⟨_, rfl, About.one rfl, fun _ => by omega⟩
  · exact ⟨[], rfl, About.nil, by simp⟩

/-! ## The gate -/

/-- A key is attached and the frame filter is on. -/
def Guarded : Prop :=
  (r.security.any fun s => s.hasKey) = true ∧ r.promiscuous = false

/-- The NPDU is the received one with its security bit clear, or what `openNpdu` made of a received
one with its security bit set. -/
def Passed (received npdu : List UInt8) : Prop :=
  (nwkSecurityBit received = false ∧ npdu = received) ∨
  (nwkSecurityBit received = true ∧ ∃ s sender, r.security = some s ∧
    (s.openNpdu ecb received (nwkHeaderLength received).toNat kSecuredScratch).2 =
      .ok ⟨npdu, sender⟩)

/-- Only the security object differs, and it has a key if it had one. -/
def Keeps (r r' : CC2530Radio) : Prop :=
  ∃ security : Option ZigbeeSecurity, r' = { r with security := security } ∧
    (security.any fun s => s.hasKey) = r.security.any fun s => s.hasKey

variable {r}

theorem Keeps.refl : Keeps r r := ⟨r.security, rfl, rfl⟩

theorem Keeps.guarded {r' : CC2530Radio} (h : Keeps r r') (hr : r.Guarded) : r'.Guarded := by
  obtain ⟨security, rfl, hkey⟩ := h
  exact ⟨hkey.trans hr.1, hr.2⟩

theorem openReceived_keeps (received : List UInt8) :
    Keeps r (r.openReceived ecb received).1 := by
  simp only [openReceived]
  cases hsec : r.security with
  | none => exact Keeps.refl
  | some s =>
    simp only
    split
    · obtain ⟨replay, stats, hkeeps⟩ : ∃ replay stats, (s.openNpdu ecb received
        (nwkHeaderLength received).toNat kSecuredScratch).1 =
        { s with replay := replay, stats := stats } := openNpdu_keeps _ _ _
      generalize s.openNpdu ecb received (nwkHeaderLength received).toNat kSecuredScratch = answer
        at hkeeps
      obtain ⟨s', result⟩ := answer
      subst hkeeps
      cases result <;> exact ⟨_, rfl, by simp [hsec]⟩
    · exact Keeps.refl

/-- A short NPDU passes as it is; no NWK parser takes it. -/
theorem openReceived_passed {received npdu : List UInt8} (hr : r.Guarded)
    (h : (r.openReceived ecb received).2 = some npdu) (hlen : 8 ≤ npdu.length) :
    Passed ecb r received npdu := by
  obtain ⟨hkey, hpromisc⟩ := hr
  obtain ⟨s, hsec, hkey⟩ := (Option.any_eq_true _ _).mp hkey
  simp only [openReceived, hsec, hkey, hpromisc, Bool.not_false, Bool.and_true, Bool.true_and]
    at h
  have hbit : nwkSecurityBit received = true ↔ received.getD 1 0 &&& 0x02 ≠ 0 := by
    simp [nwkSecurityBit]
  split at h
  · next hset =>
    right
    simp only [Bool.and_eq_true, decide_eq_true_eq] at hset
    cases hopen : s.openNpdu ecb received (nwkHeaderLength received).toNat kSecuredScratch with
    | mk s' result =>
      rw [hopen] at h
      cases result with
      | error e => cases h
      | ok opened =>
        simp only [Option.ite_none_left_eq_some, Option.some.injEq] at h
        refine ⟨hbit.mpr hset.2, s, opened.senderIeee, hsec, ?_⟩
        rw [hopen, ← h.2]
  · next hpass =>
    left
    obtain rfl : received = npdu := Option.some.inj h
    simp only [hlen, decide_true, Bool.true_and, decide_eq_true_eq] at hpass
    exact ⟨Bool.eq_false_iff.mpr fun hset => hpass (hbit.mp hset), rfl⟩

/-! ## One received frame -/

theorem receiveData_passed (mac : Parsed MacDataFrame) : ∃ r' events,
    r.receiveData ecb mac rssi lqi = some (r', events) ∧ Keeps r r' ∧
    (r.Guarded → ∀ e ∈ events, ∀ m npdu, e.npdu = some (m, npdu) →
      m = mac ∧ Passed ecb r (mac.frame.payloadBytes mac.bytes) npdu) := by
  have hkeeps : Keeps r (r.openReceived ecb (mac.frame.payloadBytes mac.bytes)).1 :=
    openReceived_keeps ecb _
  have hdata : ∀ e ∈ (if r.callbacks.data then [Event.data mac rssi lqi] else []),
      e.npdu = none := by
    split <;> simp [Event.npdu]
  simp only [receiveData]
  cases hopen : r.openReceived ecb (mac.frame.payloadBytes mac.bytes) with
  | mk r' result =>
    rw [hopen] at hkeeps
    cases result with
    | none =>
      refine ⟨r', _, rfl, hkeeps, ?_⟩
      intro _ e he m npdu hnpdu
      rw [hdata e he] at hnpdu
      cases hnpdu
    | some npdu =>
      obtain ⟨nwk, hnwk, hnwkAbout, hnwkLen⟩ := r'.dispatchNwk_about mac rssi lqi npdu
      obtain ⟨command, hcommand, hcommandAbout, hcommandLen⟩ :=
        r'.dispatchNwkCommand_about mac rssi lqi npdu
      simp only [hnwk, hcommand, Option.bind_eq_bind, Option.bind_some]
      refine ⟨r', _, rfl, hkeeps, ?_⟩
      intro hguarded e he m npdu' hnpdu
      have hgate : About mac npdu [e] ∧ 8 ≤ npdu.length := by
        rcases List.mem_append.mp he with he | he
        · rcases List.mem_append.mp he with he | he
          · rw [hdata e he] at hnpdu
            cases hnpdu
          · exact ⟨About.one (hnwkAbout e he), hnwkLen (List.ne_nil_of_mem he)⟩
        · exact ⟨About.one (hcommandAbout e he), hcommandLen (List.ne_nil_of_mem he)⟩
      rw [hgate.1 e (List.mem_singleton_self e)] at hnpdu
      obtain ⟨rfl, rfl⟩ : mac = m ∧ npdu = npdu' := by simpa using hnpdu
      exact ⟨rfl, openReceived_passed ecb hguarded (by rw [hopen]) hgate.2⟩

theorem receiveOther_about (psdu : List UInt8) : ∃ events,
    r.receiveOther rssi lqi psdu = some events ∧ ∀ e ∈ events, e.npdu = none := by
  obtain ⟨command, hcommand⟩ := ZigbeeMac.parseCommandFrame_isSome psdu
  obtain ⟨beacon, hbeacon⟩ := parseBeacon_isSome psdu
  simp only [receiveOther, hcommand, hbeacon, Option.bind_eq_bind, Option.bind_some,
    Option.pure_def]
  cases r.callbacks.macCommand <;> cases r.callbacks.beacon <;> cases command.1 <;>
    cases beacon.1 <;> exact ⟨_, rfl, by simp [Event.npdu]⟩

/-- The MAC frame of an event is the received one. -/
def Gated (ecb : BlockCipher) (r : CC2530Radio) (psdu : List UInt8) (events : List Event) : Prop :=
  ∀ e ∈ events, ∀ mac npdu, e.npdu = some (mac, npdu) →
    mac.bytes = psdu ∧ Passed ecb r (mac.frame.payloadBytes psdu) npdu

theorem receivePsdu_gated (psdu : List UInt8) : ∃ r' events,
    r.receivePsdu ecb rssi lqi psdu = some (r', events) ∧ Keeps r r' ∧
    (r.Guarded → Gated ecb r psdu events) := by
  have hrx : ∀ e ∈ (if r.callbacks.rx then [Event.rx psdu rssi lqi] else []), e.npdu = none := by
    split <;> simp [Event.npdu]
  have hgated : ∀ {events}, (∀ e ∈ events, Event.npdu e = none) → Gated ecb r psdu events := by
    intro events h e he mac npdu hnpdu
    rw [h e he] at hnpdu
    cases hnpdu
  simp only [receivePsdu]
  split
  · obtain ⟨⟨ok, frame⟩, hparse⟩ := parseShortDataFrame_isSome psdu
    simp only [hparse, Option.bind_eq_bind, Option.bind_some]
    cases ok with
    | false =>
      obtain ⟨events, hevents, habout⟩ := receiveOther_about (r := r) rssi lqi psdu
      simp only [hevents, Bool.false_eq_true, if_false, Option.bind_some]
      refine ⟨r, _, rfl, Keeps.refl, fun _ => hgated fun e he => ?_⟩
      rcases List.mem_append.mp he with h | h
      · exact hrx e h
      · exact habout e h
    | true =>
      obtain ⟨r', events, hevents, hkeeps, hpassed⟩ :=
        receiveData_passed (r := r) ecb rssi lqi ⟨psdu, frame⟩
      simp only [hevents, if_true, Option.bind_some]
      refine ⟨r', _, rfl, hkeeps, fun hguarded e he mac npdu hnpdu => ?_⟩
      rcases List.mem_append.mp he with h | h
      · rw [hrx e h] at hnpdu
        cases hnpdu
      · obtain ⟨rfl, hpass⟩ := hpassed hguarded e h mac npdu hnpdu
        exact ⟨rfl, hpass⟩
  · exact ⟨r, _, rfl, Keeps.refl, fun _ => hgated hrx⟩

/-! ## The byte stream -/

/-- What the UART parser has gathered fits the length it was told. -/
def Framed (r : CC2530Radio) : Prop :=
  match r.state with
  | .sof | .len => True
  | .data => r.buf.length < r.len.toNat
  | .fcs => 0 < r.len.toNat ∧ r.buf.length = r.len.toNat

theorem receiveFrame_gated (hlen : 0 < r.len.toNat) (hbuf : r.buf.length = r.len.toNat) :
    ∃ r' events, r.receiveFrame ecb = some (r', events) ∧ r'.state = r.state ∧
      (r.Guarded → r'.Guarded ∧ Gated ecb r (r.buf.drop 3) events) := by
  obtain ⟨cmd, h0⟩ := getElem?_isSome (by omega : 0 < r.buf.length)
  simp only [receiveFrame, read8_eq, h0, Option.bind_eq_bind, Option.bind_some]
  have hnone : Gated ecb r (r.buf.drop 3) [] := by simp [Gated]
  have hthree : r.len ≥ 3 → 3 ≤ r.buf.length := fun h => hbuf ▸ UInt8.le_iff_toNat_le.mp h
  split
  · split
    · next hge =>
      have := hthree hge
      obtain ⟨rssi, h1⟩ := getElem?_isSome (by omega : 1 < r.buf.length)
      obtain ⟨lqi, h2⟩ := getElem?_isSome (by omega : 2 < r.buf.length)
      obtain ⟨r', events, hevents, hkeeps, hgated⟩ :=
        receivePsdu_gated (r := r) ecb (rssi.toInt8 - rssiOffset) lqi (r.buf.drop 3)
      simp only [h1, h2, Option.bind_some, hevents]
      refine ⟨r', events, rfl, ?_, fun h => ⟨hkeeps.guarded h, hgated h⟩⟩
      obtain ⟨security, rfl, -⟩ := hkeeps
      rfl
    · exact ⟨r, [], rfl, rfl, fun h => ⟨h, hnone⟩⟩
  split
  · next hreset =>
    have := hthree hreset.2
    obtain ⟨hi, h1⟩ := getElem?_isSome (by omega : 1 < r.buf.length)
    obtain ⟨lo, h2⟩ := getElem?_isSome (by omega : 2 < r.buf.length)
    simp only [h1, h2, Option.bind_some]
    exact ⟨_, [], rfl, rfl, fun h => ⟨h, hnone⟩⟩
  · exact ⟨_, [], rfl, rfl, fun h => ⟨h, hnone⟩⟩

theorem feed_gated (hframed : r.Framed) (b : UInt8) : ∃ r' events,
    r.feed ecb b = some (r', events) ∧ r'.Framed ∧
      (r.Guarded → r'.Guarded ∧ Gated ecb r (r.buf.drop 3) events) := by
  have hnone : Gated ecb r (r.buf.drop 3) [] := by simp [Gated]
  simp only [feed]
  cases hstate : r.state with
  | sof =>
    refine ⟨_, [], rfl, ?_, fun h => ⟨h, hnone⟩⟩
    by_cases hb : b = sofByte <;> simp [Framed, hb]
  | len =>
    refine ⟨_, [], rfl, ?_, fun h => ⟨h, hnone⟩⟩
    by_cases hb : b = 0 ∨ b > kBufSize
    · simp [Framed, hb]
    · have hpos : 0 < b.toNat := by
        rw [Nat.pos_iff_ne_zero]
        intro hzero
        exact hb (Or.inl (UInt8.toNat_inj.mp hzero))
      simp [Framed, hb, hpos]
  | data =>
    refine ⟨_, [], rfl, ?_, fun h => ⟨h, hnone⟩⟩
    simp only [Framed, hstate] at hframed
    by_cases hfull : (r.buf ++ [b]).length ≥ r.len.toNat
    · simp only [Framed, if_pos hfull]
      simp only [List.length_append, List.length_singleton] at hfull ⊢
      omega
    · simp only [Framed, if_neg hfull]
      omega
  | fcs =>
    simp only [Framed, hstate] at hframed
    by_cases hfcs : b ≠ r.fcs
    · simp only [if_pos hfcs]
      exact ⟨_, [], rfl, trivial, fun h => ⟨h, hnone⟩⟩
    · simp only [if_neg hfcs]
      obtain ⟨r', events, hevents, hsame, hgated⟩ :=
        receiveFrame_gated (r := { r with state := .sof }) ecb hframed.1 hframed.2
      refine ⟨r', events, hevents, ?_, hgated⟩
      simp only [Framed, hsame]

end NiusZigbee.CC2530Radio
