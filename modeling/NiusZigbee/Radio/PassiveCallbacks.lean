import NiusZigbee.Radio.Host
import NiusZigbee.Radio.SecurityGate

/-!
# Callbacks that leave the driver alone

While no callback acts on the driver, it goes through the states of `CC2530Radio.feed`, and the
callbacks are invoked in its order with its arguments.
-/

namespace NiusZigbee

open ByteCodec ZigbeeMac
open CC2530Radio ZigbeeNwk ZigbeeAps ZigbeeZcl

namespace Host

variable {σ : Type} {ecb : BlockCipher} {handler : Handler σ} {rx : Reception} {h h' : Host σ}

/-- What the UART parser has gathered lies at the start of `buf_`. -/
structure Gathered (h : Host σ) : Prop where
  size : h.memory.buf.length = 140
  framed : h.radio.Framed
  stored : h.radio.state = .data ∨ h.radio.state = .fcs →
    h.radio.len.toNat ≤ 140 ∧ h.memory.buf.take h.radio.buf.length = h.radio.buf

theorem Gathered.psdu (hgathered : h.Gathered) (hstate : h.radio.state = .fcs) :
    h.memory.psdu (h.radio.len.toNat - 3) = h.radio.buf.drop 3 := by
  have hframed := hgathered.framed
  simp only [Framed, hstate] at hframed
  rw [← (hgathered.stored (Or.inr hstate)).2, List.drop_take, hframed.2]
  rfl

/-- A byte that ends no frame is stored at most. -/
theorem feed_parses (ecb : BlockCipher) (handler : Handler σ) (hgathered : h.Gathered)
    (hstate : h.radio.state ≠ .fcs) (b : UInt8) :
    ∃ radio buf, feed ecb handler b h = some { h with
        radio := radio, memory := { h.memory with buf := buf }, reads := h.reads + 1 } ∧
      h.radio.feed ecb b = some (radio, []) ∧
      Gathered { h with
        radio := radio, memory := { h.memory with buf := buf }, reads := h.reads + 1 } := by
  obtain ⟨hsize, hframed, hstored⟩ := hgathered
  obtain ⟨radio, events, hradio, hframed', -⟩ := feed_gated ecb hframed b
  simp only [feed]
  cases hcase : h.radio.state with
  | fcs => exact absurd hcase hstate
  | sof =>
    have hparse := hradio
    simp only [CC2530Radio.feed, hcase, Option.some.injEq, Prod.mk.injEq] at hparse
    obtain ⟨rfl, rfl⟩ := hparse
    simp only [hradio, Option.map_some]
    refine ⟨_, _, rfl, rfl, hsize, hframed', ?_⟩
    by_cases hb : b = sofByte <;> simp [hb]
  | len =>
    have hparse := hradio
    simp only [CC2530Radio.feed, hcase, Option.some.injEq, Prod.mk.injEq] at hparse
    obtain ⟨rfl, rfl⟩ := hparse
    simp only [hradio, Option.map_some]
    refine ⟨_, _, rfl, rfl, hsize, hframed', ?_⟩
    by_cases hb : b = 0 ∨ b > kBufSize
    · simp [hb]
    · have hle : b ≤ kBufSize := by simpa using (not_or.mp hb).2
      intro _
      exact ⟨UInt8.le_iff_toNat_le.mp hle, rfl⟩
  | data =>
    have hparse := hradio
    simp only [CC2530Radio.feed, hcase, Option.some.injEq, Prod.mk.injEq] at hparse
    obtain ⟨rfl, rfl⟩ := hparse
    simp only [hradio, Option.map_some]
    refine ⟨_, _, rfl, rfl, by simpa using hsize, hframed', ?_⟩
    obtain ⟨hlen, htake⟩ := hstored (Or.inl hcase)
    simp only [Framed, hcase] at hframed
    intro _
    refine ⟨hlen, ?_⟩
    rw [List.length_append, List.length_singleton, List.take_add_one, List.take_set_of_le le_rfl,
      htake]
    simp only [List.getElem?_set_self (by omega : h.radio.buf.length < h.memory.buf.length)]
    rfl

/-! ## The dispatchers -/

/-- A callback may do to the application what it likes. -/
def Passive (handler : Handler σ) : Prop :=
  ∀ event h, ∃ app, handler event h = some { h with app := app }

/-- These callbacks were invoked, and the driver is as it was. -/
structure Mirrors (events : List Event) (h h' : Host σ) : Prop where
  radio : h'.radio = h.radio
  memory : h'.memory = h.memory
  handed : h'.handed.map (fun r => r.event) = h.handed.map (fun r => r.event) ++ events

theorem Mirrors.refl : Mirrors [] h h := ⟨rfl, rfl, by simp⟩

theorem Mirrors.trans {h'' : Host σ} {first second : List Event} (hfirst : Mirrors first h h')
    (hsecond : Mirrors second h' h'') : Mirrors (first ++ second) h h'' :=
  ⟨hsecond.radio.trans hfirst.radio, hsecond.memory.trans hfirst.memory,
    by rw [hsecond.handed, hfirst.handed, List.append_assoc]⟩

variable (ecb rx)

theorem invoke_passive (hpassive : Passive handler) (registered : Bool) (event : Event) :
    ∃ h', invoke handler rx registered event h = some h' ∧
      Mirrors (if registered then [event] else []) h h' := by
  cases registered with
  | false => exact ⟨h, rfl, Mirrors.refl⟩
  | true =>
    obtain ⟨app, happ⟩ := hpassive event
      { h with handed := h.handed ++ [⟨event, rx.frameAt, rx.psdu, h.reads⟩] }
    simp only [invoke, if_true]
    exact ⟨_, happ, rfl, rfl, by simp⟩

section Dispatch

variable (frame : MacDataFrame) (span : Span)

theorem dispatchAck_passive (hpassive : Passive handler) (nwk : NwkDataFrame) :
    ∃ h' events, dispatchAck handler rx frame span nwk h = some h' ∧ Mirrors events h h' ∧
      h.radio.dispatchAck ⟨h.memory.psdu rx.len, frame⟩ rx.rssi rx.lqi
        ⟨h.memory.npdu rx.len span, nwk⟩ = some events := by
  simp only [dispatchAck, CC2530Radio.dispatchAck]
  split
  · obtain ⟨t, ht⟩ := ZigbeeAps.frameType_isSome (nwk.payloadBytes (h.memory.npdu rx.len span))
    obtain ⟨⟨ok, ack⟩, hack⟩ :=
      ZigbeeAps.parseAckFrame_isSome (nwk.payloadBytes (h.memory.npdu rx.len span))
    simp only [ht, hack, Option.bind_eq_bind, Option.bind_some]
    split
    · obtain ⟨h', hrun, hmirrors⟩ := invoke_passive rx hpassive ok
        (.apsAck ⟨h.memory.psdu rx.len, frame⟩ ⟨h.memory.npdu rx.len span, nwk⟩ ack rx.rssi
          rx.lqi)
      exact ⟨h', _, hrun, hmirrors, rfl⟩
    · exact ⟨h, [], rfl, Mirrors.refl, rfl⟩
  · exact ⟨h, [], rfl, Mirrors.refl, rfl⟩

theorem dispatchZcl_passive (hpassive : Passive handler) (nwk : NwkDataFrame)
    (aps : ApsDataFrame) :
    ∃ h' events, dispatchZcl handler rx frame span nwk aps h = some h' ∧ Mirrors events h h' ∧
      h.radio.dispatchZcl ⟨h.memory.psdu rx.len, frame⟩ rx.rssi rx.lqi
        ⟨h.memory.npdu rx.len span, nwk⟩
        ⟨nwk.payloadBytes (h.memory.npdu rx.len span), aps⟩ = some events := by
  simp only [dispatchZcl, CC2530Radio.dispatchZcl]
  split
  · obtain ⟨⟨ok, zcl⟩, hzcl⟩ := ZigbeeZcl.parseFrame_isSome
      (aps.payloadBytes (nwk.payloadBytes (h.memory.npdu rx.len span)))
    simp only [hzcl, Option.bind_eq_bind, Option.bind_some]
    obtain ⟨h', hrun, hmirrors⟩ := invoke_passive rx hpassive ok
      (.zcl ⟨h.memory.psdu rx.len, frame⟩ ⟨h.memory.npdu rx.len span, nwk⟩
        ⟨nwk.payloadBytes (h.memory.npdu rx.len span), aps⟩
        ⟨aps.payloadBytes (nwk.payloadBytes (h.memory.npdu rx.len span)), zcl⟩ rx.rssi rx.lqi)
    exact ⟨h', _, hrun, hmirrors, rfl⟩
  · exact ⟨h, [], rfl, Mirrors.refl, rfl⟩

theorem dispatchAps_passive (hpassive : Passive handler) (nwk : NwkDataFrame) :
    ∃ h' events, dispatchAps handler rx frame span nwk h = some h' ∧ Mirrors events h h' ∧
      h.radio.dispatchAps ⟨h.memory.psdu rx.len, frame⟩ rx.rssi rx.lqi
        ⟨h.memory.npdu rx.len span, nwk⟩ = some events := by
  simp only [dispatchAps, CC2530Radio.dispatchAps]
  split
  · obtain ⟨⟨ok, aps⟩, haps⟩ :=
      ZigbeeAps.parseDataFrame_isSome (nwk.payloadBytes (h.memory.npdu rx.len span))
    simp only [haps, Option.bind_eq_bind, Option.bind_some]
    cases ok with
    | false => exact ⟨h, [], rfl, Mirrors.refl, rfl⟩
    | true =>
      obtain ⟨first, hfirst, hapsCb⟩ := invoke_passive (h := h) rx hpassive
        h.radio.callbacks.aps (apsEvent rx frame span .aps nwk aps h)
      obtain ⟨second, hsecond, hzdoCb⟩ := invoke_passive (h := first) rx hpassive
        (first.radio.callbacks.zdo ∧ aps.profileId = kProfileZigbeeDevice ∧ aps.dstEndpoint = 0)
        (apsEvent rx frame span .zdo nwk aps first)
      have hboth := hapsCb.trans hzdoCb
      obtain ⟨h', events, hrun, hzclCb, hzcl⟩ := dispatchZcl_passive (h := second) rx
        frame span hpassive nwk aps
      simp only [hboth.radio, hboth.memory] at hzcl
      simp only [hfirst, hsecond, hzcl, Option.bind_some, if_true]
      refine ⟨h', _, hrun, hboth.trans hzclCb, ?_⟩
      simp [apsEvent, hapsCb.radio, hapsCb.memory]
  · exact ⟨h, [], rfl, Mirrors.refl, rfl⟩

theorem dispatchNwk_passive (hpassive : Passive handler) :
    ∃ h' events, dispatchNwk handler rx frame span h = some h' ∧ Mirrors events h h' ∧
      h.radio.dispatchNwk ⟨h.memory.psdu rx.len, frame⟩ rx.rssi rx.lqi
        (h.memory.npdu rx.len span) = some events := by
  simp only [dispatchNwk, CC2530Radio.dispatchNwk]
  split
  · obtain ⟨⟨ok, nwk⟩, hparse⟩ := ZigbeeNwk.parseDataFrame_isSome (h.memory.npdu rx.len span)
    simp only [hparse, Option.bind_eq_bind, Option.bind_some]
    cases ok with
    | false => exact ⟨h, [], rfl, Mirrors.refl, rfl⟩
    | true =>
      obtain ⟨first, hfirst, hnwkCb⟩ := invoke_passive (h := h) rx hpassive h.radio.callbacks.nwk
        (.nwk ⟨h.memory.psdu rx.len, frame⟩ ⟨h.memory.npdu rx.len span, nwk⟩ rx.rssi rx.lqi)
      simp only [hfirst, Option.bind_some, if_true, hnwkCb.radio]
      cases h.radio.localNwkDestination nwk with
      | false => exact ⟨first, _, rfl, hnwkCb, rfl⟩
      | true =>
        obtain ⟨second, ackEvents, hsecond, hackCb, hack⟩ :=
          dispatchAck_passive (h := first) rx frame span hpassive nwk
        obtain ⟨h', apsEvents, hrun, hapsCb, haps⟩ :=
          dispatchAps_passive (h := second) rx frame span hpassive nwk
        have hboth := hnwkCb.trans hackCb
        simp only [hnwkCb.radio, hnwkCb.memory] at hack
        simp only [hboth.radio, hboth.memory] at haps
        simp only [hsecond, hack, haps, Option.bind_some, if_true]
        exact ⟨h', _, hrun, hboth.trans hapsCb, rfl⟩
  · exact ⟨h, [], rfl, Mirrors.refl, rfl⟩

theorem dispatchNwkCommand_passive (hpassive : Passive handler) :
    ∃ h' events, dispatchNwkCommand handler rx frame span h = some h' ∧ Mirrors events h h' ∧
      h.radio.dispatchNwkCommand ⟨h.memory.psdu rx.len, frame⟩ rx.rssi rx.lqi
        (h.memory.npdu rx.len span) = some events := by
  simp only [dispatchNwkCommand, CC2530Radio.dispatchNwkCommand]
  split
  · obtain ⟨⟨ok, nwk⟩, hparse⟩ := ZigbeeNwk.parseCommandFrame_isSome (h.memory.npdu rx.len span)
    simp only [hparse, Option.bind_eq_bind, Option.bind_some]
    obtain ⟨h', hrun, hmirrors⟩ := invoke_passive (h := h) rx hpassive ok
      (.nwkCommand ⟨h.memory.psdu rx.len, frame⟩ ⟨h.memory.npdu rx.len span, nwk⟩ rx.rssi rx.lqi)
    exact ⟨h', _, hrun, hmirrors, rfl⟩
  · exact ⟨h, [], rfl, Mirrors.refl, rfl⟩

theorem openReceived_passive :
    (h.openReceived ecb rx frame).1.radio =
      (h.radio.openReceived ecb (frame.payloadBytes (h.memory.psdu rx.len))).1 ∧
    (h.openReceived ecb rx frame).1.memory.buf = h.memory.buf ∧
    (h.openReceived ecb rx frame).1.handed = h.handed ∧
    (h.openReceived ecb rx frame).2.map (fun span =>
      (h.openReceived ecb rx frame).1.memory.npdu rx.len span) =
      (h.radio.openReceived ecb (frame.payloadBytes (h.memory.psdu rx.len))).2 := by
  simp only [openReceived, CC2530Radio.openReceived]
  cases h.radio.security with
  | none => exact ⟨rfl, rfl, rfl, rfl⟩
  | some s =>
    simp only
    split
    · generalize hnpdu : frame.payloadBytes (h.memory.psdu rx.len) = npdu
      cases hopen : s.openNpdu ecb npdu (nwkHeaderLength npdu).toNat kSecuredScratch with
      | mk s' result =>
        cases result with
        | error e => exact ⟨rfl, rfl, rfl, rfl⟩
        | ok opened =>
          have hstored : opened.npdu = s.decrypted ecb npdu (nwkHeaderLength npdu).toNat
              kSecuredScratch := ZigbeeSecurity.openNpdu_decrypted (by rw [hopen])
          refine ⟨rfl, rfl, rfl, ?_⟩
          simp only [← hstored]
          split
          · rfl
          · simp [Memory.npdu]
    · exact ⟨rfl, rfl, rfl, rfl⟩

/-! ## One received frame -/

theorem receiveData_passive (hpassive : Passive handler) :
    ∃ h' events, receiveData ecb handler rx frame h = some h' ∧
      h.radio.receiveData ecb ⟨h.memory.psdu rx.len, frame⟩ rx.rssi rx.lqi =
        some (h'.radio, events) ∧
      h'.memory.buf = h.memory.buf ∧
      h'.handed.map (fun r => r.event) = h.handed.map (fun r => r.event) ++ events := by
  obtain ⟨first, hfirst, hdataCb⟩ := invoke_passive (h := h) rx hpassive h.radio.callbacks.data
    (.data ⟨h.memory.psdu rx.len, frame⟩ rx.rssi rx.lqi)
  obtain ⟨hradio, hbuf, hhanded, hnpdu⟩ := openReceived_passive (h := first) ecb rx frame
  simp only [hdataCb.radio, hdataCb.memory] at hradio hbuf hnpdu
  simp only [receiveData, CC2530Radio.receiveData, hfirst, Option.bind_eq_bind, Option.bind_some]
  generalize first.openReceived ecb rx frame = answer at hradio hbuf hhanded hnpdu
  generalize h.radio.openReceived ecb (frame.payloadBytes (h.memory.psdu rx.len)) = expected
    at hradio hnpdu
  obtain ⟨second, span⟩ := answer
  obtain ⟨radio, npdu⟩ := expected
  obtain rfl : second.radio = radio := hradio
  have hpsdu : second.memory.psdu rx.len = h.memory.psdu rx.len :=
    congrArg (fun buf => slice buf 3 rx.len) hbuf
  cases span with
  | none =>
    obtain rfl : none = npdu := hnpdu
    exact ⟨second, _, rfl, rfl, hbuf, hhanded ▸ hdataCb.handed⟩
  | some span =>
    obtain rfl : some (second.memory.npdu rx.len span) = npdu := hnpdu
    obtain ⟨third, nwkEvents, hthird, hnwkCb, hnwk⟩ :=
      dispatchNwk_passive (h := second) rx frame span hpassive
    obtain ⟨h', commandEvents, hrun, hcommandCb, hcommand⟩ :=
      dispatchNwkCommand_passive (h := third) rx frame span hpassive
    have hboth := hnwkCb.trans hcommandCb
    simp only [hnwkCb.radio, hnwkCb.memory, hpsdu] at hcommand
    rw [hpsdu] at hnwk
    simp only [hthird, hnwk, hcommand, Option.bind_some, hrun]
    refine ⟨h', _, rfl, congrArg some (Prod.ext hboth.radio.symm rfl),
      (congrArg Memory.buf hboth.memory).trans hbuf, ?_⟩
    rw [hboth.handed, hhanded, hdataCb.handed]
    simp only [List.append_assoc]

end Dispatch

theorem receiveOther_passive (hpassive : Passive handler) :
    ∃ second h' events, receiveCommand handler rx h = some second ∧
      receiveBeacon handler rx second = some h' ∧ Mirrors events h h' ∧
      h.radio.receiveOther rx.rssi rx.lqi (h.memory.psdu rx.len) = some events := by
  obtain ⟨⟨isCommand, command⟩, hcommand⟩ :=
    ZigbeeMac.parseCommandFrame_isSome (h.memory.psdu rx.len)
  obtain ⟨⟨isBeacon, beacon⟩, hbeacon⟩ := parseBeacon_isSome (h.memory.psdu rx.len)
  obtain ⟨second, hsecond, hcommandCb⟩ : ∃ second, receiveCommand handler rx h = some second ∧
      Mirrors (if h.radio.callbacks.macCommand then
        if isCommand then [.macCommand ⟨h.memory.psdu rx.len, command⟩ rx.rssi rx.lqi] else []
        else []) h second := by
    simp only [receiveCommand, hcommand, Option.bind_eq_bind, Option.bind_some]
    split
    · exact invoke_passive rx hpassive _ _
    · exact ⟨h, rfl, Mirrors.refl⟩
  obtain ⟨h', hrun, hbeaconCb⟩ : ∃ h', receiveBeacon handler rx second = some h' ∧
      Mirrors (if h.radio.callbacks.beacon then
        if isBeacon then [.beacon ⟨h.memory.psdu rx.len, beacon⟩ rx.rssi rx.lqi] else []
        else []) second h' := by
    simp only [receiveBeacon, hcommandCb.radio, hcommandCb.memory, hbeacon, Option.bind_eq_bind,
      Option.bind_some]
    split
    · exact invoke_passive rx hpassive _ _
    · exact ⟨second, rfl, Mirrors.refl⟩
  refine ⟨second, h', _, hsecond, hrun, hcommandCb.trans hbeaconCb, ?_⟩
  simp only [receiveOther, hcommand, hbeacon, Option.bind_eq_bind, Option.bind_some,
    Option.pure_def]
  cases h.radio.callbacks.macCommand <;> cases h.radio.callbacks.beacon <;> rfl

theorem receivePsdu_passive (hpassive : Passive handler) :
    ∃ h' events, receivePsdu ecb handler rx h = some h' ∧
      h.radio.receivePsdu ecb rx.rssi rx.lqi (h.memory.psdu rx.len) =
        some (h'.radio, events) ∧
      h'.memory.buf = h.memory.buf ∧
      h'.handed.map (fun r => r.event) = h.handed.map (fun r => r.event) ++ events := by
  obtain ⟨first, hfirst, hrxCb⟩ := invoke_passive (h := h) rx hpassive h.radio.callbacks.rx
    (.rx (h.memory.psdu rx.len) rx.rssi rx.lqi)
  simp only [receivePsdu, CC2530Radio.receivePsdu, hfirst, Option.bind_eq_bind, Option.bind_some,
    hrxCb.radio, hrxCb.memory]
  split
  · obtain ⟨⟨ok, frame⟩, hparse⟩ := parseShortDataFrame_isSome (h.memory.psdu rx.len)
    simp only [hparse, Option.bind_some]
    cases ok with
    | true =>
      obtain ⟨h', events, hrun, hdata, hbuf, hhanded⟩ :=
        receiveData_passive (h := first) ecb rx frame hpassive
      simp only [hrxCb.radio, hrxCb.memory] at hbuf hdata
      simp only [hrun, hdata, if_true, Option.bind_some]
      refine ⟨h', _, rfl, rfl, hbuf, ?_⟩
      rw [hhanded, hrxCb.handed, List.append_assoc]
    | false =>
      obtain ⟨second, h', events, hsecond, hrun, hotherCb, hother⟩ :=
        receiveOther_passive (h := first) rx hpassive
      have hboth := hrxCb.trans hotherCb
      simp only [hrxCb.radio, hrxCb.memory] at hother
      simp only [hsecond, hrun, hother, Bool.false_eq_true, if_false, Option.bind_some]
      exact ⟨h', _, rfl, congrArg some (Prod.ext hboth.radio.symm rfl),
        congrArg Memory.buf hboth.memory, hboth.handed⟩
  · exact ⟨first, _, rfl, congrArg some (Prod.ext hrxCb.radio.symm rfl),
      congrArg Memory.buf hrxCb.memory, hrxCb.handed⟩

/-! ## The byte stream -/

/-- A frame that is the driver's own, or too short for a received frame, invokes no callback. -/
theorem receiveFrame_own {radio : CC2530Radio} {cmd : UInt8}
    (hcmd : radio.buf[0]? = some cmd) (hown : ¬ (cmd = rspRxFrame ∧ radio.len ≥ 3))
    (hbuf : radio.buf.length = radio.len.toNat) :
    ∃ radio', radio.receiveFrame ecb = some (radio', []) := by
  simp only [CC2530Radio.receiveFrame, read8_eq, hcmd, Option.bind_eq_bind, Option.bind_some]
  split
  · next hrx =>
    rw [if_neg fun hlen => hown ⟨hrx, hlen⟩]
    exact ⟨radio, rfl⟩
  split
  · next hreset =>
    have hthree : 3 ≤ radio.buf.length := hbuf ▸ UInt8.le_iff_toNat_le.mp hreset.2
    obtain ⟨hi, h1⟩ := getElem?_isSome (by omega : 1 < radio.buf.length)
    obtain ⟨lo, h2⟩ := getElem?_isSome (by omega : 2 < radio.buf.length)
    simp only [h1, h2, Option.bind_some]
    exact ⟨_, rfl⟩
  · exact ⟨_, rfl⟩

theorem receiveFrame_passive (hpassive : Passive handler) (hlen : 0 < h.radio.len.toNat)
    (hbuf : h.radio.buf.length = h.radio.len.toNat)
    (hkept : h.memory.psdu (h.radio.len.toNat - 3) = h.radio.buf.drop 3) :
    ∃ h' events, receiveFrame ecb handler h = some h' ∧
      h.radio.receiveFrame ecb = some (h'.radio, events) ∧ h'.memory.buf = h.memory.buf ∧
      h'.handed.map (fun r => r.event) = h.handed.map (fun r => r.event) ++ events := by
  obtain ⟨cmd, h0⟩ := getElem?_isSome (by omega : 0 < h.radio.buf.length)
  by_cases hrx : cmd = rspRxFrame ∧ h.radio.len ≥ 3
  · have hthree : 3 ≤ h.radio.buf.length := hbuf ▸ UInt8.le_iff_toNat_le.mp hrx.2
    obtain ⟨rssi, h1⟩ := getElem?_isSome (by omega : 1 < h.radio.buf.length)
    obtain ⟨lqi, h2⟩ := getElem?_isSome (by omega : 2 < h.radio.buf.length)
    simp only [receiveFrame, CC2530Radio.receiveFrame, read8_eq, h0, h1, h2, if_pos hrx,
      if_pos hrx.1, if_pos hrx.2, Option.bind_eq_bind, Option.bind_some, ← hkept]
    exact receivePsdu_passive (h := h) ecb
      ⟨h.reads, h.memory.psdu (h.radio.len.toNat - 3), h.radio.len.toNat - 3, _, _⟩ hpassive
  · obtain ⟨radio, hradio⟩ := receiveFrame_own ecb h0 hrx hbuf
    simp only [receiveFrame, read8_eq, h0, if_neg hrx, hradio, Option.bind_eq_bind,
      Option.bind_some]
    exact ⟨_, [], rfl, rfl, rfl, by simp⟩

/-- One byte takes the driver where `CC2530Radio.feed` takes it. -/
theorem feed_passive (hpassive : Passive handler) (hgathered : h.Gathered) (b : UInt8) :
    ∃ h' events, feed ecb handler b h = some h' ∧ h.radio.feed ecb b = some (h'.radio, events) ∧
      h'.Gathered ∧
      h'.handed.map (fun r => r.event) = h.handed.map (fun r => r.event) ++ events := by
  by_cases hstate : h.radio.state = .fcs
  · have hkept := hgathered.psdu hstate
    have hcomplete := hgathered.framed
    simp only [Framed, hstate] at hcomplete
    simp only [feed, CC2530Radio.feed, hstate]
    split
    · exact ⟨_, [], rfl, rfl, ⟨hgathered.size, trivial, by simp⟩, by simp⟩
    · obtain ⟨radio, events, hradio, hsof, -⟩ := CC2530Radio.receiveFrame_gated ecb
        (r := { h.radio with state := .sof }) hcomplete.1 hcomplete.2
      obtain ⟨h', events', hrun, hframe, hbuf, hhanded⟩ := receiveFrame_passive ecb
        (h := { h with radio := { h.radio with state := .sof }, reads := h.reads + 1 })
        hpassive hcomplete.1 hcomplete.2 hkept
      have hsame : h'.radio = radio := by
        have := hframe.symm.trans hradio
        simp only [Option.some.injEq, Prod.mk.injEq] at this
        exact this.1
      have hstate' : h'.radio.state = .sof := hsame ▸ hsof
      refine ⟨h', events', hrun, hframe, ⟨?_, ?_, ?_⟩, hhanded⟩
      · rw [hbuf]
        exact hgathered.size
      · simp [Framed, hstate']
      · simp [hstate']
  · obtain ⟨radio, buf, hrun, hradio, hgathered'⟩ :=
      feed_parses ecb handler hgathered hstate b
    exact ⟨_, [], hrun, hradio, hgathered', by simp⟩

/-- And so does a byte stream. -/
theorem run_passive (hpassive : Passive handler) (hgathered : h.Gathered) (bytes : List UInt8) :
    ∃ h' events, run ecb handler h bytes = some h' ∧
      Transducer.run (CC2530Radio.feed ecb) h.radio bytes = some (h'.radio, events) ∧
      h'.handed.map (fun r => r.event) = h.handed.map (fun r => r.event) ++ events := by
  induction bytes generalizing h with
  | nil => exact ⟨h, [], rfl, rfl, by simp⟩
  | cons b bytes ih =>
    obtain ⟨first, out, hfirst, hfeed, hgathered, hout⟩ :=
      feed_passive ecb hpassive hgathered b
    obtain ⟨h', events, hrun, hrest, hhanded⟩ := ih hgathered
    refine ⟨h', out ++ events, ?_, Transducer.run_cons hfeed hrest, ?_⟩
    · simp only [run, List.foldlM_cons, Option.bind_eq_bind, hfirst, Option.bind_some]
      exact hrun
    · rw [hhanded, hout, List.append_assoc]

end Host

end NiusZigbee
