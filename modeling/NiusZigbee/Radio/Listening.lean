import NiusZigbee.Radio.PowerCycles

/-!
# A neighbour that listens through power cycles

Whatever part of a node's secured frames reaches a neighbour with the network key, in whatever
order and however often, a frame is handed up exactly when its counter lies above those of all
frames heard before it. With counters that never repeat, frames heard in order are all handed up,
and none a second time.
-/

namespace NiusZigbee.PowerCycles

open ByteCodec OutBuffer ZigbeeMac ZigbeeSecurity CC2530Radio

/-! ## One frame -/

/-- The NWK layer and those above it are told of `npdu`, and of nothing else. -/
def Carries (npdu : List UInt8) (events : List Event) : Prop :=
  (∃ e ∈ events, ∃ mac, e.npdu = some (mac, npdu)) ∧
    ∀ e ∈ events, ∀ mac other, e.npdu = some (mac, other) → other = npdu

def Silent (events : List Event) : Prop := ∀ e ∈ events, e.npdu = none

section Frame

variable {ecb : BlockCipher} {rx rx' : CC2530Radio} {npdu out : List UInt8}

/-- A neighbour with NWK data and NWK command callbacks. -/
def Listens (rx : CC2530Radio) : Prop :=
  rx.callbacks.nwk = true ∧ rx.callbacks.nwkCommand = true

theorem dispatchNwk_nonempty (h : rx.callbacks.nwk = true) {frame : ZigbeeNwk.NwkDataFrame}
    (hparse : ZigbeeNwk.parseDataFrame npdu = some (true, frame)) (mac : Parsed MacDataFrame)
    (rssi : Int8) (lqi : UInt8) : rx.dispatchNwk mac rssi lqi npdu ≠ some [] := by
  simp only [dispatchNwk, h, Bool.true_or, if_true, hparse, Option.bind_eq_bind, Option.bind_some]
  split
  · cases rx.dispatchAck mac rssi lqi ⟨npdu, frame⟩ with
    | none => simp
    | some acks => cases rx.dispatchAps mac rssi lqi ⟨npdu, frame⟩ <;> simp
  · simp

theorem dispatchNwkCommand_nonempty (h : rx.callbacks.nwkCommand = true)
    {frame : ZigbeeNwk.NwkCommandFrame}
    (hparse : ZigbeeNwk.parseCommandFrame npdu = some (true, frame)) (mac : Parsed MacDataFrame)
    (rssi : Int8) (lqi : UInt8) : rx.dispatchNwkCommand mac rssi lqi npdu ≠ some [] := by
  simp [dispatchNwkCommand, h, hparse]

theorem receiveData_opened (hlisten : Listens rx) (h : Unprotected npdu)
    (mac : Parsed MacDataFrame)
    (hopen : rx.openReceived ecb (mac.frame.payloadBytes mac.bytes) = (rx', some npdu))
    (hkeeps : rx'.callbacks = rx.callbacks) (rssi : Int8) (lqi : UInt8) :
    ∃ events, rx.receiveData ecb mac rssi lqi = some (rx', events) ∧ Carries npdu events := by
  obtain ⟨nwk, hnwk, hnwkAbout, -⟩ := rx'.dispatchNwk_about mac rssi lqi npdu
  obtain ⟨command, hcommand, hcommandAbout, -⟩ := rx'.dispatchNwkCommand_about mac rssi lqi npdu
  have hdata : ∀ e ∈ (if rx.callbacks.data then [Event.data mac rssi lqi] else []),
      e.npdu = none := by
    split <;> simp [Event.npdu]
  simp only [receiveData, hopen, hnwk, hcommand, Option.bind_eq_bind, Option.bind_some]
  refine ⟨_, rfl, ?_, ?_⟩
  · rcases h.parses with ⟨frame, hparse⟩ | ⟨frame, hparse⟩
    · obtain ⟨e, he⟩ : ∃ e, e ∈ nwk := by
        apply List.exists_mem_of_ne_nil
        intro hempty
        exact dispatchNwk_nonempty (hkeeps ▸ hlisten.1) hparse mac rssi lqi (hempty ▸ hnwk)
      exact ⟨e, List.mem_append_left _ (List.mem_append_right _ he), mac, hnwkAbout e he⟩
    · obtain ⟨e, he⟩ : ∃ e, e ∈ command := by
        apply List.exists_mem_of_ne_nil
        intro hempty
        exact dispatchNwkCommand_nonempty (hkeeps ▸ hlisten.2) hparse mac rssi lqi
          (hempty ▸ hcommand)
      exact ⟨e, List.mem_append_right _ he, mac, hcommandAbout e he⟩
  · intro e he m other hother
    rcases List.mem_append.mp he with he | he
    · rcases List.mem_append.mp he with he | he
      · rw [hdata e he] at hother
        cases hother
      · have habout := hnwkAbout e he
        rw [hother, Option.some.injEq, Prod.mk.injEq] at habout
        exact habout.2
    · have habout := hcommandAbout e he
      rw [hother, Option.some.injEq, Prod.mk.injEq] at habout
      exact habout.2

theorem receiveData_dropped (mac : Parsed MacDataFrame)
    (hopen : rx.openReceived ecb (mac.frame.payloadBytes mac.bytes) = (rx', none))
    (rssi : Int8) (lqi : UInt8) :
    ∃ events, rx.receiveData ecb mac rssi lqi = some (rx', events) ∧ Silent events := by
  simp only [receiveData, hopen]
  refine ⟨_, rfl, ?_⟩
  intro e he
  split at he
  · rw [List.mem_singleton.mp he]
    rfl
  · cases he

/-- What a listener does with a MAC data frame is what NWK security says. -/
theorem receivePsdu_data (hlisten : Listens rx) {panId dst src : UInt16} {sequence : UInt8}
    {ackRequest : Bool} {psdu : List UInt8} (hlen : out.length ≤ kMaxPsdu - 9)
    (hpsdu : psdu = shortDataBytes panId dst src sequence ackRequest out) (rssi : Int8)
    (lqi : UInt8) :
    (∀ npdu, Unprotected npdu → rx.openReceived ecb out = (rx', some npdu) →
      rx'.callbacks = rx.callbacks →
      ∃ events, rx.receivePsdu ecb rssi lqi psdu = some (rx', events) ∧ Carries npdu events) ∧
    (rx.openReceived ecb out = (rx', none) →
      ∃ events, rx.receivePsdu ecb rssi lqi psdu = some (rx', events) ∧ Silent events) := by
  obtain ⟨frame, hparse, hpayload⟩ : ∃ frame, parseShortDataFrame psdu = some (true, frame) ∧
      frame.payloadBytes psdu = out := by
    rw [hpsdu]
    exact ⟨_, parseShortDataFrame_bytes panId dst src sequence ackRequest hlen,
      payloadBytes_shortData panId dst src sequence ackRequest out⟩
  have hrx : ∀ e ∈ (if rx.callbacks.rx then [Event.rx psdu rssi lqi] else []), e.npdu = none := by
    split <;> simp [Event.npdu]
  simp only [receivePsdu, hlisten.1, Bool.or_true, Bool.true_or, if_true, hparse,
    Option.bind_eq_bind, Option.bind_some]
  constructor
  · intro npdu hunprotected hopen hkeeps
    obtain ⟨events, hevents, ⟨e, he, hcarries⟩, honly⟩ :=
      receiveData_opened hlisten hunprotected ⟨_, frame⟩ (hpayload.symm ▸ hopen) hkeeps rssi lqi
    rw [hevents]
    refine ⟨_, rfl, ⟨e, List.mem_append_right _ he, hcarries⟩, ?_⟩
    intro e he mac other hother
    rcases List.mem_append.mp he with he | he
    · rw [hrx e he] at hother
      cases hother
    · exact honly e he mac other hother
  · intro hopen
    obtain ⟨events, hevents, hsilent⟩ :=
      receiveData_dropped ⟨_, frame⟩ (hpayload.symm ▸ hopen) rssi lqi
    rw [hevents]
    refine ⟨_, rfl, ?_⟩
    intro e he
    rcases List.mem_append.mp he with he | he
    · exact hrx e he
    · exact hsilent e he

end Frame

/-! ## What the node puts on the air -/

variable {board : Board} {ecb : BlockCipher}

/-- A PSDU that came of a counter holds the NPDU secured under it, by the key the sketch has. -/
def OnAir (board : Board) (ecb : BlockCipher) (d : Drawn) : Prop :=
  ∀ psdu, d.psdu = some psdu → Unprotected d.npdu ∧
    Fits d.npdu (nwkHeaderLength d.npdu).toNat kSecuredMax ∧
    ∃ panId dst src sequence ackRequest,
      (securedBytes ecb board.networkKey 0 d.npdu (nwkHeaderLength d.npdu).toNat board.thisIeee
        d.counter).length ≤ kMaxPsdu - 9 ∧
      psdu = shortDataBytes panId dst src sequence ackRequest
        (securedBytes ecb board.networkKey 0 d.npdu (nwkHeaderLength d.npdu).toNat board.thisIeee
          d.counter)

/-- The key stays the built-in one, and relay lists fit their one-byte length. -/
def KeyKept (_ : Trace) : Op → Prop
  | .transmit call => call.RelaysFit
  | .installKey _ _ => False
  | _ => True

/-- The radio secures under the built-in key, and so has every frame been. -/
structure Sealed (board : Board) (ecb : BlockCipher) (t : Trace) : Prop where
  ieee : t.node.radio.securityIeee = board.thisIeee
  key : ∃ s, t.node.radio.security = some s ∧ s.hasKey = true ∧ s.key = board.networkKey ∧
    s.keySequence = 0
  onAir : ∀ d ∈ t.drawn, OnAir board ecb d

variable {t : Trace}

theorem setup_sealed (hkeyed : (board.secureJoin && !board.isCoordinator) = false)
    (eeprom : List UInt8) (nowMs : UInt32) :
    (setup board eeprom nowMs).radio.securityIeee = board.thisIeee ∧
    (setup board eeprom nowMs).radio.security = some (startSecurity board) ∧
    startSecurity board = ZigbeeSecurity.init.setNetworkKey board.networkKey 0 := by
  refine ⟨?_, ?_, by rw [startSecurity, hkeyed]; rfl⟩
  · simp only [setup]
    split
    · rfl
    · split <;> rfl
  · simp only [setup]
    split
    · rfl
    · split <;> rfl

theorem openReceived_held (ecb : BlockCipher) {r : CC2530Radio} {s : ZigbeeSecurity}
    (hsec : r.security = some s) (received : List UInt8) :
    ∃ replay stats, (r.openReceived ecb received).1 =
      { r with security := some { s with replay := replay, stats := stats } } := by
  simp only [openReceived, hsec]
  split
  · obtain ⟨replay, stats, hkeeps⟩ : ∃ replay stats, (s.openNpdu ecb received
      (nwkHeaderLength received).toNat kSecuredScratch).1 =
      { s with replay := replay, stats := stats } := openNpdu_keeps _ _ _
    refine ⟨replay, stats, ?_⟩
    rw [← hkeeps]
    split
    · next hopen => rw [hopen]
    · next hopen => rw [hopen]
  · exact ⟨s.replay, s.stats, by rw [← hsec]⟩

theorem receivePsdu_held {r r' : CC2530Radio} {s : ZigbeeSecurity} (hsec : r.security = some s)
    {rssi : Int8} {lqi : UInt8} {psdu : List UInt8} {events : List Event}
    (h : r.receivePsdu ecb rssi lqi psdu = some (r', events)) :
    ∃ replay stats,
      r' = { r with security := some { s with replay := replay, stats := stats } } := by
  have hsame : ∃ replay stats, r =
      { r with security := some { s with replay := replay, stats := stats } } :=
    ⟨s.replay, s.stats, by rw [← hsec]⟩
  have hdata (mac : Parsed MacDataFrame) {r'' : CC2530Radio} {events : List Event}
      (h : r.receiveData ecb mac rssi lqi = some (r'', events)) :
      ∃ replay stats, r'' =
        { r with security := some { s with replay := replay, stats := stats } } := by
    obtain ⟨replay, stats, hheld⟩ := openReceived_held ecb hsec
      (mac.frame.payloadBytes mac.bytes)
    simp only [receiveData] at h
    split at h
    · next r1 hopen =>
      simp only [Option.pure_def, Option.some.injEq, Prod.mk.injEq] at h
      exact ⟨replay, stats, by rw [← h.1, ← hheld, hopen]⟩
    · next r1 npdu hopen =>
      simp only [Option.bind_eq_bind, Option.bind_eq_some_iff, Option.pure_def, Option.some.injEq,
        Prod.mk.injEq] at h
      obtain ⟨_, -, _, -, rfl, -⟩ := h
      exact ⟨replay, stats, by rw [← hheld, hopen]⟩
  simp only [receivePsdu] at h
  split at h
  · simp only [Option.bind_eq_bind, Option.bind_eq_some_iff] at h
    obtain ⟨⟨ok, frame⟩, -, h⟩ := h
    split at h
    · simp only [Option.bind_eq_some_iff, Option.pure_def, Option.some.injEq,
        Prod.mk.injEq] at h
      obtain ⟨⟨r1, events1⟩, hreceive, rfl, -⟩ := h
      exact hdata _ hreceive
    · simp only [Option.bind_eq_some_iff, Option.pure_def, Option.some.injEq,
        Prod.mk.injEq] at h
      obtain ⟨_, -, rfl, -⟩ := h
      exact hsame
  · simp only [Option.pure_def, Option.some.injEq, Prod.mk.injEq] at h
    exact h.1 ▸ hsame

theorem Sealed.first (hkeyed : (board.secureJoin && !board.isCoordinator) = false)
    (eeprom : List UInt8) (nowMs : UInt32) : Sealed board ecb (first board eeprom nowMs) := by
  obtain ⟨hieee, hsec, hstart⟩ := setup_sealed hkeyed eeprom nowMs
  exact ⟨hieee, ⟨_, hsec.trans (congrArg some hstart), rfl, rfl, rfl⟩, by simp [PowerCycles.first]⟩

theorem Sealed.transmit (h : Sealed board ecb t) {call : TxCall} (hrelays : call.RelaysFit) :
    Sealed board ecb (step board ecb t (.transmit call)) := by
  obtain ⟨hieee, ⟨s, hsec, hkey, hsame, hsequence⟩, hair⟩ := h
  simp only [step]
  split
  · next hnone =>
    obtain ⟨_, _, _, _, hradio⟩ : Sequences t.node.radio (call.run ecb t.node.radio).1 :=
      call.run_unsecuring hnone
    exact ⟨by rw [hradio]; exact hieee, ⟨s, by rw [hradio]; exact hsec, hkey, hsame, hsequence⟩,
      hair⟩
  · next npdu hsome =>
    obtain ⟨-, hunprotected, s', hsec', -, ⟨stats, _, _, _, _, hradio⟩, hpsdu⟩ :=
      TxCall.run_securing ecb hsome
    obtain rfl : s = s' := Option.some.inj (hsec.symm.trans hsec')
    refine ⟨by rw [hradio]; exact hieee,
      ⟨{ s with stats := stats }, by rw [hradio], hkey, hsame, hsequence⟩, ?_⟩
    intro d hd
    rcases List.mem_append.mp hd with hold | hnew
    · exact hair d hold
    · rw [List.mem_singleton.mp hnew]
      intro psdu hout
      obtain ⟨hfits, panId, dst, src, sequence, ackRequest, hlen, hbytes⟩ := hpsdu psdu hout
      have hcounter : (call.run ecb t.node.radio).1.securityCounter =
          t.node.radio.securityCounter + 1 := by rw [hradio]
      rw [hsame, hsequence, hieee, ← hcounter] at hlen hbytes
      exact ⟨hunprotected hrelays, hfits, panId, dst, src, sequence, ackRequest, hlen, hbytes⟩

theorem Sealed.step (hkeyed : (board.secureJoin && !board.isCoordinator) = false)
    (h : Sealed board ecb t) (op : Op) (hop : KeyKept t op) :
    Sealed board ecb (step board ecb t op) := by
  obtain ⟨hieee, ⟨s, hsec, hkey, hsame, hsequence⟩, hair⟩ := id h
  cases op with
  | transmit call => exact h.transmit hop
  | receive rssi lqi psdu =>
    obtain ⟨r', events, hevents, -, -⟩ :=
      receivePsdu_gated (r := t.node.radio) ecb rssi lqi psdu
    obtain ⟨replay, stats, hr'⟩ := receivePsdu_held hsec hevents
    simp only [PowerCycles.step, hevents]
    exact ⟨by rw [hr']; exact hieee,
      ⟨{ s with replay := replay, stats := stats }, by rw [hr']; rfl, hkey, hsame, hsequence⟩, hair⟩
  | installKey key keySequence => exact hop.elim
  | network op => exact ⟨hieee, ⟨s, hsec, hkey, hsame, hsequence⟩, hair⟩
  | save =>
    simp only [PowerCycles.step]
    split
    · rw [saveState_eq]
      exact ⟨hieee, ⟨s, hsec, hkey, hsame, hsequence⟩, hair⟩
    · exact h
  | powerCycle nowMs =>
    obtain ⟨hieee', hsec', hstart⟩ := setup_sealed hkeyed t.node.eeprom nowMs
    exact ⟨hieee', ⟨_, hsec'.trans (congrArg some hstart), rfl, rfl, rfl⟩, hair⟩

/-! ## What the neighbour hears -/

/-- PSDUs received one after the other, each with the events it leads to. -/
def listen (ecb : BlockCipher) (rssi : Int8) (lqi : UInt8) (rx : CC2530Radio) :
    List (List UInt8) → Option (CC2530Radio × List (List Event))
  | [] => some (rx, [])
  | psdu :: rest => do
    let (rx, events) ← rx.receivePsdu ecb rssi lqi psdu
    let (rx, more) ← listen ecb rssi lqi rx rest
    return (rx, events :: more)

/-- A listening neighbour with the node's key, which may have heard from other peers in `S`. -/
structure Neighbour (board : Board) (S : Finset ReplayKey) (rx : CC2530Radio)
    (t : ZigbeeSecurity) : Prop where
  listens : Listens rx
  filters : rx.promiscuous = false
  security : rx.security = some t
  hasKey : t.hasKey = true
  selects : t.selectKey 0 = some board.networkKey
  within : t.replay.Within S
  room : S.card ≤ kMaxReplayPeers
  known : (board.thisIeee, 0) ∈ S

variable {S : Finset ReplayKey} {rx : CC2530Radio} {s : ZigbeeSecurity}

/-- One frame: handed up and marked when fresh, dropped without a trace when not. -/
theorem Neighbour.hear (h : Neighbour board S rx s) {d : Drawn} {psdu : List UInt8}
    (rssi : Int8) (lqi : UInt8) (hair : OnAir board ecb d) (hpsdu : d.psdu = some psdu) :
    ∃ rx' s' events, rx.receivePsdu ecb rssi lqi psdu = some (rx', events) ∧
      Neighbour board S rx' s' ∧
      ((HighWater.Fresh s.replay.mark (board.thisIeee, 0) d.counter.toNat ∧ Carries d.npdu events ∧
          s'.replay.mark = HighWater.raise s.replay.mark (board.thisIeee, 0) d.counter.toNat) ∨
        (¬ HighWater.Fresh s.replay.mark (board.thisIeee, 0) d.counter.toNat ∧ Silent events ∧
          s'.replay.mark = s.replay.mark)) := by
  obtain ⟨hunprotected, hfits, panId, dst, src, sequence, ackRequest, hlen, hbytes⟩ :=
    hair psdu hpsdu
  have hsel : s.selectKey (ZigbeeSecurity.init.setNetworkKey board.networkKey 0).keySequence =
      some (ZigbeeSecurity.init.setNetworkKey board.networkKey 0).key := h.selects
  rcases openReceived_unprotected ecb board.thisIeee d.counter hunprotected hfits h.security
    h.hasKey hsel h.filters with ⟨hfresh, stats, hopen⟩ | ⟨hstale, stats, hopen⟩
  · obtain ⟨events, hevents, hcarries⟩ :=
      (receivePsdu_data h.listens hlen hbytes rssi lqi).1 d.npdu hunprotected hopen rfl
    obtain ⟨hwithin, hmark⟩ := h.within.store h.room h.known d.counter
    exact ⟨_, _, events, hevents,
      ⟨h.listens, h.filters, rfl, h.hasKey, h.selects, hwithin, h.room, h.known⟩,
      Or.inl ⟨hfresh, hcarries, hmark⟩⟩
  · obtain ⟨events, hevents, hsilent⟩ :=
      (receivePsdu_data h.listens hlen hbytes rssi lqi).2 hopen
    exact ⟨_, _, events, hevents,
      ⟨h.listens, h.filters, rfl, h.hasKey, h.selects, h.within, h.room, h.known⟩,
      Or.inr ⟨hstale, hsilent, rfl⟩⟩

/-- Over a sequence of frames: handed up are those above the mark and above all heard before. -/
theorem Neighbour.listen (h : Neighbour board S rx s) {heard : List (Drawn × List UInt8)}
    (rssi : Int8) (lqi : UInt8)
    (hair : ∀ p ∈ heard, OnAir board ecb p.1 ∧ p.1.psdu = some p.2) :
    ∃ rx' answers, listen ecb rssi lqi rx (heard.map (·.2)) = some (rx', answers) ∧
      answers.length = heard.length ∧
      ∀ i p events, heard[i]? = some p → answers[i]? = some events →
        (HighWater.Fresh s.replay.mark (board.thisIeee, 0) p.1.counter.toNat ∧
            (∀ q ∈ heard.take i, q.1.counter < p.1.counter) → Carries p.1.npdu events) ∧
        (¬ (HighWater.Fresh s.replay.mark (board.thisIeee, 0) p.1.counter.toNat ∧
            ∀ q ∈ heard.take i, q.1.counter < p.1.counter) → Silent events) := by
  induction heard generalizing rx s with
  | nil => exact ⟨rx, [], rfl, rfl, by simp⟩
  | cons head rest ih =>
    obtain ⟨hhead, hpsdu⟩ := hair head List.mem_cons_self
    obtain ⟨rx1, s1, events1, hevents1, hnext, hcase⟩ :=
      h.hear rssi lqi hhead hpsdu
    obtain ⟨rx2, answers, hlisten, hlen, hrest⟩ :=
      ih hnext fun p hp => hair p (List.mem_cons_of_mem _ hp)
    refine ⟨rx2, events1 :: answers, ?_, by simp [hlen], ?_⟩
    · simp [PowerCycles.listen, hevents1, hlisten]
    · intro i p events hp hev
      cases i with
      | zero =>
        simp only [List.getElem?_cons_zero, Option.some.injEq] at hp hev
        subst hp hev
        simp only [List.take_zero, List.not_mem_nil, false_implies, implies_true, and_true]
        rcases hcase with ⟨hfresh, hcarries, -⟩ | ⟨hstale, hsilent, -⟩
        · exact ⟨fun _ => hcarries, fun hnot => absurd hfresh hnot⟩
        · exact ⟨fun hfresh => absurd hfresh hstale, fun _ => hsilent⟩
      | succ i =>
        simp only [List.getElem?_cons_succ] at hp hev
        have htail := hrest i p events hp hev
        rw [List.take_succ_cons]
        -- above the new mark is above the old one and above the head
        have hiff : HighWater.Fresh s1.replay.mark (board.thisIeee, 0) p.1.counter.toNat ↔
            HighWater.Fresh s.replay.mark (board.thisIeee, 0) p.1.counter.toNat ∧
              head.1.counter < p.1.counter := by
          rw [UInt32.lt_iff_toNat_lt]
          rcases hcase with ⟨hfresh, -, hmark⟩ | ⟨hstale, -, hmark⟩
          · rw [hmark, HighWater.fresh_raise_self]
            exact ⟨fun hlt => ⟨fun v hv => lt_trans (hfresh v hv) hlt, hlt⟩, fun h => h.2⟩
          · rw [hmark]
            refine ⟨fun hfresh => ⟨hfresh, ?_⟩, fun h => h.1⟩
            simp only [HighWater.Fresh, not_forall, not_lt] at hstale
            obtain ⟨v, hv, hle⟩ := hstale
            exact lt_of_le_of_lt hle (hfresh v hv)
        rw [hiff] at htail
        simpa only [List.forall_mem_cons, and_assoc] using htail

/-- A neighbour hears frames of a node, any number of times and in any order, which the node sent in
whatever lives it had: a frame is handed up with the NPDU the node built when its counter lies above
those heard before, and dropped when not. Heard in the order they were sent, all are handed up. -/
theorem heard_across_power_cycles
    (hkeyed : (board.secureJoin && !board.isCoordinator) = false) {eeprom : List UInt8}
    {nowMs : UInt32} {ops : List Op}
    (hrun : Runs.Along (step board ecb) (fun t op => Kept t op ∧ KeyKept t op)
      (first board eeprom nowMs) ops)
    (h : Neighbour board S rx s) (hnew : s.replay.mark (board.thisIeee, 0) = none)
    {heard : List (Drawn × List UInt8)}
    (hheard : ∀ p ∈ heard,
      p.1 ∈ (ops.foldl (step board ecb) (first board eeprom nowMs)).drawn ∧ p.1.psdu = some p.2)
    (rssi : Int8) (lqi : UInt8) :
    ∃ rx' answers, listen ecb rssi lqi rx (heard.map (·.2)) = some (rx', answers) ∧
      answers.length = heard.length ∧
      (∀ (i : Nat) (p : Drawn × List UInt8) (events : List Event), heard[i]? = some p →
        answers[i]? = some events →
        ((∀ q ∈ heard.take i, q.1.counter < p.1.counter) → Carries p.1.npdu events) ∧
        (¬ (∀ q ∈ heard.take i, q.1.counter < p.1.counter) → Silent events)) ∧
      ((heard.map (·.1)).Sublist (ops.foldl (step board ecb) (first board eeprom nowMs)).drawn →
        ∀ (i : Nat) (p : Drawn × List UInt8) (events : List Event), heard[i]? = some p →
          answers[i]? = some events → Carries p.1.npdu events) := by
  have hinv : Inv board (ops.foldl (step board ecb) (first board eeprom nowMs)) :=
    hrun.invariant (I := Inv board) (fun _ op h hop => h.step op hop.1) (Inv.first eeprom nowMs)
  have hsealed : Sealed board ecb (ops.foldl (step board ecb) (first board eeprom nowMs)) :=
    hrun.invariant (I := Sealed board ecb) (fun _ op h hop => h.step hkeyed op hop.2)
      (Sealed.first hkeyed eeprom nowMs)
  have hfresh (c : Nat) : HighWater.Fresh s.replay.mark (board.thisIeee, 0) c := by
    intro v hv
    rw [hnew] at hv
    cases hv
  have hair : ∀ p ∈ heard, OnAir board ecb p.1 ∧ p.1.psdu = some p.2 :=
    fun p hp => ⟨hsealed.onAir _ (hheard p hp).1, (hheard p hp).2⟩
  obtain ⟨rx', answers, hlisten, hlen, hanswers⟩ := h.listen rssi lqi hair
  refine ⟨rx', answers, hlisten, hlen, ?_, ?_⟩
  · intro i p events hp hev
    obtain ⟨hcarries, hsilent⟩ := hanswers i p events hp hev
    exact ⟨fun habove => hcarries ⟨hfresh _, habove⟩, fun hnot => hsilent fun h => hnot h.2⟩
  · intro horder i p events hp hev
    refine (hanswers i p events hp hev).1 ⟨hfresh _, ?_⟩
    have hpairs := hinv.order.sublist horder
    rw [List.pairwise_map] at hpairs
    intro q hq
    obtain ⟨j, hj, rfl⟩ := List.mem_take_iff_getElem.mp hq
    obtain ⟨hi, rfl⟩ := List.getElem?_eq_some_iff.mp hp
    exact List.pairwise_iff_getElem.mp hpairs j i (by omega) hi (by omega)

private def sensor : Board where
  thisIeee := 0x1A62195E00000003
  isCoordinator := false
  secureJoin := false
  panId := 0x1A62
  extPanId := 0x1A62195E00000000
  coordChannel := 15
  poolFirst := 0x31
  poolLast := 0x3F
  networkKey := Block.ofList [0x1A, 0x62]

private def reading : TxCall :=
  .nwk ⟨0x1A62, 1, 0x31, 0, 0x31⟩ false (.data [0xAA] 30)

private def sensorLife : List Op :=
  [.network (.beginJoinedDevice zbDeviceEndDevice 0x1A62 0x1A62195E00000000 15 0x31 1 2 0), .save,
    .transmit reading, .powerCycle 0, .transmit reading]

private def parentNode : CC2530Radio where
  callbacks := { nwk := true, nwkCommand := true }
  security := some (ZigbeeSecurity.init.setNetworkKey sensor.networkKey 0)

private theorem parentNode_neighbour : Neighbour sensor {(0x1A62195E00000003, 0)} parentNode
    (ZigbeeSecurity.init.setNetworkKey sensor.networkKey 0) where
  listens := ⟨rfl, rfl⟩
  filters := rfl
  security := rfl
  hasKey := rfl
  selects := rfl
  within := ReplayTable.reset_within _
  room := by decide
  known := Finset.mem_singleton_self _

/-- A sensor reports before and after a power cycle; its parent hears both reports. -/
theorem heard_across_power_cycles_sensor :
    let sent := (sensorLife.foldl (step sensor Aes128.encrypt) (first sensor [] 0)).drawn
    ∃ d e p q, d.psdu = some p ∧ e.psdu = some q ∧ [d, e].Sublist sent ∧
      ∃ rx' answers, listen Aes128.encrypt 0 0 parentNode [p, q] = some (rx', answers) ∧
        answers.length = 2 ∧
        (∀ (i : Nat) (r : Drawn × List UInt8) (events : List Event),
          [(d, p), (e, q)][i]? = some r → answers[i]? = some events →
          ((∀ prev ∈ [(d, p), (e, q)].take i, prev.1.counter < r.1.counter) →
            Carries r.1.npdu events) ∧
          (¬ (∀ prev ∈ [(d, p), (e, q)].take i, prev.1.counter < r.1.counter) →
            Silent events)) ∧
        ([d, e].Sublist sent → ∀ (i : Nat) (r : Drawn × List UInt8) (events : List Event),
          [(d, p), (e, q)][i]? = some r → answers[i]? = some events →
          Carries r.1.npdu events) := by
  intro sent
  have hrun : Runs.Along (step sensor Aes128.encrypt) (fun t op => Kept t op ∧ KeyKept t op)
      (first sensor [] 0) sensorLife :=
    ⟨⟨trivial, trivial⟩, ⟨by unfold Kept; decide, trivial⟩, ⟨by unfold Kept; decide, trivial⟩,
      ⟨Or.inr ⟨1, rfl, by decide⟩, trivial⟩, ⟨by unfold Kept; decide +kernel, trivial⟩, trivial⟩
  have hair : sent.all (fun d => d.psdu.isSome) = true := by decide +kernel
  have hlen : sent.length = 2 := by decide +kernel
  obtain ⟨d, e, hall⟩ := List.length_eq_two.mp hlen
  rw [hall, List.all_cons, List.all_cons, List.all_nil, Bool.and_true, Bool.and_eq_true] at hair
  obtain ⟨p, hp⟩ := Option.isSome_iff_exists.mp hair.1
  obtain ⟨q, hq⟩ := Option.isSome_iff_exists.mp hair.2
  have hheard : ∀ r ∈ [(d, p), (e, q)], r.1 ∈ sent ∧ r.1.psdu = some r.2 := by
    rw [hall]
    simp only [List.mem_cons, List.not_mem_nil, or_false, forall_eq_or_imp, forall_eq]
    exact ⟨⟨Or.inl trivial, hp⟩, Or.inr trivial, hq⟩
  refine ⟨d, e, p, q, hp, hq, hall ▸ List.Sublist.refl _, ?_⟩
  exact heard_across_power_cycles rfl hrun parentNode_neighbour rfl hheard 0 0

end NiusZigbee.PowerCycles
