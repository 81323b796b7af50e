import NiusZigbee.Aps.SecureJoin
import NiusZigbee.Library.Runs
import NiusZigbee.Security.PeerReset

/-!
# One network key for the whole network

A Trust Center and the devices that join through it, in any order of steps: associations, transports
lost, repeated or heard late, traffic before and after. As long as nobody else sends a command that
opens under the key-transport key, whoever has a key has the Trust Center's, and any two that have
it read each other's frames.
-/

namespace NiusZigbee.SecureJoin

open ByteCodec OutBuffer ZigbeeMac CC2530Radio ZigbeeApsKey PowerCycles

/-! ## Radios with a given key -/

section Holding

variable {ecb : BlockCipher} {gKtk : Block} {s : ZigbeeSecurity} {r r' rx tx : CC2530Radio}

/-- The radio's security object is `s`, but for what it has heard and counted. -/
def Holding (s : ZigbeeSecurity) (r : CC2530Radio) : Prop :=
  ∃ replay stats, r.security = some { s with replay := replay, stats := stats }

/-- Nothing but frames sent and received lies between two states of a radio. -/
structure Traffic (r r' : CC2530Radio) : Prop where
  holding : ∀ s, Holding s r → Holding s r'
  callbacks : r'.callbacks = r.callbacks
  address : r'.localShortAddress = r.localShortAddress
  promiscuous : r'.promiscuous = r.promiscuous
  ieee : r'.securityIeee = r.securityIeee

theorem Holding.init (s : ZigbeeSecurity) (h : r.security = some s) : Holding s r :=
  ⟨s.replay, s.stats, h⟩

theorem Holding.receive (hs : Holding s r) {rssi : Int8} {lqi : UInt8} {psdu : List UInt8}
    {events : List Event} (h : r.receivePsdu ecb rssi lqi psdu = some (r', events)) :
    Holding s r' := by
  obtain ⟨replay, stats, hsec⟩ := hs
  obtain ⟨replay', stats', rfl⟩ := receivePsdu_held hsec h
  exact ⟨replay', stats', rfl⟩

theorem traffic_receive (hs : Holding s r) {rssi : Int8} {lqi : UInt8} {psdu : List UInt8}
    {events : List Event} (h : r.receivePsdu ecb rssi lqi psdu = some (r', events)) :
    Traffic r r' := by
  have hholding : ∀ s', Holding s' r → Holding s' r' := fun s' hs' => hs'.receive h
  obtain ⟨replay, stats, hsec⟩ := hs
  obtain ⟨replay', stats', rfl⟩ := receivePsdu_held hsec h
  exact ⟨hholding, rfl, rfl, rfl, rfl⟩

theorem traffic_run (ecb : BlockCipher) (r : CC2530Radio) (call : TxCall) :
    Traffic r (call.run ecb r).1 := by
  cases hsecures : call.secures r with
  | none =>
    obtain ⟨_, _, _, _, hradio⟩ : Sequences r (call.run ecb r).1 := call.run_unsecuring hsecures
    rw [hradio]
    exact ⟨fun _ h => h, rfl, rfl, rfl, rfl⟩
  | some npdu =>
    obtain ⟨-, -, s, hsec, -, ⟨stats, _, _, _, _, hradio⟩, -⟩ := TxCall.run_securing ecb hsecures
    rw [hradio]
    refine ⟨fun s' hs' => ?_, rfl, rfl, rfl, rfl⟩
    obtain ⟨replay', stats', hsec'⟩ := hs'
    obtain rfl := Option.some.inj (hsec.symm.trans hsec')
    exact ⟨replay', stats, rfl⟩

/-- Between two radios with the same key, a frame that is fresh to the receiver is handed up. -/
theorem delivered (hkey : s.hasKey = true) (halt : s.hasAlt = false) (htx : Holding s tx)
    (hrx : Holding s rx) (hlisten : Listens rx) (hfilter : rx.promiscuous = false) {call : TxCall}
    (hrelays : call.RelaysFit) {npdu psdu : List UInt8} (hsecures : call.secures tx = some npdu)
    (hpsdu : (call.run ecb tx).2 = some psdu)
    (hfresh : ∀ t, rx.security = some t → HighWater.Fresh t.replay.mark
      (tx.securityIeee, s.keySequence) (tx.securityCounter + 1).toNat) (rssi : Int8) (lqi : UInt8) :
    ∃ rx' events, rx.receivePsdu ecb rssi lqi psdu = some (rx', events) ∧ Carries npdu events := by
  obtain ⟨-, hunprotected, s', hsec', -, -, hsent⟩ := TxCall.run_securing ecb hsecures
  obtain ⟨replay, stats, hsec⟩ := htx
  obtain ⟨replay', stats', hrxsec⟩ := hrx
  obtain rfl := Option.some.inj (hsec.symm.trans hsec')
  obtain ⟨hfits, panId, dst, src, sequence, ackRequest, hlen, hbytes⟩ := hsent psdu hpsdu
  have hsel : ({ s with replay := replay', stats := stats' } : ZigbeeSecurity).selectKey
      s.keySequence = some s.key := ZigbeeSecurity.selectKey_single halt _
  have hopened := openReceived_unprotected ecb tx.securityIeee (tx.securityCounter + 1)
    (hunprotected hrelays) hfits hrxsec hkey hsel hfilter
  rcases hopened with ⟨-, stats'', hopen⟩ | ⟨hstale, -⟩
  · obtain ⟨events, hevents, hcarries⟩ := (receivePsdu_data hlisten hlen hbytes rssi lqi).1 npdu
      (hunprotected hrelays) hopen rfl
    exact ⟨_, events, hevents, hcarries⟩
  · exact absurd (hfresh _ hrxsec) hstale

end Holding

/-! ## The network -/

/-- The Trust Center, the devices that join, and the key transports sent, each with the address it
is for. -/
structure World (ι : Type) where
  tc : TrustCenter
  joiner : ι → Joiner
  transports : List (UInt16 × List UInt8) := []

variable {ι : Type} [DecidableEq ι]

inductive Op (ι : Type) where
  | accept (ieee : UInt64) (addr : UInt16) (again : Bool) (nowMs : UInt32)
  | announced (addr : UInt16)
  | service (nowMs : UInt32)
  | transmit (call : TxCall)
  | receive (rssi : Int8) (lqi : UInt8) (psdu : List UInt8)
  | associated (i : ι) (addr : UInt16)
  | send (i : ι) (call : TxCall)
  | hear (i : ι) (rssi : Int8) (lqi : UInt8) (psdu : List UInt8)

/-- A child that associates again is forgotten by the replay table. -/
def forgetPeer (r : CC2530Radio) (again : Bool) (ieee : UInt64) : CC2530Radio :=
  if again then { r with security := r.security.map (·.resetReplayPeer ieee) } else r

/-- A successful association on the side of the device. -/
def applyAddress (j : Joiner) (addr : UInt16) : Joiner :=
  { j with radio := { j.radio with
      security := j.radio.security.map (·.resetReplayTable)
      localShortAddress := addr, promiscuous := false } }

def received (ecb : BlockCipher) (r : CC2530Radio) (rssi : Int8) (lqi : UInt8)
    (psdu : List UInt8) : CC2530Radio :=
  ((r.receivePsdu ecb rssi lqi psdu).map Prod.fst).getD r

def step (ecb : BlockCipher) (gKtk : Block) (w : World ι) : Op ι → World ι
  | .accept ieee addr again nowMs =>
    { w with tc := { scheduleKey w.tc ieee addr nowMs with
        radio := forgetPeer w.tc.radio again ieee } }
  | .announced addr => { w with tc := noteAnnounce w.tc addr }
  | .service nowMs =>
    let sent := serviceKeyTransport ecb gKtk w.tc nowMs
    { w with
      tc := sent.1
      transports := w.transports ++ sent.2.toList.map fun psdu => (w.tc.keyXportAddr, psdu) }
  | .transmit call => { w with tc := { w.tc with radio := (call.run ecb w.tc.radio).1 } }
  | .receive rssi lqi psdu =>
    { w with tc := { w.tc with radio := received ecb w.tc.radio rssi lqi psdu } }
  | .associated i addr =>
    { w with joiner := Function.update w.joiner i (applyAddress (w.joiner i) addr) }
  | .send i call =>
    let j := w.joiner i
    { w with joiner :=
        Function.update w.joiner i { j with radio := (call.run ecb j.radio).1 } }
  | .hear i rssi lqi psdu =>
    { w with joiner := Function.update w.joiner i (hear ecb gKtk (w.joiner i) rssi lqi psdu) }

/-- What a device hears is a transport of this Trust Center, or holds no command that opens under
the key-transport key. -/
def Honest (ecb : BlockCipher) (gKtk : Block) (w : World ι) : Op ι → Prop
  | .hear i rssi lqi psdu => (∃ addr, (addr, psdu) ∈ w.transports) ∨
    ∀ blob ∈ heardBlobs ecb (w.joiner i) rssi lqi psdu, transported ecb gKtk blob = none
  | _ => True

/-- The Trust Center and its devices as their sketches start. -/
def start (tc : Board) (boards : ι → Board) (eeprom : Option ι → List UInt8) (nowMs : UInt32) :
    World ι where
  tc :=
    { radio := (setup tc (eeprom none) nowMs).radio
      thisIeee := tc.thisIeee
      panId := tc.panId
      nwkAddress := zbNwkAddrCoordinator
      networkKey := tc.networkKey }
  joiner i := { radio := (setup (boards i) (eeprom (some i)) nowMs).radio }

/-! ## What devices know -/

/-- The security object of a device: the network key once it is installed, else none. -/
def known (networkKey : Block) (keyInstalled : Bool) : ZigbeeSecurity :=
  if keyInstalled then ZigbeeSecurity.init.setNetworkKey networkKey 0 else ZigbeeSecurity.init

structure Joiner.Ready (networkKey : Block) (j : Joiner) : Prop where
  listens : Listens j.radio
  aps : j.radio.callbacks.aps = true
  holding : Holding (known networkKey j.keyInstalled) j.radio

section Devices

variable {ecb : BlockCipher} {gKtk networkKey : Block} {j : Joiner} {rssi : Int8} {lqi : UInt8}
  {psdu : List UInt8}

/-- What the key-transport handler does with one payload. -/
def onBlob (ecb : BlockCipher) (gKtk : Block) (j : Joiner) (blob : List UInt8) : Joiner :=
  if j.keyInstalled then j else installNetworkKeyFrom ecb gKtk j blob

theorem foldl_onApsData (j : Joiner) (events : List Event) :
    events.foldl (onApsData ecb gKtk) j = (events.filterMap keyBlob).foldl (onBlob ecb gKtk) j := by
  induction events generalizing j with
  | nil => rfl
  | cons e events ih =>
    rw [List.foldl_cons, ih, List.filterMap_cons, onApsData]
    cases keyBlob e <;> rfl

theorem onBlob_closed {blob : List UInt8} (h : transported ecb gKtk blob = none) (j : Joiner) :
    onBlob ecb gKtk j blob = j := by
  rw [onBlob, installNetworkKeyFrom, h]
  exact ite_self j

theorem foldl_onBlob_closed {blobs : List (List UInt8)}
    (h : ∀ blob ∈ blobs, transported ecb gKtk blob = none) (j : Joiner) :
    blobs.foldl (onBlob ecb gKtk) j = j := by
  induction blobs with
  | nil => rfl
  | cons blob blobs ih =>
    rw [List.foldl_cons, onBlob_closed (h blob List.mem_cons_self)]
    exact ih fun b hb => h b (List.mem_cons_of_mem blob hb)

theorem Joiner.Ready.onBlob (h : j.Ready networkKey) {blob : List UInt8} {t : ApsTransportKey}
    (ht : transported ecb gKtk blob = some t) (hkey : t.key = networkKey)
    (hseq : t.keySeqNumber = 0) :
    (onBlob ecb gKtk j blob).Ready networkKey ∧ (onBlob ecb gKtk j blob).keyInstalled = true := by
  by_cases hinstalled : j.keyInstalled = true
  · rw [SecureJoin.onBlob, if_pos hinstalled]
    exact ⟨h, hinstalled⟩
  · obtain ⟨replay, stats, hsec⟩ := h.holding
    rw [SecureJoin.onBlob, if_neg hinstalled, installNetworkKeyFrom, ht]
    refine ⟨⟨h.listens, h.aps, replay, stats, ?_⟩, rfl⟩
    rw [Bool.not_eq_true] at hinstalled
    simp only [hsec, hinstalled, known, Bool.false_eq_true, if_false, if_true, hkey, hseq,
      Option.map_some]
    rfl

theorem Joiner.Ready.traffic (h : j.Ready networkKey) {r : CC2530Radio}
    (hr : Traffic j.radio r) : ({ j with radio := r } : Joiner).Ready networkKey where
  listens := by
    rw [Listens, hr.callbacks]
    exact h.listens
  aps := by
    change r.callbacks.aps = true
    rw [hr.callbacks]
    exact h.aps
  holding := hr.holding _ h.holding

theorem Joiner.Ready.heard (ecb : BlockCipher) (gKtk : Block) (h : j.Ready networkKey)
    (rssi : Int8) (lqi : UInt8) (psdu : List UInt8) : ∃ r events,
    j.radio.receivePsdu ecb rssi lqi psdu = some (r, events) ∧ Traffic j.radio r ∧
      hear ecb gKtk j rssi lqi psdu =
        (events.filterMap keyBlob).foldl (SecureJoin.onBlob ecb gKtk) { j with radio := r } := by
  obtain ⟨r, events, hevents, -, -⟩ := receivePsdu_gated (r := j.radio) ecb rssi lqi psdu
  refine ⟨r, events, hevents, traffic_receive h.holding hevents, ?_⟩
  simp only [hear, hevents, foldl_onApsData]

theorem onBlob_radio (j : Joiner) (blob : List UInt8) :
    ∃ security, (onBlob ecb gKtk j blob).radio = { j.radio with security := security } := by
  rw [onBlob, installNetworkKeyFrom]
  split
  · exact ⟨_, rfl⟩
  · cases transported ecb gKtk blob <;> exact ⟨_, rfl⟩

theorem Joiner.Ready.hear_stays (ecb : BlockCipher) (gKtk : Block) (h : j.Ready networkKey)
    (rssi : Int8) (lqi : UInt8) (psdu : List UInt8) :
    (hear ecb gKtk j rssi lqi psdu).radio.localShortAddress = j.radio.localShortAddress ∧
      (hear ecb gKtk j rssi lqi psdu).radio.promiscuous = j.radio.promiscuous := by
  obtain ⟨r, events, -, htraffic, hheard⟩ := h.heard ecb gKtk rssi lqi psdu
  rw [hheard, ← htraffic.address, ← htraffic.promiscuous]
  change _ = ({ j with radio := r } : Joiner).radio.localShortAddress ∧
    _ = ({ j with radio := r } : Joiner).radio.promiscuous
  generalize ({ j with radio := r } : Joiner) = j'
  induction events.filterMap keyBlob generalizing j' with
  | nil => exact ⟨rfl, rfl⟩
  | cons blob blobs ih =>
    obtain ⟨security, hradio⟩ := @onBlob_radio ecb gKtk j' blob
    rw [List.foldl_cons, (ih _).1, (ih _).2, hradio]
    exact ⟨rfl, rfl⟩

/-- A transport of `networkKey`, under key sequence 0, for the address it is listed with. -/
def Transports (ecb : BlockCipher) (gKtk networkKey : Block) (p : UInt16 × List UInt8) : Prop :=
  ∃ thisIeee counter t panId src macSequence nwkSequence apsCounter,
    p.2 = transportPsdu ecb gKtk thisIeee counter t panId p.1 src macSequence nwkSequence
      apsCounter ∧
    IsNetworkKey t ∧ t.key = networkKey ∧ t.keySeqNumber = 0

/-- A transport never makes a device worse off, and the device it is for has the key after it. -/
theorem Joiner.Ready.transport (h : j.Ready networkKey) {p : UInt16 × List UInt8}
    (hp : Transports ecb gKtk networkKey p) (rssi : Int8) (lqi : UInt8) :
    (hear ecb gKtk j rssi lqi p.2).Ready networkKey ∧
      (p.1 = j.radio.localShortAddress →
        (hear ecb gKtk j rssi lqi p.2).keyInstalled = true) := by
  obtain ⟨thisIeee, counter, t, panId, src, macSequence, nwkSequence, apsCounter, hpsdu, hkind,
    hkey, hseq⟩ := hp
  obtain ⟨events, hevents, hblobs⟩ := receivePsdu_transport ecb gKtk rssi lqi h.aps
    thisIeee counter t panId p.1 src macSequence nwkSequence apsCounter
  rw [← hpsdu] at hevents
  obtain ⟨r, events', hevents', htraffic, hheard⟩ := h.heard ecb gKtk rssi lqi p.2
  obtain ⟨rfl, rfl⟩ : j.radio = r ∧ events = events' := by
    simpa only [Option.some.injEq, Prod.mk.injEq] using hevents.symm.trans hevents'
  rw [hheard, hblobs]
  by_cases hlocal : p.1 = j.radio.localShortAddress ∨ p.1 ≥ 0xFFF8
  · have hopen : transported ecb gKtk (transportBlob ecb gKtk thisIeee counter t) = some t :=
      transported_blob thisIeee counter hkind
    rw [if_pos hlocal]
    exact ⟨(h.onBlob hopen hkey hseq).1, fun _ => (h.onBlob hopen hkey hseq).2⟩
  · rw [if_neg hlocal]
    exact ⟨h, fun haddr => absurd (Or.inl haddr) hlocal⟩

end Devices

/-! ## Runs -/

variable {ecb : BlockCipher} {gKtk : Block}

structure Inv (ecb : BlockCipher) (gKtk networkKey : Block) (w : World ι) : Prop where
  key : w.tc.networkKey = networkKey
  holding : Holding (known networkKey true) w.tc.radio
  listens : Listens w.tc.radio
  filters : w.tc.radio.promiscuous = false
  joiners : ∀ i, (w.joiner i).Ready networkKey
  transports : ∀ p ∈ w.transports, Transports ecb gKtk networkKey p

variable {networkKey : Block} {w : World ι}

omit [DecidableEq ι] in
theorem Inv.radio (h : Inv ecb gKtk networkKey w) {tc : TrustCenter}
    (hkey : tc.networkKey = w.tc.networkKey) (hr : Traffic w.tc.radio tc.radio) :
    Inv ecb gKtk networkKey { w with tc := tc } where
  key := hkey.trans h.key
  holding := hr.holding _ h.holding
  listens := by
    rw [Listens, hr.callbacks]
    exact h.listens
  filters := hr.promiscuous.trans h.filters
  joiners := h.joiners
  transports := h.transports

theorem Inv.update (h : Inv ecb gKtk networkKey w) {i : ι} {j : Joiner}
    (hj : j.Ready networkKey) :
    Inv ecb gKtk networkKey { w with joiner := Function.update w.joiner i j } :=
  { h with
    joiners := fun k => by
      by_cases hk : k = i
      · subst hk
        simp only [Function.update_self, hj]
      · simp only [Function.update_of_ne hk, h.joiners k] }

theorem Traffic.refl (r : CC2530Radio) : Traffic r r := ⟨fun _ h => h, rfl, rfl, rfl, rfl⟩

theorem traffic_forgetPeer (r : CC2530Radio) (again : Bool) (ieee : UInt64) :
    Traffic r (forgetPeer r again ieee) := by
  cases again with
  | false => exact Traffic.refl r
  | true =>
    refine ⟨fun s hs => ?_, rfl, rfl, rfl, rfl⟩
    obtain ⟨replay, stats, hsec⟩ := hs
    exact ⟨replay.resetPeer ieee, stats, by simp only [forgetPeer, if_true, hsec]; rfl⟩

theorem Inv.service (h : Inv ecb gKtk networkKey w) (nowMs : UInt32) :
    Inv ecb gKtk networkKey (step ecb gKtk w (.service nowMs)) := by
  by_cases hdue : w.tc.pendingKeyXport = true ∧ ¬ (nowMs - w.tc.keyXportAt).toInt32 < 0 ∧
      ¬ w.tc.keyXportTries ≥ 12
  · obtain ⟨hpending, htime, htries⟩ := hdue
    have hseq : (transportKey w.tc).keySeqNumber = 0 := by
      obtain ⟨replay, stats, hsec⟩ := h.holding
      simp only [transportKey, hsec]
      rfl
    simp only [step, serviceKeyTransport_due hpending htime htries]
    refine ⟨h.key, ?_, h.listens, h.filters, h.joiners, ?_⟩
    · exact h.holding
    · intro p hp
      rcases List.mem_append.mp hp with hold | hnew
      · exact h.transports p hold
      · simp only [Option.toList_some, List.map_cons, List.map_nil, List.mem_singleton] at hnew
        subst hnew
        exact ⟨_, _, _, _, _, _, _, _, rfl, Or.inl rfl, h.key, hseq⟩
  · obtain ⟨hsent, pending, -, htc⟩ := serviceKeyTransport_idle ecb gKtk hdue
    simp only [step, hsent, htc, Option.toList_none, List.map_nil, List.append_nil]
    exact h.radio rfl (Traffic.refl _)

omit [DecidableEq ι] in
theorem Inv.hear (h : Inv ecb gKtk networkKey w) {i : ι} {rssi : Int8} {lqi : UInt8}
    {psdu : List UInt8} (hop : Honest ecb gKtk w (.hear i rssi lqi psdu)) :
    (SecureJoin.hear ecb gKtk (w.joiner i) rssi lqi psdu).Ready networkKey := by
  rcases hop with ⟨addr, hmem⟩ | hclosed
  · exact ((h.joiners i).transport (h.transports _ hmem) rssi lqi).1
  · obtain ⟨r, events, hevents, htraffic, hheard⟩ := (h.joiners i).heard ecb gKtk rssi lqi psdu
    simp only [heardBlobs, hevents] at hclosed
    rw [hheard, foldl_onBlob_closed hclosed]
    exact (h.joiners i).traffic htraffic

theorem Inv.step (h : Inv ecb gKtk networkKey w) (op : Op ι) (hop : Honest ecb gKtk w op) :
    Inv ecb gKtk networkKey (step ecb gKtk w op) := by
  cases op with
  | accept ieee addr again nowMs => exact h.radio rfl (traffic_forgetPeer w.tc.radio again ieee)
  | announced addr =>
    simp only [SecureJoin.step, noteAnnounce]
    split
    · exact h.radio rfl (Traffic.refl _)
    · exact h
  | service nowMs => exact h.service nowMs
  | transmit call => exact h.radio rfl (traffic_run ecb w.tc.radio call)
  | receive rssi lqi psdu =>
    obtain ⟨r, events, hevents, -, -⟩ := receivePsdu_gated (r := w.tc.radio) ecb rssi lqi psdu
    simp only [SecureJoin.step, received, hevents]
    exact h.radio rfl (traffic_receive h.holding hevents)
  | associated i addr =>
    apply h.update
    obtain ⟨hlisten, haps, replay, stats, hsec⟩ := h.joiners i
    exact ⟨hlisten, haps, .reset, stats, by simp only [applyAddress, hsec]; rfl⟩
  | send i call => exact h.update ((h.joiners i).traffic (traffic_run ecb (w.joiner i).radio call))
  | hear i rssi lqi psdu => exact h.update (h.hear hop)

theorem setup_radio (board : Board) (eeprom : List UInt8) (nowMs : UInt32) :
    ∃ addr counter beacon, (setup board eeprom nowMs).radio =
      { startRadio board with
        localShortAddress := addr, securityCounter := counter
        callbacks := { (startRadio board).callbacks with beacon := beacon } } := by
  simp only [setup]
  split
  · exact ⟨_, _, _, rfl⟩
  · split <;> exact ⟨_, _, _, rfl⟩

variable {tc : Board} {boards : ι → Board} {eeprom : Option ι → List UInt8} {nowMs : UInt32}

omit [DecidableEq ι] in
theorem Inv.start (htc : tc.isCoordinator = true)
    (hjoin : ∀ i, (boards i).secureJoin = true ∧ (boards i).isCoordinator = false) :
    Inv ecb gKtk tc.networkKey (start tc boards eeprom nowMs) := by
  obtain ⟨addr, counter, beacon, hradio⟩ := setup_radio tc (eeprom none) nowMs
  have hkeyed : startSecurity tc = known tc.networkKey true := by
    rw [startSecurity, htc, Bool.not_true, Bool.and_false]
    rfl
  refine ⟨rfl, ?_, ?_, ?_, fun i => ?_, fun p hp => ?_⟩
  · apply Holding.init
    simp only [SecureJoin.start, hradio, startRadio, hkeyed]
  · simp only [SecureJoin.start, hradio, Listens, startRadio, and_self]
  · simp only [SecureJoin.start, hradio]
    rfl
  · obtain ⟨addr, counter, beacon, hradio⟩ := setup_radio (boards i) (eeprom (some i)) nowMs
    have hunkeyed : startSecurity (boards i) = known tc.networkKey false := by
      rw [startSecurity, (hjoin i).1, (hjoin i).2]
      rfl
    refine ⟨?_, ?_, ?_⟩
    · simp only [SecureJoin.start, hradio, Listens, startRadio, and_self]
    · simp only [SecureJoin.start, hradio, startRadio]
    · apply Holding.init
      simp only [SecureJoin.start, hradio, startRadio, hunkeyed]
  · cases hp

/-- The Trust Center (`none`) and the devices. -/
def World.party (w : World ι) : Option ι → CC2530Radio
  | none => w.tc.radio
  | some i => (w.joiner i).radio

def World.HasKey (w : World ι) : Option ι → Prop
  | none => True
  | some i => (w.joiner i).keyInstalled = true

omit [DecidableEq ι] in
theorem Inv.party (h : Inv ecb gKtk networkKey w) {p : Option ι} (hp : w.HasKey p) :
    Holding (ZigbeeSecurity.init.setNetworkKey networkKey 0) (w.party p) ∧
      Listens (w.party p) := by
  cases p with
  | none => exact ⟨h.holding, h.listens⟩
  | some i =>
    have hknown : known networkKey (w.joiner i).keyInstalled =
        ZigbeeSecurity.init.setNetworkKey networkKey 0 := if_pos hp
    exact ⟨hknown ▸ (h.joiners i).holding, (h.joiners i).listens⟩

/-- A device that has a key has the Trust Center's, under its sequence number, whatever was sent,
lost or repeated; a transport installs it in the device it is for, now and later; and between any
two that have it, a frame of one that is fresh to the other is handed up there. -/
theorem one_network_key (htc : tc.isCoordinator = true)
    (hjoin : ∀ i, (boards i).secureJoin = true ∧ (boards i).isCoordinator = false)
    {ops : List (Op ι)}
    (hrun : Runs.Along (step ecb gKtk) (Honest ecb gKtk) (start tc boards eeprom nowMs) ops) :
    let w := ops.foldl (step ecb gKtk) (start tc boards eeprom nowMs)
    (∀ i, ∃ s, (w.joiner i).radio.security = some s ∧ s.hasKey = (w.joiner i).keyInstalled ∧
      (s.hasKey = true → s.key = tc.networkKey ∧ s.keySequence = 0)) ∧
    (∀ i rssi lqi psdu, ((w.joiner i).radio.localShortAddress, psdu) ∈ w.transports →
      (hear ecb gKtk (w.joiner i) rssi lqi psdu).keyInstalled = true) ∧
    ∀ p q, w.HasKey p → w.HasKey q → (w.party q).promiscuous = false →
      ∀ (call : TxCall) (npdu psdu : List UInt8), call.RelaysFit →
        call.secures (w.party p) = some npdu → (call.run ecb (w.party p)).2 = some psdu →
        (∀ t, (w.party q).security = some t → HighWater.Fresh t.replay.mark
          ((w.party p).securityIeee, 0) ((w.party p).securityCounter + 1).toNat) →
        ∀ rssi lqi, ∃ r events, (w.party q).receivePsdu ecb rssi lqi psdu = some (r, events) ∧
          Carries npdu events := by
  intro w
  have hinv : Inv ecb gKtk tc.networkKey w :=
    hrun.invariant (fun _ op h hop => h.step op hop) (Inv.start htc hjoin)
  refine ⟨fun i => ?_, fun i rssi lqi psdu hmem => ?_, ?_⟩
  · obtain ⟨replay, stats, hsec⟩ := (hinv.joiners i).holding
    refine ⟨_, hsec, ?_⟩
    cases (w.joiner i).keyInstalled with
    | true => exact ⟨rfl, fun _ => ⟨rfl, rfl⟩⟩
    | false => exact ⟨rfl, nofun⟩
  · exact ((hinv.joiners i).transport (hinv.transports _ hmem) rssi lqi).2 rfl
  · intro p q hp hq hfilter call npdu psdu hrelays hsecures hpsdu hfresh rssi lqi
    exact delivered rfl rfl (hinv.party hp).1 (hinv.party hq).1 (hinv.party hq).2 hfilter hrelays
      hsecures hpsdu hfresh rssi lqi

private def centre : Board where
  thisIeee := 0x1A62195E00000001
  isCoordinator := true
  secureJoin := true
  panId := 0x1A62
  extPanId := 0x1A62195E00000000
  coordChannel := 15
  poolFirst := 0x31
  poolLast := 0x3F
  networkKey := Block.ofList [0x1A, 0x62]

private def linkKtk : Block := Block.ofList [0x5A, 0x69]

/-- A device that associates, is sent the key once, and hears that transport. -/
private def joins (w : World ι) (i : ι) (ieee : UInt64) (addr : UInt16) : List (Op ι) :=
  let tc := scheduleKey w.tc ieee addr 0
  [.accept ieee addr false 0, .associated i addr, .service 350,
    .hear i (-40) 200 ((serviceKeyTransport Aes128.encrypt linkKtk tc 350).2.getD [])]

private theorem joins_run (h : Inv Aes128.encrypt linkKtk networkKey w) (i : ι) (ieee : UInt64)
    (addr : UInt16) :
    Runs.Along (step Aes128.encrypt linkKtk) (Honest Aes128.encrypt linkKtk) w
        (joins w i ieee addr) ∧
      let w' := (joins w i ieee addr).foldl (step Aes128.encrypt linkKtk) w
      ((w'.joiner i).keyInstalled = true ∧ (w'.joiner i).radio.localShortAddress = addr ∧
        (w'.joiner i).radio.promiscuous = false) ∧
      (∀ k, k ≠ i → w'.joiner k = w.joiner k) ∧
      ∃ psdu, w'.transports = w.transports ++ [(addr, psdu)] := by
  have hdue : serviceKeyTransport Aes128.encrypt linkKtk (scheduleKey w.tc ieee addr 0) 350 = _ :=
    serviceKeyTransport_due rfl (by simp [scheduleKey]) (by simp [scheduleKey])
  obtain ⟨psdu, hpsdu⟩ : ∃ psdu, (serviceKeyTransport Aes128.encrypt linkKtk
      (scheduleKey w.tc ieee addr 0) 350).2 = some psdu := ⟨_, congrArg Prod.snd hdue⟩
  obtain ⟨w₃, hw₃⟩ : ∃ w₃, [Op.accept ieee addr false 0, .associated i addr, .service 350].foldl
      (step Aes128.encrypt linkKtk) w = w₃ := ⟨_, rfl⟩
  have hinv : Inv Aes128.encrypt linkKtk networkKey w₃ := by
    rw [← hw₃]
    exact ((h.step (.accept ieee addr false 0) trivial).step (.associated i addr) trivial).step
      (.service 350) trivial
  have htransports : w₃.transports = w.transports ++ [(addr, psdu)] := by
    rw [← hw₃]
    change w.transports ++ ((serviceKeyTransport Aes128.encrypt linkKtk
      (scheduleKey w.tc ieee addr 0) 350).2.toList.map fun psdu => (addr, psdu)) = _
    rw [hpsdu]
    rfl
  have hjoiner (k : ι) : w₃.joiner k =
      Function.update w.joiner i (applyAddress (w.joiner i) addr) k := by
    rw [← hw₃]
    rfl
  have hself : w₃.joiner i = applyAddress (w.joiner i) addr := by
    rw [hjoiner, Function.update_self]
  have hsent : (addr, psdu) ∈ w₃.transports := by simp [htransports]
  have hkeyed := ((hinv.joiners i).transport (hinv.transports _ hsent) (-40) 200).2
    (by rw [hself]; rfl)
  obtain ⟨hlocal, hfilter⟩ :=
    (hinv.joiners i).hear_stays Aes128.encrypt linkKtk (-40) 200 psdu
  have hfold : (joins w i ieee addr).foldl (step Aes128.encrypt linkKtk) w =
      step Aes128.encrypt linkKtk w₃ (.hear i (-40) 200 psdu) := by
    rw [← hw₃, joins, hpsdu]
    rfl
  rw [hfold]
  refine ⟨⟨trivial, trivial, trivial, Or.inl ⟨addr, ?_⟩, trivial⟩, ?_, fun k hk => ?_, psdu,
    htransports⟩
  · rw [hpsdu]
    rw [← hw₃] at hsent
    exact hsent
  · simp only [step, Function.update_self]
    refine ⟨hkeyed, ?_, ?_⟩
    · rw [hlocal, hself]
      rfl
    · rw [hfilter, hself]
      rfl
  · simp only [step, Function.update_of_ne hk]
    rw [hjoiner, Function.update_of_ne hk]

/-- A lamp and a switch. -/
private def devices (i : Fin 2) : Board :=
  { centre with thisIeee := if i = 0 then 0x1A62195E00000002 else 0x1A62195E00000003
                isCoordinator := false }

private def fresh : World (Fin 2) := start centre devices (fun _ => []) 0

private def lampJoins : List (Op (Fin 2)) := joins fresh 0 (devices 0).thisIeee 0x31

private def bothJoin : List (Op (Fin 2)) :=
  lampJoins ++ joins (lampJoins.foldl (step Aes128.encrypt linkKtk) fresh) 1
    (devices 1).thisIeee 0x32

private theorem bothJoin_run :
    Runs.Along (step Aes128.encrypt linkKtk) (Honest Aes128.encrypt linkKtk) fresh bothJoin ∧
      let w := bothJoin.foldl (step Aes128.encrypt linkKtk) fresh
      (∀ i, (w.joiner i).keyInstalled = true ∧ (w.joiner i).radio.promiscuous = false) ∧
        ∀ i, ∃ psdu, ((w.joiner i).radio.localShortAddress, psdu) ∈ w.transports := by
  have hstart : Inv Aes128.encrypt linkKtk centre.networkKey fresh :=
    Inv.start rfl fun _ => ⟨rfl, rfl⟩
  obtain ⟨hlamp, ⟨hkey₀, haddr₀, hfilter₀⟩, -, psdu₀, htransports₀⟩ :=
    joins_run hstart 0 (devices 0).thisIeee 0x31
  have hjoined := hlamp.invariant (fun _ op h hop => h.step op hop) hstart
  obtain ⟨hswitch, ⟨hkey₁, haddr₁, hfilter₁⟩, hothers, psdu₁, htransports₁⟩ :=
    joins_run hjoined 1 (devices 1).thisIeee 0x32
  rw [bothJoin, lampJoins, Runs.along_append, List.foldl_append]
  refine ⟨⟨hlamp, hswitch⟩, ?_⟩
  have hkept := hothers 0 (by decide)
  generalize (joins fresh 0 (devices 0).thisIeee 0x31).foldl (step Aes128.encrypt linkKtk) fresh =
    w₁ at *
  generalize (joins w₁ 1 (devices 1).thisIeee 0x32).foldl (step Aes128.encrypt linkKtk) w₁ =
    w₂ at *
  refine ⟨Fin.forall_fin_two.mpr ⟨hkept ▸ ⟨hkey₀, hfilter₀⟩, hkey₁, hfilter₁⟩,
    Fin.forall_fin_two.mpr ⟨⟨psdu₀, ?_⟩, psdu₁, ?_⟩⟩
  · rw [hkept, haddr₀, htransports₁, htransports₀]
    simp
  · rw [haddr₁, htransports₁]
    simp

/-- Both have the key, each was sent a transport and is keyed by hearing it again, and a frame of
either that is new to the Trust Center or the other is handed up there. -/
theorem one_network_key_two_devices :
    let w := bothJoin.foldl (step Aes128.encrypt linkKtk) fresh
    (∀ i, ∃ s, (w.joiner i).radio.security = some s ∧ s.hasKey = true ∧
      s.key = centre.networkKey ∧ s.keySequence = 0) ∧
    (∀ i, ∃ psdu, ((w.joiner i).radio.localShortAddress, psdu) ∈ w.transports ∧
      (hear Aes128.encrypt linkKtk (w.joiner i) (-40) 200 psdu).keyInstalled = true) ∧
    ∀ i q, ∀ (call : TxCall) (npdu psdu : List UInt8), call.RelaysFit →
      call.secures (w.joiner i).radio = some npdu →
      (call.run Aes128.encrypt (w.joiner i).radio).2 = some psdu →
      (∀ t, (w.party q).security = some t → HighWater.Fresh t.replay.mark
        ((w.joiner i).radio.securityIeee, 0) ((w.joiner i).radio.securityCounter + 1).toNat) →
      ∀ rssi lqi, ∃ r events,
        (w.party q).receivePsdu Aes128.encrypt rssi lqi psdu = some (r, events) ∧
          Carries npdu events := by
  intro w
  obtain ⟨hrun, hjoined, hsent⟩ := bothJoin_run
  obtain ⟨hkeys, hinstalls, hdelivers⟩ :=
    @one_network_key (Fin 2) _ Aes128.encrypt linkKtk centre devices (fun _ => []) 0 rfl
      (fun _ => ⟨rfl, rfl⟩) bothJoin hrun
  refine ⟨fun i => ?_, fun i => ?_, fun i q => ?_⟩
  · obtain ⟨s, hs, hinstalled, hsame⟩ := hkeys i
    have hkeyed := hinstalled.trans (hjoined i).1
    exact ⟨s, hs, hkeyed, hsame hkeyed⟩
  · obtain ⟨psdu, hmem⟩ := hsent i
    exact ⟨psdu, hmem, hinstalls i (-40) 200 psdu hmem⟩
  · cases q with
    | none => exact hdelivers (some i) none (hjoined i).1 trivial rfl
    | some k => exact hdelivers (some i) (some k) (hjoined i).1 (hjoined k).1 (hjoined k).2

end NiusZigbee.SecureJoin
