import NiusZigbee.Library.Runs
import NiusZigbee.Network.Membership
import NiusZigbee.Network.Persistence
import NiusZigbee.Radio.Transmit

/-!
# Frame counters across power cycles

A node saves its network state and its outgoing frame counter, plus a margin, and starts from the
last save after a power cycle. What is asked of a run is that a power cycle comes no later than the
margin after a save of its own life; then no frame counter is ever used again.
-/

namespace NiusZigbee.PowerCycles

open ByteCodec OutBuffer ZigbeePersistence CC2530Radio

/-- What is fixed when the sketch is built. -/
structure Board where
  thisIeee : UInt64
  isCoordinator : Bool
  secureJoin : Bool
  panId : UInt16
  extPanId : UInt64
  coordChannel : UInt8
  poolFirst : UInt16
  poolLast : UInt16
  networkKey : Block

def kCounterMargin : UInt32 := 1024

/-- The sketch's radio and network, and the bytes of its EEPROM. -/
structure Node where
  radio : CC2530Radio
  network : ZigbeeNetwork
  eeprom : List UInt8

def stateToSave (board : Board) (node : Node) : ZigbeePersistentState where
  panId := node.network.info.panId
  extendedPanId := node.network.info.extendedPanId
  channel := node.network.info.channel
  nwkAddress := node.network.info.nwkAddress
  parentAddress := node.network.info.parentAddress
  depth := node.network.info.depth
  deviceType := node.network.info.deviceType
  ieeeAddress := board.thisIeee
  outgoingFrameCounter := node.radio.securityCounter + kCounterMargin
  keySequence := (node.radio.security.map fun s => s.keySequence).getD 0

def saveState (board : Board) (node : Node) : Node :=
  let blob := serialize (stateToSave board node) kBlobSize.toUInt8
  if blob.len = 0 then node
  else { node with eeprom := blob.bytes ++ node.eeprom.drop kBlobSize }

def loadState (board : Board) (eeprom : List UInt8) : Option ZigbeePersistentState :=
  match deserialize (eeprom.take kBlobSize) with
  | some (true, s) => if s.ieeeAddress = board.thisIeee then some s else none
  | _ => none

/-- The security object of a node that starts. -/
def startSecurity (board : Board) : ZigbeeSecurity :=
  if board.secureJoin && !board.isCoordinator then ZigbeeSecurity.init
  else ZigbeeSecurity.init.setNetworkKey board.networkKey 0

def startRadio (board : Board) : CC2530Radio where
  callbacks :=
    { macCommand := true, nwkCommand := true, nwk := true, zdo := true, aps := true
      apsAck := true }
  security := some (startSecurity board)
  securityIeee := board.thisIeee

/-- `setup`, up to the scan of a node without saved state. -/
def setup (board : Board) (eeprom : List UInt8) (nowMs : UInt32) : Node :=
  let network := ZigbeeNetwork.init (ZigbeeNeighborTable.begin 8)
  let radio := startRadio board
  if board.isCoordinator then
    { radio :=
        { radio with
          localShortAddress := zbNwkAddrCoordinator
          securityCounter := ((loadState board eeprom).map fun s => s.outgoingFrameCounter).getD 0 }
      network :=
        ((network.beginCoordinator board.panId board.extPanId board.coordChannel
          0).configureAddressPool board.poolFirst board.poolLast).permitJoining 0xFF nowMs
      eeprom := eeprom }
  else
    match loadState board eeprom with
    | some saved =>
      { radio :=
          { radio with
            localShortAddress := saved.nwkAddress
            securityCounter := saved.outgoingFrameCounter }
        network := network.beginJoinedDevice saved.deviceType saved.panId saved.extendedPanId
          saved.channel saved.nwkAddress saved.parentAddress saved.depth 0
        eeprom := eeprom }
    | none =>
      { radio := { radio with callbacks := { radio.callbacks with beacon := true } }
        network := network
        eeprom := eeprom }

/-! ## Runs -/

/-- A frame counter that was used: the NPDU secured under it, and the PSDU if it came to one. -/
structure Drawn where
  counter : UInt32
  npdu : List UInt8
  psdu : Option (List UInt8)

/-- A node with its history: the counters it used, oldest first, how many of them since it started
and since the last save of this life, and the network information of the last save. -/
structure Trace where
  node : Node
  drawn : List Drawn := []
  sinceBoot : Nat := 0
  sinceSave : Option Nat := none
  saved : Option ZigbeeNetworkInfo := none

inductive Op where
  | transmit (call : TxCall)
  | receive (rssi : Int8) (lqi : UInt8) (psdu : List UInt8)
  | installKey (key : Block) (keySequence : UInt8)
  | network (op : ZigbeeNetwork.Op)
  | save
  | powerCycle (nowMs : UInt32)

variable (board : Board) (ecb : BlockCipher)

def first (eeprom : List UInt8) (nowMs : UInt32) : Trace where
  node := setup board eeprom nowMs

/-- The main loop saves a node that is part of a network. -/
def saves (node : Node) : Bool := node.network.info.joined || board.isCoordinator

def step (t : Trace) : Op → Trace
  | .transmit call =>
    let sent := call.run ecb t.node.radio
    let t' := { t with node := { t.node with radio := sent.1 } }
    match call.secures t.node.radio with
    | none => t'
    | some npdu =>
      { t' with
        drawn := t.drawn ++ [⟨sent.1.securityCounter, npdu, sent.2⟩]
        sinceBoot := t.sinceBoot + 1
        sinceSave := t.sinceSave.map (· + 1) }
  | .receive rssi lqi psdu =>
    { t with node := { t.node with
        radio := ((t.node.radio.receivePsdu ecb rssi lqi psdu).map (·.1)).getD t.node.radio } }
  | .installKey key keySequence =>
    { t with node := { t.node with radio := { t.node.radio with
        security := t.node.radio.security.map (·.setNetworkKey key keySequence) } } }
  | .network op => { t with node := { t.node with network := t.node.network.next op } }
  | .save =>
    if saves board t.node then
      { t with node := saveState board t.node, sinceSave := some 0, saved := t.node.network.info }
    else t
  | .powerCycle nowMs =>
    { t with node := setup board t.node.eeprom nowMs, sinceBoot := 0, sinceSave := none }

/-- What the margin is good for: a node that used a counter in this life has saved in it, no more
than `kCounterMargin` counters ago. -/
def InTime (t : Trace) : Prop :=
  t.sinceBoot = 0 ∨ ∃ k, t.sinceSave = some k ∧ k ≤ kCounterMargin.toNat

/-- Power cycles come in time, and the 32-bit counter does not wrap. -/
def Kept (t : Trace) : Op → Prop
  | .transmit _ => t.node.radio.securityCounter.toNat + 1 < 2 ^ 32
  | .save => t.node.radio.securityCounter.toNat + kCounterMargin.toNat < 2 ^ 32
  | .powerCycle _ => InTime t
  | _ => True

/-- The counter a node starts from. -/
def restored (eeprom : List UInt8) : UInt32 :=
  ((loadState board eeprom).map fun s => s.outgoingFrameCounter).getD 0

variable {board} {ecb}

/-! ## Saving and starting -/

theorem setup_counter (eeprom : List UInt8) (nowMs : UInt32) :
    (setup board eeprom nowMs).radio.securityCounter = restored board eeprom := by
  simp only [setup, restored]
  split
  · rfl
  · split
    · next hload =>
      rw [hload]
      rfl
    · next hload =>
      rw [hload]
      rfl

theorem setup_eeprom (eeprom : List UInt8) (nowMs : UInt32) :
    (setup board eeprom nowMs).eeprom = eeprom := by
  simp only [setup]
  split
  · rfl
  · split <;> rfl

theorem saveState_eq (node : Node) :
    saveState board node =
      { node with eeprom := blob (stateToSave board node) ++ node.eeprom.drop kBlobSize } := by
  have hroom : ¬ kBlobSize.toUInt8.toNat < kBlobSize := by decide
  have hlen : (Built.exact (blob (stateToSave board node))).len ≠ 0 := by
    rw [Built.exact_len, blob_length]
    decide
  rw [saveState, serialize, if_neg hroom, if_neg hlen, Built.exact_bytes]

theorem loadState_saved (node : Node) :
    loadState board (saveState board node).eeprom = some (stateToSave board node) := by
  have htake : (blob (stateToSave board node) ++ node.eeprom.drop kBlobSize).take kBlobSize =
      blob (stateToSave board node) := List.take_left' (blob_length _)
  rw [saveState_eq, loadState, htake, deserialize_valid (blob_length _) (blob_valid _), blob,
    stateOf_fields]
  exact if_pos rfl

theorem restored_saved (node : Node) :
    restored board (saveState board node).eeprom = node.radio.securityCounter + kCounterMargin := by
  rw [restored, loadState_saved]
  rfl

/-! ## The invariant -/

/-- The counters used ascend to the radio's, those of this life without a gap, and the saved counter
is the radio's at the start of this life or at the last save in it, margin included. -/
structure Inv (board : Board) (t : Trace) : Prop where
  order : t.drawn.Pairwise fun a b => a.counter < b.counter
  used : ∀ d ∈ t.drawn, d.counter ≤ t.node.radio.securityCounter
  recent : ∀ c ≤ t.node.radio.securityCounter,
    t.node.radio.securityCounter.toNat < c.toNat + t.sinceBoot → ∃ d ∈ t.drawn, d.counter = c
  sinceBoot : t.sinceBoot ≤ t.node.radio.securityCounter.toNat
  unsaved : t.sinceSave = none →
    (restored board t.node.eeprom).toNat + t.sinceBoot = t.node.radio.securityCounter.toNat
  margin : ∀ k, t.sinceSave = some k → k ≤ t.sinceBoot ∧
    (restored board t.node.eeprom).toNat + k =
      t.node.radio.securityCounter.toNat + kCounterMargin.toNat
  identity : ∀ info, t.saved = some info → ∃ s, loadState board t.node.eeprom = some s ∧
    s.panId = info.panId ∧ s.extendedPanId = info.extendedPanId ∧ s.channel = info.channel ∧
    s.nwkAddress = info.nwkAddress ∧ s.parentAddress = info.parentAddress ∧ s.depth = info.depth ∧
    s.deviceType = info.deviceType

variable {t : Trace}

theorem Inv.first (eeprom : List UInt8) (nowMs : UInt32) :
    Inv board (first board eeprom nowMs) where
  order := List.Pairwise.nil
  used := by simp [PowerCycles.first]
  recent := by
    intro c hc hlt
    have hle := UInt32.le_iff_toNat_le.mp hc
    simp only [PowerCycles.first] at hlt hle
    omega
  sinceBoot := Nat.zero_le _
  unsaved := by
    intro _
    simp only [PowerCycles.first, setup_counter, setup_eeprom, Nat.add_zero]
  margin := by simp [PowerCycles.first]
  identity := by simp [PowerCycles.first]

theorem Inv.aside (h : Inv board t) {node : Node}
    (hcounter : node.radio.securityCounter = t.node.radio.securityCounter)
    (heeprom : node.eeprom = t.node.eeprom) : Inv board { t with node := node } := by
  constructor
  · exact h.order
  · simpa only [hcounter] using h.used
  · simpa only [hcounter] using h.recent
  · simpa only [hcounter] using h.sinceBoot
  · simpa only [hcounter, heeprom] using h.unsaved
  · simpa only [hcounter, heeprom] using h.margin
  · simpa only [heeprom] using h.identity

theorem Inv.draw (h : Inv board t) {radio : CC2530Radio} {npdu : List UInt8}
    {psdu : Option (List UInt8)}
    (hcounter : radio.securityCounter = t.node.radio.securityCounter + 1)
    (hwrap : t.node.radio.securityCounter.toNat + 1 < 2 ^ 32) :
    Inv board { t with
      node := { t.node with radio := radio }
      drawn := t.drawn ++ [⟨radio.securityCounter, npdu, psdu⟩]
      sinceBoot := t.sinceBoot + 1
      sinceSave := t.sinceSave.map (· + 1) } := by
  have hnat : radio.securityCounter.toNat = t.node.radio.securityCounter.toNat + 1 := by
    have hone : (1 : UInt32).toNat = 1 := rfl
    rw [hcounter, UInt32.toNat_add, hone]
    omega
  have hless : ∀ d ∈ t.drawn, d.counter < radio.securityCounter := by
    intro d hd
    have hle := UInt32.le_iff_toNat_le.mp (h.used d hd)
    rw [UInt32.lt_iff_toNat_lt]
    omega
  constructor
  · refine List.pairwise_append.mpr ⟨h.order, List.pairwise_singleton _ _, ?_⟩
    intro a ha b hb
    rw [List.mem_singleton.mp hb]
    exact hless a ha
  · intro d hd
    rcases List.mem_append.mp hd with hold | hnew
    · exact UInt32.le_of_lt (hless d hold)
    · rw [List.mem_singleton.mp hnew]
      exact UInt32.le_refl _
  · intro c hc hlt
    have hle := UInt32.le_iff_toNat_le.mp hc
    simp only at hlt hle
    by_cases hnew : c.toNat = radio.securityCounter.toNat
    · exact ⟨_, List.mem_append_right _ (List.mem_singleton_self _),
        (UInt32.toNat_inj.mp hnew).symm⟩
    · obtain ⟨d, hd, hdc⟩ := h.recent c (UInt32.le_iff_toNat_le.mpr (by omega)) (by omega)
      exact ⟨d, List.mem_append_left _ hd, hdc⟩
  · have hboot := h.sinceBoot
    simp only
    omega
  · intro hnone
    have hunsaved := h.unsaved (Option.map_eq_none_iff.mp hnone)
    simp only
    omega
  · intro k hk
    obtain ⟨j, hj, rfl⟩ := Option.map_eq_some_iff.mp hk
    obtain ⟨hle, hmargin⟩ := h.margin j hj
    simp only
    omega
  · exact h.identity

theorem Inv.save (h : Inv board t)
    (hwrap : t.node.radio.securityCounter.toNat + kCounterMargin.toNat < 2 ^ 32) :
    Inv board { t with
      node := saveState board t.node, sinceSave := some 0, saved := t.node.network.info } := by
  have hradio : (saveState board t.node).radio = t.node.radio := by rw [saveState_eq]
  have hrestored : (restored board (saveState board t.node).eeprom).toNat =
      t.node.radio.securityCounter.toNat + kCounterMargin.toNat := by
    rw [restored_saved, UInt32.toNat_add]
    omega
  constructor
  · exact h.order
  · simpa only [hradio] using h.used
  · simpa only [hradio] using h.recent
  · simpa only [hradio] using h.sinceBoot
  · simp only [reduceCtorEq, false_implies]
  · intro k hk
    simp only [Option.some.injEq] at hk
    simp only [← hk, hradio, Nat.add_zero]
    exact ⟨Nat.zero_le _, hrestored⟩
  · intro info hinfo
    have hsame : t.node.network.info = info := Option.some.inj hinfo
    rw [← hsame]
    exact ⟨_, loadState_saved t.node, rfl, rfl, rfl, rfl, rfl, rfl, rfl⟩

/-- After a power cycle in time the counter starts no lower than it stood. -/
theorem Inv.counter_le (h : Inv board t) (htime : InTime t) :
    t.node.radio.securityCounter ≤ restored board t.node.eeprom := by
  rw [UInt32.le_iff_toNat_le]
  cases hsave : t.sinceSave with
  | none =>
    have hunsaved := h.unsaved hsave
    rcases htime with hzero | ⟨k, hk, -⟩
    · omega
    · rw [hsave] at hk
      cases hk
  | some k =>
    obtain ⟨hle, hmargin⟩ := h.margin k hsave
    rcases htime with hzero | ⟨j, hj, hjle⟩
    · omega
    · obtain rfl : k = j := Option.some.inj (hsave.symm.trans hj)
      omega

theorem Inv.powerCycle (h : Inv board t) (htime : InTime t) (nowMs : UInt32) :
    Inv board { t with
      node := setup board t.node.eeprom nowMs, sinceBoot := 0, sinceSave := none } := by
  have hcounter := h.counter_le htime
  constructor
  · exact h.order
  · intro d hd
    rw [setup_counter]
    exact UInt32.le_trans (h.used d hd) hcounter
  · intro c hc hlt
    have hle := UInt32.le_iff_toNat_le.mp hc
    simp only at hlt hle
    omega
  · exact Nat.zero_le _
  · intro _
    simp only [setup_counter, setup_eeprom, Nat.add_zero]
  · intro k hk
    cases hk
  · simpa only [setup_eeprom] using h.identity

theorem Inv.step (h : Inv board t) (op : Op) (hop : Kept t op) :
    Inv board (step board ecb t op) := by
  cases op with
  | transmit call =>
    simp only [PowerCycles.step]
    split
    · next hnone =>
      obtain ⟨_, _, _, _, hradio⟩ : Sequences t.node.radio (call.run ecb t.node.radio).1 :=
        call.run_unsecuring hnone
      exact h.aside (by rw [hradio]) rfl
    · next npdu hsome =>
      obtain ⟨-, -, s, -, -, ⟨stats, _, _, _, _, hradio⟩, -⟩ :=
        TxCall.run_securing ecb hsome
      exact h.draw (by rw [hradio]) hop
  | receive rssi lqi psdu =>
    obtain ⟨r', events, hevents, hkeeps, -⟩ :=
      receivePsdu_gated (r := t.node.radio) ecb rssi lqi psdu
    obtain ⟨security, rfl, -⟩ := hkeeps
    simp only [PowerCycles.step, hevents]
    exact h.aside rfl rfl
  | installKey key keySequence => exact h.aside rfl rfl
  | network op => exact h.aside rfl rfl
  | save =>
    simp only [PowerCycles.step]
    split
    · exact h.save hop
    · exact h
  | powerCycle nowMs => exact h.powerCycle hop nowMs

theorem setup_identity {s : ZigbeePersistentState} {eeprom : List UInt8}
    (hdevice : board.isCoordinator = false) (hload : loadState board eeprom = some s)
    (nowMs : UInt32) :
    (setup board eeprom nowMs).network.info.joined = true ∧
    (setup board eeprom nowMs).network.info.panId = s.panId ∧
    (setup board eeprom nowMs).network.info.extendedPanId = s.extendedPanId ∧
    (setup board eeprom nowMs).network.info.channel = s.channel ∧
    (setup board eeprom nowMs).network.info.nwkAddress = s.nwkAddress ∧
    (setup board eeprom nowMs).network.info.parentAddress = s.parentAddress ∧
    (setup board eeprom nowMs).network.info.depth = s.depth ∧
    (setup board eeprom nowMs).network.info.deviceType = s.deviceType := by
  simp only [setup, hdevice, Bool.false_eq_true, if_false, hload]
  exact ⟨rfl, rfl, rfl, rfl, rfl, rfl, rfl, rfl⟩

/-- The first counter used after a power cycle was used before exactly when the power cycle was not
in time. -/
theorem Inv.reuse_iff (h : Inv board t)
    (hwrap : (restored board t.node.eeprom).toNat + 1 < 2 ^ 32) :
    (∃ d ∈ t.drawn, d.counter = restored board t.node.eeprom + 1) ↔ ¬ InTime t := by
  have hnext : (restored board t.node.eeprom + 1).toNat =
      (restored board t.node.eeprom).toNat + 1 := by
    have hone : (1 : UInt32).toNat = 1 := rfl
    rw [UInt32.toNat_add, hone]
    omega
  have hle_iff (c : UInt32) : restored board t.node.eeprom + 1 ≤ c ↔
      (restored board t.node.eeprom).toNat + 1 ≤ c.toNat := by
    rw [UInt32.le_iff_toNat_le, hnext]
  constructor
  · rintro ⟨d, hd, hdc⟩ htime
    have hused := h.used d hd
    rw [hdc, hle_iff] at hused
    have hcounter := UInt32.le_iff_toNat_le.mp (h.counter_le htime)
    omega
  · intro hlate
    simp only [InTime, not_or, not_exists, not_and, not_le] at hlate
    obtain ⟨hboot, hmargin⟩ := hlate
    -- the node went past the saved counter in this life, and left out none on the way
    apply h.recent
    · rw [hle_iff]
      cases hsave : t.sinceSave with
      | none =>
        have hunsaved := h.unsaved hsave
        omega
      | some k =>
        have hsum := (h.margin k hsave).2
        have hlong := hmargin k hsave
        omega
    · rw [hnext]
      cases hsave : t.sinceSave with
      | none =>
        have hunsaved := h.unsaved hsave
        omega
      | some k =>
        obtain ⟨hk, hsum⟩ := h.margin k hsave
        omega

theorem Inv.run {eeprom : List UInt8} {nowMs : UInt32} {ops : List Op}
    (hrun : Runs.Along (PowerCycles.step board ecb) Kept (PowerCycles.first board eeprom nowMs)
      ops) :
    Inv board (ops.foldl (PowerCycles.step board ecb) (PowerCycles.first board eeprom nowMs)) :=
  hrun.invariant (I := Inv board) (fun _ op h hop => h.step op hop) (Inv.first eeprom nowMs)

/-- However power cycles, saves, transmissions, received frames, key changes and network events
follow one another: while every power cycle comes in time, no frame counter is used twice; the first
counter after one that does not come in time is a repeated one; and a device comes back with the
network identity of its last save. -/
theorem counters_across_power_cycles {eeprom : List UInt8} {nowMs : UInt32} {ops : List Op}
    (hrun : Runs.Along (step board ecb) Kept (first board eeprom nowMs) ops) :
    let t := ops.foldl (step board ecb) (first board eeprom nowMs)
    t.drawn.Pairwise (fun a b => a.counter < b.counter) ∧
    (∀ nowMs call npdu, TxCall.secures (setup board t.node.eeprom nowMs).radio call = some npdu →
      (restored board t.node.eeprom).toNat + 1 < 2 ^ 32 →
      ((∃ d ∈ t.drawn, d.counter =
          (call.run ecb (setup board t.node.eeprom nowMs).radio).1.securityCounter) ↔
        ¬ InTime t)) ∧
    (board.isCoordinator = false → ∀ info, t.saved = some info → ∀ nowMs,
      let now := (setup board t.node.eeprom nowMs).network.info
      now.joined = true ∧ now.panId = info.panId ∧ now.extendedPanId = info.extendedPanId ∧
        now.channel = info.channel ∧ now.nwkAddress = info.nwkAddress ∧
        now.parentAddress = info.parentAddress ∧ now.depth = info.depth ∧
        now.deviceType = info.deviceType) := by
  intro t
  have hinv : Inv board t := Inv.run hrun
  refine ⟨hinv.order, ?_, ?_⟩
  · intro nowMs call npdu hsome hwrap
    obtain ⟨-, -, s, -, -, ⟨stats, _, _, _, _, hradio⟩, -⟩ := TxCall.run_securing ecb hsome
    rw [hradio, setup_counter]
    exact hinv.reuse_iff hwrap
  · intro hdevice info hinfo nowMs
    obtain ⟨s, hload, h1, h2, h3, h4, h5, h6, h7⟩ := hinv.identity info hinfo
    have hback := setup_identity hdevice hload nowMs
    rw [h1, h2, h3, h4, h5, h6, h7] at hback
    exact hback

private def router : Board where
  thisIeee := 0x1A62195E00000002
  isCoordinator := false
  secureJoin := false
  panId := 0x1A62
  extPanId := 0x1A62195E00000000
  coordChannel := 15
  poolFirst := 0x31
  poolLast := 0x3F
  networkKey := Block.ofList [0x1A, 0x62]

private def report : TxCall :=
  .nwk ⟨0x1A62, 0, 1, 0, 1⟩ false (.data [0xAA] 30)

private def routerLife : List Op :=
  [.network (.beginJoinedDevice zbDeviceRouter 0x1A62 0x1A62195E00000000 15 1 0 1 0), .save,
    .transmit report, .powerCycle 0]

/-- A router that joins, saves, reports once and is switched off and on. -/
theorem counters_across_power_cycles_router :
    let t := routerLife.foldl (step router Aes128.encrypt) (first router [] 0)
    t.drawn.Pairwise (fun a b => a.counter < b.counter) ∧
    (∀ nowMs call npdu, TxCall.secures (setup router t.node.eeprom nowMs).radio call = some npdu →
      (restored router t.node.eeprom).toNat + 1 < 2 ^ 32 →
      ((∃ d ∈ t.drawn, d.counter =
          (call.run Aes128.encrypt (setup router t.node.eeprom nowMs).radio).1.securityCounter) ↔
        ¬ InTime t)) ∧
    (router.isCoordinator = false → ∀ info, t.saved = some info → ∀ nowMs,
      let now := (setup router t.node.eeprom nowMs).network.info
      now.joined = true ∧ now.panId = info.panId ∧ now.extendedPanId = info.extendedPanId ∧
        now.channel = info.channel ∧ now.nwkAddress = info.nwkAddress ∧
        now.parentAddress = info.parentAddress ∧ now.depth = info.depth ∧
        now.deviceType = info.deviceType) :=
  counters_across_power_cycles
    ⟨trivial, by unfold Kept; decide, by unfold Kept; decide, Or.inr ⟨1, rfl, by decide⟩, trivial⟩

end NiusZigbee.PowerCycles
