import NiusZigbee.Aps.DuplicateTable
import NiusZigbee.Aps.Retransmit
import NiusZigbee.Library.Runs

/-!
# End-to-end acknowledged delivery

One endpoint sends APDUs to one receiver over FIFO channels that may lose any message. The APDUs are
numbered in the order they are sent; the numbers ride along and nothing in the protocol reads them.
-/

namespace NiusZigbee.AckedDelivery

open OutBuffer ZigbeeAps ZigbeeApsRetransmit

/-- An APDU in flight or handed up, with its number. -/
structure Message where
  num : Nat
  apdu : List UInt8
deriving DecidableEq, Repr

/-- The sender's address, the receiver's, and the sender's endpoint. -/
structure Flow where
  srcShort : UInt16
  dstShort : UInt16
  srcEndpoint : UInt8

structure Net where
  retx : ZigbeeApsRetransmit
  /-- Counter of the next APDU. -/
  counter : UInt8
  dupes : List ApsDupeEntry
  /-- APDUs and acknowledgements in flight, oldest first. -/
  data : List Message := []
  acks : List (List UInt8) := []
  /-- The APDUs sent, by number, and the number of the APDU in each slot of the sender. -/
  log : List (List UInt8) := []
  owner : Nat → Nat := fun _ => 0
  /-- What the receiver handed up and what the sender saw confirmed, latest first. -/
  handed : List Message := []
  delivered : List Nat := []

inductive Action where
  | send (dstEndpoint : UInt8) (clusterId profileId : UInt16) (payload : List UInt8)
    (maxRetries : UInt8) (intervalMs : UInt16) (nowMs : UInt32)
  | retransmit (nowMs : UInt32)
  | receiveData (nowMs : UInt32)
  | receiveAck
  | loseData (i : Nat)
  | loseAck (i : Nat)
  /-- A frame of another peer reaches the receiver. -/
  | otherPeer (srcShort : UInt16) (srcEndpoint counter : UInt8) (nowMs : UInt32)

namespace Net

variable (f : Flow) (s : Net)

/-- A new APDU is built, transmitted and registered, unless one is still pending. -/
def send (dstEndpoint : UInt8) (clusterId profileId : UInt16) (payload : List UInt8)
    (maxRetries : UInt8) (intervalMs : UInt16) (nowMs : UInt32) : Net :=
  if s.retx.hasPendingFor f.dstShort f.srcEndpoint then s
  else
    let apdu := buildDataFrame kMaxFrame.toUInt8 dstEndpoint clusterId profileId f.srcEndpoint
      s.counter payload true
    if apdu.len = 0 then s
    else
      let (retx, slot) := s.retx.add f.dstShort s.counter f.srcEndpoint apdu.bytes maxRetries
        intervalMs nowMs
      { s with
        retx := retx
        counter := s.counter + 1
        data := s.data ++ [⟨s.log.length, apdu.bytes⟩]
        log := s.log ++ [apdu.bytes]
        owner := fun i => if slot = some i then s.log.length else s.owner i }

/-- What `due` returns is re-sent and marked. -/
def retransmit (nowMs : UInt32) : Net :=
  let (retx, slot) := s.retx.due nowMs
  match slot with
  | none => { s with retx := retx }
  | some i =>
    match retx.entries[i]? with
    | none => { s with retx := retx }
    | some e =>
      { s with
        retx := retx.markAttempted i nowMs
        data := s.data ++ [⟨s.owner i, e.frame⟩] }

/-- Every copy is recorded and acknowledged; a new one is handed up. -/
def receiveData (nowMs : UInt32) : Net :=
  match s.data with
  | [] => s
  | m :: data =>
    match parseDataFrame m.apdu with
    | some (true, aps) =>
      let (dupes, isNew) := ZigbeeApsDuplicateTable.checkAndRecord s.dupes f.srcShort
        aps.srcEndpoint aps.counter nowMs
      let ack := buildAckFrame kBaseHeaderLen.toUInt8 aps.srcEndpoint aps.clusterId aps.profileId
        aps.dstEndpoint aps.counter
      { s with
        data := data
        dupes := dupes
        acks := if aps.ackRequest then s.acks ++ [ack.bytes] else s.acks
        handed := if isNew then m :: s.handed else s.handed }
    | _ => { s with data := data }

def receiveAck : Net :=
  match s.acks with
  | [] => s
  | a :: acks =>
    match parseAckFrame a with
    | some (true, ack) =>
      let (retx, slot) := s.retx.onAck ack.counter ack.dstEndpoint
      { s with
        acks := acks
        retx := retx
        delivered := slot.toList.map s.owner ++ s.delivered }
    | _ => { s with acks := acks }

def step : Action → Net
  | .send dstEndpoint clusterId profileId payload maxRetries intervalMs nowMs =>
    s.send f dstEndpoint clusterId profileId payload maxRetries intervalMs nowMs
  | .retransmit nowMs => s.retransmit nowMs
  | .receiveData nowMs => s.receiveData f nowMs
  | .receiveAck => s.receiveAck
  | .loseData i => { s with data := s.data.eraseIdx i }
  | .loseAck i => { s with acks := s.acks.eraseIdx i }
  | .otherPeer srcShort srcEndpoint counter nowMs =>
    { s with
      dupes := (ZigbeeApsDuplicateTable.checkAndRecord s.dupes srcShort srcEndpoint counter
        nowMs).1 }

/-- At most 256 APDUs are sent, and no other peer takes over the sender's slot at the receiver. -/
def Allowed : Action → Prop
  | .send dstEndpoint clusterId profileId payload maxRetries intervalMs nowMs =>
    (s.send f dstEndpoint clusterId profileId payload maxRetries intervalMs nowMs).log.length ≤ 256
  | .otherPeer srcShort srcEndpoint _ _ =>
    (srcShort, srcEndpoint) ≠ (f.srcShort, f.srcEndpoint) ∧
    ∀ i e, ZigbeeApsDuplicateTable.slotFor s.dupes srcShort srcEndpoint = some i →
      s.dupes[i]? = some e → ZigbeeApsDuplicateTable.peer e ≠ some (f.srcShort, f.srcEndpoint)
  | _ => True

/-- Nothing sent yet, and nothing recorded of the sender. -/
def init (capacity counter : UInt8) (dupes : List ApsDupeEntry) : Net :=
  { retx := begin capacity, counter := counter, dupes := dupes }

end Net

/-! ## Numbers and counters -/

variable (f : Flow) (first : UInt8)

/-- The counter of the APDU numbered `num`. -/
def counterOf (num : Nat) : UInt8 := first + num.toUInt8

theorem counterOf_injective {a b : Nat} (ha : a < 256) (hb : b < 256)
    (h : counterOf first a = counterOf first b) : a = b := by
  have hbytes : a.toUInt8 = b.toUInt8 := (UInt8.add_right_inj first).mp h
  rw [← ByteCodec.toNat_toUInt8 ha, ← ByteCodec.toNat_toUInt8 hb, hbytes]

theorem counterOf_succ (num : Nat) : counterOf first (num + 1) = counterOf first num + 1 := by
  simp only [counterOf, Nat.toUInt8_eq, UInt8.ofNat_add, UInt8.ofNat_one, UInt8.add_assoc]

/-- A data frame of the sender that asks for an acknowledgement, with the counter of its number. -/
def Framed (num : Nat) (apdu : List UInt8) : Prop :=
  ∃ dstEndpoint clusterId profileId payload, payload.length ≤ kMaxPayload ∧
    apdu =
      dataBytes dstEndpoint clusterId profileId f.srcEndpoint (counterOf first num) true payload

/-- What the sender keeps about the APDU numbered `num`: its own bytes, as the latest one sent and
not yet confirmed. -/
def Kept (s : Net) (num : Nat) (id : UInt16 × UInt8 × UInt8 × List UInt8) : Prop :=
  ∃ apdu, id = (f.dstShort, counterOf first num, f.srcEndpoint, apdu) ∧
    s.log[num]? = some apdu ∧ num + 1 = s.log.length ∧ num ∉ s.delivered

structure Inv (s : Net) : Prop where
  counter : s.counter = counterOf first s.log.length
  bound : s.log.length ≤ 256
  framed : ∀ k apdu, s.log[k]? = some apdu → Framed f first k apdu
  kept : ∀ (i : Nat) (e : ApsPending), s.retx.entries[i]? = some e → e.used →
    Kept f first s (s.owner i) (identity e)
  single : ∀ (i j : Nat) (e e' : ApsPending), s.retx.entries[i]? = some e →
    s.retx.entries[j]? = some e' → e.used → e'.used → i = j
  data : ∀ m ∈ s.data, s.log[m.num]? = some m.apdu
  ordered : s.data.Pairwise (·.num ≤ ·.num)
  slots : s.dupes ≠ []
  recorded : (ZigbeeApsDuplicateTable.find s.dupes f.srcShort f.srcEndpoint).map (·.lastCounter) =
    s.handed.head?.map fun m => counterOf first m.num
  handed : ∀ m ∈ s.handed, s.log[m.num]? = some m.apdu
  sorted : s.handed.Pairwise (·.num > ·.num)
  behind : ∀ h ∈ s.handed, ∀ m ∈ s.data, h.num ≤ m.num
  acks : ∀ a ∈ s.acks, ∃ h ∈ s.handed, ∃ clusterId profileId srcEndpoint,
    a = ackBytes f.srcEndpoint clusterId profileId srcEndpoint (counterOf first h.num)
  nodup : s.delivered.Nodup
  confirmed : ∀ k ∈ s.delivered, k ∈ s.handed.map Message.num
  count : s.retx.stats.delivered = s.delivered.length.toUInt32

variable {f first} {s : Net}

theorem log_lt {k : Nat} {apdu : List UInt8} (h : s.log[k]? = some apdu) : k < s.log.length :=
  (List.getElem?_eq_some_iff.mp h).1

/-- The invariant only asks the sender's slots what they are about. -/
theorem Inv.keeps (h : Inv f first s) {retx : ZigbeeApsRetransmit} (hkeeps : Keeps s.retx retx)
    (hcount : retx.stats.delivered = s.retx.stats.delivered) :
    Inv f first { s with retx := retx } :=
  { h with
    kept := by
      intro i e' he' hused'
      obtain ⟨e, he, hused, hsame⟩ := hkeeps i e' he' hused'
      rw [hsame]
      exact h.kept i e he hused
    single := by
      intro i j e e' he he' hused hused'
      obtain ⟨x, hx, hxused, -⟩ := hkeeps i e he hused
      obtain ⟨y, hy, hyused, -⟩ := hkeeps j e' he' hused'
      exact h.single i j x y hx hy hxused hyused
    count := hcount.trans h.count }

theorem Inv.transmit (h : Inv f first s) {m : Message} (hlog : s.log[m.num]? = some m.apdu)
    (hlast : m.num + 1 = s.log.length) : Inv f first { s with data := s.data ++ [m] } :=
  { h with
    data := by
      intro m' hm'
      rcases List.mem_append.mp hm' with hm' | hm'
      · exact h.data m' hm'
      · rw [List.mem_singleton.mp hm']
        exact hlog
    ordered := by
      apply List.pairwise_append.mpr
      refine ⟨h.ordered, List.pairwise_singleton _ _, ?_⟩
      intro x hx m' hm'
      rw [List.mem_singleton.mp hm']
      have := log_lt (h.data x hx)
      omega
    behind := by
      intro x hx m' hm'
      rcases List.mem_append.mp hm' with hm' | hm'
      · exact h.behind x hx m' hm'
      · rw [List.mem_singleton.mp hm']
        have := log_lt (h.handed x hx)
        omega }

theorem Inv.sublist (h : Inv f first s) {data : List Message} (hsub : data.Sublist s.data) :
    Inv f first { s with data := data } :=
  { h with
    data := fun m hm => h.data m (hsub.subset hm)
    ordered := h.ordered.sublist hsub
    behind := fun x hx m hm => h.behind x hx m (hsub.subset hm) }

theorem Inv.acknowledge (h : Inv f first s) {x : Message} (hx : x ∈ s.handed)
    (clusterId profileId : UInt16) (srcEndpoint : UInt8) :
    Inv f first { s with
      acks := s.acks ++
        [ackBytes f.srcEndpoint clusterId profileId srcEndpoint (counterOf first x.num)] } :=
  { h with
    acks := by
      intro a ha
      rcases List.mem_append.mp ha with ha | ha
      · exact h.acks a ha
      · exact ⟨x, hx, clusterId, profileId, srcEndpoint, List.mem_singleton.mp ha⟩ }

/-! ## The sender -/

theorem Inv.unused (h : Inv f first s)
    (hpending : s.retx.hasPendingFor f.dstShort f.srcEndpoint = false) {i : Nat} {e : ApsPending}
    (he : s.retx.entries[i]? = some e) : ¬ e.used := by
  intro hused
  obtain ⟨apdu, hid, -⟩ := h.kept i e he hused
  simp only [identity, Prod.mk.injEq] at hid
  exact hasPendingFor_eq_false hpending he hused ⟨hid.1, hid.2.2.1⟩

theorem Inv.register (h : Inv f first s)
    (hpending : s.retx.hasPendingFor f.dstShort f.srcEndpoint = false) {apdu : List UInt8}
    (hframed : Framed f first s.log.length apdu) (hbound : (s.log ++ [apdu]).length ≤ 256)
    (maxRetries : UInt8) (intervalMs : UInt16) (nowMs : UInt32) :
    let added := s.retx.add f.dstShort s.counter f.srcEndpoint apdu maxRetries intervalMs nowMs
    Inv f first { s with
      retx := added.1
      counter := s.counter + 1
      log := s.log ++ [apdu]
      owner := fun i => if added.2 = some i then s.log.length else s.owner i } := by
  intro added
  have hlast : (s.log ++ [apdu])[s.log.length]? = some apdu := List.getElem?_concat_length
  have hold : ∀ {k : Nat} {x : List UInt8}, s.log[k]? = some x → (s.log ++ [apdu])[k]? = some x :=
    fun hk => by rw [List.getElem?_append_left (log_lt hk), hk]
  have hsize : (s.log ++ [apdu]).length = s.log.length + 1 := List.length_append
  -- the only slot in use is the one `add` has just taken
  have htaken : ∀ {i : Nat} {e : ApsPending}, added.1.entries[i]? = some e → e.used →
      added.2 = some i ∧ identity e = (f.dstShort, s.counter, f.srcEndpoint, apdu) := by
    intro i e he hused
    rcases add_used he with htaken | hbefore
    · exact htaken
    · exact absurd hused (h.unused hpending hbefore)
  exact
    { h with
      counter := by rw [h.counter, hsize, counterOf_succ]
      bound := hbound
      framed := by
        intro k x hk
        rcases Nat.lt_or_ge k s.log.length with hlt | hge
        · rw [List.getElem?_append_left hlt] at hk
          exact h.framed k x hk
        · obtain rfl : k = s.log.length := by
            have hlt : k < (s.log ++ [apdu]).length := (List.getElem?_eq_some_iff.mp hk).1
            omega
          rw [hlast, Option.some.injEq] at hk
          exact hk ▸ hframed
      kept := by
        intro i e he hused
        obtain ⟨hslot, hid⟩ := htaken he hused
        simp only [hslot, if_true]
        refine ⟨apdu, by rw [hid, h.counter], hlast, hsize.symm, ?_⟩
        intro hmem
        obtain ⟨m, hm, hnum⟩ := List.mem_map.mp (h.confirmed _ hmem)
        have := log_lt (h.handed m hm)
        omega
      single := by
        intro i j e e' he he' hused hused'
        have hi := (htaken he hused).1
        rw [(htaken he' hused').1] at hi
        exact (Option.some.inj hi).symm
      data := fun m hm => hold (h.data m hm)
      handed := fun m hm => hold (h.handed m hm)
      count := add_stats_delivered.trans h.count }

theorem send_inv (h : Inv f first s) (dstEndpoint : UInt8) (clusterId profileId : UInt16)
    (payload : List UInt8) (maxRetries : UInt8) (intervalMs : UInt16) (nowMs : UInt32)
    (hbound : (s.send f dstEndpoint clusterId profileId payload maxRetries intervalMs
      nowMs).log.length ≤ 256) :
    Inv f first (s.send f dstEndpoint clusterId profileId payload maxRetries intervalMs nowMs) := by
  simp only [Net.send] at hbound ⊢
  split
  · exact h
  next hpending =>
  rw [if_neg hpending] at hbound
  split
  · exact h
  next hbuilt =>
  rw [if_neg hbuilt] at hbound
  obtain ⟨hlen, hbytes⟩ := buildDataFrame_bytes hbuilt
  rw [hbytes, Built.exact_bytes] at hbound ⊢
  have hframed : Framed f first s.log.length
      (dataBytes dstEndpoint clusterId profileId f.srcEndpoint s.counter true payload) :=
    ⟨dstEndpoint, clusterId, profileId, payload, hlen, by rw [h.counter]⟩
  have hregistered := h.register (Bool.eq_false_iff.mpr hpending) hframed hbound maxRetries
    intervalMs nowMs
  refine hregistered.transmit List.getElem?_concat_length ?_
  rw [List.length_append, List.length_singleton]

theorem retransmit_inv (h : Inv f first s) (nowMs : UInt32) :
    Inv f first (s.retransmit nowMs) := by
  simp only [Net.retransmit]
  cases hslot : (s.retx.due nowMs).2 with
  | none => exact h.keeps (due_keeps nowMs) rfl
  | some i =>
    obtain ⟨e, he, hused⟩ := due_some hslot
    simp only [he]
    obtain ⟨old, hold, holdUsed, hsame⟩ := due_keeps nowMs i e he hused
    obtain ⟨apdu, hid, hlog, hlast, -⟩ := h.kept i old hold holdUsed
    have hframe : e.frame = apdu := by
      rw [hid] at hsame
      simp only [identity, Prod.mk.injEq] at hsame
      exact hsame.2.2.2
    have hmarked : Keeps s.retx ((s.retx.due nowMs).1.markAttempted i nowMs) :=
      (due_keeps nowMs).trans (markAttempted_keeps i nowMs)
    have hnext := h.keeps hmarked (markAttempted_delivered i nowMs)
    rw [hframe]
    exact hnext.transmit hlog hlast

/-! ## The receiver -/

theorem Framed.parse {num : Nat} {apdu : List UInt8} (h : Framed f first num apdu) :
    ∃ aps, parseDataFrame apdu = some (true, aps) ∧ aps.srcEndpoint = f.srcEndpoint ∧
      aps.counter = counterOf first num ∧ aps.ackRequest = true := by
  obtain ⟨dstEndpoint, clusterId, profileId, payload, hlen, rfl⟩ := h
  exact ⟨_, parseDataFrame_bytes hlen, rfl, rfl, rfl⟩

/-- In order, an APDU whose counter is the one last recorded is the APDU last handed up. -/
theorem Inv.head (h : Inv f first s) {m : Message} (hm : m ∈ s.data) :
    (s.handed.head?.map fun x => counterOf first x.num) = some (counterOf first m.num) ↔
      ∃ x ∈ s.handed, x.num = m.num := by
  have hmlt : m.num < 256 := Nat.lt_of_lt_of_le (log_lt (h.data m hm)) h.bound
  have hsorted := h.sorted
  have hbehind : ∀ x ∈ s.handed, x.num ≤ m.num := fun x hx => h.behind x hx m hm
  cases hhanded : s.handed with
  | nil => simp
  | cons x rest =>
    rw [hhanded] at hsorted hbehind
    simp only [List.head?_cons, Option.map_some, Option.some.injEq]
    constructor
    · intro hcounter
      have hxm := hbehind x List.mem_cons_self
      exact ⟨x, List.mem_cons_self, counterOf_injective first (by omega) hmlt hcounter⟩
    · rintro ⟨y, hy, hnum⟩
      have hxm := hbehind x List.mem_cons_self
      rcases List.mem_cons.mp hy with rfl | hy
      · rw [hnum]
      · have := (List.pairwise_cons.mp hsorted).1 y hy
        omega

theorem receiveData_inv (h : Inv f first s) (nowMs : UInt32) :
    Inv f first (s.receiveData f nowMs) := by
  simp only [Net.receiveData]
  cases hdata : s.data with
  | nil => exact h
  | cons m data =>
    have hm : m ∈ s.data := by rw [hdata]; exact List.mem_cons_self
    have hpopped : Inv f first { s with data := data } :=
      h.sublist (hdata ▸ List.sublist_cons_self m data)
    have hlog := h.data m hm
    obtain ⟨aps, hparse, hsrc, hcounter, hack⟩ := (h.framed _ _ hlog).parse
    simp only [hparse, hsrc, hcounter, hack, if_true]
    have hack : (buildAckFrame kBaseHeaderLen.toUInt8 f.srcEndpoint aps.clusterId aps.profileId
        aps.dstEndpoint (counterOf first m.num)).bytes =
        ackBytes f.srcEndpoint aps.clusterId aps.profileId aps.dstEndpoint
          (counterOf first m.num) := by
      rw [buildAckFrame_bytes (by decide), Built.exact_bytes]
    have hfind := ZigbeeApsDuplicateTable.checkAndRecord_find f.srcShort f.srcEndpoint
      (counterOf first m.num) nowMs h.slots
    have hslots := ZigbeeApsDuplicateTable.checkAndRecord_ne_nil f.srcShort f.srcEndpoint
      (counterOf first m.num) nowMs h.slots
    have hnew := ZigbeeApsDuplicateTable.checkAndRecord_isNew f.srcShort f.srcEndpoint
      (counterOf first m.num) nowMs h.slots
    rw [h.recorded, Ne, h.head hm] at hnew
    generalize ZigbeeApsDuplicateTable.checkAndRecord s.dupes f.srcShort f.srcEndpoint
      (counterOf first m.num) nowMs = result at hfind hslots hnew ⊢
    obtain ⟨dupes, isNew⟩ := result
    simp only at hfind hslots hnew
    rw [hack]
    cases isNew with
    | true =>
      have hfresh : ∀ x ∈ s.handed, x.num < m.num := by
        intro x hx
        have hle := h.behind x hx m hm
        have hne : x.num ≠ m.num := fun heq => hnew.mp rfl ⟨x, hx, heq⟩
        omega
      have hhanded : Inv f first
          { s with data := data, dupes := dupes, handed := m :: s.handed } :=
        { hpopped with
          slots := hslots
          recorded := hfind
          handed := by
            intro x hx
            rcases List.mem_cons.mp hx with rfl | hx
            · exact hlog
            · exact h.handed x hx
          sorted := List.pairwise_cons.mpr ⟨hfresh, h.sorted⟩
          behind := by
            intro x hx y hy
            rcases List.mem_cons.mp hx with rfl | hx
            · exact (List.pairwise_cons.mp (hdata ▸ h.ordered)).1 y hy
            · exact hpopped.behind x hx y hy
          acks := by
            intro a ha
            obtain ⟨x, hx, hbytes⟩ := h.acks a ha
            exact ⟨x, List.mem_cons_of_mem m hx, hbytes⟩
          confirmed := fun k hk => List.mem_cons_of_mem _ (h.confirmed k hk) }
      exact hhanded.acknowledge List.mem_cons_self _ _ _
    | false =>
      obtain ⟨x, hx, hnum⟩ : ∃ x ∈ s.handed, x.num = m.num := by
        by_contra hnone
        exact Bool.false_ne_true (hnew.mpr hnone)
      have hrepeated : Inv f first { s with data := data, dupes := dupes } :=
        { hpopped with
          slots := hslots
          recorded := by rw [hfind]; exact ((h.head hm).mpr ⟨x, hx, hnum⟩).symm }
      rw [← hnum]
      exact hrepeated.acknowledge hx _ _ _

/-! ## Acknowledgements -/

/-- An acknowledgement confirms at most the APDU whose counter it carries. -/
theorem receiveAck_inv (h : Inv f first s) : Inv f first s.receiveAck := by
  simp only [Net.receiveAck]
  cases hacks : s.acks with
  | nil => exact h
  | cons a acks =>
    have hrest : ∀ x ∈ acks, x ∈ s.acks := fun x hx => hacks ▸ List.mem_cons_of_mem a hx
    obtain ⟨x, hx, clusterId, profileId, srcEndpoint, rfl⟩ :=
      h.acks a (hacks ▸ List.mem_cons_self)
    simp only [parseAckFrame_bytes]
    rcases onAck_cases s.retx (counterOf first x.num) f.srcEndpoint with
      hnone | ⟨i, e, he, hused, hcounter, -, hmatch⟩
    · rw [hnone]
      exact { h with acks := fun y hy => h.acks y (hrest y hy) }
    · obtain ⟨apdu, hid, hlog, hlast, hfresh⟩ := h.kept i e he hused
      simp only [identity, Prod.mk.injEq] at hid
      have hnum : s.owner i = x.num := by
        apply counterOf_injective first
        · exact Nat.lt_of_lt_of_le (log_lt hlog) h.bound
        · exact Nat.lt_of_lt_of_le (log_lt (h.handed x hx)) h.bound
        · rw [← hid.2.1, hcounter]
      rw [hmatch]
      have hcleared : ∀ {j : Nat} {e' : ApsPending},
          (s.retx.entries.set i {})[j]? = some e' → ¬ e'.used := by
        intro j e' he' hused'
        obtain ⟨hne, hbefore⟩ := clear_used he' hused'
        exact hne (h.single j i e' e hbefore he hused' hused)
      exact
        { h with
          kept := fun j e' he' hused' => absurd hused' (hcleared he')
          single := fun j k e' e'' he' he'' hused' => absurd hused' (hcleared he')
          acks := fun y hy => h.acks y (hrest y hy)
          nodup := List.nodup_cons.mpr ⟨hfresh, h.nodup⟩
          confirmed := by
            intro k hk
            rcases List.mem_cons.mp hk with rfl | hk
            · rw [hnum]
              exact List.mem_map_of_mem hx
            · exact h.confirmed k hk
          count := by
            simp only [Option.toList_some, List.map_cons, List.map_nil, List.cons_append,
              List.nil_append, List.length_cons, h.count]
            exact (UInt32.ofNat_add _ _).symm }

/-! ## Runs -/

theorem step_inv (h : Inv f first s) (a : Action) (ha : s.Allowed f a) :
    Inv f first (s.step f a) := by
  cases a with
  | send dstEndpoint clusterId profileId payload maxRetries intervalMs nowMs =>
    exact send_inv h dstEndpoint clusterId profileId payload maxRetries intervalMs nowMs ha
  | retransmit nowMs => exact retransmit_inv h nowMs
  | receiveData nowMs => exact receiveData_inv h nowMs
  | receiveAck => exact receiveAck_inv h
  | loseData i => exact h.sublist (List.eraseIdx_sublist s.data i)
  | loseAck i =>
    exact { h with acks := fun a ha => h.acks a ((List.eraseIdx_sublist s.acks i).subset ha) }
  | otherPeer srcShort srcEndpoint counter nowMs =>
    exact
      { h with
        slots := ZigbeeApsDuplicateTable.checkAndRecord_ne_nil _ _ _ _ h.slots
        recorded := by
          rw [Net.step, ZigbeeApsDuplicateTable.checkAndRecord_other ha.1 ha.2]
          exact h.recorded }

theorem init_inv (capacity : UInt8) {dupes : List ApsDupeEntry} (hslots : dupes ≠ [])
    (hfind : ZigbeeApsDuplicateTable.find dupes f.srcShort f.srcEndpoint = none) :
    Inv f first (Net.init capacity first dupes) := by
  have hunused : ∀ {i : Nat} {e : ApsPending},
      (List.replicate capacity.toNat ({} : ApsPending))[i]? = some e → ¬ e.used := by
    intro i e he hused
    obtain ⟨-, rfl⟩ := List.mem_replicate.mp (List.mem_of_getElem? he)
    cases hused
  exact
    { counter := (UInt8.add_zero first).symm
      bound := Nat.zero_le _
      framed := fun k apdu hk => by simp [Net.init] at hk
      kept := fun i e he hused => absurd hused (hunused he)
      single := fun i j e e' he he' hused => absurd hused (hunused he)
      data := fun m hm => absurd hm List.not_mem_nil
      ordered := List.Pairwise.nil
      slots := hslots
      recorded := by simp [Net.init, hfind]
      handed := fun m hm => absurd hm List.not_mem_nil
      sorted := List.Pairwise.nil
      behind := fun x hx => absurd hx List.not_mem_nil
      acks := fun a ha => absurd ha List.not_mem_nil
      nodup := List.nodup_nil
      confirmed := fun k hk => absurd hk List.not_mem_nil
      count := rfl }

/-- However sends, losses, retransmissions and give-ups are interleaved, no APDU is handed up twice,
what is handed up is what was sent, and every APDU counted as delivered has been handed up. -/
theorem delivered_at_most_once (capacity : UInt8) {dupes : List ApsDupeEntry} (hslots : dupes ≠ [])
    (hfind : ZigbeeApsDuplicateTable.find dupes f.srcShort f.srcEndpoint = none)
    {as : List Action}
    (h : Runs.Along (Net.step f) (Net.Allowed f) (Net.init capacity first dupes) as) :
    let s := as.foldl (Net.step f) (Net.init capacity first dupes)
    (∀ k, (s.handed.map Message.num).count k ≤ 1) ∧
    (∀ m ∈ s.handed, s.log[m.num]? = some m.apdu) ∧
    s.retx.stats.delivered.toNat = s.delivered.length ∧ s.delivered.Nodup ∧
    ∀ k ∈ s.delivered, (s.handed.map Message.num).count k = 1 := by
  intro s
  have hinv : Inv f first s := h.invariant (I := Inv f first)
    (fun s a hs ha => step_inv hs a ha) (init_inv capacity hslots hfind)
  have hnodup : (s.handed.map Message.num).Nodup :=
    List.pairwise_map.mpr (hinv.sorted.imp Nat.ne_of_gt)
  have hlen : s.delivered.length ≤ 256 := by
    have hsub : s.delivered ⊆ List.range s.log.length := by
      intro k hk
      obtain ⟨m, hm, rfl⟩ := List.mem_map.mp (hinv.confirmed k hk)
      exact List.mem_range.mpr (log_lt (hinv.handed m hm))
    have hle := (hinv.nodup.subperm hsub).length_le
    rw [List.length_range] at hle
    exact Nat.le_trans hle hinv.bound
  refine ⟨List.nodup_iff_count_le_one.mp hnodup, hinv.handed, ?_, hinv.nodup, ?_⟩
  · rw [hinv.count]
    exact UInt32.toNat_ofNat_of_lt' (Nat.lt_of_le_of_lt hlen (by decide))
  · intro k hk
    exact List.count_eq_one_of_mem hnodup (hinv.confirmed k hk)

/-- One APDU whose first copy and whose first acknowledgement are lost. -/
private def lossyRun : List Action :=
  [.send 1 0x0006 0x0104 [1, 2] 3 100 0, .loseData 0, .retransmit 100, .receiveData 110, .loseAck 0,
    .retransmit 200, .receiveData 210, .receiveAck]

private def lossyFlow : Flow := ⟨0x1A62, 0, 1⟩

theorem delivered_at_most_once_lossy :
    let s := lossyRun.foldl (Net.step lossyFlow)
      (Net.init 1 255 (ZigbeeApsDuplicateTable.begin 2))
    s.delivered = [0] ∧ (s.handed.map Message.num).count 0 = 1 := by
  have hallowed : Runs.Along (Net.step lossyFlow) (Net.Allowed lossyFlow)
      (Net.init 1 255 (ZigbeeApsDuplicateTable.begin 2)) lossyRun :=
    ⟨Nat.le_of_ble_eq_true rfl, trivial, trivial, trivial, trivial, trivial, trivial, trivial,
      trivial⟩
  exact ⟨by decide,
    (delivered_at_most_once 1 (by decide) (by decide) hallowed).2.2.2.2 0 (by decide)⟩

end NiusZigbee.AckedDelivery
