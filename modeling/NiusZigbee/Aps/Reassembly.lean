import Mathlib.Data.Finset.Card
import NiusZigbee.Aps.Fragment
import NiusZigbee.Library.Runs

/-!
# Reassembly

The reassembler counts the blocks it has stored and compares the count with the announced total.
Fed the fragments of one payload, that is right in every order. Blocks at or past the total count
too, so a peer that sends such blocks is told of a payload with holes.
-/

namespace NiusZigbee.ZigbeeApsReassembler

open OutBuffer ZigbeeApsFragment Windows

/-! ## The count -/

/-- The indices marked as stored. -/
def stored (r : ZigbeeApsReassembler) : Finset Nat :=
  (Finset.range kMaxBlocks).filter fun k => r.got.getD k false

structure Counted (r : ZigbeeApsReassembler) : Prop where
  flags : r.got.length = kMaxBlocks
  count : r.received = r.stored.card

variable {r : ZigbeeApsReassembler}

theorem stored_reset (r : ZigbeeApsReassembler) : r.reset.stored = ∅ := by
  apply Finset.filter_eq_empty_iff.mpr
  intro k hk
  have hlt : k < kMaxBlocks := Finset.mem_range.mp hk
  simp [reset, hlt]

theorem counted_reset (r : ZigbeeApsReassembler) : r.reset.Counted :=
  ⟨List.length_replicate, by rw [stored_reset]; rfl⟩

theorem adopt_counted (h : r.Counted) (counter : UInt8) : (r.adopt counter).Counted := by
  rw [adopt]
  split
  · exact ⟨(counted_reset r).flags, (counted_reset r).count⟩
  · exact h

theorem storeBlock_stored (h : r.Counted) {index : UInt8} {data : List UInt8}
    (hfits : r.Fits index data.length) :
    (r.storeBlock index data).stored = insert index.toNat r.stored ∧
      (r.storeBlock index data).Counted := by
  have hindex : index.toNat < r.got.length := h.flags ▸ hfits.1
  have hget : ∀ k, (r.got.set index.toNat true).getD k false =
      if k = index.toNat then true else r.got.getD k false := by
    intro k
    simp only [List.getD_eq_getElem?_getD]
    by_cases hk : k = index.toNat
    · rw [if_pos hk, hk, List.getElem?_set_self hindex]
      rfl
    · rw [if_neg hk, List.getElem?_set_ne (Ne.symm hk)]
  have hstored : (r.storeBlock index data).stored = insert index.toNat r.stored := by
    ext k
    simp only [storeBlock, if_pos hfits, stored, Finset.mem_filter, Finset.mem_range,
      Finset.mem_insert, hget]
    by_cases hk : k = index.toNat
    · simp [hk, hfits.1]
    · simp [hk]
  refine ⟨hstored, ?_, ?_⟩
  · simp only [storeBlock, if_pos hfits, List.length_set]
    exact h.flags
  · have hmem : r.got.getD index.toNat false = true ↔ index.toNat ∈ r.stored := by
      simp [stored, hfits.1]
    rw [hstored]
    simp only [storeBlock, if_pos hfits]
    by_cases hgot : r.got.getD index.toNat false
    · rw [if_pos hgot, Finset.insert_eq_of_mem (hmem.mp hgot), h.count]
    · rw [if_neg hgot, Finset.card_insert_of_notMem (fun hin => hgot (hmem.mpr hin)), h.count]

theorem storeBlock_config (r : ZigbeeApsReassembler) (index : UInt8) (data : List UInt8) :
    (r.storeBlock index data).blockSize = r.blockSize ∧
      (r.storeBlock index data).totalBlocks = r.totalBlocks ∧
      (r.storeBlock index data).counter = r.counter ∧
      (r.storeBlock index data).haveCounter = r.haveCounter ∧
      (r.storeBlock index data).buffer.length = r.buffer.length := by
  rw [storeBlock]
  split
  · next hfits => exact ⟨rfl, rfl, rfl, rfl, overwrite_length hfits.2⟩
  · exact ⟨rfl, rfl, rfl, rfl, rfl⟩

/-- Where no stored index is past the total, a full count is every index. -/
theorem complete_iff (h : r.Counted) (hbelow : ∀ k ∈ r.stored, k < r.totalBlocks.toNat)
    (hpos : 0 < r.totalBlocks.toNat) :
    r.complete = true ↔ ∀ k < r.totalBlocks.toNat, k ∈ r.stored := by
  have hsub : r.stored ⊆ Finset.range r.totalBlocks.toNat :=
    fun k hk => Finset.mem_range.mpr (hbelow k hk)
  have htotal : r.totalBlocks > 0 := UInt8.lt_iff_toNat_lt.mpr hpos
  simp only [complete, htotal, decide_true, Bool.true_and, decide_eq_true_eq, ge_iff_le, h.count]
  constructor
  · intro hcard k hk
    have hall := Finset.eq_of_subset_of_card_le hsub (by rwa [Finset.card_range])
    rw [hall]
    exact Finset.mem_range.mpr hk
  · intro hall
    have hsuper : Finset.range r.totalBlocks.toNat ⊆ r.stored :=
      fun k hk => hall k (Finset.mem_range.mp hk)
    simpa using Finset.card_le_card hsuper

/-! ## The fragments of one payload -/

section RoundTrip

variable {f : ZigbeeApsFragmenter} {fed : Finset Nat} {k : Nat}

/-- The fragmenter's blocks cover the payload. -/
structure Whole (f : ZigbeeApsFragmenter) : Prop where
  size : 0 < f.blockSize.toNat
  header : kHeaderLen + f.blockSize.toNat < 256
  pos : 0 < f.total.toNat
  max : f.total.toNat ≤ 16
  covers : f.payload.length ≤ f.total.toNat * f.blockSize.toNat
  last : (f.total.toNat - 1) * f.blockSize.toNat ≤ f.payload.length

/-- A reassembler that holds these blocks of the payload and nothing else. -/
structure Assembling (f : ZigbeeApsFragmenter) (fed : Finset Nat) (r : ZigbeeApsReassembler) :
    Prop where
  counted : r.Counted
  current : r.haveCounter = true ∧ r.counter = f.counter
  size : r.blockSize = f.blockSize
  room : f.payload.length ≤ r.buffer.length
  stored : r.stored = fed
  below : ∀ k ∈ fed, k < f.total.toNat
  total : r.totalBlocks = if 0 ∈ fed then f.total else 0
  holds : ∀ k ∈ fed, Holds f.blockSize.toNat f.payload r.buffer k
  length : r.length ≤ f.payload.length
  last : f.total.toNat - 1 ∈ fed → r.length = f.payload.length

theorem Whole.block_end (h : Whole f) (hk : k < f.total.toNat) :
    k * f.blockSize.toNat + (window f.blockSize.toNat f.payload k).length ≤ f.payload.length ∧
      (k = f.total.toNat - 1 →
        k * f.blockSize.toNat + (window f.blockSize.toNat f.payload k).length =
          f.payload.length) := by
  have hmono : k * f.blockSize.toNat ≤ (f.total.toNat - 1) * f.blockSize.toNat :=
    Nat.mul_le_mul_right _ (by omega)
  have hlast := h.last
  rw [window_length]
  refine ⟨by omega, ?_⟩
  intro heq
  have hcovers := h.covers
  have hsucc : f.total.toNat * f.blockSize.toNat = k * f.blockSize.toNat + f.blockSize.toNat := by
    rw [← Nat.succ_mul, Nat.succ_eq_add_one, heq, Nat.sub_add_cancel h.pos]
  omega

theorem Assembling.store (hf : Whole f) (h : Assembling f fed r) (hk : k < f.total.toNat)
    {total : UInt8} (htotal : total = if k = 0 then f.total else r.totalBlocks) :
    Assembling f (insert k fed)
      ({ r with totalBlocks := total }.storeBlock k.toUInt8
        (window f.blockSize.toNat f.payload k)) := by
  have hmax := hf.max
  have hkNat : k.toUInt8.toNat = k := ByteCodec.toNat_toUInt8 (by omega)
  obtain ⟨hend, hlastEnd⟩ := hf.block_end hk
  have hroom := h.room
  have hfits : Fits { r with totalBlocks := total } k.toUInt8
      (window f.blockSize.toNat f.payload k).length := by
    refine ⟨by rw [hkNat, kMaxBlocks]; omega, ?_⟩
    simp only [hkNat, h.size]
    omega
  have hcounted : Counted { r with totalBlocks := total } := ⟨h.counted.flags, h.counted.count⟩
  obtain ⟨hstored, hcounted'⟩ := storeBlock_stored hcounted hfits
  obtain ⟨hsize, hsame, hcounter, hhave, hbuffer⟩ := storeBlock_config
    { r with totalBlocks := total } k.toUInt8 (window f.blockSize.toNat f.payload k)
  have hfit : k * f.blockSize.toNat + (window f.blockSize.toNat f.payload k).length ≤
      r.buffer.length := by omega
  have hnewBuffer : ({ r with totalBlocks := total }.storeBlock k.toUInt8
      (window f.blockSize.toNat f.payload k)).buffer =
      overwrite r.buffer (k * f.blockSize.toNat) (window f.blockSize.toNat f.payload k) := by
    rw [storeBlock, if_pos hfits, hkNat, h.size]
  have hnewLength : ({ r with totalBlocks := total }.storeBlock k.toUInt8
      (window f.blockSize.toNat f.payload k)).length =
      max r.length (k * f.blockSize.toNat + (window f.blockSize.toNat f.payload k).length) := by
    rw [storeBlock, if_pos hfits, hkNat, h.size]
    simp only
    split <;> omega
  have hlength := h.length
  refine ⟨hcounted', ⟨hhave.trans h.current.1, hcounter.trans h.current.2⟩, hsize.trans h.size,
    ?_, ?_, ?_, ?_, ?_, ?_, ?_⟩
  · rw [hbuffer]
    exact h.room
  · rw [hstored, hkNat]
    exact congrArg _ h.stored
  · intro j hj
    rcases Finset.mem_insert.mp hj with rfl | hj
    · exact hk
    · exact h.below j hj
  · rw [hsame]
    simp only [htotal, Finset.mem_insert]
    by_cases hzero : k = 0
    · simp [hzero]
    · simp [hzero, Ne.symm hzero, h.total]
  · intro j hj
    rw [hnewBuffer]
    rcases Finset.mem_insert.mp hj with rfl | hj
    · exact holds_stored hfit
    · exact (h.holds j hj).store hfit
  · rw [hnewLength]
    omega
  · intro hlast
    rw [hnewLength]
    rcases Finset.mem_insert.mp hlast with heq | hlast
    · have := hlastEnd heq.symm
      omega
    · have := h.last hlast
      omega

/-- With every block stored, and not before, the payload is complete and in place. -/
theorem Assembling.complete (hf : Whole f) (h : Assembling f fed r) :
    (r.complete = true ↔ ∀ k < f.total.toNat, k ∈ fed) ∧
      (r.complete = true → r.length = f.payload.length ∧ r.buffer.take r.length = f.payload) := by
  have hiff : r.complete = true ↔ ∀ k < f.total.toNat, k ∈ fed := by
    by_cases hfirst : 0 ∈ fed
    · have htotal : r.totalBlocks = f.total := by rw [h.total, if_pos hfirst]
      have hbelow : ∀ k ∈ r.stored, k < r.totalBlocks.toNat := by
        rw [h.stored, htotal]
        exact h.below
      rw [complete_iff h.counted hbelow (htotal ▸ hf.pos), htotal, h.stored]
    · have htotal : r.totalBlocks = 0 := by rw [h.total, if_neg hfirst]
      constructor
      · intro hcomplete
        simp [ZigbeeApsReassembler.complete, htotal] at hcomplete
      · intro hall
        exact absurd (hall 0 hf.pos) hfirst
  refine ⟨hiff, fun hcomplete => ?_⟩
  have hall := hiff.mp hcomplete
  have hlen := h.last (hall _ (Nat.sub_lt hf.pos Nat.one_pos))
  refine ⟨hlen, ?_⟩
  rw [hlen]
  exact take_of_holds hf.size hf.covers h.room fun k hk => h.holds k (hall k hk)

/-- A received APDU: a fragment goes to `addBlock`. -/
def receive (r : ZigbeeApsReassembler) (apdu : List UInt8) : ZigbeeApsReassembler × Bool :=
  match parseFragment apdu with
  | some (true, info) => r.addBlock info apdu
  | _ => (r, false)

/-- The reassembler has nothing of this ASDU yet, or these blocks of it. -/
def Ready (f : ZigbeeApsFragmenter) (fed : Finset Nat) (r : ZigbeeApsReassembler) : Prop :=
  Assembling f fed r ∨
  fed = ∅ ∧ ¬ (r.haveCounter = true ∧ r.counter = f.counter) ∧ r.blockSize = f.blockSize ∧
    f.payload.length ≤ r.buffer.length

theorem Ready.adopt (h : Ready f fed r) : Assembling f fed (r.adopt f.counter) := by
  rcases h with h | ⟨rfl, hother, hsize, hroom⟩
  · have hown : ¬ (!r.haveCounter || f.counter ≠ r.counter) = true := by
      simp [h.current.1, h.current.2]
    rw [ZigbeeApsReassembler.adopt, if_neg hown]
    exact h
  · have hfresh : (!r.haveCounter || f.counter ≠ r.counter) = true := by
      by_cases hhave : r.haveCounter = true
      · have hne : r.counter ≠ f.counter := fun heq => hother ⟨hhave, heq⟩
        simp [Ne.symm hne]
      · simp [hhave]
    rw [ZigbeeApsReassembler.adopt, if_pos hfresh]
    have hcounted := counted_reset r
    exact ⟨⟨hcounted.flags, hcounted.count⟩, ⟨rfl, rfl⟩, hsize, hroom, stored_reset r,
      by simp, rfl, by simp, Nat.zero_le _, by simp⟩

theorem parse_fragment (hf : Whole f) (ackRequest : Bool) (k : Nat) :
    ∃ info, parseFragment (f.fragment ackRequest k) = some (true, info) ∧ info.valid = true ∧
      info.counter = f.counter ∧ info.firstBlock = decide (k = 0) ∧
      info.blockNumber = (if k = 0 then f.total else k.toUInt8) ∧
      info.payloadBytes (f.fragment ackRequest k) = window f.blockSize.toNat f.payload k := by
  have hlen : kHeaderLen + (window f.blockSize.toNat f.payload k).length < 256 := by
    have hheader := hf.header
    have hwindow := window_length f.blockSize.toNat f.payload k
    omega
  exact ⟨_, parseFragment_bytes hlen, rfl, rfl, rfl, rfl, payloadBytes_fragment⟩

theorem receive_fragment (hf : Whole f) (h : Ready f fed r) (hk : k < f.total.toNat)
    (ackRequest : Bool) :
    Assembling f (insert k fed) (r.receive (f.fragment ackRequest k)).1 ∧
      (r.receive (f.fragment ackRequest k)).2 =
        (r.receive (f.fragment ackRequest k)).1.complete := by
  obtain ⟨info, hparse, hvalid, hcounter, hfirst, hnumber, hpayload⟩ :=
    parse_fragment hf ackRequest k
  have hadopted := h.adopt
  have hnot : ¬ (!info.valid) = true := by simp [hvalid]
  simp only [receive, hparse, addBlock, if_neg hnot, hcounter, hfirst, hnumber, hpayload, and_true]
  by_cases hzero : k = 0
  · have hstore := hadopted.store hf hk (if_pos hzero).symm
    simpa [hzero] using hstore
  · have hstore := hadopted.store hf hk (if_neg hzero).symm
    simpa [hzero] using hstore

theorem Ready.run (hf : Whole f) (h : Ready f ∅ r) (ackRequest : Bool) (order : List Nat)
    (hbelow : ∀ k ∈ order, k < f.total.toNat) :
    Ready f order.toFinset
      (order.foldl (fun r k => (r.receive (f.fragment ackRequest k)).1) r) := by
  induction order using List.reverseRecOn with
  | nil => exact h
  | append_singleton order k ih =>
    left
    have hready := ih fun j hj => hbelow j (List.mem_append_left _ hj)
    have hk := hbelow k (List.mem_append_right _ List.mem_cons_self)
    have hstep := (receive_fragment hf hready hk ackRequest).1
    rw [List.foldl_append, List.foldl_cons, List.foldl_nil, List.toFinset_append,
      Finset.union_comm]
    simpa using hstep

section Begin

variable {payload : List UInt8} {blockSize dstEndpoint outMax : UInt8}
  {clusterId profileId : UInt16} {srcEndpoint counter : UInt8}

theorem whole_begin (hsize : 1 ≤ blockSize.toNat ∧ blockSize.toNat ≤ 245)
    (hblocks : payload.length ≤ 16 * blockSize.toNat) :
    Whole (ZigbeeApsFragmenter.begin payload blockSize dstEndpoint clusterId profileId srcEndpoint
      counter) := by
  obtain ⟨hsizeEq, hpos, hmax, hcovers, hlast⟩ := @ZigbeeApsFragmenter.begin_total payload blockSize
    dstEndpoint clusterId profileId srcEndpoint counter hsize.1 hblocks
  constructor
  · rw [hsizeEq]
    exact hsize.1
  · rw [hsizeEq, kHeaderLen, kBaseHeaderLen, kExtHeaderLen]
    omega
  · exact hpos
  · exact hmax
  · rw [hsizeEq]
    exact hcovers
  · rw [hsizeEq]
    exact hlast

theorem drain_begin (hsize : 1 ≤ blockSize.toNat ∧ blockSize.toNat ≤ 245)
    (hblocks : payload.length ≤ 16 * blockSize.toNat)
    (hout : kHeaderLen + min blockSize.toNat payload.length ≤ outMax.toNat) (ackRequest : Bool) :
    let f := ZigbeeApsFragmenter.begin payload blockSize dstEndpoint clusterId profileId srcEndpoint
      counter
    f.drain outMax ackRequest 16 =
      ({ f with index := f.total }, (List.range f.total.toNat).map (f.fragment ackRequest)) := by
  intro f
  obtain ⟨hsizeEq, _, hmax, _⟩ : f.blockSize = blockSize ∧ 0 < f.total.toNat ∧
      f.total.toNat ≤ 16 ∧ _ := ZigbeeApsFragmenter.begin_total hsize.1 hblocks
  rw [List.range_eq_range']
  apply f.drain_fragments (Nat.zero_le _)
  · have hindex : f.index.toNat = 0 := rfl
    omega
  · intro k _
    have hwindow := window_length f.blockSize.toNat f.payload k
    have hpayload : f.payload = payload := rfl
    rw [hsizeEq, hpayload] at hwindow ⊢
    omega

end Begin

private theorem all_mem_map_val {n m : Nat} (h : n = m) (order : List (Fin n)) :
    (∀ k < m, k ∈ order.map Fin.val) ↔ ∀ j, j ∈ order := by
  subst h
  constructor
  · intro hall j
    obtain ⟨j', hj', heq⟩ := List.mem_map.mp (hall j j.isLt)
    exact Fin.ext heq ▸ hj'
  · intro hall k hk
    exact List.mem_map_of_mem (hall ⟨k, hk⟩)

/-- Fed the fragments of a payload in any order, as often as may be, the reassembler reports the
payload complete from the moment every one has come, and then holds it. -/
theorem reassembled {payload : List UInt8} {blockSize dstEndpoint outMax : UInt8}
    {clusterId profileId : UInt16} {srcEndpoint counter : UInt8} {ackRequest : Bool}
    (hsize : 1 ≤ blockSize.toNat ∧ blockSize.toNat ≤ 245)
    (hblocks : payload.length ≤ 16 * blockSize.toNat)
    (hout : kHeaderLen + min blockSize.toNat payload.length ≤ outMax.toNat)
    (hblockSize : r.blockSize = blockSize) (hroom : payload.length ≤ r.buffer.length)
    (hnew : ¬ (r.haveCounter = true ∧ r.counter = counter)) :
    let sent := (ZigbeeApsFragmenter.begin payload blockSize dstEndpoint clusterId profileId
      srcEndpoint counter).drain outMax ackRequest 16
    sent.1.done = true ∧
    ∀ (order : List (Fin sent.2.length)) (i : Fin sent.2.length),
      let result := (order.foldl (fun r j => (r.receive sent.2[j]).1) r).receive sent.2[i]
      (result.2 = true ↔ ∀ j, j ∈ order ++ [i]) ∧
      (result.2 = true → result.1.length = payload.length ∧
        result.1.buffer.take result.1.length = payload) := by
  intro sent
  let f := ZigbeeApsFragmenter.begin payload blockSize dstEndpoint clusterId profileId srcEndpoint
    counter
  have hf : Whole f := whole_begin hsize hblocks
  have hsent : sent = ({ f with index := f.total },
      (List.range f.total.toNat).map (f.fragment ackRequest)) :=
    drain_begin hsize hblocks hout ackRequest
  have hcount : sent.2.length = f.total.toNat := by
    rw [hsent, List.length_map, List.length_range]
  have hget : ∀ j : Fin sent.2.length, sent.2[j] = f.fragment ackRequest j := by
    intro j
    have hlt : j.val < ((List.range f.total.toNat).map (f.fragment ackRequest)).length := by
      rw [List.length_map, List.length_range, ← hcount]
      exact j.isLt
    simp only [Fin.getElem_fin, hsent, List.getElem_map, List.getElem_range]
  refine ⟨by rw [hsent]; simp [ZigbeeApsFragmenter.done], ?_⟩
  intro order i result
  have hsizeEq : f.blockSize = blockSize :=
    (ZigbeeApsFragmenter.begin_total hsize.1 hblocks).1
  have hbelow : ∀ k ∈ order.map Fin.val, k < f.total.toNat := by
    intro k hk
    obtain ⟨j, _, rfl⟩ := List.mem_map.mp hk
    exact j.isLt.trans_eq hcount
  have hready := Ready.run hf (.inr ⟨rfl, hnew, hblockSize.trans hsizeEq.symm, hroom⟩) ackRequest
    (order.map Fin.val) hbelow
  obtain ⟨hassembling, hcomplete⟩ :=
    receive_fragment hf hready (i.isLt.trans_eq hcount) ackRequest
  obtain ⟨hiff, hpayload⟩ := hassembling.complete hf
  have hresult : result = ((order.map Fin.val).foldl
      (fun r k => (r.receive (f.fragment ackRequest k)).1) r).receive
        (f.fragment ackRequest i) := by
    simp only [result, List.foldl_map, hget]
  rw [hresult, hcomplete]
  refine ⟨?_, hpayload⟩
  rw [hiff, ← all_mem_map_val hcount]
  simp only [List.map_append, List.map_cons, List.map_nil, List.mem_append, List.mem_singleton,
    Finset.mem_insert, List.mem_toFinset, or_comm]

private def sample : List UInt8 := [1, 2, 3, 4, 5]

/-- Five bytes in blocks of two. -/
theorem reassembled_sample :
    let sent := (ZigbeeApsFragmenter.begin sample 2 1 0x0006 0x0104 1 7).drain 12 false 16
    sent.1.done = true ∧
    ∀ (order : List (Fin sent.2.length)) (i : Fin sent.2.length),
      let result := (order.foldl (fun r j => (r.receive sent.2[j]).1)
        (begin (List.replicate 8 0) 2)).receive sent.2[i]
      (result.2 = true ↔ ∀ j, j ∈ order ++ [i]) ∧
      (result.2 = true → result.1.length = sample.length ∧
        result.1.buffer.take result.1.length = sample) :=
  reassembled ⟨by decide, by decide⟩ (by decide) (by decide) rfl (by decide) (by decide)

end RoundTrip

/-! ## Any fragments -/

/-- A fragment fed to the reassembler, with what was parsed of it. -/
structure Fed where
  apdu : List UInt8
  info : ApsFragmentInfo
  parsed : parseFragment apdu = some (true, info)

namespace Fed

def index (x : Fed) : UInt8 := if x.info.firstBlock then 0 else x.info.blockNumber

def block (x : Fed) : List UInt8 := x.info.payloadBytes x.apdu

/-- The fragments of the latest counter since it was adopted; the history is latest first. -/
def current : List Fed → List Fed
  | [] => []
  | x :: hist => x :: hist.takeWhile fun y => y.info.counter = x.info.counter

/-- The total in the latest first block of the current counter. -/
def announced (hist : List Fed) : Option UInt8 :=
  ((current hist).find? (·.info.firstBlock)).map (·.info.blockNumber)

end Fed

def feed (r : ZigbeeApsReassembler) (x : Fed) : ZigbeeApsReassembler := (r.addBlock x.info x.apdu).1

/-- Block `k` has come for the current counter, and fit. -/
def StoredIn (r : ZigbeeApsReassembler) (hist : List Fed) (k : Nat) : Prop :=
  ∃ x ∈ Fed.current hist, x.index.toNat = k ∧ r.Fits x.index x.block.length

/-- Every block up to the announced total has been stored. -/
def NoHoles (r : ZigbeeApsReassembler) (hist : List Fed) : Prop :=
  ∀ total, Fed.announced hist = some total → ∀ k < total.toNat, StoredIn r hist k

/-- No block at or past the announced total has been stored. -/
def Below (r : ZigbeeApsReassembler) (hist : List Fed) : Prop :=
  ∀ total, Fed.announced hist = some total → ∀ k, StoredIn r hist k → k < total.toNat

namespace Fed

variable {x : Fed} {hist : List Fed}

/-- A fragment goes on with the current counter's, or is the first of its own. -/
theorem current_cons (x : Fed) (hist : List Fed) :
    current (x :: hist) =
      x :: if hist.head?.map (·.info.counter) = some x.info.counter then current hist else [] := by
  cases hist with
  | nil => rfl
  | cons y hist =>
    simp only [current, List.head?_cons, Option.map_some, Option.some.injEq]
    by_cases hsame : y.info.counter = x.info.counter
    · simp [hsame]
    · simp [hsame]

end Fed

/-- The reassembler and the fragments it was fed. `base` is the reassembler at the start. -/
structure Tracks (base : ZigbeeApsReassembler) (hist : List Fed) (r : ZigbeeApsReassembler) :
    Prop where
  counted : r.Counted
  config : r.blockSize = base.blockSize ∧ r.buffer.length = base.buffer.length
  counter : (if r.haveCounter then some r.counter else none) = hist.head?.map (·.info.counter)
  total : r.totalBlocks = (Fed.announced hist).getD 0
  stored : ∀ k, k ∈ r.stored ↔ StoredIn base hist k

section Holes

variable {base : ZigbeeApsReassembler} {hist : List Fed} {x : Fed}

theorem fits_iff (h : r.blockSize = base.blockSize ∧ r.buffer.length = base.buffer.length)
    (index : UInt8) (len : Nat) : r.Fits index len ↔ base.Fits index len := by
  rw [Fits, Fits, h.1, h.2]

/-- What the next fragment of a counter finds. -/
theorem Tracks.adopt (h : Tracks base hist r) (x : Fed) :
    (r.adopt x.info.counter).Counted ∧
    ((r.adopt x.info.counter).blockSize = base.blockSize ∧
      (r.adopt x.info.counter).buffer.length = base.buffer.length) ∧
    ((r.adopt x.info.counter).haveCounter = true ∧
      (r.adopt x.info.counter).counter = x.info.counter) ∧
    (r.adopt x.info.counter).totalBlocks =
      (((Fed.current (x :: hist)).tail.find? (·.info.firstBlock)).map (·.info.blockNumber)).getD 0 ∧
    ∀ k, k ∈ (r.adopt x.info.counter).stored ↔
      ∃ y ∈ (Fed.current (x :: hist)).tail, y.index.toNat = k ∧
        base.Fits y.index y.block.length := by
  have hcounter := h.counter
  refine ⟨adopt_counted h.counted _, ?_⟩
  rw [Fed.current_cons, List.tail_cons, ← hcounter]
  by_cases hown : r.haveCounter = true ∧ r.counter = x.info.counter
  · have hkeep : ¬ (!r.haveCounter || x.info.counter ≠ r.counter) = true := by
      simp [hown.1, hown.2]
    rw [ZigbeeApsReassembler.adopt, if_neg hkeep, if_pos hown.1, if_pos (by rw [hown.2])]
    exact ⟨h.config, hown, h.total, h.stored⟩
  · have hfresh : (!r.haveCounter || x.info.counter ≠ r.counter) = true := by
      by_cases hhave : r.haveCounter = true
      · have hne : r.counter ≠ x.info.counter := fun heq => hown ⟨hhave, heq⟩
        simp [Ne.symm hne]
      · simp [hhave]
    have hnone : ¬ (if r.haveCounter then some r.counter else none) = some x.info.counter := by
      intro heq
      split at heq
      · next hhave => exact hown ⟨hhave, Option.some.inj heq⟩
      · cases heq
    rw [ZigbeeApsReassembler.adopt, if_pos hfresh, if_neg hnone]
    refine ⟨h.config, ⟨rfl, rfl⟩, rfl, fun k => ?_⟩
    have hempty : ZigbeeApsReassembler.stored
        { r.reset with counter := x.info.counter, haveCounter := true } = ∅ := stored_reset r
    rw [hempty]
    simp

theorem mem_stored_storeBlock (h : r.Counted) (index : UInt8) (data : List UInt8) (k : Nat) :
    k ∈ (r.storeBlock index data).stored ↔
      (index.toNat = k ∧ r.Fits index data.length) ∨ k ∈ r.stored := by
  by_cases hfits : r.Fits index data.length
  · rw [(storeBlock_stored h hfits).1, Finset.mem_insert]
    simp [hfits, eq_comm]
  · rw [storeBlock, if_neg hfits]
    simp [hfits]

theorem storeBlock_counted (h : r.Counted) (index : UInt8) (data : List UInt8) :
    (r.storeBlock index data).Counted := by
  by_cases hfits : r.Fits index data.length
  · exact (storeBlock_stored h hfits).2
  · rwa [storeBlock, if_neg hfits]

theorem feed_tracks (h : Tracks base hist r) (x : Fed) : Tracks base (x :: hist) (r.feed x) := by
  obtain ⟨hcounted, hconfig, hown, htotal, hstored⟩ := h.adopt x
  generalize hadopted : r.adopt x.info.counter = q at hcounted hconfig hown htotal hstored
  have hvalid : ¬ (!x.info.valid) = true := by simp [parseFragment_valid x.parsed]
  have htail : Fed.current (x :: hist) = x :: (Fed.current (x :: hist)).tail := by
    rw [Fed.current_cons, List.tail_cons]
  have hfeed : r.feed x = { q with
      totalBlocks := if x.info.firstBlock then x.info.blockNumber else q.totalBlocks }.storeBlock
        x.index x.block := by
    simp only [feed, addBlock, if_neg hvalid, hadopted, Fed.index, Fed.block]
    cases x.info.firstBlock <;> rfl
  have hq : Counted { q with
      totalBlocks := if x.info.firstBlock then x.info.blockNumber else q.totalBlocks } :=
    ⟨hcounted.flags, hcounted.count⟩
  obtain ⟨hsize, hsame, hcounter, hhave, hbuffer⟩ := storeBlock_config { q with
    totalBlocks := if x.info.firstBlock then x.info.blockNumber else q.totalBlocks } x.index x.block
  rw [hfeed]
  refine ⟨storeBlock_counted hq _ _, ⟨hsize.trans hconfig.1, hbuffer.trans hconfig.2⟩, ?_, ?_, ?_⟩
  · rw [hhave, hcounter]
    simp [hown.1, hown.2]
  · rw [hsame, Fed.announced, htail]
    cases hfirst : x.info.firstBlock with
    | true => simp [hfirst]
    | false => simp [hfirst, htotal]
  · intro k
    rw [mem_stored_storeBlock hq, StoredIn, htail]
    simp only [List.mem_cons, exists_eq_or_imp]
    exact or_congr (and_congr_right fun _ => fits_iff hconfig _ _) (hstored k)

theorem begin_tracks (buffer : List UInt8) (blockSize : UInt8) :
    Tracks (begin buffer blockSize) [] (begin buffer blockSize) := by
  have hstored : (begin buffer blockSize).stored = ∅ := stored_reset (begin buffer blockSize)
  refine ⟨⟨rfl, by rw [hstored]; rfl⟩, ⟨rfl, rfl⟩, rfl, rfl, fun k => ?_⟩
  rw [hstored]
  simp [StoredIn, Fed.current]

theorem run_tracks (buffer : List UInt8) (blockSize : UInt8) (fed : List Fed) :
    Tracks (begin buffer blockSize) fed.reverse (fed.foldl feed (begin buffer blockSize)) := by
  induction fed using List.reverseRecOn with
  | nil => exact begin_tracks buffer blockSize
  | append_singleton fed x ih =>
    rw [List.foldl_append, List.foldl_cons, List.foldl_nil, List.reverse_append]
    exact feed_tracks ih x

/-- Whatever fragments are fed, one that completes the payload leaves no hole in it, as long as no
block at or past the announced total has been stored for its counter. -/
theorem complete_no_holes (buffer : List UInt8) (blockSize : UInt8) (fed : List Fed) (x : Fed)
    (hbelow : Below (begin buffer blockSize) (x :: fed.reverse))
    (hcomplete : ((fed.foldl feed (begin buffer blockSize)).addBlock x.info x.apdu).2 = true) :
    (∃ total, Fed.announced (x :: fed.reverse) = some total) ∧
      NoHoles (begin buffer blockSize) (x :: fed.reverse) := by
  have htracks := feed_tracks (run_tracks buffer blockSize fed) x
  have hvalid : ¬ (!x.info.valid) = true := by simp [parseFragment_valid x.parsed]
  have hdone : ((fed.foldl feed (begin buffer blockSize)).feed x).complete = true := by
    simpa only [feed, addBlock, if_neg hvalid] using hcomplete
  generalize (fed.foldl feed (begin buffer blockSize)).feed x = q at htracks hdone
  have htotal := htracks.total
  cases hannounced : Fed.announced (x :: fed.reverse) with
  | none =>
    rw [hannounced] at htotal
    simp [ZigbeeApsReassembler.complete, htotal] at hdone
  | some total =>
    rw [hannounced, Option.getD_some] at htotal
    refine ⟨⟨total, rfl⟩, ?_⟩
    intro total' htotal' k hk
    rw [hannounced, Option.some.injEq] at htotal'
    subst htotal'
    have hpos : 0 < q.totalBlocks.toNat := by
      have := hdone
      simp only [ZigbeeApsReassembler.complete, Bool.and_eq_true, decide_eq_true_eq, gt_iff_lt,
        UInt8.lt_iff_toNat_lt] at this
      exact this.1
    have hbound : ∀ j ∈ q.stored, j < q.totalBlocks.toNat := by
      intro j hj
      rw [htotal]
      exact hbelow total hannounced j ((htracks.stored j).mp hj)
    exact (htracks.stored k).mp
      ((complete_iff htracks.counted hbound hpos).mp hdone k (htotal ▸ hk))

/-- The first of two blocks. -/
private def firstOfTwo : Fed where
  apdu := [0x80, 1, 0x06, 0x00, 0x04, 0x01, 1, 7, 0x01, 2, 0xAA]
  info :=
    { valid := true, dstEndpoint := 1, clusterId := 0x0006, profileId := 0x0104, srcEndpoint := 1
      counter := 7, firstBlock := true, blockNumber := 2, payload := some 10, payloadLen := 1 }
  parsed := by decide

/-- A block of the same counter that lies past the second one. -/
private def sixth : Fed where
  apdu := [0x80, 1, 0x06, 0x00, 0x04, 0x01, 1, 7, 0x02, 5, 0xBB]
  info :=
    { valid := true, dstEndpoint := 1, clusterId := 0x0006, profileId := 0x0104, srcEndpoint := 1
      counter := 7, firstBlock := false, blockNumber := 5, payload := some 10, payloadLen := 1 }
  parsed := by decide

/-- Two blocks announced, blocks 0 and 5 stored: complete, with a hole at block 1. -/
theorem complete_with_hole :
    (([firstOfTwo].foldl feed (begin (List.replicate 16 0) 1)).addBlock sixth.info sixth.apdu).2 =
        true ∧
      Fed.announced [sixth, firstOfTwo] = some 2 ∧
      ¬ NoHoles (begin (List.replicate 16 0) 1) [sixth, firstOfTwo] := by
  have hannounced : Fed.announced [sixth, firstOfTwo] = some 2 := by decide
  refine ⟨by decide, hannounced, ?_⟩
  intro hholes
  obtain ⟨x, hx, hindex, -⟩ := hholes 2 hannounced 1 (by decide)
  have hcurrent : Fed.current [sixth, firstOfTwo] = [sixth, firstOfTwo] := by
    rw [Fed.current_cons]
    rfl
  rw [hcurrent] at hx
  rcases List.mem_cons.mp hx with rfl | hx
  · exact absurd hindex (by decide)
  · rw [List.mem_singleton.mp hx] at hindex
    exact absurd hindex (by decide)

private def firstOfThree : Fed where
  apdu := [0x80, 1, 0x06, 0x00, 0x04, 0x01, 1, 7, 0x01, 3, 0xAA, 0xAB]
  info :=
    { valid := true, dstEndpoint := 1, clusterId := 0x0006, profileId := 0x0104, srcEndpoint := 1
      counter := 7, firstBlock := true, blockNumber := 3, payload := some 10, payloadLen := 2 }
  parsed := by decide

private def secondOfThree : Fed where
  apdu := [0x80, 1, 0x06, 0x00, 0x04, 0x01, 1, 7, 0x02, 1, 0xBB, 0xBC]
  info :=
    { valid := true, dstEndpoint := 1, clusterId := 0x0006, profileId := 0x0104, srcEndpoint := 1
      counter := 7, firstBlock := false, blockNumber := 1, payload := some 10, payloadLen := 2 }
  parsed := by decide

private def thirdOfThree : Fed where
  apdu := [0x80, 1, 0x06, 0x00, 0x04, 0x01, 1, 7, 0x02, 2, 0xCC]
  info :=
    { valid := true, dstEndpoint := 1, clusterId := 0x0006, profileId := 0x0104, srcEndpoint := 1
      counter := 7, firstBlock := false, blockNumber := 2, payload := some 10, payloadLen := 1 }
  parsed := by decide

/-- A high block of the counter before. -/
private def straggler : Fed where
  apdu := [0x80, 1, 0x06, 0x00, 0x04, 0x01, 1, 6, 0x02, 6, 0xDD]
  info :=
    { valid := true, dstEndpoint := 1, clusterId := 0x0006, profileId := 0x0104, srcEndpoint := 1
      counter := 6, firstBlock := false, blockNumber := 6, payload := some 10, payloadLen := 1 }
  parsed := by decide

/-- The last block comes first and again, and the middle one completes the payload. -/
theorem complete_no_holes_out_of_order :
    let fed := [straggler, thirdOfThree, firstOfThree, thirdOfThree]
    ((fed.foldl feed (begin (List.replicate 16 0) 2)).addBlock secondOfThree.info
      secondOfThree.apdu).2 = true ∧
    (∃ total, Fed.announced (secondOfThree :: fed.reverse) = some total) ∧
      NoHoles (begin (List.replicate 16 0) 2) (secondOfThree :: fed.reverse) := by
  intro fed
  have hcurrent : Fed.current (secondOfThree :: fed.reverse) =
      [secondOfThree, thirdOfThree, firstOfThree, thirdOfThree] := by
    simp only [fed, List.reverse_cons, List.reverse_nil, List.nil_append, List.cons_append,
      Fed.current_cons]
    rfl
  have hannounced : Fed.announced (secondOfThree :: fed.reverse) = some 3 := by
    simp only [Fed.announced, hcurrent]
    rfl
  have hbelow : Below (begin (List.replicate 16 0) 2) (secondOfThree :: fed.reverse) := by
    intro total htotal k hk
    obtain ⟨y, hy, rfl, -⟩ := hk
    rw [hannounced, Option.some.injEq] at htotal
    subst htotal
    rw [hcurrent] at hy
    have hall : ∀ z ∈ [secondOfThree, thirdOfThree, firstOfThree, thirdOfThree],
        z.index.toNat < (3 : UInt8).toNat := by decide
    exact hall y hy
  have hcomplete : ((fed.foldl feed (begin (List.replicate 16 0) 2)).addBlock secondOfThree.info
      secondOfThree.apdu).2 = true := by decide
  exact ⟨hcomplete,
    complete_no_holes (List.replicate 16 0) 2 fed secondOfThree hbelow hcomplete⟩

end Holes

end NiusZigbee.ZigbeeApsReassembler
