import Mathlib.Data.List.TakeDrop
import NiusZigbee.Aps.Fragment

/-!
# What the fragments of a payload cover

The fragmenter counts its blocks in a byte. Called until it is done, it hands out the whole payload
as long as that many blocks are enough, and reports to be done in any case.
-/

namespace NiusZigbee.ZigbeeApsFragmenter

open ByteCodec OutBuffer ZigbeeApsFragment

/-- The block a receiver finds in a fragment. -/
def blockOf (apdu : List UInt8) : List UInt8 :=
  ((parseFragment apdu).map fun r => r.2.payloadBytes apdu).getD []

/-- The number of blocks a receiver reads off a first fragment. -/
def announcedBy (apdu : List UInt8) : Option Nat :=
  (parseFragment apdu).bind fun r => if r.2.firstBlock then some r.2.blockNumber.toNat else none

/-- The blocks sent are the payload, and the first fragment announced as many as there are. -/
def Covered (payload : List UInt8) (sent : List (List UInt8)) : Prop :=
  sent.flatMap blockOf = payload ∧ sent.head?.bind announcedBy = some sent.length

instance (payload : List UInt8) (sent : List (List UInt8)) : Decidable (Covered payload sent) :=
  inferInstanceAs (Decidable (_ ∧ _))

/-- Calling `next` comes to an end, and whenever the fragmenter is done, it has covered the
payload. -/
def Covers (f : ZigbeeApsFragmenter) (outMax : UInt8) (ackRequest : Bool) : Prop :=
  (∃ calls, (f.drain outMax ackRequest calls).1.done = true) ∧
  ∀ calls, (f.drain outMax ackRequest calls).1.done = true →
    Covered f.payload (f.drain outMax ackRequest calls).2

section

variable {f : ZigbeeApsFragmenter} {ackRequest : Bool} {outMax : UInt8}

theorem window_length_le (hout : kHeaderLen + f.blockSize.toNat ≤ outMax.toNat) (k : Nat) :
    kHeaderLen + (Windows.window f.blockSize.toNat f.payload k).length ≤ outMax.toNat := by
  rw [Windows.window_length]
  omega

theorem parseFragment_fragment (hout : kHeaderLen + f.blockSize.toNat ≤ outMax.toNat) (k : Nat) :
    ∃ info, parseFragment (f.fragment ackRequest k) = some (true, info) ∧
      info.firstBlock = decide (k = 0) ∧
      info.blockNumber = (if k = 0 then f.total else k.toUInt8) ∧
      info.payloadBytes (f.fragment ackRequest k) =
        Windows.window f.blockSize.toNat f.payload k :=
  ⟨_, parseFragment_bytes (Nat.lt_of_le_of_lt (window_length_le hout k) outMax.toNat_lt), rfl, rfl,
    payloadBytes_fragment⟩

theorem blockOf_fragment (hout : kHeaderLen + f.blockSize.toNat ≤ outMax.toNat) (k : Nat) :
    blockOf (f.fragment ackRequest k) = Windows.window f.blockSize.toNat f.payload k := by
  obtain ⟨info, hparse, -, -, hpayload⟩ := @parseFragment_fragment f ackRequest outMax hout k
  rw [blockOf, hparse]
  exact hpayload

theorem announcedBy_fragment (hout : kHeaderLen + f.blockSize.toNat ≤ outMax.toNat) :
    announcedBy (f.fragment ackRequest 0) = some f.total.toNat := by
  obtain ⟨info, hparse, hfirst, hnumber, -⟩ := @parseFragment_fragment f ackRequest outMax hout 0
  rw [announcedBy, hparse, Option.bind_some, hfirst, hnumber]
  rfl

theorem drain_start (hindex : f.index = 0)
    (hout : kHeaderLen + f.blockSize.toNat ≤ outMax.toNat) (calls : Nat) :
    f.drain outMax ackRequest calls =
      ({ f with index := (min calls f.total.toNat).toUInt8 },
        (List.range (min calls f.total.toNat)).map (f.fragment ackRequest)) := by
  have hzero : f.index.toNat = 0 := by
    rw [hindex]
    rfl
  have hdrain := @drain_upto f outMax ackRequest calls (by rw [hzero]; exact Nat.zero_le _)
    fun k _ => window_length_le hout k
  simp only [hzero, Nat.sub_zero, Nat.zero_add, ← List.range_eq_range'] at hdrain
  exact hdrain

theorem done_drain (hindex : f.index = 0) (hout : kHeaderLen + f.blockSize.toNat ≤ outMax.toNat)
    (calls : Nat) : (f.drain outMax ackRequest calls).1.done = true ↔ f.total.toNat ≤ calls := by
  have hmax := f.total.toNat_lt
  have hbyte : (min calls f.total.toNat).toUInt8.toNat = min calls f.total.toNat :=
    toNat_toUInt8 (by omega)
  rw [drain_start hindex hout, done, decide_eq_true_eq, ge_iff_le, UInt8.le_iff_toNat_le, hbyte,
    Nat.le_min]
  exact and_iff_left (Nat.le_refl _)

/-- Once done, the fragments handed out cover the payload just when the blocks reach its end. -/
theorem covered_drain (hindex : f.index = 0) (hpos : 0 < f.total.toNat)
    (hout : kHeaderLen + f.blockSize.toNat ≤ outMax.toNat) {calls : Nat}
    (hdone : f.total.toNat ≤ calls) :
    Covered f.payload (f.drain outMax ackRequest calls).2 ↔
      f.payload.length ≤ f.total.toNat * f.blockSize.toNat := by
  have hblocks : ((List.range f.total.toNat).map (f.fragment ackRequest)).flatMap blockOf =
      f.payload.take (f.total.toNat * f.blockSize.toNat) := by
    rw [List.flatMap_map, ← Windows.flatMap_windows]
    exact congrArg (List.flatMap · _) (funext fun k => blockOf_fragment hout k)
  have hannounced : ((List.range f.total.toNat).map (f.fragment ackRequest)).head?.bind
      announcedBy = some f.total.toNat := by
    rw [List.head?_map, List.head?_range, if_neg (Nat.ne_of_gt hpos), Option.map_some,
      Option.bind_some]
    exact announcedBy_fragment hout
  rw [drain_start hindex hout, Nat.min_eq_right hdone, Covered, hblocks, hannounced,
    List.length_map, List.length_range]
  rw [and_iff_left rfl]
  exact List.take_eq_self_iff _

end

section

variable {payload : List UInt8} {blockSize dstEndpoint outMax : UInt8}
  {clusterId profileId : UInt16} {srcEndpoint counter : UInt8}

/-- The fragmenter covers a payload just when 255 blocks are enough for it. -/
theorem fragmenter_covers_iff (hsize : 0 < blockSize.toNat)
    (hout : kHeaderLen + blockSize.toNat ≤ outMax.toNat) (ackRequest : Bool) :
    Covers (begin payload blockSize dstEndpoint clusterId profileId srcEndpoint counter) outMax
        ackRequest ↔ payload.length ≤ 255 * blockSize.toNat := by
  obtain ⟨f, hf⟩ : ∃ f, f = begin payload blockSize dstEndpoint clusterId profileId srcEndpoint
    counter := ⟨_, rfl⟩
  have hsizeEq : f.blockSize = blockSize := hf ▸ begin_blockSize hsize
  have hindex : f.index = 0 := hf ▸ rfl
  have hpayload : f.payload = payload := hf ▸ rfl
  have htotal : f.total.toNat = _ := hf ▸ begin_total_eq hsize
  have hcount := Windows.count_le_iff hsize payload.length
  have hpos : 0 < f.total.toNat := by
    rw [htotal]
    dsimp only
    split
    · exact Nat.one_pos
    · next h => exact Nat.pos_of_ne_zero h
  rw [← hf]
  rw [← hsizeEq] at hout
  -- The truncated count reaches the end of the payload just when it was not truncated.
  have hreach : payload.length ≤ f.total.toNat * blockSize.toNat ↔
      payload.length ≤ 255 * blockSize.toNat := by
    rw [← hcount, ← hcount, htotal]
    generalize Windows.count blockSize.toNat payload.length = n
    dsimp only
    split <;> omega
  rw [← hreach]
  constructor
  · rintro ⟨-, hall⟩
    have hcovered := hall f.total.toNat ((done_drain hindex hout _).mpr (Nat.le_refl _))
    rwa [covered_drain hindex hpos hout (Nat.le_refl _), hsizeEq, hpayload] at hcovered
  · intro hlen
    refine ⟨⟨f.total.toNat, (done_drain hindex hout _).mpr (Nat.le_refl _)⟩, fun calls hdone => ?_⟩
    rw [covered_drain hindex hpos hout ((done_drain hindex hout _).mp hdone), hsizeEq, hpayload]
    exact hlen

end

theorem fragmenter_covers_small :
    Covers (begin [1, 2, 3, 4, 5] 2 1 6 0x0104 1 7) 12 true :=
  (fragmenter_covers_iff (by decide) (by decide) true).mpr (by decide)

/-- Of a payload of 256 blocks, one is sent, and the fragmenter is done. -/
theorem fragmenter_truncates :
    ¬ Covers (begin (List.replicate 256 0xAB) 1 1 6 0x0104 1 7) 11 false := by
  rintro ⟨-, hall⟩
  have hone := (hall 1 (by decide +kernel)).1
  have hlen := congrArg List.length hone
  revert hlen
  decide +kernel

end NiusZigbee.ZigbeeApsFragmenter
