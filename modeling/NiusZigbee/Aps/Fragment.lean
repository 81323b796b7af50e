import NiusZigbee.Library.OutBuffer
import NiusZigbee.Library.Windows

/-!
# APS fragmentation

`ZigbeeApsFragment` builds and parses fragment APDUs, `ZigbeeApsFragmenter` cuts a payload into
them, and `ZigbeeApsReassembler` puts the blocks back into a buffer of the caller's.
-/

namespace NiusZigbee

open ByteCodec OutBuffer

structure ApsFragmentInfo where
  valid : Bool := false
  frameType : UInt8 := 0
  deliveryMode : UInt8 := 0
  ackRequest : Bool := false
  dstEndpoint : UInt8 := 0
  clusterId : UInt16 := 0
  profileId : UInt16 := 0
  srcEndpoint : UInt8 := 0
  counter : UInt8 := 0
  firstBlock : Bool := false
  blockNumber : UInt8 := 0
  payload : Option Nat := none
  payloadLen : Nat := 0
deriving DecidableEq, Repr

def ApsFragmentInfo.payloadBytes (info : ApsFragmentInfo) (apdu : List UInt8) : List UInt8 :=
  match info.payload with
  | none => []
  | some off => slice apdu off info.payloadLen

namespace ZigbeeApsFragment

def kBaseHeaderLen : Nat := 8
def kExtHeaderLen : Nat := 2
def kHeaderLen : Nat := kBaseHeaderLen + kExtHeaderLen
def kExtFcfFirst : UInt8 := 0x01
def kExtFcfSubsequent : UInt8 := 0x02
def kFcfExtHeaderBit : UInt8 := 0x80

def fragmentFcf (ackRequest : Bool) : UInt8 :=
  ((0 : UInt8) <<< 2) ||| kFcfExtHeaderBit ||| (if ackRequest then (1 : UInt8) <<< 6 else 0)

def extFcf (firstBlock : Bool) : UInt8 := if firstBlock then kExtFcfFirst else kExtFcfSubsequent

def buildFragment (outMax dstEndpoint : UInt8) (clusterId profileId : UInt16)
    (srcEndpoint counter : UInt8) (firstBlock : Bool) (blockNumber : UInt8) (block : List UInt8)
    (ackRequest : Bool) : Built :=
  if outMax.toNat < kHeaderLen + block.length then .fail
  else
    { len := (kHeaderLen + block.length) % 256
      writes := emit 0 [fragmentFcf ackRequest] ++ emit 1 [dstEndpoint] ++
        emit 2 (le16 clusterId) ++ emit 4 (le16 profileId) ++ emit 6 [srcEndpoint] ++
        emit 7 [counter] ++ emit 8 [extFcf firstBlock] ++ emit 9 [blockNumber] ++
        emit kHeaderLen block }

def parseFragment (apdu : List UInt8) : Option (Bool × ApsFragmentInfo) :=
  if apdu.length < kHeaderLen then some (false, {})
  else do
    let fcf ← read8 apdu 0
    if fcf &&& kFcfExtHeaderBit = 0 then return (false, {})
    else if fcf &&& 0x03 ≠ 0 then return (false, {})
    else
      return (true,
        { valid := true
          frameType := 0
          deliveryMode := (fcf >>> (2 : UInt8)) &&& 0x03
          ackRequest := (fcf &&& ((1 : UInt8) <<< 6)) != 0
          dstEndpoint := ← read8 apdu 1
          clusterId := ← read16 apdu 2
          profileId := ← read16 apdu 4
          srcEndpoint := ← read8 apdu 6
          counter := ← read8 apdu 7
          firstBlock := (← read8 apdu 8) &&& 0x03 = kExtFcfFirst
          blockNumber := ← read8 apdu 9
          payload := some kHeaderLen
          payloadLen := (apdu.length - kHeaderLen) % 256 })

/-! ## What is built is parsed -/

section

variable {dstEndpoint srcEndpoint counter blockNumber : UInt8} {clusterId profileId : UInt16}
  {firstBlock ackRequest : Bool} {block : List UInt8}

/-- The bytes of a fragment. -/
def fragmentBytes (dstEndpoint : UInt8) (clusterId profileId : UInt16)
    (srcEndpoint counter : UInt8) (firstBlock : Bool) (blockNumber : UInt8) (block : List UInt8)
    (ackRequest : Bool) : List UInt8 :=
  [fragmentFcf ackRequest] ++ [dstEndpoint] ++ le16 clusterId ++ le16 profileId ++ [srcEndpoint] ++
    [counter] ++ [extFcf firstBlock] ++ [blockNumber] ++ block

theorem fragmentBytes_length :
    (fragmentBytes dstEndpoint clusterId profileId srcEndpoint counter firstBlock blockNumber block
      ackRequest).length = kHeaderLen + block.length := by
  simp [fragmentBytes, kHeaderLen, kBaseHeaderLen, kExtHeaderLen]
  omega

theorem buildFragment_bytes {outMax : UInt8} (h : kHeaderLen + block.length ≤ outMax.toNat) :
    buildFragment outMax dstEndpoint clusterId profileId srcEndpoint counter firstBlock blockNumber
      block ackRequest =
      .exact (fragmentBytes dstEndpoint clusterId profileId srcEndpoint counter firstBlock
        blockNumber block ackRequest) := by
  have hmax := outMax.toNat_lt
  rw [buildFragment, if_neg (by omega), emit_glue _ _ (by rfl), emit_glue _ _ (by rfl),
    emit_glue _ _ (by rfl), emit_glue _ _ (by rfl), emit_glue _ _ (by rfl), emit_glue _ _ (by rfl),
    emit_glue _ _ (by rfl), emit_glue _ _ (by rfl), Nat.mod_eq_of_lt (by omega), Built.exact,
    fragmentBytes_length]
  rfl

theorem parseFragment_bytes (hlen : kHeaderLen + block.length < 256) :
    parseFragment (fragmentBytes dstEndpoint clusterId profileId srcEndpoint counter firstBlock
        blockNumber block ackRequest) =
      some (true,
        { valid := true, ackRequest := ackRequest, dstEndpoint := dstEndpoint
          clusterId := clusterId, profileId := profileId, srcEndpoint := srcEndpoint
          counter := counter, firstBlock := firstBlock, blockNumber := blockNumber
          payload := some kHeaderLen, payloadLen := block.length }) := by
  have h2 : read16 (fragmentBytes dstEndpoint clusterId profileId srcEndpoint counter firstBlock
      blockNumber block ackRequest) 2 = some clusterId := by simp [fragmentBytes, le16, read16]
  have h4 : read16 (fragmentBytes dstEndpoint clusterId profileId srcEndpoint counter firstBlock
      blockNumber block ackRequest) 4 = some profileId := by simp [fragmentBytes, le16, read16]
  have hp : block.length % 256 = block.length := Nat.mod_eq_of_lt (by omega)
  rw [parseFragment, fragmentBytes_length, if_neg (by omega), h2, h4, Nat.add_sub_cancel_left, hp]
  cases ackRequest <;> cases firstBlock <;> rfl

theorem payloadBytes_fragment :
    slice (fragmentBytes dstEndpoint clusterId profileId srcEndpoint counter firstBlock blockNumber
      block ackRequest) kHeaderLen block.length = block := slice_of_length rfl rfl

end

theorem parseFragment_valid {apdu : List UInt8} {info : ApsFragmentInfo}
    (h : parseFragment apdu = some (true, info)) : info.valid = true := by
  simp only [parseFragment] at h
  split at h
  · simp at h
  simp only [read8_eq, Option.bind_eq_bind, Option.bind_eq_some_iff] at h
  obtain ⟨fcf, -, h⟩ := h
  split at h
  · simp at h
  split at h
  · simp at h
  simp only [Option.bind_eq_some_iff, Option.pure_def, Option.some.injEq, Prod.mk.injEq, true_and]
    at h
  obtain ⟨_, -, _, -, _, -, _, -, _, -, _, -, _, -, rfl⟩ := h
  rfl

end ZigbeeApsFragment

/-! ## The sender -/

structure ZigbeeApsFragmenter where
  payload : List UInt8
  blockSize : UInt8
  dstEndpoint : UInt8
  clusterId : UInt16
  profileId : UInt16
  srcEndpoint : UInt8
  counter : UInt8
  index : UInt8 := 0
  total : UInt8
deriving DecidableEq, Repr

namespace ZigbeeApsFragmenter

def begin (payload : List UInt8) (blockSize dstEndpoint : UInt8) (clusterId profileId : UInt16)
    (srcEndpoint counter : UInt8) : ZigbeeApsFragmenter :=
  let blockSize := if blockSize = 0 then 1 else blockSize
  let total := ((payload.length + blockSize.toNat - 1) / blockSize.toNat).toUInt8
  { payload := payload, blockSize := blockSize, dstEndpoint := dstEndpoint, clusterId := clusterId
    profileId := profileId, srcEndpoint := srcEndpoint, counter := counter
    total := if total = 0 then 1 else total }

variable (f : ZigbeeApsFragmenter)

def done : Bool := f.index ≥ f.total

def next (outMax : UInt8) (ackRequest : Bool) : ZigbeeApsFragmenter × Built :=
  if f.done then (f, .fail)
  else
    let offset := f.index.toNat * f.blockSize.toNat
    let blockLen := if f.payload.length - offset < f.blockSize.toNat then f.payload.length - offset
      else f.blockSize.toNat
    let first := f.index = 0
    let blockNumber := if first then f.total else f.index
    let built := ZigbeeApsFragment.buildFragment outMax f.dstEndpoint f.clusterId f.profileId
      f.srcEndpoint f.counter first blockNumber (slice f.payload offset blockLen) ackRequest
    (if built.len > 0 then { f with index := f.index + 1 } else f, built)

/-- Calls of `next` until it returns 0, and what they built. -/
def drain (outMax : UInt8) (ackRequest : Bool) :
    Nat → ZigbeeApsFragmenter → ZigbeeApsFragmenter × List (List UInt8)
  | 0, f => (f, [])
  | fuel + 1, f =>
    let (f, built) := f.next outMax ackRequest
    if built.len = 0 then (f, [])
    else
      let (f, rest) := drain outMax ackRequest fuel f
      (f, built.bytes :: rest)

/-- The fragment `next` builds for block `k`. -/
def fragment (ackRequest : Bool) (k : Nat) : List UInt8 :=
  ZigbeeApsFragment.fragmentBytes f.dstEndpoint f.clusterId f.profileId f.srcEndpoint f.counter
    (k = 0) (if k = 0 then f.total else k.toUInt8) (Windows.window f.blockSize.toNat f.payload k)
    ackRequest

theorem next_fragment {outMax : UInt8} {ackRequest : Bool} (hmore : f.index.toNat < f.total.toNat)
    (hout : ZigbeeApsFragment.kHeaderLen +
      (Windows.window f.blockSize.toNat f.payload f.index.toNat).length ≤ outMax.toNat) :
    f.next outMax ackRequest =
      ({ f with index := f.index + 1 }, .exact (f.fragment ackRequest f.index.toNat)) := by
  have hdone : ¬ f.done = true := by
    rw [done, decide_eq_true_eq, ge_iff_le, UInt8.not_le, UInt8.lt_iff_toNat_lt]
    exact hmore
  have hblock : slice f.payload (f.index.toNat * f.blockSize.toNat)
      (if f.payload.length - f.index.toNat * f.blockSize.toNat < f.blockSize.toNat then
        f.payload.length - f.index.toNat * f.blockSize.toNat else f.blockSize.toNat) =
      Windows.window f.blockSize.toNat f.payload f.index.toNat := by
    rw [slice, Windows.window]
    split
    · next hshort =>
      rw [List.take_of_length_le (by rw [List.length_drop]), List.take_of_length_le]
      rw [List.length_drop]
      omega
    · rfl
  have hzero : f.index = 0 ↔ f.index.toNat = 0 := UInt8.toNat_inj.symm
  have hpos : 0 < (Built.exact (f.fragment ackRequest f.index.toNat)).len := by
    rw [Built.exact_len, fragment, ZigbeeApsFragment.fragmentBytes_length]
    exact Nat.lt_of_lt_of_le (by decide) (Nat.le_add_right _ _)
  have hindex : f.index = f.index.toNat.toUInt8 := UInt8.ofNat_toNat.symm
  simp only [next, if_neg hdone, hblock, ZigbeeApsFragment.buildFragment_bytes hout, hzero,
    Nat.toUInt8_eq, UInt8.ofNat_toNat, fragment] at hpos ⊢
  rw [if_pos hpos]

private theorem index_self : { f with index := (f.index.toNat + 0).toUInt8 } = f := by
  rw [Nat.add_zero, Nat.toUInt8_eq, UInt8.ofNat_toNat]

/-- Draining gives the fragments from the current block on, in order, one for each call as long as
there are any. -/
theorem drain_upto {outMax : UInt8} {ackRequest : Bool} {fuel : Nat}
    (hindex : f.index.toNat ≤ f.total.toNat)
    (hout : ∀ k < f.total.toNat, ZigbeeApsFragment.kHeaderLen +
      (Windows.window f.blockSize.toNat f.payload k).length ≤ outMax.toNat) :
    let n := min fuel (f.total.toNat - f.index.toNat)
    drain outMax ackRequest fuel f =
      ({ f with index := (f.index.toNat + n).toUInt8 },
        (List.range' f.index.toNat n).map (f.fragment ackRequest)) := by
  intro n
  induction fuel generalizing f with
  | zero =>
    have hnone : n = 0 := Nat.zero_min _
    rw [hnone, index_self]
    rfl
  | succ fuel ih =>
    rcases Nat.lt_or_ge f.index.toNat f.total.toNat with hmore | hend
    · have hnext := @next_fragment f outMax ackRequest hmore (hout _ hmore)
      have hsucc : (f.index + 1).toNat = f.index.toNat + 1 :=
        toNat_succ (Nat.lt_of_lt_of_le hmore (Nat.le_of_lt_succ f.total.toNat_lt))
      have hrest := ih { f with index := f.index + 1 } (by simp only [hsucc]; omega) hout
      have hlen : (f.fragment ackRequest f.index.toNat).length ≠ 0 := by
        rw [fragment, ZigbeeApsFragment.fragmentBytes_length]
        exact Nat.ne_of_gt (Nat.lt_of_lt_of_le (by decide) (Nat.le_add_right _ _))
      have hn : n = min fuel (f.total.toNat - (f.index.toNat + 1)) + 1 := by
        simp only [n]
        omega
      simp only [drain, hnext, Built.exact_len, if_neg hlen, Built.exact_bytes, hrest, hsucc]
      rw [hn, List.range'_succ, List.map_cons, Nat.add_right_comm, Nat.add_assoc f.index.toNat]
      rfl
    · have hnone : n = 0 := by
        simp only [n]
        omega
      have hdone : f.done = true := by simpa [done, UInt8.le_iff_toNat_le] using hend
      rw [hnone, index_self]
      simp [drain, next, hdone]

theorem drain_fragments {outMax : UInt8} {ackRequest : Bool} {fuel : Nat}
    (hindex : f.index.toNat ≤ f.total.toNat) (hfuel : f.total.toNat ≤ f.index.toNat + fuel)
    (hout : ∀ k < f.total.toNat, ZigbeeApsFragment.kHeaderLen +
      (Windows.window f.blockSize.toNat f.payload k).length ≤ outMax.toNat) :
    drain outMax ackRequest fuel f =
      ({ f with index := f.total },
        (List.range' f.index.toNat (f.total.toNat - f.index.toNat)).map
          (f.fragment ackRequest)) := by
  have hn : min fuel (f.total.toNat - f.index.toNat) = f.total.toNat - f.index.toNat := by omega
  rw [@drain_upto f outMax ackRequest fuel hindex hout, hn, Nat.add_sub_cancel' hindex,
    Nat.toUInt8_eq, UInt8.ofNat_toNat]

section Begin

variable {payload : List UInt8} {blockSize dstEndpoint : UInt8} {clusterId profileId : UInt16}
  {srcEndpoint counter : UInt8}

theorem begin_blockSize (hsize : 0 < blockSize.toNat) :
    (begin payload blockSize dstEndpoint clusterId profileId srcEndpoint counter).blockSize =
      blockSize := by
  refine if_neg ?_
  rintro rfl
  exact absurd hsize (Nat.lt_irrefl 0)

/-- The number of blocks is kept in a byte, and none counts as one. -/
theorem begin_total_eq (hsize : 0 < blockSize.toNat) :
    (begin payload blockSize dstEndpoint clusterId profileId srcEndpoint counter).total.toNat =
      let n := Windows.count blockSize.toNat payload.length % 256
      if n = 0 then 1 else n := by
  have hsizeEq := @begin_blockSize payload blockSize dstEndpoint clusterId profileId srcEndpoint
    counter hsize
  simp only [begin] at hsizeEq ⊢
  rw [hsizeEq, ← Windows.count]
  have hbyte : (Windows.count blockSize.toNat payload.length).toUInt8.toNat =
      Windows.count blockSize.toNat payload.length % 256 := UInt8.toNat_ofNat'
  have hzero : (Windows.count blockSize.toNat payload.length).toUInt8 = 0 ↔
      Windows.count blockSize.toNat payload.length % 256 = 0 := by
    rw [← UInt8.toNat_inj, hbyte]
    rfl
  by_cases hnone : Windows.count blockSize.toNat payload.length % 256 = 0
  · rw [if_pos (hzero.mpr hnone), if_pos hnone]
    rfl
  · rw [if_neg fun h => hnone (hzero.mp h), if_neg hnone, hbyte]

/-- A payload of at most 16 blocks is cut into that many fragments, at least one. -/
theorem begin_total (hsize : 0 < blockSize.toNat)
    (hblocks : payload.length ≤ 16 * blockSize.toNat) :
    let f := begin payload blockSize dstEndpoint clusterId profileId srcEndpoint counter
    f.blockSize = blockSize ∧ 0 < f.total.toNat ∧ f.total.toNat ≤ 16 ∧
      payload.length ≤ f.total.toNat * blockSize.toNat ∧
      (f.total.toNat - 1) * blockSize.toNat ≤ payload.length := by
  intro f
  have htotal : f.total.toNat = _ := begin_total_eq hsize
  have hcount := (Windows.count_le_iff hsize payload.length 16).mpr hblocks
  have hcovers := Windows.le_count_mul hsize payload.length
  have hlast := Windows.count_mul_lt hsize payload.length
  generalize Windows.count blockSize.toNat payload.length = n at htotal hcount hcovers hlast
  rw [Nat.mod_eq_of_lt (by omega)] at htotal
  refine ⟨begin_blockSize hsize, ?_⟩
  by_cases hnone : n = 0
  · subst hnone
    rw [htotal, if_pos rfl]
    omega
  · have hpred : (n - 1) * blockSize.toNat = n * blockSize.toNat - blockSize.toNat := by
      rw [Nat.sub_mul, Nat.one_mul]
    rw [htotal, if_neg hnone, hpred]
    omega

end Begin

end ZigbeeApsFragmenter

/-! ## The receiver -/

/-- `buffer` is the caller's, `bufMax_` bytes of it. -/
structure ZigbeeApsReassembler where
  buffer : List UInt8
  length : Nat := 0
  totalBlocks : UInt8 := 0
  received : Nat := 0
  counter : UInt8 := 0
  haveCounter : Bool := false
  blockSize : UInt8
  got : List Bool := List.replicate 16 false
deriving DecidableEq, Repr

namespace ZigbeeApsReassembler

def kMaxBlocks : Nat := 16

def begin (buffer : List UInt8) (blockSize : UInt8) : ZigbeeApsReassembler :=
  { buffer := buffer, blockSize := blockSize }

variable (r : ZigbeeApsReassembler)

def reset : ZigbeeApsReassembler :=
  { r with
    length := 0, totalBlocks := 0, received := 0, haveCounter := false
    got := List.replicate kMaxBlocks false }

def complete : Bool := r.totalBlocks > 0 && r.received ≥ r.totalBlocks.toNat

/-- A block with this index is stored rather than dropped. -/
def Fits (index : UInt8) (len : Nat) : Prop :=
  index.toNat < kMaxBlocks ∧ index.toNat * r.blockSize.toNat + len ≤ r.buffer.length

instance (index : UInt8) (len : Nat) : Decidable (r.Fits index len) :=
  inferInstanceAs (Decidable (_ ∧ _))

def storeBlock (index : UInt8) (data : List UInt8) : ZigbeeApsReassembler :=
  if r.Fits index data.length then
    let offset := index.toNat * r.blockSize.toNat
    { r with
      buffer := Windows.overwrite r.buffer offset data
      length := if offset + data.length > r.length then offset + data.length else r.length
      got := r.got.set index.toNat true
      received := if r.got.getD index.toNat false then r.received else r.received + 1 }
  else r

/-- The state a fragment of this counter finds: its own ASDU's, or a fresh one. -/
def adopt (counter : UInt8) : ZigbeeApsReassembler :=
  if !r.haveCounter || counter ≠ r.counter then
    { r.reset with counter := counter, haveCounter := true }
  else r

/-- `info` was parsed from `apdu`. -/
def addBlock (info : ApsFragmentInfo) (apdu : List UInt8) : ZigbeeApsReassembler × Bool :=
  if !info.valid then (r, false)
  else
    let r := r.adopt info.counter
    let r :=
      if info.firstBlock then
        { r with totalBlocks := info.blockNumber }.storeBlock 0 (info.payloadBytes apdu)
      else r.storeBlock info.blockNumber (info.payloadBytes apdu)
    (r, r.complete)

end ZigbeeApsReassembler

end NiusZigbee
