import NiusZigbee.Library.ByteSize

/-!
# OTA image blocks

A block of a firmware image travels behind its image id and file offset; a server that has none
answers with its status alone. Both sides add up the size of the block in a byte, so a block of more
than 241 bytes passes for a short one.
-/

namespace NiusZigbee

open ByteCodec OutBuffer

def otaStatusSuccess : UInt8 := 0x00
def otaStatusAbort : UInt8 := 0x95

structure OtaImageId where
  manufacturerCode : UInt16 := 0
  imageType : UInt16 := 0
  fileVersion : UInt32 := 0
deriving DecidableEq, Repr

/-- What `parseImageBlockResponse` leaves in its outputs; `none` is an output that is not written,
and for the data the null pointer. -/
structure OtaImageBlock where
  status : Option UInt8 := none
  img : OtaImageId := {}
  fileOffset : Option UInt32 := none
  data : Option Nat := none
  dataSize : UInt8 := 0
deriving DecidableEq, Repr

namespace ZigbeeOtaCluster

def buildImageBlockResponse (outMax status : UInt8) (img : OtaImageId) (fileOffset : UInt32)
    (data : List UInt8) : Built :=
  if status ≠ otaStatusSuccess then
    if outMax.toNat < 1 then .fail else { len := 1, writes := emit 0 [status] }
  else
    let need := (14 + data.length) % 256
    if outMax.toNat < need then .fail
    else
      { len := need
        writes := emit 0 [status] ++ emit 1 (le16 img.manufacturerCode) ++
          emit 3 (le16 img.imageType) ++ emit 5 (le32 img.fileVersion) ++
          emit 9 (le32 fileOffset) ++ emit 13 [data.length.toUInt8] ++ emit 14 data }

def parseImageBlockResponse (p : List UInt8) : Option (Bool × OtaImageBlock) :=
  if p.length < 1 then some (false, {})
  else do
    let status ← read8 p 0
    if status ≠ otaStatusSuccess then return (true, { status := some status })
    else if p.length < 14 then return (false, { status := some status })
    else
      let block : OtaImageBlock :=
        { status := some status
          img :=
            { manufacturerCode := ← read16 p 1
              imageType := ← read16 p 3
              fileVersion := join32 (← readBytes p 5 4) }
          fileOffset := some (join32 (← readBytes p 9 4))
          dataSize := ← read8 p 13 }
      if p.length < (14 + block.dataSize.toNat) % 256 then return (false, block)
      else return (true, { block with data := some 14 })

/-! ## What the parser accepts -/

/-- The block in a payload that begins with success and reaches to its data. -/
def blockOf (p : List UInt8) : OtaImageBlock where
  status := some otaStatusSuccess
  img :=
    { manufacturerCode := join16 (p.getD 1 0) (p.getD 2 0)
      imageType := join16 (p.getD 3 0) (p.getD 4 0)
      fileVersion := join32 (slice p 5 4) }
  fileOffset := some (join32 (slice p 9 4))
  data := some 14
  dataSize := p.getD 13 0

theorem parseImageBlockResponse_error {p : List UInt8} {status : UInt8}
    (hne : status ≠ otaStatusSuccess) (h : p[0]? = some status) :
    parseImageBlockResponse p = some (true, { status := some status }) := by
  have hpos : ¬ p.length < 1 := by
    have := (List.getElem?_eq_some_iff.mp h).1
    omega
  simp only [parseImageBlockResponse, if_neg hpos, read8_eq, h, Option.bind_eq_bind,
    Option.bind_some, if_pos hne]
  rfl

theorem parseImageBlockResponse_success {p : List UInt8} (hlen : 14 ≤ p.length)
    (h : p[0]? = some otaStatusSuccess) :
    parseImageBlockResponse p =
      if p.length < (14 + (p.getD 13 0).toNat) % 256 then
        some (false, { blockOf p with data := none })
      else some (true, blockOf p) := by
  have hversion : readBytes p 5 4 = some (slice p 5 4) := if_pos (by omega)
  have hoffset : readBytes p 9 4 = some (slice p 9 4) := if_pos (by omega)
  simp only [parseImageBlockResponse, if_neg (show ¬ p.length < 1 by omega), read8_eq, h,
    Option.bind_eq_bind, Option.bind_some, if_neg (not_not_intro rfl),
    if_neg (show ¬ p.length < 14 by omega), read16_getD (show 1 + 1 < p.length by omega),
    read16_getD (show 3 + 1 < p.length by omega), hversion, hoffset,
    getElem?_getD (show 13 < p.length by omega)]
  split <;> rfl

theorem parseImageBlockResponse_short {p : List UInt8} {block : OtaImageBlock}
    (hlen : p.length < 14) (h : parseImageBlockResponse p = some (true, block)) :
    block.status ≠ some otaStatusSuccess := by
  cases p with
  | nil => cases h
  | cons status rest =>
    by_cases hne : status ≠ otaStatusSuccess
    · rw [parseImageBlockResponse_error hne rfl] at h
      cases h
      simpa using hne
    · simp only [parseImageBlockResponse, if_neg (show ¬ (status :: rest).length < 1 by simp),
        read8_eq, List.getElem?_cons_zero, Option.bind_eq_bind, Option.bind_some, if_neg hne,
        if_pos hlen] at h
      cases h

theorem parseImageBlockResponse_inside {p : List UInt8} {block : OtaImageBlock}
    (hparse : parseImageBlockResponse p = some (true, block))
    (hstatus : block.status = some otaStatusSuccess) (hsize : block.dataSize.toNat ≤ 241) :
    ∃ off, block.data = some off ∧ off + block.dataSize.toNat ≤ p.length := by
  by_cases hlen : p.length < 14
  · exact absurd hstatus (parseImageBlockResponse_short hlen hparse)
  have hzero : p[0]? = some otaStatusSuccess := by
    have hfirst := getElem?_getD (show 0 < p.length by omega)
    by_contra hne
    have hother : p.getD 0 0 ≠ otaStatusSuccess := fun h => hne (h ▸ hfirst)
    rw [parseImageBlockResponse_error hother hfirst] at hparse
    cases hparse
    exact hother (Option.some.inj hstatus)
  rw [parseImageBlockResponse_success (by omega) hzero] at hparse
  split at hparse
  · cases hparse
  · next hfits =>
    cases hparse
    dsimp only [blockOf] at hsize ⊢
    exact ⟨14, rfl, by omega⟩

/-! ## What the builder sends -/

def blockBytes (img : OtaImageId) (fileOffset : UInt32) (data : List UInt8) : List UInt8 :=
  [otaStatusSuccess] ++ le16 img.manufacturerCode ++ le16 img.imageType ++ le32 img.fileVersion ++
    le32 fileOffset ++ [data.length.toUInt8] ++ data

theorem blockBytes_length (img : OtaImageId) (fileOffset : UInt32) (data : List UInt8) :
    (blockBytes img fileOffset data).length = 14 + data.length := by
  rw [blockBytes, List.length_append]
  rfl

variable {outMax status : UInt8} {img : OtaImageId} {fileOffset : UInt32} {data : List UInt8}

theorem buildImageBlockResponse_run :
    buildImageBlockResponse outMax otaStatusSuccess img fileOffset data =
      if outMax.toNat < (blockBytes img fileOffset data).length % 256 then .fail
      else ⟨(blockBytes img fileOffset data).length % 256,
        emit 0 (blockBytes img fileOffset data)⟩ := by
  rw [blockBytes_length, buildImageBlockResponse, if_neg (not_not_intro rfl),
    emit_glue _ _ (by rfl), emit_glue _ _ (by rfl), emit_glue _ _ (by rfl),
    emit_glue _ _ (by rfl), emit_glue _ _ (by rfl), emit_glue _ _ (by rfl)]
  rfl

/-- The status comes back, and with success the block. -/
def Recovers (status : UInt8) (img : OtaImageId) (fileOffset : UInt32) (data bytes : List UInt8) :
    Prop :=
  ∃ block, parseImageBlockResponse bytes = some (true, block) ∧ block.status = some status ∧
    (status = otaStatusSuccess →
      block.img = img ∧ block.fileOffset = some fileOffset ∧
        ∃ off, block.data = some off ∧ block.dataSize.toNat = data.length ∧
          slice bytes off block.dataSize.toNat = data)

theorem blockOf_blockBytes (hsize : data.length < 256) :
    (blockOf (blockBytes img fileOffset data)).img = img ∧
      (blockOf (blockBytes img fileOffset data)).fileOffset = some fileOffset ∧
      (blockOf (blockBytes img fileOffset data)).dataSize.toNat = data.length ∧
      slice (blockBytes img fileOffset data) 14 data.length = data := by
  have hmanufacturer : join16 ((blockBytes img fileOffset data).getD 1 0)
      ((blockBytes img fileOffset data).getD 2 0) = img.manufacturerCode := join16_bytes _
  have htype : join16 ((blockBytes img fileOffset data).getD 3 0)
      ((blockBytes img fileOffset data).getD 4 0) = img.imageType := join16_bytes _
  have hversion : join32 (slice (blockBytes img fileOffset data) 5 4) = img.fileVersion :=
    join32_le32 _
  have hoffset : join32 (slice (blockBytes img fileOffset data) 9 4) = fileOffset := join32_le32 _
  refine ⟨?_, ?_, toNat_toUInt8 hsize, slice_of_length rfl rfl⟩
  · rw [blockOf, hmanufacturer, htype, hversion]
  · rw [blockOf, hoffset]

theorem blockBytes_recovers (hsize : 14 + data.length < 256) :
    Recovers otaStatusSuccess img fileOffset data (blockBytes img fileOffset data) := by
  have hlen := blockBytes_length img fileOffset data
  obtain ⟨himg, hoffset, hcount, hdata⟩ := @blockOf_blockBytes img fileOffset data (by omega)
  have hbyte : ((blockBytes img fileOffset data).getD 13 0).toNat = data.length := hcount
  refine ⟨blockOf (blockBytes img fileOffset data), ?_, rfl, fun _ =>
    ⟨himg, hoffset, 14, rfl, hcount, by rw [hcount, hdata]⟩⟩
  rw [parseImageBlockResponse_success (by omega) rfl, hbyte, if_neg (by omega)]

/-- A block comes through just when its size fits a byte, or is refused there. -/
theorem imageBlock_agrees_iff :
    (buildImageBlockResponse outMax otaStatusSuccess img fileOffset data).Agrees outMax.toNat
        (Recovers otaStatusSuccess img fileOffset data) ↔
      ByteSized outMax.toNat (14 + data.length) := by
  have hlen := blockBytes_length img fileOffset data
  rw [agrees_run_iff buildImageBlockResponse_run outMax.toNat_lt (by omega),
    byteSized_iff fun hsize => blockBytes_recovers (by omega), hlen]

theorem imageStatus_agrees (hne : status ≠ otaStatusSuccess) :
    (buildImageBlockResponse outMax status img fileOffset data).Agrees outMax.toNat
      (Recovers status img fileOffset data) := by
  have hbuild : buildImageBlockResponse outMax status img fileOffset data =
      if outMax.toNat < [status].length then .fail else .exact [status] := by
    rw [buildImageBlockResponse, if_pos hne]
    rfl
  refine agrees_of_refused hbuild (by simp) fun _ => ?_
  exact ⟨_, parseImageBlockResponse_error hne rfl, rfl, fun h => absurd h hne⟩

/-- Blocks of up to 241 bytes come through in whole, and a size byte of up to 241 is held against
the payload. -/
theorem image_block_round_trip :
    (∀ (outMax status : UInt8) (img : OtaImageId) (fileOffset : UInt32) (data : List UInt8),
      data.length < 256 → (status = otaStatusSuccess → data.length ≤ 241) →
        (buildImageBlockResponse outMax status img fileOffset data).Agrees outMax.toNat
          (Recovers status img fileOffset data)) ∧
    ∀ (p : List UInt8) (block : OtaImageBlock), p.length < 256 →
      parseImageBlockResponse p = some (true, block) → block.status = some otaStatusSuccess →
        block.dataSize.toNat ≤ 241 →
          ∃ off, block.data = some off ∧ off + block.dataSize.toNat ≤ p.length := by
  refine ⟨fun outMax status img fileOffset data _ hsize => ?_, fun p block _ =>
    parseImageBlockResponse_inside⟩
  by_cases hstatus : status = otaStatusSuccess
  · have hdata := hsize hstatus
    subst hstatus
    exact imageBlock_agrees_iff.mpr (Or.inl (by omega))
  · exact imageStatus_agrees hstatus

theorem image_block_round_trip_four_bytes :
    (buildImageBlockResponse 64 otaStatusSuccess ⟨0x1011, 2, 7⟩ 0x400 [1, 2, 3, 4]).Agrees 64
        (Recovers otaStatusSuccess ⟨0x1011, 2, 7⟩ 0x400 [1, 2, 3, 4]) ∧
      ∃ off, some 14 = some off ∧ off + 4 ≤ 18 :=
  ⟨image_block_round_trip.1 64 otaStatusSuccess ⟨0x1011, 2, 7⟩ 0x400 [1, 2, 3, 4] (by decide)
      (by decide),
    image_block_round_trip.2 (blockBytes ⟨0x1011, 2, 7⟩ 0x400 [1, 2, 3, 4])
      (blockOf (blockBytes ⟨0x1011, 2, 7⟩ 0x400 [1, 2, 3, 4])) (by decide) (by decide) rfl
      (by decide)⟩

/-- An aborted download is answered with the status, and the image id does not come back. -/
theorem aborted_block_has_no_image :
    ¬ ∀ (outMax status : UInt8) (img : OtaImageId) (fileOffset : UInt32) (data : List UInt8),
      data.length < 256 →
        (buildImageBlockResponse outMax status img fileOffset data).Agrees outMax.toNat
          fun bytes => ∃ block, parseImageBlockResponse bytes = some (true, block) ∧
            block.status = some status ∧ block.img = img ∧ block.fileOffset = some fileOffset ∧
            ∃ off, block.data = some off ∧ slice bytes off block.dataSize.toNat = data := by
  intro h
  have hbytes : (buildImageBlockResponse 64 otaStatusAbort ⟨0x1011, 2, 7⟩ 0 []).bytes =
      [otaStatusAbort] := rfl
  rcases h 64 otaStatusAbort ⟨0x1011, 2, 7⟩ 0 [] (by decide) with hzero | ⟨-, block, hparse, hrec⟩
  · revert hzero
    decide
  · rw [hbytes, parseImageBlockResponse_error (by decide) rfl] at hparse
    cases hparse
    exact absurd hrec.2.1 (by decide)

end ZigbeeOtaCluster

end NiusZigbee
