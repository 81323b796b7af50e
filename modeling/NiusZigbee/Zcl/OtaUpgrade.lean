import NiusZigbee.Library.Windows
import NiusZigbee.Zcl.Ota

/-!
# A firmware upgrade

A client asks for a newer image and downloads it block by block. The server answers out of a buffer
of 80 bytes, so a download comes to its end just when no block holds more than 66 bytes of the
image.
-/

namespace NiusZigbee

open ByteCodec OutBuffer

def otaStatusNoImageAvailable : UInt8 := 0x98

/-- What `parseQueryNextImageResponse` leaves in its outputs. -/
structure OtaOffer where
  status : Option UInt8 := none
  img : OtaImageId := {}
  imageSize : UInt32 := 0
deriving DecidableEq, Repr

/-- What `parseImageBlockRequest` leaves in its outputs. -/
structure OtaBlockRequest where
  img : OtaImageId := {}
  fileOffset : UInt32 := 0
  maxDataSize : UInt8 := 0
deriving DecidableEq, Repr

namespace ZigbeeOtaCluster

/-- The bytes of an image id, as every command has them. -/
def emitImage (off : Nat) (img : OtaImageId) : List (Nat × UInt8) :=
  emit off (le16 img.manufacturerCode) ++ emit (off + 2) (le16 img.imageType) ++
    emit (off + 4) (le32 img.fileVersion)

def readImage (p : List UInt8) (off : Nat) : Option OtaImageId := do
  return {
    manufacturerCode := ← read16 p off
    imageType := ← read16 p (off + 2)
    fileVersion := join32 (← readBytes p (off + 4) 4) }

def buildQueryNextImageRequest (outMax : UInt8) (cur : OtaImageId) : Built :=
  if outMax.toNat < 9 then .fail else { len := 9, writes := emit 0 [0] ++ emitImage 1 cur }

def parseQueryNextImageRequest (p : List UInt8) : Option (Bool × OtaImageId) :=
  if p.length < 9 then some (false, {}) else do return (true, ← readImage p 1)

def buildQueryNextImageResponse (outMax status : UInt8) (img : OtaImageId) (imageSize : UInt32) :
    Built :=
  if status ≠ otaStatusSuccess then
    if outMax.toNat < 1 then .fail else { len := 1, writes := emit 0 [status] }
  else if outMax.toNat < 13 then .fail
  else
    { len := 13, writes := emit 0 [status] ++ (emitImage 1 img ++ emit 9 (le32 imageSize)) }

def parseQueryNextImageResponse (p : List UInt8) : Option (Bool × OtaOffer) :=
  if p.length < 1 then some (false, {})
  else do
    let status ← read8 p 0
    if status ≠ otaStatusSuccess then return (true, { status := some status })
    else if p.length < 13 then return (false, { status := some status })
    else
      let img ← readImage p 1
      return (true,
        { status := some status, img := img, imageSize := join32 (← readBytes p 9 4) })

def buildImageBlockRequest (outMax : UInt8) (img : OtaImageId) (fileOffset : UInt32)
    (maxDataSize : UInt8) : Built :=
  if outMax.toNat < 14 then .fail
  else
    { len := 14
      writes := emit 0 [0] ++ (emitImage 1 img ++ (emit 9 (le32 fileOffset) ++
        emit 13 [maxDataSize])) }

def parseImageBlockRequest (p : List UInt8) : Option (Bool × OtaBlockRequest) :=
  if p.length < 14 then some (false, {})
  else do
    let img ← readImage p 1
    let fileOffset := join32 (← readBytes p 9 4)
    return (true, { img := img, fileOffset := fileOffset, maxDataSize := ← read8 p 13 })

def buildUpgradeEndRequest (outMax status : UInt8) (img : OtaImageId) : Built :=
  if outMax.toNat < 9 then .fail else { len := 9, writes := emit 0 [status] ++ emitImage 1 img }

/-- The status, where it is written, and the image id. -/
def parseUpgradeEndRequest (p : List UInt8) : Option (Bool × Option UInt8 × OtaImageId) :=
  if p.length < 9 then some (false, none, {})
  else do
    let status ← read8 p 0
    return (true, some status, ← readImage p 1)

/-! ## The two sides -/

/-- A server and the image it hosts. -/
structure OtaServer where
  img : OtaImageId
  image : List UInt8
  short : image.length < 2 ^ 16

namespace OtaServer

variable (server : OtaServer)

def size : UInt32 := UInt32.ofNat server.image.length

/-- The server offers what is newer than the client's version. -/
def status (cur : OtaImageId) : UInt8 :=
  if server.img.fileVersion > cur.fileVersion then otaStatusSuccess else otaStatusNoImageAvailable

/-- A Query Next Image and its answer, as the client reads it. -/
def query (cur : OtaImageId) : Option (Bool × OtaOffer) := do
  let request := buildQueryNextImageRequest 16 cur
  let (_, asked) ← parseQueryNextImageRequest request.bytes
  let response := buildQueryNextImageResponse 16 (server.status asked) server.img server.size
  parseQueryNextImageResponse response.bytes

/-- The end of a download as the server reads it. -/
def upgradeEnd : Option (Bool × Option UInt8 × OtaImageId) :=
  parseUpgradeEndRequest (buildUpgradeEndRequest 12 otaStatusSuccess server.img).bytes

end OtaServer

/-- The client during a download. -/
structure Transfer where
  offset : UInt32 := 0
  blocks : UInt8 := 0
  client : List UInt8

/-- One block: asked for, answered and stored. `none` is an access outside a buffer, and `some none`
a block that the client does not accept. -/
def exchange (server : OtaServer) (blockMax : UInt8) (t : Transfer) : Option (Option Transfer) := do
  let request := buildImageBlockRequest 16 server.img t.offset blockMax
  let (ok, asked) ← parseImageBlockRequest request.bytes
  if ok = false then return none
  else
    let left := server.size - asked.fileOffset
    let most := asked.maxDataSize.toUInt32
    let dataSize := (if left < most then left else most).toUInt8
    let sent ← readBytes server.image asked.fileOffset.toNat dataSize.toNat
    let response := buildImageBlockResponse 80 otaStatusSuccess server.img asked.fileOffset sent
    if response.writes.any fun write => 80 ≤ write.1 then none
    else
      let (ok, block) ← parseImageBlockResponse response.bytes
      if ok = false ∨ block.status ≠ some otaStatusSuccess then return none
      else
        let offset ← block.fileOffset
        let data ← readBytes response.bytes (← block.data) block.dataSize.toNat
        if offset.toNat + data.length > t.client.length then none
        else
          return some
            { offset := offset + block.dataSize.toUInt32
              blocks := t.blocks + 1
              client := Windows.overwrite t.client offset.toNat data }

/-- The loop over the blocks. `none` is also a loop that has not ended. -/
def download (server : OtaServer) (blockMax : UInt8) : Nat → Transfer → Option (Option Transfer)
  | 0, t => if t.offset < server.size then none else some (some t)
  | fuel + 1, t =>
    if t.offset < server.size then do
      match ← exchange server blockMax t with
      | none => return none
      | some t => download server blockMax fuel t
    else some (some t)

/-! ## The commands -/

variable {img : OtaImageId} {status blockMax : UInt8} {fileOffset imageSize : UInt32}

def imageBytes (img : OtaImageId) : List UInt8 :=
  le16 img.manufacturerCode ++ (le16 img.imageType ++ le32 img.fileVersion)

theorem emitImage_eq (off : Nat) (img : OtaImageId) :
    emitImage off img = emit off (imageBytes img) := by
  rw [emitImage, List.append_assoc, emit_glue _ _ (by rfl), emit_glue _ _ (by rfl), imageBytes]

theorem readImage_bytes (first : UInt8) (img : OtaImageId) (post : List UInt8) :
    readImage (first :: (imageBytes img ++ post)) 1 = some img := by
  change some (OtaImageId.mk (join16 (lo8 img.manufacturerCode) (hi8 img.manufacturerCode))
    (join16 (lo8 img.imageType) (hi8 img.imageType)) (join32 (le32 img.fileVersion))) = _
  rw [join16_bytes, join16_bytes, join32_le32]

theorem buildQueryNextImageRequest_bytes (cur : OtaImageId) :
    (buildQueryNextImageRequest 16 cur).bytes = 0 :: imageBytes cur := by
  have hbuild : buildQueryNextImageRequest 16 cur = .exact (0 :: imageBytes cur) := by
    rw [buildQueryNextImageRequest, if_neg (by decide), emitImage_eq, emit_glue _ _ (by rfl)]
    rfl
  rw [hbuild, Built.exact_bytes]

theorem parseQueryNextImageRequest_bytes (cur : OtaImageId) :
    parseQueryNextImageRequest (0 :: imageBytes cur) = some (true, cur) := by
  have hread := readImage_bytes 0 cur []
  rw [List.append_nil] at hread
  rw [parseQueryNextImageRequest, if_neg (by simp [imageBytes]), hread]
  rfl

theorem buildQueryNextImageResponse_bytes (status : UInt8) (img : OtaImageId) (imageSize : UInt32) :
    (buildQueryNextImageResponse 16 status img imageSize).bytes =
      status :: if status ≠ otaStatusSuccess then [] else imageBytes img ++ le32 imageSize := by
  by_cases hstatus : status ≠ otaStatusSuccess
  · have hbuild : buildQueryNextImageResponse 16 status img imageSize = .exact [status] := by
      rw [buildQueryNextImageResponse, if_pos hstatus, if_neg (by decide)]
      rfl
    rw [hbuild, Built.exact_bytes, if_pos hstatus]
  · have hbuild : buildQueryNextImageResponse 16 status img imageSize =
        .exact ([status] ++ (imageBytes img ++ le32 imageSize)) := by
      rw [buildQueryNextImageResponse, if_neg hstatus, if_neg (by decide), emitImage_eq,
        emit_glue _ _ (by rfl), emit_glue _ _ (by rfl)]
      rfl
    rw [hbuild, Built.exact_bytes, if_neg hstatus]
    rfl

theorem parseQueryNextImageResponse_bytes (status : UInt8) (img : OtaImageId)
    (imageSize : UInt32) :
    parseQueryNextImageResponse
        (status :: if status ≠ otaStatusSuccess then [] else imageBytes img ++ le32 imageSize) =
      some (true, if status ≠ otaStatusSuccess then { status := some status }
        else ⟨some status, img, imageSize⟩) := by
  by_cases hstatus : status ≠ otaStatusSuccess
  · simp [parseQueryNextImageResponse, hstatus]
  · have hsize : readBytes (status :: (imageBytes img ++ le32 imageSize)) 9 4 =
        some (le32 imageSize) := rfl
    have hlen : (status :: (imageBytes img ++ le32 imageSize)).length = 13 := rfl
    simp only [parseQueryNextImageResponse, if_neg hstatus, hlen, read8_eq,
      List.getElem?_cons_zero, readImage_bytes, hsize, join32_le32, Option.bind_eq_bind,
      Option.bind_some, Nat.reduceLT, if_false, Option.pure_def]

theorem buildImageBlockRequest_bytes (img : OtaImageId) (fileOffset : UInt32) (blockMax : UInt8) :
    (buildImageBlockRequest 16 img fileOffset blockMax).bytes =
      0 :: (imageBytes img ++ (le32 fileOffset ++ [blockMax])) := by
  have hbuild : buildImageBlockRequest 16 img fileOffset blockMax =
      .exact ([0] ++ (imageBytes img ++ (le32 fileOffset ++ [blockMax]))) := by
    rw [buildImageBlockRequest, if_neg (by decide), emitImage_eq, emit_glue _ _ (by rfl),
      emit_glue _ _ (by rfl), emit_glue _ _ (by rfl)]
    rfl
  rw [hbuild, Built.exact_bytes]
  rfl

theorem parseImageBlockRequest_bytes (img : OtaImageId) (fileOffset : UInt32) (blockMax : UInt8) :
    parseImageBlockRequest (0 :: (imageBytes img ++ (le32 fileOffset ++ [blockMax]))) =
      some (true, ⟨img, fileOffset, blockMax⟩) := by
  have hoffset : readBytes (0 :: (imageBytes img ++ (le32 fileOffset ++ [blockMax]))) 9 4 =
      some (le32 fileOffset) := rfl
  have hmax : (0 :: (imageBytes img ++ (le32 fileOffset ++ [blockMax])))[13]? = some blockMax := rfl
  have hlen : (0 :: (imageBytes img ++ (le32 fileOffset ++ [blockMax]))).length = 14 := rfl
  simp only [parseImageBlockRequest, hlen, read8_eq, hmax, readImage_bytes, hoffset, join32_le32,
    Option.bind_eq_bind, Option.bind_some, Nat.lt_irrefl, if_false, Option.pure_def]

theorem upgradeEnd_eq (server : OtaServer) :
    server.upgradeEnd = some (true, some otaStatusSuccess, server.img) := by
  have hbuild : buildUpgradeEndRequest 12 otaStatusSuccess server.img =
      .exact (otaStatusSuccess :: imageBytes server.img) := by
    rw [buildUpgradeEndRequest, if_neg (by decide), emitImage_eq, emit_glue _ _ (by rfl)]
    rfl
  have hread := readImage_bytes otaStatusSuccess server.img []
  rw [List.append_nil] at hread
  have hlen : (otaStatusSuccess :: imageBytes server.img).length = 9 := rfl
  simp only [OtaServer.upgradeEnd, hbuild, Built.exact_bytes, parseUpgradeEndRequest, hlen,
    read8_eq, List.getElem?_cons_zero, hread, Option.bind_eq_bind, Option.bind_some,
    Nat.lt_irrefl, if_false, Option.pure_def]

theorem query_eq (server : OtaServer) (cur : OtaImageId) :
    server.query cur =
      some (true, if server.img.fileVersion > cur.fileVersion then
          ⟨some otaStatusSuccess, server.img, server.size⟩
        else { status := some otaStatusNoImageAvailable }) := by
  simp only [OtaServer.query, buildQueryNextImageRequest_bytes, parseQueryNextImageRequest_bytes,
    buildQueryNextImageResponse_bytes, parseQueryNextImageResponse_bytes, Option.bind_eq_bind,
    Option.bind_some, OtaServer.status]
  by_cases hnewer : server.img.fileVersion > cur.fileVersion
  · simp only [if_pos hnewer, ne_eq, not_true_eq_false, if_false]
  · have hno : otaStatusNoImageAvailable ≠ otaStatusSuccess := by decide
    simp only [if_neg hnewer, if_pos hno]

/-! ## One block -/

variable {server : OtaServer} {t t' : Transfer}

theorem size_toNat (server : OtaServer) : server.size.toNat = server.image.length := by
  rw [OtaServer.size, UInt32.toNat_ofNat_of_lt']
  exact Nat.lt_trans server.short (by decide)

/-- How much of the image the next block holds. -/
def blockLength (server : OtaServer) (blockMax : UInt8) (t : Transfer) : Nat :=
  min blockMax.toNat (server.image.length - t.offset.toNat)

theorem dataSize_toNat (h : t.offset < server.size) :
    (if server.size - t.offset < blockMax.toUInt32 then server.size - t.offset
      else blockMax.toUInt32).toUInt8.toNat = blockLength server blockMax t := by
  have hoff := UInt32.lt_iff_toNat_lt.mp h
  have hsize := size_toNat server
  have hleft : (server.size - t.offset).toNat = server.image.length - t.offset.toNat := by
    rw [UInt32.toNat_sub_of_le _ _ (UInt32.le_of_lt h), hsize]
  have hmax := blockMax.toNat_lt
  have hmost : blockMax.toUInt32.toNat = blockMax.toNat := UInt8.toNat_toUInt32 blockMax
  unfold blockLength
  by_cases hless : server.size - t.offset < blockMax.toUInt32
  · rw [if_pos hless]
    rw [UInt32.lt_iff_toNat_lt, hleft, hmost] at hless
    rw [UInt32.toNat_toUInt8, hleft, Nat.mod_eq_of_lt (by omega)]
    omega
  · rw [if_neg hless]
    rw [UInt32.lt_iff_toNat_lt, hleft, hmost] at hless
    rw [UInt32.toNat_toUInt8, hmost, Nat.mod_eq_of_lt (by omega)]
    omega

/-- The client after a block. -/
def Transfer.next (server : OtaServer) (blockMax : UInt8) (t : Transfer) : Transfer where
  offset := t.offset + (blockLength server blockMax t).toUInt8.toUInt32
  blocks := t.blocks + 1
  client := Windows.overwrite t.client t.offset.toNat
    (slice server.image t.offset.toNat (blockLength server blockMax t))

theorem blockLength_le (server : OtaServer) (blockMax : UInt8) (t : Transfer) :
    blockLength server blockMax t ≤ blockMax.toNat ∧ blockLength server blockMax t < 256 := by
  have hmax := blockMax.toNat_lt
  unfold blockLength
  omega

theorem answer_fits (img : OtaImageId) (fileOffset : UInt32) {sent : List UInt8}
    (h : sent.length ≤ 66) :
    buildImageBlockResponse 80 otaStatusSuccess img fileOffset sent =
        .exact (blockBytes img fileOffset sent) ∧
      ∃ block, parseImageBlockResponse (blockBytes img fileOffset sent) = some (true, block) ∧
        block.status = some otaStatusSuccess ∧ block.fileOffset = some fileOffset ∧
        block.data = some 14 ∧ block.dataSize = sent.length.toUInt8 ∧
        readBytes (blockBytes img fileOffset sent) 14 sent.length = some sent := by
  have hlength := blockBytes_length img fileOffset sent
  obtain ⟨-, hoffset, hcount, hdata⟩ := @blockOf_blockBytes img fileOffset sent (by omega)
  have hbyte : ((blockBytes img fileOffset sent).getD 13 0).toNat = sent.length := hcount
  constructor
  · rw [buildImageBlockResponse_run, hlength, Nat.mod_eq_of_lt (by omega),
      if_neg (by change ¬ 80 < 14 + sent.length; omega), Built.exact, hlength]
  · refine ⟨blockOf (blockBytes img fileOffset sent), ?_, rfl, hoffset, rfl, ?_, ?_⟩
    · rw [parseImageBlockResponse_success (by omega) rfl, hbyte, if_neg (by omega)]
    · rw [← UInt8.toNat_inj, hcount, toNat_toUInt8 (by omega)]
    · rw [readBytes, if_pos (by omega), hdata]

/-- A block that does not fit the answer is refused, or its size wraps and it is written behind the
buffer. -/
theorem answer_overflows (img : OtaImageId) (fileOffset : UInt32) {sent : List UInt8}
    (h : 66 < sent.length) (hbyte : sent.length < 256) :
    if sent.length < 242 then
      buildImageBlockResponse 80 otaStatusSuccess img fileOffset sent = .fail
    else ((buildImageBlockResponse 80 otaStatusSuccess img fileOffset sent).writes.any
      fun write => 80 ≤ write.1) = true := by
  have hlength := blockBytes_length img fileOffset sent
  rw [buildImageBlockResponse_run, hlength]
  split
  · rw [Nat.mod_eq_of_lt (by omega), if_pos (by change 80 < 14 + sent.length; omega)]
  · have hmod : (14 + sent.length) % 256 = 14 + sent.length - 256 := by omega
    rw [hmod, if_neg (by change ¬ 80 < 14 + sent.length - 256; omega), List.any_eq_true]
    obtain ⟨b, hb⟩ := @mem_emit 0 80 (blockBytes img fileOffset sent) (by omega) (by omega)
    exact ⟨_, hb, by simp⟩

theorem exchange_eq (h : t.offset < server.size) (hclient : t.client.length = server.image.length) :
    exchange server blockMax t =
      if blockLength server blockMax t ≤ 66 then some (some (t.next server blockMax))
      else if blockLength server blockMax t < 242 then some none else none := by
  have hoff := UInt32.lt_iff_toNat_lt.mp h
  have hsize := size_toNat server
  obtain ⟨hmost, hbyte⟩ := blockLength_le server blockMax t
  have hinside : t.offset.toNat + blockLength server blockMax t ≤ server.image.length := by
    unfold blockLength
    omega
  have hread : readBytes server.image t.offset.toNat (blockLength server blockMax t) =
      some (slice server.image t.offset.toNat (blockLength server blockMax t)) := if_pos hinside
  have hlength : (slice server.image t.offset.toNat (blockLength server blockMax t)).length =
      blockLength server blockMax t := by
    rw [slice, List.length_take, List.length_drop]
    omega
  simp only [exchange, buildImageBlockRequest_bytes, parseImageBlockRequest_bytes, dataSize_toNat h,
    hread, Transfer.next, Option.bind_eq_bind, Option.bind_some, Bool.true_eq_false, if_false]
  generalize slice server.image t.offset.toNat (blockLength server blockMax t) = sent at hlength ⊢
  generalize blockLength server blockMax t = n at hlength hbyte hinside ⊢
  subst hlength
  by_cases hfits : sent.length ≤ 66
  · obtain ⟨hbuild, block, hparse, hstatus, hoffset, hdata, hcount, hstored⟩ :=
      answer_fits server.img t.offset hfits
    have hwrites : ((Built.exact (blockBytes server.img t.offset sent)).writes.any
        fun write => decide (80 ≤ write.1)) = false := by
      rw [List.any_eq_false]
      intro write hwrite
      have hindex := emit_index hwrite
      rw [blockBytes_length] at hindex
      simp only [decide_eq_true_eq]
      omega
    have hroom : ¬ t.offset.toNat + sent.length > t.client.length := by omega
    have hsent : sent.length.toUInt8.toNat = sent.length := toNat_toUInt8 hbyte
    simp only [hbuild, hwrites, Built.exact_bytes, hparse, hstatus, hoffset, hdata, hcount, hsent,
      hstored, Option.bind_some, Bool.false_eq_true, Bool.true_eq_false, ne_eq, not_true_eq_false,
      or_self, if_false, if_neg hroom, if_pos hfits, Option.pure_def]
  · have hover := answer_overflows server.img t.offset (Nat.not_le.mp hfits) hbyte
    rw [if_neg hfits]
    by_cases hshort : sent.length < 242
    · rw [if_pos hshort] at hover ⊢
      rw [hover]
      rfl
    · rw [if_neg hshort] at hover ⊢
      rw [if_pos hover]

/-! ## The download -/

/-- After `k` blocks the client has the image as far as its offset. -/
structure Downloaded (server : OtaServer) (blockMax : UInt8) (k : Nat) (t : Transfer) : Prop where
  offset : t.offset.toNat = min (k * blockMax.toNat) server.image.length
  blocks : t.blocks = UInt8.ofNat k
  length : t.client.length = server.image.length
  stored : t.client.take t.offset.toNat = server.image.take t.offset.toNat
  needed : k ≤ Windows.count blockMax.toNat server.image.length

theorem next_offset (h : t.offset < server.size) :
    (t.next server blockMax).offset.toNat = t.offset.toNat + blockLength server blockMax t := by
  have hoff := UInt32.lt_iff_toNat_lt.mp h
  have hsize := size_toNat server
  have hshort := server.short
  obtain ⟨-, hbyte⟩ := blockLength_le server blockMax t
  rw [Transfer.next, UInt32.toNat_add, UInt8.toNat_toUInt32, toNat_toUInt8 hbyte]
  omega

theorem next_length (h : t.offset < server.size) (hlength : t.client.length = server.image.length) :
    (t.next server blockMax).client.length = server.image.length := by
  have hoff := UInt32.lt_iff_toNat_lt.mp h
  have hsize := size_toNat server
  rw [Transfer.next, Windows.overwrite_length, hlength]
  rw [slice, List.length_take, List.length_drop, blockLength]
  omega

theorem Downloaded.next {k : Nat} (hblock : 0 < blockMax.toNat)
    (hinv : Downloaded server blockMax k t) (h : t.offset < server.size) :
    Downloaded server blockMax (k + 1) (t.next server blockMax) := by
  have hoff := UInt32.lt_iff_toNat_lt.mp h
  rw [size_toNat] at hoff
  have hfull := hinv.offset
  have hnext := @next_offset blockMax server t h
  have hlen : blockLength server blockMax t =
      min blockMax.toNat (server.image.length - t.offset.toNat) := rfl
  have hslice : (slice server.image t.offset.toNat (blockLength server blockMax t)).length =
      blockLength server blockMax t := by
    rw [slice, List.length_take, List.length_drop]
    omega
  constructor
  · rw [hnext, Nat.succ_mul]
    omega
  · rw [Transfer.next, hinv.blocks]
    exact (UInt8.ofNat_add k 1).symm
  · exact next_length h hinv.length
  · have hbehind : (t.client.take t.offset.toNat).length = t.offset.toNat := by
      rw [List.length_take, hinv.length]
      omega
    rw [hnext, Transfer.next, Windows.overwrite, List.take_append_of_le_length (by
      rw [List.length_append, hbehind, hslice]), List.take_of_length_le (by
      rw [List.length_append, hbehind, hslice]), hinv.stored, List.take_add]
    rfl
  · by_contra hmany
    have hcount := (Windows.count_le_iff hblock server.image.length k).mp (by omega)
    omega

theorem download_done (fuel : Nat) (h : ¬ t.offset < server.size) :
    download server blockMax fuel t = some (some t) := by
  cases fuel with
  | zero => exact if_neg h
  | succ fuel => exact if_neg h

theorem download_stores {fuel k : Nat} (hblock : 0 < blockMax.toNat)
    (hinv : Downloaded server blockMax k t) (h : download server blockMax fuel t = some (some t')) :
    ∃ k', Downloaded server blockMax k' t' ∧ ¬ t'.offset < server.size := by
  induction fuel generalizing k t with
  | zero =>
    rw [download] at h
    split at h
    · cases h
    · next hdone =>
      cases h
      exact ⟨k, hinv, hdone⟩
  | succ fuel ih =>
    rw [download] at h
    split at h
    · next hmore =>
      rw [exchange_eq hmore hinv.length] at h
      split at h
      · exact ih (hinv.next hblock hmore) h
      · split at h
        · cases h
        · cases h
    · next hdone =>
      cases h
      exact ⟨k, hinv, hdone⟩

/-- Where every block fits, the download ends. -/
theorem download_ends {fuel k : Nat} (hblock : 0 < blockMax.toNat)
    (hfits : blockMax.toNat ≤ 66 ∨ server.image.length ≤ 66)
    (hinv : Downloaded server blockMax k t)
    (hfuel : server.image.length ≤ (k + fuel) * blockMax.toNat) :
    ∃ t', download server blockMax fuel t = some (some t') := by
  induction fuel generalizing k t with
  | zero =>
    have hdone : ¬ t.offset < server.size := by
      rw [UInt32.lt_iff_toNat_lt, size_toNat, hinv.offset]
      simp only [Nat.add_zero] at hfuel
      omega
    exact ⟨t, download_done 0 hdone⟩
  | succ fuel ih =>
    by_cases hmore : t.offset < server.size
    · have hshort : blockLength server blockMax t ≤ 66 := by
        unfold blockLength
        omega
      have hrest : k + 1 + fuel = k + (fuel + 1) := by omega
      rw [download, if_pos hmore, exchange_eq hmore hinv.length, if_pos hshort]
      exact ih (hinv.next hblock hmore) (hrest ▸ hfuel)
    · exact ⟨t, download_done _ hmore⟩

/-- Where the first block is empty or does not fit, it never does. -/
theorem download_stuck (himage : server.image ≠ [])
    (hbad : blockMax.toNat = 0 ∨ 66 < blockMax.toNat ∧ 66 < server.image.length) (fuel : Nat)
    (hoffset : t.offset = 0) (hclient : t.client.length = server.image.length) :
    download server blockMax fuel t ≠ some (some t') := by
  have hpos := List.length_pos_iff.mpr himage
  induction fuel generalizing t with
  | zero =>
    have hmore : t.offset < server.size := by
      rw [hoffset, UInt32.lt_iff_toNat_lt, size_toNat]
      exact hpos
    rw [download, if_pos hmore]
    exact fun h => by cases h
  | succ fuel ih =>
    have hmore : t.offset < server.size := by
      rw [hoffset, UInt32.lt_iff_toNat_lt, size_toNat]
      exact hpos
    have hlength : blockLength server blockMax t = min blockMax.toNat server.image.length := by
      rw [blockLength, hoffset]
      rfl
    rw [download, if_pos hmore, exchange_eq hmore hclient]
    split
    · have hzero : blockLength server blockMax t = 0 := by omega
      refine ih ?_ (next_length hmore hclient)
      rw [Transfer.next, hzero, hoffset]
      rfl
    · split
      · exact fun h => by cases h
      · exact fun h => by cases h

/-- A client is offered an image just when it is newer than its own. Its download ends just when the
image is empty or no block is empty or longer than 66 bytes; then its image is that of the server,
in as few blocks as there can be. -/
theorem firmware_upgrade (server : OtaServer) (cur : OtaImageId) (blockMax : UInt8)
    (client : List UInt8) (hclient : client.length = server.image.length) :
    (∃ offer, server.query cur = some (true, offer) ∧
      (offer.status = some otaStatusSuccess ↔ cur.fileVersion < server.img.fileVersion) ∧
      (offer.status = some otaStatusSuccess →
        offer.img = server.img ∧ offer.imageSize.toNat = server.image.length)) ∧
    ((∃ fuel t, download server blockMax fuel { client := client } = some (some t)) ↔
      server.image = [] ∨ 0 < blockMax.toNat ∧
        (blockMax.toNat ≤ 66 ∨ server.image.length ≤ 66)) ∧
    ∀ fuel t, download server blockMax fuel { client := client } = some (some t) →
      t.client = server.image ∧
        t.blocks.toNat = Windows.count blockMax.toNat server.image.length % 256 := by
  have hstart : Downloaded server blockMax 0 { client := client } :=
    ⟨by simp, rfl, hclient, by simp, Nat.zero_le _⟩
  refine ⟨⟨_, query_eq server cur, ?_, ?_⟩, ⟨?_, ?_⟩, ?_⟩
  · by_cases hnewer : server.img.fileVersion > cur.fileVersion
    · rw [if_pos hnewer]
      exact iff_of_true rfl hnewer
    · rw [if_neg hnewer]
      exact iff_of_false (by decide) hnewer
  · by_cases hnewer : server.img.fileVersion > cur.fileVersion
    · rw [if_pos hnewer]
      exact fun _ => ⟨rfl, size_toNat server⟩
    · rw [if_neg hnewer]
      exact fun h => absurd h (by decide)
  · rintro ⟨fuel, t, h⟩
    by_contra hbad
    simp only [not_or, not_and, Nat.not_le] at hbad
    refine download_stuck hbad.1 ?_ fuel rfl hclient h
    by_cases hzero : blockMax.toNat = 0
    · exact Or.inl hzero
    · exact Or.inr (hbad.2 (Nat.pos_of_ne_zero hzero))
  · rintro (hempty | ⟨hblock, hfits⟩)
    · refine ⟨0, { client := client }, download_done 0 ?_⟩
      rw [UInt32.lt_iff_toNat_lt, size_toNat, hempty]
      exact Nat.not_lt_zero _
    · obtain ⟨t, ht⟩ := download_ends hblock hfits hstart
        (by rw [Nat.zero_add]; exact Windows.le_count_mul hblock _)
      exact ⟨_, t, ht⟩
  · intro fuel t h
    by_cases hempty : server.image = []
    · have hdone : ¬ (0 : UInt32) < server.size := by
        rw [UInt32.lt_iff_toNat_lt, size_toNat, hempty]
        exact Nat.not_lt_zero _
      have hnil : client = [] := by
        rw [hempty] at hclient
        exact List.eq_nil_of_length_eq_zero hclient
      rw [download_done fuel hdone] at h
      cases h
      have hcount : Windows.count blockMax.toNat 0 = 0 := by
        rw [Windows.count]
        rcases Nat.eq_zero_or_pos blockMax.toNat with hzero | hpos
        · simp [hzero]
        · exact Nat.div_eq_of_lt (by omega)
      rw [hempty, List.length_nil, hcount]
      exact ⟨hnil, rfl⟩
    · have hblock : 0 < blockMax.toNat := by
        by_contra hzero
        exact download_stuck hempty (Or.inl (by omega)) fuel rfl hclient h
      obtain ⟨k, hinv, hdone⟩ := download_stores hblock hstart h
      have hoffset := hinv.offset
      rw [UInt32.lt_iff_toNat_lt, size_toNat] at hdone
      have hwhole : t.offset.toNat = server.image.length := by omega
      have hcount := (Windows.count_le_iff hblock server.image.length k).mpr (by omega)
      have hneeded := hinv.needed
      constructor
      · have hstored := hinv.stored
        rwa [hwhole, List.take_length, ← hinv.length, List.take_length] at hstored
      · rw [hinv.blocks, show k = Windows.count blockMax.toNat server.image.length by omega]
        exact UInt8.toNat_ofNat'

theorem firmware_upgrade_three_blocks :
    ∃ fuel t, download ⟨⟨0x1234, 1, 2⟩, (List.range 128).map Nat.toUInt8, by simp⟩ 50 fuel
      { client := List.replicate 128 0 } = some (some t) :=
  (firmware_upgrade ⟨⟨0x1234, 1, 2⟩, (List.range 128).map Nat.toUInt8, by simp⟩ ⟨0x1234, 1, 1⟩ 50
    (List.replicate 128 0) (by simp)).2.1.mpr (Or.inr (by decide))

end ZigbeeOtaCluster

end NiusZigbee
