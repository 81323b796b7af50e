import NiusZigbee.Library.OutBuffer
import NiusZigbee.Security.CcmStar

/-!
# Green Power data frames

`ZigbeeGreenPower` secures, parses and opens the frames of a Green Power device: a stub header with
the source id and a frame counter, the command under CCM*, and the MIC.
-/

namespace NiusZigbee

open ByteCodec OutBuffer

def gpdCmdCommissioning : UInt8 := 0xE0

def gpSecNone : UInt8 := 0
def gpSecFcMic : UInt8 := 2
def gpSecEncFcMic : UInt8 := 3

structure GpdfFrame where
  valid : Bool := false
  applicationId : UInt8 := 0
  securityLevel : UInt8 := 0
  rxAfterTx : Bool := false
  srcId : UInt32 := 0
  frameCounter : UInt32 := 0
  commandId : UInt8 := 0
  payload : List UInt8 := []
deriving DecidableEq, Repr

structure GpCommissioningCommand where
  deviceId : UInt8 := 0
  options : UInt8 := 0
  keyPresent : Bool := false
  key : Block := Block.ofList []
  outgoingCounterPresent : Bool := false
  outgoingCounter : UInt32 := 0
deriving DecidableEq, Repr

namespace ZigbeeGreenPower

def kMicLen : Nat := 4
def kGpProtocolVersion : UInt8 := 3
def kNwkFcExtension : UInt8 := 0x80
def kMaxPayload : Nat := 48
def kHeaderLen : Nat := 10

def extFc (appId secLevel : UInt8) (rxAfterTx : Bool) : UInt8 :=
  (appId &&& (0x07 : UInt8)) ||| ((secLevel &&& 0x03) <<< (3 : UInt8)) |||
    (if rxAfterTx then (0x40 : UInt8) else 0)

def gpNonce (srcId frameCounter : UInt32) : List UInt8 :=
  le32 srcId ++ le32 srcId ++ le32 frameCounter ++ [0x05]

/-- Frame control, extended frame control, source id and frame counter of a secured frame. -/
def header (rxAfterTx : Bool) (srcId frameCounter : UInt32) : List UInt8 :=
  [(kGpProtocolVersion <<< 2) ||| kNwkFcExtension, extFc 0 gpSecEncFcMic rxAfterTx] ++
    le32 srcId ++ le32 frameCounter

def buildUnsecured (outMax : UInt8) (srcId : UInt32) (commandId : UInt8) (payload : List UInt8) :
    Built :=
  let need := (2 + 4 + 1 + payload.length) % 256
  if outMax.toNat < need then .fail
  else
    { len := need
      writes :=
        emit 0 [(kGpProtocolVersion <<< 2) ||| kNwkFcExtension, extFc 0 gpSecNone false] ++
          emit 2 (le32 srcId) ++ emit 6 [commandId] ++ emit 7 payload }

variable (ecb : BlockCipher)

/-- `none` is a copy past the end of `plain`: its length was taken modulo 256. -/
def secure (outMax : UInt8) (key : Block) (srcId frameCounter : UInt32) (commandId : UInt8)
    (payload : List UInt8) : Option Built :=
  let encLen := (1 + payload.length) % 256
  let need := (2 + 4 + 4 + encLen + kMicLen) % 256
  if outMax.toNat < need ∨ encLen > kMaxPayload then some .fail
  else if 1 + payload.length > kMaxPayload then none
  else
    let hdr := header false srcId frameCounter
    match CcmStar.ccmStarCrypt ecb key true kMicLen (gpNonce srcId frameCounter) hdr
        (commandId :: payload) none with
    | none => some { len := 0, writes := emit 0 hdr }
    | some (cipher, mic) =>
      some
        { len := need
          writes := emit 0 hdr ++ emit kHeaderLen cipher ++ emit (kHeaderLen + encLen) mic }

/-- The fields behind the frame control, with the index they start at. -/
def parseFrom (inp : List UInt8) (idx : Nat) (e : UInt8) : Bool × GpdfFrame :=
  let appId := e &&& 0x07
  let secLevel := (e >>> 3) &&& 0x03
  if appId ≠ 0 then (false, {})
  else if idx + 4 > inp.length then (false, {})
  else
    let f : GpdfFrame := { srcId := join32 (slice inp idx 4) }
    let counted := secLevel ≥ gpSecFcMic
    if counted ∧ idx + 4 + 4 > inp.length then (false, f)
    else
      let f :=
        { f with
          frameCounter := if counted then join32 (slice inp (idx + 4) 4) else 0
          valid := true
          applicationId := appId
          securityLevel := secLevel
          rxAfterTx := (e &&& 0x40) != 0 }
      let idx := if counted then idx + 4 + 4 else idx + 4
      if secLevel ≠ gpSecNone then (true, f)
      -- from here on a rejected frame is marked valid
      else if idx ≥ inp.length then (false, f)
      else
        let f := { f with commandId := inp.getD idx 0 }
        if inp.length - (idx + 1) > kMaxPayload then (false, f)
        else (true, { f with payload := inp.drop (idx + 1) })

def parse (inp : List UInt8) : Bool × GpdfFrame :=
  if inp.length < 6 then (false, {})
  else
    let fc := inp.getD 0 0
    if (fc >>> 2) &&& 0x0F ≠ kGpProtocolVersion then (false, {})
    else if fc &&& kNwkFcExtension ≠ 0 then parseFrom inp 2 (inp.getD 1 0)
    else parseFrom inp 1 0

def «open» (inp : List UInt8) (key : Block) : Bool × GpdfFrame :=
  let (parsed, f) := parse inp
  if !parsed then (false, f)
  else if f.securityLevel ≠ gpSecEncFcMic then (false, f)
  else if inp.length < kHeaderLen + kMicLen then (false, f)
  else
    let encLen := (inp.length - kHeaderLen - kMicLen) % 256
    if encLen < 1 ∨ encLen > kMaxPayload then (false, f)
    else
      let nonce := gpNonce f.srcId f.frameCounter
      let plain := CcmStar.ctr ecb key nonce (slice inp kHeaderLen encLen)
      match CcmStar.ccmStarCrypt ecb key false kMicLen nonce (inp.take kHeaderLen) plain
          (some (slice inp (kHeaderLen + encLen) kMicLen)) with
      | none => (false, f)
      | some _ => (true, { f with commandId := plain.getD 0 0, payload := plain.drop 1 })

/-- The optional fields go by the flags, and the options byte is the caller's. -/
def buildCommissioning (outMax : UInt8) (c : GpCommissioningCommand) : Built :=
  let need := 2 + (if c.keyPresent then 16 else 0) + (if c.outgoingCounterPresent then 4 else 0)
  if outMax.toNat < need then .fail
  else
    let counterAt := if c.keyPresent then 2 + 16 else 2
    { len := if c.outgoingCounterPresent then counterAt + 4 else counterAt
      writes := emit 0 [c.deviceId, c.options] ++
        (if c.keyPresent then emit 2 c.key.toList else []) ++
        (if c.outgoingCounterPresent then emit counterAt (le32 c.outgoingCounter) else []) }

/-- `none` is `return false`. -/
def parseCommissioning (p : List UInt8) : Option GpCommissioningCommand :=
  if p.length < 2 then none
  else
    let options := p.getD 1 0
    let keyPresent := (options &&& 0x20) != 0
    let outgoingCounterPresent := (options &&& 0x40) != 0
    let idx := if keyPresent then 2 + 16 else 2
    if idx > p.length then none
    else if outgoingCounterPresent && idx + 4 > p.length then none
    else
      some
        { deviceId := p.getD 0 0
          options := options
          keyPresent := keyPresent
          key := if keyPresent then Block.ofList (slice p 2 16) else Block.ofList []
          outgoingCounterPresent := outgoingCounterPresent
          outgoingCounter := if outgoingCounterPresent then join32 (slice p idx 4) else 0 }

/-! ## Secured frames -/

@[simp] theorem header_length (rxAfterTx : Bool) (srcId frameCounter : UInt32) :
    (header rxAfterTx srcId frameCounter).length = kHeaderLen := rfl

/-- What the header of a secured frame says. -/
def headerFrame (rxAfterTx : Bool) (srcId frameCounter : UInt32) : GpdfFrame where
  valid := true
  securityLevel := gpSecEncFcMic
  rxAfterTx := rxAfterTx
  srcId := srcId
  frameCounter := frameCounter

/-- The bytes of a secured frame. -/
def securedBytes (key : Block) (rxAfterTx : Bool) (srcId frameCounter : UInt32)
    (plain : List UInt8) : List UInt8 :=
  header rxAfterTx srcId frameCounter ++ CcmStar.ctr ecb key (gpNonce srcId frameCounter) plain ++
    CcmStar.mic ecb key kMicLen (gpNonce srcId frameCounter) (header rxAfterTx srcId frameCounter)
      plain

variable {ecb} {key : Block} {rxAfterTx : Bool} {srcId frameCounter : UInt32} {commandId : UInt8}
  {payload : List UInt8} {outMax : UInt8}

theorem mic_length (nonce aad message : List UInt8) :
    (CcmStar.mic ecb key kMicLen nonce aad message).length = kMicLen :=
  CcmStar.mic_length (by decide) nonce aad message

theorem securedBytes_length (plain : List UInt8) :
    (securedBytes ecb key rxAfterTx srcId frameCounter plain).length =
      kHeaderLen + plain.length + kMicLen := by
  simp only [securedBytes, List.length_append, header_length, CcmStar.ctr_length, mic_length]

/-- A payload of up to 47 bytes is secured, given the room for it. -/
theorem secure_eq (hlen : payload.length ≤ 47) :
    secure ecb outMax key srcId frameCounter commandId payload =
      some (if payload.length + 15 ≤ outMax.toNat then
        .exact (securedBytes ecb key false srcId frameCounter (commandId :: payload))
      else .fail) := by
  have henc : (1 + payload.length) % 256 = (commandId :: payload).length := by
    rw [List.length_cons]
    omega
  have hneed : (2 + 4 + 4 + (commandId :: payload).length + kMicLen) % 256 =
      payload.length + 15 := by
    simp only [List.length_cons, kMicLen]
    omega
  simp only [secure, henc, hneed, CcmStar.ccmStarCrypt, Option.any_none, Bool.false_eq_true,
    if_false, if_true]
  by_cases hroom : payload.length + 15 ≤ outMax.toNat
  · rw [if_neg (by simp only [List.length_cons, kMaxPayload]; omega),
      if_neg (by simp only [kMaxPayload]; omega), if_pos hroom]
    have hlength : (securedBytes ecb key false srcId frameCounter (commandId :: payload)).length =
        payload.length + 15 := by
      rw [securedBytes_length, List.length_cons, kHeaderLen, kMicLen]
      omega
    rw [Built.exact, hlength, emit_glue _ _ (by simp), emit_glue _ _ (by simp)]
    rfl
  · rw [if_pos (Or.inl (by omega)), if_neg hroom]

theorem parse_header (rest : List UInt8) :
    parse (header rxAfterTx srcId frameCounter ++ rest) =
      (true, headerFrame rxAfterTx srcId frameCounter) := by
  have hlen : (header rxAfterTx srcId frameCounter ++ rest).length = 10 + rest.length := by
    rw [List.length_append, header_length, kHeaderLen]
  have hsrc : slice (header rxAfterTx srcId frameCounter ++ rest) 2 4 = le32 srcId := rfl
  have hcounter : slice (header rxAfterTx srcId frameCounter ++ rest) (2 + 4) 4 =
      le32 frameCounter := rfl
  have h0 : (header rxAfterTx srcId frameCounter ++ rest).getD 0 0 = 0x8C := rfl
  have h1 : (header rxAfterTx srcId frameCounter ++ rest).getD 1 0 =
      extFc 0 gpSecEncFcMic rxAfterTx := rfl
  have happ : extFc 0 gpSecEncFcMic rxAfterTx &&& 0x07 = 0 := by cases rxAfterTx <;> decide
  have hlevel : (extFc 0 gpSecEncFcMic rxAfterTx >>> 3) &&& 0x03 = gpSecEncFcMic := by
    cases rxAfterTx <;> decide
  have hrx : ((extFc 0 gpSecEncFcMic rxAfterTx &&& 0x40) != 0) = rxAfterTx := by
    cases rxAfterTx <;> decide
  have hcounted : gpSecEncFcMic ≥ gpSecFcMic := by decide
  have hsecured : gpSecEncFcMic ≠ gpSecNone := by decide
  have hversion : ¬ ((0x8C : UInt8) >>> 2 &&& 0x0F ≠ kGpProtocolVersion) := by decide
  have hextended : (0x8C : UInt8) &&& kNwkFcExtension ≠ 0 := by decide
  simp only [parse, parseFrom, h0, h1, happ, hlevel, hrx, hsrc, hcounter, join32_le32,
    if_pos hcounted]
  rw [if_neg (by omega), if_neg hversion, if_pos hextended, if_neg (by simp), if_neg (by omega),
    if_neg (by omega), if_pos hsecured]
  rfl

/-- Opening a frame of this layout comes down to the MIC over the decrypted command. -/
theorem open_frame {cipher mic : List UInt8} (hpos : 1 ≤ cipher.length)
    (hmax : cipher.length ≤ kMaxPayload) (hmic : mic.length = kMicLen) :
    «open» ecb (header rxAfterTx srcId frameCounter ++ cipher ++ mic) key =
      let plain := CcmStar.ctr ecb key (gpNonce srcId frameCounter) cipher
      if mic = CcmStar.mic ecb key kMicLen (gpNonce srcId frameCounter)
          (header rxAfterTx srcId frameCounter) plain then
        (true,
          { headerFrame rxAfterTx srcId frameCounter with
            commandId := plain.getD 0 0, payload := plain.drop 1 })
      else (false, headerFrame rxAfterTx srcId frameCounter) := by
  have hhdr := header_length rxAfterTx srcId frameCounter
  have hparse : parse (header rxAfterTx srcId frameCounter ++ cipher ++ mic) =
      (true, headerFrame rxAfterTx srcId frameCounter) := by
    rw [List.append_assoc]
    exact parse_header _
  have htotal : (header rxAfterTx srcId frameCounter ++ cipher ++ mic).length =
      kHeaderLen + cipher.length + kMicLen := by
    simp only [List.length_append, hhdr, hmic]
  have htake : (header rxAfterTx srcId frameCounter ++ cipher ++ mic).take kHeaderLen =
      header rxAfterTx srcId frameCounter := by
    rw [List.append_assoc]
    exact List.take_left' hhdr
  have hcipher : slice (header rxAfterTx srcId frameCounter ++ cipher ++ mic) kHeaderLen
      cipher.length = cipher := by
    rw [slice_append_left _ (by rw [List.length_append, hhdr])]
    exact slice_append _ cipher
  have hmicAt : slice (header rxAfterTx srcId frameCounter ++ cipher ++ mic)
      (kHeaderLen + cipher.length) kMicLen = mic := by
    refine slice_of_length ?_ hmic.symm
    rw [List.length_append, hhdr]
  have henc : (kHeaderLen + cipher.length + kMicLen - kHeaderLen - kMicLen) % 256 =
      cipher.length := by
    simp only [kMaxPayload] at hmax
    omega
  simp only [«open», hparse, htotal, henc, hcipher, hmicAt, htake, headerFrame, Bool.not_true,
    Bool.false_eq_true, if_false, ne_eq, not_true_eq_false]
  rw [if_neg (by omega), if_neg (by omega)]
  simp only [CcmStar.ccmStarCrypt, Option.any_some, decide_eq_true_eq]
  by_cases hok : mic = CcmStar.mic ecb key kMicLen (gpNonce srcId frameCounter)
      (header rxAfterTx srcId frameCounter)
      (CcmStar.ctr ecb key (gpNonce srcId frameCounter) cipher)
  · rw [if_pos hok, if_neg (by simpa using hok)]
  · rw [if_neg hok, if_pos (by simpa using hok)]

end ZigbeeGreenPower

end NiusZigbee
