import NiusZigbee.Aps.Frame
import NiusZigbee.Security.Aes128
import NiusZigbee.Security.CcmStar

/-!
# APS security

`ZigbeeApsSecurity` protects APS commands and the payloads of APS data frames under a key both ends
hold. The security level is zeroed on air and substituted in nonce and authenticated data.
-/

namespace NiusZigbee

open ByteCodec OutBuffer

/-- What `openCommand` hands back when it does not return 0 on an error. -/
structure ApsOpened where
  payload : List UInt8
  frameCounter : UInt32
  srcIeee : UInt64
deriving DecidableEq, Repr

namespace ZigbeeApsSecurity

def apsSecKeyData : UInt8 := 0
def apsSecKeyNetwork : UInt8 := 1
def apsSecKeyKeyTransport : UInt8 := 2
def apsSecKeyKeyLoad : UInt8 := 3

def kMicLen : Nat := 4
def kLevel : UInt8 := 5
def kAuxLen : Nat := 13
def kMaxAad : Nat := 80
def kMaxHeader : Nat := 16
def kMaxOpenPayload : UInt8 := 96

def onAirControl (keyId : UInt8) : UInt8 := ((keyId &&& 0x03) <<< 3) ||| 0x20

def cryptoControlByte (keyId : UInt8) : UInt8 := kLevel ||| ((keyId &&& 0x03) <<< 3) ||| 0x20

def nonce (srcIeee : UInt64) (frameCounter : UInt32) (cryptoControl : UInt8) : List UInt8 :=
  le64 srcIeee ++ le32 frameCounter ++ [cryptoControl]

def auxBytes (keyId : UInt8) (srcIeee : UInt64) (frameCounter : UInt32) : List UInt8 :=
  onAirControl keyId :: le32 frameCounter ++ le64 srcIeee

variable (ecb : BlockCipher)

def secureCommand (apsHeader : List UInt8) (key : Block) (keyId : UInt8) (srcIeee : UInt64)
    (frameCounter : UInt32) (payload : List UInt8) (outMax : UInt8) : Built :=
  let headerLen := apsHeader.length
  let total := headerLen + kAuxLen + payload.length + kMicLen
  if outMax.toNat < total then .fail
  else
    let aux := auxBytes keyId srcIeee frameCounter
    let started := emit 0 apsHeader ++ emit headerLen aux
    let cryptoControl := cryptoControlByte keyId
    if (headerLen + kAuxLen) % 256 > kMaxAad then { len := 0, writes := started }
    else
      match CcmStar.ccmStarCrypt ecb key true kMicLen (nonce srcIeee frameCounter cryptoControl)
          ((apsHeader ++ aux).set headerLen cryptoControl) payload none with
      | none => { len := 0, writes := started }
      | some (cipher, mic) =>
        { len := total % 256
          writes := started ++ emit (headerLen + kAuxLen) cipher ++
            emit (headerLen + kAuxLen + payload.length) mic }

/-- `none` is the return value 0 on malformed input, a short buffer or a MIC failure. -/
def openCommand (secured : List UInt8) (apsHeaderLen : Nat) (key : Block)
    (payloadOutMax : UInt8) : Option ApsOpened :=
  if secured.length < apsHeaderLen + kAuxLen + kMicLen then none
  else
    let aux := slice secured apsHeaderLen kAuxLen
    let frameCounter := join32 (slice aux 1 4)
    let srcIeee := join64 (slice aux 5 8)
    let cryptoControl := (aux.getD 0 0 &&& ~~~0x07) ||| kLevel
    let cipherLen := (secured.length - apsHeaderLen - kAuxLen - kMicLen) % 256
    if payloadOutMax.toNat < cipherLen then none
    else
      let nonce := nonce srcIeee frameCounter cryptoControl
      let plain := CcmStar.ctr ecb key nonce (slice secured (apsHeaderLen + kAuxLen) cipherLen)
      if (apsHeaderLen + kAuxLen) % 256 > kMaxAad then none
      else
        let aad := (secured.take (apsHeaderLen + kAuxLen)).set apsHeaderLen cryptoControl
        let mic := secured.drop (secured.length - kMicLen)
        (CcmStar.ccmStarCrypt ecb key false kMicLen nonce aad plain (some mic)).map
          fun _ => ⟨plain, frameCounter, srcIeee⟩

def secureDataFrame (apsFrame : List UInt8) (headerLen : Nat) (key : Block) (srcIeee : UInt64)
    (frameCounter : UInt32) (outMax : UInt8) : Built :=
  if apsFrame.length < headerLen then .fail
  else if headerLen > kMaxHeader then .fail
  else
    let hdr := (apsFrame.take headerLen).modify 0 (· ||| 0x20)
    secureCommand ecb hdr key apsSecKeyData srcIeee frameCounter (apsFrame.drop headerLen) outMax

def openDataFrame (secured : List UInt8) (headerLen : Nat) (key : Block) (outMax : UInt8) :
    Built :=
  if secured.length < headerLen ∨ headerLen > outMax.toNat then .fail
  else
    match openCommand ecb secured headerLen key kMaxOpenPayload with
    | none => .fail
    | some opened =>
      let n := opened.payload.length
      -- an empty plaintext looks like an error here
      if n = 0 then .fail
      else if headerLen + n > outMax.toNat then .fail
      else
        { len := (headerLen + n) % 256
          writes := emit 0 ((secured.take headerLen).modify 0 (· &&& ~~~0x20)) ++
            emit headerLen opened.payload }

/-! ## Opening what was secured -/

/-- On air the level is zero; the receiver substitutes it again. -/
private theorem control_substituted (keyId : UInt8) :
    (onAirControl keyId &&& ~~~0x07) ||| kLevel = cryptoControlByte keyId := by
  have hall : ∀ i : Fin 256, (onAirControl (UInt8.ofNat i.1) &&& ~~~0x07) ||| kLevel =
      cryptoControlByte (UInt8.ofNat i.1) := by decide +kernel
  have hk : keyId = UInt8.ofNat keyId.toNat := by simp
  rw [hk]
  exact hall ⟨keyId.toNat, keyId.toNat_lt⟩

@[simp] theorem auxBytes_length (keyId : UInt8) (srcIeee : UInt64) (frameCounter : UInt32) :
    (auxBytes keyId srcIeee frameCounter).length = kAuxLen := by
  simp [auxBytes, kAuxLen]

private theorem aux_fields (keyId : UInt8) (srcIeee : UInt64) (frameCounter : UInt32) :
    slice (auxBytes keyId srcIeee frameCounter) 1 4 = le32 frameCounter ∧
      slice (auxBytes keyId srcIeee frameCounter) 5 8 = le64 srcIeee ∧
      (auxBytes keyId srcIeee frameCounter).getD 0 0 = onAirControl keyId := by
  refine ⟨?_, ?_, rfl⟩
  · simp [slice, auxBytes, le32]
  · rw [auxBytes, slice, List.drop_left' (by simp), List.take_of_length_le (by simp)]

/-- Header, auxiliary header, ciphertext, MIC. -/
def securedBytes (apsHeader : List UInt8) (key : Block) (keyId : UInt8) (srcIeee : UInt64)
    (frameCounter : UInt32) (payload : List UInt8) : List UInt8 :=
  let aux := auxBytes keyId srcIeee frameCounter
  let nonce := nonce srcIeee frameCounter (cryptoControlByte keyId)
  let aad := (apsHeader ++ aux).set apsHeader.length (cryptoControlByte keyId)
  apsHeader ++ aux ++ CcmStar.ctr ecb key nonce payload ++
    CcmStar.mic ecb key kMicLen nonce aad payload

section Open

variable {ecb} {apsHeader payload : List UInt8} {key : Block} {keyId : UInt8} {srcIeee : UInt64}
  {frameCounter : UInt32} {outMax : UInt8}

theorem mic_length (nonce aad message : List UInt8) :
    (CcmStar.mic ecb key kMicLen nonce aad message).length = kMicLen :=
  CcmStar.mic_length (by decide) nonce aad message

theorem securedBytes_length :
    (securedBytes ecb apsHeader key keyId srcIeee frameCounter payload).length =
      apsHeader.length + kAuxLen + payload.length + kMicLen := by
  simp only [securedBytes, List.length_append, auxBytes_length, CcmStar.ctr_length, mic_length]

theorem secureCommand_bytes
    (h : (secureCommand ecb apsHeader key keyId srcIeee frameCounter payload outMax).len ≠ 0) :
    apsHeader.length + kAuxLen + payload.length + kMicLen ≤ outMax.toNat ∧
      secureCommand ecb apsHeader key keyId srcIeee frameCounter payload outMax =
        .exact (securedBytes ecb apsHeader key keyId srcIeee frameCounter payload) := by
  have hmax := outMax.toNat_lt
  simp only [secureCommand] at h ⊢
  split at h
  · simp at h
  next htotal =>
  split at h
  · simp at h
  next haad =>
  have hmod : (apsHeader.length + kAuxLen + payload.length + kMicLen) % 256 =
      apsHeader.length + kAuxLen + payload.length + kMicLen := by omega
  rw [if_neg htotal, if_neg haad]
  refine ⟨Nat.not_lt.mp htotal, ?_⟩
  simp only [CcmStar.ccmStarCrypt, Option.any_none, Bool.false_eq_true, if_false, if_true, hmod,
    Built.exact, securedBytes_length, Built.mk.injEq, true_and]
  rw [emit_glue _ _ (by omega), emit_glue _ _ (by simp), emit_glue _ _ (by simp; omega)]
  rfl

/-- Whoever holds the key recovers the command, if the payload fits the buffer. -/
theorem openCommand_secured (haad : apsHeader.length + kAuxLen ≤ kMaxAad)
    (hlen : payload.length < 256) {payloadOutMax : UInt8} :
    openCommand ecb (securedBytes ecb apsHeader key keyId srcIeee frameCounter payload)
        apsHeader.length key payloadOutMax =
      if payloadOutMax.toNat < payload.length then none
      else some ⟨payload, frameCounter, srcIeee⟩ := by
  obtain ⟨aux, haux⟩ : ∃ aux, aux = auxBytes keyId srcIeee frameCounter := ⟨_, rfl⟩
  obtain ⟨cipher, hcipher⟩ : ∃ cipher, cipher = CcmStar.ctr ecb key
    (nonce srcIeee frameCounter (cryptoControlByte keyId)) payload := ⟨_, rfl⟩
  obtain ⟨mic, hmic⟩ : ∃ mic, mic = CcmStar.mic ecb key kMicLen
    (nonce srcIeee frameCounter (cryptoControlByte keyId))
    ((apsHeader ++ aux).set apsHeader.length (cryptoControlByte keyId)) payload := ⟨_, rfl⟩
  obtain ⟨frame, hframe⟩ : ∃ frame, frame = apsHeader ++ aux ++ cipher ++ mic := ⟨_, rfl⟩
  have hbytes : securedBytes ecb apsHeader key keyId srcIeee frameCounter payload = frame := by
    rw [securedBytes, hframe, hcipher, hmic, haux]
  have halen : aux.length = kAuxLen := by rw [haux, auxBytes_length]
  have hclen : cipher.length = payload.length := by rw [hcipher, CcmStar.ctr_length]
  have hmlen : mic.length = kMicLen := by rw [hmic, mic_length]
  have htotal : frame.length = apsHeader.length + kAuxLen + payload.length + kMicLen := by
    rw [← hbytes, securedBytes_length]
  obtain ⟨_, hhead, hslice, hcslice, hmdrop⟩ := frame_pieces apsHeader aux cipher mic
  rw [← hframe, halen] at hhead hslice hcslice
  rw [hclen] at hcslice
  rw [← hframe, htotal, hmlen] at hmdrop
  obtain ⟨hfc, hieee, hctl⟩ := aux_fields keyId srcIeee frameCounter
  rw [← haux] at hfc hieee hctl
  have hcut : (apsHeader.length + kAuxLen + payload.length + kMicLen - apsHeader.length - kAuxLen -
      kMicLen) % 256 = payload.length := by omega
  have haad' : ¬ (apsHeader.length + kAuxLen) % 256 > kMaxAad := by
    simp only [kMaxAad] at haad ⊢
    omega
  rw [hbytes, openCommand, if_neg (by omega)]
  simp only [htotal, hslice, hfc, hieee, hctl, control_substituted, join32_le32, join64_le64, hcut,
    hcslice, hhead, hmdrop, if_neg haad']
  split
  · rfl
  · rw [hcipher, CcmStar.ctr_ctr, CcmStar.ccmStarCrypt, ← hmic]
    simp

/-! ## Data frames -/

private theorem securityBit_cleared (b : UInt8) (h : b &&& 0x20 = 0) :
    (b ||| 0x20) &&& ~~~0x20 = b := by
  have hall : ∀ i : Fin 256, UInt8.ofNat i.1 &&& 0x20 = 0 →
      (UInt8.ofNat i.1 ||| 0x20) &&& ~~~0x20 = UInt8.ofNat i.1 := by decide +kernel
  have hb : b = UInt8.ofNat b.toNat := by simp
  rw [hb] at h ⊢
  exact hall ⟨b.toNat, b.toNat_lt⟩ h

section DataFrame

variable {b : UInt8} {rest : List UInt8}

theorem secureDataFrame_eq (hlen : rest.length + 1 ≤ kMaxHeader) :
    secureDataFrame ecb (b :: rest ++ payload) (rest.length + 1) key srcIeee frameCounter outMax =
      secureCommand ecb ((b ||| 0x20) :: rest) key apsSecKeyData srcIeee frameCounter payload
        outMax := by
  rw [secureDataFrame, if_neg (by simp), if_neg (by omega)]
  simp

/-- The header comes back with its security bit cleared, the payload as it was, if it is neither
empty nor longer than the scratch buffer. -/
theorem openDataFrame_secured (hlen : rest.length + 1 ≤ kMaxHeader) (hclear : b &&& 0x20 = 0)
    (hroom : rest.length + 1 + payload.length ≤ outMax.toNat) :
    openDataFrame ecb
        (securedBytes ecb ((b ||| 0x20) :: rest) key apsSecKeyData srcIeee frameCounter payload)
        (rest.length + 1) key outMax =
      if 1 ≤ payload.length ∧ payload.length ≤ 96 then .exact (b :: rest ++ payload)
      else .fail := by
  have hmax := outMax.toNat_lt
  have haad : ((b ||| 0x20) :: rest).length + kAuxLen ≤ kMaxAad := by
    simp only [kMaxHeader, kAuxLen, kMaxAad, List.length_cons] at hlen ⊢
    omega
  have hbit := securityBit_cleared b hclear
  have hopen := @openCommand_secured ecb ((b ||| 0x20) :: rest) payload key apsSecKeyData srcIeee
    frameCounter haad (by omega) kMaxOpenPayload
  have hlong : (securedBytes ecb ((b ||| 0x20) :: rest) key apsSecKeyData srcIeee frameCounter
      payload).length = rest.length + 1 + kAuxLen + payload.length + kMicLen := by
    rw [securedBytes_length, List.length_cons]
  have hhead : (securedBytes ecb ((b ||| 0x20) :: rest) key apsSecKeyData srcIeee frameCounter
      payload).take (rest.length + 1) = (b ||| 0x20) :: rest := by
    rw [securedBytes, List.append_assoc, List.append_assoc, ← List.length_cons]
    exact List.take_left
  have hscratch : kMaxOpenPayload.toNat = 96 := rfl
  rw [openDataFrame, if_neg (by omega)]
  rw [List.length_cons, hscratch] at hopen
  rw [hopen]
  by_cases hlarge : 96 < payload.length
  · rw [if_pos hlarge, if_neg (by omega)]
  · rw [if_neg hlarge]
    by_cases hempty : payload.length = 0
    · simp [hempty]
    · rw [if_pos (by omega)]
      simp only [if_neg hempty, hhead]
      rw [if_neg (by omega)]
      simp only [List.modify_zero_cons, hbit, Built.exact, Built.mk.injEq]
      refine ⟨?_, emit_glue _ _ (by simp)⟩
      simp only [List.cons_append, List.length_cons, List.length_append]
      omega

end DataFrame

end Open

/-- A call of one of the two builders of APS data frames. -/
inductive DataFrame where
  | unicast (dstEndpoint : UInt8) (clusterId profileId : UInt16) (srcEndpoint counter : UInt8)
      (payload : List UInt8) (ackRequest : Bool)
  | group (groupAddress clusterId profileId : UInt16) (srcEndpoint counter : UInt8)
      (payload : List UInt8) (ackRequest : Bool)

namespace DataFrame

def build (outMax : UInt8) : DataFrame → Built
  | unicast dstEndpoint clusterId profileId srcEndpoint counter payload ackRequest =>
    ZigbeeAps.buildDataFrame outMax dstEndpoint clusterId profileId srcEndpoint counter payload
      ackRequest
  | group groupAddress clusterId profileId srcEndpoint counter payload ackRequest =>
    ZigbeeAps.buildGroupDataFrame outMax groupAddress clusterId profileId srcEndpoint counter
      payload ackRequest

def headerLen : DataFrame → Nat
  | unicast .. => ZigbeeAps.kBaseHeaderLen
  | group .. => ZigbeeAps.kGroupHeaderLen

def payload : DataFrame → List UInt8
  | unicast _ _ _ _ _ payload _ => payload
  | group _ _ _ _ _ payload _ => payload

theorem build_split {call : DataFrame} {buildMax : UInt8} (h : (call.build buildMax).len ≠ 0) :
    ∃ b rest, call.build buildMax = .exact (b :: rest ++ call.payload) ∧
      rest.length + 1 = call.headerLen ∧ b &&& 0x20 = 0 ∧
      call.headerLen ≤ kMaxHeader ∧ call.payload.length < 256 := by
  cases call with
  | unicast dstEndpoint clusterId profileId srcEndpoint counter payload ackRequest =>
    obtain ⟨hlen, hbytes⟩ := ZigbeeAps.buildDataFrame_bytes h
    refine ⟨_, _, hbytes, rfl, ?_, Nat.le_of_ble_eq_true rfl, ?_⟩
    · cases ackRequest <;> decide
    · exact Nat.lt_of_le_of_lt hlen (by decide)
  | group groupAddress clusterId profileId srcEndpoint counter payload ackRequest =>
    obtain ⟨hlen, hbytes⟩ := ZigbeeAps.buildGroupDataFrame_bytes h
    refine ⟨_, _, hbytes, rfl, ?_, Nat.le_of_ble_eq_true rfl, ?_⟩
    · cases ackRequest <;> decide
    · exact Nat.lt_of_le_of_lt hlen (by decide)

end DataFrame

section RoundTrip

variable {ecb} {key : Block} {srcIeee : UInt64} {frameCounter : UInt32} (call : DataFrame)
  (buildMax secureMax openMax : UInt8)

private theorem openDataFrame_eq (hbuilt : (call.build buildMax).len ≠ 0)
    (hsecured : (secureDataFrame ecb (call.build buildMax).bytes call.headerLen key srcIeee
      frameCounter secureMax).len ≠ 0)
    (hroom : (call.build buildMax).len ≤ openMax.toNat) :
    openDataFrame ecb (secureDataFrame ecb (call.build buildMax).bytes call.headerLen key srcIeee
        frameCounter secureMax).bytes call.headerLen key openMax =
      if 1 ≤ call.payload.length ∧ call.payload.length ≤ 96 then call.build buildMax
      else .fail := by
  obtain ⟨b, rest, hbuild, hheader, hclear, hmax, hlen⟩ := call.build_split hbuilt
  rw [hbuild] at hsecured hroom ⊢
  rw [← hheader] at hsecured hmax ⊢
  rw [Built.exact_bytes, secureDataFrame_eq hmax] at hsecured ⊢
  rw [(secureCommand_bytes hsecured).2, Built.exact_bytes]
  refine openDataFrame_secured hmax hclear ?_
  simpa [Nat.add_right_comm] using hroom

/-- Opening a secured data frame recovers it just when its payload is neither empty nor longer
than 96 bytes. -/
theorem openDataFrame_secureDataFrame (hbuilt : (call.build buildMax).len ≠ 0)
    (hsecured : (secureDataFrame ecb (call.build buildMax).bytes call.headerLen key srcIeee
      frameCounter secureMax).len ≠ 0)
    (hroom : (call.build buildMax).len ≤ openMax.toNat) :
    let secured := (secureDataFrame ecb (call.build buildMax).bytes call.headerLen key srcIeee
      frameCounter secureMax).bytes
    let opened := openDataFrame ecb secured call.headerLen key openMax
    (opened.len = (call.build buildMax).len ∧ opened.bytes = (call.build buildMax).bytes) ↔
      1 ≤ call.payload.length ∧ call.payload.length ≤ 96 := by
  intro secured opened
  have hopened : opened = if 1 ≤ call.payload.length ∧ call.payload.length ≤ 96 then
      call.build buildMax else .fail :=
    openDataFrame_eq call buildMax secureMax openMax hbuilt hsecured hroom
  rw [hopened]
  split
  · next hpayload => exact ⟨fun _ => hpayload, fun _ => ⟨rfl, rfl⟩⟩
  · next hpayload => exact ⟨fun h => absurd h.1.symm hbuilt, fun h => absurd h hpayload⟩

end RoundTrip

private def report (payload : List UInt8) : DataFrame :=
  .unicast 1 0x0402 0x0104 1 9 payload true

private def linkKey : Block := Block.ofList [0x5A, 0x69, 0x67]

/-- A report of 96 bytes comes back. -/
theorem openDataFrame_secureDataFrame_full :
    let frame := (report (List.replicate 96 0xAB)).build 108
    let secured := (secureDataFrame Aes128.encrypt frame.bytes 8 linkKey 0x00124B0001020304 7
      125).bytes
    let opened := openDataFrame Aes128.encrypt secured 8 linkKey 108
    opened.len = frame.len ∧ opened.bytes = frame.bytes :=
  (openDataFrame_secureDataFrame (report (List.replicate 96 0xAB)) 108 125 108 (by decide)
    (by decide) (by decide)).mpr (by decide)

/-- A report without payload and one of 97 bytes are secured, and refused under the same key. -/
theorem secured_report_refused :
    (secureDataFrame Aes128.encrypt ((report []).build 108).bytes 8 linkKey 0x00124B0001020304 7
      125).len = 25 ∧
    (openDataFrame Aes128.encrypt (secureDataFrame Aes128.encrypt ((report []).build 108).bytes 8
      linkKey 0x00124B0001020304 7 125).bytes 8 linkKey 108).len = 0 ∧
    (secureDataFrame Aes128.encrypt ((report (List.replicate 97 0xAB)).build 108).bytes 8 linkKey
      0x00124B0001020304 7 125).len = 122 ∧
    (openDataFrame Aes128.encrypt (secureDataFrame Aes128.encrypt
      ((report (List.replicate 97 0xAB)).build 108).bytes 8 linkKey 0x00124B0001020304 7 125).bytes
      8 linkKey 108).len = 0 := by
  have hempty := @openDataFrame_eq Aes128.encrypt linkKey 0x00124B0001020304 7 (report []) 108 125
    108 (by decide) (by decide) (by decide)
  have hlong := @openDataFrame_eq Aes128.encrypt linkKey 0x00124B0001020304 7
    (report (List.replicate 97 0xAB)) 108 125 108 (by decide) (by decide) (by decide)
  refine ⟨by decide, ?_, by decide, ?_⟩
  · rw [show (8 : Nat) = (report []).headerLen from rfl, hempty]
    rfl
  · rw [show (8 : Nat) = (report (List.replicate 97 0xAB)).headerLen from rfl, hlong]
    rfl

end ZigbeeApsSecurity

end NiusZigbee
