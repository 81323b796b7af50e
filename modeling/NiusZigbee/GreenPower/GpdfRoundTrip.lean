import NiusZigbee.GreenPower.GpdfHeader
import NiusZigbee.Library.ByteSize
import NiusZigbee.Security.Aes128

/-!
# Green Power data frames are read back

A secured frame has room for a command of 48 bytes on both sides. The unsecured builder takes any
payload: one of more than 48 bytes is sent and not parsed, and from 250 bytes on the frame is longer
than it is reported to be.
-/

namespace NiusZigbee.ZigbeeGreenPower

open ByteCodec OutBuffer

/-- A call of one of the two frame builders. -/
inductive GpdfCall where
  | unsecured (srcId : UInt32) (commandId : UInt8) (payload : List UInt8)
  | secured (key : Block) (srcId frameCounter : UInt32) (commandId : UInt8) (payload : List UInt8)

namespace GpdfCall

def payload : GpdfCall → List UInt8
  | unsecured _ _ payload => payload
  | secured _ _ _ _ payload => payload

variable (ecb : BlockCipher)

/-- `none` is a copy outside the builder's own buffer. -/
def build (outMax : UInt8) : GpdfCall → Option Built
  | unsecured srcId commandId payload => some (buildUnsecured outMax srcId commandId payload)
  | secured key srcId frameCounter commandId payload =>
      secure ecb outMax key srcId frameCounter commandId payload

/-- The frame is accepted, with the fields of the call. -/
def Recovered (bytes : List UInt8) : GpdfCall → Prop
  | unsecured srcId commandId payload =>
      (parse bytes).1 = true ∧ (parse bytes).2.srcId = srcId ∧
        (parse bytes).2.commandId = commandId ∧ (parse bytes).2.payload = payload
  | secured key srcId frameCounter commandId payload =>
      («open» ecb bytes key).1 = true ∧ («open» ecb bytes key).2.srcId = srcId ∧
        («open» ecb bytes key).2.frameCounter = frameCounter ∧
        («open» ecb bytes key).2.commandId = commandId ∧
        («open» ecb bytes key).2.payload = payload

def Agrees (outMax : UInt8) (call : GpdfCall) : Prop :=
  ∃ o, call.build ecb outMax = some o ∧
    o.Agrees outMax.toNat fun bytes => call.Recovered ecb bytes

/-- The payload fits what the parser holds, and the command one byte longer than it keeps its length
in a byte, or the builder refuses. -/
def PayloadFits (outMax : UInt8) : GpdfCall → Prop
  | unsecured _ _ payload =>
      payload.length ≤ kMaxPayload ∨ outMax.toNat < (7 + payload.length) % 256 ∨
        (7 + payload.length) % 256 = 0
  | secured _ _ _ _ payload => payload.length < 255 ∨ outMax.toNat < 14

end GpdfCall

/-! ## Frames in clear -/

def unsecuredBytes (srcId : UInt32) (commandId : UInt8) (payload : List UInt8) : List UInt8 :=
  [(kGpProtocolVersion <<< 2) ||| kNwkFcExtension, extFc 0 gpSecNone false] ++ le32 srcId ++
    [commandId] ++ payload

theorem unsecuredBytes_length (srcId : UInt32) (commandId : UInt8) (payload : List UInt8) :
    (unsecuredBytes srcId commandId payload).length = 7 + payload.length := by
  rw [unsecuredBytes, List.length_append]
  rfl

variable {outMax : UInt8} {srcId frameCounter : UInt32} {commandId : UInt8} {payload : List UInt8}

theorem buildUnsecured_run :
    buildUnsecured outMax srcId commandId payload =
      if outMax.toNat < (unsecuredBytes srcId commandId payload).length % 256 then .fail
      else ⟨(unsecuredBytes srcId commandId payload).length % 256,
        emit 0 (unsecuredBytes srcId commandId payload)⟩ := by
  rw [unsecuredBytes_length, buildUnsecured, emit_glue _ _ (by rfl), emit_glue _ _ (by rfl),
    emit_glue _ _ (by rfl)]
  rfl

private theorem unsecured_control : (unsecuredBytes srcId commandId payload).getD 0 0 = 0x8C := rfl

private theorem unsecured_extended : extended (unsecuredBytes srcId commandId payload) = true := by
  rw [extended, unsecured_control]
  decide

private theorem unsecured_extension :
    extensionOf (unsecuredBytes srcId commandId payload) = extFc 0 gpSecNone false := by
  rw [extensionOf, unsecured_extended]
  rfl

private theorem unsecured_level :
    levelOf (unsecuredBytes srcId commandId payload) = gpSecNone := by
  rw [levelOf, unsecured_extension]
  decide

private theorem unsecured_not_counted : ¬ Counted (unsecuredBytes srcId commandId payload) := by
  rw [Counted, unsecured_level]
  decide

private theorem unsecured_sourceAt : sourceAt (unsecuredBytes srcId commandId payload) = 2 :=
  if_pos unsecured_extended

private theorem unsecured_headerEnd :
    headerEnd (unsecuredBytes srcId commandId payload) = 6 := by
  rw [headerEnd, if_neg unsecured_not_counted, unsecured_sourceAt]

private theorem unsecured_body :
    body (unsecuredBytes srcId commandId payload) = commandId :: payload := by
  rw [body, unsecured_headerEnd]
  rfl

theorem parsable_unsecured :
    Parsable (unsecuredBytes srcId commandId payload) ↔ payload.length ≤ kMaxPayload := by
  have hlen := unsecuredBytes_length srcId commandId payload
  rw [Parsable, unsecured_control, unsecured_extension, unsecured_headerEnd, unsecured_level,
    unsecured_body, hlen, List.length_cons]
  constructor
  · rintro ⟨-, -, -, -, hfits⟩
    have := (hfits rfl).2
    omega
  · intro hfits
    exact ⟨by omega, by decide, by decide, by omega, fun _ => by omega⟩

theorem frameOf_unsecured :
    frameOf (unsecuredBytes srcId commandId payload) =
      { valid := true, srcId := srcId, commandId := commandId, payload := payload } := by
  have hsource : sourceOf (unsecuredBytes srcId commandId payload) = srcId := by
    rw [sourceOf, unsecured_sourceAt]
    exact join32_le32 srcId
  have hrx : rxAfterTxOf (unsecuredBytes srcId commandId payload) = false := by
    rw [rxAfterTxOf, unsecured_extension]
    decide
  rw [frameOf, unsecured_level, unsecured_body, hsource, hrx, counterOf,
    if_neg unsecured_not_counted, if_pos rfl, if_pos rfl]
  rfl

theorem unsecured_agrees_iff (ecb : BlockCipher) (outMax : UInt8) (srcId : UInt32)
    (commandId : UInt8) (payload : List UInt8) :
    (GpdfCall.unsecured srcId commandId payload).Agrees ecb outMax ↔
      (GpdfCall.unsecured srcId commandId payload).PayloadFits outMax := by
  have hlen := unsecuredBytes_length srcId commandId payload
  have hrec : (GpdfCall.unsecured srcId commandId payload).Recovered ecb
      (unsecuredBytes srcId commandId payload) ↔ payload.length ≤ kMaxPayload := by
    obtain ⟨haccepted, hrejected⟩ := parse_parsable (unsecuredBytes srcId commandId payload)
    rw [parsable_unsecured] at haccepted hrejected
    constructor
    · rintro ⟨htrue, -⟩
      by_contra hlong
      exact Bool.false_ne_true ((hrejected hlong).symm.trans htrue)
    · intro hfits
      rw [GpdfCall.Recovered, haccepted hfits, frameOf_unsecured]
      exact ⟨rfl, rfl, rfl, rfl⟩
  have hbuild : (GpdfCall.unsecured srcId commandId payload).Agrees ecb outMax ↔
      (buildUnsecured outMax srcId commandId payload).Agrees outMax.toNat fun bytes =>
        (GpdfCall.unsecured srcId commandId payload).Recovered ecb bytes := by
    simp [GpdfCall.Agrees, GpdfCall.build]
  rw [hbuild, agrees_run_iff buildUnsecured_run outMax.toNat_lt (by omega), hrec, hlen,
    GpdfCall.PayloadFits]
  simp only [kMaxPayload]
  omega

theorem unsecured_inside_iff :
    (buildUnsecured outMax srcId commandId payload).Inside outMax.toNat ↔
      ByteChecked outMax.toNat (7 + payload.length) := by
  rw [← unsecuredBytes_length srcId commandId payload]
  exact inside_run_iff outMax.toNat_lt buildUnsecured_run

/-! ## Secured frames -/

variable {ecb : BlockCipher} {key : Block}

theorem secure_long (hlong : 48 ≤ payload.length) (hlen : payload.length < 255) :
    secure ecb outMax key srcId frameCounter commandId payload = some .fail := by
  unfold secure
  dsimp only
  rw [if_pos (Or.inr (by simp only [kMaxPayload]; omega))]

/-- A command of 256 bytes passes for an empty one. -/
theorem secure_wrapped (hlen : payload.length = 255) :
    secure ecb outMax key srcId frameCounter commandId payload =
      if outMax.toNat < 14 then some .fail else none := by
  unfold secure
  dsimp only
  rw [hlen]
  by_cases hmax : outMax.toNat < 14
  · rw [if_pos hmax, if_pos]
    exact Or.inl hmax
  · rw [if_neg hmax, if_neg, if_pos (by decide)]
    rintro (h | h)
    · exact hmax h
    · exact absurd h (by decide)

theorem open_secured (hlen : payload.length ≤ 47) :
    «open» ecb (securedBytes ecb key false srcId frameCounter (commandId :: payload)) key =
      (true,
        { headerFrame false srcId frameCounter with
          commandId := commandId, payload := payload }) := by
  have hcipher : (CcmStar.ctr ecb key (gpNonce srcId frameCounter) (commandId :: payload)).length =
      payload.length + 1 := by
    rw [CcmStar.ctr_length, List.length_cons]
  rw [securedBytes, open_frame (by omega) (by simp only [kMaxPayload]; omega) (mic_length _ _ _)]
  simp only [CcmStar.ctr_ctr, if_true]
  rfl

/-- Whatever `secure` returns, it has stored nothing past the buffer. -/
theorem secured_inside (hlen : payload.length < 256) {o : Built}
    (h : secure ecb outMax key srcId frameCounter commandId payload = some o) :
    o.Inside outMax.toNat := by
  rcases Nat.lt_or_ge 47 payload.length with hlong | hshort
  · by_cases hwrap : payload.length = 255
    · rw [secure_wrapped hwrap, Option.ite_none_right_eq_some] at h
      rw [← Option.some.inj h.2]
      exact inside_fail
    · rw [secure_long hlong (by omega)] at h
      rw [← Option.some.inj h]
      exact inside_fail
  · rw [secure_eq hshort] at h
    rw [← Option.some.inj h]
    split
    · next hroom =>
      apply inside_exact
      rw [securedBytes_length, List.length_cons, kHeaderLen, kMicLen]
      omega
    · exact inside_fail

theorem secured_agrees_iff (ecb : BlockCipher) (outMax : UInt8) (key : Block)
    (srcId frameCounter : UInt32) (commandId : UInt8) (hlen : payload.length < 256) :
    (GpdfCall.secured key srcId frameCounter commandId payload).Agrees ecb outMax ↔
      (GpdfCall.secured key srcId frameCounter commandId payload).PayloadFits outMax := by
  rw [GpdfCall.Agrees, GpdfCall.build, GpdfCall.PayloadFits]
  rcases Nat.lt_or_ge 47 payload.length with hlong | hshort
  swap
  · refine iff_of_true ⟨_, secure_eq hshort, ?_⟩ (Or.inl (by omega))
    by_cases hroom : payload.length + 15 ≤ outMax.toNat
    swap
    · rw [if_neg hroom]
      exact agrees_fail
    have hlength : (securedBytes ecb key false srcId frameCounter (commandId :: payload)).length =
        payload.length + 15 := by
      rw [securedBytes_length, List.length_cons, kHeaderLen, kMicLen]
      omega
    rw [if_pos hroom, agrees_exact (by omega) (by omega), GpdfCall.Recovered, open_secured hshort]
    exact ⟨rfl, rfl, rfl, rfl, rfl⟩
  by_cases hwrap : payload.length = 255
  swap
  · refine iff_of_true ⟨_, secure_long hlong (by omega), agrees_fail⟩ (Or.inl (by omega))
  rw [secure_wrapped hwrap]
  by_cases hmax : outMax.toNat < 14
  · rw [if_pos hmax]
    exact iff_of_true ⟨_, rfl, agrees_fail⟩ (Or.inr hmax)
  · rw [if_neg hmax]
    constructor
    · rintro ⟨o, hnone, -⟩
      exact absurd hnone (by simp)
    · rintro (h | h)
      · omega
      · exact absurd h hmax

/-- What either builder returns is taken in whole by its reader, just where the payload fits. -/
theorem gpdf_round_trip_iff (ecb : BlockCipher) (outMax : UInt8) (call : GpdfCall)
    (hlen : call.payload.length < 256) :
    call.Agrees ecb outMax ↔ call.PayloadFits outMax := by
  cases call with
  | unsecured srcId commandId payload =>
    exact unsecured_agrees_iff ecb outMax srcId commandId payload
  | secured key srcId frameCounter commandId payload =>
    exact secured_agrees_iff ecb outMax key srcId frameCounter commandId hlen

/-- A reading of two bytes comes back from a secured frame. -/
theorem gpdf_round_trip_reading :
    (GpdfCall.secured (Block.ofList [0x5A]) 0x12345678 7 0x61 [0x0A, 0x0C]).Agrees
      Aes128.encrypt 64 :=
  (gpdf_round_trip_iff Aes128.encrypt 64 _ (by decide)).mpr (Or.inl (by decide))

/-- A payload of 49 bytes is sent in clear, and its frame is not parsed. -/
theorem gpdf_long_payload_lost :
    ¬ ∀ (outMax : UInt8) (call : GpdfCall), call.payload.length < 256 →
      call.Agrees Aes128.encrypt outMax := by
  intro h
  have hlost := (unsecured_agrees_iff Aes128.encrypt 255 1 0x20 (List.replicate 49 0)).mp
    (h _ _ (by decide))
  revert hlost
  simp only [GpdfCall.PayloadFits]
  decide

end NiusZigbee.ZigbeeGreenPower
