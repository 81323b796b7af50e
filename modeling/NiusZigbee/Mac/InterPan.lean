import NiusZigbee.Mac.RoundTrip
import NiusZigbee.Library.ByteSize

/-!
# Inter-PAN frames

A stub NWK octet and a stripped APS header in front of a command, inside a MAC data frame that
carries both PANs. The APDU is built under a size computed in a byte, and where that does not wrap
the two parsers take the two headers off again.
-/

namespace NiusZigbee

open ByteCodec OutBuffer ZigbeeMac

def interPanUnicast : UInt8 := 0
def interPanBroadcast : UInt8 := 2
def interPanGroup : UInt8 := 3

structure InterPanFrame where
  valid : Bool := false
  deliveryMode : UInt8 := 0
  groupAddress : UInt16 := 0
  clusterId : UInt16 := 0
  profileId : UInt16 := 0
  payload : Option Nat := none
  payloadLen : Nat := 0
deriving DecidableEq, Repr

namespace ZigbeeInterPan

def kStubNwkHeader : UInt8 := 0x0B
def kApsFrameType : UInt8 := 0x03

def frameControl (deliveryMode : UInt8) : UInt8 :=
  kApsFrameType ||| ((deliveryMode &&& (0x03 : UInt8)) <<< (2 : UInt8))

def build (outMax deliveryMode : UInt8) (groupAddress clusterId profileId : UInt16)
    (payload : List UInt8) : Built :=
  let hdr := 2 + (if deliveryMode = interPanGroup then 2 else 0) + 4
  let need := (hdr + payload.length) % 256
  if outMax.toNat < need then .fail
  else
    let idx := if deliveryMode = interPanGroup then 2 + 2 else 2
    { len := need
      writes :=
        emit 0 [kStubNwkHeader, frameControl deliveryMode] ++
          (if deliveryMode = interPanGroup then emit 2 (le16 groupAddress) else []) ++
          emit idx (le16 clusterId) ++ emit (idx + 2) (le16 profileId) ++
          emit (idx + 2 + 2) payload }

/-- Cluster, profile and payload, from `idx` on. -/
def parseFrom (inp : List UInt8) (idx : Nat) (f : InterPanFrame) : Option (Bool × InterPanFrame) :=
  if idx + 4 > inp.length then some (false, f)
  else do
    return (true,
      { f with
        valid := true
        clusterId := ← read16 inp idx
        profileId := ← read16 inp (idx + 2)
        payload := some (idx + 2 + 2)
        payloadLen := (inp.length - (idx + 2 + 2)) % 256 })

def parse (inp : List UInt8) : Option (Bool × InterPanFrame) :=
  if inp.length < 6 then some (false, {})
  else do
    if (← read8 inp 0) ≠ kStubNwkHeader then return (false, {})
    else
      let fc ← read8 inp 1
      if fc &&& 0x03 ≠ kApsFrameType then return (false, {})
      else
        let f : InterPanFrame := { deliveryMode := (fc >>> 2) &&& 0x03 }
        if f.deliveryMode = interPanGroup then
          if 2 + 2 > inp.length then return (false, f)
          else parseFrom inp (2 + 2) { f with groupAddress := ← read16 inp 2 }
        else parseFrom inp 2 f

/-! ## The APDU -/

/-- The bytes of an APDU. -/
def apdu (deliveryMode : UInt8) (groupAddress clusterId profileId : UInt16)
    (payload : List UInt8) : List UInt8 :=
  [kStubNwkHeader, frameControl deliveryMode] ++
    (if deliveryMode = interPanGroup then le16 groupAddress else []) ++ le16 clusterId ++
    le16 profileId ++ payload

theorem apdu_length (deliveryMode : UInt8) (groupAddress clusterId profileId : UInt16)
    (payload : List UInt8) :
    (apdu deliveryMode groupAddress clusterId profileId payload).length =
      2 + (if deliveryMode = interPanGroup then 2 else 0) + 4 + payload.length := by
  rw [apdu, List.length_append, List.length_append, List.length_append, List.length_append]
  split <;> rfl

variable {outMax deliveryMode : UInt8} {groupAddress clusterId profileId : UInt16}
  {payload : List UInt8}

theorem build_run :
    build outMax deliveryMode groupAddress clusterId profileId payload =
      if outMax.toNat < (apdu deliveryMode groupAddress clusterId profileId payload).length % 256
      then .fail
      else ⟨(apdu deliveryMode groupAddress clusterId profileId payload).length % 256,
        emit 0 (apdu deliveryMode groupAddress clusterId profileId payload)⟩ := by
  have hhead : ([kStubNwkHeader, frameControl deliveryMode] ++
      if deliveryMode = interPanGroup then le16 groupAddress else []).length =
        if deliveryMode = interPanGroup then 2 + 2 else 2 := by
    split <;> rfl
  rw [apdu_length, build]
  dsimp only
  rw [emit_glue_if _ _ _ (by rfl), emit_glue _ _ (by rw [hhead, Nat.zero_add]), emit_glue _ _ ?_,
    emit_glue _ _ ?_]
  · rfl
  · rw [List.length_append, List.length_append, hhead, le16_length, le16_length]
    omega
  · rw [List.length_append, hhead, le16_length]
    omega

theorem parseFrom_bytes {pre : List UInt8} {idx : Nat} (f : InterPanFrame) (hidx : idx = pre.length)
    (hlen : payload.length < 256) :
    parseFrom (pre ++ (le16 clusterId ++ (le16 profileId ++ payload))) idx f =
      some (true,
        { f with
          valid := true, clusterId := clusterId, profileId := profileId
          payload := some (idx + 4), payloadLen := payload.length }) := by
  have hcluster : read16 (pre ++ (le16 clusterId ++ (le16 profileId ++ payload))) idx =
      some clusterId := by
    rw [read16_append_right _ (by omega), hidx, Nat.sub_self, read16_le16]
  have hprofile : read16 (pre ++ (le16 clusterId ++ (le16 profileId ++ payload))) (idx + 2) =
      some profileId := by
    rw [read16_append_right _ (by omega), read16_append_right _ (by rw [le16_length]; omega),
      le16_length, show idx + 2 - pre.length - 2 = 0 by omega, read16_le16]
  have hlength : (pre ++ (le16 clusterId ++ (le16 profileId ++ payload))).length =
      idx + 4 + payload.length := by
    simp only [List.length_append, le16_length]
    omega
  rw [parseFrom, hlength, if_neg (by omega), hcluster, hprofile,
    show idx + 4 + payload.length - (idx + 2 + 2) = payload.length by omega,
    Nat.mod_eq_of_lt hlen]
  rfl

private theorem frameControl_decode (h : deliveryMode.toNat < 4) :
    frameControl deliveryMode &&& 0x03 = kApsFrameType ∧
      (frameControl deliveryMode >>> 2) &&& 0x03 = deliveryMode := by
  obtain ⟨i, rfl⟩ := exists_fin h
  revert i
  decide

/-- What the parser makes of an APDU. -/
def parsed (deliveryMode : UInt8) (groupAddress clusterId profileId : UInt16)
    (payload : List UInt8) : InterPanFrame where
  valid := true
  deliveryMode := deliveryMode
  groupAddress := if deliveryMode = interPanGroup then groupAddress else 0
  clusterId := clusterId
  profileId := profileId
  payload := some (if deliveryMode = interPanGroup then 8 else 6)
  payloadLen := payload.length

theorem parse_apdu (hmode : deliveryMode.toNat < 4) (hlen : payload.length < 256) :
    parse (apdu deliveryMode groupAddress clusterId profileId payload) =
      some (true, parsed deliveryMode groupAddress clusterId profileId payload) := by
  have hlength := apdu_length deliveryMode groupAddress clusterId profileId payload
  obtain ⟨htype, hdelivery⟩ := frameControl_decode hmode
  have hstub : (apdu deliveryMode groupAddress clusterId profileId payload)[0]? =
      some kStubNwkHeader := rfl
  have hcontrol : (apdu deliveryMode groupAddress clusterId profileId payload)[1]? =
      some (frameControl deliveryMode) := rfl
  simp only [parse, if_neg (show ¬ (apdu deliveryMode groupAddress clusterId profileId
    payload).length < 6 by rw [hlength]; omega), read8_eq, hstub, hcontrol, Option.bind_eq_bind,
    Option.bind_some, htype, hdelivery, if_neg (not_not_intro rfl)]
  by_cases hgroup : deliveryMode = interPanGroup
  · have hsplit : apdu deliveryMode groupAddress clusterId profileId payload =
        [kStubNwkHeader, frameControl deliveryMode] ++ le16 groupAddress ++
          (le16 clusterId ++ (le16 profileId ++ payload)) := by
      rw [apdu, if_pos hgroup]
      simp only [List.append_assoc]
    have haddress : read16 (apdu deliveryMode groupAddress clusterId profileId payload) 2 =
        some groupAddress := by
      rw [hsplit, List.append_assoc, read16_append_right _ (by simp)]
      exact read16_le16 groupAddress _
    rw [if_pos hgroup, if_neg (by rw [hlength]; omega), haddress, Option.bind_some, hsplit,
      parseFrom_bytes _ (by rfl) hlen, parsed, if_pos hgroup, if_pos hgroup]
  · have hsplit : apdu deliveryMode groupAddress clusterId profileId payload =
        [kStubNwkHeader, frameControl deliveryMode] ++
          (le16 clusterId ++ (le16 profileId ++ payload)) := by
      rw [apdu, if_neg hgroup]
      simp only [List.append_assoc, List.append_nil]
    rw [if_neg hgroup, hsplit, parseFrom_bytes _ (by rfl) hlen, parsed, if_neg hgroup,
      if_neg hgroup]

theorem parsed_payload :
    slice (apdu deliveryMode groupAddress clusterId profileId payload)
      (if deliveryMode = interPanGroup then 8 else 6) payload.length = payload := by
  refine slice_of_length ?_ rfl
  simp only [List.length_append, le16_length]
  split <;> rfl

/-! ## Inside a MAC frame -/

/-- The arguments of `buildInterPanFrame` besides the APDU. -/
structure Addressing where
  dstAddrMode : UInt8
  dstPanId : UInt16
  dstShort : UInt16 := 0
  dstIeee : UInt64 := 0
  srcPanId : UInt16
  srcIeee : UInt64
  sequence : UInt8
  ackRequest : Bool := false

/-- The MAC frame around an APDU. -/
def Addressing.frame (addressing : Addressing) (macMax : UInt8) (bytes : List UInt8) : Built :=
  buildInterPanFrame macMax addressing.dstAddrMode addressing.dstPanId addressing.dstShort
    addressing.dstIeee addressing.srcPanId addressing.srcIeee addressing.sequence bytes
    addressing.ackRequest

def Addressing.Recovered (addressing : Addressing) (frame : MacInterPanFrame) : Prop :=
  frame.dstAddrMode = addressing.dstAddrMode ∧ frame.dstPanId = addressing.dstPanId ∧
    (addressing.dstAddrMode = macAddrShort → frame.dstShort = addressing.dstShort) ∧
    (addressing.dstAddrMode = macAddrExtended → frame.dstIeee = addressing.dstIeee) ∧
    frame.srcPanId = addressing.srcPanId ∧ frame.srcIeee = addressing.srcIeee

/-- The APDU is parsed, with the fields it was built from. -/
def Recovered (deliveryMode : UInt8) (groupAddress clusterId profileId : UInt16)
    (payload bytes : List UInt8) : Prop :=
  ∃ f, parse bytes = some (true, f) ∧ f.deliveryMode = deliveryMode ∧
    (deliveryMode = interPanGroup → f.groupAddress = groupAddress) ∧ f.clusterId = clusterId ∧
    f.profileId = profileId ∧ payloadSlice bytes f.payload f.payloadLen = payload

/-- The APDU keeps to its buffer, and from any MAC frame that takes it both headers are read. -/
def Framed (outMax deliveryMode : UInt8) (groupAddress clusterId profileId : UInt16)
    (payload : List UInt8) : Prop :=
  let built := build outMax deliveryMode groupAddress clusterId profileId payload
  (built.len = 0 ∨ built.Within outMax.toNat) ∧
    ∀ (macMax : UInt8) (addressing : Addressing), built.len ≠ 0 →
      (addressing.frame macMax built.bytes).len ≠ 0 →
        let psdu := (addressing.frame macMax built.bytes).bytes
        ∃ frame, parseInterPanFrame psdu = some (true, frame) ∧ addressing.Recovered frame ∧
          Recovered deliveryMode groupAddress clusterId profileId payload
            (payloadSlice psdu frame.payload frame.payloadLen)

theorem apdu_recovered (hmode : deliveryMode.toNat < 4) (hlen : payload.length < 256) :
    Recovered deliveryMode groupAddress clusterId profileId payload
      (apdu deliveryMode groupAddress clusterId profileId payload) :=
  ⟨_, parse_apdu hmode hlen, rfl, fun hgroup => if_pos hgroup, rfl, rfl, parsed_payload⟩

theorem frame_recovered {macMax : UInt8} {addressing : Addressing} {bytes : List UInt8}
    (h : (addressing.frame macMax bytes).len ≠ 0) :
    let psdu := (addressing.frame macMax bytes).bytes
    ∃ frame, parseInterPanFrame psdu = some (true, frame) ∧ addressing.Recovered frame ∧
      payloadSlice psdu frame.payload frame.payloadLen = bytes := by
  obtain ⟨frame, hparse, -, -, -, hmode, hpan, hshort, hext, hsrcPan, hsrc, hpayload⟩ :=
    MacCall.interPan_recovered h
  exact ⟨frame, hparse, ⟨hmode, hpan, hshort, hext, hsrcPan, hsrc⟩, hpayload⟩

theorem build_agrees_iff {recovered : List UInt8 → Prop}
    (hrec : recovered (apdu deliveryMode groupAddress clusterId profileId payload)) :
    (build outMax deliveryMode groupAddress clusterId profileId payload).Agrees outMax.toNat
        recovered ↔
      ByteSized outMax.toNat
        (2 + (if deliveryMode = interPanGroup then 2 else 0) + 4 + payload.length) := by
  have hlength := apdu_length deliveryMode groupAddress clusterId profileId payload
  rw [← hlength]
  exact (agrees_run_iff build_run outMax.toNat_lt (by omega)).trans (byteSized_iff fun _ => hrec)

/-- Whether the stores stay inside is up to the size alone. -/
theorem build_kept_iff :
    ((build outMax deliveryMode groupAddress clusterId profileId payload).len = 0 ∨
        (build outMax deliveryMode groupAddress clusterId profileId payload).Within
          outMax.toNat) ↔
      ByteSized outMax.toNat
        (2 + (if deliveryMode = interPanGroup then 2 else 0) + 4 + payload.length) := by
  have hagrees := @build_agrees_iff outMax deliveryMode groupAddress clusterId profileId payload
    (fun _ => True) trivial
  rwa [Built.Agrees, and_true] at hagrees

/-- A size that wraps to 0 is reported as 0, but is stored past the buffer as well. -/
theorem build_inside_iff :
    (build outMax deliveryMode groupAddress clusterId profileId payload).Inside outMax.toNat ↔
      ByteChecked outMax.toNat
        (2 + (if deliveryMode = interPanGroup then 2 else 0) + 4 + payload.length) := by
  rw [← apdu_length deliveryMode groupAddress clusterId profileId payload]
  exact inside_run_iff outMax.toNat_lt build_run

/-- Inter-PAN framing holds just where the size of the APDU fits a byte, or is refused. -/
theorem inter_pan_framed_iff (outMax deliveryMode : UInt8)
    (groupAddress clusterId profileId : UInt16) (payload : List UInt8)
    (hmode : deliveryMode.toNat < 4) (hlen : payload.length < 256) :
    Framed outMax deliveryMode groupAddress clusterId profileId payload ↔
      ByteSized outMax.toNat
        (2 + (if deliveryMode = interPanGroup then 2 else 0) + 4 + payload.length) := by
  refine ⟨fun h => build_kept_iff.mp h.1, fun hsize => ⟨build_kept_iff.mpr hsize, ?_⟩⟩
  intro macMax addressing hbuilt hframe
  have hagrees : (build outMax deliveryMode groupAddress clusterId profileId payload).Agrees
      outMax.toNat (Recovered deliveryMode groupAddress clusterId profileId payload) :=
    (build_agrees_iff (apdu_recovered hmode hlen)).mpr hsize
  obtain ⟨frame, hparse, haddresses, hpayload⟩ := frame_recovered hframe
  refine ⟨frame, hparse, haddresses, ?_⟩
  rw [hpayload]
  exact (hagrees.resolve_left hbuilt).2

/-- A touchlink scan request. -/
theorem inter_pan_framed_scan :
    Framed 64 interPanBroadcast 0 0x1000 0xC05E [0x11, 0x01, 0x00, 0x78, 0x56, 0x34, 0x12] :=
  (inter_pan_framed_iff 64 interPanBroadcast 0 0x1000 0xC05E _ (by decide) (by decide)).mpr
    (Or.inl (by decide))

/-- A payload of 251 bytes is stored behind a frame of one byte. -/
theorem inter_pan_overruns :
    ¬ ∀ (outMax deliveryMode : UInt8) (groupAddress clusterId profileId : UInt16)
      (payload : List UInt8), deliveryMode.toNat < 4 → payload.length < 256 →
        Framed outMax deliveryMode groupAddress clusterId profileId payload := by
  intro h
  have hlen : (List.replicate 251 (0 : UInt8)).length = 251 := List.length_replicate
  have hframed := h 116 interPanUnicast 0 0x1000 0xC05E (List.replicate 251 0) (by decide)
    (by rw [hlen]; decide)
  have hsize := build_kept_iff.mp hframed.1
  rw [hlen] at hsize
  revert hsize
  decide

end ZigbeeInterPan

end NiusZigbee
