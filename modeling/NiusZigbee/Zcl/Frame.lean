import NiusZigbee.Library.OutBuffer

/-!
# ZCL frames

`ZigbeeZcl` builds command frames without a manufacturer code and parses frames with or without one.
-/

namespace NiusZigbee.ZigbeeZcl

open ByteCodec OutBuffer

def zclFrameProfileWide : UInt8 := 0
def zclFrameClusterSpecific : UInt8 := 1

def zclDirectionClientToServer : UInt8 := 0
def zclDirectionServerToClient : UInt8 := 1

def kBaseHeaderLen : Nat := 3
def kManufacturerHeaderLen : Nat := 5
def kMaxFrame : Nat := 100
def kMaxPayload : Nat := kMaxFrame - kBaseHeaderLen

structure ZclFrame where
  valid : Bool := false
  frameType : UInt8 := 0
  manufacturerSpecific : Bool := false
  manufacturerCode : UInt16 := 0
  direction : UInt8 := 0
  disableDefaultResponse : Bool := false
  sequence : UInt8 := 0
  commandId : UInt8 := 0
  payload : Option Nat := none
  payloadLen : Nat := 0
deriving DecidableEq, Repr

def commandFcf (frameType direction : UInt8) (disableDefaultResponse : Bool) : UInt8 :=
  (frameType &&& (0x03 : UInt8)) |||
    (if direction = zclDirectionServerToClient then (1 : UInt8) <<< 3 else 0) |||
    (if disableDefaultResponse then (1 : UInt8) <<< 4 else 0)

def buildCommandFrame (outMax : UInt8) (frameType sequence commandId : UInt8)
    (payload : List UInt8) (direction : UInt8) (disableDefaultResponse : Bool) : Built :=
  if frameType > zclFrameClusterSpecific then .fail
  else if direction > zclDirectionServerToClient then .fail
  else if payload.length > kMaxPayload then .fail
  else if outMax.toNat < kBaseHeaderLen + payload.length then .fail
  else
    { len := (kBaseHeaderLen + payload.length) % 256
      writes := emit 0 [commandFcf frameType direction disableDefaultResponse] ++
        emit 1 [sequence] ++ emit 2 [commandId] ++ emit kBaseHeaderLen payload }

/-- Sequence, command and payload, behind the manufacturer code. -/
def parseCommand (zcl : List UInt8) (frame : ZclFrame) (offset : Nat) : Option (Bool × ZclFrame) :=
  if zcl.length < offset + 2 then some (false, {})
  else do
    return (true,
      { frame with
        valid := true
        sequence := ← read8 zcl offset
        commandId := ← read8 zcl (offset + 1)
        payload := some (offset + 2)
        payloadLen := (zcl.length - (offset + 2)) % 256 })

def parseFrame (zcl : List UInt8) : Option (Bool × ZclFrame) :=
  if zcl.length < kBaseHeaderLen then some (false, {})
  else do
    let fcf ← read8 zcl 0
    let frameType := fcf &&& 0x03
    let manufacturerSpecific := (fcf &&& ((1 : UInt8) <<< 2)) != 0
    let frame : ZclFrame :=
      { frameType := frameType
        manufacturerSpecific := manufacturerSpecific
        direction := if (fcf &&& ((1 : UInt8) <<< 3)) ≠ 0 then zclDirectionServerToClient
          else zclDirectionClientToServer
        disableDefaultResponse := (fcf &&& ((1 : UInt8) <<< 4)) != 0 }
    if frameType > zclFrameClusterSpecific then return (false, {})
    else if manufacturerSpecific then
      if zcl.length < kManufacturerHeaderLen then return (false, {})
      else parseCommand zcl { frame with manufacturerCode := ← read16 zcl 1 } 3
    else parseCommand zcl frame 1

def ZclFrame.payloadBytes (frame : ZclFrame) (zcl : List UInt8) : List UInt8 :=
  match frame.payload with
  | none => []
  | some off => slice zcl off frame.payloadLen

/-! ## What is built is parsed -/

/-- The bytes of a command frame. -/
def commandBytes (frameType direction sequence commandId : UInt8) (disableDefaultResponse : Bool)
    (payload : List UInt8) : List UInt8 :=
  [commandFcf frameType direction disableDefaultResponse] ++ [sequence] ++ [commandId] ++ payload

private theorem low_cases {b : UInt8} (h : ¬ b > 1) : b = 0 ∨ b = 1 := by
  have hb : b.toNat ≤ 1 := UInt8.le_iff_toNat_le.mp (UInt8.not_lt.mp h)
  simp only [← UInt8.toNat_inj, UInt8.reduceToNat]
  omega

section Command

variable {frameType direction sequence commandId : UInt8} {disableDefaultResponse : Bool}
  {payload : List UInt8}

theorem buildCommandFrame_bytes {outMax : UInt8}
    (h : (buildCommandFrame outMax frameType sequence commandId payload direction
      disableDefaultResponse).len ≠ 0) :
    ¬ frameType > zclFrameClusterSpecific ∧ ¬ direction > zclDirectionServerToClient ∧
    payload.length ≤ kMaxPayload ∧
    buildCommandFrame outMax frameType sequence commandId payload direction
        disableDefaultResponse =
      .exact (commandBytes frameType direction sequence commandId disableDefaultResponse
        payload) := by
  simp only [buildCommandFrame] at h ⊢
  split at h
  · simp at h
  next htype =>
  split at h
  · simp at h
  next hdirection =>
  split at h
  · simp at h
  next hlen =>
  split at h
  · simp at h
  next hmax =>
  rw [if_neg htype, if_neg hdirection, if_neg hlen, if_neg hmax]
  refine ⟨htype, hdirection, by omega, ?_⟩
  rw [emit_glue _ _ (by rfl), emit_glue _ _ (by rfl), emit_glue _ _ (by rfl)]
  simp only [Built.exact, commandBytes, List.length_append, List.length_singleton, Built.mk.injEq,
    and_true]
  simp only [kMaxPayload, kMaxFrame, kBaseHeaderLen] at hlen ⊢
  omega

theorem commandBytes_length :
    (commandBytes frameType direction sequence commandId disableDefaultResponse payload).length =
      kBaseHeaderLen + payload.length := by
  simp [commandBytes, kBaseHeaderLen]
  omega

theorem parseFrame_bytes (htype : ¬ frameType > zclFrameClusterSpecific)
    (hdirection : ¬ direction > zclDirectionServerToClient)
    (hlen : payload.length ≤ kMaxPayload) :
    parseFrame (commandBytes frameType direction sequence commandId disableDefaultResponse
        payload) =
      some (true,
        { valid := true, frameType := frameType, direction := direction
          disableDefaultResponse := disableDefaultResponse, sequence := sequence
          commandId := commandId, payload := some kBaseHeaderLen
          payloadLen := payload.length }) := by
  have h0 : (commandBytes frameType direction sequence commandId disableDefaultResponse
      payload)[0]? = some (commandFcf frameType direction disableDefaultResponse) := rfl
  have h1 : (commandBytes frameType direction sequence commandId disableDefaultResponse
      payload)[1]? = some sequence := rfl
  have h2 : (commandBytes frameType direction sequence commandId disableDefaultResponse
      payload)[1 + 1]? = some commandId := rfl
  have hshort : ¬ kBaseHeaderLen + payload.length < kBaseHeaderLen := by omega
  have hshort' : ¬ kBaseHeaderLen + payload.length < 1 + 2 := hshort
  have hp : (kBaseHeaderLen + payload.length - (1 + 2)) % 256 = payload.length := by
    simp only [kMaxPayload, kMaxFrame, kBaseHeaderLen] at hlen ⊢
    omega
  simp only [parseFrame, parseCommand, commandBytes_length, if_neg hshort, if_neg hshort',
    read8_eq, h0, h1, h2, Option.bind_eq_bind, Option.bind_some, hp]
  rcases low_cases htype with rfl | rfl <;> rcases low_cases hdirection with rfl | rfl <;>
    cases disableDefaultResponse <;> rfl

theorem payloadBytes_command :
    slice (commandBytes frameType direction sequence commandId disableDefaultResponse payload)
      kBaseHeaderLen payload.length = payload := slice_of_length rfl rfl

end Command

/-! ## The parser reads inside the frame -/

theorem parseCommand_isSome (zcl : List UInt8) (frame : ZclFrame) (offset : Nat) :
    ∃ r, parseCommand zcl frame offset = some r := by
  by_cases hlen : zcl.length < offset + 2
  · exact ⟨_, by rw [parseCommand, if_pos hlen]⟩
  · obtain ⟨sequence, hseq⟩ := getElem?_isSome (by omega : offset < zcl.length)
    obtain ⟨commandId, hcommand⟩ := getElem?_isSome (by omega : offset + 1 < zcl.length)
    simp [parseCommand, hlen, hseq, hcommand]

theorem parseFrame_isSome (zcl : List UInt8) : ∃ r, parseFrame zcl = some r := by
  by_cases hlen : zcl.length < kBaseHeaderLen
  · exact ⟨_, by rw [parseFrame, if_pos hlen]⟩
  have hlen' : 3 ≤ zcl.length := Nat.not_lt.mp hlen
  obtain ⟨fcf, h0⟩ := getElem?_isSome (by omega : 0 < zcl.length)
  obtain ⟨code, h1⟩ := read16_isSome (by omega : 1 + 1 < zcl.length)
  simp only [parseFrame, if_neg hlen, read8_eq, h0, h1, Option.bind_eq_bind, Option.bind_some]
  split
  · exact ⟨_, rfl⟩
  split
  · split
    · exact ⟨_, rfl⟩
    · exact parseCommand_isSome zcl _ _
  · exact parseCommand_isSome zcl _ _

end NiusZigbee.ZigbeeZcl
