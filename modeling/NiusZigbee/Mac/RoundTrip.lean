import NiusZigbee.Mac.Codec

/-!
# MAC builders and their parsers agree

One call of any MAC builder, its bytes, and what the parsers make of them: the parser written for
the builder accepts and recovers the call, the other three refuse.
-/

namespace NiusZigbee.ZigbeeMac

open ByteCodec OutBuffer

/-! ## Addresses on the wire -/

/-- A short or an extended address, as a header carries it. -/
inductive MacAddr where
  | short (address : UInt16)
  | extended (ieee : UInt64)
deriving DecidableEq, Repr

namespace MacAddr

def mode : MacAddr → UInt8
  | short _ => macAddrShort
  | extended _ => macAddrExtended

def bytes : MacAddr → List UInt8
  | short address => le16 address
  | extended ieee => le64 ieee

/-- What the parsers leave in the two address fields. -/
def parsed (address : MacAddr) (panId : UInt16) (offset : Nat) : MacAddress :=
  match address with
  | short addr => { panId := panId, short := addr, offset := offset + 2 }
  | extended ieee => { panId := panId, ieee := ieee, offset := offset + 8 }

end MacAddr

section Addresses

variable {psdu pre rest : List UInt8} {offset : Nat}

theorem parseAddress_bytes (address : MacAddr) (panId : UInt16)
    (hpsdu : psdu = pre ++ (address.bytes ++ rest)) (hoff : pre.length = offset) :
    parseAddress psdu address.mode panId offset =
      some (some (address.parsed panId offset)) := by
  cases address with
  | short addr =>
    have hread : read16 psdu offset = some addr := by
      rw [hpsdu, read16_append_right _ (by omega), ← hoff, Nat.sub_self]
      exact read16_le16 addr rest
    have hlen : ¬ psdu.length < offset + 2 := by
      rw [hpsdu]
      simp only [List.length_append, MacAddr.bytes, le16_length]
      omega
    simp [parseAddress, MacAddr.mode, MacAddr.parsed, hlen, hread]
  | extended ieee =>
    have hread : read64 psdu offset = some ieee := by
      rw [hpsdu, read64_append_right _ (by omega), ← hoff, Nat.sub_self]
      exact read64_le64 ieee rest
    have hlen : ¬ psdu.length < offset + 8 := by
      rw [hpsdu]
      simp only [List.length_append, MacAddr.bytes, le64_length]
      omega
    simp [parseAddress, MacAddr.mode, MacAddr.parsed, macAddrShort, macAddrExtended, hlen, hread]

theorem MacAddr.mode_ne_none (address : MacAddr) : address.mode ≠ macAddrNone := by
  cases address <;> simp [MacAddr.mode, macAddrNone, macAddrShort, macAddrExtended]

theorem parseDestination_bytes (address : MacAddr) (panId : UInt16)
    (hpsdu : psdu = pre ++ (le16 panId ++ (address.bytes ++ rest))) (hoff : pre.length = offset) :
    parseDestination psdu address.mode offset =
      some (some (address.parsed panId (offset + 2))) := by
  have hread : read16 psdu offset = some panId := by
    rw [hpsdu, read16_append_right _ (by omega), ← hoff, Nat.sub_self]
    exact read16_le16 panId _
  have hlen : ¬ psdu.length < offset + 2 := by
    rw [hpsdu]
    simp only [List.length_append, le16_length]
    omega
  rw [← List.append_assoc] at hpsdu
  have haddress := parseAddress_bytes address panId hpsdu
    (by rw [List.length_append, le16_length, hoff])
  simpa [parseDestination, address.mode_ne_none, hlen, hread] using haddress

theorem parseOrigin_bytes (address : MacAddr) (panId dstPanId : UInt16)
    (hpsdu : psdu = pre ++ (le16 panId ++ (address.bytes ++ rest))) (hoff : pre.length = offset) :
    parseOrigin psdu address.mode false dstPanId offset =
      some (some (address.parsed panId (offset + 2))) := by
  have hdst := parseDestination_bytes address panId hpsdu hoff
  simpa [parseOrigin, parseDestination, address.mode_ne_none] using hdst

theorem parseOrigin_compressed (address : MacAddr) (dstPanId : UInt16)
    (hpsdu : psdu = pre ++ (address.bytes ++ rest)) (hoff : pre.length = offset) :
    parseOrigin psdu address.mode true dstPanId offset =
      some (some (address.parsed dstPanId offset)) := by
  simpa [parseOrigin, address.mode_ne_none] using parseAddress_bytes address dstPanId hpsdu hoff

end Addresses

@[simp] theorem MacAddr.parsed_panId (address : MacAddr) (panId : UInt16) (offset : Nat) :
    (address.parsed panId offset).panId = panId := by
  cases address <;> rfl

@[simp] theorem MacAddr.parsed_offset (address : MacAddr) (panId : UInt16) (offset : Nat) :
    (address.parsed panId offset).offset = offset + address.bytes.length := by
  cases address <;> simp [parsed, bytes]

/-! ## Frames on the wire -/

/-- Frame control, sequence number and destination, before what the frame type adds. -/
def addressedBytes (fcf : UInt16) (sequence : UInt8) (panId : UInt16) (dst : MacAddr)
    (rest : List UInt8) : List UInt8 :=
  le16 fcf ++ ([sequence] ++ (le16 panId ++ (dst.bytes ++ rest)))

section Addressed

variable (fcf : UInt16) (sequence : UInt8) (panId : UInt16) (dst : MacAddr) (rest : List UInt8)

theorem addressedBytes_length :
    (addressedBytes fcf sequence panId dst rest).length = 5 + dst.bytes.length + rest.length := by
  simp only [addressedBytes, List.length_append, le16_length, List.length_singleton]
  omega

theorem addressedBytes_split :
    addressedBytes fcf sequence panId dst rest =
      (le16 fcf ++ ([sequence] ++ (le16 panId ++ dst.bytes))) ++ rest := by
  simp only [addressedBytes, List.append_assoc]

private theorem addressed_head_length :
    (le16 fcf ++ ([sequence] ++ (le16 panId ++ dst.bytes))).length = 5 + dst.bytes.length := by
  simp only [List.length_append, le16_length, List.length_singleton]
  omega

theorem addressedBytes_reads :
    let psdu := addressedBytes fcf sequence panId dst rest
    read16 psdu 0 = some fcf ∧ psdu[2]? = some sequence ∧
      parseDestination psdu dst.mode 3 = some (some (dst.parsed panId 5)) := by
  refine ⟨read16_le16 fcf _, rfl, ?_⟩
  refine @parseDestination_bytes _ (le16 fcf ++ [sequence]) rest 3 dst panId ?_ rfl
  simp only [addressedBytes, List.append_assoc]

variable {fcf sequence panId dst}

/-- A command frame whose origin parses to `origin`, right before the command id. -/
theorem parseCommandFrame_addressed {ack compression : Bool} {srcMode commandId : UInt8}
    {src payload : List UInt8} {origin : MacAddress}
    (hfcf : decodeFcf fcf = ⟨macFrameCommand, ack, compression, dst.mode, srcMode⟩)
    (horigin : parseOrigin (addressedBytes fcf sequence panId dst (src ++ commandId :: payload))
      srcMode compression panId (5 + dst.bytes.length) = some (some origin))
    (hend : origin.offset = 5 + dst.bytes.length + src.length) (hpayload : payload.length < 256) :
    parseCommandFrame (addressedBytes fcf sequence panId dst (src ++ commandId :: payload)) =
      some (true,
        { valid := true, frameType := macFrameCommand, sequence := sequence, ackRequest := ack
          panIdCompression := compression, dstAddrMode := dst.mode, srcAddrMode := srcMode
          dstPanId := panId, dstShort := (dst.parsed panId 5).short
          dstIeee := (dst.parsed panId 5).ieee, srcPanId := origin.panId
          srcShort := origin.short, srcIeee := origin.ieee, commandId := commandId
          payload := some (origin.offset + 1), payloadLen := payload.length }) := by
  obtain ⟨h0, h2, hdst⟩ :=
    addressedBytes_reads fcf sequence panId dst (src ++ commandId :: payload)
  have hlen := addressedBytes_length fcf sequence panId dst (src ++ commandId :: payload)
  have hcommand : (addressedBytes fcf sequence panId dst
      (src ++ commandId :: payload))[origin.offset]? = some commandId := by
    have hhead := addressed_head_length fcf sequence panId dst
    rw [addressedBytes_split, List.getElem?_append_right (by omega), hhead, hend,
      Nat.add_sub_cancel_left, List.getElem?_append_right (Nat.le_refl _), Nat.sub_self]
    rfl
  generalize addressedBytes fcf sequence panId dst (src ++ commandId :: payload) = psdu at *
  simp only [List.length_append, List.length_cons] at hlen
  have hshort : ¬ psdu.length < 4 := by omega
  have hin : ¬ psdu.length < origin.offset + 1 := by omega
  have hcast : (psdu.length - (origin.offset + 1)) % 256 = payload.length := by
    rw [show psdu.length - (origin.offset + 1) = payload.length by omega]
    exact Nat.mod_eq_of_lt hpayload
  simp only [parseCommandFrame, if_neg hshort, h0, hfcf, hdst, MacAddr.parsed_panId,
    MacAddr.parsed_offset, horigin, if_neg hin, read8_eq, h2, hcommand, hcast,
    Option.bind_eq_bind, Option.bind_some]
  simp

variable (fcf sequence panId dst) in
theorem addressedBytes_payload (src : List UInt8) (commandId : UInt8) (payload : List UInt8) :
    slice (addressedBytes fcf sequence panId dst (src ++ commandId :: payload))
      (5 + dst.bytes.length + src.length + 1) payload.length = payload := by
  have hsplit : addressedBytes fcf sequence panId dst (src ++ commandId :: payload) =
      ((le16 fcf ++ ([sequence] ++ (le16 panId ++ dst.bytes))) ++ (src ++ [commandId])) ++
        payload := by
    rw [addressedBytes_split]
    simp only [List.append_assoc, List.cons_append, List.nil_append]
  rw [hsplit]
  refine slice_of_length ?_ rfl
  rw [List.length_append, addressed_head_length, List.length_append, List.length_singleton,
    Nat.add_assoc]

theorem parseInterPanFrame_addressed {ack : Bool} {srcPanId : UInt16} {srcIeee : UInt64}
    {payload : List UInt8}
    (hfcf : decodeFcf fcf = ⟨macFrameData, ack, false, dst.mode, macAddrExtended⟩)
    (hpayload : payload.length < 256) :
    parseInterPanFrame
        (addressedBytes fcf sequence panId dst (le16 srcPanId ++ (le64 srcIeee ++ payload))) =
      some (true,
        { valid := true, sequence := sequence, ackRequest := ack, dstAddrMode := dst.mode
          dstPanId := panId, dstShort := (dst.parsed panId 5).short
          dstIeee := (dst.parsed panId 5).ieee, srcPanId := srcPanId, srcIeee := srcIeee
          payload := some (15 + dst.bytes.length), payloadLen := payload.length }) := by
  obtain ⟨h0, h2, hdst⟩ :=
    addressedBytes_reads fcf sequence panId dst (le16 srcPanId ++ (le64 srcIeee ++ payload))
  have hlen := addressedBytes_length fcf sequence panId dst
    (le16 srcPanId ++ (le64 srcIeee ++ payload))
  obtain ⟨origin, hsrc, hpan, hieee, hoff⟩ : ∃ origin : MacAddress,
      parseOrigin
          (addressedBytes fcf sequence panId dst (le16 srcPanId ++ (le64 srcIeee ++ payload)))
          macAddrExtended false panId (5 + dst.bytes.length) = some (some origin) ∧
        origin.panId = srcPanId ∧ origin.ieee = srcIeee ∧
        origin.offset = 15 + dst.bytes.length := by
    refine ⟨_, parseOrigin_bytes (.extended srcIeee) srcPanId panId
      (addressedBytes_split _ _ _ _ _) (addressed_head_length _ _ _ _), rfl, rfl, ?_⟩
    simp only [MacAddr.parsed]
    omega
  generalize addressedBytes fcf sequence panId dst
    (le16 srcPanId ++ (le64 srcIeee ++ payload)) = psdu at *
  simp only [List.length_append, le16_length, le64_length] at hlen
  have hshort : ¬ psdu.length < 5 := by omega
  have hmode : ¬ (dst.mode ≠ macAddrShort && dst.mode ≠ macAddrExtended) = true := by
    cases dst <;> simp [MacAddr.mode]
  have hcast : (psdu.length - (15 + dst.bytes.length)) % 256 = payload.length := by
    rw [show psdu.length - (15 + dst.bytes.length) = payload.length by omega]
    exact Nat.mod_eq_of_lt hpayload
  simp only [parseInterPanFrame, if_neg hshort, h0, hfcf, hdst, Option.bind_eq_bind,
    Option.bind_some, if_neg hmode, read8_eq, h2, MacAddr.parsed_panId, MacAddr.parsed_offset,
    hsrc, hpan, hieee, hoff, hcast]
  simp

end Addressed

theorem decode_associationRequestFcf (ackRequest : Bool) :
    decodeFcf (associationRequestFcf ackRequest) =
      ⟨macFrameCommand, ackRequest, true, macAddrShort, macAddrExtended⟩ := by
  cases ackRequest <;> decide

theorem decode_associationResponseFcf (ackRequest : Bool) :
    decodeFcf (associationResponseFcf ackRequest) =
      ⟨macFrameCommand, ackRequest, true, macAddrExtended, macAddrShort⟩ := by
  cases ackRequest <;> decide

theorem decode_interPanFcf (dst : MacAddr) (ackRequest : Bool) :
    decodeFcf (interPanFcf dst.mode ackRequest) =
      ⟨macFrameData, ackRequest, false, dst.mode, macAddrExtended⟩ := by
  cases dst <;> simp only [MacAddr.mode] <;> cases ackRequest <;> decide

theorem superframe_flags (panCoordinator associationPermit : Bool) :
    let superframe := beaconSuperframe panCoordinator associationPermit
    ((superframe &&& ((1 : UInt16) <<< 14)) != 0) = panCoordinator ∧
      ((superframe &&& ((1 : UInt16) <<< 15)) != 0) = associationPermit := by
  cases panCoordinator <;> cases associationPermit <;> decide

/-! ## One call of a builder -/

inductive MacCall where
  | shortData (panId dstShort srcShort : UInt16) (sequence : UInt8) (payload : List UInt8)
      (ackRequest : Bool)
  | associationRequest (panId coordShort : UInt16) (srcIeee : UInt64)
      (sequence capability : UInt8) (ackRequest : Bool)
  | associationResponse (panId : UInt16) (dstIeee : UInt64) (srcShort : UInt16)
      (sequence : UInt8) (assignedShort : UInt16) (status : UInt8) (ackRequest : Bool)
  | beaconRequest (sequence : UInt8)
  | dataRequest (panId parentShort childShort : UInt16) (sequence : UInt8)
  | interPan (dstAddrMode : UInt8) (dstPanId dstShort : UInt16) (dstIeee : UInt64)
      (srcPanId : UInt16) (srcIeee : UInt64) (sequence : UInt8) (payload : List UInt8)
      (ackRequest : Bool)
  | beacon (srcPanId srcShort : UInt16) (sequence : UInt8)
      (panCoordinator associationPermit : Bool) (payload : List UInt8)
deriving DecidableEq, Repr

/-- The bytes behind a frame's payload pointer. -/
def payloadSlice (psdu : List UInt8) (payload : Option Nat) (payloadLen : Nat) : List UInt8 :=
  match payload with
  | none => []
  | some off => slice psdu off payloadLen

namespace MacCall

def build (outMax : UInt8) : MacCall → Built
  | shortData panId dstShort srcShort sequence payload ackRequest =>
      buildShortDataFrame outMax panId dstShort srcShort sequence payload ackRequest
  | associationRequest panId coordShort srcIeee sequence capability ackRequest =>
      buildAssociationRequest outMax panId coordShort srcIeee sequence capability ackRequest
  | associationResponse panId dstIeee srcShort sequence assignedShort status ackRequest =>
      buildAssociationResponse outMax panId dstIeee srcShort sequence assignedShort status
        ackRequest
  | beaconRequest sequence => buildBeaconRequest outMax sequence
  | dataRequest panId parentShort childShort sequence =>
      buildDataRequest outMax panId parentShort childShort sequence
  | interPan dstAddrMode dstPanId dstShort dstIeee srcPanId srcIeee sequence payload ackRequest =>
      buildInterPanFrame outMax dstAddrMode dstPanId dstShort dstIeee srcPanId srcIeee sequence
        payload ackRequest
  | beacon srcPanId srcShort sequence panCoordinator associationPermit payload =>
      buildBeacon outMax srcPanId srcShort sequence panCoordinator associationPermit payload

/-- The parser written for the builder's frames. -/
def parser : MacCall → MacParser
  | shortData .. => .shortData
  | associationRequest .. | associationResponse .. | beaconRequest .. | dataRequest .. => .command
  | interPan .. => .interPan
  | beacon .. => .beacon

/-- The parser accepts and recovers what the frame carries. -/
def Recovered (bytes : List UInt8) : MacCall → Prop
  | shortData panId dstShort srcShort sequence payload ackRequest =>
      ∃ frame, parseShortDataFrame bytes = some (true, frame) ∧ frame.valid = true ∧
        frame.frameType = macFrameData ∧ frame.sequence = sequence ∧
        frame.ackRequest = ackRequest ∧ frame.panIdCompression = true ∧
        frame.dstPanId = panId ∧ frame.dstShort = dstShort ∧ frame.srcPanId = panId ∧
        frame.srcShort = srcShort ∧ payloadSlice bytes frame.payload frame.payloadLen = payload
  | associationRequest panId coordShort srcIeee sequence capability ackRequest =>
      ∃ frame, parseCommandFrame bytes = some (true, frame) ∧ frame.valid = true ∧
        frame.frameType = macFrameCommand ∧ frame.sequence = sequence ∧
        frame.ackRequest = ackRequest ∧ frame.panIdCompression = true ∧
        frame.dstAddrMode = macAddrShort ∧ frame.srcAddrMode = macAddrExtended ∧
        frame.dstPanId = panId ∧ frame.dstShort = coordShort ∧ frame.srcPanId = panId ∧
        frame.srcIeee = srcIeee ∧ frame.commandId = macCmdAssociationRequest ∧
        payloadSlice bytes frame.payload frame.payloadLen = [capability] ∧
        parseAssociationRequest bytes frame = some (true,
          { valid := true, capability := capability
            fullFunctionDevice := (capability &&& 0x02) != 0
            receiverOnWhenIdle := (capability &&& 0x08) != 0
            allocateAddress := (capability &&& 0x80) != 0 })
  | associationResponse panId dstIeee srcShort sequence assignedShort status ackRequest =>
      ∃ frame, parseCommandFrame bytes = some (true, frame) ∧ frame.valid = true ∧
        frame.frameType = macFrameCommand ∧ frame.sequence = sequence ∧
        frame.ackRequest = ackRequest ∧ frame.panIdCompression = true ∧
        frame.dstAddrMode = macAddrExtended ∧ frame.srcAddrMode = macAddrShort ∧
        frame.dstPanId = panId ∧ frame.dstIeee = dstIeee ∧ frame.srcPanId = panId ∧
        frame.srcShort = srcShort ∧ frame.commandId = macCmdAssociationResponse ∧
        payloadSlice bytes frame.payload frame.payloadLen = le16 assignedShort ++ [status] ∧
        parseAssociationResponse bytes frame = some (true,
          { valid := true, shortAddress := assignedShort, status := status })
  | beaconRequest sequence =>
      ∃ frame, parseCommandFrame bytes = some (true, frame) ∧ frame.valid = true ∧
        frame.frameType = macFrameCommand ∧ frame.sequence = sequence ∧
        frame.ackRequest = false ∧ frame.panIdCompression = false ∧
        frame.dstAddrMode = macAddrShort ∧ frame.srcAddrMode = macAddrNone ∧
        frame.dstPanId = kBroadcastPan ∧ frame.dstShort = kBroadcastShort ∧
        frame.commandId = macCmdBeaconRequest ∧
        payloadSlice bytes frame.payload frame.payloadLen = []
  | dataRequest panId parentShort childShort sequence =>
      ∃ frame, parseCommandFrame bytes = some (true, frame) ∧ frame.valid = true ∧
        frame.frameType = macFrameCommand ∧ frame.sequence = sequence ∧
        frame.ackRequest = true ∧ frame.panIdCompression = true ∧
        frame.dstAddrMode = macAddrShort ∧ frame.srcAddrMode = macAddrShort ∧
        frame.dstPanId = panId ∧ frame.dstShort = parentShort ∧ frame.srcPanId = panId ∧
        frame.srcShort = childShort ∧ frame.commandId = macCmdDataRequest ∧
        payloadSlice bytes frame.payload frame.payloadLen = []
  | interPan dstAddrMode dstPanId dstShort dstIeee srcPanId srcIeee sequence payload ackRequest =>
      ∃ frame, parseInterPanFrame bytes = some (true, frame) ∧ frame.valid = true ∧
        frame.sequence = sequence ∧ frame.ackRequest = ackRequest ∧
        frame.dstAddrMode = dstAddrMode ∧ frame.dstPanId = dstPanId ∧
        (dstAddrMode = macAddrShort → frame.dstShort = dstShort) ∧
        (dstAddrMode = macAddrExtended → frame.dstIeee = dstIeee) ∧
        frame.srcPanId = srcPanId ∧ frame.srcIeee = srcIeee ∧
        payloadSlice bytes frame.payload frame.payloadLen = payload
  | beacon srcPanId srcShort sequence panCoordinator associationPermit payload =>
      ∃ frame, parseBeacon bytes = some (true, frame) ∧ frame.valid = true ∧
        frame.sequence = sequence ∧ frame.srcPanId = srcPanId ∧ frame.srcShort = srcShort ∧
        frame.panCoordinator = panCoordinator ∧ frame.associationPermit = associationPermit ∧
        payloadSlice bytes frame.payload frame.payloadLen = payload

theorem shortData_recovered {outMax : UInt8} {panId dstShort srcShort : UInt16}
    {sequence : UInt8} {payload : List UInt8} {ackRequest : Bool}
    (h : ((shortData panId dstShort srcShort sequence payload ackRequest).build outMax).len ≠ 0) :
    (shortData panId dstShort srcShort sequence payload ackRequest).Recovered
      ((shortData panId dstShort srcShort sequence payload ackRequest).build outMax).bytes := by
  obtain ⟨hlen, hbuild⟩ := buildShortDataFrame_bytes h
  have hparse := parseShortDataFrame_bytes panId dstShort srcShort sequence ackRequest hlen
  rw [build, hbuild, Built.exact_bytes]
  exact ⟨_, hparse, rfl, rfl, rfl, rfl, rfl, rfl, rfl, rfl, rfl,
    payloadBytes_shortData _ _ _ _ _ _⟩

theorem payloadAt_of_slice {psdu : List UInt8} {frame : MacCommandFrame} {payload : List UInt8}
    (hslice : payloadSlice psdu frame.payload frame.payloadLen = payload) {i : Nat}
    (hlen : i < frame.payloadLen) (hi : i < payload.length) :
    frame.payloadAt psdu i = some payload[i] := by
  cases hpayload : frame.payload with
  | none =>
    rw [hpayload, payloadSlice] at hslice
    simp [← hslice] at hi
  | some off =>
    rw [hpayload, payloadSlice] at hslice
    have hget : (slice psdu off frame.payloadLen)[i]? = psdu[off + i]? := by
      rw [slice, List.getElem?_take_of_lt hlen, List.getElem?_drop]
    simp only [MacCommandFrame.payloadAt, hpayload, read8_eq, ← hget, hslice]
    exact List.getElem?_eq_getElem hi

theorem parseAssociationRequest_of_slice {psdu : List UInt8} {frame : MacCommandFrame}
    {capability : UInt8} (hvalid : frame.valid = true)
    (hcommand : frame.commandId = macCmdAssociationRequest) (hlen : frame.payloadLen = 1)
    (hslice : payloadSlice psdu frame.payload frame.payloadLen = [capability]) :
    parseAssociationRequest psdu frame = some (true,
      { valid := true, capability := capability
        fullFunctionDevice := (capability &&& 0x02) != 0
        receiverOnWhenIdle := (capability &&& 0x08) != 0
        allocateAddress := (capability &&& 0x80) != 0 }) := by
  have h0 := @payloadAt_of_slice _ _ _ hslice 0 (by omega) (by simp)
  simp [parseAssociationRequest, hvalid, hcommand, hlen, h0]

theorem parseAssociationResponse_of_slice {psdu : List UInt8} {frame : MacCommandFrame}
    {assignedShort : UInt16} {status : UInt8} (hvalid : frame.valid = true)
    (hcommand : frame.commandId = macCmdAssociationResponse) (hlen : frame.payloadLen = 3)
    (hslice : payloadSlice psdu frame.payload frame.payloadLen =
      le16 assignedShort ++ [status]) :
    parseAssociationResponse psdu frame = some (true,
      { valid := true, shortAddress := assignedShort, status := status }) := by
  have h0 := @payloadAt_of_slice _ _ _ hslice 0 (by omega) (by simp)
  have h1 := @payloadAt_of_slice _ _ _ hslice 1 (by omega) (by simp)
  have h2 := @payloadAt_of_slice _ _ _ hslice 2 (by omega) (by simp)
  simp [parseAssociationResponse, hvalid, hcommand, hlen, h0, h1, h2, le16]

theorem associationRequest_recovered {outMax : UInt8} {panId coordShort : UInt16}
    {srcIeee : UInt64} {sequence capability : UInt8} {ackRequest : Bool}
    (h : ((associationRequest panId coordShort srcIeee sequence capability ackRequest).build
      outMax).len ≠ 0) :
    (associationRequest panId coordShort srcIeee sequence capability ackRequest).Recovered
      ((associationRequest panId coordShort srcIeee sequence capability ackRequest).build
        outMax).bytes := by
  have hmax : ¬ outMax.toNat < 17 := by
    intro hshort
    exact h (by rw [build, buildAssociationRequest, if_pos hshort, Built.fail_len])
  have hbuild : (associationRequest panId coordShort srcIeee sequence capability ackRequest).build
      outMax = .exact (addressedBytes (associationRequestFcf ackRequest) sequence panId
        (.short coordShort) (le64 srcIeee ++ macCmdAssociationRequest :: [capability])) := by
    rw [build, buildAssociationRequest, if_neg hmax]
    simp [Built.exact, addressedBytes, MacAddr.bytes, emit_append, emit]
  have hparse := parseCommandFrame_addressed (decode_associationRequestFcf ackRequest)
    (parseOrigin_compressed (.extended srcIeee) panId
      (addressedBytes_split _ sequence panId (.short coordShort)
        (le64 srcIeee ++ macCmdAssociationRequest :: [capability]))
      (addressed_head_length _ _ _ _)) (MacAddr.parsed_offset _ _ _) (by simp)
  have hslice := addressedBytes_payload (associationRequestFcf ackRequest) sequence panId
    (.short coordShort) (le64 srcIeee) macCmdAssociationRequest [capability]
  rw [hbuild, Built.exact_bytes]
  exact ⟨_, hparse, rfl, rfl, rfl, rfl, rfl, rfl, rfl, rfl, rfl, rfl, rfl, rfl, hslice,
    parseAssociationRequest_of_slice rfl rfl rfl hslice⟩

theorem associationResponse_recovered {outMax : UInt8} {panId : UInt16} {dstIeee : UInt64}
    {srcShort : UInt16} {sequence : UInt8} {assignedShort : UInt16} {status : UInt8}
    {ackRequest : Bool}
    (h : ((associationResponse panId dstIeee srcShort sequence assignedShort status
      ackRequest).build outMax).len ≠ 0) :
    (associationResponse panId dstIeee srcShort sequence assignedShort status
      ackRequest).Recovered ((associationResponse panId dstIeee srcShort sequence assignedShort
        status ackRequest).build outMax).bytes := by
  have hmax : ¬ outMax.toNat < 19 := by
    intro hshort
    exact h (by rw [build, buildAssociationResponse, if_pos hshort, Built.fail_len])
  have hbuild : (associationResponse panId dstIeee srcShort sequence assignedShort status
      ackRequest).build outMax = .exact (addressedBytes (associationResponseFcf ackRequest)
        sequence panId (.extended dstIeee)
        (le16 srcShort ++ macCmdAssociationResponse :: (le16 assignedShort ++ [status]))) := by
    rw [build, buildAssociationResponse, if_neg hmax]
    simp [Built.exact, addressedBytes, MacAddr.bytes, emit_append, emit]
  have hparse := parseCommandFrame_addressed (decode_associationResponseFcf ackRequest)
    (parseOrigin_compressed (.short srcShort) panId
      (addressedBytes_split _ sequence panId (.extended dstIeee)
        (le16 srcShort ++ macCmdAssociationResponse :: (le16 assignedShort ++ [status])))
      (addressed_head_length _ _ _ _)) (MacAddr.parsed_offset _ _ _) (by simp)
  have hslice := addressedBytes_payload (associationResponseFcf ackRequest) sequence panId
    (.extended dstIeee) (le16 srcShort) macCmdAssociationResponse (le16 assignedShort ++ [status])
  rw [hbuild, Built.exact_bytes]
  exact ⟨_, hparse, rfl, rfl, rfl, rfl, rfl, rfl, rfl, rfl, rfl, rfl, rfl, rfl, hslice,
    parseAssociationResponse_of_slice rfl rfl rfl hslice⟩

theorem beaconRequest_recovered {outMax sequence : UInt8}
    (h : ((beaconRequest sequence).build outMax).len ≠ 0) :
    (beaconRequest sequence).Recovered ((beaconRequest sequence).build outMax).bytes := by
  have hmax : ¬ outMax.toNat < 8 := by
    intro hshort
    exact h (by rw [build, buildBeaconRequest, if_pos hshort, Built.fail_len])
  have hbuild : (beaconRequest sequence).build outMax = .exact (addressedBytes beaconRequestFcf
      sequence kBroadcastPan (.short kBroadcastShort) ([] ++ macCmdBeaconRequest :: [])) := by
    rw [build, buildBeaconRequest, if_neg hmax]
    simp [Built.exact, addressedBytes, MacAddr.bytes, emit_append, emit]
  have hparse := @parseCommandFrame_addressed beaconRequestFcf sequence kBroadcastPan
    (.short kBroadcastShort) false false macAddrNone macCmdBeaconRequest [] [] { offset := 7 }
    rfl rfl rfl (by decide)
  have hslice := addressedBytes_payload beaconRequestFcf sequence kBroadcastPan
    (.short kBroadcastShort) [] macCmdBeaconRequest []
  rw [hbuild, Built.exact_bytes]
  exact ⟨_, hparse, rfl, rfl, rfl, rfl, rfl, rfl, rfl, rfl, rfl, rfl, hslice⟩

theorem dataRequest_recovered {outMax : UInt8} {panId parentShort childShort : UInt16}
    {sequence : UInt8}
    (h : ((dataRequest panId parentShort childShort sequence).build outMax).len ≠ 0) :
    (dataRequest panId parentShort childShort sequence).Recovered
      ((dataRequest panId parentShort childShort sequence).build outMax).bytes := by
  have hmax : ¬ outMax.toNat < 10 := by
    intro hshort
    exact h (by rw [build, buildDataRequest, if_pos hshort, Built.fail_len])
  have hbuild : (dataRequest panId parentShort childShort sequence).build outMax =
      .exact (addressedBytes dataRequestFcf sequence panId (.short parentShort)
        (le16 childShort ++ macCmdDataRequest :: [])) := by
    rw [build, buildDataRequest, if_neg hmax]
    simp [Built.exact, addressedBytes, MacAddr.bytes, emit_append, emit]
  have hfcf : decodeFcf dataRequestFcf =
      ⟨macFrameCommand, true, true, macAddrShort, macAddrShort⟩ := rfl
  have hparse := parseCommandFrame_addressed hfcf
    (parseOrigin_compressed (.short childShort) panId
      (addressedBytes_split _ sequence panId (.short parentShort)
        (le16 childShort ++ macCmdDataRequest :: []))
      (addressed_head_length _ _ _ _)) (MacAddr.parsed_offset _ _ _) (by decide)
  have hslice := addressedBytes_payload dataRequestFcf sequence panId (.short parentShort)
    (le16 childShort) macCmdDataRequest []
  rw [hbuild, Built.exact_bytes]
  exact ⟨_, hparse, rfl, rfl, rfl, rfl, rfl, rfl, rfl, rfl, rfl, rfl, rfl, rfl, hslice⟩

/-- The destination the inter-PAN builder writes. -/
def interPanDst (dstAddrMode : UInt8) (dstShort : UInt16) (dstIeee : UInt64) : MacAddr :=
  if dstAddrMode = macAddrShort then .short dstShort else .extended dstIeee

theorem interPan_build {outMax dstAddrMode : UInt8} {dstPanId dstShort : UInt16}
    {dstIeee : UInt64} {srcPanId : UInt16} {srcIeee : UInt64} {sequence : UInt8}
    {payload : List UInt8} {ackRequest : Bool}
    (h : (buildInterPanFrame outMax dstAddrMode dstPanId dstShort dstIeee srcPanId srcIeee sequence
      payload ackRequest).len ≠ 0) :
    let dst := interPanDst dstAddrMode dstShort dstIeee
    dst.mode = dstAddrMode ∧ payload.length < 256 ∧
      buildInterPanFrame outMax dstAddrMode dstPanId dstShort dstIeee srcPanId srcIeee sequence
        payload ackRequest =
        .exact (addressedBytes (interPanFcf dst.mode ackRequest) sequence dstPanId dst
          (le16 srcPanId ++ (le64 srcIeee ++ payload))) := by
  have hne : macAddrExtended ≠ macAddrShort := by decide
  by_cases hmode : (dstAddrMode ≠ macAddrShort && dstAddrMode ≠ macAddrExtended) = true
  · exact absurd (by rw [buildInterPanFrame, if_pos hmode, Built.fail_len]) h
  obtain ⟨hdst, hbytes, hheader⟩ :
      (interPanDst dstAddrMode dstShort dstIeee).mode = dstAddrMode ∧
      (if dstAddrMode = macAddrShort then le16 dstShort else le64 dstIeee) =
        (interPanDst dstAddrMode dstShort dstIeee).bytes ∧
      (2 + 1 + 2 + (if dstAddrMode = macAddrExtended then 8 else 2) + 2 + 8) % 256 =
        15 + (interPanDst dstAddrMode dstShort dstIeee).bytes.length := by
    by_cases hshort : dstAddrMode = macAddrShort
    · simp [hshort, interPanDst, MacAddr.mode, MacAddr.bytes, hne.symm]
    · have hext : dstAddrMode = macAddrExtended := by simpa [hshort] using hmode
      simp [hext, interPanDst, MacAddr.mode, MacAddr.bytes, hne]
  simp only [buildInterPanFrame, if_neg hmode, hbytes, hheader] at h ⊢
  rw [hdst]
  generalize interPanDst dstAddrMode dstShort dstIeee = dst at *
  split at h
  · simp at h
  next hlen =>
  split at h
  · simp at h
  next hmax =>
  rw [if_neg hlen, if_neg hmax]
  simp only [kMaxPsdu] at hlen
  have hsize : (5 + dst.bytes.length + 2 + 8 + payload.length) % 256 =
      5 + dst.bytes.length + 2 + 8 + payload.length := by
    have hout := outMax.toNat_lt
    omega
  refine ⟨rfl, by omega, ?_⟩
  rw [hsize]
  simp [Built.exact, addressedBytes, emit_append, emit]
  omega

theorem interPan_recovered {outMax dstAddrMode : UInt8} {dstPanId dstShort : UInt16}
    {dstIeee : UInt64} {srcPanId : UInt16} {srcIeee : UInt64} {sequence : UInt8}
    {payload : List UInt8} {ackRequest : Bool}
    (h : ((interPan dstAddrMode dstPanId dstShort dstIeee srcPanId srcIeee sequence payload
      ackRequest).build outMax).len ≠ 0) :
    (interPan dstAddrMode dstPanId dstShort dstIeee srcPanId srcIeee sequence payload
      ackRequest).Recovered ((interPan dstAddrMode dstPanId dstShort dstIeee srcPanId srcIeee
        sequence payload ackRequest).build outMax).bytes := by
  obtain ⟨hmode, hpayload, hbuild⟩ := interPan_build h
  have hparse := @parseInterPanFrame_addressed _ sequence dstPanId
    (interPanDst dstAddrMode dstShort dstIeee) ackRequest srcPanId srcIeee payload
    (decode_interPanFcf _ _) hpayload
  rw [build, hbuild, Built.exact_bytes]
  refine ⟨_, hparse, rfl, rfl, rfl, hmode, rfl, ?_, ?_, rfl, rfl, ?_⟩
  · intro hshort
    simp [interPanDst, hshort, MacAddr.parsed]
  · intro hext
    have hne : macAddrExtended ≠ macAddrShort := by decide
    simp [interPanDst, hext, hne, MacAddr.parsed]
  · dsimp only [payloadSlice]
    rw [addressedBytes_split, ← List.append_assoc, ← List.append_assoc]
    refine slice_of_length ?_ rfl
    simp only [List.length_append, le16_length, le64_length, List.length_singleton]
    omega

/-- The bytes of a beacon without GTS and pending addresses. -/
def beaconBytes (srcPanId srcShort : UInt16) (sequence : UInt8)
    (panCoordinator associationPermit : Bool) (payload : List UInt8) : List UInt8 :=
  le16 beaconFcf ++ [sequence] ++ le16 srcPanId ++ le16 srcShort ++
    le16 (beaconSuperframe panCoordinator associationPermit) ++ [0, 0] ++ payload

theorem beacon_build {outMax : UInt8} {srcPanId srcShort : UInt16} {sequence : UInt8}
    {panCoordinator associationPermit : Bool} {payload : List UInt8}
    (h : (buildBeacon outMax srcPanId srcShort sequence panCoordinator associationPermit
      payload).len ≠ 0) :
    payload.length < 245 ∧
      buildBeacon outMax srcPanId srcShort sequence panCoordinator associationPermit payload =
        .exact (beaconBytes srcPanId srcShort sequence panCoordinator associationPermit
          payload) := by
  simp only [buildBeacon] at h ⊢
  split at h
  · simp at h
  next hlen =>
  split at h
  · simp at h
  next hmax =>
  rw [if_neg hlen, if_neg hmax]
  simp only [kMaxPsdu] at hlen
  refine ⟨by omega, ?_⟩
  simp [Built.exact, beaconBytes, emit_append, emit]
  omega

theorem parseBeacon_bytes (srcPanId srcShort : UInt16) (sequence : UInt8)
    (panCoordinator associationPermit : Bool) {payload : List UInt8}
    (hlen : payload.length < 245) :
    parseBeacon (beaconBytes srcPanId srcShort sequence panCoordinator associationPermit payload) =
      some (true,
        { valid := true, sequence := sequence, srcPanId := srcPanId, srcShort := srcShort
          panCoordinator := panCoordinator, associationPermit := associationPermit
          payload := some 11, payloadLen := payload.length }) := by
  have hflags := superframe_flags panCoordinator associationPermit
  have hsize : (beaconBytes srcPanId srcShort sequence panCoordinator associationPermit
      payload).length = 11 + payload.length := by
    simp [beaconBytes]
    omega
  have h0 : read16 (beaconBytes srcPanId srcShort sequence panCoordinator associationPermit
      payload) 0 = some beaconFcf := by simp [beaconBytes]
  have h3 : read16 (beaconBytes srcPanId srcShort sequence panCoordinator associationPermit
      payload) 3 = some srcPanId := by simp [beaconBytes, le16, read16]
  have h5 : read16 (beaconBytes srcPanId srcShort sequence panCoordinator associationPermit
      payload) 5 = some srcShort := by simp [beaconBytes, le16, read16]
  have h7 : read16 (beaconBytes srcPanId srcShort sequence panCoordinator associationPermit
      payload) 7 = some (beaconSuperframe panCoordinator associationPermit) := by
    simp [beaconBytes, le16, read16]
  have h2 : (beaconBytes srcPanId srcShort sequence panCoordinator associationPermit
      payload)[2]? = some sequence := rfl
  have h9 : (beaconBytes srcPanId srcShort sequence panCoordinator associationPermit
      payload)[9]? = some 0 := rfl
  have h10 : (beaconBytes srcPanId srcShort sequence panCoordinator associationPermit
      payload)[10]? = some 0 := rfl
  generalize beaconBytes srcPanId srcShort sequence panCoordinator associationPermit payload =
    psdu at *
  have hoffset : beaconPayloadOffset psdu = some (some 11) := by
    have hgts : (if (0 : UInt8) &&& 0x07 > 0 then 1 + 3 * ((0 : UInt8) &&& 0x07) else 0).toNat =
        0 := by decide
    have hpending : (2 * ((0 : UInt8) &&& 7) + 8 * (((0 : UInt8) >>> (4 : UInt8)) &&& 7)).toNat =
        0 := by decide
    simp only [beaconPayloadOffset, read8_eq, h9, hgts, h10, hpending, Option.bind_eq_bind,
      Option.bind_some]
    rw [if_neg (by simp), if_neg (by omega), if_neg (by omega)]
    rfl
  have hshort : ¬ psdu.length < 11 := by omega
  have hcast : (psdu.length - 11) % 256 = payload.length := by omega
  have hfcf : decodeFcf beaconFcf =
      ⟨macFrameBeacon, false, false, macAddrNone, macAddrShort⟩ := rfl
  simp only [parseBeacon, if_neg hshort, h0, h2, h3, h5, h7, hfcf, hoffset, hcast, hflags, read8_eq,
    Option.bind_eq_bind, Option.bind_some]
  simp

theorem beacon_recovered {outMax : UInt8} {srcPanId srcShort : UInt16} {sequence : UInt8}
    {panCoordinator associationPermit : Bool} {payload : List UInt8}
    (h : ((beacon srcPanId srcShort sequence panCoordinator associationPermit payload).build
      outMax).len ≠ 0) :
    (beacon srcPanId srcShort sequence panCoordinator associationPermit payload).Recovered
      ((beacon srcPanId srcShort sequence panCoordinator associationPermit payload).build
        outMax).bytes := by
  obtain ⟨hlen, hbuild⟩ := beacon_build h
  have hparse := parseBeacon_bytes srcPanId srcShort sequence panCoordinator associationPermit hlen
  rw [build, hbuild, Built.exact_bytes]
  exact ⟨_, hparse, rfl, rfl, rfl, rfl, rfl, rfl, slice_of_length rfl rfl⟩

theorem recovered {call : MacCall} {outMax : UInt8} (h : (call.build outMax).len ≠ 0) :
    call.Recovered (call.build outMax).bytes := by
  cases call with
  | shortData => exact shortData_recovered h
  | associationRequest => exact associationRequest_recovered h
  | associationResponse => exact associationResponse_recovered h
  | beaconRequest => exact beaconRequest_recovered h
  | dataRequest => exact dataRequest_recovered h
  | interPan => exact interPan_recovered h
  | beacon => exact beacon_recovered h

theorem Recovered.accepts {call : MacCall} {bytes : List UInt8} (h : call.Recovered bytes) :
    call.parser.Accepts bytes := by
  cases call <;>
    · obtain ⟨frame, hparse, -⟩ := h
      exact ⟨(frame.payload, frame.payloadLen), by
        simp only [parser, MacParser.run, hparse, Option.map_some]⟩

/-- Every parser stays inside its PSDU, at most one accepts it, and a built frame is accepted by
its own parser alone, which recovers the call. -/
theorem mac_codec :
    (∀ psdu : List UInt8,
      (∀ parser : MacParser, ∃ accepted payload payloadLen,
        parser.run psdu = some (accepted, payload, payloadLen) ∧
        ∀ off, payload = some off → off + payloadLen ≤ psdu.length) ∧
      ∀ p q : MacParser, p.Accepts psdu → q.Accepts psdu → p = q) ∧
    ∀ (call : MacCall) (outMax : UInt8), (call.build outMax).len ≠ 0 →
      (∀ parser : MacParser,
        parser.Accepts (call.build outMax).bytes ↔ parser = call.parser) ∧
      call.Recovered (call.build outMax).bytes := by
  refine ⟨fun psdu => ⟨?_, fun p q => MacParser.accepts_unique⟩, ?_⟩
  · intro parser
    obtain ⟨⟨accepted, payload, payloadLen⟩, hrun, hsound⟩ := parser.run_sound psdu
    refine ⟨accepted, payload, payloadLen, hrun, ?_⟩
    intro off hoff
    rcases hsound with hrefused | ⟨-, off', hinside, haccepted⟩
    · simp [hoff] at hrefused
    · simp only [hoff, Prod.mk.injEq, Option.some.injEq] at haccepted
      omega
  · intro call outMax h
    have hrecovered := recovered h
    refine ⟨fun parser => ⟨?_, ?_⟩, hrecovered⟩
    · exact fun haccept => MacParser.accepts_unique haccept hrecovered.accepts
    · exact fun heq => heq ▸ hrecovered.accepts

theorem mac_codec_scan_request :
    (interPan macAddrShort 0xFFFF 0xFFFF 0 0x1A62 0x0011223344556677 5 [0x0B, 0xC0] false).Recovered
      ((interPan macAddrShort 0xFFFF 0xFFFF 0 0x1A62 0x0011223344556677 5 [0x0B, 0xC0] false).build
        125).bytes :=
  (mac_codec.2 _ 125 (by decide)).2

end MacCall

end NiusZigbee.ZigbeeMac
