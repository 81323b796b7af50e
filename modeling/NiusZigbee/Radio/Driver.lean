import NiusZigbee.Aps.Frame
import NiusZigbee.Library.Transducer
import NiusZigbee.Mac.Frame
import NiusZigbee.Nwk.Command
import NiusZigbee.Radio.SecuredNpdu
import NiusZigbee.Zcl.Frame

/-!
# The CC2530 host driver

Sending builds a frame layer by layer down to the PSDU handed to the module. Receiving parses the
framed UART stream byte by byte, and hands a complete frame up through the layers, each to the
callbacks registered for it. A callback is reported here and does nothing to the driver; callbacks
that do are in `Radio.Host`.
-/

namespace NiusZigbee

open ByteCodec OutBuffer ZigbeeMac

/-- Which callbacks are registered. -/
structure Callbacks where
  rx : Bool := false
  data : Bool := false
  macCommand : Bool := false
  beacon : Bool := false
  nwk : Bool := false
  nwkCommand : Bool := false
  aps : Bool := false
  zdo : Bool := false
  zcl : Bool := false
  apsAck : Bool := false
deriving DecidableEq, Repr

/-- What the UART parser expects next; `state_` 0 to 3. -/
inductive ParserState where
  | sof
  | len
  | data
  | fcs
deriving DecidableEq, Repr

/-- The driver. `buf` holds the bytes received so far, up to `idx_`. -/
structure CC2530Radio where
  callbacks : Callbacks := {}
  security : Option ZigbeeSecurity := none
  securityIeee : UInt64 := 0
  securityCounter : UInt32 := 0
  version : UInt16 := 0
  macSequence : UInt8 := 0
  nwkSequence : UInt8 := 0
  apsCounter : UInt8 := 0
  zclSequence : UInt8 := 0
  localShortAddress : UInt16 := kBroadcastShort
  promiscuous : Bool := false
  state : ParserState := .sof
  len : UInt8 := 0
  fcs : UInt8 := 0
  buf : List UInt8 := []
  respCmd : UInt8 := 0
  respData : List UInt8 := List.replicate 16 0
  respLen : UInt8 := 0
  respReady : Bool := false
deriving DecidableEq

namespace CC2530Radio

/-! ## Sending -/

/-- Largest PSDU `send` takes. -/
def kMaxPayload : UInt8 := 125

/-- The NPDU buffers: `ZigbeeNwk::kMaxFrame` and room for the auxiliary header and the MIC. -/
def kSecuredMax : UInt8 := 134

/-- Up to the PSDU handed to `send`; `none` is a `return false` before that. -/
def sendData (r : CC2530Radio) (panId dstShort srcShort : UInt16) (payload : List UInt8)
    (ackRequest : Bool) : CC2530Radio × Option (List UInt8) :=
  let psdu := buildShortDataFrame kMaxPayload panId dstShort srcShort r.macSequence payload
    ackRequest
  ({ r with macSequence := r.macSequence + 1 }, if psdu.len = 0 then none else some psdu.bytes)

variable (ecb : BlockCipher)

/-- The NPDU to transmit; `none` is `return false`. -/
def applyTxSecurity (r : CC2530Radio) (npdu : List UInt8) (scratchMax : UInt8) :
    CC2530Radio × Option (List UInt8) :=
  match r.security with
  | none => (r, some npdu)
  | some s =>
    if !s.hasKey then (r, some npdu)
    else
      let counter := r.securityCounter + 1
      let secured := s.secureNpdu ecb npdu (nwkHeaderLength npdu).toNat r.securityIeee counter
        kSecuredMax
      ({ r with security := some secured.1, securityCounter := counter },
        if secured.2.len = 0 ∨ secured.2.len > scratchMax.toNat then none
        else some secured.2.bytes)

def sendNwkData (r : CC2530Radio) (panId macDstShort macSrcShort nwkDstShort nwkSrcShort : UInt16)
    (payload : List UInt8) (radius : UInt8) (ackRequest : Bool) :
    CC2530Radio × Option (List UInt8) :=
  let npdu := ZigbeeNwk.buildDataFrame ZigbeeNwk.kMaxFrame.toUInt8 nwkDstShort nwkSrcShort radius
    r.nwkSequence payload 0
  let r := { r with nwkSequence := r.nwkSequence + 1 }
  if npdu.len = 0 then (r, none)
  else
    match r.applyTxSecurity ecb npdu.bytes kSecuredMax with
    | (r, none) => (r, none)
    | (r, some npdu) => r.sendData panId macDstShort macSrcShort npdu ackRequest

def sendApsData (r : CC2530Radio) (panId macDstShort macSrcShort nwkDstShort nwkSrcShort : UInt16)
    (dstEndpoint : UInt8) (clusterId profileId : UInt16) (srcEndpoint : UInt8)
    (payload : List UInt8) (radius : UInt8) (ackRequest : Bool) :
    CC2530Radio × Option (List UInt8) :=
  let apdu := ZigbeeAps.buildDataFrame ZigbeeAps.kMaxFrame.toUInt8 dstEndpoint clusterId profileId
    srcEndpoint r.apsCounter payload false
  let r := { r with apsCounter := r.apsCounter + 1 }
  if apdu.len = 0 then (r, none)
  else
    r.sendNwkData ecb panId macDstShort macSrcShort nwkDstShort nwkSrcShort apdu.bytes radius
      ackRequest

def sendZclCommand (r : CC2530Radio)
    (panId macDstShort macSrcShort nwkDstShort nwkSrcShort : UInt16) (dstEndpoint : UInt8)
    (clusterId profileId : UInt16) (srcEndpoint commandId : UInt8) (payload : List UInt8)
    (zclFrameType zclDirection radius : UInt8) (ackRequest : Bool) :
    CC2530Radio × Option (List UInt8) :=
  let zcl := ZigbeeZcl.buildCommandFrame ZigbeeZcl.kMaxFrame.toUInt8 zclFrameType r.zclSequence
    commandId payload zclDirection true
  let r := { r with zclSequence := r.zclSequence + 1 }
  if zcl.len = 0 then (r, none)
  else
    r.sendApsData ecb panId macDstShort macSrcShort nwkDstShort nwkSrcShort dstEndpoint clusterId
      profileId srcEndpoint zcl.bytes radius ackRequest

/-! ## Receiving -/

/-- A parsed frame and the bytes it points into. -/
structure Parsed (α : Type) where
  bytes : List UInt8
  frame : α
deriving DecidableEq, Repr

open ZigbeeNwk ZigbeeAps ZigbeeZcl

/-- A callback the driver invokes, with what it passes. -/
inductive Event where
  | rx (psdu : List UInt8) (rssi : Int8) (lqi : UInt8)
  | data (mac : Parsed MacDataFrame) (rssi : Int8) (lqi : UInt8)
  | macCommand (mac : Parsed MacCommandFrame) (rssi : Int8) (lqi : UInt8)
  | beacon (mac : Parsed MacBeaconFrame) (rssi : Int8) (lqi : UInt8)
  | nwk (mac : Parsed MacDataFrame) (nwk : Parsed NwkDataFrame) (rssi : Int8) (lqi : UInt8)
  | nwkCommand (mac : Parsed MacDataFrame) (nwk : Parsed NwkCommandFrame) (rssi : Int8)
    (lqi : UInt8)
  | aps (mac : Parsed MacDataFrame) (nwk : Parsed NwkDataFrame) (aps : Parsed ApsDataFrame)
    (rssi : Int8) (lqi : UInt8)
  | zdo (mac : Parsed MacDataFrame) (nwk : Parsed NwkDataFrame) (aps : Parsed ApsDataFrame)
    (rssi : Int8) (lqi : UInt8)
  | zcl (mac : Parsed MacDataFrame) (nwk : Parsed NwkDataFrame) (aps : Parsed ApsDataFrame)
    (zcl : Parsed ZclFrame) (rssi : Int8) (lqi : UInt8)
  | apsAck (mac : Parsed MacDataFrame) (nwk : Parsed NwkDataFrame) (ack : ApsAckFrame)
    (rssi : Int8) (lqi : UInt8)
deriving DecidableEq, Repr

def kSecuredScratch : UInt8 := 140

/-- NWK security on a received NPDU: what goes on to NWK parsing, `none` for a dropped frame. -/
def openReceived (r : CC2530Radio) (npdu : List UInt8) : CC2530Radio × Option (List UInt8) :=
  match r.security with
  | none => (r, some npdu)
  | some s =>
    if s.hasKey && !r.promiscuous && 8 ≤ npdu.length && npdu.getD 1 0 &&& 0x02 ≠ 0 then
      match s.openNpdu ecb npdu (nwkHeaderLength npdu).toNat kSecuredScratch with
      | (s, .error _) => ({ r with security := some s }, none)
      | (s, .ok opened) =>
        ({ r with security := some s }, if opened.npdu = [] then none else some opened.npdu)
    else (r, some npdu)

variable (r : CC2530Radio) (mac : Parsed MacDataFrame) (rssi : Int8) (lqi : UInt8)

/-- The APS acknowledgement of a frame for this node. -/
def dispatchAck (nwk : Parsed NwkDataFrame) : Option (List Event) := do
  let apdu := nwk.frame.payloadBytes nwk.bytes
  if r.callbacks.apsAck then
    if (← ZigbeeAps.frameType apdu) = apsFrameAck then
      let (ok, ack) ← parseAckFrame apdu
      return if ok then [.apsAck mac nwk ack rssi lqi] else []
    else return []
  else return []

/-- The ZCL frame inside an APS data frame. -/
def dispatchZcl (nwk : Parsed NwkDataFrame) (aps : Parsed ApsDataFrame) :
    Option (List Event) := do
  let zcl := aps.frame.payloadBytes aps.bytes
  if r.callbacks.zcl then
    let (ok, frame) ← parseFrame zcl
    return if ok then [.zcl mac nwk aps ⟨zcl, frame⟩ rssi lqi] else []
  else return []

/-- The APS data frame of a frame for this node. -/
def dispatchAps (nwk : Parsed NwkDataFrame) : Option (List Event) := do
  let apdu := nwk.frame.payloadBytes nwk.bytes
  if r.callbacks.aps || r.callbacks.zdo || r.callbacks.zcl then
    let (ok, frame) ← ZigbeeAps.parseDataFrame apdu
    if ok then
      let aps : Parsed ApsDataFrame := ⟨apdu, frame⟩
      let isZdo := frame.profileId = kProfileZigbeeDevice ∧ frame.dstEndpoint = 0
      return (if r.callbacks.aps then [.aps mac nwk aps rssi lqi] else []) ++
        (if r.callbacks.zdo ∧ isZdo then [.zdo mac nwk aps rssi lqi] else []) ++
        (← r.dispatchZcl mac rssi lqi nwk aps)
    else return []
  else return []

/-- Only the NWK destination may look into the payload. -/
def localNwkDestination (nwk : NwkDataFrame) : Bool :=
  nwk.dstShort = r.localShortAddress || nwk.dstShort ≥ 0xFFF8

def dispatchNwk (npdu : List UInt8) : Option (List Event) := do
  if r.callbacks.nwk || r.callbacks.aps || r.callbacks.zdo || r.callbacks.zcl ||
      r.callbacks.apsAck then
    let (ok, frame) ← ZigbeeNwk.parseDataFrame npdu
    if ok then
      let nwk : Parsed NwkDataFrame := ⟨npdu, frame⟩
      let nwkEvents := if r.callbacks.nwk then [.nwk mac nwk rssi lqi] else []
      if r.localNwkDestination frame then
        return nwkEvents ++ (← r.dispatchAck mac rssi lqi nwk) ++ (← r.dispatchAps mac rssi lqi nwk)
      else return nwkEvents
    else return []
  else return []

def dispatchNwkCommand (npdu : List UInt8) : Option (List Event) := do
  if r.callbacks.nwkCommand then
    let (ok, frame) ← ZigbeeNwk.parseCommandFrame npdu
    return if ok then [.nwkCommand mac ⟨npdu, frame⟩ rssi lqi] else []
  else return []

/-- A MAC data frame: NWK security first, then the NWK parsers on what it lets through. -/
def receiveData : Option (CC2530Radio × List Event) := do
  let dataEvents := if r.callbacks.data then [.data mac rssi lqi] else []
  match r.openReceived ecb (mac.frame.payloadBytes mac.bytes) with
  | (r, none) => return (r, dataEvents)
  | (r, some npdu) =>
    return (r, dataEvents ++ (← r.dispatchNwk mac rssi lqi npdu) ++
      (← r.dispatchNwkCommand mac rssi lqi npdu))

/-- Whatever is not a MAC data frame. -/
def receiveOther (psdu : List UInt8) : Option (List Event) := do
  let command ←
    if r.callbacks.macCommand then do
      let (ok, frame) ← ZigbeeMac.parseCommandFrame psdu
      pure (if ok then [.macCommand ⟨psdu, frame⟩ rssi lqi] else [])
    else pure []
  let beacon ←
    if r.callbacks.beacon then do
      let (ok, frame) ← parseBeacon psdu
      pure (if ok then [.beacon ⟨psdu, frame⟩ rssi lqi] else [])
    else pure []
  return command ++ beacon

/-- A received PSDU. The APS-ACK callback alone does not make the driver parse it. -/
def receivePsdu (psdu : List UInt8) : Option (CC2530Radio × List Event) := do
  let rxEvents := if r.callbacks.rx then [.rx psdu rssi lqi] else []
  if r.callbacks.data || r.callbacks.macCommand || r.callbacks.beacon || r.callbacks.nwk ||
      r.callbacks.nwkCommand || r.callbacks.aps || r.callbacks.zdo || r.callbacks.zcl then
    let (ok, frame) ← parseShortDataFrame psdu
    if ok then
      let (r, events) ← r.receiveData ecb ⟨psdu, frame⟩ rssi lqi
      return (r, rxEvents ++ events)
    else
      return (r, rxEvents ++ (← r.receiveOther rssi lqi psdu))
  else return (r, rxEvents)

def rspResetInd : UInt8 := 0x80
def rspPong : UInt8 := 0x81
def rspRxFrame : UInt8 := 0x84

/-- Offset of the raw RSSI byte. -/
def rssiOffset : Int8 := 73

/-- A response is kept for `waitResp`. -/
def keepResponse (cmd : UInt8) : CC2530Radio :=
  let bytes := r.buf.drop 1
  { r with
    respCmd := cmd
    respLen := r.len - 1
    respData := bytes.take 16 ++ r.respData.drop bytes.length
    respReady := true }

/-- A complete frame with a valid checksum. -/
def receiveFrame : Option (CC2530Radio × List Event) := do
  let cmd ← read8 r.buf 0
  if cmd = rspRxFrame then
    if r.len ≥ 3 then
      let rssi := (← read8 r.buf 1).toInt8 - rssiOffset
      let lqi ← read8 r.buf 2
      r.receivePsdu ecb rssi lqi (r.buf.drop 3)
    else return (r, [])
  else if (cmd = rspResetInd ∨ cmd = rspPong) ∧ r.len ≥ 3 then
    let version := join16 (← read8 r.buf 2) (← read8 r.buf 1)
    return ({ r with version := version }.keepResponse cmd, [])
  else return (r.keepResponse cmd, [])

def sofByte : UInt8 := 0xFE

/-- `sizeof(buf_)`. -/
def kBufSize : UInt8 := 140

def feed (b : UInt8) : Option (CC2530Radio × List Event) :=
  match r.state with
  | .sof => some ({ r with state := if b = sofByte then .len else .sof }, [])
  | .len =>
    some ({ r with
      len := b
      buf := []
      fcs := b
      state := if b = 0 ∨ b > kBufSize then .sof else .data }, [])
  | .data =>
    let buf := r.buf ++ [b]
    some ({ r with
      buf := buf
      fcs := r.fcs ^^^ b
      state := if buf.length ≥ r.len.toNat then .fcs else .data }, [])
  | .fcs =>
    let r := { r with state := .sof }
    if b ≠ r.fcs then some (r, []) else r.receiveFrame ecb

end CC2530Radio

end NiusZigbee
