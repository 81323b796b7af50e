import NiusZigbee.Radio.Driver

/-!
# Callbacks that act on the driver

A callback runs in the middle of `feed`, and may call the driver. If it sends, the driver waits for
the answer of the module and feeds itself the bytes that come in, over the buffers which the frame
being handed up still points into.
-/

namespace NiusZigbee

open ByteCodec ZigbeeMac

namespace ZigbeeSecurity

/-- What `openNpdu` has stored in `out` when it returns, whatever it returns: it decrypts there
before it authenticates. -/
def decrypted (ecb : BlockCipher) (s : ZigbeeSecurity) (npdu : List UInt8) (headerLen : Nat)
    (outMax : UInt8) : List UInt8 :=
  if !s.hasKey then []
  else if !nwkSecurityBit npdu || npdu.length < headerLen + kAuxLen + kMicLen then []
  else
    let aux := slice npdu headerLen kAuxLen
    let controlCrypto := (aux.getD 0 0 &&& ~~~0x07) ||| kLevel
    match s.selectKey (aux.getD 13 0) with
    | none => []
    | some useKey =>
      let cipherLen := (npdu.length - headerLen - kAuxLen - kMicLen) % 256
      if outMax.toNat < (headerLen + cipherLen) % 256 then []
      else
        setNwkSecurityBit (npdu.take headerLen) false ++
          CcmStar.ctr ecb useKey
            (nonce (join64 (slice aux 5 8)) (join32 (slice aux 1 4)) controlCrypto)
            (slice npdu (headerLen + kAuxLen) cipherLen)

variable {ecb : BlockCipher} {s : ZigbeeSecurity} {npdu : List UInt8} {headerLen : Nat}
  {outMax : UInt8}

theorem authenticate_decrypted {frame : Authentic}
    (h : s.authenticate ecb npdu headerLen outMax = .ok frame) :
    frame.npdu = s.decrypted ecb npdu headerLen outMax := by
  cases hselect : s.selectKey ((slice npdu headerLen kAuxLen).getD 13 0) with
  | none =>
    simp only [authenticate, hselect] at h
    split at h
    · cases h
    split at h
    · cases h
    · cases h
  | some useKey =>
    simp only [authenticate, hselect] at h
    split at h
    · cases h
    split at h
    · cases h
    split at h
    · cases h
    split at h
    · cases h
    split at h
    · cases h
    · next hkey hlen hmax _ _ _ _ =>
      cases h
      simp only [decrypted, hselect, if_neg hkey, if_neg hlen, if_neg hmax]

theorem openNpdu_decrypted {opened : Opened}
    (h : (s.openNpdu ecb npdu headerLen outMax).2 = .ok opened) :
    opened.npdu = s.decrypted ecb npdu headerLen outMax := by
  simp only [openNpdu] at h
  split at h
  · cases h
  · next hauth =>
    split at h
    · cases h
    · cases h
    · cases h
      exact authenticate_decrypted hauth

end ZigbeeSecurity

open CC2530Radio ZigbeeNwk ZigbeeAps ZigbeeZcl
open ZigbeeSecurity (nwkSecurityBit)

/-- A frame `openNpdu` has returned: how many bytes the driver had read when the frame was complete,
and the security object that opened it. -/
structure Opening where
  frameAt : Nat
  security : ZigbeeSecurity
  received : List UInt8
  result : Opened

/-- The receive buffers of the driver; the frames that were opened are history. -/
structure Memory where
  buf : List UInt8 := List.replicate 140 0
  securedScratch : List UInt8 := List.replicate 140 0
  opened : List Opening := []

/-- A callback that was invoked for a frame: how many bytes the driver had read when the frame was
complete, and when it was invoked. -/
structure Handed where
  event : Event
  frameAt : Nat
  psdu : List UInt8
  invokedAt : Nat

/-- The driver with its buffers as memory, and the application behind the callbacks. -/
structure Host (σ : Type) where
  radio : CC2530Radio
  memory : Memory := {}
  app : σ
  reads : Nat := 0
  handed : List Handed := []

/-- What happens when a callback is invoked. -/
abbrev Handler (σ : Type) := Event → Host σ → Option (Host σ)

/-- A frame with a valid checksum; the code keeps `len`, `rssi` and `lqi` of it. -/
structure Reception where
  frameAt : Nat
  psdu : List UInt8
  len : Nat
  rssi : Int8
  lqi : UInt8

/-- Where an NPDU lies: in the frame that was received, or decrypted in `securedScratch_`. -/
inductive Span where
  | received (frame : MacDataFrame)
  | opened (len : Nat)

namespace Memory

/-- The received PSDU, a pointer into `buf_`. -/
def psdu (m : Memory) (len : Nat) : List UInt8 := slice m.buf 3 len

def npdu (m : Memory) (len : Nat) : Span → List UInt8
  | .received frame => frame.payloadBytes (m.psdu len)
  | .opened n => m.securedScratch.take n

end Memory

namespace Host

variable {σ : Type} (ecb : BlockCipher) (handler : Handler σ) (rx : Reception)

def invoke (registered : Bool) (event : Event) (h : Host σ) : Option (Host σ) :=
  if registered then
    handler event { h with handed := h.handed ++ [⟨event, rx.frameAt, rx.psdu, h.reads⟩] }
  else some h

/-- NWK security on a received NPDU: where the parsers find it, `none` for a dropped frame. -/
def openReceived (frame : MacDataFrame) (h : Host σ) : Host σ × Option Span :=
  let npdu := frame.payloadBytes (h.memory.psdu rx.len)
  match h.radio.security with
  | none => (h, some (.received frame))
  | some s =>
    if s.hasKey && !h.radio.promiscuous && 8 ≤ npdu.length && npdu.getD 1 0 &&& 0x02 ≠ 0 then
      let headerLen := (nwkHeaderLength npdu).toNat
      let out := s.decrypted ecb npdu headerLen kSecuredScratch
      let memory :=
        { h.memory with securedScratch := out ++ h.memory.securedScratch.drop out.length }
      match s.openNpdu ecb npdu headerLen kSecuredScratch with
      | (s', .error _) =>
        ({ h with radio := { h.radio with security := some s' }, memory := memory }, none)
      | (s', .ok result) =>
        ({ h with
            radio := { h.radio with security := some s' }
            memory :=
              { memory with opened := memory.opened ++ [⟨rx.frameAt, s, npdu, result⟩] } },
          if result.npdu = [] then none else some (.opened result.npdu.length))
    else (h, some (.received frame))

section Dispatch

variable (frame : MacDataFrame) (span : Span)

def dispatchAck (nwk : NwkDataFrame) (h : Host σ) : Option (Host σ) := do
  let npdu := h.memory.npdu rx.len span
  let apdu := nwk.payloadBytes npdu
  if h.radio.callbacks.apsAck then
    if (← ZigbeeAps.frameType apdu) = apsFrameAck then
      let (ok, ack) ← parseAckFrame apdu
      invoke handler rx ok
        (.apsAck ⟨h.memory.psdu rx.len, frame⟩ ⟨npdu, nwk⟩ ack rx.rssi rx.lqi) h
    else return h
  else return h

def dispatchZcl (nwk : NwkDataFrame) (aps : ApsDataFrame) (h : Host σ) : Option (Host σ) := do
  let npdu := h.memory.npdu rx.len span
  let apdu := nwk.payloadBytes npdu
  let zcl := aps.payloadBytes apdu
  if h.radio.callbacks.zcl then
    let (ok, parsed) ← parseFrame zcl
    invoke handler rx ok
      (.zcl ⟨h.memory.psdu rx.len, frame⟩ ⟨npdu, nwk⟩ ⟨apdu, aps⟩ ⟨zcl, parsed⟩ rx.rssi rx.lqi) h
  else return h

/-- The parsed frame of an APS or ZDO callback; its pointers are read when it is invoked. -/
def apsEvent (event : Parsed MacDataFrame → Parsed NwkDataFrame → Parsed ApsDataFrame → Int8 →
    UInt8 → Event) (nwk : NwkDataFrame) (aps : ApsDataFrame) (h : Host σ) : Event :=
  let npdu := h.memory.npdu rx.len span
  event ⟨h.memory.psdu rx.len, frame⟩ ⟨npdu, nwk⟩ ⟨nwk.payloadBytes npdu, aps⟩ rx.rssi rx.lqi

def dispatchAps (nwk : NwkDataFrame) (h : Host σ) : Option (Host σ) := do
  if h.radio.callbacks.aps || h.radio.callbacks.zdo || h.radio.callbacks.zcl then
    let (ok, aps) ← ZigbeeAps.parseDataFrame (nwk.payloadBytes (h.memory.npdu rx.len span))
    if ok then
      let isZdo := aps.profileId = kProfileZigbeeDevice ∧ aps.dstEndpoint = 0
      let h ← invoke handler rx h.radio.callbacks.aps (apsEvent rx frame span .aps nwk aps h) h
      let h ← invoke handler rx (h.radio.callbacks.zdo ∧ isZdo)
        (apsEvent rx frame span .zdo nwk aps h) h
      dispatchZcl handler rx frame span nwk aps h
    else return h
  else return h

def dispatchNwk (h : Host σ) : Option (Host σ) := do
  if h.radio.callbacks.nwk || h.radio.callbacks.aps || h.radio.callbacks.zdo ||
      h.radio.callbacks.zcl || h.radio.callbacks.apsAck then
    let npdu := h.memory.npdu rx.len span
    let (ok, nwk) ← ZigbeeNwk.parseDataFrame npdu
    if ok then
      let h ← invoke handler rx h.radio.callbacks.nwk
        (.nwk ⟨h.memory.psdu rx.len, frame⟩ ⟨npdu, nwk⟩ rx.rssi rx.lqi) h
      if h.radio.localNwkDestination nwk then
        let h ← dispatchAck handler rx frame span nwk h
        dispatchAps handler rx frame span nwk h
      else return h
    else return h
  else return h

def dispatchNwkCommand (h : Host σ) : Option (Host σ) := do
  if h.radio.callbacks.nwkCommand then
    let npdu := h.memory.npdu rx.len span
    let (ok, nwk) ← ZigbeeNwk.parseCommandFrame npdu
    invoke handler rx ok
      (.nwkCommand ⟨h.memory.psdu rx.len, frame⟩ ⟨npdu, nwk⟩ rx.rssi rx.lqi) h
  else return h

def receiveData (h : Host σ) : Option (Host σ) := do
  let h ← invoke handler rx h.radio.callbacks.data
    (.data ⟨h.memory.psdu rx.len, frame⟩ rx.rssi rx.lqi) h
  match h.openReceived ecb rx frame with
  | (h, none) => return h
  | (h, some span) =>
    let h ← dispatchNwk handler rx frame span h
    dispatchNwkCommand handler rx frame span h

end Dispatch

def receiveCommand (h : Host σ) : Option (Host σ) := do
  if h.radio.callbacks.macCommand then
    let (ok, frame) ← ZigbeeMac.parseCommandFrame (h.memory.psdu rx.len)
    invoke handler rx ok (.macCommand ⟨h.memory.psdu rx.len, frame⟩ rx.rssi rx.lqi) h
  else return h

def receiveBeacon (h : Host σ) : Option (Host σ) := do
  if h.radio.callbacks.beacon then
    let (ok, frame) ← parseBeacon (h.memory.psdu rx.len)
    invoke handler rx ok (.beacon ⟨h.memory.psdu rx.len, frame⟩ rx.rssi rx.lqi) h
  else return h

def receivePsdu (h : Host σ) : Option (Host σ) := do
  let h ← invoke handler rx h.radio.callbacks.rx
    (.rx (h.memory.psdu rx.len) rx.rssi rx.lqi) h
  let callbacks := h.radio.callbacks
  if callbacks.data || callbacks.macCommand || callbacks.beacon || callbacks.nwk ||
      callbacks.nwkCommand || callbacks.aps || callbacks.zdo || callbacks.zcl then
    let (ok, frame) ← parseShortDataFrame (h.memory.psdu rx.len)
    if ok then receiveData ecb handler rx frame h
    else
      let h ← receiveCommand handler rx h
      receiveBeacon handler rx h
  else return h

/-- A received frame is handed up; any other frame is the driver's own. -/
def receiveFrame (h : Host σ) : Option (Host σ) := do
  let cmd ← read8 h.radio.buf 0
  if cmd = rspRxFrame ∧ h.radio.len ≥ 3 then
    let rssi := (← read8 h.radio.buf 1).toInt8 - rssiOffset
    let lqi ← read8 h.radio.buf 2
    receivePsdu ecb handler ⟨h.reads, h.radio.buf.drop 3, h.radio.len.toNat - 3, rssi, lqi⟩ h
  else
    let (radio, _) ← h.radio.receiveFrame ecb
    return { h with radio := radio }

/-- Case 2 stores the byte in `buf_[idx_]`; case 3 ends a frame. -/
def feed (b : UInt8) (h : Host σ) : Option (Host σ) :=
  let h := { h with reads := h.reads + 1 }
  match h.radio.state with
  | .fcs =>
    let h := { h with radio := { h.radio with state := .sof } }
    if b ≠ h.radio.fcs then some h else receiveFrame ecb handler h
  | .data =>
    (h.radio.feed ecb b).map fun (radio, _) =>
      { h with
        radio := radio
        memory := { h.memory with buf := h.memory.buf.set h.radio.buf.length b } }
  | _ => (h.radio.feed ecb b).map fun (radio, _) => { h with radio := radio }

def run (h : Host σ) (bytes : List UInt8) : Option (Host σ) :=
  bytes.foldlM (fun h b => feed ecb handler b h) h

/-! ## Callbacks -/

/-- Everything but the reception is open to change. -/
structure Keeps (h h' : Host σ) : Prop where
  memory : h'.memory = h.memory
  reads : h'.reads = h.reads
  handed : h'.handed = h.handed
  state : h'.radio.state = h.radio.state
  len : h'.radio.len = h.radio.len
  buf : h'.radio.buf = h.radio.buf
  promiscuous : h'.radio.promiscuous = h.radio.promiscuous
  hasKey : (h'.radio.security.any fun s => s.hasKey) = h.radio.security.any fun s => s.hasKey

/-- What a callback does that does not read: the callbacks, the addresses, the counters, the
security object and the application may all be others afterwards. -/
structure Change (σ : Type) where
  apply : Host σ → Host σ
  keeps : ∀ h, Keeps h (apply h)

/-- A callback changes things and makes the driver read, as `send`, `poll` and the commands to the
module do. -/
inductive Act (σ : Type) where
  | change (c : Change σ)
  | read (b : UInt8)

def perform (read : UInt8 → Host σ → Option (Host σ)) (acts : List (Act σ)) (h : Host σ) :
    Option (Host σ) :=
  acts.foldlM (fun h act =>
    match act with
    | .change c => some (c.apply h)
    | .read b => read b h) h

/-- The application: what each callback does, and what the module has sent when it reads. -/
abbrev Application (σ : Type) := Event → Host σ → List (Act σ)

/-- Callbacks inside of callbacks, at most so deep; the innermost do not read. -/
def callbacks (app : Application σ) : Nat → Handler σ
  | 0 => fun event h => perform (fun _ => some) (app event h) h
  | depth + 1 => fun event h => perform (feed ecb (callbacks app depth)) (app event h) h

end Host

end NiusZigbee
