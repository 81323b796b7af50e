import NiusZigbee.Library.OutBuffer
import NiusZigbee.Library.SlotTable
import NiusZigbee.Security.CcmStar

/-!
# NWK frame security

`ZigbeeSecurity` holds an active and an alternate network key and a replay table, secures NPDUs
under the active key, and opens received ones under the key their auxiliary header names.
-/

namespace NiusZigbee

open ByteCodec OutBuffer

structure ZigbeeSecurityStats where
  secured : UInt32 := 0
  opened : UInt32 := 0
  micFailures : UInt32 := 0
  duplicates : UInt32 := 0
  replays : UInt32 := 0
deriving DecidableEq, Repr

structure ReplayEntry where
  used : Bool := false
  ieee : UInt64 := 0
  keySeq : UInt8 := 0
  lastCounter : UInt32 := 0
deriving DecidableEq, Repr

inductive ReplayResult where
  | fresh
  | duplicate
  | stale
deriving DecidableEq, Repr

/-- Whom a replay entry is about: source IEEE address and key sequence number. -/
abbrev ReplayKey := UInt64 × UInt8

namespace ReplayEntry

def key (entry : ReplayEntry) : Option ReplayKey :=
  if entry.used then some (entry.ieee, entry.keySeq) else none

def lower (entry slot : ReplayEntry) : Bool := entry.lastCounter < slot.lastCounter

end ReplayEntry

def kMaxReplayPeers : Nat := 8

/-- The replay array, with its fixed number of slots. -/
structure ReplayTable where
  entries : List ReplayEntry
  size : entries.length = kMaxReplayPeers
deriving DecidableEq

namespace ReplayTable

def reset : ReplayTable := ⟨List.replicate kMaxReplayPeers {}, List.length_replicate⟩

def lookup (table : ReplayTable) (k : ReplayKey) : Option ReplayEntry :=
  SlotTable.lookup ReplayEntry.key table.entries k

/-- The entry of the pair, else the first free one, else the one with the lowest counter. -/
def store (table : ReplayTable) (k : ReplayKey) (counter : UInt32) : ReplayTable :=
  match SlotTable.slotFor ReplayEntry.key (SlotTable.least ReplayEntry.key ReplayEntry.lower)
      table.entries k with
  | none => table
  | some i =>
    ⟨table.entries.set i { used := true, ieee := k.1, keySeq := k.2, lastCounter := counter },
      by rw [List.length_set, table.size]⟩

def replayCheckAndUpdate (table : ReplayTable) (ieee : UInt64) (keySeq : UInt8)
    (counter : UInt32) : ReplayResult × ReplayTable :=
  match table.lookup (ieee, keySeq) with
  | some entry =>
    if counter = entry.lastCounter then (.duplicate, table)
    else if counter < entry.lastCounter then (.stale, table)
    else (.fresh, table.store (ieee, keySeq) counter)
  | none => (.fresh, table.store (ieee, keySeq) counter)

end ReplayTable

structure ZigbeeSecurity where
  hasKey : Bool
  key : Block
  keySequence : UInt8
  hasAlt : Bool
  altKey : Block
  altKeySeq : UInt8
  stats : ZigbeeSecurityStats
  replay : ReplayTable
deriving DecidableEq

/-- Why `openNpdu` returns 0. -/
inductive OpenError where
  | noKey
  | malformed
  | keySequence
  | outMax
  | aadTooLong
  | mic
  | duplicate
  | stale
deriving DecidableEq, Repr

/-- What `openNpdu` hands back: the plain NPDU and the sender. -/
structure Opened where
  npdu : List UInt8
  senderIeee : UInt64
deriving DecidableEq, Repr

namespace ZigbeeSecurity

def kMicLen : Nat := 4
def kAuxLen : Nat := 14
def kLevel : UInt8 := 5
def kMaxAad : Nat := 40

def nwkSecurityBit (npdu : List UInt8) : Bool := npdu.getD 1 0 &&& 0x02 != 0

def setNwkSecurityBit (npdu : List UInt8) (on : Bool) : List UInt8 :=
  npdu.modify 1 fun b => if on then b ||| 0x02 else b &&& ~~~0x02

/-- Offset of the relay index a source-routed header carries, or 0. -/
def srRelayIndexOffset (hdr : List UInt8) (headerLen : Nat) : Nat :=
  let fcf := join16 (hdr.getD 0 0) (hdr.getD 1 0)
  if (fcf &&& ((1 : UInt16) <<< 10)) = 0 then 0
  else
    let off := 8
    let off := if (fcf &&& ((1 : UInt16) <<< 11)) ≠ 0 then off + 8 else off
    let off := if (fcf &&& ((1 : UInt16) <<< 12)) ≠ 0 then off + 8 else off
    let off := if (fcf &&& ((1 : UInt16) <<< 8)) ≠ 0 then off + 1 else off
    let off := off + 1
    if off < headerLen then off else 0

def init : ZigbeeSecurity :=
  ⟨false, Block.ofList [], 0, false, Block.ofList [], 0, {}, .reset⟩

def setNetworkKey (s : ZigbeeSecurity) (key : Block) (keySequence : UInt8) : ZigbeeSecurity :=
  { s with key := key, keySequence := keySequence, hasKey := true }

def setAlternateKey (s : ZigbeeSecurity) (key : Block) (keySequence : UInt8) : ZigbeeSecurity :=
  { s with altKey := key, altKeySeq := keySequence, hasAlt := true }

def switchKey (s : ZigbeeSecurity) (keySequence : UInt8) : ZigbeeSecurity × Bool :=
  if s.hasKey && keySequence = s.keySequence then (s, true)
  else if s.hasAlt && keySequence = s.altKeySeq then
    ({ s with
        key := s.altKey
        keySequence := s.altKeySeq
        altKey := s.key
        altKeySeq := s.keySequence
        hasAlt := s.hasKey
        hasKey := true }, true)
  else (s, false)

def nonce (srcIeee : UInt64) (frameCounter : UInt32) (controlCrypto : UInt8) : List UInt8 :=
  le64 srcIeee ++ le32 frameCounter ++ [controlCrypto]

/-- Header and auxiliary header as authenticated: level substituted, relay index zeroed. -/
def authData (aadBuf : List UInt8) (headerLen : Nat) (controlCrypto : UInt8) : List UInt8 :=
  let aadBuf := aadBuf.set headerLen controlCrypto
  let sr := srRelayIndexOffset aadBuf headerLen
  if sr ≠ 0 then aadBuf.set sr 0 else aadBuf

variable (ecb : BlockCipher)

def secureNpdu (s : ZigbeeSecurity) (npdu : List UInt8) (headerLen : Nat) (srcIeee : UInt64)
    (frameCounter : UInt32) (outMax : UInt8) : ZigbeeSecurity × Built :=
  if !s.hasKey || headerLen > npdu.length then (s, .fail)
  else
    let total := (npdu.length + kAuxLen + kMicLen) % 256
    if outMax.toNat < total then (s, .fail)
    else
      let hdr := setNwkSecurityBit (npdu.take headerLen) true
      let controlOnAir : UInt8 := 0x28
      let controlCrypto := controlOnAir ||| kLevel
      let aux := controlOnAir :: le32 frameCounter ++ le64 srcIeee ++ [s.keySequence]
      if (headerLen + kAuxLen) % 256 > kMaxAad then (s, .fail)
      else
        match CcmStar.ccmStarCrypt ecb s.key true kMicLen (nonce srcIeee frameCounter controlCrypto)
            (authData (hdr ++ aux) headerLen controlCrypto) (npdu.drop headerLen) none with
        | none => (s, .fail)
        | some (cipher, mic) =>
          ({ s with stats := { s.stats with secured := s.stats.secured + 1 } },
            { len := total
              writes := emit 0 hdr ++ emit headerLen aux ++ emit (headerLen + kAuxLen) cipher ++
                emit (npdu.length + kAuxLen) mic })

/-- The key a frame under `auxKeySeq` is opened with. -/
def selectKey (s : ZigbeeSecurity) (auxKeySeq : UInt8) : Option Block :=
  if s.hasAlt then
    if auxKeySeq = s.keySequence then some s.key
    else if auxKeySeq = s.altKeySeq then some s.altKey
    else none
  else some s.key

/-- A frame that passed authentication. -/
structure Authentic where
  npdu : List UInt8
  srcIeee : UInt64
  keySeq : UInt8
  frameCounter : UInt32
deriving DecidableEq, Repr

/-- `openNpdu` up to the replay check. -/
def authenticate (s : ZigbeeSecurity) (npdu : List UInt8) (headerLen : Nat) (outMax : UInt8) :
    Except OpenError Authentic :=
  if !s.hasKey then .error .noKey
  else if !nwkSecurityBit npdu || npdu.length < headerLen + kAuxLen + kMicLen then
    .error .malformed
  else
    let aux := slice npdu headerLen kAuxLen
    let frameCounter := join32 (slice aux 1 4)
    let srcIeee := join64 (slice aux 5 8)
    let auxKeySeq := aux.getD 13 0
    let controlCrypto := (aux.getD 0 0 &&& ~~~0x07) ||| kLevel
    match s.selectKey auxKeySeq with
    | none => .error .keySequence
    | some useKey =>
      let cipherLen := (npdu.length - headerLen - kAuxLen - kMicLen) % 256
      let plainTotal := (headerLen + cipherLen) % 256
      if outMax.toNat < plainTotal then .error .outMax
      else
        let nonce := nonce srcIeee frameCounter controlCrypto
        let plain := CcmStar.ctr ecb useKey nonce (slice npdu (headerLen + kAuxLen) cipherLen)
        let out := setNwkSecurityBit (npdu.take headerLen) false ++ plain
        if (headerLen + kAuxLen) % 256 > kMaxAad then .error .aadTooLong
        else
          let aad := authData (setNwkSecurityBit (npdu.take headerLen ++ aux) true) headerLen
            controlCrypto
          let mic := npdu.drop (npdu.length - kMicLen)
          match CcmStar.ccmStarCrypt ecb useKey false kMicLen nonce aad plain (some mic) with
          | none => .error .mic
          | some _ => .ok ⟨out, srcIeee, auxKeySeq, frameCounter⟩

/-- The counters `openNpdu` moves when it gives up before the replay check. -/
def countError (stats : ZigbeeSecurityStats) : OpenError → ZigbeeSecurityStats
  | .malformed | .keySequence | .mic => { stats with micFailures := stats.micFailures + 1 }
  | _ => stats

def openNpdu (s : ZigbeeSecurity) (npdu : List UInt8) (headerLen : Nat) (outMax : UInt8) :
    ZigbeeSecurity × Except OpenError Opened :=
  match s.authenticate ecb npdu headerLen outMax with
  | .error e => ({ s with stats := countError s.stats e }, .error e)
  | .ok frame =>
    match s.replay.replayCheckAndUpdate frame.srcIeee frame.keySeq frame.frameCounter with
    | (.duplicate, replay) =>
      ({ s with replay := replay, stats := { s.stats with duplicates := s.stats.duplicates + 1 } },
        .error .duplicate)
    | (.stale, replay) =>
      ({ s with replay := replay, stats := { s.stats with replays := s.stats.replays + 1 } },
        .error .stale)
    | (.fresh, replay) =>
      ({ s with replay := replay, stats := { s.stats with opened := s.stats.opened + 1 } },
        .ok ⟨frame.npdu, frame.srcIeee⟩)

end ZigbeeSecurity

end NiusZigbee
