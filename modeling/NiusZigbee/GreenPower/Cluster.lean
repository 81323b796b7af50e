import NiusZigbee.GreenPower.Gpdf
import NiusZigbee.GreenPower.SinkTable

/-!
# The Green Power cluster

A proxy sends the sink what it heard as a notification. The sink rebuilds the secured frame from the
fields of the notification, and verifies and decrypts it under the device's key.
-/

namespace NiusZigbee

open ByteCodec OutBuffer

abbrev Mic := Vector UInt8 4

def Mic.ofList (bs : List UInt8) : Mic := Vector.ofFn fun i => bs.getD i 0

theorem Mic.toList_ofList {bs : List UInt8} (h : bs.length = 4) : (Mic.ofList bs).toList = bs := by
  apply List.ext_getElem (by simp [h])
  intro i hi hi'
  simp [Mic.ofList, List.getElem?_eq_getElem hi']

theorem Mic.ofList_toList (m : Mic) : Mic.ofList m.toList = m := by
  apply Vector.ext
  intro i hi
  simp [Mic.ofList]

def gpCmdNotification : UInt8 := 0x00
def gpCmdCommissioningNotification : UInt8 := 0x04

def gpCommLightweightUnicast : UInt8 := 3

structure GpNotification where
  applicationId : UInt8 := 0
  securityLevel : UInt8 := 0
  securityKeyType : UInt8 := 0
  rxAfterTx : Bool := false
  srcId : UInt32 := 0
  frameCounter : UInt32 := 0
  commandId : UInt8 := 0
  payload : List UInt8 := []
  secured : Bool := false
  mic : Mic := Mic.ofList []
  proxyInfoPresent : Bool := false
  gppShortAddr : UInt16 := 0
  gppLink : UInt8 := 0
deriving DecidableEq, Repr

structure GpPairing where
  applicationId : UInt8 := 0
  addSink : Bool := false
  removeGpd : Bool := false
  communicationMode : UInt8 := 0
  securityLevel : UInt8 := 0
  securityKeyType : UInt8 := 0
  srcId : UInt32 := 0
  sinkNwkAddr : UInt16 := 0
  deviceId : UInt8 := 0
  frameCounterPresent : Bool := false
  frameCounter : UInt32 := 0
  keyPresent : Bool := false
  key : Block := Block.ofList []
deriving DecidableEq, Repr

/-- What a handled notification leaves behind: the table, the result, and the caller's outputs.
The command id is `none` where it was not written. -/
structure GpHandled where
  sink : List GpSinkEntry
  accepted : Bool
  commandId : Option UInt8 := none
  payload : List UInt8 := []
deriving DecidableEq, Repr

namespace ZigbeeGreenPowerCluster

def kMaxPayload : Nat := 48

/-! ## Notifications -/

def options (n : GpNotification) : UInt16 :=
  (n.applicationId &&& (0x07 : UInt8)).toUInt16 |||
    ((n.securityLevel &&& (0x03 : UInt8)).toUInt16 <<< (3 : UInt16)) |||
    ((n.securityKeyType &&& (0x03 : UInt8)).toUInt16 <<< (5 : UInt16)) |||
    (if n.rxAfterTx then (0x80 : UInt16) else 0) |||
    (if n.secured then (0x100 : UInt16) else 0) |||
    (if n.proxyInfoPresent then (0x200 : UInt16) else 0)

def buildNotification (outMax : UInt8) (n : GpNotification) : Built :=
  if n.payload.length > kMaxPayload then .fail
  else
    let need := (2 + 4 + 4 + 1 + 1 + n.payload.length + (if n.secured then 4 else 0) +
      (if n.proxyInfoPresent then 3 else 0)) % 256
    if outMax.toNat < need then .fail
    else
      let micAt := 12 + n.payload.length
      let infoAt := if n.secured then micAt + 4 else micAt
      { len := if n.proxyInfoPresent then infoAt + 3 else infoAt
        writes := emit 0 (le16 (options n)) ++ emit 2 (le32 n.srcId) ++
          emit 6 (le32 n.frameCounter) ++ emit 10 [n.commandId] ++
          emit 11 [n.payload.length.toUInt8] ++ emit 12 n.payload ++
          (if n.secured then emit micAt n.mic.toList else []) ++
          (if n.proxyInfoPresent then emit infoAt (le16 n.gppShortAddr ++ [n.gppLink]) else []) }

/-- `none` is `return false`. -/
def parseNotification (p : List UInt8) : Option GpNotification :=
  if p.length < 12 then none
  else
    let opt := join16 (p.getD 0 0) (p.getD 1 0)
    let payloadLen := (p.getD 11 0).toNat
    let secured := (opt &&& 0x100) != 0
    let proxyInfoPresent := (opt &&& 0x200) != 0
    let micAt := 12 + payloadLen
    let infoAt := if secured then micAt + 4 else micAt
    if payloadLen > kMaxPayload then none
    else if micAt > p.length then none
    else if infoAt > p.length then none
    else if proxyInfoPresent ∧ infoAt + 3 > p.length then none
    else
      some
        { applicationId := (opt &&& 0x07).toUInt8
          securityLevel := ((opt >>> 3) &&& 0x03).toUInt8
          securityKeyType := ((opt >>> 5) &&& 0x03).toUInt8
          rxAfterTx := (opt &&& 0x80) != 0
          srcId := join32 (slice p 2 4)
          frameCounter := join32 (slice p 6 4)
          commandId := p.getD 10 0
          payload := slice p 12 payloadLen
          secured := secured
          mic := if secured then Mic.ofList (slice p micAt 4) else Mic.ofList []
          proxyInfoPresent := proxyInfoPresent
          gppShortAddr :=
            if proxyInfoPresent then join16 (p.getD infoAt 0) (p.getD (infoAt + 1) 0) else 0
          gppLink := if proxyInfoPresent then p.getD (infoAt + 2) 0 else 0 }

/-! ## Pairings -/

def pairingOptions (g : GpPairing) : UInt32 :=
  (g.applicationId &&& (0x07 : UInt8)).toUInt32 |||
    (if g.addSink then (0x08 : UInt32) else 0) |||
    (if g.removeGpd then (0x10 : UInt32) else 0) |||
    ((g.communicationMode &&& (0x03 : UInt8)).toUInt32 <<< (5 : UInt32)) |||
    ((g.securityLevel &&& (0x03 : UInt8)).toUInt32 <<< (7 : UInt32)) |||
    ((g.securityKeyType &&& (0x07 : UInt8)).toUInt32 <<< (9 : UInt32)) |||
    (if g.frameCounterPresent then (0x1000 : UInt32) else 0) |||
    (if g.keyPresent then (0x2000 : UInt32) else 0)

def buildPairing (outMax : UInt8) (g : GpPairing) : Built :=
  let need := (3 + 4 + 2 + 1 + (if g.frameCounterPresent then 4 else 0) +
    (if g.keyPresent then 16 else 0)) % 256
  if outMax.toNat < need then .fail
  else
    let opt := pairingOptions g
    let keyAt := if g.frameCounterPresent then 10 + 4 else 10
    { len := if g.keyPresent then keyAt + 16 else keyAt
      writes :=
        emit 0 [(opt &&& 0xFF).toUInt8, ((opt >>> 8) &&& 0xFF).toUInt8,
          ((opt >>> 16) &&& 0xFF).toUInt8] ++
          emit 3 (le32 g.srcId) ++ emit 7 (le16 g.sinkNwkAddr) ++ emit 9 [g.deviceId] ++
          (if g.frameCounterPresent then emit 10 (le32 g.frameCounter) else []) ++
          (if g.keyPresent then emit keyAt g.key.toList else []) }

/-- `none` is `return false`. -/
def parsePairing (p : List UInt8) : Option GpPairing :=
  if p.length < 10 then none
  else
    let opt := (p.getD 0 0).toUInt32 ||| ((p.getD 1 0).toUInt32 <<< 8) |||
      ((p.getD 2 0).toUInt32 <<< 16)
    let frameCounterPresent := (opt &&& 0x1000) != 0
    let keyPresent := (opt &&& 0x2000) != 0
    let keyAt := if frameCounterPresent then 10 + 4 else 10
    if frameCounterPresent ∧ 10 + 4 > p.length then none
    else if keyPresent ∧ keyAt + 16 > p.length then none
    else
      some
        { applicationId := (opt &&& 0x07).toUInt8
          addSink := (opt &&& 0x08) != 0
          removeGpd := (opt &&& 0x10) != 0
          communicationMode := ((opt >>> 5) &&& 0x03).toUInt8
          securityLevel := ((opt >>> 7) &&& 0x03).toUInt8
          securityKeyType := ((opt >>> 9) &&& 0x07).toUInt8
          srcId := join32 (slice p 3 4)
          sinkNwkAddr := join16 (p.getD 7 0) (p.getD 8 0)
          deviceId := p.getD 9 0
          frameCounterPresent := frameCounterPresent
          frameCounter := if frameCounterPresent then join32 (slice p 10 4) else 0
          keyPresent := keyPresent
          key := if keyPresent then Block.ofList (slice p keyAt 16) else Block.ofList [] }

/-! ## The sink -/

/-- The table, and the entry and the pairing handed out; `none` is `return false`. -/
def handleCommissioningNotification (sink : List GpSinkEntry) (payload : List UInt8)
    (sinkNwkAddr : UInt16) : List GpSinkEntry × Option (GpSinkEntry × GpPairing) :=
  match parseNotification payload with
  | none => (sink, none)
  | some n =>
    if n.commandId ≠ gpdCmdCommissioning then (sink, none)
    else
      match ZigbeeGreenPower.parseCommissioning n.payload with
      | none => (sink, none)
      | some c =>
        if !c.keyPresent then (sink, none)
        else
          let r := ZigbeeGpSinkTable.commission sink n.srcId c.deviceId c.key
          (r.1, r.2.map fun e => (e,
            { addSink := true
              communicationMode := gpCommLightweightUnicast
              securityLevel := gpSecEncFcMic
              srcId := n.srcId
              sinkNwkAddr := sinkNwkAddr
              deviceId := c.deviceId
              frameCounterPresent := c.outgoingCounterPresent
              frameCounter := c.outgoingCounter
              keyPresent := true
              key := c.key }))

/-- The secured frame as the sink puts it together again. -/
def rebuilt (n : GpNotification) : List UInt8 :=
  [((3 : UInt8) <<< 2) ||| 0x80, ((3 : UInt8) <<< 3) ||| (if n.rxAfterTx then 0x40 else 0)] ++
    le32 n.srcId ++ le32 n.frameCounter ++ [n.commandId] ++ n.payload ++ n.mic.toList

variable (ecb : BlockCipher)

/-- A command that passed the counter check goes to the caller, if it fits the buffer. -/
def deliver (checked : List GpSinkEntry × Bool) (commandId : UInt8) (payload : List UInt8)
    (outMax : UInt8) : GpHandled :=
  if !checked.2 then { sink := checked.1, accepted := false }
  else if payload.length > outMax.toNat then
    { sink := checked.1, accepted := false, commandId := some commandId }
  else { sink := checked.1, accepted := true, commandId := some commandId, payload := payload }

theorem deliver_sink (checked : List GpSinkEntry × Bool) (commandId : UInt8)
    (payload : List UInt8) (outMax : UInt8) :
    (deliver checked commandId payload outMax).sink = checked.1 := by
  rw [deliver]
  split
  · rfl
  · split <;> rfl

theorem deliver_accepted (checked : List GpSinkEntry × Bool) (commandId : UInt8)
    (payload : List UInt8) (outMax : UInt8) :
    (deliver checked commandId payload outMax).accepted = true ↔
      checked.2 = true ∧ payload.length ≤ outMax.toNat := by
  rw [deliver]
  cases checked.2 with
  | false => simp
  | true =>
    simp only [Bool.not_true, Bool.false_eq_true, if_false, true_and]
    split
    · next hlong => simp [hlong]
    · next hfits => simpa using hfits

def handleNotification (sink : List GpSinkEntry) (payload : List UInt8) (outMax : UInt8) :
    GpHandled :=
  match parseNotification payload with
  | none => { sink := sink, accepted := false }
  | some n =>
    match ZigbeeGpSinkTable.find sink n.srcId with
    | none => { sink := sink, accepted := false }
    | some e =>
      if n.secured then
        if 1 + n.payload.length > kMaxPayload then { sink := sink, accepted := false }
        else
          match ZigbeeGreenPower.open ecb (rebuilt n) e.key with
          | (false, _) => { sink := sink, accepted := false }
          | (true, f) =>
            deliver (ZigbeeGpSinkTable.checkAndUpdateCounter sink n.srcId f.frameCounter)
              f.commandId f.payload outMax
      else
        deliver
          (if n.frameCounter ≠ 0 then
            ZigbeeGpSinkTable.checkAndUpdateCounter sink n.srcId n.frameCounter
          else (sink, true))
          n.commandId n.payload outMax

/-! ## What is built is parsed -/

private theorem and_mask_or (a b m : UInt16) : (a ||| b) &&& m = (a &&& m) ||| (b &&& m) := by
  apply UInt16.toNat_inj.mp
  simp only [UInt16.toNat_and, UInt16.toNat_or]
  exact Nat.and_or_distrib_right ..

/-- The numbers in the low seven bits, and the flags above them. -/
private theorem options_reads (a : Fin 8) (level keyType : Fin 4) (rx secured proxy : Bool) :
    let low := (UInt8.ofNat a.1).toUInt16 ||| ((UInt8.ofNat level.1).toUInt16 <<< (3 : UInt16)) |||
      ((UInt8.ofNat keyType.1).toUInt16 <<< (5 : UInt16))
    let flags := (if rx then (0x80 : UInt16) else 0) |||
      (if secured then (0x100 : UInt16) else 0) ||| (if proxy then (0x200 : UInt16) else 0)
    ((low &&& 0x07).toUInt8 = UInt8.ofNat a.1 ∧
      ((low >>> 3) &&& 0x03).toUInt8 = UInt8.ofNat level.1 ∧
      ((low >>> 5) &&& 0x03).toUInt8 = UInt8.ofNat keyType.1 ∧
      low &&& 0x80 = 0 ∧ low &&& 0x100 = 0 ∧ low &&& 0x200 = 0) ∧
    flags &&& 0x07 = 0 ∧ (flags >>> 3) &&& 0x03 = 0 ∧ (flags >>> 5) &&& 0x03 = 0 ∧
      ((flags &&& 0x80) != 0) = rx ∧ ((flags &&& 0x100) != 0) = secured ∧
      ((flags &&& 0x200) != 0) = proxy := by
  constructor
  · revert a level keyType
    decide
  · revert rx secured proxy
    decide +kernel

private theorem options_decode (n : GpNotification) :
    (options n &&& 0x07).toUInt8 = n.applicationId &&& 0x07 ∧
      ((options n >>> 3) &&& 0x03).toUInt8 = n.securityLevel &&& 0x03 ∧
      ((options n >>> 5) &&& 0x03).toUInt8 = n.securityKeyType &&& 0x03 ∧
      ((options n &&& 0x80) != 0) = n.rxAfterTx ∧ ((options n &&& 0x100) != 0) = n.secured ∧
      ((options n &&& 0x200) != 0) = n.proxyInfoPresent := by
  have hlow : ∀ b : UInt8, (b &&& 0x07).toNat < 8 := by
    intro b
    rw [UInt8.toNat_and]
    exact Nat.lt_of_le_of_lt Nat.and_le_right (by decide)
  have hpair : ∀ b : UInt8, (b &&& 0x03).toNat < 4 := by
    intro b
    rw [UInt8.toNat_and]
    exact Nat.lt_of_le_of_lt Nat.and_le_right (by decide)
  have h := options_reads ⟨_, hlow n.applicationId⟩ ⟨_, hpair n.securityLevel⟩
    ⟨_, hpair n.securityKeyType⟩ n.rxAfterTx n.secured n.proxyInfoPresent
  simp only [UInt8.ofNat_toNat] at h
  obtain ⟨⟨happ, hlevel, htype, hrx, hsecured, hproxy⟩, happ', hlevel', htype', hrx', hsecured',
    hproxy'⟩ := h
  have hsplit : options n =
      ((n.applicationId &&& (0x07 : UInt8)).toUInt16 |||
        ((n.securityLevel &&& (0x03 : UInt8)).toUInt16 <<< (3 : UInt16)) |||
        ((n.securityKeyType &&& (0x03 : UInt8)).toUInt16 <<< (5 : UInt16))) |||
      ((if n.rxAfterTx then (0x80 : UInt16) else 0) |||
        (if n.secured then (0x100 : UInt16) else 0) |||
        (if n.proxyInfoPresent then (0x200 : UInt16) else 0)) := by
    simp only [options, UInt16.or_assoc]
  rw [hsplit]
  refine ⟨?_, ?_, ?_, ?_, ?_, ?_⟩
  · rw [and_mask_or, happ', UInt16.or_zero, happ]
  · rw [UInt16.shiftRight_or, and_mask_or, hlevel', UInt16.or_zero, hlevel]
  · rw [UInt16.shiftRight_or, and_mask_or, htype', UInt16.or_zero, htype]
  · rw [and_mask_or, hrx, UInt16.zero_or, hrx']
  · rw [and_mask_or, hsecured, UInt16.zero_or, hsecured']
  · rw [and_mask_or, hproxy, UInt16.zero_or, hproxy']

/-- The bytes of a notification. -/
def notificationBytes (n : GpNotification) : List UInt8 :=
  le16 (options n) ++ le32 n.srcId ++ le32 n.frameCounter ++ [n.commandId] ++
    [n.payload.length.toUInt8] ++ n.payload ++ (if n.secured then n.mic.toList else []) ++
    (if n.proxyInfoPresent then le16 n.gppShortAddr ++ [n.gppLink] else [])

theorem notificationBytes_length (n : GpNotification) :
    (notificationBytes n).length = 12 + n.payload.length + (if n.secured then 4 else 0) +
      (if n.proxyInfoPresent then 3 else 0) := by
  have hmic : (if n.secured then n.mic.toList else []).length = if n.secured then 4 else 0 := by
    split <;> simp
  have hinfo : (if n.proxyInfoPresent then le16 n.gppShortAddr ++ [n.gppLink] else []).length =
      if n.proxyInfoPresent then 3 else 0 := by
    split <;> rfl
  simp only [notificationBytes, List.length_append, hmic, hinfo, le16_length, le32_length,
    List.length_singleton]

theorem buildNotification_eq {outMax : UInt8} {n : GpNotification}
    (hlen : n.payload.length ≤ kMaxPayload) :
    buildNotification outMax n =
      if (notificationBytes n).length ≤ outMax.toNat then .exact (notificationBytes n)
      else .fail := by
  have hlength := notificationBytes_length n
  have hneed : (2 + 4 + 4 + 1 + 1 + n.payload.length + (if n.secured then 4 else 0) +
      (if n.proxyInfoPresent then 3 else 0)) % 256 = (notificationBytes n).length := by
    simp only [kMaxPayload] at hlen
    rw [hlength]
    split <;> split <;> omega
  rw [buildNotification, if_neg (by omega)]
  dsimp only
  rw [hneed]
  by_cases hroom : (notificationBytes n).length ≤ outMax.toNat
  swap
  · rw [if_pos (by omega), if_neg hroom]
  rw [if_neg (by omega), if_pos hroom]
  rw [emit_glue _ _ (by rfl), emit_glue _ _ (by rfl), emit_glue _ _ (by rfl),
    emit_glue _ _ (by rfl), emit_glue _ _ (by rfl)]
  simp only [Built.exact, notificationBytes_length, Built.mk.injEq]
  refine ⟨by split <;> split <;> omega, ?_⟩
  have hbase : (le16 (options n) ++ le32 n.srcId ++ le32 n.frameCounter ++ [n.commandId] ++
      [n.payload.length.toUInt8] ++ n.payload).length = 12 + n.payload.length := by
    simp
    omega
  rw [emit_glue_if _ _ _ hbase.symm, emit_glue_if _ _ _ ?_, notificationBytes]
  rw [List.length_append, hbase]
  split <;> simp

/-- The fields of a notification as they travel: scalars in their widths, the MIC and the proxy's
data only where they are flagged. -/
def onWire (n : GpNotification) : GpNotification :=
  { n with
    applicationId := n.applicationId &&& 0x07
    securityLevel := n.securityLevel &&& 0x03
    securityKeyType := n.securityKeyType &&& 0x03
    mic := if n.secured then n.mic else Mic.ofList []
    gppShortAddr := if n.proxyInfoPresent then n.gppShortAddr else 0
    gppLink := if n.proxyInfoPresent then n.gppLink else 0 }

theorem parseNotification_bytes {n : GpNotification} (hlen : n.payload.length ≤ kMaxPayload) :
    parseNotification (notificationBytes n) = some (onWire n) := by
  have hlength := notificationBytes_length n
  have h0 : (notificationBytes n).getD 0 0 = lo8 (options n) := rfl
  have h1 : (notificationBytes n).getD 1 0 = hi8 (options n) := rfl
  have hsrc : slice (notificationBytes n) 2 4 = le32 n.srcId := rfl
  have hcounter : slice (notificationBytes n) 6 4 = le32 n.frameCounter := rfl
  have hcommand : (notificationBytes n).getD 10 0 = n.commandId := rfl
  have hpayloadLen : ((notificationBytes n).getD 11 0).toNat = n.payload.length :=
    toNat_toUInt8 (by simp only [kMaxPayload] at hlen; omega)
  obtain ⟨pre, hpre⟩ : ∃ pre, pre = le16 (options n) ++ le32 n.srcId ++ le32 n.frameCounter ++
    [n.commandId] ++ [n.payload.length.toUInt8] := ⟨_, rfl⟩
  have hprelen : pre.length = 12 := by rw [hpre]; rfl
  have hbytes : notificationBytes n = pre ++ n.payload ++
      (if n.secured then n.mic.toList else []) ++
        (if n.proxyInfoPresent then le16 n.gppShortAddr ++ [n.gppLink] else []) := by
    rw [hpre, notificationBytes]
  have hpayload : slice (notificationBytes n) 12 n.payload.length = n.payload := by
    rw [hbytes, List.append_assoc, slice_append_left _ (by rw [List.length_append]; omega)]
    exact slice_of_length hprelen.symm rfl
  have hmic : n.secured = true → slice (notificationBytes n) (12 + n.payload.length) 4 =
      n.mic.toList := by
    intro hsec
    rw [hbytes, hsec, if_pos rfl, slice_append_left _ (by simp [hprelen]; omega)]
    exact slice_of_length (by rw [List.length_append, hprelen]) (by simp)
  have hinfo : n.proxyInfoPresent = true → ∀ i,
      (notificationBytes n).getD ((if n.secured then 12 + n.payload.length + 4
        else 12 + n.payload.length) + i) 0 = (le16 n.gppShortAddr ++ [n.gppLink]).getD i 0 := by
    intro hpresent i
    rw [hbytes, hpresent, if_pos rfl, List.getD_append_right _ _ _ _ ?_]
    · congr 1
      simp only [List.length_append, hprelen]
      split <;> simp
    · simp only [List.length_append, hprelen]
      split <;> simp
  obtain ⟨happ, hlevel, htype, hrx, hsecured, hproxy⟩ := options_decode n
  simp only [parseNotification, h0, h1, hsrc, hcounter, hcommand, hpayloadLen, join16_bytes,
    join32_le32, happ, hlevel, htype, hrx, hsecured, hproxy, hpayload]
  have hend : ¬ (if n.secured then 12 + n.payload.length + 4 else 12 + n.payload.length) >
      (notificationBytes n).length := by
    rw [hlength]
    split <;> omega
  have hinfoEnd : ¬ (n.proxyInfoPresent = true ∧
      (if n.secured then 12 + n.payload.length + 4 else 12 + n.payload.length) + 3 >
        (notificationBytes n).length) := by
    rintro ⟨hpresent, hlt⟩
    rw [hlength, if_pos hpresent] at hlt
    split at hlt <;> omega
  rw [if_neg (by omega), if_neg (by omega), if_neg (by omega), if_neg hend, if_neg hinfoEnd]
  have hmicField : (if n.secured then Mic.ofList (slice (notificationBytes n)
      (12 + n.payload.length) 4) else Mic.ofList []) =
        if n.secured then n.mic else Mic.ofList [] := by
    split
    · next hsec => rw [hmic hsec, Mic.ofList_toList]
    · rfl
  rw [hmicField, onWire]
  cases hpresent : n.proxyInfoPresent with
  | false => rfl
  | true =>
    have hlo := hinfo hpresent 0
    rw [Nat.add_zero] at hlo
    simp only [if_true, hlo, hinfo hpresent]
    simp [le16]

/-! ## What the sink does with a secured notification -/

/-- Ciphertext and MIC of the notification verify under the key. -/
def Verifies (key : Block) (n : GpNotification) : Prop :=
  n.mic.toList = CcmStar.mic ecb key ZigbeeGreenPower.kMicLen
    (ZigbeeGreenPower.gpNonce n.srcId n.frameCounter)
    (ZigbeeGreenPower.header n.rxAfterTx n.srcId n.frameCounter)
    (CcmStar.ctr ecb key (ZigbeeGreenPower.gpNonce n.srcId n.frameCounter)
      (n.commandId :: n.payload))

instance (key : Block) (n : GpNotification) : Decidable (Verifies ecb key n) :=
  inferInstanceAs (Decidable (_ = _))

/-- The command under the ciphertext: its id, then its payload. -/
def plainCommand (key : Block) (n : GpNotification) : List UInt8 :=
  CcmStar.ctr ecb key (ZigbeeGreenPower.gpNonce n.srcId n.frameCounter) (n.commandId :: n.payload)

theorem rebuilt_eq (n : GpNotification) :
    rebuilt n = ZigbeeGreenPower.header n.rxAfterTx n.srcId n.frameCounter ++
      (n.commandId :: n.payload) ++ n.mic.toList := by
  have hext : ((3 : UInt8) <<< 3) ||| (if n.rxAfterTx then 0x40 else 0) =
      ZigbeeGreenPower.extFc 0 gpSecEncFcMic n.rxAfterTx := by
    cases n.rxAfterTx <;> decide
  rw [rebuilt, hext, ZigbeeGreenPower.header, List.append_cons _ n.commandId]
  rfl

variable {ecb} {sink : List GpSinkEntry} {payload : List UInt8} {outMax : UInt8}
  {n : GpNotification} {e : GpSinkEntry}

/-- A secured notification is acted on just when it verifies under the key of its device. -/
theorem handleNotification_secured (hparse : parseNotification payload = some n)
    (hfind : ZigbeeGpSinkTable.find sink n.srcId = some e) (hsec : n.secured = true) :
    handleNotification ecb sink payload outMax =
      if n.payload.length ≤ 47 ∧ Verifies ecb e.key n then
        deliver (ZigbeeGpSinkTable.checkAndUpdateCounter sink n.srcId n.frameCounter)
          ((plainCommand ecb e.key n).getD 0 0) ((plainCommand ecb e.key n).drop 1) outMax
      else { sink := sink, accepted := false } := by
  simp only [handleNotification, hparse, hfind, hsec, if_true]
  by_cases hlen : n.payload.length ≤ 47
  · have hopen := @ZigbeeGreenPower.open_frame ecb e.key n.rxAfterTx n.srcId n.frameCounter
      (n.commandId :: n.payload) n.mic.toList (by simp) (by
        simp only [List.length_cons, ZigbeeGreenPower.kMaxPayload]
        omega) (by simp [ZigbeeGreenPower.kMicLen])
    rw [if_neg (by simp only [kMaxPayload]; omega), rebuilt_eq, hopen]
    by_cases hok : Verifies ecb e.key n
    · have hcond : n.payload.length ≤ 47 ∧ Verifies ecb e.key n := ⟨hlen, hok⟩
      rw [if_pos hcond]
      simp only [Verifies] at hok
      simp only [if_pos hok, ZigbeeGreenPower.headerFrame, plainCommand]
    · have hcond : ¬ (n.payload.length ≤ 47 ∧ Verifies ecb e.key n) := fun h => hok h.2
      rw [if_neg hcond]
      simp only [Verifies] at hok
      simp only [if_neg hok]
  · have hcond : ¬ (n.payload.length ≤ 47 ∧ Verifies ecb e.key n) := fun h => hlen h.1
    rw [if_pos (by simp only [kMaxPayload]; omega), if_neg hcond]

end ZigbeeGreenPowerCluster

end NiusZigbee
