import NiusZigbee.GreenPower.Proxy
import NiusZigbee.Security.Aes128

/-!
# From the device to the sink

A secured frame, taken apart by the proxy and put together again by the sink, opens under the
device's key. Whoever forwards it a second time, the sink has seen its counter.
-/

namespace NiusZigbee

open ByteCodec OutBuffer ZigbeeGreenPower ZigbeeGreenPowerCluster

/-- What the sink is told of a frame with this ciphertext and MIC. -/
def tunnelled (srcId frameCounter : UInt32) (cipher mic : List UInt8) (gppShortAddr : UInt16)
    (gppLink : UInt8) : GpNotification where
  securityLevel := gpSecEncFcMic
  srcId := srcId
  frameCounter := frameCounter
  commandId := cipher.getD 0 0
  payload := cipher.drop 1
  secured := true
  mic := Mic.ofList mic
  proxyInfoPresent := true
  gppShortAddr := gppShortAddr
  gppLink := gppLink

section Proxy

variable {entries : List GpProxyEntry} {srcId frameCounter : UInt32} {cipher mic : List UInt8}
  {gppShortAddr : UInt16} {gppLink outMax : UInt8}

/-- The proxy drops a secured frame as a duplicate, or sends on all of it. -/
theorem forward_frame (hpos : 1 ≤ cipher.length) (hmax : cipher.length ≤ 48)
    (hmic : mic.length = 4) :
    ZigbeeGpProxy.forward entries (header false srcId frameCounter ++ cipher ++ mic) gppShortAddr
        gppLink outMax =
      let checked := ZigbeeGpProxy.isDuplicate entries srcId frameCounter
      if checked.2 then { entries := checked.1 }
      else
        { entries := checked.1
          clusterCmd := some gpCmdNotification
          out := buildNotification outMax
            (tunnelled srcId frameCounter cipher mic gppShortAddr gppLink) } := by
  obtain ⟨gpdf, hgpdf⟩ : ∃ gpdf, gpdf = header false srcId frameCounter ++ cipher ++ mic := ⟨_, rfl⟩
  have hparse : parse gpdf = (true, headerFrame false srcId frameCounter) := by
    rw [hgpdf, List.append_assoc]
    exact parse_header _
  have hlen : gpdf.length = 10 + cipher.length + 4 := by
    rw [hgpdf, List.length_append, List.length_append, header_length, hmic, kHeaderLen]
  have henc : (10 + cipher.length + 4 - 10 - 4) % 256 = cipher.length := by omega
  have hcommand : gpdf.getD 10 0 = cipher.getD 0 0 := by
    rw [hgpdf, List.append_assoc, List.getD_append_right _ _ _ _ (by simp [kHeaderLen]),
      header_length, kHeaderLen, Nat.sub_self, List.getD_append _ _ _ _ hpos]
  have hpayload : slice gpdf 11 (cipher.length - 1) = cipher.drop 1 := by
    obtain ⟨c, cs, rfl⟩ := List.exists_cons_of_length_pos hpos
    rw [hgpdf, List.append_cons _ c cs, slice_append_left _ (by simp [kHeaderLen]; omega)]
    exact slice_of_length (by simp [kHeaderLen]) (by simp)
  have hmicAt : gpdf.drop (gpdf.length - 4) = mic := by
    rw [hgpdf]
    apply List.drop_left'
    simp only [List.length_append]
    omega
  have hlevel : (headerFrame false srcId frameCounter).securityLevel = gpSecEncFcMic := rfl
  have happ : (headerFrame false srcId frameCounter).applicationId = 0 := rfl
  have hsecured : (gpSecEncFcMic = gpSecNone) = False := by decide
  have hcounted : (gpSecEncFcMic ≥ gpSecFcMic) = True := by decide
  have hshort : ¬ 10 + cipher.length + 4 < 10 + 1 + 4 := by omega
  have hrange : ¬ (cipher.length < 1 ∨ cipher.length > 48) := by omega
  rw [← hgpdf]
  rw [hlen] at hmicAt
  simp only [ZigbeeGpProxy.forward, hparse, Bool.not_true, Bool.false_eq_true, if_false, hlevel,
    happ, hsecured, hcounted, false_and, not_false_eq_true, and_true, if_true, hlen, henc, hcommand,
    hpayload, hmicAt, if_neg hshort, if_neg hrange, ne_eq, not_true_eq_false]
  rfl

end Proxy

section Sink

variable {ecb : BlockCipher} {key : Block} {srcId frameCounter : UInt32} {commandId : UInt8}
  {payload : List UInt8} {gppShortAddr : UInt16} {gppLink : UInt8} {sink : List GpSinkEntry}
  {e : GpSinkEntry} {outMax : UInt8}

/-- The notification of a frame that was secured under the key. -/
def notified (ecb : BlockCipher) (key : Block) (srcId frameCounter : UInt32) (plain : List UInt8)
    (gppShortAddr : UInt16) (gppLink : UInt8) : GpNotification :=
  tunnelled srcId frameCounter (CcmStar.ctr ecb key (gpNonce srcId frameCounter) plain)
    (CcmStar.mic ecb key ZigbeeGreenPower.kMicLen (gpNonce srcId frameCounter)
      (header false srcId frameCounter) plain) gppShortAddr gppLink

theorem notified_payload_length :
    (notified ecb key srcId frameCounter (commandId :: payload) gppShortAddr
      gppLink).payload.length = payload.length := by
  simp [notified, tunnelled]

theorem onWire_notified (plain : List UInt8) :
    onWire (notified ecb key srcId frameCounter plain gppShortAddr gppLink) =
      notified ecb key srcId frameCounter plain gppShortAddr gppLink := by
  have hlevel : gpSecEncFcMic &&& 0x03 = gpSecEncFcMic := by decide
  simp [onWire, notified, tunnelled, hlevel]

theorem plainCommand_notified :
    plainCommand ecb key (notified ecb key srcId frameCounter (commandId :: payload) gppShortAddr
      gppLink) = commandId :: payload := by
  obtain ⟨cipher, hcipher⟩ : ∃ cipher, cipher = CcmStar.ctr ecb key (gpNonce srcId frameCounter)
    (commandId :: payload) := ⟨_, rfl⟩
  have hsplit : cipher.getD 0 0 :: cipher.drop 1 = cipher := by
    obtain ⟨c, cs, hcs⟩ := List.exists_cons_of_length_pos (l := cipher) (by rw [hcipher]; simp)
    rw [hcs]
    rfl
  simp only [plainCommand, notified, tunnelled, ← hcipher, hsplit]
  rw [hcipher, CcmStar.ctr_ctr]

theorem verifies_notified :
    Verifies ecb key
      (notified ecb key srcId frameCounter (commandId :: payload) gppShortAddr gppLink) := by
  have hplain := @plainCommand_notified ecb key srcId frameCounter commandId payload gppShortAddr
    gppLink
  simp only [plainCommand] at hplain
  rw [Verifies, hplain]
  exact Mic.toList_ofList (ZigbeeGreenPower.mic_length _ _ _)

/-- The sink's answer to a notification of a frame secured under the device's key. -/
theorem handleNotification_notified (hlen : payload.length ≤ 47)
    (hfind : ZigbeeGpSinkTable.find sink srcId = some e) (hkey : e.key = key) :
    handleNotification ecb sink (notificationBytes
        (notified ecb key srcId frameCounter (commandId :: payload) gppShortAddr gppLink)) outMax =
      deliver (ZigbeeGpSinkTable.checkAndUpdateCounter sink srcId frameCounter) commandId payload
        outMax := by
  have hpayload := @notified_payload_length ecb key srcId frameCounter commandId payload
    gppShortAddr gppLink
  have hparse := parseNotification_bytes
    (n := notified ecb key srcId frameCounter (commandId :: payload) gppShortAddr gppLink)
    (by rw [hpayload]; exact Nat.le_succ_of_le hlen)
  rw [onWire_notified] at hparse
  rw [handleNotification_secured hparse hfind rfl, hkey,
    if_pos ⟨by rw [hpayload]; exact hlen, verifies_notified⟩, plainCommand_notified]
  rfl

/-- A counter above the stored one is taken once, whatever the proxy that sent it on. -/
theorem handleNotification_once (hlen : payload.length ≤ 47)
    (hfind : ZigbeeGpSinkTable.find sink srcId = some e) (hkey : e.key = key)
    (hcounter : e.lastFrameCounter < frameCounter) (hroom : payload.length ≤ outMax.toNat) :
    let sink' := (ZigbeeGpSinkTable.checkAndUpdateCounter sink srcId frameCounter).1
    handleNotification ecb sink (notificationBytes
        (notified ecb key srcId frameCounter (commandId :: payload) gppShortAddr gppLink)) outMax =
      { sink := sink', accepted := true, commandId := some commandId, payload := payload } ∧
    ∀ gppShortAddr' gppLink' outMax', (handleNotification ecb sink' (notificationBytes
      (notified ecb key srcId frameCounter (commandId :: payload) gppShortAddr' gppLink'))
        outMax').accepted = false := by
  intro sink'
  have hunseen : ¬ e.Seen frameCounter := fun h => absurd hcounter (UInt32.not_lt.mpr h.1)
  obtain ⟨hpassed, hstored, _⟩ := ZigbeeGpSinkTable.checkAndUpdateCounter_fresh hfind hunseen
  have hseen := GpSinkEntry.seen_stored hcounter (UInt32.le_refl frameCounter)
  constructor
  · rw [handleNotification_notified hlen hfind hkey, deliver, hpassed]
    simp only [Bool.not_true, Bool.false_eq_true, if_false]
    rw [if_neg (by omega)]
  · intro gppShortAddr' gppLink' outMax'
    rw [handleNotification_notified hlen hstored hkey,
      ZigbeeGpSinkTable.checkAndUpdateCounter_seen hstored hseen]
    rfl

end Sink

section EndToEnd

def gpdKey : Block := Block.ofList [0x00, 0x11, 0x22, 0x33, 0x44, 0x55, 0x66, 0x77, 0x88, 0x99,
  0xAA, 0xBB, 0xCC, 0xDD, 0xEE, 0xFF]

/-- The sink of a network with one device commissioned. -/
def commissioned : List GpSinkEntry :=
  (ZigbeeGpSinkTable.commission (ZigbeeGpSinkTable.begin 4) 0x01234567 0x02 gpdKey).1

variable {ecb : BlockCipher} {key : Block} {srcId frameCounter : UInt32} {commandId : UInt8}
  {payload : List UInt8}

/-- What any proxy makes of the frame: nothing, or its notification. -/
theorem forward_secured (hlen : payload.length ≤ 47) (entries : List GpProxyEntry)
    (gppShortAddr : UInt16) (gppLink outMax : UInt8) :
    let n := notified ecb key srcId frameCounter (commandId :: payload) gppShortAddr gppLink
    let checked := ZigbeeGpProxy.isDuplicate entries srcId frameCounter
    ZigbeeGpProxy.forward entries
        (securedBytes ecb key false srcId frameCounter (commandId :: payload)) gppShortAddr gppLink
        outMax =
      if checked.2 then { entries := checked.1 }
      else
        { entries := checked.1
          clusterCmd := some gpCmdNotification
          out := if payload.length + 19 ≤ outMax.toNat then .exact (notificationBytes n)
            else .fail } := by
  intro n checked
  have hpayload : n.payload.length = payload.length := notified_payload_length
  have hroom : (notificationBytes n).length = payload.length + 19 := by
    have hsec : n.secured = true := rfl
    have hinfo : n.proxyInfoPresent = true := rfl
    rw [notificationBytes_length, hpayload, if_pos hsec, if_pos hinfo]
    omega
  have hbuild := @buildNotification_eq outMax n (by rw [hpayload]; exact Nat.le_succ_of_le hlen)
  rw [hroom] at hbuild
  have hforward := @forward_frame entries srcId frameCounter
    (CcmStar.ctr ecb key (gpNonce srcId frameCounter) (commandId :: payload))
    (CcmStar.mic ecb key ZigbeeGreenPower.kMicLen (gpNonce srcId frameCounter)
      (header false srcId frameCounter) (commandId :: payload)) gppShortAddr gppLink outMax
    (by simp) (by simp; omega) (ZigbeeGreenPower.mic_length _ _ _)
  rw [securedBytes, hforward]
  exact if_congr Iff.rfl rfl (congrArg (GpForwarded.mk checked.1 (some gpCmdNotification)) hbuild)

/-- The command of a secured frame reaches the application of the sink once: the proxy sends a
notification, the sink accepts it and hands out command and payload as the device gave them, and
neither the frame nor the notification is taken a second time. -/
theorem green_power_end_to_end (hlen : payload.length ≤ 47) {gpdfMax : UInt8}
    (hgpdf : payload.length + 15 ≤ gpdfMax.toNat) {proxy : List GpProxyEntry}
    (hproxy : ∀ p, ZigbeeGpProxy.find proxy srcId = some p → p.lastFrameCounter < frameCounter)
    (gppShortAddr : UInt16) (gppLink : UInt8) {forwardMax : UInt8}
    (hforward : payload.length + 19 ≤ forwardMax.toNat) {sink : List GpSinkEntry} {e : GpSinkEntry}
    (hsink : ZigbeeGpSinkTable.find sink srcId = some e) (hkey : e.key = key)
    (hcounter : e.lastFrameCounter < frameCounter) {sinkMax : UInt8}
    (hroom : payload.length ≤ sinkMax.toNat) :
    ∃ gpdf, secure ecb gpdfMax key srcId frameCounter commandId payload = some gpdf ∧
      gpdf.len = payload.length + 15 ∧
      let sent := ZigbeeGpProxy.forward proxy gpdf.bytes gppShortAddr gppLink forwardMax
      let handled := handleNotification ecb sink sent.out.bytes sinkMax
      (sent.clusterCmd = some gpCmdNotification ∧ handled.accepted = true ∧
        handled.commandId = some commandId ∧ handled.payload = payload) ∧
      (∀ sinkMax', (handleNotification ecb handled.sink sent.out.bytes sinkMax').accepted = false) ∧
      (proxy ≠ [] → ∀ gppShortAddr' gppLink' forwardMax',
        (ZigbeeGpProxy.forward sent.entries gpdf.bytes gppShortAddr' gppLink' forwardMax').out.len =
          0) ∧
      ∀ proxy' gppShortAddr' gppLink' forwardMax' sinkMax',
        (handleNotification ecb handled.sink
          (ZigbeeGpProxy.forward proxy' gpdf.bytes gppShortAddr' gppLink' forwardMax').out.bytes
          sinkMax').accepted = false := by
  obtain ⟨gpdf, hframe⟩ : ∃ gpdf, gpdf = Built.exact
    (securedBytes ecb key false srcId frameCounter (commandId :: payload)) := ⟨_, rfl⟩
  refine ⟨gpdf, ?_, ?_, ?_⟩
  · rw [secure_eq hlen, if_pos hgpdf, hframe]
  · simp only [hframe, Built.exact, securedBytes_length, List.length_cons,
      ZigbeeGreenPower.kHeaderLen, ZigbeeGreenPower.kMicLen]
    omega
  intro sent handled
  have hbytes : gpdf.bytes =
      securedBytes ecb key false srcId frameCounter (commandId :: payload) := by
    rw [hframe, Built.exact_bytes]
  obtain ⟨hnew, hagain⟩ := ZigbeeGpProxy.isDuplicate_fresh hproxy
  have hsent : sent =
      { entries := (ZigbeeGpProxy.isDuplicate proxy srcId frameCounter).1
        clusterCmd := some gpCmdNotification
        out := .exact (notificationBytes
          (notified ecb key srcId frameCounter (commandId :: payload) gppShortAddr gppLink)) } := by
    simp only [sent]
    rw [hbytes, forward_secured hlen, hnew, if_neg Bool.false_ne_true, if_pos hforward]
  obtain ⟨htaken, hrefused⟩ := @handleNotification_once ecb key srcId frameCounter commandId payload
    gppShortAddr gppLink sink e sinkMax hlen hsink hkey hcounter hroom
  have hhandled : handled =
      { sink := (ZigbeeGpSinkTable.checkAndUpdateCounter sink srcId frameCounter).1
        accepted := true, commandId := some commandId, payload := payload } := by
    simp only [handled]
    rw [hsent, Built.exact_bytes, htaken]
  refine ⟨?_, fun sinkMax' => ?_, fun hne gppShortAddr' gppLink' forwardMax' => ?_, ?_⟩
  · rw [hsent, hhandled]
    exact ⟨rfl, rfl, rfl, rfl⟩
  · rw [hhandled, hsent, Built.exact_bytes]
    exact hrefused _ _ _
  · obtain ⟨p, hp, hlast⟩ := hagain hne
    rw [hsent, hbytes, forward_secured hlen,
      ZigbeeGpProxy.isDuplicate_again hp (by rw [hlast]; exact UInt32.le_refl _)]
    rfl
  · intro proxy' gppShortAddr' gppLink' forwardMax' sinkMax'
    rw [hbytes, forward_secured hlen, hhandled]
    have hnothing : ∀ table, (handleNotification ecb table [] sinkMax').accepted = false :=
      fun _ => rfl
    split
    · exact hnothing _
    · split
      · rw [Built.exact_bytes]
        exact hrefused _ _ _
      · exact hnothing _

theorem green_power_end_to_end_commissioned :
    ∃ gpdf, secure Aes128.encrypt 64 gpdKey 0x01234567 1 0x20 [0xDE, 0xAD] = some gpdf ∧
      gpdf.len = 17 ∧
      let sent := ZigbeeGpProxy.forward (ZigbeeGpProxy.begin 4) gpdf.bytes 0x1234 0xE0 64
      let handled := handleNotification Aes128.encrypt commissioned sent.out.bytes 48
      handled.commandId = some 0x20 ∧ handled.payload = [0xDE, 0xAD] := by
  obtain ⟨gpdf, hgpdf, hlen, ⟨_, _, hcommand⟩, _⟩ := @green_power_end_to_end Aes128.encrypt gpdKey
    0x01234567 1 0x20 [0xDE, 0xAD] (by decide) 64 (by decide) (ZigbeeGpProxy.begin 4) (by decide)
    0x1234 0xE0 64 (by decide) commissioned _ rfl rfl (by decide) 48 (by decide)
  exact ⟨gpdf, hgpdf, hlen, hcommand⟩

end EndToEnd

end NiusZigbee
