import NiusZigbee.Radio.Firmware
import NiusZigbee.Radio.SecurityGate
import NiusZigbee.Radio.Uart

/-!
# Host and firmware on one UART

Both sides frame a body the same way, so each parser takes what the other side sends. The host
drains a half-received frame out of the firmware with zero bytes.
-/

namespace NiusZigbee.CC2530Radio

open ByteCodec Transducer

/-! ## Firmware to host -/

theorem firmware_sendFrame_eq (resp : UInt8) (d : List UInt8) :
    Firmware.sendFrame resp d = uartFrame (resp :: d) := sendFrame_eq resp d

theorem forwardRx_eq {psdu : List UInt8} {rssi lqi : UInt8} (hlen : psdu.length + 2 ≤ 127) :
    Firmware.forwardRx (psdu ++ [rssi, lqi]) = some (uartFrame (rxBody rssi lqi psdu)) := by
  have hsize : (psdu ++ [rssi, lqi]).length = psdu.length + 2 := List.length_append
  have htoNat : (psdu ++ [rssi, lqi]).length.toUInt8.toNat = psdu.length + 2 := by
    rw [hsize, toNat_toUInt8 (by omega)]
  have hge : ¬ (psdu ++ [rssi, lqi]).length.toUInt8 < 2 := by
    rw [UInt8.lt_iff_toNat_lt, htoNat]
    exact Nat.not_lt.mpr (Nat.le_add_left 2 _)
  have hbody : (psdu ++ [rssi, lqi]).length.toUInt8 + 1 =
      (rxBody rssi lqi psdu).length.toUInt8 := by
    apply UInt8.toNat_inj.mp
    have hrx : (rxBody rssi lqi psdu).length = psdu.length + 3 := rfl
    rw [toNat_succ (by omega), htoNat, hrx, toNat_toUInt8 (by omega)]
  have hrssi : (psdu ++ [rssi, lqi])[psdu.length]? = some rssi := by simp
  have hlqi : (psdu ++ [rssi, lqi])[psdu.length + 1]? = some lqi := by simp
  have htake : (psdu ++ [rssi, lqi]).take psdu.length = psdu := List.take_left
  simp only [Firmware.forwardRx, if_neg hge, htoNat, read8_eq, Nat.add_sub_cancel,
    show psdu.length + 2 - 1 = psdu.length + 1 from rfl, hrssi, hlqi, htake, hbody,
    Option.bind_eq_bind, Option.bind_some, Option.pure_def]
  rfl

/-- What `waitResp` and its callers read. -/
def answer (r : CC2530Radio) : Bool × UInt8 × UInt8 × List UInt8 × UInt16 :=
  (r.respReady, r.respCmd, r.respLen, r.respData, r.version)

variable {ecb : BlockCipher} {r : CC2530Radio}

theorem receiveFrame_response {resp : UInt8} {d : List UInt8} (hbuf : r.buf = resp :: d)
    (hlenField : r.len = (resp :: d).length.toUInt8) (hlen : d.length ≤ 16)
    (hresp : resp ≠ rspRxFrame) :
    ∃ version, r.receiveFrame ecb = some ({ r with version := version }.keepResponse resp, []) ∧
      ((resp = rspResetInd ∨ resp = rspPong) → ∀ hi lo, d = [hi, lo] → version = join16 lo hi) := by
  have hsize : (resp :: d).length.toUInt8.toNat = d.length + 1 := by
    rw [toNat_toUInt8 (by rw [List.length_cons]; omega), List.length_cons]
  by_cases hversion : (resp = rspResetInd ∨ resp = rspPong) ∧ r.len ≥ 3
  · have hthree : 3 ≤ d.length + 1 := by
      rw [← hsize, ← hlenField]
      exact UInt8.le_iff_toNat_le.mp hversion.2
    have hhi : 0 < d.length := by omega
    have hlo : 1 < d.length := by omega
    refine ⟨join16 d[1] d[0], ?_, ?_⟩
    · have h1 : (resp :: d)[1]? = some d[0] := List.getElem?_eq_getElem hhi
      have h2 : (resp :: d)[2]? = some d[1] := List.getElem?_eq_getElem hlo
      simp only [receiveFrame, read8_eq, hbuf, List.getElem?_cons_zero, h1, h2, Option.bind_eq_bind,
        Option.bind_some, if_neg hresp, if_pos hversion, Option.pure_def]
    · rintro - hi lo rfl
      rfl
  · refine ⟨r.version, ?_, ?_⟩
    · have h0 : r.buf[0]? = some resp := by rw [hbuf, List.getElem?_cons_zero]
      simp only [receiveFrame, read8_eq, h0, Option.bind_eq_bind, Option.bind_some, if_neg hresp,
        if_neg hversion, Option.pure_def]
    · rintro hcode hi lo rfl
      refine absurd ⟨hcode, ?_⟩ hversion
      rw [hlenField, ge_iff_le, UInt8.le_iff_toNat_le, hsize]
      exact Nat.le_refl 3

/-- What `send_frame` sends is kept when its last byte arrives, and not before. -/
theorem run_response {resp : UInt8} {d : List UInt8} (hidle : r.state = .sof)
    (hresp : resp ≠ rspRxFrame) (hlen : d.length ≤ 16) :
    (∃ q, run (feed ecb) r (Firmware.sendFrame resp d).dropLast = some (q, []) ∧
      q.answer = r.answer) ∧
    ∃ r', run (feed ecb) r (Firmware.sendFrame resp d) = some (r', []) ∧ r'.state = .sof ∧
      r'.respReady = true ∧ r'.respCmd = resp ∧ r'.respLen.toNat = d.length ∧
      r'.respData.take d.length = d ∧
      ((resp = rspResetInd ∨ resp = rspPong) → ∀ hi lo, d = [hi, lo] →
        r'.version = join16 lo hi) := by
  rw [firmware_sendFrame_eq]
  have hbody : (resp :: d).length ≤ 140 := by
    rw [List.length_cons]
    omega
  have hne : resp :: d ≠ [] := List.cons_ne_nil _ _
  obtain ⟨version, hframe, hversion⟩ := receiveFrame_response (d := d) (r := { r with
    len := (resp :: d).length.toUInt8, buf := resp :: d, state := .sof
    fcs := (resp :: d).foldl (· ^^^ ·) (resp :: d).length.toUInt8 }) rfl rfl hlen hresp
  have hkept : (resp :: d).length.toUInt8 - 1 = d.length.toUInt8 := by
    simp [UInt8.ofNat_add]
  refine ⟨⟨_, run_uartFrame_body hidle hne hbody, rfl⟩,
    _, run_uartFrame hidle hne hbody hframe, rfl, rfl, rfl, ?_, ?_, hversion⟩
  · simp only [keepResponse, hkept]
    exact toNat_toUInt8 (by omega)
  · simp only [keepResponse, List.drop_one, List.tail_cons]
    rw [List.take_of_length_le hlen, List.take_left]

/-! ## The raw callback -/

def Event.isRx : Event → Bool
  | .rx .. => true
  | _ => false

theorem About.filter_isRx {mac : Parsed ZigbeeMac.MacDataFrame} {npdu : List UInt8}
    {events : List Event} (h : About mac npdu events) : events.filter Event.isRx = [] := by
  apply List.filter_eq_nil_iff.mpr
  intro e he
  have hnpdu := h e he
  cases e with
  | rx => cases hnpdu
  | _ => exact Bool.false_ne_true

variable (ecb) (rssi : Int8) (lqi : UInt8)

theorem receiveData_filter (mac : Parsed ZigbeeMac.MacDataFrame) : ∃ r' events,
    r.receiveData ecb mac rssi lqi = some (r', events) ∧ r'.state = r.state ∧
      events.filter Event.isRx = [] := by
  have hstate : (r.openReceived ecb (mac.frame.payloadBytes mac.bytes)).1.state = r.state := by
    obtain ⟨security, hkeeps, -⟩ :=
      openReceived_keeps (r := r) ecb (mac.frame.payloadBytes mac.bytes)
    rw [hkeeps]
  have hdata :
      (if r.callbacks.data then [Event.data mac rssi lqi] else []).filter Event.isRx = [] := by
    split <;> rfl
  simp only [receiveData]
  cases hopen : r.openReceived ecb (mac.frame.payloadBytes mac.bytes) with
  | mk r' result =>
    rw [hopen] at hstate
    cases result with
    | none => exact ⟨r', _, rfl, hstate, hdata⟩
    | some npdu =>
      obtain ⟨nwk, hnwk, hnwkAbout, -⟩ := r'.dispatchNwk_about mac rssi lqi npdu
      obtain ⟨command, hcommand, hcommandAbout, -⟩ := r'.dispatchNwkCommand_about mac rssi lqi npdu
      simp only [hnwk, hcommand, Option.bind_eq_bind, Option.bind_some]
      refine ⟨r', _, rfl, hstate, ?_⟩
      rw [List.filter_append, List.filter_append, hdata, hnwkAbout.filter_isRx,
        hcommandAbout.filter_isRx]
      rfl

theorem receiveOther_filter (psdu : List UInt8) : ∃ events,
    r.receiveOther rssi lqi psdu = some events ∧ events.filter Event.isRx = [] := by
  obtain ⟨command, hcommand⟩ := ZigbeeMac.parseCommandFrame_isSome psdu
  obtain ⟨beacon, hbeacon⟩ := ZigbeeMac.parseBeacon_isSome psdu
  simp only [receiveOther, hcommand, hbeacon, Option.bind_eq_bind, Option.bind_some,
    Option.pure_def]
  cases r.callbacks.macCommand <;> cases r.callbacks.beacon <;> cases command.1 <;>
    cases beacon.1 <;> exact ⟨_, rfl, rfl⟩

/-- The raw callback runs once for a PSDU, whatever the layers above make of it. -/
theorem receivePsdu_filter (psdu : List UInt8) : ∃ r' events,
    r.receivePsdu ecb rssi lqi psdu = some (r', events) ∧ r'.state = r.state ∧
      events.filter Event.isRx = if r.callbacks.rx then [.rx psdu rssi lqi] else [] := by
  have hrx : ∀ events : List Event, events.filter Event.isRx = [] →
      ((if r.callbacks.rx then [Event.rx psdu rssi lqi] else []) ++ events).filter Event.isRx =
        if r.callbacks.rx then [.rx psdu rssi lqi] else [] := by
    intro events hevents
    rw [List.filter_append, hevents, List.append_nil]
    split <;> rfl
  simp only [receivePsdu]
  split
  · obtain ⟨⟨ok, frame⟩, hparse⟩ := ZigbeeMac.parseShortDataFrame_isSome psdu
    simp only [hparse, Option.bind_eq_bind, Option.bind_some]
    cases ok with
    | false =>
      obtain ⟨events, hevents, hfilter⟩ := receiveOther_filter (r := r) rssi lqi psdu
      simp only [hevents, Bool.false_eq_true, if_false, Option.bind_some]
      exact ⟨r, _, rfl, rfl, hrx events hfilter⟩
    | true =>
      obtain ⟨r', events, hevents, hstate, hfilter⟩ :=
        receiveData_filter (r := r) ecb rssi lqi ⟨psdu, frame⟩
      simp only [hevents, if_true, Option.bind_some]
      exact ⟨r', _, rfl, hstate, hrx events hfilter⟩
  · exact ⟨r, _, rfl, rfl, by simpa using hrx [] rfl⟩

/-- What `forward_rx` sends reaches the raw callback when its last byte arrives, and not before. -/
theorem run_forwardRx {psdu bytes : List UInt8} {rssi lqi : UInt8} (hidle : r.state = .sof)
    (hlen : psdu.length + 2 ≤ 127)
    (hbytes : Firmware.forwardRx (psdu ++ [rssi, lqi]) = some bytes) :
    (∃ q, run (feed ecb) r bytes.dropLast = some (q, [])) ∧
    ∃ r' events, run (feed ecb) r bytes = some (r', events) ∧ r'.state = .sof ∧
      events.filter Event.isRx =
        if r.callbacks.rx then [.rx psdu (rssi.toInt8 - rssiOffset) lqi] else [] := by
  rw [forwardRx_eq hlen] at hbytes
  cases hbytes
  have hbody : (rxBody rssi lqi psdu).length ≤ 140 := by
    have hrx : (rxBody rssi lqi psdu).length = psdu.length + 3 := rfl
    omega
  have hne : rxBody rssi lqi psdu ≠ [] := List.cons_ne_nil _ _
  let q : CC2530Radio := { r with
    len := (rxBody rssi lqi psdu).length.toUInt8, buf := rxBody rssi lqi psdu, state := .sof
    fcs := (rxBody rssi lqi psdu).foldl (· ^^^ ·) (rxBody rssi lqi psdu).length.toUInt8 }
  have hframe : q.receiveFrame ecb = q.receivePsdu ecb (rssi.toInt8 - rssiOffset) lqi psdu :=
    receiveFrame_rx (by omega) rfl rfl
  obtain ⟨r', events, hpsdu, hstate, hfilter⟩ :=
    receivePsdu_filter (r := q) ecb (rssi.toInt8 - rssiOffset) lqi psdu
  exact ⟨⟨_, run_uartFrame_body hidle hne hbody⟩,
    r', events, run_uartFrame hidle hne hbody (hframe.trans hpsdu), hstate, hfilter⟩

/-! ## Host to firmware -/

theorem run_command {p : Firmware.Parser} {cmd : UInt8} {data : List UInt8} (hidle : p.st = .sof)
    (hlen : data.length ≤ 126) :
    ∃ p', run Firmware.Parser.step p (sendFrame cmd data) = some (p', [⟨cmd, data⟩]) ∧
      p'.st = .sof := by
  rw [sendFrame_eq]
  exact Firmware.Parser.run_frame hidle (by omega)

/-! ## The receive buffer -/

/-- While a frame is gathered, its length fits the buffer. -/
def Fits (r : CC2530Radio) : Prop :=
  match r.state with
  | .sof | .len => True
  | .data | .fcs => r.len.toNat ≤ 140

theorem feed_fits (hframed : r.Framed) (hfits : r.Fits) (b : UInt8) :
    ∃ r' events, r.feed ecb b = some (r', events) ∧ r'.Framed ∧ r'.Fits := by
  obtain ⟨r', events, hfeed, hframed', -⟩ := feed_gated ecb hframed b
  refine ⟨r', events, hfeed, hframed', ?_⟩
  simp only [feed] at hfeed
  cases hstate : r.state with
  | sof =>
    simp only [hstate, Option.some.injEq, Prod.mk.injEq] at hfeed
    obtain ⟨rfl, -⟩ := hfeed
    by_cases hb : b = sofByte <;> simp [Fits, hb]
  | len =>
    simp only [hstate, Option.some.injEq, Prod.mk.injEq] at hfeed
    obtain ⟨rfl, -⟩ := hfeed
    by_cases hb : b = 0 ∨ b > kBufSize
    · simp [Fits, hb]
    · have hle : b.toNat ≤ 140 := Nat.not_lt.mp fun h => hb (.inr (UInt8.lt_iff_toNat_lt.mpr h))
      simpa [Fits, hb] using hle
  | data =>
    simp only [hstate, Option.some.injEq, Prod.mk.injEq] at hfeed
    obtain ⟨rfl, -⟩ := hfeed
    simp only [Fits, hstate] at hfits
    simp only [Fits]
    split <;> trivial
  | fcs =>
    simp only [Framed, hstate] at hframed
    obtain ⟨q, out, hq, hsame, -⟩ :=
      receiveFrame_gated (r := { r with state := .sof }) ecb hframed.1 hframed.2
    simp only [hstate] at hfeed
    have hidle : r'.state = .sof := by
      split at hfeed
      · cases hfeed
        rfl
      · rw [hq] at hfeed
        cases hfeed
        exact hsame
    simp only [Fits, hidle]

theorem run_fits (hidle : r.state = .sof) (bytes : List UInt8) :
    ∃ r' events, run (feed ecb) r bytes = some (r', events) ∧ r'.Framed ∧ r'.Fits := by
  have hstart : r.Framed ∧ r.Fits := by simp [Framed, Fits, hidle]
  have hstep : ∀ (r : CC2530Radio) b, r.Framed ∧ r.Fits →
      ∃ r' events, r.feed ecb b = some (r', events) ∧ r'.Framed ∧ r'.Fits := by
    rintro r b ⟨hframed, hfits⟩
    exact feed_fits ecb hframed hfits b
  exact run_invariant (I := fun r => Framed r ∧ Fits r) hstep hstart bytes

/-! ## Both directions -/

/-- The host's frames reach the firmware's command chain, and the firmware's frames the host, each
once and with both parsers idle again. Whatever bytes come in, the firmware parser stays inside
`cmd` and zero bytes make it idle, and the host parser stores below its buffer's end and reads only
what it stored. -/
theorem uart_protocol :
    (∀ (p : Firmware.Parser) (cmd : UInt8) (data : List UInt8), p.st = .sof → data.length ≤ 126 →
      ∃ p', run Firmware.Parser.step p (sendFrame cmd data) = some (p', [⟨cmd, data⟩]) ∧
        p'.st = .sof) ∧
    (∀ (r : CC2530Radio) (resp : Firmware.Response), r.state = .sof →
      let frame := Firmware.sendFrame resp.code resp.data
      (∃ q, run (feed ecb) r frame.dropLast = some (q, []) ∧ q.answer = r.answer) ∧
      ∃ r', run (feed ecb) r frame = some (r', []) ∧ r'.state = .sof ∧
        r'.respReady = true ∧ r'.respCmd = resp.code ∧ r'.respLen.toNat = resp.data.length ∧
        r'.respData.take resp.data.length = resp.data ∧
        ((resp.code = rspResetInd ∨ resp.code = rspPong) → ∀ hi lo, resp.data = [hi, lo] →
          r'.version = join16 lo hi)) ∧
    (∀ (r : CC2530Radio) (psdu : List UInt8) (rssi lqi : UInt8), r.state = .sof →
      psdu.length + 2 ≤ 127 →
      ∃ frame, Firmware.forwardRx (psdu ++ [rssi, lqi]) = some frame ∧
        (∃ q, run (feed ecb) r frame.dropLast = some (q, [])) ∧
        ∃ r' events, run (feed ecb) r frame = some (r', events) ∧ r'.state = .sof ∧
          events.filter Event.isRx =
            if r.callbacks.rx then [.rx psdu (rssi.toInt8 - rssiOffset) lqi] else []) ∧
    (∀ (p : Firmware.Parser) (bytes : List UInt8), p.st = .sof →
      ∃ p' out, run Firmware.Parser.step p bytes = some (p', out) ∧
        ∃ q out', run Firmware.Parser.step p' (List.replicate 140 0) = some (q, out') ∧
          q.st = .sof) ∧
    ∀ (r : CC2530Radio) (bytes : List UInt8), r.state = .sof →
      ∃ r' events, run (feed ecb) r bytes = some (r', events) ∧
        (r'.state = .data → r'.buf.length < 140) ∧ (r'.state = .fcs → r'.buf.length ≤ 140) := by
  refine ⟨fun p cmd data hidle hlen => run_command hidle hlen, ?_, ?_, ?_, ?_⟩
  · intro r resp hidle
    have hlen := resp.data_length
    have hcode : resp.code ≠ rspRxFrame := by
      cases resp <;> simp [Firmware.Response.code, rspRxFrame]
    exact run_response hidle hcode (by omega)
  · intro r psdu rssi lqi hidle hlen
    exact ⟨_, forwardRx_eq hlen, run_forwardRx ecb hidle hlen (forwardRx_eq hlen)⟩
  · intro p bytes hidle
    have hsound : p.Sound := fun hdata => by rw [hidle] at hdata; cases hdata
    obtain ⟨p', out, hrun, hsound'⟩ := Firmware.Parser.run_sound hsound bytes
    exact ⟨p', out, hrun, Firmware.Parser.run_zeros hsound' (by omega)⟩
  · intro r bytes hidle
    obtain ⟨r', events, hrun, hframed, hfits⟩ := run_fits ecb hidle bytes
    refine ⟨r', events, hrun, fun hdata => ?_, fun hfcs => ?_⟩
    · simp only [Framed, Fits, hdata] at hframed hfits
      omega
    · simp only [Framed, Fits, hfcs] at hframed hfits
      omega

end NiusZigbee.CC2530Radio
