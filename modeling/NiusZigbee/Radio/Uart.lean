import NiusZigbee.Radio.Driver

/-!
# One frame on the UART

Fed the bytes of a frame from its idle state, the parser gathers the body and hands it on once.
-/

namespace NiusZigbee.CC2530Radio

open Transducer

def sendFrame (cmd : UInt8) (data : List UInt8) : List UInt8 :=
  let n := data.length.toUInt8
  sofByte :: (n + 1) :: cmd :: data ++ [data.foldl (· ^^^ ·) ((n + 1) ^^^ cmd)]

/-- A frame as the module sends it: SOF, length, body, and the XOR of length and body. -/
def uartFrame (body : List UInt8) : List UInt8 :=
  let len := body.length.toUInt8
  sofByte :: len :: body ++ [body.foldl (· ^^^ ·) len]

theorem uartFrame_dropLast (body : List UInt8) :
    (uartFrame body).dropLast = sofByte :: body.length.toUInt8 :: body := List.dropLast_concat

/-- The body of a received frame: RSSI, LQI, PSDU. -/
def rxBody (rssi lqi : UInt8) (psdu : List UInt8) : List UInt8 := rspRxFrame :: rssi :: lqi :: psdu

theorem sendFrame_eq (cmd : UInt8) (data : List UInt8) :
    sendFrame cmd data = uartFrame (cmd :: data) := by
  simp [sendFrame, uartFrame, UInt8.ofNat_add]

variable {ecb : BlockCipher} {r : CC2530Radio}

theorem run_data {rest : List UInt8} (hstate : r.state = .data) (hne : rest ≠ [])
    (hlen : r.buf.length + rest.length = r.len.toNat) :
    run (feed ecb) r rest = some ({ r with
      buf := r.buf ++ rest, fcs := rest.foldl (· ^^^ ·) r.fcs, state := .fcs }, []) := by
  induction rest generalizing r with
  | nil => exact absurd rfl hne
  | cons b rest ih =>
    simp only [List.length_cons] at hlen
    by_cases hrest : rest = []
    · subst hrest
      simp only [List.length_nil] at hlen
      have hfull : (r.buf ++ [b]).length ≥ r.len.toNat := by
        rw [List.length_append, List.length_singleton]
        omega
      simp only [run, feed, hstate, if_pos hfull, Option.bind_eq_bind, Option.bind_some,
        Option.pure_def, List.foldl_cons, List.foldl_nil, List.append_nil]
    · have hpos := List.length_pos_of_ne_nil hrest
      have hmore : ¬ (r.buf ++ [b]).length ≥ r.len.toNat := by
        rw [List.length_append, List.length_singleton]
        omega
      have hstep : r.feed ecb b = some ({ r with
          buf := r.buf ++ [b], fcs := r.fcs ^^^ b, state := .data }, []) := by
        simp only [feed, hstate, if_neg hmore]
      have hnext := ih (r := { r with buf := r.buf ++ [b], fcs := r.fcs ^^^ b, state := .data }) rfl
        hrest (by simp only [List.length_append, List.length_singleton]; omega)
      rw [run_cons hstep hnext]
      simp

theorem run_uartFrame_body {body : List UInt8} (hidle : r.state = .sof) (hne : body ≠ [])
    (hlen : body.length ≤ 140) :
    run (feed ecb) r (uartFrame body).dropLast = some ({ r with
      len := body.length.toUInt8, buf := body, state := .fcs
      fcs := body.foldl (· ^^^ ·) body.length.toUInt8 }, []) := by
  have htoNat : body.length.toUInt8.toNat = body.length :=
    ByteCodec.toNat_toUInt8 (by omega)
  have hpos := List.length_pos_of_ne_nil hne
  have hzero : ¬ (body.length.toUInt8 = 0 ∨ body.length.toUInt8 > kBufSize) := by
    rintro (h | h)
    · rw [h] at htoNat
      simp only [UInt8.toNat_zero] at htoNat
      omega
    · have := UInt8.lt_iff_toNat_lt.mp h
      rw [htoNat] at this
      exact absurd this (Nat.not_lt.mpr hlen)
  have hsof : r.feed ecb sofByte = some ({ r with state := .len }, []) := by
    simp [feed, hidle]
  have hlenStep : feed ecb { r with state := .len } body.length.toUInt8 = some ({ r with
      len := body.length.toUInt8, buf := [], fcs := body.length.toUInt8, state := .data }, []) := by
    simp only [feed, if_neg hzero]
  have hbody : run (feed ecb) { r with
      len := body.length.toUInt8, buf := [], fcs := body.length.toUInt8, state := .data } body =
      some ({ r with
        len := body.length.toUInt8, buf := [] ++ body, state := .fcs
        fcs := body.foldl (· ^^^ ·) body.length.toUInt8 }, []) :=
    run_data rfl hne (by simp [htoNat])
  rw [uartFrame_dropLast]
  exact run_cons hsof (run_cons hlenStep hbody)

/-- A frame fed to an idle parser is received once, with nothing before it. -/
theorem run_uartFrame {body : List UInt8} (hidle : r.state = .sof) (hne : body ≠ [])
    (hlen : body.length ≤ 140) {r' : CC2530Radio} {events : List Event}
    (hframe : receiveFrame ecb { r with
      len := body.length.toUInt8, buf := body, state := .sof
      fcs := body.foldl (· ^^^ ·) body.length.toUInt8 } = some (r', events)) :
    run (feed ecb) r (uartFrame body) = some (r', events) := by
  have hbody : run (feed ecb) r (uartFrame body).dropLast = some ({ r with
      len := body.length.toUInt8, buf := body, state := .fcs
      fcs := body.foldl (· ^^^ ·) body.length.toUInt8 }, []) :=
    run_uartFrame_body hidle hne hlen
  have hfcs : feed ecb { r with
      len := body.length.toUInt8, buf := body, state := .fcs
      fcs := body.foldl (· ^^^ ·) body.length.toUInt8 } (body.foldl (· ^^^ ·) body.length.toUInt8) =
      some (r', events) := by
    simpa only [feed, ne_eq, not_true_eq_false, if_false] using hframe
  have hlast := run_cons hfcs (rfl : run (feed ecb) r' [] = some (r', []))
  have hsplit : (uartFrame body).dropLast ++ [body.foldl (· ^^^ ·) body.length.toUInt8] =
      uartFrame body := by
    rw [uartFrame_dropLast]
    rfl
  rw [← hsplit]
  simpa using run_append hbody hlast

theorem receiveFrame_rx {rssi lqi : UInt8} {psdu : List UInt8} (hlen : psdu.length ≤ 137)
    (hbuf : r.buf = rxBody rssi lqi psdu)
    (hlenField : r.len = (rxBody rssi lqi psdu).length.toUInt8) :
    r.receiveFrame ecb = r.receivePsdu ecb (rssi.toInt8 - rssiOffset) lqi psdu := by
  have hge : r.len ≥ 3 := by
    have h : (rxBody rssi lqi psdu).length = psdu.length + 3 := rfl
    rw [hlenField, h, ge_iff_le, UInt8.le_iff_toNat_le]
    rw [ByteCodec.toNat_toUInt8 (by omega : psdu.length + 3 < 256)]
    exact Nat.le_add_left _ _
  simp [receiveFrame, hbuf, rxBody, hge]

end NiusZigbee.CC2530Radio
