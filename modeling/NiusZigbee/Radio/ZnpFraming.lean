import NiusZigbee.Library.OutBuffer
import NiusZigbee.Library.Transducer

/-!
# ZNP frames on the UART

The host of a Z-Stack network processor frames its commands with a start byte, a length and an XOR
checksum. One parser takes a whole frame at once, the other a byte at a time into a fixed array;
both agree with the encoder, whatever noise without a start byte lies between the frames.
-/

namespace NiusZigbee

open ByteCodec OutBuffer

/-- Which byte of a frame is expected; `RxState`. -/
inductive ZnpRxState where
  | waitSof
  | len
  | cmd0
  | cmd1
  | data
  | fcs
deriving DecidableEq, Repr

namespace CC2530ZnpRadio

def kSof : UInt8 := 0xFE
def kMaxData : Nat := 250

end CC2530ZnpRadio

/-- The parser's registers and the last frame it completed. -/
structure CC2530ZnpRadio where
  rxState : ZnpRxState := .waitSof
  rxLen : UInt8 := 0
  rxIdx : UInt8 := 0
  rxCmd0 : UInt8 := 0
  rxCmd1 : UInt8 := 0
  rxFcs : UInt8 := 0
  frmCmd0 : UInt8 := 0
  frmCmd1 : UInt8 := 0
  frmLen : UInt8 := 0
  frm : Vector UInt8 CC2530ZnpRadio.kMaxData := Vector.replicate _ 0

/-- What `decodeFrame` stores through its reference arguments. -/
structure ZnpDecoded where
  cmd0 : UInt8 := 0
  cmd1 : UInt8 := 0
  data : Option Nat := none
  dataLen : UInt8 := 0
deriving DecidableEq, Repr

namespace CC2530ZnpRadio

def computeFcs (len cmd0 cmd1 : UInt8) (data : List UInt8) : UInt8 :=
  (data.take len.toNat).foldl (· ^^^ ·) (len ^^^ cmd0 ^^^ cmd1)

def encodeFrame (outMax cmd0 cmd1 : UInt8) (data : List UInt8) : Built :=
  let len := data.length.toUInt8
  if data.length + 5 > outMax.toNat then .fail
  else
    { len := (5 + data.length) % 256
      writes := emit 0 [kSof] ++ emit 1 [len] ++ emit 2 [cmd0] ++ emit 3 [cmd1] ++ emit 4 data ++
        emit (4 + data.length) [computeFcs len cmd0 cmd1 data] }

/-- The commands are stored before the checksum is compared. -/
def decodeFrame (input : List UInt8) (out : ZnpDecoded) : Option (Bool × ZnpDecoded) :=
  if input.length < 5 then some (false, out)
  else do
    let sof ← read8 input 0
    if sof ≠ kSof then return (false, out)
    else
      let len ← read8 input 1
      if len.toNat + 5 ≠ input.length then return (false, out)
      else
        let out := { out with cmd0 := ← read8 input 2, cmd1 := ← read8 input 3 }
        let fcs ← read8 input (4 + len.toNat)
        if computeFcs len out.cmd0 out.cmd1 (input.drop 4) ≠ fcs then return (false, out)
        else return (true, { out with data := some 4, dataLen := len })

/-- One received byte; `none` is a store behind `frm_`. -/
def feed (r : CC2530ZnpRadio) (b : UInt8) : Option (CC2530ZnpRadio × Bool) :=
  match r.rxState with
  | .waitSof => some (if b = kSof then { r with rxState := .len } else r, false)
  | .len => some ({ r with rxLen := b, rxIdx := 0, rxFcs := b, rxState := .cmd0 }, false)
  | .cmd0 => some ({ r with rxCmd0 := b, rxFcs := r.rxFcs ^^^ b, rxState := .cmd1 }, false)
  | .cmd1 =>
      some ({ r with
        rxCmd1 := b, rxFcs := r.rxFcs ^^^ b
        rxState := if r.rxLen > 0 then .data else .fcs }, false)
  | .data =>
      if h : r.rxIdx.toNat < kMaxData then
        some ({ r with
          frm := r.frm.set r.rxIdx.toNat b h, rxIdx := r.rxIdx + 1, rxFcs := r.rxFcs ^^^ b
          rxState := if r.rxIdx + 1 ≥ r.rxLen then .fcs else .data }, false)
      else none
  | .fcs =>
      if b ≠ r.rxFcs then some ({ r with rxState := .waitSof }, false)
      else
        some ({ r with
          rxState := .waitSof, frmCmd0 := r.rxCmd0, frmCmd1 := r.rxCmd1
          frmLen := r.rxLen }, true)

/-- The frame in the registers. -/
structure MtFrame where
  cmd0 : UInt8
  cmd1 : UInt8
  len : UInt8
  data : List UInt8
deriving DecidableEq, Repr

def frame (r : CC2530ZnpRadio) : MtFrame :=
  { cmd0 := r.frmCmd0, cmd1 := r.frmCmd1, len := r.frmLen
    data := r.frm.toList.take r.frmLen.toNat }

/-- A byte fed, and the frame in the registers when `feed` returned true. -/
def observe (r : CC2530ZnpRadio) (b : UInt8) :
    Option (CC2530ZnpRadio × List (Option MtFrame)) := do
  let (r, complete) ← r.feed b
  return (r, [if complete then some r.frame else none])

/-! ## The encoder -/

/-- A frame on the wire. -/
def mtBytes (cmd0 cmd1 : UInt8) (data : List UInt8) : List UInt8 :=
  let len := data.length.toUInt8
  kSof :: len :: cmd0 :: cmd1 :: data ++ [data.foldl (· ^^^ ·) (len ^^^ cmd0 ^^^ cmd1)]

theorem computeFcs_length (cmd0 cmd1 : UInt8) {data rest : List UInt8} (h : data.length < 256) :
    computeFcs data.length.toUInt8 cmd0 cmd1 (data ++ rest) =
      data.foldl (· ^^^ ·) (data.length.toUInt8 ^^^ cmd0 ^^^ cmd1) := by
  rw [computeFcs, toNat_toUInt8 h, List.take_left]

theorem mtBytes_length (cmd0 cmd1 : UInt8) (data : List UInt8) :
    (mtBytes cmd0 cmd1 data).length = 5 + data.length := by
  simp only [mtBytes, List.length_append, List.length_cons, List.length_nil]
  omega

theorem encodeFrame_eq {outMax cmd0 cmd1 : UInt8} {data : List UInt8}
    (h : (encodeFrame outMax cmd0 cmd1 data).len ≠ 0) :
    encodeFrame outMax cmd0 cmd1 data = .exact (mtBytes cmd0 cmd1 data) := by
  have hout := outMax.toNat_lt
  by_cases hmax : data.length + 5 > outMax.toNat
  · exact absurd (by rw [encodeFrame, if_pos hmax, Built.fail_len]) h
  · have hfcs := @computeFcs_length cmd0 cmd1 data [] (by omega)
    rw [List.append_nil] at hfcs
    rw [encodeFrame, if_neg hmax, Built.exact, mtBytes_length, Nat.mod_eq_of_lt (by omega), hfcs]
    simp [mtBytes, emit_append, emit, Nat.add_comm 4]

/-! ## The whole-buffer decoder -/

theorem decodeFrame_mtBytes (cmd0 cmd1 : UInt8) {data : List UInt8} (h : data.length ≤ kMaxData)
    (out : ZnpDecoded) :
    decodeFrame (mtBytes cmd0 cmd1 data) out =
      some (true, { cmd0 := cmd0, cmd1 := cmd1, data := some 4
                    dataLen := data.length.toUInt8 }) := by
  have hcount : data.length < 256 := Nat.lt_of_le_of_lt h (by decide)
  have hlen := mtBytes_length cmd0 cmd1 data
  have h0 : (mtBytes cmd0 cmd1 data)[0]? = some kSof := rfl
  have h1 : (mtBytes cmd0 cmd1 data)[1]? = some data.length.toUInt8 := rfl
  have h2 : (mtBytes cmd0 cmd1 data)[2]? = some cmd0 := rfl
  have h3 : (mtBytes cmd0 cmd1 data)[3]? = some cmd1 := rfl
  have hfcs : (mtBytes cmd0 cmd1 data)[4 + data.length]? =
      some (data.foldl (· ^^^ ·) (data.length.toUInt8 ^^^ cmd0 ^^^ cmd1)) := by
    simp [mtBytes, Nat.add_comm 4]
  have hdrop : (mtBytes cmd0 cmd1 data).drop 4 =
      data ++ [data.foldl (· ^^^ ·) (data.length.toUInt8 ^^^ cmd0 ^^^ cmd1)] := rfl
  have hshort : ¬ (mtBytes cmd0 cmd1 data).length < 5 := by omega
  have hfit : ¬ data.length + 5 ≠ (mtBytes cmd0 cmd1 data).length := by omega
  simp only [decodeFrame, if_neg hshort, read8_eq, h0, h1, h2, h3, Option.bind_eq_bind,
    Option.bind_some, ne_eq, not_true, if_false, toNat_toUInt8 hcount, hfcs, hdrop,
    computeFcs_length cmd0 cmd1 hcount]
  rw [if_neg hfit]
  rfl

/-! ## The byte-at-a-time parser -/

open Transducer

theorem observe_of_feed {r r' : CC2530ZnpRadio} {b : UInt8} (h : r.feed b = some (r', false)) :
    r.observe b = some (r', [none]) := by
  simp [observe, h]

theorem run_noise {r : CC2530ZnpRadio} (hidle : r.rxState = .waitSof) {noise : List UInt8}
    (hnoise : kSof ∉ noise) :
    run observe r noise = some (r, List.replicate noise.length none) := by
  induction noise with
  | nil => rfl
  | cons b noise ih =>
    have hb : b ≠ kSof := fun h => hnoise (by rw [h]; exact List.mem_cons_self)
    have hstep : r.feed b = some (r, false) := by simp [feed, hidle, hb]
    rw [run_cons (observe_of_feed hstep) (ih fun h => hnoise (List.mem_cons_of_mem b h))]
    rfl

theorem run_header {r : CC2530ZnpRadio} (hidle : r.rxState = .waitSof) (len cmd0 cmd1 : UInt8) :
    run observe r [kSof, len, cmd0, cmd1] = some ({ r with
      rxState := if len > 0 then .data else .fcs
      rxLen := len, rxIdx := 0, rxCmd0 := cmd0, rxCmd1 := cmd1, rxFcs := len ^^^ cmd0 ^^^ cmd1 },
      List.replicate 4 none) := by
  have hsof : r.feed kSof = some ({ r with rxState := .len }, false) := by simp [feed, hidle]
  exact run_cons (observe_of_feed hsof) rfl

theorem run_data {r : CC2530ZnpRadio} {rest : List UInt8} (hstate : r.rxState = .data)
    (hne : rest ≠ []) (hlen : r.rxIdx.toNat + rest.length = r.rxLen.toNat)
    (hmax : r.rxLen.toNat ≤ kMaxData) :
    ∃ frm, run observe r rest = some ({ r with
        frm := frm, rxIdx := r.rxLen, rxFcs := rest.foldl (· ^^^ ·) r.rxFcs, rxState := .fcs },
        List.replicate rest.length none) ∧
      frm.toList.take r.rxLen.toNat = r.frm.toList.take r.rxIdx.toNat ++ rest := by
  induction rest generalizing r with
  | nil => exact absurd rfl hne
  | cons b rest ih =>
    rw [List.length_cons] at hlen
    have hbyte := r.rxLen.toNat_lt
    have hroom : r.rxIdx.toNat < kMaxData := by omega
    have hsucc : (r.rxIdx + 1).toNat = r.rxIdx.toNat + 1 := toNat_succ (by omega)
    have htake : (r.frm.set r.rxIdx.toNat b hroom).toList.take (r.rxIdx + 1).toNat =
        r.frm.toList.take r.rxIdx.toNat ++ [b] := by
      rw [hsucc, Vector.toList_set, take_set b (by rwa [Vector.length_toList])]
    by_cases hrest : rest = []
    · subst hrest
      have hfull : r.rxIdx + 1 = r.rxLen := UInt8.toNat_inj.mp (by rw [hsucc]; exact hlen)
      refine ⟨r.frm.set r.rxIdx.toNat b hroom, ?_, ?_⟩
      · refine run_cons (observe_of_feed ?_) rfl
        simp only [feed, hstate, dif_pos hroom, hfull, ge_iff_le, UInt8.le_refl, if_pos,
          List.foldl_cons, List.foldl_nil]
      · rw [← hfull]
        exact htake
    · have hpos := List.length_pos_of_ne_nil hrest
      have hmore : ¬ r.rxIdx + 1 ≥ r.rxLen := by
        rw [ge_iff_le, UInt8.le_iff_toNat_le, hsucc]
        omega
      have hstep : r.feed b = some ({ r with
          frm := r.frm.set r.rxIdx.toNat b hroom, rxIdx := r.rxIdx + 1, rxFcs := r.rxFcs ^^^ b
          rxState := .data }, false) := by
        simp only [feed, hstate, dif_pos hroom, if_neg hmore]
      obtain ⟨frm, hrun, hfrm⟩ := ih (r := { r with
          frm := r.frm.set r.rxIdx.toNat b hroom, rxIdx := r.rxIdx + 1, rxFcs := r.rxFcs ^^^ b
          rxState := .data }) rfl hrest (by dsimp only; omega) hmax
      refine ⟨frm, ?_, ?_⟩
      · rw [run_cons (observe_of_feed hstep) hrun]
        rfl
      · rw [hfrm]
        dsimp only
        rw [htake, List.append_assoc]
        rfl

/-- A frame fed to an idle parser completes at its last byte, and only there. -/
theorem run_mtBytes {r : CC2530ZnpRadio} (hidle : r.rxState = .waitSof) (cmd0 cmd1 : UInt8)
    {data : List UInt8} (hdata : data.length ≤ kMaxData) :
    ∃ r', run observe r (mtBytes cmd0 cmd1 data) = some (r',
        List.replicate (4 + data.length) none ++
          [some { cmd0 := cmd0, cmd1 := cmd1, len := data.length.toUInt8, data := data }]) ∧
      r'.rxState = .waitSof := by
  have hlen : data.length.toUInt8.toNat = data.length :=
    toNat_toUInt8 (Nat.lt_of_le_of_lt hdata (by decide))
  have hheader := run_header hidle data.length.toUInt8 cmd0 cmd1
  -- After the data, the registers hold the frame and wait for its checksum.
  obtain ⟨frm, hgather, hfrm⟩ : ∃ frm,
      run observe { r with
        rxState := if data.length.toUInt8 > 0 then .data else .fcs
        rxLen := data.length.toUInt8, rxIdx := 0, rxCmd0 := cmd0, rxCmd1 := cmd1
        rxFcs := data.length.toUInt8 ^^^ cmd0 ^^^ cmd1 } data =
        some ({ r with
          rxState := .fcs, rxLen := data.length.toUInt8, rxIdx := data.length.toUInt8
          rxCmd0 := cmd0, rxCmd1 := cmd1, frm := frm
          rxFcs := data.foldl (· ^^^ ·) (data.length.toUInt8 ^^^ cmd0 ^^^ cmd1) },
          List.replicate data.length none) ∧
      frm.toList.take data.length = data := by
    by_cases hnil : data = []
    · subst hnil
      exact ⟨r.frm, rfl, rfl⟩
    · have hpos : data.length.toUInt8 > 0 := by
        rw [gt_iff_lt, UInt8.lt_iff_toNat_lt, hlen]
        exact List.length_pos_of_ne_nil hnil
      rw [if_pos hpos]
      obtain ⟨frm, hrun, hfrm⟩ := @run_data { r with
        rxState := .data
        rxLen := data.length.toUInt8, rxIdx := 0, rxCmd0 := cmd0, rxCmd1 := cmd1
        rxFcs := data.length.toUInt8 ^^^ cmd0 ^^^ cmd1 } data rfl hnil
        (by simp [hlen]) (by rw [hlen]; exact hdata)
      rw [hlen] at hfrm
      exact ⟨frm, hrun, hfrm⟩
  have hfcs : ∀ s : CC2530ZnpRadio, s.rxState = .fcs → s.observe s.rxFcs =
      some ({ s with
        rxState := .waitSof, frmCmd0 := s.rxCmd0, frmCmd1 := s.rxCmd1, frmLen := s.rxLen },
        [some { cmd0 := s.rxCmd0, cmd1 := s.rxCmd1, len := s.rxLen
                data := s.frm.toList.take s.rxLen.toNat }]) := by
    intro s hs
    simp [observe, feed, hs, frame]
  have hlast := run_cons (hfcs { r with
      rxState := .fcs, rxLen := data.length.toUInt8, rxIdx := data.length.toUInt8
      rxCmd0 := cmd0, rxCmd1 := cmd1, frm := frm
      rxFcs := data.foldl (· ^^^ ·) (data.length.toUInt8 ^^^ cmd0 ^^^ cmd1) } rfl)
    (rfl : run observe _ [] = some (_, []))
  have hbody := run_append hheader hgather
  rw [List.replicate_append_replicate] at hbody
  have hwhole := run_append hbody hlast
  dsimp only at hwhole
  rw [hlen, hfrm] at hwhole
  exact ⟨_, hwhole, rfl⟩

/-! ## Streams of frames -/

/-- A frame that was encoded, and the noise that went before it. -/
structure Segment where
  noise : List UInt8
  outMax : UInt8
  cmd0 : UInt8
  cmd1 : UInt8
  data : List UInt8

namespace Segment

/-- What the encoder left in its buffer. -/
def bytes (s : Segment) : List UInt8 := (encodeFrame s.outMax s.cmd0 s.cmd1 s.data).bytes

/-- The encoder produced a frame, and no noise byte starts one. -/
def Sent (s : Segment) : Prop :=
  s.data.length ≤ kMaxData ∧ (encodeFrame s.outMax s.cmd0 s.cmd1 s.data).len ≠ 0 ∧
    kSof ∉ s.noise

def frame (s : Segment) : MtFrame :=
  { cmd0 := s.cmd0, cmd1 := s.cmd1, len := s.data.length.toUInt8, data := s.data }

/-- One verdict a byte: the frame at its last byte. -/
def verdicts (s : Segment) : List (Option MtFrame) :=
  List.replicate (s.noise.length + (s.bytes.length - 1)) none ++ [some s.frame]

theorem Sent.bytes_eq {s : Segment} (h : s.Sent) : s.bytes = mtBytes s.cmd0 s.cmd1 s.data := by
  rw [bytes, encodeFrame_eq h.2.1, Built.exact_bytes]

end Segment

/-- The bytes on the UART, up to the noise behind the last frame. -/
def stream (segments : List Segment) (trailing : List UInt8) : List UInt8 :=
  segments.flatMap (fun s => s.noise ++ s.bytes) ++ trailing

theorem run_segment {r : CC2530ZnpRadio} (hidle : r.rxState = .waitSof) {s : Segment}
    (hs : s.Sent) :
    ∃ r', run observe r (s.noise ++ s.bytes) = some (r', s.verdicts) ∧ r'.rxState = .waitSof := by
  obtain ⟨r', hrun, hidle'⟩ := run_mtBytes hidle s.cmd0 s.cmd1 hs.1
  have hlen : s.bytes.length - 1 = 4 + s.data.length := by
    rw [hs.bytes_eq, mtBytes_length]
    omega
  refine ⟨r', ?_, hidle'⟩
  have hwhole := run_append (run_noise hidle hs.2.2) hrun
  rw [← hs.bytes_eq, ← List.append_assoc, List.replicate_append_replicate, ← hlen] at hwhole
  exact hwhole

/-- Over a stream of encoded frames, `feed` returns true at the last byte of each and nowhere else,
with its fields in the registers; the whole-buffer decoder finds the same fields. -/
theorem mt_framing (r : CC2530ZnpRadio) (hidle : r.rxState = .waitSof) (segments : List Segment)
    (hsent : ∀ s ∈ segments, s.Sent) (trailing : List UInt8) (hnoise : kSof ∉ trailing) :
    (∃ r', run observe r (stream segments trailing) = some (r',
        segments.flatMap Segment.verdicts ++ List.replicate trailing.length none)) ∧
      ∀ s ∈ segments, ∀ out, decodeFrame s.bytes out =
          some (true, { cmd0 := s.frame.cmd0, cmd1 := s.frame.cmd1, data := some 4
                        dataLen := s.frame.len }) ∧
        slice s.bytes 4 s.frame.len.toNat = s.frame.data := by
  constructor
  · induction segments generalizing r with
    | nil => exact ⟨r, run_noise hidle hnoise⟩
    | cons s segments ih =>
      obtain ⟨m, hrun, hidle'⟩ := run_segment hidle (hsent s List.mem_cons_self)
      obtain ⟨r', hrest⟩ := ih m hidle' fun t ht => hsent t (List.mem_cons_of_mem s ht)
      refine ⟨r', ?_⟩
      have hwhole := run_append hrun hrest
      rw [stream, List.flatMap_cons, List.flatMap_cons, List.append_assoc, List.append_assoc]
      rw [stream, ← List.append_assoc] at hwhole
      simpa only [List.append_assoc] using hwhole
  · intro s hs out
    have hlen : s.frame.len.toNat = s.data.length :=
      toNat_toUInt8 (Nat.lt_of_le_of_lt (hsent s hs).1 (by decide))
    rw [(hsent s hs).bytes_eq, hlen]
    refine ⟨decodeFrame_mtBytes s.cmd0 s.cmd1 (hsent s hs).1 out, ?_⟩
    exact List.take_left

/-- A ping behind boot noise, and a frame whose data are start bytes. -/
theorem mt_framing_ping :
    let ping : Segment :=
      { noise := [0x00, 0x31], outMax := 255, cmd0 := 0x21, cmd1 := 0x01, data := [] }
    let echo : Segment :=
      { noise := [], outMax := 7, cmd0 := 0x44, cmd1 := 0x81, data := [0xFE, 0xFE] }
    (∃ r', run observe {} (stream [ping, echo] [0x0A]) = some (r',
        List.replicate 6 none ++ [some ping.frame] ++ List.replicate 6 none ++
          [some echo.frame, none])) ∧
      decodeFrame echo.bytes {} =
        some (true, { cmd0 := 0x44, cmd1 := 0x81, data := some 4, dataLen := 2 }) := by
  intro ping echo
  have hsent : ∀ s ∈ [ping, echo], s.Sent := by
    intro s hs
    rcases List.mem_pair.mp hs with rfl | rfl
    · exact ⟨by decide, by decide, by decide⟩
    · exact ⟨by decide, by decide, by decide⟩
  have h := mt_framing {} rfl [ping, echo] hsent [0x0A] (by decide)
  exact ⟨h.1, (h.2 echo (by simp) {}).1⟩

end CC2530ZnpRadio

end NiusZigbee
