import NiusZigbee.Library.ByteCodec
import NiusZigbee.Library.Transducer

/-!
# The UART side of the CC2530 firmware

The main loop parses one byte at a time into `cmd`, checksum included, and hands a checked frame to
the command chain. Responses and received frames go out through `send_frame` and `forward_rx`.
-/

namespace NiusZigbee.Firmware

open ByteCodec Transducer

def sofByte : UInt8 := 0xFE

/-! ## Sending -/

def sendFrame (resp : UInt8) (d : List UInt8) : List UInt8 :=
  let n := d.length.toUInt8
  sofByte :: (n + 1) :: resp :: d ++ [d.foldl (· ^^^ ·) ((n + 1) ^^^ resp)]

def rspRxFrame : UInt8 := 0x84

/-- `rxbuf` up to `rlen`: the PSDU, then RSSI and CRC or LQI. `none` reads before `rxbuf`. -/
def forwardRx (rxbuf : List UInt8) : Option (List UInt8) := do
  let rlen := rxbuf.length.toUInt8
  if rlen < 2 then none
  else
    let rssi ← read8 rxbuf (rlen.toNat - 2)
    let lqi ← read8 rxbuf (rlen.toNat - 1)
    let psdu := rxbuf.take (rlen.toNat - 2)
    let fcs := psdu.foldl (· ^^^ ·) ((((rlen + 1) ^^^ rspRxFrame) ^^^ rssi) ^^^ lqi)
    return sofByte :: (rlen + 1) :: rspRxFrame :: rssi :: lqi :: psdu ++ [fcs]

/-- What the firmware passes to `send_frame`. -/
inductive Response where
  | resetInd
  | pong
  | ok
  | txStat (status attempts : UInt8)
  | macInfo (flags retries : UInt8) (panId shortAddress : UInt16) (ieee : UInt64)
  | stats (retx noack : UInt16)
  | edResult (channel peak : UInt8)
deriving DecidableEq, Repr

def fwVerHi : UInt8 := 0
def fwVerLo : UInt8 := 10

def Response.code : Response → UInt8
  | .resetInd => 0x80
  | .pong => 0x81
  | .ok => 0x82
  | .txStat .. => 0x83
  | .macInfo .. => 0x85
  | .stats .. => 0x86
  | .edResult .. => 0x87

def Response.data : Response → List UInt8
  | .resetInd | .pong => [fwVerHi, fwVerLo]
  | .ok => []
  | .txStat status attempts => [status, attempts]
  | .macInfo flags retries panId shortAddress ieee =>
    flags :: retries :: le16 panId ++ le16 shortAddress ++ le64 ieee
  | .stats retx noack => le16 retx ++ le16 noack
  | .edResult channel peak => [channel, peak]

/-- `tmp` holds 16 bytes; no response carries more than 14. -/
theorem Response.data_length (resp : Response) : resp.data.length ≤ 14 := by
  cases resp <;> simp [data]

/-! ## Receiving -/

/-- `st` 0 to 2. -/
inductive ParserState where
  | sof
  | len
  | data
deriving DecidableEq, Repr

structure Parser where
  st : ParserState := .sof
  ln : UInt8 := 0
  idx : UInt8 := 0
  cmd : Vector UInt8 140
deriving DecidableEq

/-- A checked frame, as the command chain gets it. -/
structure Command where
  cc : UInt8
  data : List UInt8
deriving DecidableEq, Repr

namespace Parser

/-- `cmd[idx++]=c`; `none` is a store outside `cmd`. -/
def store (p : Parser) (c : UInt8) : Option Parser :=
  if h : p.idx.toNat < 140 then some { p with cmd := p.cmd.set p.idx.toNat c, idx := p.idx + 1 }
  else none

/-- The checksum of the gathered frame, and the command when it holds. -/
def checked (p : Parser) : Option (List Command) := do
  let cc ← read8 p.cmd.toList 0
  let fcs ← read8 p.cmd.toList p.ln.toNat
  let body := p.cmd.toList.take p.ln.toNat
  return if body.foldl (· ^^^ ·) p.ln = fcs then [⟨cc, body.drop 1⟩] else []

def step (p : Parser) (c : UInt8) : Option (Parser × List Command) :=
  match p.st with
  | .sof => some ({ p with st := if c = sofByte then .len else .sof }, [])
  | .len =>
    some ({ p with
      ln := c
      idx := 0
      st := if c = 0 ∨ c > 137 then .sof else .data }, [])
  | .data => do
    let p ← p.store c
    if p.idx.toNat ≥ p.ln.toNat + 1 then return ({ p with st := .sof }, ← p.checked)
    else return (p, [])

/-- The parser has stored `body` from the start of `cmd` on, and nothing after it. -/
def Gathered (p : Parser) (body : List UInt8) : Prop :=
  p.st = .data ∧ p.idx.toNat = body.length ∧ p.cmd.toList.take body.length = body

variable {p : Parser} {body : List UInt8}

theorem store_gathered (h : p.Gathered body) (hroom : body.length < 140) (c : UInt8) :
    ∃ p', p.store c = some p' ∧ p'.ln = p.ln ∧ p'.Gathered (body ++ [c]) := by
  obtain ⟨hst, hidx, hcmd⟩ := h
  have hlt : p.idx.toNat < 140 := hidx ▸ hroom
  refine ⟨_, dif_pos hlt, rfl, hst, ?_, ?_⟩
  · rw [List.length_append, List.length_singleton, ← hidx]
    exact toNat_succ (by omega)
  · have hlen : p.cmd.toList.length = 140 := p.cmd.length_toList
    rw [Vector.toList_set, hidx, List.length_append, List.length_singleton, List.take_add_one,
      List.take_set_of_le (Nat.le_refl _), hcmd, List.getElem?_set_self (by omega)]
    rfl

theorem run_gathered {rest : List UInt8} (h : p.Gathered body) (hln : p.ln.toNat ≤ 137)
    (hlen : body.length + rest.length ≤ p.ln.toNat) :
    ∃ p', run step p rest = some (p', []) ∧ p'.ln = p.ln ∧ p'.Gathered (body ++ rest) := by
  induction rest generalizing p body with
  | nil => exact ⟨p, rfl, rfl, by rwa [List.append_nil]⟩
  | cons c rest ih =>
    simp only [List.length_cons] at hlen
    obtain ⟨q, hstore, hq, hgathered⟩ := store_gathered h (by omega) c
    have hmore : ¬ q.idx.toNat ≥ q.ln.toNat + 1 := by
      rw [hgathered.2.1, hq, List.length_append, List.length_singleton]
      omega
    have hstep : p.step c = some (q, []) := by
      simp only [step, h.1, hstore, Option.bind_eq_bind, Option.bind_some, if_neg hmore]
      rfl
    obtain ⟨p', hrun, hp', hall⟩ := ih hgathered (by rwa [hq])
      (by rw [hq, List.length_append, List.length_singleton]; omega)
    refine ⟨p', by simpa using run_cons hstep hrun, hp'.trans hq, ?_⟩
    rwa [List.append_assoc] at hall

theorem step_checksum {cc : UInt8} {data : List UInt8} (h : p.Gathered (cc :: data))
    (hln : p.ln.toNat ≤ 137) (hlen : data.length + 1 = p.ln.toNat) (c : UInt8) :
    ∃ p', p.step c = some (p', if (cc :: data).foldl (· ^^^ ·) p.ln = c then [⟨cc, data⟩] else []) ∧
      p'.st = .sof := by
  obtain ⟨q, hstore, hq, -, hidx, hcmd⟩ := store_gathered h
    (by rw [List.length_cons]; omega) c
  have hdone : q.idx.toNat ≥ q.ln.toNat + 1 := by
    rw [hidx, hq, List.length_append, List.length_cons, List.length_singleton, hlen]
  have hsize : (cc :: data ++ [c]).length = q.ln.toNat + 1 := by
    rw [List.length_append, List.length_cons, List.length_singleton, hlen, hq]
  rw [hsize] at hcmd
  have hread : ∀ i, i < q.ln.toNat + 1 → q.cmd.toList[i]? = (cc :: data ++ [c])[i]? := by
    intro i hi
    rw [← hcmd, List.getElem?_take_of_lt hi]
  have hfirst : q.cmd.toList[0]? = some cc := hread 0 (by omega)
  have hlast : q.cmd.toList[q.ln.toNat]? = some c := by
    rw [hread _ (Nat.lt_succ_self _), hq, ← hlen]
    exact List.getElem?_concat_length
  have hbody : q.cmd.toList.take q.ln.toNat = cc :: data := by
    rw [show q.ln.toNat = min q.ln.toNat (q.ln.toNat + 1) by omega, ← List.take_take, hcmd, hq,
      ← hlen]
    simp
  refine ⟨{ q with st := .sof }, ?_, rfl⟩
  rw [← hq]
  simp only [step, h.1, hstore, Option.bind_eq_bind, Option.bind_some, if_pos hdone, checked,
    read8_eq, hfirst, hlast, hbody, Option.pure_def, List.drop_one, List.tail_cons]

theorem run_frame {cc : UInt8} {data : List UInt8} (hidle : p.st = .sof)
    (hlen : data.length + 1 ≤ 137) :
    let len := (cc :: data).length.toUInt8
    ∃ p', run step p (sofByte :: len :: cc :: data ++ [(cc :: data).foldl (· ^^^ ·) len]) =
      some (p', [⟨cc, data⟩]) ∧ p'.st = .sof := by
  intro len
  have htoNat : len.toNat = data.length + 1 := toNat_toUInt8 (by rw [List.length_cons]; omega)
  have hlenByte : ¬ (len = 0 ∨ len > 137) := by
    rintro (h | h)
    · rw [h] at htoNat
      simp at htoNat
    · have := UInt8.lt_iff_toNat_lt.mp h
      simp only [UInt8.reduceToNat] at this
      omega
  have hsof : p.step sofByte = some ({ p with st := .len }, []) := by
    simp only [step, hidle, if_true]
  have hstart : step { p with st := .len } len =
      some ({ p with st := .data, ln := len, idx := 0 }, []) := by
    simp only [step, if_neg hlenByte]
  have hempty : Gathered { p with st := .data, ln := len, idx := 0 } [] := ⟨rfl, rfl, rfl⟩
  obtain ⟨q, hgather, hq, hall⟩ : ∃ q, run step { p with st := .data, ln := len, idx := 0 }
      (cc :: data) = some (q, []) ∧ q.ln = len ∧ q.Gathered ([] ++ cc :: data) :=
    run_gathered hempty (by simp only [htoNat]; omega) (by simp [htoNat])
  have hln : q.ln = len := hq
  obtain ⟨p', hstep, hst⟩ := step_checksum hall (by rw [hln]; omega) (by rw [hln, htoNat])
    ((cc :: data).foldl (· ^^^ ·) len)
  simp only [hln, if_true] at hstep
  refine ⟨p', ?_, hst⟩
  exact run_cons hsof (run_cons hstart (run_append hgather (run_cons hstep rfl)))

/-! ## Any stream -/

/-- Inside a frame the length was accepted and the body is not complete. -/
def Sound (p : Parser) : Prop :=
  p.st = .data → p.ln ≠ 0 ∧ p.ln.toNat ≤ 137 ∧ p.idx.toNat ≤ p.ln.toNat

/-- Bytes of zero that still count for the frame in progress. -/
def pending (p : Parser) : Nat :=
  match p.st with
  | .sof => 0
  | .len => 1
  | .data => p.ln.toNat + 1 - p.idx.toNat

/-- A byte keeps the parser sound, and a zero byte brings it closer to idle. -/
theorem step_sound (h : p.Sound) (c : UInt8) :
    ∃ p' out, p.step c = some (p', out) ∧ p'.Sound ∧ (c = 0 → p'.pending ≤ p.pending - 1) := by
  cases hst : p.st with
  | sof =>
    simp only [step, hst]
    refine ⟨_, [], rfl, ?_, ?_⟩
    · intro hdata
      simp only at hdata
      split at hdata <;> cases hdata
    · rintro rfl
      simp [pending, hst, sofByte]
  | len =>
    simp only [step, hst]
    refine ⟨_, [], rfl, ?_, ?_⟩
    · intro hdata
      simp only at hdata ⊢
      split at hdata
      · cases hdata
      · next hok =>
        simp only [not_or, gt_iff_lt, UInt8.not_lt, UInt8.le_iff_toNat_le, UInt8.reduceToNat] at hok
        exact ⟨hok.1, hok.2, Nat.zero_le _⟩
    · rintro rfl
      simp [pending, hst]
  | data =>
    obtain ⟨hzero, hmax, hidx⟩ := h hst
    have hroom : p.idx.toNat < 140 := by omega
    have hnext : (p.idx + 1).toNat = p.idx.toNat + 1 := toNat_succ (by omega)
    simp only [step, hst, store, dif_pos hroom, Option.bind_eq_bind, Option.bind_some]
    by_cases hdone : (p.idx + 1).toNat ≥ p.ln.toNat + 1
    · have hlen : ∀ v : Vector UInt8 140, v.toList.length = 140 := fun v => v.length_toList
      obtain ⟨cc, hcc⟩ := getElem?_isSome
        (by rw [hlen]; omega : 0 < (p.cmd.set p.idx.toNat c hroom).toList.length)
      obtain ⟨fcs, hfcs⟩ := getElem?_isSome
        (by rw [hlen]; omega : p.ln.toNat < (p.cmd.set p.idx.toNat c hroom).toList.length)
      simp only [if_pos hdone, checked, read8_eq, hcc, hfcs, Option.bind_eq_bind, Option.bind_some]
      refine ⟨_, _, rfl, ?_, fun _ => ?_⟩
      · intro hdata
        cases hdata
      · simp [pending]
    · simp only [if_neg hdone]
      refine ⟨_, _, rfl, fun _ => ⟨hzero, hmax, ?_⟩, fun _ => ?_⟩
      · simp only
        omega
      · simp only [pending, hst, hnext]
        omega

/-- Fed any bytes, an idle parser stays inside `cmd`. -/
theorem run_sound (h : p.Sound) (bytes : List UInt8) :
    ∃ p' out, run step p bytes = some (p', out) ∧ p'.Sound := by
  apply run_invariant _ h
  intro p c hp
  obtain ⟨p', out, hstep, hsound, -⟩ := step_sound hp c
  exact ⟨p', out, hstep, hsound⟩

theorem pending_le (h : p.Sound) : p.pending ≤ 138 := by
  cases hst : p.st with
  | sof => simp [pending, hst]
  | len => simp [pending, hst]
  | data =>
    have := (h hst).2.1
    simp only [pending, hst]
    omega

theorem st_of_pending (h : p.Sound) (hzero : p.pending = 0) : p.st = .sof := by
  cases hst : p.st with
  | sof => rfl
  | len => simp [pending, hst] at hzero
  | data =>
    have := (h hst).2.2
    simp only [pending, hst] at hzero
    omega

theorem run_zeros (h : p.Sound) {n : Nat} (hn : 138 ≤ n) :
    ∃ p' out, run step p (List.replicate n 0) = some (p', out) ∧ p'.st = .sof := by
  have hstep : ∀ p : Parser, p.Sound →
      ∃ p' out, p.step 0 = some (p', out) ∧ p'.Sound ∧ p'.pending ≤ p.pending - 1 := by
    intro p hp
    obtain ⟨p', out, hstep, hsound, hpending⟩ := step_sound hp 0
    exact ⟨p', out, hstep, hsound, hpending rfl⟩
  obtain ⟨p', out, hrun, hsound, hzero⟩ :=
    run_replicate_rank hstep h (Nat.le_trans (pending_le h) hn)
  exact ⟨p', out, hrun, st_of_pending hsound hzero⟩

end Parser

end NiusZigbee.Firmware
