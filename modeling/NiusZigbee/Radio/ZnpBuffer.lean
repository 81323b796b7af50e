import NiusZigbee.Library.Runs
import NiusZigbee.Radio.ZnpFraming

/-!
# The frame buffer of the ZNP parser

The length byte of a frame is taken from the line unchecked. Every store of the parser stays inside
its buffer just as long as no frame longer than the buffer gets past its last byte, and what hands
out a complete frame then reads inside it.
-/

namespace NiusZigbee

open ByteCodec

structure ZnpIncomingMsg where
  groupId : UInt16
  clusterId : UInt16
  srcAddr : UInt16
  srcEndpoint : UInt8
  dstEndpoint : UInt8
  wasBroadcast : Bool
  linkQuality : UInt8
  transSeqNum : UInt8
  data : List UInt8
  len : UInt8
deriving DecidableEq, Repr

/-- A callback that is run, with its arguments. -/
inductive ZnpIndication where
  | incoming (msg : ZnpIncomingMsg)
  | dataConfirm (status endpoint transId : UInt8)
  | stateChange (deviceState : UInt8)
deriving DecidableEq, Repr

/-- Which callbacks are registered. -/
structure ZnpCallbacks where
  incoming : Bool := false
  stateChange : Bool := false
  dataConfirm : Bool := false
deriving DecidableEq, Repr

namespace CC2530ZnpRadio

def kTypeAreq : UInt8 := 0x40
def kSubAf : UInt8 := 0x04
def kSubZdo : UInt8 := 0x05

def zdoStateChangeInd : UInt8 := 0xC0
def afDataConfirm : UInt8 := 0x80
def afIncomingMsg : UInt8 := 0x81

/-- The indication in the registers, if it has a callback; `none` is a read at or behind
`frmLen_`. -/
def dispatchAreq (r : CC2530ZnpRadio) (cb : ZnpCallbacks) : Option (Option ZnpIndication) :=
  let frm := r.frame.data
  if r.frmCmd0 = kTypeAreq ||| kSubAf ∧ r.frmCmd1 = afIncomingMsg then
    if !cb.incoming || r.frmLen < 17 then some none
    else do
      let groupId ← read16 frm 0
      let clusterId ← read16 frm 2
      let srcAddr ← read16 frm 4
      let srcEndpoint ← read8 frm 6
      let dstEndpoint ← read8 frm 7
      let broadcast ← read8 frm 8
      let linkQuality ← read8 frm 9
      let transSeqNum ← read8 frm 15
      let len ← read8 frm 16
      if 17 + len.toNat > r.frmLen.toNat then return none
      else
        let data ← readBytes frm 17 len.toNat
        return some <| .incoming
          { groupId := groupId, clusterId := clusterId, srcAddr := srcAddr
            srcEndpoint := srcEndpoint, dstEndpoint := dstEndpoint, wasBroadcast := broadcast != 0
            linkQuality := linkQuality, transSeqNum := transSeqNum, data := data, len := len }
  else if r.frmCmd0 = kTypeAreq ||| kSubAf ∧ r.frmCmd1 = afDataConfirm then
    if cb.dataConfirm && r.frmLen ≥ 3 then do
      return some (.dataConfirm (← read8 frm 0) (← read8 frm 1) (← read8 frm 2))
    else some none
  else if r.frmCmd0 = kTypeAreq ||| kSubZdo ∧ r.frmCmd1 = zdoStateChangeInd then
    if cb.stateChange && r.frmLen ≥ 1 then do return some (.stateChange (← read8 frm 0))
    else some none
  else some none

/-- The parser after a byte; one stored outside the buffer leaves it where it was. -/
def received (r : CC2530ZnpRadio) (b : UInt8) : CC2530ZnpRadio := (r.feed b).elim r (·.1)

/-- The byte is stored inside the buffer, if it is stored, and the frame then in the registers is
read inside it, whatever callbacks there are. -/
def Inside (r : CC2530ZnpRadio) (b : UInt8) : Prop :=
  ∃ r' complete, r.feed b = some (r', complete) ∧
    ∀ cb, (r'.dispatchAreq cb).isSome = true

/-! ## Reads -/

theorem dispatchAreq_isSome {r : CC2530ZnpRadio} (h : r.frmLen.toNat ≤ kMaxData)
    (cb : ZnpCallbacks) : (r.dispatchAreq cb).isSome = true := by
  have hdata : r.frame.data.length = r.frmLen.toNat := by
    rw [frame, List.length_take, Vector.length_toList]
    omega
  unfold dispatchAreq
  dsimp only
  split
  · split
    · rfl
    next hlong =>
      have h17 : 17 ≤ r.frmLen.toNat := by
        simp only [Bool.or_eq_true, decide_eq_true_eq, not_or, UInt8.not_lt] at hlong
        exact UInt8.le_iff_toNat_le.mp hlong.2
      simp only [read8_eq, read16_getD (by omega : 0 + 1 < r.frame.data.length),
        read16_getD (by omega : 2 + 1 < r.frame.data.length),
        read16_getD (by omega : 4 + 1 < r.frame.data.length),
        getElem?_getD (by omega : 6 < r.frame.data.length),
        getElem?_getD (by omega : 7 < r.frame.data.length),
        getElem?_getD (by omega : 8 < r.frame.data.length),
        getElem?_getD (by omega : 9 < r.frame.data.length),
        getElem?_getD (by omega : 15 < r.frame.data.length),
        getElem?_getD (by omega : 16 < r.frame.data.length), Option.bind_eq_bind, Option.bind_some]
      split
      · rfl
      next hfit => rw [readBytes, if_pos (by omega)]; rfl
  split
  · split
    next hlong =>
      have h3 : 3 ≤ r.frmLen.toNat := by
        simp only [Bool.and_eq_true, decide_eq_true_eq, ge_iff_le] at hlong
        exact UInt8.le_iff_toNat_le.mp hlong.2
      simp only [read8_eq, getElem?_getD (by omega : 0 < r.frame.data.length),
        getElem?_getD (by omega : 1 < r.frame.data.length),
        getElem?_getD (by omega : 2 < r.frame.data.length)]
      rfl
    · rfl
  split
  · split
    next hlong =>
      have h1 : 1 ≤ r.frmLen.toNat := by
        simp only [Bool.and_eq_true, decide_eq_true_eq, ge_iff_le] at hlong
        exact UInt8.le_iff_toNat_le.mp hlong.2
      simp only [read8_eq, getElem?_getD (by omega : 0 < r.frame.data.length)]
      rfl
    · rfl
  · rfl

/-! ## One byte in each state -/

section Feed

variable {r : CC2530ZnpRadio} (b : UInt8)

theorem feed_waitSof (h : r.rxState = .waitSof) :
    r.feed b = some (if b = kSof then { r with rxState := .len } else r, false) := by
  rw [feed, h]

theorem feed_len (h : r.rxState = .len) :
    r.feed b =
      some ({ r with rxLen := b, rxIdx := 0, rxFcs := b, rxState := .cmd0 }, false) := by
  rw [feed, h]

theorem feed_cmd0 (h : r.rxState = .cmd0) :
    r.feed b =
      some ({ r with rxCmd0 := b, rxFcs := r.rxFcs ^^^ b, rxState := .cmd1 }, false) := by
  rw [feed, h]

theorem feed_cmd1 (h : r.rxState = .cmd1) :
    r.feed b =
      some ({ r with
        rxCmd1 := b, rxFcs := r.rxFcs ^^^ b
        rxState := if r.rxLen > 0 then .data else .fcs }, false) := by
  rw [feed, h]

theorem feed_data (h : r.rxState = .data) (hroom : r.rxIdx.toNat < kMaxData) :
    r.feed b =
      some ({ r with
        frm := r.frm.set r.rxIdx.toNat b hroom, rxIdx := r.rxIdx + 1, rxFcs := r.rxFcs ^^^ b
        rxState := if r.rxIdx + 1 ≥ r.rxLen then .fcs else .data }, false) := by
  rw [feed, h]
  exact dif_pos hroom

theorem feed_outside (h : r.rxState = .data) (hroom : ¬ r.rxIdx.toNat < kMaxData) :
    r.feed b = none := by
  rw [feed, h]
  exact dif_neg hroom

theorem feed_fcs (h : r.rxState = .fcs) :
    r.feed b =
      if b ≠ r.rxFcs then some ({ r with rxState := .waitSof }, false)
      else
        some ({ r with
          rxState := .waitSof, frmCmd0 := r.rxCmd0, frmCmd1 := r.rxCmd1
          frmLen := r.rxLen }, true) := by
  rw [feed, h]

end Feed

/-! ## Stores -/

/-- What the registers of a parser say while it is inside its buffer and stays there. -/
structure Bounded (r : CC2530ZnpRadio) : Prop where
  frmLen : r.frmLen.toNat ≤ kMaxData
  rxLen : r.rxState ≠ .waitSof → r.rxState ≠ .len → r.rxLen.toNat ≤ kMaxData
  rxStart : r.rxState = .cmd0 ∨ r.rxState = .cmd1 → r.rxIdx = 0
  rxIdx : r.rxState = .data → r.rxIdx.toNat < r.rxLen.toNat

/-- A parser in a frame longer than the buffer that `left` more bytes do not fill. -/
structure Roomy (r : CC2530ZnpRadio) (left : Nat) : Prop where
  frmLen : r.frmLen.toNat ≤ kMaxData
  rxLen : kMaxData < r.rxLen.toNat
  rxIdx : (r.rxState = .cmd0 ∧ r.rxIdx = 0 ∧ left ≤ kMaxData + 2) ∨
    (r.rxState = .cmd1 ∧ r.rxIdx = 0 ∧ left ≤ kMaxData + 1) ∨
    (r.rxState = .data ∧ r.rxIdx.toNat + left ≤ kMaxData)

theorem received_of_feed {r r' : CC2530ZnpRadio} {b : UInt8} {complete : Bool}
    (h : r.feed b = some (r', complete)) : r.received b = r' := by
  rw [received, h]
  rfl

theorem inside_of_feed {r r' : CC2530ZnpRadio} {b : UInt8} {complete : Bool}
    (h : r.feed b = some (r', complete)) (hlen : r'.frmLen.toNat ≤ kMaxData) : r.Inside b :=
  ⟨r', complete, h, dispatchAreq_isSome hlen⟩

theorem Bounded.feed {r : CC2530ZnpRadio} (h : r.Bounded) {b : UInt8}
    (hb : r.rxState = .len → b.toNat ≤ kMaxData) :
    ∃ r' complete, r.feed b = some (r', complete) ∧ r'.Bounded := by
  cases hstate : r.rxState with
  | waitSof =>
    refine ⟨_, _, feed_waitSof b hstate, ?_⟩
    split
    · exact ⟨h.frmLen, fun _ hne => absurd rfl hne, fun hs => by simp at hs, fun hs => by cases hs⟩
    · exact h
  | len =>
    exact ⟨_, _, feed_len b hstate,
      ⟨h.frmLen, fun _ _ => hb hstate, fun _ => rfl, fun hs => by cases hs⟩⟩
  | cmd0 =>
    have hlen := h.rxLen (by simp [hstate]) (by simp [hstate])
    exact ⟨_, _, feed_cmd0 b hstate,
      ⟨h.frmLen, fun _ _ => hlen, fun _ => h.rxStart (.inl hstate), fun hs => by cases hs⟩⟩
  | cmd1 =>
    have hlen := h.rxLen (by simp [hstate]) (by simp [hstate])
    have hidx := h.rxStart (.inr hstate)
    refine ⟨_, _, feed_cmd1 b hstate, ?_⟩
    by_cases hpos : r.rxLen > 0
    · rw [if_pos hpos]
      exact ⟨h.frmLen, fun _ _ => hlen, fun hs => by simp at hs,
        fun _ => by rw [hidx]; exact UInt8.lt_iff_toNat_lt.mp hpos⟩
    · rw [if_neg hpos]
      exact ⟨h.frmLen, fun _ _ => hlen, fun hs => by simp at hs, fun hs => by cases hs⟩
  | data =>
    have hlen := h.rxLen (by simp [hstate]) (by simp [hstate])
    have hidx := h.rxIdx hstate
    refine ⟨_, _, feed_data b hstate (by omega), ?_⟩
    by_cases hlast : r.rxIdx + 1 ≥ r.rxLen
    · rw [if_pos hlast]
      exact ⟨h.frmLen, fun _ _ => hlen, fun hs => by simp at hs, fun hs => by cases hs⟩
    · rw [if_neg hlast]
      exact ⟨h.frmLen, fun _ _ => hlen, fun hs => by simp at hs, fun _ =>
        UInt8.lt_iff_toNat_lt.mp (UInt8.not_le.mp hlast)⟩
  | fcs =>
    have hlen := h.rxLen (by simp [hstate]) (by simp [hstate])
    by_cases hfcs : b ≠ r.rxFcs
    · exact ⟨_, _, (feed_fcs b hstate).trans (if_pos hfcs),
        ⟨h.frmLen, fun hne => absurd rfl hne, fun hs => by simp at hs, fun hs => by cases hs⟩⟩
    · exact ⟨_, _, (feed_fcs b hstate).trans (if_neg hfcs),
        ⟨hlen, fun hne => absurd rfl hne, fun hs => by simp at hs, fun hs => by cases hs⟩⟩

/-- A byte of a frame that is too long takes some of the room there is. -/
theorem Roomy.feed {r : CC2530ZnpRadio} {left : Nat} (h : r.Roomy (left + 1)) (b : UInt8) :
    ∃ r' complete, r.feed b = some (r', complete) ∧ r'.Roomy left := by
  rcases h.rxIdx with ⟨hstate, hidx, hleft⟩ | ⟨hstate, hidx, hleft⟩ | ⟨hstate, hleft⟩
  · exact ⟨_, _, feed_cmd0 b hstate, h.frmLen, h.rxLen, .inr (.inl ⟨rfl, hidx, by omega⟩)⟩
  · have hpos : r.rxLen > 0 :=
      UInt8.lt_iff_toNat_lt.mpr (Nat.lt_of_le_of_lt (Nat.zero_le _) h.rxLen)
    refine ⟨_, _, feed_cmd1 b hstate, h.frmLen, h.rxLen, .inr (.inr ⟨if_pos hpos, ?_⟩)⟩
    dsimp only
    rw [hidx, UInt8.toNat_zero]
    omega
  · have hroom : r.rxIdx.toNat < kMaxData := by omega
    have hsucc : (r.rxIdx + 1).toNat = r.rxIdx.toNat + 1 :=
      toNat_succ (Nat.lt_of_lt_of_le hroom (by decide))
    have hmore : ¬ r.rxIdx + 1 ≥ r.rxLen := by
      have := h.rxLen
      rw [ge_iff_le, UInt8.le_iff_toNat_le, hsucc]
      omega
    refine ⟨_, _, feed_data b hstate hroom, h.frmLen, h.rxLen, .inr (.inr ⟨if_neg hmore, ?_⟩)⟩
    dsimp only
    omega

theorem Roomy.along {r : CC2530ZnpRadio} {bytes : List UInt8} (h : r.Roomy bytes.length) :
    Runs.Along received Inside r bytes := by
  induction bytes generalizing r with
  | nil => trivial
  | cons b bytes ih =>
    obtain ⟨r', complete, hfeed, hroomy⟩ := h.feed b
    refine ⟨inside_of_feed hfeed hroomy.frmLen, ?_⟩
    rw [received_of_feed hfeed]
    exact ih hroomy

/-- The data bytes of a frame that is too long end up outside when there are enough of them. -/
theorem data_overflows {r : CC2530ZnpRadio} {bytes : List UInt8} (hstate : r.rxState = .data)
    (hlen : kMaxData < r.rxLen.toNat) (hidx : r.rxIdx.toNat ≤ kMaxData)
    (hbytes : kMaxData < r.rxIdx.toNat + bytes.length) : ¬ Runs.Along received Inside r bytes := by
  induction bytes generalizing r with
  | nil =>
    rw [List.length_nil] at hbytes
    omega
  | cons b bytes ih =>
    rintro ⟨⟨r', complete, hfeed, _⟩, hrest⟩
    by_cases hroom : r.rxIdx.toNat < kMaxData
    · have hsucc : (r.rxIdx + 1).toNat = r.rxIdx.toNat + 1 :=
        toNat_succ (Nat.lt_of_lt_of_le hroom (by decide))
      have hmore : ¬ r.rxIdx + 1 ≥ r.rxLen := by
        rw [ge_iff_le, UInt8.le_iff_toNat_le, hsucc]
        omega
      have hstored := feed_data b hstate hroom
      rw [if_neg hmore] at hstored
      rw [received_of_feed hstored] at hrest
      rw [List.length_cons] at hbytes
      refine absurd hrest (ih rfl hlen ?_ ?_) <;> dsimp only <;> omega
    · rw [feed_outside b hstate hroom] at hfeed
      cases hfeed

/-- Behind a length byte that exceeds the buffer, the two commands and one byte more than fit it. -/
theorem length_overflows {r : CC2530ZnpRadio} {b : UInt8} {bytes : List UInt8}
    (hstate : r.rxState = .len) (hb : kMaxData < b.toNat) (hbytes : kMaxData + 2 < bytes.length) :
    ¬ Runs.Along received Inside r (b :: bytes) := by
  rcases bytes with _ | ⟨cmd0, _ | ⟨cmd1, data⟩⟩
  · simp at hbytes
  · simp [kMaxData] at hbytes
  · simp only [List.length_cons] at hbytes
    rintro ⟨_, _, _, hrest⟩
    have hpos : b > 0 := UInt8.lt_iff_toNat_lt.mpr (Nat.lt_of_le_of_lt (Nat.zero_le _) hb)
    rw [received_of_feed (feed_len b hstate), received_of_feed (feed_cmd0 cmd0 rfl),
      received_of_feed (feed_cmd1 cmd1 rfl)] at hrest
    refine data_overflows (if_pos hpos) hb (Nat.zero_le _) ?_ hrest
    dsimp only
    rw [UInt8.toNat_zero]
    omega

theorem Bounded.along {r : CC2530ZnpRadio} (h : r.Bounded) {bytes : List UInt8}
    (hfit : ∀ before b after, bytes = before ++ b :: after →
      (before.foldl received r).rxState = .len → kMaxData < b.toNat →
      after.length ≤ kMaxData + 2) :
    Runs.Along received Inside r bytes := by
  induction bytes generalizing r with
  | nil => trivial
  | cons b bytes ih =>
    by_cases hlong : r.rxState = .len ∧ kMaxData < b.toNat
    · -- the rest of the run stays inside this frame
      obtain ⟨hstate, hb⟩ := hlong
      have hfeed := feed_len b hstate
      refine ⟨inside_of_feed hfeed h.frmLen, ?_⟩
      rw [received_of_feed hfeed]
      exact Roomy.along ⟨h.frmLen, hb, .inl ⟨rfl, rfl, hfit [] b bytes rfl hstate hb⟩⟩
    · obtain ⟨r', complete, hfeed, hbounded⟩ :=
        h.feed fun hstate => Nat.not_lt.mp fun hb => hlong ⟨hstate, hb⟩
      refine ⟨inside_of_feed hfeed hbounded.frmLen, ?_⟩
      rw [received_of_feed hfeed]
      refine ih hbounded fun before b' after hsplit hstate => ?_
      refine hfit (b :: before) b' after (by rw [hsplit]; rfl) ?_
      rwa [List.foldl_cons, received_of_feed hfeed]

/-- Over a whole stream the parser stays inside its buffer just when no length byte that exceeds the
buffer is followed by the two commands and more data than fit. -/
theorem frame_buffer_iff (frm : Vector UInt8 kMaxData) (bytes : List UInt8) :
    Runs.Along received Inside { frm := frm } bytes ↔
      ∀ before b after, bytes = before ++ b :: after →
        (before.foldl received { frm := frm }).rxState = .len → kMaxData < b.toNat →
        after.length ≤ kMaxData + 2 := by
  constructor
  · rintro h before b after rfl hstate hb
    refine Nat.not_lt.mp fun hlong => ?_
    exact length_overflows hstate hb hlong (Runs.along_append.mp h).2
  · refine Bounded.along ⟨Nat.zero_le _, fun hne => absurd rfl hne, fun hs => ?_, fun hs => ?_⟩
    all_goals simp at hs

/-- A frame that announces 255 data bytes, up to the one that is stored behind the buffer. -/
theorem frame_buffer_overflows :
    ¬ Runs.Along received Inside {} ([0xFE, 0xFF, 0x44, 0x81] ++ List.replicate 251 0) := by
  intro h
  have hrest : Runs.Along received Inside (received {} 0xFE)
      (0xFF :: ([0x44, 0x81] ++ List.replicate 251 0)) := h.2
  refine length_overflows rfl (by decide) ?_ hrest
  rw [List.length_append, List.length_replicate]
  decide

end CC2530ZnpRadio

end NiusZigbee
