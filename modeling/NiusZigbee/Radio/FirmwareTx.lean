import NiusZigbee.Radio.Firmware

/-!
# Transmission in the CC2530 firmware

The MAC settings the host can change, and `radio_tx` over them: CSMA-CA with MAC retransmissions, or
plain retries. What the air does, each TX done and each ACK, is given call by call; what a run made
of it is accounted for in its result, the attempts it reports and the two counters.
-/

namespace NiusZigbee.Firmware

open ByteCodec

/-! ## The MAC settings -/

def cmdSetPromisc : UInt8 := 0x04
def cmdSetAddr : UInt8 := 0x05
def cmdSetMac : UInt8 := 0x06
def cmdSetMacPib : UInt8 := 0x0D

def macFlagFilter : UInt8 := 0x01
def macFlagAutoAck : UInt8 := 0x02
def macFlagCcaTx : UInt8 := 0x04

def fcfAckRequest : UInt8 := 0x20

def defaultSeed : UInt16 := 0xACE1

/-- `cfg_min_be` to `cfg_max_retries`, within the bounds `CMD_SET_MAC_PIB` keeps them in. -/
structure MacPib where
  minBe : UInt8 := 3
  maxBe : UInt8 := 5
  maxBackoffs : UInt8 := 4
  maxRetries : UInt8 := 3
  minBe_le : minBe ≤ maxBe := by decide
  maxBe_le : maxBe ≤ 8 := by decide
  maxBackoffs_le : maxBackoffs ≤ 8 := by decide
  maxRetries_le : maxRetries ≤ 7 := by decide
deriving DecidableEq

def clamp (v max : UInt8) : UInt8 := if v > max then max else v

theorem clamp_le (v max : UInt8) : clamp v max ≤ max := by
  unfold clamp
  split
  · exact UInt8.le_refl max
  · next h => exact UInt8.not_lt.mp h

def MacPib.set (a b k rt : UInt8) : MacPib where
  minBe := clamp a (clamp b 8)
  maxBe := clamp b 8
  maxBackoffs := clamp k 8
  maxRetries := clamp rt 7
  minBe_le := clamp_le _ _
  maxBe_le := clamp_le _ _
  maxBackoffs_le := clamp_le _ _
  maxRetries_le := clamp_le _ _

structure Mac where
  macFlags : UInt8 := 0
  txRetries : UInt8 := 0
  rngState : UInt16 := defaultSeed
  macRetx : UInt16 := 0
  macNoack : UInt16 := 0
  pib : MacPib := {}
deriving DecidableEq

namespace Mac

/-- The commands that change the settings. `cmd[1]` on is the command's data. -/
def configure (mac : Mac) (c : Command) : Mac :=
  let d := fun i => c.data.getD i 0
  if c.cc = cmdSetPromisc ∧ c.data.length ≥ 1 then
    { mac with
      macFlags := if d 0 ≠ 0 then mac.macFlags ||| macFlagFilter
        else mac.macFlags &&& ~~~macFlagFilter }
  else if c.cc = cmdSetAddr ∧ c.data.length ≥ 12 then
    let seed := (d 4).toUInt16 ||| ((d 5).toUInt16 <<< 8)
    { mac with rngState := if seed = 0 then defaultSeed else seed }
  else if c.cc = cmdSetMac ∧ c.data.length ≥ 2 then
    { mac with
      macFlags := d 0 &&& (macFlagFilter ||| macFlagAutoAck ||| macFlagCcaTx)
      txRetries := d 1 }
  else if c.cc = cmdSetMacPib ∧ c.data.length ≥ 4 then
    { mac with pib := .set (d 0) (d 1) (d 2) (d 3) }
  else mac

def rngByte (mac : Mac) : Mac × UInt8 :=
  let x := mac.rngState
  let x := x ^^^ (x <<< 7)
  let x := x ^^^ (x >>> 9)
  let x := x ^^^ (x <<< 8)
  ({ mac with rngState := if x ≠ 0 then x else defaultSeed }, (x &&& 0xFF).toUInt8)

def ccaTx (mac : Mac) : Bool := mac.macFlags &&& macFlagCcaTx != 0

end Mac

/-! ## Transmission -/

/-- Whether each call of `radio_tx_once` sees TX done, and whether each `wait_for_ack` for a DSN
hears the ACK. -/
structure Air where
  txDone : Nat → Bool
  acked : UInt8 → Nat → Bool

/-- `radio_tx` at work: its variables, and on record the results of `radio_tx_once` and
`wait_for_ack` and the backoff periods. -/
structure TxRun where
  mac : Mac
  attempts : UInt8
  total : UInt8 := 0
  calls : List UInt8 := []
  acks : List Bool := []
  backoffs : List UInt8 := []
deriving DecidableEq

namespace TxRun

variable (run : TxRun)

/-- `if(++total==0) total=255`. -/
def counted : TxRun := { run with total := if run.total + 1 = 0 then 255 else run.total + 1 }

/-- The backoff after a busy channel, of a random number of periods below `2 ^ be`. -/
def backOff (be : UInt8) : TxRun :=
  let random := run.mac.rngByte
  { run with
    mac := random.1
    backoffs := run.backoffs ++ [random.2 &&& (((1 : UInt16) <<< be.toUInt16) - 1).toUInt8] }

/-- `*attempts=total`. -/
def report : TxRun := { run with attempts := run.total }

end TxRun

variable (air : Air) (len : UInt8)

def radioTxOnce (run : TxRun) : TxRun × UInt8 :=
  let r : UInt8 := if len > 125 then 2 else if air.txDone run.calls.length then 0 else 1
  ({ run with calls := run.calls ++ [r] }, r)

/-- The `left` passes of CSMA-CA still to go. -/
def backoffLoop : Nat → UInt8 → UInt8 → TxRun → TxRun × UInt8
  | 0, _, r, run => (run, r)
  | left + 1, be, _, run =>
    let once := radioTxOnce air len run
    let run := once.1.counted
    if once.2 = 0 then (run, 0)
    else
      backoffLoop left (if be < run.mac.pib.maxBe then be + 1 else be) once.2 (run.backOff be)

/-- The `left` transmissions of the frame still to go, the `fr`-th first. -/
def retryLoop (wantAck : Bool) (dsn : UInt8) : Nat → UInt8 → TxRun → TxRun × UInt8
  | 0, _, run => ({ run with mac.macNoack := run.mac.macNoack + 1 }.report, 1)
  | left + 1, fr, run =>
    let access := backoffLoop air len (run.mac.pib.maxBackoffs.toNat + 1) run.mac.pib.minBe 1 run
    let run := access.1
    if access.2 ≠ 0 then (run.report, access.2)
    else if !wantAck then (run.report, 0)
    else
      let heard := air.acked dsn run.acks.length
      let run := { run with acks := run.acks ++ [heard] }
      if heard then
        ({ run with
           mac.macRetx := if fr > 0 then run.mac.macRetx + 1 else run.mac.macRetx }.report, 0)
      else retryLoop wantAck dsn left (fr + 1) run

/-- The `left` attempts without CCA still to go, the `i`-th first. -/
def plainLoop : Nat → UInt8 → UInt8 → TxRun → TxRun × UInt8
  | 0, _, r, run => (run, r)
  | left + 1, i, _, run =>
    let once := radioTxOnce air len run
    let run := { once.1 with attempts := i + 1 }
    if once.2 = 0 then (run, 0) else plainLoop left (i + 1) once.2 run

/-- `psdu` points into `cmd`, so its first bytes are there whatever `len` is. -/
def wantsAck (psdu : List UInt8) : Bool := psdu.getD 0 0 &&& fcfAckRequest != 0

def radioTx (mac : Mac) (psdu : List UInt8) (retries attempts : UInt8) : TxRun × UInt8 :=
  let run : TxRun := { mac := mac, attempts := attempts }
  if len > 125 then ({ run with attempts := 0 }, 2)
  else if mac.ccaTx then
    retryLoop air len (wantsAck psdu) (psdu.getD 2 0) (mac.pib.maxRetries.toNat + 1) 0 run
  else plainLoop air len (retries + 1).toNat 0 1 run

/-! ## What the loops record -/

/-- Between the two, these calls were made and these ACKs were waited for. -/
structure Grew (run out : TxRun) (made : List UInt8) (waits : List Bool) : Prop where
  calls : out.calls = run.calls ++ made
  acks : out.acks = run.acks ++ waits
  total : out.total.toNat = run.total.toNat + made.length
  pib : out.mac.pib = run.mac.pib

variable {air len} {run mid out : TxRun} {made made' : List UInt8} {waits waits' : List Bool}

theorem Grew.trans (h : Grew run mid made waits) (h' : Grew mid out made' waits') :
    Grew run out (made ++ made') (waits ++ waits') := by
  refine ⟨?_, ?_, ?_, h'.pib.trans h.pib⟩
  · rw [h'.calls, h.calls, List.append_assoc]
  · rw [h'.acks, h.acks, List.append_assoc]
  · rw [h'.total, h.total, List.length_append, Nat.add_assoc]

theorem Grew.none (run : TxRun) : Grew run run [] [] :=
  ⟨(List.append_nil _).symm, (List.append_nil _).symm, rfl, rfl⟩

theorem counted_grew (air : Air) (len : UInt8) (h : run.total.toNat + 1 < 256) :
    Grew run (radioTxOnce air len run).1.counted [(radioTxOnce air len run).2] [] := by
  have hsucc : (run.total + 1).toNat = run.total.toNat + 1 := toNat_succ (by omega)
  have hnz : run.total + 1 ≠ 0 := by
    intro hzero
    rw [hzero] at hsucc
    simp at hsucc
  exact ⟨rfl, (List.append_nil _).symm, (congrArg UInt8.toNat (if_neg hnz)).trans hsucc, rfl⟩

/-- The channel is accessed at most `left` times, and only the last time with success. -/
theorem backoffLoop_spec {left : Nat} (be r : UInt8) (htotal : run.total.toNat + left < 256)
    (hr : left = 0 → r ≠ 0) :
    let access := backoffLoop air len left be r run
    ∃ made, Grew run access.1 made [] ∧ made.length ≤ left ∧ (0 < left → made ≠ []) ∧
      (access.2 = 0 ∧ made.count 0 = 1 ∨ access.2 ≠ 0 ∧ made.count 0 = 0) ∧
      access.1.mac.macNoack = run.mac.macNoack ∧ access.1.mac.macRetx = run.mac.macRetx := by
  induction left generalizing be r run with
  | zero =>
    exact ⟨[], .none run, Nat.le_refl _, fun h => absurd h (Nat.lt_irrefl _), .inr ⟨hr rfl, rfl⟩,
      rfl, rfl⟩
  | succ left ih =>
    have hfirst := counted_grew air len (by omega : run.total.toNat + 1 < 256)
    simp only [backoffLoop]
    by_cases hdone : (radioTxOnce air len run).2 = 0
    · rw [if_pos hdone]
      refine ⟨_, hfirst, Nat.le_add_left 1 left, fun _ => List.cons_ne_nil _ _, .inl ⟨rfl, ?_⟩,
        rfl, rfl⟩
      rw [hdone]
      rfl
    · rw [if_neg hdone]
      have hlast : ((radioTxOnce air len run).1.counted.backOff be).total.toNat =
        run.total.toNat + 1 := hfirst.total
      obtain ⟨made, hgrew, hlen, _, hzero, hnoack, hretx⟩ :=
        @ih ((radioTxOnce air len run).1.counted.backOff be)
          (if be < (radioTxOnce air len run).1.counted.mac.pib.maxBe then be + 1 else be)
          (radioTxOnce air len run).2 (by omega) fun _ => hdone
      have hboth := (show Grew run ((radioTxOnce air len run).1.counted.backOff be) _ _ from
        ⟨hfirst.calls, hfirst.acks, hfirst.total, hfirst.pib⟩).trans hgrew
      refine ⟨_, hboth, Nat.succ_le_succ hlen, fun _ => List.cons_ne_nil _ _, ?_, hnoack, hretx⟩
      rw [List.singleton_append, List.count_cons_of_ne hdone]
      exact hzero

/-- How `left` transmissions of a frame can go, the `fr`-th first: the result, how many completed,
the ACKs waited for, and whether `mac_noack` and `mac_retx` are raised. -/
inductive Ending (wantAck : Bool) (fr left : Nat) :
    UInt8 → Nat → List Bool → Bool → Bool → Prop
  | denied {r : UInt8} {m : Nat} (hr : r ≠ 0) (hm : m < left) (hask : 0 < m → wantAck = true) :
    Ending wantAck fr left r m (List.replicate m false) false false
  | unasked (hleft : 0 < left) (hask : wantAck = false) : Ending wantAck fr left 0 1 [] false false
  | acked {m : Nat} (hm : m < left) (hask : wantAck = true) :
    Ending wantAck fr left 0 (m + 1) (List.replicate m false ++ [true]) false (decide (0 < fr + m))
  | exhausted (hask : 0 < left → wantAck = true) :
    Ending wantAck fr left 1 left (List.replicate left false) true false

theorem Ending.later {wantAck : Bool} {fr left completed : Nat} {r : UInt8} {noack retx : Bool}
    (hask : wantAck = true) (h : Ending wantAck (fr + 1) left r completed waits noack retx) :
    Ending wantAck fr (left + 1) r (completed + 1) (false :: waits) noack retx := by
  cases h with
  | denied hr hm => exact .denied hr (Nat.succ_lt_succ hm) fun _ => hask
  | unasked _ hno =>
    rw [hask] at hno
    cases hno
  | @acked m hm =>
    rw [Nat.add_right_comm fr 1 m]
    exact @Ending.acked wantAck fr (left + 1) (m + 1) (Nat.succ_lt_succ hm) hask
  | exhausted => exact .exhausted fun _ => hask

section Ending

variable {wantAck : Bool} {left completed : Nat} {r : UInt8} {noack retx : Bool}

theorem Ending.result (h : Ending wantAck 0 left r completed waits noack retx) :
    r = 0 ↔ 0 < completed ∧ (wantAck = true → true ∈ waits) := by
  have hsilent : ∀ m : Nat, true ∉ List.replicate m false :=
    fun m hm => by cases List.eq_of_mem_replicate hm
  cases h with
  | denied hr _ hask =>
    exact iff_of_false hr fun h => hsilent _ (h.2 (hask h.1))
  | unasked _ hno =>
    exact iff_of_true rfl ⟨Nat.succ_pos 0, fun hask => by rw [hno] at hask; cases hask⟩
  | acked =>
    exact iff_of_true rfl ⟨Nat.succ_pos _, fun _ =>
      List.mem_append_right _ (List.mem_singleton_self true)⟩
  | exhausted hask =>
    exact iff_of_false (by decide) fun h => hsilent _ (h.2 (hask h.1))

theorem Ending.waits_length (h : Ending wantAck 0 left r completed waits noack retx) :
    waits.length = if wantAck then completed else 0 := by
  cases h with
  | @denied _ m _ _ hask =>
    rw [List.length_replicate]
    split
    · rfl
    · next hno => exact Nat.eq_zero_of_not_pos fun hm => hno (hask hm)
  | unasked _ hno =>
    rw [hno]
    rfl
  | acked _ hask =>
    rw [if_pos hask, List.length_append, List.length_replicate, List.length_singleton]
  | exhausted hask =>
    rw [List.length_replicate]
    split
    · rfl
    · next hno => exact Nat.eq_zero_of_not_pos fun hleft => hno (hask hleft)

theorem Ending.noack_iff (hleft : 0 < left)
    (h : Ending wantAck 0 left r completed waits noack retx) :
    noack = true ↔ waits = List.replicate left false := by
  cases h with
  | denied _ hm =>
    refine iff_of_false (by decide) fun heq => ?_
    have := congrArg List.length heq
    simp only [List.length_replicate] at this
    omega
  | unasked =>
    refine iff_of_false (by decide) fun heq => ?_
    have := congrArg List.length heq
    simp only [List.length_nil, List.length_replicate] at this
    omega
  | acked =>
    refine iff_of_false (by decide) fun heq => ?_
    have hmem : true ∈ List.replicate left false := heq ▸ List.mem_append_right _ (.head _)
    cases List.eq_of_mem_replicate hmem
  | exhausted => exact iff_of_true rfl rfl

theorem Ending.retx_iff (h : Ending wantAck 0 left r completed waits noack retx) :
    retx = true ↔ true ∈ waits.tail := by
  have hsilent : ∀ m : Nat, true ∉ (List.replicate m false).tail :=
    fun m hm => by cases List.eq_of_mem_replicate (List.mem_of_mem_tail hm)
  cases h with
  | denied => exact iff_of_false (by decide) (hsilent _)
  | unasked => exact iff_of_false (by decide) List.not_mem_nil
  | @acked m =>
    cases m with
    | zero => exact iff_of_false (by decide) List.not_mem_nil
    | succ m => exact iff_of_true (by simp) (List.mem_append_right _ (.head _))
  | exhausted => exact iff_of_false (by decide) (hsilent _)

end Ending

theorem retryLoop_spec {wantAck : Bool} (dsn : UInt8) {left : Nat} {fr : UInt8}
    (hfr : fr.toNat + left < 256)
    (htotal : run.total.toNat + left * (run.mac.pib.maxBackoffs.toNat + 1) < 256) :
    let sent := retryLoop air len wantAck dsn left fr run
    ∃ made waits noack retx, Grew run sent.1 made waits ∧ sent.1.attempts = sent.1.total ∧
      made.length ≤ left * (run.mac.pib.maxBackoffs.toNat + 1) ∧ (0 < left → made ≠ []) ∧
      Ending wantAck fr.toNat left sent.2 (made.count 0) waits noack retx ∧
      sent.1.mac.macNoack = (if noack then run.mac.macNoack + 1 else run.mac.macNoack) ∧
      sent.1.mac.macRetx = (if retx then run.mac.macRetx + 1 else run.mac.macRetx) := by
  induction left generalizing fr run with
  | zero =>
    have hnone : Grew run (retryLoop air len wantAck dsn 0 fr run).1 [] [] :=
      ⟨(List.append_nil _).symm, (List.append_nil _).symm, rfl, rfl⟩
    exact ⟨[], [], true, false, hnone, rfl, Nat.zero_le _, fun h => absurd h (Nat.lt_irrefl _),
      .exhausted fun h => absurd h (Nat.lt_irrefl _), rfl, rfl⟩
  | succ left ih =>
    rw [Nat.succ_mul] at htotal ⊢
    obtain ⟨made, hgrew, hlen, hne, hends, hnoack, hretx⟩ :=
      @backoffLoop_spec air len run (run.mac.pib.maxBackoffs.toNat + 1) run.mac.pib.minBe 1
        (by omega) (fun h => absurd h (Nat.succ_ne_zero _))
    have hne := hne (Nat.succ_pos _)
    simp only [retryLoop]
    generalize backoffLoop air len (run.mac.pib.maxBackoffs.toNat + 1) run.mac.pib.minBe 1 run =
      access at hgrew hends hnoack hretx ⊢
    rcases hends with ⟨hdone, hcount⟩ | ⟨hbusy, hcount⟩
    · rw [if_neg (not_not_intro hdone)]
      cases wantAck with
      | false =>
        refine ⟨made, [], false, false, ⟨hgrew.calls, hgrew.acks, hgrew.total, hgrew.pib⟩, rfl,
          by omega, fun _ => hne, ?_, hnoack, hretx⟩
        rw [hcount]
        exact .unasked (Nat.succ_pos left) rfl
      | true =>
        rw [if_neg (by decide)]
        cases hheard : air.acked dsn access.1.acks.length with
        | true =>
          rw [if_pos rfl]
          have hacked := @Ending.acked true fr.toNat (left + 1) 0 (Nat.succ_pos left) rfl
          refine ⟨made, [true], false, decide (0 < fr.toNat),
            ⟨hgrew.calls, ?_, hgrew.total, hgrew.pib⟩, rfl, by omega, fun _ => hne, ?_, hnoack, ?_⟩
          · simp [TxRun.report, hgrew.acks]
          · rw [hcount]
            exact hacked
          · simp only [TxRun.report, hretx, decide_eq_true_eq]
            rfl
        | false =>
          rw [if_neg (by decide)]
          have hsucc : (fr + 1).toNat = fr.toNat + 1 := toNat_succ (by omega)
          have hpass : Grew run { access.1 with acks := access.1.acks ++ [false] } made [false] :=
            ⟨hgrew.calls, by simp [hgrew.acks], hgrew.total, hgrew.pib⟩
          have hmore := hpass.total
          have hpib := congrArg MacPib.maxBackoffs hpass.pib
          obtain ⟨made', waits, noack, retx, hgrew', hattempts, hlen', _, hending, hnoack',
            hretx'⟩ := @ih { access.1 with acks := access.1.acks ++ [false] } (fr + 1)
              (by omega) (by rw [hpib, hmore]; omega)
          rw [hpib] at hlen'
          rw [hsucc] at hending
          refine ⟨made ++ made', false :: waits, noack, retx, hpass.trans hgrew', hattempts, ?_,
            fun _ => List.append_ne_nil_of_left_ne_nil hne _, ?_, ?_, ?_⟩
          · rw [List.length_append]
            omega
          · rw [List.count_append, hcount, Nat.add_comm 1]
            exact hending.later rfl
          · rw [hnoack', ← hnoack]
          · rw [hretx', ← hretx]
    · rw [if_pos hbusy]
      refine ⟨made, [], false, false, ⟨hgrew.calls, hgrew.acks, hgrew.total, hgrew.pib⟩, rfl,
        by omega, fun _ => hne, ?_, hnoack, hretx⟩
      rw [hcount]
      exact @Ending.denied wantAck fr.toNat (left + 1) access.2 0 hbusy (Nat.succ_pos left)
        fun h => absurd h (Nat.lt_irrefl _)

/-- Without CCA nothing but the attempts is recorded. -/
theorem plainLoop_spec {left : Nat} {i : UInt8} (r : UInt8) (hi : i.toNat + left < 256)
    (hr : left = 0 → r ≠ 0) :
    let sent := plainLoop air len left i r run
    ∃ made, sent.1.calls = run.calls ++ made ∧ sent.1.acks = run.acks ∧ sent.1.mac = run.mac ∧
      made.length ≤ left ∧
      (0 < left → made ≠ [] ∧ sent.1.attempts.toNat = i.toNat + made.length) ∧
      (sent.2 = 0 ↔ 0 ∈ made) := by
  induction left generalizing i r run with
  | zero =>
    refine ⟨[], (List.append_nil _).symm, rfl, rfl, Nat.le_refl _,
      fun h => absurd h (Nat.lt_irrefl _), ?_⟩
    exact iff_of_false (hr rfl) List.not_mem_nil
  | succ left ih =>
    have hsucc : (i + 1).toNat = i.toNat + 1 := toNat_succ (by omega)
    simp only [plainLoop]
    by_cases hdone : (radioTxOnce air len run).2 = 0
    · rw [if_pos hdone]
      refine ⟨[(radioTxOnce air len run).2], rfl, rfl, rfl, Nat.le_add_left 1 left,
        fun _ => ⟨List.cons_ne_nil _ _, hsucc⟩, iff_of_true rfl ?_⟩
      rw [hdone]
      exact List.mem_singleton_self 0
    · rw [if_neg hdone]
      obtain ⟨made, hcalls, hacks, hmac, hlen, hsome, hzero⟩ :=
        @ih { (radioTxOnce air len run).1 with attempts := i + 1 } (i + 1)
          (radioTxOnce air len run).2 (by omega) fun _ => hdone
      refine ⟨(radioTxOnce air len run).2 :: made, ?_, hacks, hmac, Nat.succ_le_succ hlen,
        fun _ => ⟨List.cons_ne_nil _ _, ?_⟩, ?_⟩
      · rw [hcalls]
        exact List.append_assoc _ [_] _
      · cases left with
        | zero =>
          obtain rfl := List.length_eq_zero_iff.mp (Nat.le_zero.mp hlen)
          exact hsucc
        | succ left =>
          rw [(hsome (Nat.succ_pos left)).2, hsucc, List.length_cons]
          omega
      · rw [hzero, List.mem_cons]
        exact ⟨.inr, fun h => h.resolve_left fun h0 => hdone h0.symm⟩

/-! ## The account of a transmission -/

/-- How often `radio_tx_once` may be called. -/
def callLimit (mac : Mac) (retries : UInt8) : Nat :=
  if mac.ccaTx then (mac.pib.maxRetries.toNat + 1) * (mac.pib.maxBackoffs.toNat + 1)
  else retries.toNat + 1

/-- The result, `*attempts` and the counters tell what was done, and something was. -/
structure Accounted (mac : Mac) (psdu : List UInt8) (retries : UInt8) (sent : TxRun × UInt8) :
    Prop where
  called : 0 < sent.1.calls.length
  bounded : sent.1.calls.length ≤ callLimit mac retries
  counted : sent.1.attempts.toNat = sent.1.calls.length
  result : sent.2 = 0 ↔
    0 ∈ sent.1.calls ∧ ((mac.ccaTx && wantsAck psdu) = true → true ∈ sent.1.acks)
  waits : sent.1.acks.length = if mac.ccaTx && wantsAck psdu then sent.1.calls.count 0 else 0
  noack : sent.1.mac.macNoack =
    if sent.1.acks = List.replicate (mac.pib.maxRetries.toNat + 1) false then mac.macNoack + 1
    else mac.macNoack
  retx : sent.1.mac.macRetx =
    if true ∈ sent.1.acks.tail then mac.macRetx + 1 else mac.macRetx

theorem MacPib.limit (pib : MacPib) :
    (pib.maxRetries.toNat + 1) * (pib.maxBackoffs.toNat + 1) ≤ 72 := by
  have hretries : pib.maxRetries.toNat ≤ 7 := UInt8.le_iff_toNat_le.mp pib.maxRetries_le
  have hbackoffs : pib.maxBackoffs.toNat ≤ 8 := UInt8.le_iff_toNat_le.mp pib.maxBackoffs_le
  calc (pib.maxRetries.toNat + 1) * (pib.maxBackoffs.toNat + 1) ≤ 8 * 9 :=
        Nat.mul_le_mul (Nat.succ_le_succ hretries) (Nat.succ_le_succ hbackoffs)
    _ = 72 := rfl

variable {mac : Mac} {psdu : List UInt8} {retries : UInt8}

theorem radioTx_accounted_cca (air : Air) (hlen : len ≤ 125) (hcca : mac.ccaTx = true) :
    Accounted mac psdu retries (radioTx air len mac psdu retries 0) := by
  have hlimit := mac.pib.limit
  have hleft : 0 < mac.pib.maxRetries.toNat + 1 := Nat.succ_pos _
  have hrun : radioTx air len mac psdu retries 0 = retryLoop air len (wantsAck psdu)
      (psdu.getD 2 0) (mac.pib.maxRetries.toNat + 1) 0 { mac := mac, attempts := 0 } := by
    rw [radioTx, if_neg (UInt8.not_lt.mpr hlen), if_pos hcca]
  have hretries : mac.pib.maxRetries.toNat ≤ 7 := UInt8.le_iff_toNat_le.mp mac.pib.maxRetries_le
  obtain ⟨made, waits, noack, retx, hgrew, hattempts, hmade, hne, hending, hnoack, hretx⟩ :=
    @retryLoop_spec air len { mac := mac, attempts := 0 } (wantsAck psdu) (psdu.getD 2 0)
      (mac.pib.maxRetries.toNat + 1) 0 (by rw [UInt8.toNat_zero]; omega)
      (by dsimp only; rw [UInt8.toNat_zero]; omega)
  rw [← hrun] at hgrew hattempts hending hnoack hretx
  have hcalls : (radioTx air len mac psdu retries 0).1.calls = made := hgrew.calls
  have hacks : (radioTx air len mac psdu retries 0).1.acks = waits := hgrew.acks
  rw [UInt8.toNat_zero] at hending
  refine ⟨?_, ?_, ?_, ?_, ?_, ?_, ?_⟩
  · rw [hcalls]
    exact List.length_pos_of_ne_nil (hne hleft)
  · rw [hcalls, callLimit, if_pos hcca]
    exact hmade
  · rw [hattempts, hgrew.total, hcalls, UInt8.toNat_zero, Nat.zero_add]
  · rw [hcalls, hacks, hcca, Bool.true_and, ← List.count_pos_iff]
    exact hending.result
  · rw [hcalls, hacks, hcca, Bool.true_and]
    exact hending.waits_length
  · simp only [hnoack, hacks, hending.noack_iff hleft]
  · simp only [hretx, hacks, hending.retx_iff]

theorem radioTx_accounted_plain (air : Air) (hlen : len ≤ 125) (hcca : mac.ccaTx = false)
    (hretries : retries ≠ 255) :
    Accounted mac psdu retries (radioTx air len mac psdu retries 0) := by
  have hmax : (retries + 1).toNat = retries.toNat + 1 := by
    have hne : retries.toNat ≠ 255 := fun h => hretries (UInt8.toNat_inj.mp h)
    have := retries.toNat_lt
    exact toNat_succ (by omega)
  have hrun : radioTx air len mac psdu retries 0 =
      plainLoop air len (retries + 1).toNat 0 1 { mac := mac, attempts := 0 } := by
    rw [radioTx, if_neg (UInt8.not_lt.mpr hlen), if_neg (by rw [hcca]; decide)]
  obtain ⟨made, hcalls, hacks, hmac, hmade, hsome, hresult⟩ :=
    @plainLoop_spec air len { mac := mac, attempts := 0 } (retries + 1).toNat 0 1
      (by rw [UInt8.toNat_zero]; have := (retries + 1).toNat_lt; omega) (fun _ => by decide)
  obtain ⟨hne, hattempts⟩ := hsome (by omega)
  rw [← hrun] at hcalls hacks hmac hattempts hresult
  rw [List.nil_append] at hcalls
  refine ⟨?_, ?_, ?_, ?_, ?_, ?_, ?_⟩
  · rw [hcalls]
    exact List.length_pos_of_ne_nil hne
  · rw [hcalls, callLimit, if_neg (by rw [hcca]; decide), ← hmax]
    exact hmade
  · rw [hattempts, hcalls, UInt8.toNat_zero, Nat.zero_add]
  · rw [hcalls, hcca, Bool.false_and]
    exact hresult.trans ⟨fun h => ⟨h, fun hask => by cases hask⟩, fun h => h.1⟩
  · rw [hacks, hcca]
    rfl
  · rw [hacks, hmac]
    rfl
  · rw [hacks, hmac]
    rfl

/-- With CCA or without, a transmission of at most 125 bytes is accounted for, but for 256 attempts
without CCA: their count wraps, and none is made. -/
theorem radioTx_accounted_iff (air : Air) (len : UInt8) (mac : Mac) (psdu : List UInt8)
    (retries : UInt8) :
    Accounted mac psdu retries (radioTx air len mac psdu retries 0) ↔
      len ≤ 125 ∧ (mac.ccaTx = true ∨ retries ≠ 255) := by
  constructor
  · intro h
    have hcalled := h.called
    by_cases hlen : len > 125
    · rw [radioTx, if_pos hlen] at hcalled
      cases hcalled
    refine ⟨UInt8.not_lt.mp hlen, ?_⟩
    cases hcca : mac.ccaTx with
    | true => exact .inl rfl
    | false =>
      refine .inr ?_
      rintro rfl
      rw [radioTx, if_neg hlen, if_neg (by rw [hcca]; decide)] at hcalled
      cases hcalled
  · rintro ⟨hlen, hcase⟩
    cases hcca : mac.ccaTx with
    | true => exact radioTx_accounted_cca air hlen hcca
    | false =>
      exact radioTx_accounted_plain air hlen hcca
        (hcase.resolve_left (by rw [hcca]; decide))

/-- A PSDU of ten bytes on an idle channel, to be tried 256 times, is not sent at all. -/
theorem transmission_not_attempted :
    ∃ (air : Air) (mac : Mac) (psdu : List UInt8),
      (∀ n, air.txDone n = true) ∧ psdu.length = 10 ∧
      (radioTx air 10 mac psdu 255 0).1.calls = [] ∧ (radioTx air 10 mac psdu 255 0).2 = 1 ∧
      ¬ Accounted mac psdu 255 (radioTx air 10 mac psdu 255 0) :=
  ⟨⟨fun _ => true, fun _ _ => true⟩, {}, List.replicate 10 0, fun _ => rfl, rfl, rfl, rfl,
    fun h => absurd h.called (by decide)⟩

end NiusZigbee.Firmware
