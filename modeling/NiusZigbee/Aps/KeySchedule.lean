import NiusZigbee.Aps.SecureJoin
import NiusZigbee.Library.Clock
import NiusZigbee.Library.Runs

/-!
# When the network key is sent

The Trust Center keys the device it accepted last: first a while after the association, so that the
device can set its address filter, then again and again at a distance, until the device announces
itself, twelve times at most. Each transport has a counter of its own.
-/

namespace NiusZigbee.SecureJoin

open Clock

/-- The Trust Center with the time, when the last association was accepted, whether that device has
announced itself since, when transports were sent to it, and the counters of all transports. -/
structure Schedule where
  tc : TrustCenter
  now : Nat := 0
  accepted : Option Nat := none
  announced : Bool := false
  sent : List Nat := []
  counters : List UInt32 := []

namespace Schedule

inductive Op where
  | accept (ieee : UInt64) (addr : UInt16) (time : Nat)
  | announce (addr : UInt16)
  | service (time : Nat)

/-- The time from which the next transport may be sent. -/
def due (s : Schedule) : Nat :=
  match s.sent.getLast? with
  | none => s.accepted.getD 0 + 350
  | some last => last + 2000

variable (ecb : BlockCipher) (gKtk : Block)

def step (s : Schedule) : Op → Schedule
  | .accept ieee addr time =>
    { s with
      tc := scheduleKey s.tc ieee addr (reading time)
      now := time, accepted := some time, announced := false, sent := [] }
  | .announce addr =>
    { s with tc := noteAnnounce s.tc addr, announced := s.announced || addr = s.tc.keyXportAddr }
  | .service time =>
    let out := serviceKeyTransport ecb gKtk s.tc (reading time)
    if out.2.isSome then
      { s with
        tc := out.1, now := time, sent := s.sent ++ [time]
        counters := s.counters ++ [s.tc.apsSecCounter] }
    else { s with tc := out.1, now := time }

/-- Time goes on, and the loop comes round within half a lap of the clock. -/
def InTime (s : Schedule) : Op → Prop
  | .accept _ _ time => s.now ≤ time
  | .announce _ => True
  | .service time => s.now ≤ time ∧ (s.accepted.isSome → time < s.due + 0x80000000)

/-- The Trust Center still owes the device it accepted last a transport. -/
def Owes (s : Schedule) : Prop :=
  s.accepted.isSome ∧ s.announced = false ∧ s.sent.length < 12

structure Inv (s : Schedule) : Prop where
  pending : s.tc.pendingKeyXport = true → s.accepted.isSome ∧ s.announced = false
  owes : s.Owes → s.tc.pendingKeyXport = true
  tries : s.accepted.isSome → s.tc.keyXportTries.toNat = s.sent.length
  bound : s.sent.length ≤ 12
  next : s.accepted.isSome → s.tc.keyXportAt = reading s.due
  past : s.accepted.isSome → s.due ≤ s.now + 2000
  first : ∀ time, s.sent.head? = some time → s.accepted.getD 0 + 350 ≤ time
  apart : s.sent.Pairwise fun a b => a + 2000 ≤ b
  counter : s.tc.apsSecCounter = UInt32.ofNat (s.counters.length + 1)
  counters : s.counters = (List.range s.counters.length).map fun i => UInt32.ofNat (i + 1)

variable {ecb} {gKtk} {s : Schedule}

theorem Inv.early_iff (h : Inv s) {time : Nat} (hin : InTime s (.service time))
    (haccepted : s.accepted.isSome) :
    (reading time - s.tc.keyXportAt).toInt32 < 0 ↔ time < s.due := by
  have hpast := h.past haccepted
  have hnow : s.now ≤ time := hin.1
  rw [h.next haccepted]
  exact sub_neg_iff (hin.2 haccepted) (by omega)

theorem Inv.tries_lt_iff (h : Inv s) (haccepted : s.accepted.isSome) :
    ¬ s.tc.keyXportTries ≥ 12 ↔ s.sent.length < 12 := by
  rw [ge_iff_le, UInt8.le_iff_toNat_le, h.tries haccepted]
  exact not_le

/-- A transport goes out exactly when one is owed and its time has come. -/
theorem Inv.sends_iff (ecb : BlockCipher) (gKtk : Block) (h : Inv s) {time : Nat}
    (hin : InTime s (.service time)) :
    (serviceKeyTransport ecb gKtk s.tc (reading time)).2.isSome ↔ s.Owes ∧ s.due ≤ time := by
  by_cases hdue : s.tc.pendingKeyXport = true ∧ ¬ (reading time - s.tc.keyXportAt).toInt32 < 0 ∧
      ¬ s.tc.keyXportTries ≥ 12
  · obtain ⟨hpending, htime, htries⟩ := hdue
    obtain ⟨haccepted, hannounced⟩ := h.pending hpending
    rw [serviceKeyTransport_due hpending htime htries]
    rw [h.early_iff hin haccepted, not_lt] at htime
    rw [h.tries_lt_iff haccepted] at htries
    exact iff_of_true rfl ⟨⟨haccepted, hannounced, htries⟩, htime⟩
  · rw [(serviceKeyTransport_idle ecb gKtk hdue).1]
    refine iff_of_false (by simp) fun howes => hdue ⟨h.owes howes.1, ?_, ?_⟩
    · rw [h.early_iff hin howes.1.1, not_lt]
      exact howes.2
    · rw [h.tries_lt_iff howes.1.1]
      exact howes.1.2.2

theorem due_of_sent {s' : Schedule} {time : Nat} (h : s'.sent = s.sent ++ [time]) :
    s'.due = time + 2000 := by
  simp [due, h]

theorem step_service_now (time : Nat) : (step ecb gKtk s (.service time)).now = time := by
  simp only [step]
  split <;> rfl

/-- All transports so far lie as far before the next one as they must. -/
theorem Inv.due_spaced (h : Inv s) : ∀ a ∈ s.sent, a + 2000 ≤ s.due := by
  intro a ha
  obtain ⟨pre, last, hsent⟩ := List.eq_nil_or_concat s.sent |>.resolve_left (List.ne_nil_of_mem ha)
  have hapart := h.apart
  have hdue : s.due = last + 2000 := by simp [due, hsent]
  rw [hsent, List.concat_eq_append] at ha hapart
  rcases List.mem_append.mp ha with hpre | hlast
  · have := (List.pairwise_append.mp hapart).2.2 a hpre last (List.mem_singleton_self _)
    omega
  · rw [List.mem_singleton.mp hlast, hdue]

theorem Inv.sent (h : Inv s) {time : Nat} (howes : s.Owes) (hready : s.due ≤ time)
    {tc : TrustCenter} (hpending : tc.pendingKeyXport = true)
    (htries : tc.keyXportTries = s.tc.keyXportTries + 1)
    (hnext : tc.keyXportAt = reading time + 2000)
    (hcounter : tc.apsSecCounter = s.tc.apsSecCounter + 1) :
    Inv { s with
      tc := tc, now := time, sent := s.sent ++ [time]
      counters := s.counters ++ [s.tc.apsSecCounter] } := by
  obtain ⟨haccepted, hannounced, hlt⟩ := howes
  refine ⟨fun _ => ⟨haccepted, hannounced⟩, fun _ => hpending, fun _ => ?_, ?_, fun _ => ?_,
    fun _ => ?_, fun first hfirst => ?_, ?_, ?_, ?_⟩
  · have hone : (1 : UInt8).toNat = 1 := rfl
    change tc.keyXportTries.toNat = (s.sent ++ [time]).length
    rw [htries, UInt8.toNat_add, h.tries haccepted, hone, List.length_append,
      List.length_singleton, Nat.mod_eq_of_lt (by omega)]
  · change (s.sent ++ [time]).length ≤ 12
    rw [List.length_append, List.length_singleton]
    omega
  · rw [due_of_sent rfl, reading_add]
    exact hnext
  · rw [due_of_sent rfl]
  · cases hsent : s.sent with
    | nil =>
      simp only [hsent, List.nil_append, List.head?_cons, Option.some.injEq] at hfirst
      simp only [due, hsent, List.getLast?_nil] at hready
      exact hfirst ▸ hready
    | cons a rest =>
      simp only [hsent, List.cons_append, List.head?_cons, Option.some.injEq] at hfirst
      exact h.first first (by rw [hsent, List.head?_cons, hfirst])
  · refine List.pairwise_append.mpr ⟨h.apart, List.pairwise_singleton _ _, ?_⟩
    intro a ha b hb
    rw [List.mem_singleton.mp hb]
    exact le_trans (h.due_spaced a ha) hready
  · change tc.apsSecCounter = _
    rw [hcounter, h.counter, List.length_append, List.length_singleton]
    exact (UInt32.ofNat_add _ 1).symm
  · change s.counters ++ [s.tc.apsSecCounter] = _
    rw [List.length_append, List.length_singleton, List.range_succ, List.map_append, ← h.counters,
      h.counter]
    rfl

theorem Inv.service (h : Inv s) {time : Nat} (hin : InTime s (.service time)) :
    Inv (step ecb gKtk s (.service time)) := by
  have hiff := h.sends_iff ecb gKtk hin
  by_cases hdue : s.tc.pendingKeyXport = true ∧ ¬ (reading time - s.tc.keyXportAt).toInt32 < 0 ∧
      ¬ s.tc.keyXportTries ≥ 12
  · obtain ⟨hpending, htime, htries⟩ := hdue
    have hcall : serviceKeyTransport ecb gKtk s.tc (reading time) = _ :=
      serviceKeyTransport_due hpending htime htries
    rw [hcall] at hiff
    obtain ⟨howes, hready⟩ := hiff.mp rfl
    simp only [step, hcall, Option.isSome_some, if_true]
    exact h.sent howes hready rfl rfl rfl rfl
  · obtain ⟨hnone, pending, hpending, htc⟩ := serviceKeyTransport_idle ecb gKtk hdue
    simp only [step, hnone, htc, Option.isSome_none, Bool.false_eq_true, if_false]
    refine { h with pending := ?_, owes := ?_, past := ?_ }
    · intro hp
      rcases hpending with hkept | ⟨-, hgone⟩
      · exact h.pending (hkept ▸ hp)
      · exact absurd (hgone.symm.trans hp) Bool.false_ne_true
    · intro howes
      rcases hpending with hkept | ⟨htries, -⟩
      · exact hkept.trans (h.owes howes)
      · exact absurd htries ((h.tries_lt_iff howes.1).mpr howes.2.2)
    · intro haccepted
      exact le_trans (h.past haccepted) (Nat.add_le_add_right hin.1 2000)

theorem Inv.step (h : Inv s) (op : Op) (hop : InTime s op) : Inv (step ecb gKtk s op) := by
  cases op with
  | accept ieee addr time =>
    refine { h with
      pending := fun _ => ⟨rfl, rfl⟩, owes := fun _ => rfl, tries := fun _ => rfl
      bound := Nat.zero_le _, next := fun _ => (reading_add time 350).symm, past := fun _ => ?_
      first := fun _ hfirst => ?_, apart := List.Pairwise.nil }
    · change time + 350 ≤ time + 2000
      omega
    · cases hfirst
  | announce addr =>
    by_cases haddr : addr = s.tc.keyXportAddr
    · subst haddr
      obtain ⟨pending, htc, hended⟩ : ∃ pending, noteAnnounce s.tc s.tc.keyXportAddr =
          { s.tc with pendingKeyXport := pending } ∧ pending = false := by
        simp only [noteAnnounce, and_true]
        split
        · exact ⟨false, rfl, rfl⟩
        · next hnot => exact ⟨s.tc.pendingKeyXport, rfl, Bool.eq_false_iff.mpr hnot⟩
      simp only [Schedule.step, htc, decide_true, Bool.or_true]
      exact { h with
        pending := fun hp => absurd (hended.symm.trans hp) Bool.false_ne_true
        owes := fun howes => absurd howes.2.1.symm Bool.false_ne_true }
    · have htc : noteAnnounce s.tc addr = s.tc := if_neg fun hnot => haddr hnot.2
      simp only [Schedule.step, htc, haddr, decide_false, Bool.or_false]
      exact h
  | service time => exact h.service hop

theorem Inv.start {tc : TrustCenter} (hidle : tc.pendingKeyXport = false)
    (hcounter : tc.apsSecCounter = 1) : Inv { tc := tc } :=
  { pending := fun hp => absurd (hidle.symm.trans hp) Bool.false_ne_true
    owes := fun howes => absurd howes.1 Bool.false_ne_true
    tries := nofun, bound := Nat.zero_le _, next := nofun, past := nofun, first := nofun
    apart := List.Pairwise.nil, counter := hcounter, counters := rfl }

/-- In every run in which the loop comes round in time: the device accepted last gets at most twelve
transports, the first 350 ms after it was accepted or later, any two of them 2000 ms apart or more.
One goes out just when the device has not announced itself, fewer than twelve were sent and the time
for the next has come. No two transports, to whichever device, have the same counter. -/
theorem key_schedule {tc : TrustCenter} (hidle : tc.pendingKeyXport = false)
    (hcounter : tc.apsSecCounter = 1) {ops : List Op}
    (hrun : Runs.Along (step ecb gKtk) InTime { tc := tc } ops) :
    let s := ops.foldl (step ecb gKtk) { tc := tc }
    s.sent.length ≤ 12 ∧
    (∀ first, s.sent.head? = some first → s.accepted.getD 0 + 350 ≤ first) ∧
    (s.sent.Pairwise fun a b => a + 2000 ≤ b) ∧
    (∀ time, InTime s (.service time) →
      ((serviceKeyTransport ecb gKtk s.tc (reading time)).2.isSome ↔
        s.accepted.isSome ∧ s.announced = false ∧ s.sent.length < 12 ∧ s.due ≤ time)) ∧
    (s.counters.length < lap → s.counters.Nodup) := by
  intro s
  have h : Inv s := hrun.invariant (fun _ op h hop => h.step op hop) (Inv.start hidle hcounter)
  refine ⟨h.bound, h.first, h.apart, fun time hin => ?_, fun hlen => ?_⟩
  · rw [h.sends_iff ecb gKtk hin, Owes, and_assoc, and_assoc]
  · rw [h.counters]
    apply List.Nodup.map_on ?_ List.nodup_range
    intro i hi j hj hij
    rw [List.mem_range] at hi hj
    have htoNat := congrArg UInt32.toNat hij
    simp only [UInt32.toNat_ofNat'] at htoNat
    unfold lap at hlen
    omega

/-! ## Two devices, one after the other -/

theorem step_sends (ecb : BlockCipher) (gKtk : Block) (h : Inv s) {time : Nat}
    (hin : InTime s (.service time)) (howes : s.Owes) (hready : s.due ≤ time) :
    ∃ tc, step ecb gKtk s (.service time) =
      { s with
        tc := tc, now := time, sent := s.sent ++ [time]
        counters := s.counters ++ [s.tc.apsSecCounter] } := by
  have hsends := (h.sends_iff ecb gKtk hin).mpr ⟨howes, hready⟩
  simp only [step, if_pos hsends]
  exact ⟨_, rfl⟩

/-- A device that is accepted, and the loop that comes round as its first two transports are due. -/
private def accepting (ieee : UInt64) (addr : UInt16) (time : Nat) : List Op :=
  [.accept ieee addr time, .service (time + 350), .service (time + 2350)]

private theorem inTime_early {time : Nat} (hnow : s.now ≤ time) (hearly : time < 0x80000000) :
    InTime s (.service time) :=
  ⟨hnow, fun _ => Nat.lt_of_lt_of_le hearly (Nat.le_add_left _ _)⟩

private theorem accepting_run (ecb : BlockCipher) (gKtk : Block) (h : Inv s) (ieee : UInt64)
    (addr : UInt16) {time : Nat} (hnow : s.now ≤ time) (hearly : time + 2350 < 0x80000000) :
    Runs.Along (step ecb gKtk) InTime s (accepting ieee addr time) ∧
      ∃ tc counter, (accepting ieee addr time).foldl (step ecb gKtk) s =
        { tc := tc, now := time + 2350, accepted := some time, announced := false
          sent := [time + 350, time + 2350]
          counters := s.counters ++ [s.tc.apsSecCounter, counter] } := by
  obtain ⟨s₁, hs₁⟩ : ∃ s₁, step ecb gKtk s (.accept ieee addr time) = s₁ := ⟨_, rfl⟩
  have haccepted : Inv s₁ := hs₁ ▸ h.step (.accept ieee addr time) hnow
  have hfirst : InTime s₁ (.service (time + 350)) := by
    rw [← hs₁]
    exact inTime_early (Nat.le_add_right time 350) (by omega)
  have hsecond : InTime (step ecb gKtk s₁ (.service (time + 350))) (.service (time + 2350)) := by
    apply inTime_early _ hearly
    rw [step_service_now]
    omega
  have hkeyed : Inv (step ecb gKtk s₁ (.service (time + 350))) := haccepted.step _ hfirst
  have hrun : Runs.Along (step ecb gKtk) InTime s (accepting ieee addr time) := by
    simp only [accepting, Runs.Along, hs₁]
    exact ⟨hnow, hfirst, hsecond, trivial⟩
  refine ⟨hrun, ?_⟩
  obtain ⟨tc₁, hstep₁⟩ := step_sends ecb gKtk haccepted hfirst
    (by rw [← hs₁]; exact ⟨rfl, rfl, Nat.zero_lt_succ 11⟩) (by rw [← hs₁]; exact Nat.le_refl _)
  rw [hstep₁] at hkeyed hsecond
  obtain ⟨tc₂, hstep₂⟩ := step_sends ecb gKtk hkeyed hsecond
    (by rw [← hs₁]; exact ⟨rfl, rfl, Nat.succ_lt_succ (Nat.zero_lt_succ 10)⟩)
    (by rw [← hs₁]; exact Nat.le_refl _)
  refine ⟨tc₂, tc₁.apsSecCounter, ?_⟩
  simp only [accepting, List.foldl_cons, List.foldl_nil, hs₁, hstep₁, hstep₂]
  simp [← hs₁, step, scheduleKey]

private def hub : TrustCenter where
  radio := {}
  thisIeee := 0x1A62195E00000001
  panId := 0x1A62
  nwkAddress := 0
  networkKey := Block.ofList [0x1A, 0x62]

/-- A device that announces itself after two transports, and the one accepted next. -/
private def twoDevices : List Op :=
  accepting 0x1A62195E00000002 0x31 0 ++ .announce 0x31 :: accepting 0x1A62195E00000003 0x32 5000

private theorem twoDevices_run (ecb : BlockCipher) (gKtk : Block) :
    Runs.Along (step ecb gKtk) InTime { tc := hub } twoDevices ∧
      let s := twoDevices.foldl (step ecb gKtk) { tc := hub }
      s.accepted = some 5000 ∧ s.announced = false ∧ s.sent = [5350, 7350] ∧
        s.counters.length = 4 := by
  have hstart : Inv { tc := hub } := Inv.start rfl rfl
  obtain ⟨hearly, tc₁, counter₁, hsent₁⟩ :=
    accepting_run ecb gKtk hstart 0x1A62195E00000002 0x31 (Nat.le_refl 0) (by decide)
  have hinv := hearly.invariant (fun _ op h hop => h.step op hop) hstart
  rw [hsent₁] at hinv
  obtain ⟨hlate, tc₂, counter₂, hsent₂⟩ := accepting_run ecb gKtk
    (@Inv.step ecb gKtk _ hinv (.announce 0x31) trivial) 0x1A62195E00000003 0x32
    (by decide : 2350 ≤ 5000) (by decide)
  rw [twoDevices, Runs.along_append, List.foldl_append, hsent₁, List.foldl_cons, hsent₂]
  exact ⟨⟨hearly, trivial, hlate⟩, rfl, rfl, rfl, rfl⟩

/-- The device accepted last has had two transports, and its third is due 2000 ms later. -/
theorem key_schedule_two_devices :
    let s := twoDevices.foldl (step Aes128.encrypt (Block.ofList [])) { tc := hub }
    s.sent = [5350, 7350] ∧ s.sent.length ≤ 12 ∧
    (∀ first, s.sent.head? = some first → s.accepted.getD 0 + 350 ≤ first) ∧
    (s.sent.Pairwise fun a b => a + 2000 ≤ b) ∧
    (∀ time, InTime s (.service time) →
      ((serviceKeyTransport Aes128.encrypt (Block.ofList []) s.tc (reading time)).2.isSome ↔
        9350 ≤ time)) ∧
    s.counters.length = 4 ∧ s.counters.Nodup := by
  intro s
  obtain ⟨hrun, haccepted, hannounced, hsent, hcounters⟩ :=
    twoDevices_run Aes128.encrypt (Block.ofList [])
  obtain ⟨hbound, hfirst, hapart, hsends, hnodup⟩ := key_schedule rfl rfl hrun
  have hdue : s.due = 9350 := by
    rw [due, show s.sent = [5350, 7350] from hsent]
    rfl
  refine ⟨hsent, hbound, hfirst, hapart, fun time hin => ?_, hcounters, hnodup ?_⟩
  · rw [hsends time hin, haccepted, hannounced, hsent, hdue]
    simp
  · rw [hcounters]
    decide

end Schedule

end NiusZigbee.SecureJoin
