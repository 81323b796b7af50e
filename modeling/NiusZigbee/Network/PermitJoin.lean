import NiusZigbee.Library.Clock
import NiusZigbee.Network.AddressAllocator

/-!
# The permit-join window over time

Nothing is recorded when the window elapses: every query compares the time since it opened again,
up to whole laps of the clock.
-/

namespace NiusZigbee

namespace ZigbeePermitJoin

/-- What is done to the window, at true times. -/
inductive Call where
  | «open» (durationSeconds : UInt8) (time : Nat)
  | close

def after : ZigbeePermitJoin → Call → ZigbeePermitJoin
  | _, .open durationSeconds time => .open durationSeconds (Clock.reading time)
  | _, .close => .close

/-- The latest `open` not followed by a `close`. -/
def latest : Option (UInt8 × Nat) → Call → Option (UInt8 × Nat)
  | _, .open durationSeconds time => some (durationSeconds, time)
  | _, .close => none

/-- The window is open at time `t`. -/
def Within (window : Option (UInt8 × Nat)) (t : Nat) : Prop :=
  ∃ w ∈ window, t < w.2 + w.1.toNat * 1000

/-- What the object reports at time `t` is the window, closed for good once it has elapsed. -/
structure Faithful (permit : ZigbeePermitJoin) (window : Option (UInt8 × Nat)) (t : Nat) :
    Prop where
  isOpen_iff : permit.isOpen (Clock.reading t) = true ↔ Within window t
  closed : ∀ s, (∀ w ∈ window, w.2 ≤ s) → s ≤ t → ¬ Within window s →
    permit.isOpen (Clock.reading t) = false
  positive_iff : 0 < permit.remainingSeconds (Clock.reading t) ↔
    permit.isOpen (Clock.reading t) = true
  decreasing : ∀ s, (∀ w ∈ window, w.2 ≤ s) → s ≤ t →
    permit.remainingSeconds (Clock.reading t) ≤ permit.remainingSeconds (Clock.reading s)

/-- The clock is in its first lap since the window opened, or past the window in a later one. -/
def InTime (window : Option (UInt8 × Nat)) (t : Nat) : Prop :=
  ∀ w ∈ window, t - w.2 < Clock.lap ∨ w.1.toNat * 1000 ≤ (t - w.2) % Clock.lap

instance (window : Option (UInt8 × Nat)) (t : Nat) : Decidable (Within window t) :=
  inferInstanceAs (Decidable (∃ w ∈ window, _))

variable {durationSeconds : UInt8} {opened t : Nat} {permit : ZigbeePermitJoin}

private theorem window_toNat : (durationSeconds.toUInt32 * 1000).toNat =
    durationSeconds.toNat * 1000 := by
  have hlt := durationSeconds.toNat_lt
  rw [UInt32.toNat_mul, UInt8.toNat_toUInt32]
  simp
  omega

theorem isOpen_open (hd : durationSeconds ≠ 0xFF) (ht : opened ≤ t) :
    (ZigbeePermitJoin.open durationSeconds (Clock.reading opened)).isOpen (Clock.reading t) =
      true ↔ (t - opened) % Clock.lap < durationSeconds.toNat * 1000 := by
  by_cases h0 : durationSeconds = 0
  · simp [isOpen, ZigbeePermitJoin.open, h0]
  · have hopen : (durationSeconds != 0) = true := by simpa using h0
    rw [isOpen, ZigbeePermitJoin.open, hopen]
    simp only [Bool.not_true, Bool.false_eq_true, if_false, if_neg hd, decide_eq_true_eq,
      UInt32.lt_iff_toNat_lt, window_toNat, Clock.elapsed ht]

/-- The seconds left of an open window, a started one counted in full. -/
theorem remainingSeconds_open (hd : durationSeconds ≠ 0xFF) (ht : opened ≤ t) :
    ((ZigbeePermitJoin.open durationSeconds (Clock.reading opened)).remainingSeconds
      (Clock.reading t)).toNat = durationSeconds.toNat - (t - opened) % Clock.lap / 1000 := by
  have hlt := durationSeconds.toNat_lt
  have hsec : ((Clock.reading t - Clock.reading opened) / 1000).toNat =
      (t - opened) % Clock.lap / 1000 := by
    rw [UInt32.toNat_div, Clock.elapsed ht]
    rfl
  unfold remainingSeconds
  cases hopen : (ZigbeePermitJoin.open durationSeconds (Clock.reading opened)).isOpen
      (Clock.reading t) with
  | false =>
    have hover := mt (isOpen_open hd ht).mpr (by rw [hopen]; exact Bool.false_ne_true)
    simp only [Bool.not_false, if_true, UInt8.toNat_zero]
    omega
  | true =>
    have hleft := (isOpen_open hd ht).mp hopen
    have hsome : ¬ (Clock.reading t - Clock.reading opened) / 1000 ≥
        durationSeconds.toUInt32 := by
      rw [ge_iff_le, UInt32.le_iff_toNat_le, hsec, UInt8.toNat_toUInt32]
      omega
    have hle : (Clock.reading t - Clock.reading opened) / 1000 ≤ durationSeconds.toUInt32 :=
      UInt32.le_of_lt (UInt32.not_le.mp hsome)
    have hseconds : (ZigbeePermitJoin.open durationSeconds (Clock.reading opened)).durationSeconds =
        durationSeconds := rfl
    have hopened : (ZigbeePermitJoin.open durationSeconds (Clock.reading opened)).openedMs =
        Clock.reading opened := rfl
    simp only [Bool.not_true, Bool.false_eq_true, if_false, hseconds, hopened, if_neg hd,
      if_neg hsome]
    rw [UInt32.toNat_toUInt8, UInt32.toNat_sub_of_le _ _ hle, hsec, UInt8.toNat_toUInt32,
      Nat.mod_eq_of_lt (by omega)]

theorem run_latest (calls : List Call) :
    (calls.foldl latest none = none ∧ (calls.foldl after {}).open_ = false) ∨
    ∃ durationSeconds opened, calls.foldl latest none = some (durationSeconds, opened) ∧
      calls.foldl after {} = .open durationSeconds (Clock.reading opened) := by
  induction calls using List.reverseRecOn with
  | nil => exact .inl ⟨rfl, rfl⟩
  | append_singleton calls call _ =>
    rw [List.foldl_append, List.foldl_append]
    cases call with
    | «open» durationSeconds opened => exact .inr ⟨durationSeconds, opened, rfl, rfl⟩
    | close => exact .inl ⟨rfl, rfl⟩

private theorem faithful_closed (h : permit.open_ = false) : Faithful permit none t := by
  have hopen : ∀ nowMs, permit.isOpen nowMs = false := fun nowMs => by rw [isOpen, h]; rfl
  have hnone : ∀ nowMs, permit.remainingSeconds nowMs = 0 := fun nowMs => by
    rw [remainingSeconds, hopen]; rfl
  constructor
  · simp [hopen, Within]
  · intro _ _ _ _
    exact hopen _
  · simp [hopen, hnone]
  · intro s _ _
    rw [hnone, hnone]
    exact UInt8.le_refl 0

/-- The clock tells the window's time just when its laps make no difference to the window. -/
theorem inTime_iff (durationSeconds : UInt8) (opened t : Nat) :
    InTime (some (durationSeconds, opened)) t ↔
      ((t - opened) % Clock.lap < durationSeconds.toNat * 1000 ↔
        t - opened < durationSeconds.toNat * 1000) := by
  have hmod := Nat.mod_le (t - opened) Clock.lap
  have hdur := durationSeconds.toNat_lt
  have hlong : durationSeconds.toNat * 1000 < Clock.lap := by
    unfold Clock.lap
    omega
  simp only [InTime, Option.mem_def, Option.some.injEq, forall_eq']
  constructor
  · rintro (hlap | hpast)
    · rw [Nat.mod_eq_of_lt hlap]
    · omega
  · intro hsame
    by_cases hlap : t - opened < Clock.lap
    · exact .inl hlap
    · refine .inr (Nat.not_lt.mp fun hreopened => ?_)
      have hlt := hsame.mp hreopened
      omega

private theorem faithful_open (hd : durationSeconds ≠ 0xFF) (ht : opened ≤ t) :
    Faithful (.open durationSeconds (Clock.reading opened)) (some (durationSeconds, opened)) t ↔
      InTime (some (durationSeconds, opened)) t := by
  have hwithin : ∀ s, opened ≤ s → (Within (some (durationSeconds, opened)) s ↔
      s - opened < durationSeconds.toNat * 1000) := by
    intro s hs
    simp only [Within, Option.mem_def, Option.some.injEq, exists_eq_left']
    omega
  rw [inTime_iff]
  constructor
  · intro h
    rw [← isOpen_open hd ht, ← hwithin t ht]
    exact h.isOpen_iff
  intro hsame
  constructor
  · rw [isOpen_open hd ht, hwithin t ht, hsame]
  · intro s hs hst helapsed
    have hos : opened ≤ s := hs _ rfl
    rw [hwithin s hos] at helapsed
    rw [← Bool.not_eq_true, isOpen_open hd ht, hsame]
    omega
  · rw [isOpen_open hd ht, UInt8.lt_iff_toNat_lt, remainingSeconds_open hd ht, UInt8.toNat_zero]
    omega
  · intro s hs hst
    have hos : opened ≤ s := hs _ rfl
    rw [UInt8.le_iff_toNat_le, remainingSeconds_open hd ht, remainingSeconds_open hd hos]
    by_cases hin : (t - opened) % Clock.lap < durationSeconds.toNat * 1000
    · have hin' := hsame.mp hin
      have hdur := durationSeconds.toNat_lt
      rw [Nat.mod_eq_of_lt (by unfold Clock.lap; omega),
        Nat.mod_eq_of_lt (by unfold Clock.lap; omega)]
      omega
    · omega

/-- The object reports the window at every time since the latest `open` but those in a later lap
of the clock at which the window, opened anew with that lap, would still be open. -/
theorem faithful_iff_inTime (calls : List Call) (t : Nat)
    (hlatest : ∀ w ∈ calls.foldl latest none, w.1 ≠ 0xFF ∧ w.2 ≤ t) :
    Faithful (calls.foldl after {}) (calls.foldl latest none) t ↔
      InTime (calls.foldl latest none) t := by
  rcases run_latest calls with ⟨hnone, hclosed⟩ | ⟨durationSeconds, opened, hsome, hopen⟩
  · rw [hnone]
    exact ⟨fun _ => by simp [InTime], fun _ => faithful_closed hclosed⟩
  · rw [hsome] at hlatest
    obtain ⟨hd, ht⟩ : durationSeconds ≠ 0xFF ∧ opened ≤ t := hlatest _ rfl
    rw [hsome, hopen]
    exact faithful_open hd ht

/-- A window of a minute is open again when the clock has gone round. -/
theorem reopens_after_lap :
    let permit := ZigbeePermitJoin.after {} (.open 60 0)
    permit.isOpen (Clock.reading 60000) = false ∧
      permit.isOpen (Clock.reading Clock.lap) = true ∧
      ¬ Faithful permit (latest none (.open 60 0)) Clock.lap := by
  refine ⟨by decide, by decide, fun h => ?_⟩
  have hwithin := h.isOpen_iff.mp (by decide)
  exact absurd hwithin (by decide)

/-- Opened twice, closed in between, and half a minute over. -/
theorem faithful_reopened :
    let calls := [Call.open 60 0, .close, .open 90 100000]
    Faithful (calls.foldl after {}) (calls.foldl latest none) 220000 := by
  intro calls
  refine (faithful_iff_inTime calls 220000 ?_).mpr ?_
  · intro w hw
    obtain rfl := Option.some.inj hw
    decide
  · intro w hw
    obtain rfl := Option.some.inj hw
    decide

end ZigbeePermitJoin

end NiusZigbee
