import NiusZigbee.Library.Clock

/-!
# Report intervals

The scheduler of a boolean attribute asks for a report when the value has changed and the minimum
interval is over, and when it has not and the maximum interval is over. Each trigger has its own
interval, so the reports of an unchanged value keep to the minimum only if the maximum is no
shorter.
-/

namespace NiusZigbee

open Clock

structure ZigbeeBoolReportScheduler where
  configured : Bool := false
  attrId : UInt16 := 0
  minIntervalSec : UInt16 := 0
  maxIntervalSec : UInt16 := 0
  lastValue : Bool := false
  lastReportMs : UInt32 := 0
deriving DecidableEq, Repr

namespace ZigbeeBoolReportScheduler

def secondsToMs (seconds : UInt16) : UInt32 := seconds.toUInt32 * 1000

def configure (attrId minIntervalSec maxIntervalSec : UInt16) (currentValue : Bool)
    (nowMs : UInt32) : ZigbeeBoolReportScheduler where
  configured := true
  attrId := attrId
  minIntervalSec := minIntervalSec
  maxIntervalSec := maxIntervalSec
  lastValue := currentValue
  lastReportMs := nowMs

variable (s : ZigbeeBoolReportScheduler)

def shouldReport (currentValue : Bool) (nowMs : UInt32) : Bool :=
  if !s.configured then false
  else if s.maxIntervalSec == 0xFFFF then false
  else
    let elapsed := nowMs - s.lastReportMs
    if currentValue != s.lastValue then elapsed ≥ secondsToMs s.minIntervalSec
    else s.maxIntervalSec > 0 && elapsed ≥ secondsToMs s.maxIntervalSec

def markReported (currentValue : Bool) (nowMs : UInt32) : ZigbeeBoolReportScheduler :=
  { s with lastValue := currentValue, lastReportMs := nowMs }

/-- A poll at a true time, of the value found there. -/
structure Poll where
  time : Nat
  value : Bool
deriving DecidableEq, Repr

/-- The times of the reports that the polls lead to. -/
def reports : ZigbeeBoolReportScheduler → List Poll → List Nat
  | _, [] => []
  | s, p :: polls =>
    if s.shouldReport p.value (reading p.time) then
      p.time :: reports (s.markReported p.value (reading p.time)) polls
    else reports s polls

/-- Each time is `gap` seconds or more after the one before it. -/
def Spaced (gap : UInt16) (times : List Nat) : Prop :=
  times.IsChain fun s t => s + gap.toNat * 1000 ≤ t

instance (gap : UInt16) (times : List Nat) : Decidable (Spaced gap times) :=
  inferInstanceAs (Decidable (List.IsChain _ _))

/-- The times do not go back. -/
def Ordered (times : List Nat) : Prop := times.Pairwise (· ≤ ·)

instance (times : List Nat) : Decidable (Ordered times) :=
  inferInstanceAs (Decidable (List.Pairwise _ _))

variable {s}

theorem secondsToMs_toNat (seconds : UInt16) :
    (secondsToMs seconds).toNat = seconds.toNat * 1000 := by
  have hlt := seconds.toNat_lt
  have hmul : (secondsToMs seconds).toNat = seconds.toNat * 1000 % 2 ^ 32 := by
    simp [secondsToMs]
  omega

/-- What the counter shows as elapsed is no more than the time that is. -/
theorem elapsed_ge {last t : Nat} (hlast : last ≤ t) {seconds : UInt16}
    (h : reading t - reading last ≥ secondsToMs seconds) : last + seconds.toNat * 1000 ≤ t := by
  rw [ge_iff_le, UInt32.le_iff_toNat_le, secondsToMs_toNat, elapsed hlast] at h
  have hmod := Nat.mod_le (t - last) lap
  omega

theorem shouldReport_spaced {last : Nat} {p : Poll} (hreport : s.lastReportMs = reading last)
    (hlast : last ≤ p.time) (hmin : s.maxIntervalSec = 0 ∨ s.minIntervalSec ≤ s.maxIntervalSec)
    (h : s.shouldReport p.value (reading p.time) = true) :
    last + s.minIntervalSec.toNat * 1000 ≤ p.time := by
  unfold shouldReport at h
  rw [hreport] at h
  dsimp only at h
  split at h
  · cases h
  split at h
  · cases h
  split at h
  · exact elapsed_ge hlast (of_decide_eq_true h)
  · rw [Bool.and_eq_true, decide_eq_true_eq, decide_eq_true_eq] at h
    obtain ⟨hpos, helapsed⟩ := h
    have hmax := elapsed_ge hlast helapsed
    rcases hmin with hzero | hle
    · rw [hzero] at hpos
      exact absurd hpos (by decide)
    · have hnat := UInt16.le_iff_toNat_le.mp hle
      exact (Nat.add_le_add_left (Nat.mul_le_mul_right 1000 hnat) last).trans hmax

theorem reports_spaced {last : Nat} {polls : List Poll} (hreport : s.lastReportMs = reading last)
    (hmin : s.maxIntervalSec = 0 ∨ s.minIntervalSec ≤ s.maxIntervalSec)
    (hpolls : Ordered (last :: polls.map Poll.time)) :
    Spaced s.minIntervalSec (last :: s.reports polls) := by
  induction polls generalizing s last with
  | nil => exact List.IsChain.singleton last
  | cons p polls ih =>
    obtain ⟨hlast, hrest⟩ := List.pairwise_cons.mp hpolls
    rw [reports]
    by_cases h : s.shouldReport p.value (reading p.time) = true
    · rw [if_pos h]
      have hgap := shouldReport_spaced hreport (hlast p.time List.mem_cons_self) hmin h
      have hnext := @ih (s.markReported p.value (reading p.time)) p.time rfl hmin hrest
      exact List.IsChain.cons_cons hgap hnext
    · rw [if_neg h]
      refine ih hreport hmin ?_
      exact List.pairwise_cons.mpr ⟨fun t ht => hlast t (List.mem_cons_of_mem _ ht),
        (List.pairwise_cons.mp hrest).2⟩

theorem reports_unchanged {attrId minSec maxSec : UInt16} (value : Bool) (start : Nat)
    (hpos : maxSec ≠ 0) (hlimit : maxSec ≠ 0xFFFF) :
    (configure attrId minSec maxSec value (reading start)).reports
      [⟨start + maxSec.toNat * 1000, value⟩] = [start + maxSec.toNat * 1000] := by
  have hlt := maxSec.toNat_lt
  have hgt : maxSec > 0 := UInt16.pos_iff_ne_zero.mpr hpos
  have helapsed : reading (start + maxSec.toNat * 1000) - reading start ≥ secondsToMs maxSec := by
    rw [ge_iff_le, UInt32.le_iff_toNat_le, secondsToMs_toNat, elapsed (Nat.le_add_right _ _),
      Nat.add_sub_cancel_left, Nat.mod_eq_of_lt (by unfold lap; omega)]
  have hdue : (configure attrId minSec maxSec value (reading start)).shouldReport value
      (reading (start + maxSec.toNat * 1000)) = true := by
    simp [shouldReport, configure, hlimit, hgt, helapsed]
  rw [reports, if_pos hdue, reports]

/-- The reports keep to the minimum interval, whatever is polled, just when the maximum is off or no
shorter than the minimum. -/
theorem min_interval_iff (attrId minSec maxSec : UInt16) (value : Bool) (start : Nat) :
    (∀ polls : List Poll, Ordered (start :: polls.map Poll.time) →
      Spaced minSec
        (start :: (configure attrId minSec maxSec value (reading start)).reports polls)) ↔
      maxSec = 0 ∨ minSec ≤ maxSec := by
  constructor
  · intro h
    by_contra hnot
    rw [not_or, UInt16.not_le] at hnot
    obtain ⟨hpos, hlt⟩ := hnot
    have hnat := UInt16.lt_iff_toNat_lt.mp hlt
    have hlimit : maxSec ≠ 0xFFFF := by
      rintro rfl
      have hmin := minSec.toNat_lt
      exact absurd hnat (by simp; omega)
    have hspaced := h [⟨start + maxSec.toNat * 1000, value⟩] (by simp [Ordered])
    rw [reports_unchanged value start hpos hlimit, Spaced, List.isChain_cons_cons] at hspaced
    omega
  · intro hmin polls hpolls
    exact @reports_spaced (configure attrId minSec maxSec value (reading start)) start polls rfl
      hmin hpolls

/-- At least ten seconds and at most five: the second report comes after five. -/
theorem min_interval_broken :
    ¬ ∀ (attrId minSec maxSec : UInt16) (value : Bool) (start : Nat) (polls : List Poll),
      Ordered (start :: polls.map Poll.time) →
        Spaced minSec
          (start :: (configure attrId minSec maxSec value (reading start)).reports polls) := by
  intro h
  have hspaced := h 0 10 5 false 0 [⟨5000, false⟩] (by decide)
  revert hspaced
  decide

end ZigbeeBoolReportScheduler

end NiusZigbee
