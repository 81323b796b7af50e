import Mathlib.Data.List.Basic
import NiusZigbee.Library.Runs

/-!
# Commissioning

`ZigbeeBdb` keeps the modes that are still to be done as bits of a byte. Over any run of calls it is
a list of modes in the order of precedence, worked off from the front and dropped when a step that
was to bring a network fails.
-/

namespace NiusZigbee

inductive BdbState where
  | idle
  | inProgress
  | done
deriving DecidableEq, Repr

structure ZigbeeBdb where
  pending : UInt8 := 0
  current : UInt8 := 0
  state : BdbState := .idle
  lastStatus : UInt8 := 0
deriving DecidableEq, Repr

namespace ZigbeeBdb

def bdbModeInitiatorTouchlink : UInt8 := 0x01
def bdbModeNetworkSteering : UInt8 := 0x02
def bdbModeNetworkFormation : UInt8 := 0x04
def bdbModeFindingBinding : UInt8 := 0x08

def bdbStatusSuccess : UInt8 := 0
def bdbStatusInProgress : UInt8 := 1

/-- The order of precedence. -/
def order : List UInt8 :=
  [bdbModeInitiatorTouchlink, bdbModeNetworkSteering, bdbModeNetworkFormation,
    bdbModeFindingBinding]

/-- The next pending mode. -/
def advance (bdb : ZigbeeBdb) : ZigbeeBdb :=
  match order.find? fun mode => bdb.pending &&& mode ≠ 0 with
  | some mode => { bdb with current := mode, state := .inProgress }
  | none => { bdb with current := 0, state := .done }

def start (bdb : ZigbeeBdb) (modes : UInt8) : ZigbeeBdb :=
  advance
    { bdb with
      pending := modes
      lastStatus := bdbStatusSuccess
      state := if modes ≠ 0 then .inProgress else .done }

def NetworkStep (mode : UInt8) : Prop :=
  mode = bdbModeNetworkSteering ∨ mode = bdbModeNetworkFormation

instance (mode : UInt8) : Decidable (NetworkStep mode) := inferInstanceAs (Decidable (_ ∨ _))

def reportResult (bdb : ZigbeeBdb) (status : UInt8) : ZigbeeBdb :=
  let finished := bdb.current
  let bdb := { bdb with lastStatus := status, pending := bdb.pending &&& ~~~finished }
  if status ≠ bdbStatusSuccess ∧ NetworkStep finished then
    { bdb with pending := 0, current := 0, state := .done }
  else advance bdb

def isActive (bdb : ZigbeeBdb) : Bool := bdb.state = .inProgress

def overallStatus (bdb : ZigbeeBdb) : UInt8 :=
  if bdb.state ≠ .done then bdbStatusInProgress else bdb.lastStatus

/-- What the application and the host call. -/
inductive Call where
  | start (modes : UInt8)
  | reportResult (status : UInt8)
deriving DecidableEq, Repr

def step (bdb : ZigbeeBdb) : Call → ZigbeeBdb
  | .start modes => bdb.start modes
  | .reportResult status => bdb.reportResult status

/-! ## The plan -/

/-- What is left to do, and what was reported last. -/
structure Plan where
  todo : List UInt8 := []
  started : Bool := false
  lastStatus : UInt8 := bdbStatusSuccess

namespace Plan

/-- The modes that are asked for, in the order of precedence. -/
def asked (modes : UInt8) : List UInt8 := order.filter fun mode => modes &&& mode ≠ 0

/-- A failed network step leaves nothing to do. -/
def after (status : UInt8) : List UInt8 → List UInt8
  | [] => []
  | mode :: rest => if status ≠ bdbStatusSuccess ∧ NetworkStep mode then [] else rest

def step (plan : Plan) : Call → Plan
  | .start modes => { todo := asked modes, started := true }
  | .reportResult status =>
    { todo := after status plan.todo, started := true, lastStatus := status }

/-- The mode that the host is to execute. -/
def currentMode (plan : Plan) : UInt8 := plan.todo.headD 0

def state (plan : Plan) : BdbState :=
  if plan.started = false then .idle else if plan.todo = [] then .done else .inProgress

end Plan

/-- The state of the source stands for the plan. -/
structure Follows (bdb : ZigbeeBdb) (plan : Plan) : Prop where
  pending : Plan.asked bdb.pending = plan.todo
  current : bdb.current = plan.currentMode
  state : bdb.state = plan.state
  lastStatus : bdb.lastStatus = plan.lastStatus

/-! ## Bits -/

theorem clear_and : ∀ mode ∈ order, ∀ other ∈ order,
    ~~~mode &&& other = if other = mode then 0 else other := by decide +kernel

theorem and_clear {p mode other : UInt8} (hmode : mode ∈ order) (hother : other ∈ order) :
    (p &&& ~~~mode) &&& other = if other = mode then 0 else p &&& other := by
  rw [UInt8.and_assoc, clear_and mode hmode other hother]
  split
  · exact UInt8.and_zero
  · rfl

theorem order_nodup : order.Nodup := by decide

theorem asked_zero : Plan.asked 0 = [] := by decide

theorem asked_clear {mode : UInt8} (hmode : mode ∈ order) (p : UInt8) :
    Plan.asked (p &&& ~~~mode) = (Plan.asked p).filter (· ≠ mode) := by
  rw [Plan.asked, Plan.asked, List.filter_filter]
  apply List.filter_congr
  intro other hother
  rw [and_clear hmode hother]
  by_cases heq : other = mode
  · simp [heq]
  · simp [heq]

/-- The mode worked on is the first that is asked for, so clearing its bit leaves the others. -/
theorem asked_rest {mode : UInt8} {rest : List UInt8} {p : UInt8}
    (h : Plan.asked p = mode :: rest) : Plan.asked (p &&& ~~~mode) = rest := by
  have hmem : mode ∈ Plan.asked p := h ▸ List.mem_cons_self
  have hnodup : (Plan.asked p).Nodup := order_nodup.filter _
  rw [h, List.nodup_cons] at hnodup
  rw [asked_clear (List.mem_of_mem_filter hmem), h, List.filter_cons_of_neg (by simp)]
  apply List.filter_eq_self.mpr
  intro other hother
  have hne : other ≠ mode := fun heq => hnodup.1 (heq ▸ hother)
  simpa using hne

theorem advance_eq (bdb : ZigbeeBdb) :
    bdb.advance =
      { bdb with
        current := (Plan.asked bdb.pending).headD 0
        state := if Plan.asked bdb.pending = [] then .done else .inProgress } := by
  have hfind : order.find? (fun mode => decide (bdb.pending &&& mode ≠ 0)) =
      (Plan.asked bdb.pending).head? := List.head?_filter.symm
  rw [advance, hfind]
  cases Plan.asked bdb.pending with
  | nil => rfl
  | cons mode rest => rfl

theorem start_follows (bdb : ZigbeeBdb) (plan : Plan) (modes : UInt8) :
    (bdb.start modes).Follows (plan.step (.start modes)) := by
  rw [start, advance_eq]
  exact ⟨rfl, rfl, rfl, rfl⟩

theorem reportResult_follows {bdb : ZigbeeBdb} {plan : Plan} (h : bdb.Follows plan)
    (status : UInt8) : (bdb.reportResult status).Follows (plan.step (.reportResult status)) := by
  have hcurrent := h.current
  have hpending := h.pending
  rw [reportResult]
  cases htodo : plan.todo with
  | nil =>
    rw [Plan.currentMode, htodo, List.headD_nil] at hcurrent
    rw [htodo] at hpending
    have hnone : ¬ (status ≠ bdbStatusSuccess ∧ NetworkStep 0) := fun hfail =>
      absurd hfail.2 (by decide)
    have hkeep : bdb.pending &&& ~~~(0 : UInt8) = bdb.pending := by simp
    simp only [hcurrent, if_neg hnone, advance_eq, hkeep, hpending]
    refine ⟨?_, ?_, ?_, rfl⟩
    · rw [hpending, Plan.step, htodo, Plan.after]
    · rw [Plan.step, htodo]
      rfl
    · rw [Plan.step, htodo]
      rfl
  | cons mode rest =>
    rw [Plan.currentMode, htodo, List.headD_cons] at hcurrent
    rw [htodo] at hpending
    have hrest := asked_rest hpending
    simp only [hcurrent]
    by_cases hfail : status ≠ bdbStatusSuccess ∧ NetworkStep mode
    · rw [if_pos hfail]
      refine ⟨?_, ?_, ?_, rfl⟩
      · rw [Plan.step, htodo, Plan.after, if_pos hfail]
        exact asked_zero
      · rw [Plan.step, htodo, Plan.after, if_pos hfail]
        rfl
      · rw [Plan.step, htodo, Plan.after, if_pos hfail]
        rfl
    · simp only [if_neg hfail, advance_eq, hrest]
      refine ⟨?_, ?_, ?_, rfl⟩
      · rw [hrest, Plan.step, htodo, Plan.after, if_neg hfail]
      · rw [Plan.step, htodo, Plan.after, if_neg hfail]
        rfl
      · rw [Plan.step, htodo, Plan.after, if_neg hfail]
        rfl

/-! ## Runs -/

theorem step_follows {bdb : ZigbeeBdb} {plan : Plan} (h : bdb.Follows plan) (call : Call) :
    (bdb.step call).Follows (plan.step call) := by
  cases call with
  | start modes => exact start_follows bdb plan modes
  | reportResult status => exact reportResult_follows h status

theorem initial_follows : Follows {} {} := ⟨by decide, rfl, rfl, rfl⟩

theorem run_follows (calls : List Call) :
    (calls.foldl step {}).Follows (calls.foldl Plan.step {}) :=
  List.foldl_rel initial_follows fun call _ _ _ h => step_follows h call

/-- A network step among the modes that the reports are about was reported as failed. -/
def Broken (todo reports : List UInt8) : Prop :=
  ∃ pair ∈ todo.zip reports, pair.2 ≠ bdbStatusSuccess ∧ NetworkStep pair.1

instance (todo reports : List UInt8) : Decidable (Broken todo reports) :=
  inferInstanceAs (Decidable (∃ _ ∈ _, _ ∧ _))

theorem broken_nil (reports : List UInt8) : ¬ Broken [] reports := by
  rintro ⟨pair, hmem, -⟩
  exact absurd hmem List.not_mem_nil

theorem broken_none (todo : List UInt8) : ¬ Broken todo [] := by
  rintro ⟨pair, hmem, -⟩
  rw [List.zip_nil_right] at hmem
  exact absurd hmem List.not_mem_nil

theorem broken_cons (mode status : UInt8) (todo reports : List UInt8) :
    Broken (mode :: todo) (status :: reports) ↔
      (status ≠ bdbStatusSuccess ∧ NetworkStep mode) ∨ Broken todo reports := by
  simp only [Broken, List.zip_cons_cons, List.exists_mem_cons_iff]

theorem after_foldl_nil (reports : List UInt8) :
    reports.foldl (fun todo status => Plan.after status todo) [] = [] := by
  induction reports with
  | nil => rfl
  | cons status reports ih => exact ih

/-- Each report takes one mode off the front, and a broken run takes them all. -/
theorem after_foldl (todo reports : List UInt8) :
    reports.foldl (fun todo status => Plan.after status todo) todo =
      if Broken todo reports then [] else todo.drop reports.length := by
  induction reports generalizing todo with
  | nil => rw [if_neg (broken_none todo), List.foldl_nil, List.length_nil, List.drop_zero]
  | cons status reports ih =>
    cases todo with
    | nil => rw [after_foldl_nil, if_neg (broken_nil _), List.drop_nil]
    | cons mode todo =>
      rw [List.foldl_cons, Plan.after, List.length_cons, List.drop_succ_cons]
      simp only [broken_cons]
      by_cases hfail : status ≠ bdbStatusSuccess ∧ NetworkStep mode
      · rw [if_pos hfail, after_foldl_nil, if_pos (.inl hfail)]
      · rw [if_neg hfail, ih]
        simp only [hfail, false_or]

theorem plan_reports (plan : Plan) (hstarted : plan.started = true) (reports : List UInt8) :
    (reports.map Call.reportResult).foldl Plan.step plan =
      { todo := reports.foldl (fun todo status => Plan.after status todo) plan.todo
        started := true
        lastStatus := reports.getLastD plan.lastStatus } := by
  induction reports generalizing plan with
  | nil => cases plan; cases hstarted; rfl
  | cons status reports ih =>
    rw [List.map_cons, List.foldl_cons, ih _ rfl, List.foldl_cons, List.getLastD_cons]
    rfl

/-- Whatever was called before, after a start the state machine hands out the modes that are asked
for in the order of precedence, one for each report, and stops at once after a failed network
step. -/
theorem commissioning_order (before : List Call) (modes : UInt8) (reports : List UInt8) :
    let bdb := (before ++ Call.start modes :: reports.map Call.reportResult).foldl step {}
    let left := if Broken (Plan.asked modes) reports then []
      else (Plan.asked modes).drop reports.length
    bdb.current = left.headD 0 ∧ (bdb.isActive = true ↔ left ≠ []) ∧
      bdb.overallStatus =
        if left = [] then reports.getLastD bdbStatusSuccess else bdbStatusInProgress := by
  intro bdb left
  have hfollows : bdb.Follows
      { todo := left, started := true, lastStatus := reports.getLastD bdbStatusSuccess } := by
    have hrun := run_follows (before ++ Call.start modes :: reports.map Call.reportResult)
    rw [List.foldl_append (f := Plan.step), List.foldl_cons, Plan.step, plan_reports _ rfl,
      after_foldl] at hrun
    exact hrun
  have hstate := hfollows.state
  refine ⟨hfollows.current, ?_, ?_⟩
  · rw [isActive, hstate, Plan.state]
    by_cases hleft : left = []
    · simp [hleft]
    · simp [hleft]
  · rw [overallStatus, hstate, hfollows.lastStatus, Plan.state]
    by_cases hleft : left = []
    · simp [hleft]
    · simp [hleft]

end ZigbeeBdb
end NiusZigbee
