import NiusZigbee.Library.Runs
import Mathlib.Algebra.Group.Int.Defs
import Mathlib.Algebra.Group.Nat.Defs
import Mathlib.Tactic.Common

/-!
# Thermostat setpoints

A Setpoint Raise/Lower adds its amount to the setpoints it selects, in `int16_t` that wraps. A
setpoint moves the way the amount says just while the sum stays within 16 bits.
-/

namespace NiusZigbee

structure ThermostatState where
  localTemperature : Int16 := 2100
  heatingSetpoint : Int16 := 2000
  coolingSetpoint : Int16 := 2600
  systemMode : UInt8 := 0x04
deriving DecidableEq, Repr

namespace ZigbeeThermostatCluster

def thermostatCmdSetpointRaiseLower : UInt8 := 0x00

def thermostatSetpointHeat : UInt8 := 0x00

def thermostatSetpointCool : UInt8 := 0x01

def thermostatSetpointBoth : UInt8 := 0x02

/-- The state afterwards, and whether a setpoint changed. -/
def applyCommand (commandId : UInt8) (payload : List UInt8) (state : ThermostatState) :
    ThermostatState × Bool :=
  match payload with
  | mode :: amount :: _ =>
    if commandId ≠ thermostatCmdSetpointRaiseLower then (state, false)
    else
      let delta := amount.toInt8.toInt16 * 10
      let (state, changed) :=
        if mode = thermostatSetpointHeat ∨ mode = thermostatSetpointBoth then
          ({ state with heatingSetpoint := state.heatingSetpoint + delta }, true)
        else (state, false)
      if mode = thermostatSetpointCool ∨ mode = thermostatSetpointBoth then
        ({ state with coolingSetpoint := state.coolingSetpoint + delta }, true)
      else (state, changed)
  | _ => (state, false)

end ZigbeeThermostatCluster

open ZigbeeThermostatCluster

structure ThermostatCommand where
  commandId : UInt8
  payload : List UInt8

inductive Setpoint
  | heating
  | cooling

/-- The mode that selects the setpoint alone. -/
def Setpoint.mode : Setpoint → UInt8
  | .heating => thermostatSetpointHeat
  | .cooling => thermostatSetpointCool

namespace ThermostatCommand

/-- Mode and amount of a Setpoint Raise/Lower. -/
def raiseLower (c : ThermostatCommand) : Option (UInt8 × Int8) :=
  match c.payload with
  | mode :: amount :: _ =>
    if c.commandId = thermostatCmdSetpointRaiseLower then some (mode, amount.toInt8) else none
  | _ => none

/-- The amount, in 0.1 C, by which the command asks setpoint `p` to move. -/
def moves (c : ThermostatCommand) (p : Setpoint) : Option Int8 :=
  c.raiseLower.bind fun r =>
    if r.1 = p.mode ∨ r.1 = thermostatSetpointBoth then some r.2 else none

end ThermostatCommand

namespace ThermostatState

def setpoint (state : ThermostatState) : Setpoint → Int16
  | .heating => state.heatingSetpoint
  | .cooling => state.coolingSetpoint

def step (state : ThermostatState) (c : ThermostatCommand) : ThermostatState :=
  (applyCommand c.commandId c.payload state).1

/-- A positive amount lowers no setpoint, a negative one raises none, and what is not selected
stays. -/
structure Respects (state : ThermostatState) (c : ThermostatCommand) : Prop where
  raised : ∀ r, c.raiseLower = some r → 0 < r.2 → ∀ p, state.setpoint p ≤ (state.step c).setpoint p
  lowered : ∀ r, c.raiseLower = some r → r.2 < 0 → ∀ p, (state.step c).setpoint p ≤ state.setpoint p
  kept : ∀ p, c.moves p = none → (state.step c).setpoint p = state.setpoint p

/-- Every setpoint that is to move stays within 16 bits. -/
def InRange (state : ThermostatState) (c : ThermostatCommand) : Prop :=
  ∀ p amount, c.moves p = some amount →
    -2 ^ 15 ≤ (state.setpoint p).toInt + 10 * amount.toInt ∧
      (state.setpoint p).toInt + 10 * amount.toInt < 2 ^ 15

variable {state : ThermostatState} {c : ThermostatCommand} {p : Setpoint}

theorem setpoint_step (state : ThermostatState) (c : ThermostatCommand) (p : Setpoint) :
    (state.step c).setpoint p =
      (c.moves p).elim (state.setpoint p) fun amount => state.setpoint p + amount.toInt16 * 10 := by
  obtain ⟨commandId, payload⟩ := c
  rcases payload with _ | ⟨mode, _ | ⟨amount, rest⟩⟩
  · rfl
  · rfl
  by_cases hid : commandId = thermostatCmdSetpointRaiseLower
  · subst hid
    by_cases hheat : mode = thermostatSetpointHeat ∨ mode = thermostatSetpointBoth <;>
      by_cases hcool : mode = thermostatSetpointCool ∨ mode = thermostatSetpointBoth <;>
      cases p <;>
      simp [step, applyCommand, ThermostatCommand.moves, ThermostatCommand.raiseLower, setpoint,
        Setpoint.mode, hheat, hcool]
  · simp [step, applyCommand, ThermostatCommand.moves, ThermostatCommand.raiseLower, hid]

theorem toInt_moved (x : Int16) (amount : Int8) :
    (x + amount.toInt16 * 10).toInt = (x.toInt + 10 * amount.toInt).bmod (2 ^ 16) := by
  have hdelta : (amount.toInt16 * 10).toInt = 10 * amount.toInt := by
    have hlow := amount.le_toInt
    have hhigh := amount.toInt_lt
    rw [Int16.toInt_mul, Int8.toInt_toInt16]
    change (amount.toInt * 10).bmod (2 ^ 16) = _
    rw [Int.mul_comm]
    exact Int.bmod_eq_of_le (by omega) (by omega)
  rw [Int16.toInt_add, hdelta]

/-- The sum keeps the direction of the amount exactly when it does not wrap. -/
theorem moved_iff (x : Int16) (amount : Int8) :
    ((0 < amount → x ≤ x + amount.toInt16 * 10) ∧ (amount < 0 → x + amount.toInt16 * 10 ≤ x)) ↔
      -2 ^ 15 ≤ x.toInt + 10 * amount.toInt ∧ x.toInt + 10 * amount.toInt < 2 ^ 15 := by
  have hlow := amount.le_toInt
  have hhigh := amount.toInt_lt
  have hxlow := x.le_toInt
  have hxhigh := x.toInt_lt
  have hzero : (0 : Int8).toInt = 0 := rfl
  rw [Int16.le_iff_toInt_le, Int16.le_iff_toInt_le, Int8.lt_iff_toInt_lt, Int8.lt_iff_toInt_lt,
    hzero, toInt_moved]
  have hwrap : ∀ y : Int, -2 ^ 16 ≤ y → y < 2 ^ 16 → y.bmod (2 ^ 16) =
      if y < -2 ^ 15 then y + 2 ^ 16 else if y < 2 ^ 15 then y else y - 2 ^ 16 := by
    intro y hy hy'
    rw [Int.bmod_def]
    omega
  rw [hwrap _ (by omega) (by omega)]
  omega

theorem respects_iff : state.Respects c ↔ state.InRange c := by
  have hmoves : ∀ p amount, c.moves p = some amount →
      (state.step c).setpoint p = state.setpoint p + amount.toInt16 * 10 := by
    intro p amount h
    rw [setpoint_step, h, Option.elim_some]
  have hstays : ∀ p, c.moves p = none → (state.step c).setpoint p = state.setpoint p := by
    intro p h
    rw [setpoint_step, h, Option.elim_none]
  have hamount : ∀ p amount, c.moves p = some amount →
      ∃ r, c.raiseLower = some r ∧ r.2 = amount := by
    intro p amount h
    obtain ⟨r, hr, hmode⟩ := Option.bind_eq_some_iff.mp h
    exact ⟨r, hr, Option.some.inj (Option.ite_none_right_eq_some.mp hmode).2⟩
  constructor
  · intro h p amount hp
    obtain ⟨r, hr, rfl⟩ := hamount p amount hp
    rw [← moved_iff, ← hmoves p r.2 hp]
    exact ⟨fun hpos => h.raised r hr hpos p, fun hneg => h.lowered r hr hneg p⟩
  · intro h
    have hdirection : ∀ r, c.raiseLower = some r → ∀ p,
        (0 < r.2 → state.setpoint p ≤ (state.step c).setpoint p) ∧
          (r.2 < 0 → (state.step c).setpoint p ≤ state.setpoint p) := by
      intro r hr p
      cases hp : c.moves p with
      | none =>
        rw [hstays p hp]
        exact ⟨fun _ => Int16.le_refl _, fun _ => Int16.le_refl _⟩
      | some amount =>
        obtain ⟨r', hr', rfl⟩ := hamount p amount hp
        obtain rfl := Option.some.inj (hr.symm.trans hr')
        rw [hmoves p r.2 hp]
        exact (moved_iff _ _).mpr (h p r.2 hp)
    exact ⟨fun r hr hpos p => (hdirection r hr p).1 hpos,
      fun r hr hneg p => (hdirection r hr p).2 hneg, hstays⟩

/-- Over any run the setpoints move the way they are asked to just while none of them wraps. -/
theorem run_respects_iff (state : ThermostatState) (commands : List ThermostatCommand) :
    Runs.Along step Respects state commands ↔ Runs.Along step InRange state commands :=
  Runs.along_congr fun _ _ => respects_iff

/-- The twenty-fifth of the largest raises takes the default heating setpoint below zero. -/
theorem raise_lowers : ¬ ∀ (state : ThermostatState) (commands : List ThermostatCommand),
    Runs.Along step Respects state commands := by
  intro h
  let raise : ThermostatCommand := ⟨0x00, [0x00, 127]⟩
  have hrun := h {} (List.replicate 24 raise ++ [raise])
  have hlast := (Runs.along_append.mp hrun).2.1
  exact absurd (hlast.raised (0x00, 127) rfl (by decide) .heating) (by decide)

end ThermostatState

end NiusZigbee
