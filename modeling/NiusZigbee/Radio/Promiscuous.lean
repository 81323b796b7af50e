import NiusZigbee.Library.Runs
import NiusZigbee.Radio.FirmwareTx
import NiusZigbee.Radio.UartLink

/-!
# Promiscuous mode on both sides

The driver remembers whether the module's frame filter is off, and two of its calls change the
filter. `setPromiscuous` keeps the two together; `configureMac` does so only while it does not turn
the filter off behind a driver that believes it to be on.
-/

namespace NiusZigbee

open Transducer

namespace CC2530Radio

def kMacFilter : UInt8 := 0x01
def kMacAutoAck : UInt8 := 0x02
def kMacCcaTx : UInt8 := 0x04

/-- The driver, and the command it sends. -/
def setPromiscuous (r : CC2530Radio) (on : Bool) : CC2530Radio × Firmware.Command :=
  ({ r with promiscuous := on }, ⟨Firmware.cmdSetPromisc, [if on then 0 else 1]⟩)

def configureMac (r : CC2530Radio) (flags retries : UInt8) : CC2530Radio × Firmware.Command :=
  ({ r with promiscuous := if flags &&& kMacFilter ≠ 0 then false else r.promiscuous },
    ⟨Firmware.cmdSetMac, [flags &&& (kMacFilter ||| kMacAutoAck ||| kMacCcaTx), retries]⟩)

end CC2530Radio

/-- The driver and the module it is wired to. -/
structure ModuleLink where
  radio : CC2530Radio
  parser : Firmware.Parser
  mac : Firmware.Mac

namespace ModuleLink

inductive Call where
  | setPromiscuous (on : Bool)
  | configureMac (flags retries : UInt8)
deriving DecidableEq, Repr

def Call.issue (r : CC2530Radio) : Call → CC2530Radio × Firmware.Command
  | .setPromiscuous on => r.setPromiscuous on
  | .configureMac flags retries => r.configureMac flags retries

/-- A call whose bytes all arrive. Its answer says nothing about the filter and is left out. -/
def call (l : ModuleLink) (c : Call) : ModuleLink :=
  let issued := c.issue l.radio
  match run Firmware.Parser.step l.parser
      (CC2530Radio.sendFrame issued.2.cc issued.2.data) with
  | none => { l with radio := issued.1 }
  | some (parser, commands) =>
    { radio := issued.1, parser := parser, mac := commands.foldl Firmware.Mac.configure l.mac }

/-- The driver believes the filter off just when it is. -/
def Agrees (l : ModuleLink) : Prop :=
  l.radio.promiscuous = true ↔ l.mac.macFlags &&& Firmware.macFlagFilter = 0

/-- The call does not turn the filter off for a driver that is not promiscuous. -/
def Keeps (l : ModuleLink) : Call → Prop
  | .setPromiscuous _ => True
  | .configureMac flags _ => flags &&& CC2530Radio.kMacFilter = 0 → l.radio.promiscuous = true

instance (l : ModuleLink) : Decidable l.Agrees := inferInstanceAs (Decidable (_ ↔ _))

variable {l : ModuleLink}

/-- The module's parser takes the command and is idle again. -/
theorem call_eq (hidle : l.parser.st = .sof) (c : Call) :
    ∃ parser, parser.st = .sof ∧ l.call c =
      { radio := (c.issue l.radio).1, parser := parser
        mac := l.mac.configure (c.issue l.radio).2 } := by
  have hlen : (c.issue l.radio).2.data.length ≤ 126 := by
    cases c with
    | setPromiscuous on => exact Nat.le_of_ble_eq_true rfl
    | configureMac flags retries => exact Nat.le_of_ble_eq_true rfl
  obtain ⟨parser, hrun, hsof⟩ := @CC2530Radio.run_command l.parser (c.issue l.radio).2.cc
    (c.issue l.radio).2.data hidle hlen
  refine ⟨parser, hsof, ?_⟩
  rw [call, hrun]
  rfl

theorem call_idle (hidle : l.parser.st = .sof) (c : Call) : (l.call c).parser.st = .sof := by
  obtain ⟨parser, hsof, heq⟩ := call_eq hidle c
  rw [heq]
  exact hsof

private theorem filter_bit (flags : UInt8) :
    (flags ||| Firmware.macFlagFilter) &&& Firmware.macFlagFilter ≠ 0 ∧
      (flags &&& ~~~Firmware.macFlagFilter) &&& Firmware.macFlagFilter = 0 ∧
      ((flags &&& 0x07) &&& 0x07) &&& Firmware.macFlagFilter =
        flags &&& Firmware.macFlagFilter := by
  refine ⟨fun h => ?_, ?_, ?_⟩
  · have hbit := congrArg (·.toBitVec.getLsbD 0) h
    simp [Firmware.macFlagFilter] at hbit
  · rw [UInt8.and_assoc, UInt8.not_and_self, UInt8.and_zero]
  · rw [UInt8.and_assoc, UInt8.and_assoc]
    rfl

theorem setPromiscuous_agrees (hidle : l.parser.st = .sof) (on : Bool) :
    (l.call (.setPromiscuous on)).Agrees := by
  obtain ⟨hset, hclear, _⟩ := filter_bit l.mac.macFlags
  obtain ⟨parser, _, heq⟩ := call_eq hidle (.setPromiscuous on)
  rw [heq]
  cases on with
  | false => exact iff_of_false Bool.false_ne_true hset
  | true => exact iff_of_true rfl hclear

theorem configureMac_agrees_iff (hidle : l.parser.st = .sof) (flags retries : UInt8) :
    (l.call (.configureMac flags retries)).Agrees ↔ l.Keeps (.configureMac flags retries) := by
  have hmask := (filter_bit flags).2.2
  obtain ⟨parser, _, heq⟩ := call_eq hidle (.configureMac flags retries)
  rw [heq]
  have hfirmware : (l.mac.configure (l.radio.configureMac flags retries).2).macFlags =
      (flags &&& 0x07) &&& 0x07 := rfl
  simp only [Agrees, Keeps, Call.issue, hfirmware, hmask]
  by_cases hfilter : flags &&& CC2530Radio.kMacFilter = 0
  · have hoff : flags &&& Firmware.macFlagFilter = 0 := hfilter
    simp [CC2530Radio.configureMac, hfilter, hoff]
  · have hon : flags &&& Firmware.macFlagFilter ≠ 0 := hfilter
    simp [CC2530Radio.configureMac, hfilter, hon]

/-- Whatever the module did before, once `begin` has made it promiscuous the two agree after every
call of a run just when no call of the run turns the filter off for a driver that believes it on. -/
theorem promiscuous_agrees_iff (l : ModuleLink) (hidle : l.parser.st = .sof) (calls : List Call) :
    Runs.Along call Keeps (l.call (.setPromiscuous true)) calls ↔
      ∀ n, ((calls.take n).foldl call (l.call (.setPromiscuous true))).Agrees := by
  have hstart : (l.call (.setPromiscuous true)).parser.st = .sof := call_idle hidle _
  have hstep : ∀ (l : ModuleLink) (c : Call), l.parser.st = .sof ∧ l.Agrees →
      ((l.call c).parser.st = .sof ∧ (l.call c).Agrees ↔ l.Keeps c) := by
    rintro l c ⟨hidle, -⟩
    cases c with
    | setPromiscuous on =>
      exact iff_of_true ⟨call_idle hidle _, setPromiscuous_agrees hidle on⟩ trivial
    | configureMac flags retries =>
      rw [and_iff_right (call_idle hidle _)]
      exact configureMac_agrees_iff hidle flags retries
  rw [Runs.along_iff hstep ⟨hstart, setPromiscuous_agrees hidle true⟩ calls]
  refine forall_congr' fun n => and_iff_right ?_
  exact Runs.invariant (I := fun l : ModuleLink => l.parser.st = .sof)
    (fun _ c h => call_idle h c) hstart (calls.take n)

private def wired : ModuleLink where
  radio := {}
  parser := { cmd := Vector.replicate 140 0 }
  mac := {}

/-- A node that joins with the filter on, scans again and rejoins. -/
theorem promiscuous_agrees_rejoin :
    let calls : List Call := [.configureMac 0x07 3, .setPromiscuous true, .setPromiscuous false]
    ((calls.take 3).foldl call (wired.call (.setPromiscuous true))).Agrees := by
  intro calls
  have hkeeps : Runs.Along call Keeps (wired.call (.setPromiscuous true)) calls :=
    ⟨fun hoff => absurd hoff (by decide), trivial, trivial, trivial⟩
  exact (promiscuous_agrees_iff wired rfl calls).mp hkeeps 3

/-- The filter turned on and off again by `configureMac`: the module takes every frame, and the
driver goes on decrypting them. -/
theorem filter_off_unnoticed :
    let l := (wired.call (.setPromiscuous true)).call (.configureMac CC2530Radio.kMacFilter 3)
    l.Agrees ∧ ¬ (l.call (.configureMac CC2530Radio.kMacCcaTx 3)).Agrees := by
  intro l
  have hbegun : (wired.call (.setPromiscuous true)).parser.st = .sof := call_idle rfl _
  have hidle : l.parser.st = .sof := call_idle hbegun _
  obtain ⟨parser, _, heq⟩ := call_eq hbegun (.configureMac CC2530Radio.kMacFilter 3)
  refine ⟨(configureMac_agrees_iff hbegun _ _).mpr fun hoff => absurd hoff (by decide),
    fun hagrees => ?_⟩
  have hpromiscuous := (configureMac_agrees_iff hidle _ _).mp hagrees (by decide)
  simp only [l, heq] at hpromiscuous
  cases hpromiscuous

end ModuleLink

end NiusZigbee
