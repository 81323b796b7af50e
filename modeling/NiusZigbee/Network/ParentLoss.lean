import NiusZigbee.Library.Clock
import NiusZigbee.Network.Displacement

/-!
# When a silent parent is reported lost

Aging compares the reading the parent was last heard at with a cutoff by raw order. That agrees
with the time gone by as long as the parent's entry is left to the parent and the clock has not
started a new lap since.
-/

namespace NiusZigbee

open ZigbeeNwk ZigbeeNeighborTable

namespace ZigbeeNetwork

/-- What a joined node goes through. -/
inductive Upkeep where
  | handleLinkStatus (senderShort : UInt16) (payload : List UInt8)
      (command : NwkLinkStatusCommand) (lqi : UInt8)
  | acceptChild (ieeeAddress : UInt64) (deviceType : UInt8) (rxOnWhenIdle : Bool) (lqi : UInt8)
  | ageNeighbors

/-- The call at time `t`. -/
def Upkeep.op (t : Nat) : Upkeep → Op
  | .handleLinkStatus senderShort payload command lqi =>
    .handleLinkStatus senderShort payload command lqi (Clock.reading t)
  | .acceptChild ieeeAddress deviceType rxOnWhenIdle lqi =>
    .acceptChild ieeeAddress deviceType rxOnWhenIdle lqi (Clock.reading t)
  | .ageNeighbors => .ageNeighbors (Clock.reading t)

/-- The entries of a valid Link Status lie in its payload. -/
def Upkeep.Parsed : Upkeep → Prop
  | .handleLinkStatus _ payload command _ => command.valid = true → command.Inside payload
  | _ => True

/-- A Link Status from the parent. -/
def Upkeep.Hears (net : ZigbeeNetwork) : Upkeep → Prop
  | .handleLinkStatus senderShort _ command _ =>
    command.valid = true ∧ senderShort = net.info.parentAddress
  | _ => False

instance (net : ZigbeeNetwork) (call : Upkeep) : Decidable (call.Hears net) := by
  cases call <;> unfold Upkeep.Hears <;> infer_instance

/-- The network, with the times of the last word from the parent and of the last call. -/
structure Watch where
  net : ZigbeeNetwork
  heard : Nat
  now : Nat

def watch (s : Watch) (call : Nat × Upkeep) : Watch where
  net := s.net.next (call.2.op call.1)
  heard := if call.2.Hears s.net then call.1 else s.heard
  now := call.1

/-- The call writes the slot of the parent. -/
def TakesParent (net : ZigbeeNetwork) (op : Op) : Prop :=
  ∃ keys ∈ net.upsertKeys op,
    ∃ old ∈ (slotFor net.neighbors keys.1 keys.2).bind (net.neighbors[·]?),
      nwkKey old = some net.info.parentAddress

instance (net : ZigbeeNetwork) (op : Op) : Decidable (net.TakesParent op) :=
  inferInstanceAs (Decidable (∃ keys ∈ net.upsertKeys op, ∃ old ∈ _, _))

/-- Time goes on, and only the parent writes its slot. -/
def Spares (s : Watch) (call : Nat × Upkeep) : Prop :=
  s.now ≤ call.1 ∧ call.2.Parsed ∧
    (call.2.Hears s.net ∨ ¬ s.net.TakesParent (call.2.op call.1))

def silenceLimitMs : Nat := kLinkStatusPeriodMs.toNat * kRouterAgeLimit.toNat

/-- Aging at time `t` reports the parent lost just when it has been silent for too long. -/
def Reports (s : Watch) (t : Nat) : Prop :=
  (s.net.ageNeighbors (Clock.reading t)).2.parentLost = true ↔ silenceLimitMs < t - s.heard

instance (s : Watch) (t : Nat) : Decidable (Reports s t) :=
  inferInstanceAs (Decidable (_ ↔ _))

/-- There is nothing to report, or the clock is in the lap in which the parent was last heard, and
the parent's address is none that stands for no parent. -/
def Readable (s : Watch) (t : Nat) : Prop :=
  t - s.heard ≤ silenceLimitMs ∨
    (s.net.info.parentAddress ≠ zbNwkAddrInvalid ∧ Clock.SameLap s.heard t)

instance (s : Watch) (t : Nat) : Decidable (Readable s t) :=
  inferInstanceAs (Decidable (_ ∨ _ ∧ _))

/-- The parent's entry shows when the parent was last heard. -/
structure Watched (s : Watch) : Prop where
  joined : s.net.info.joined = true
  leaf : s.net.isCoordinator = false
  heard_le : s.heard ≤ s.now
  parent : ∃ e, findByNwk s.net.neighbors s.net.info.parentAddress = some e ∧
    e.lastSeenMs = Clock.reading s.heard

variable {net : ZigbeeNetwork} {s : Watch}

theorem upkeep_info (call : Upkeep) (t : Nat) : (net.next (call.op t)).info = net.info := by
  cases call with
  | handleLinkStatus senderShort payload command lqi =>
    rcases @handleLinkStatus_cases net lqi (Clock.reading t) senderShort payload command with
      ⟨heq, _⟩ | ⟨_, _, _, _, _, _, _, heq⟩ <;> rw [Upkeep.op, heq]
  | acceptChild ieeeAddress deviceType rxOnWhenIdle lqi =>
    rcases @acceptChild_cases net ieeeAddress deviceType lqi rxOnWhenIdle (Clock.reading t) with
      ⟨_, _, heq⟩ | ⟨_, _, _, _, _, _, heq⟩ <;> rw [Upkeep.op, next, heq]
  | ageNeighbors =>
    simp only [Upkeep.op, next, ageNeighbors]
    split
    · rfl
    split <;> rfl

theorem findByNwk_removeStaleRouters (entries : List ZigbeeNeighbor) (cutoffMs : UInt32)
    (spareAddress : UInt16) :
    findByNwk (removeStaleRouters entries cutoffMs spareAddress).1 spareAddress =
      findByNwk entries spareAddress := by
  refine SlotTable.lookup_map (fun e hkey => ?_) fun e hkey => ?_
  · have hspared : isStale cutoffMs spareAddress e = false := by
      simp [isStale, (nwkKey_eq_some.mp hkey).2]
    rw [hspared, if_neg Bool.false_ne_true]
  · rcases ZigbeeAddressAllocator.age_cases cutoffMs spareAddress e with
      ⟨hused, hnwk, _⟩ | ⟨hused, _⟩
    · rw [nwkKey_eq_some] at hkey ⊢
      rwa [← hused, ← hnwk]
    · rw [(nwkKey_eq_some.mp hkey).1] at hused
      cases hused

/-- A call that does not write the parent's slot leaves its entry there. -/
theorem parent_spared (op : Op) (hop : op.Learns)
    (hknown : (findByNwk net.neighbors net.info.parentAddress).isSome = true)
    (htakes : ¬ net.TakesParent op) :
    findByNwk (net.next op).neighbors net.info.parentAddress =
      findByNwk net.neighbors net.info.parentAddress := by
  rcases @learns_cases net _ hop with
    ⟨hsame, _⟩ | ⟨keys, i, old, new, hkeys, hslot, hi, hused, hnwk, _, hnext⟩
  · rw [hsame]
  · have hold : nwkKey old ≠ some net.info.parentAddress := by
      refine fun hkey => htakes ⟨keys, hkeys, old, ?_, hkey⟩
      rw [Option.mem_def, hslot, Option.bind_some, hi]
    have hnew : nwkKey new ≠ some net.info.parentAddress := by
      intro hkey
      have hsame : keys.1 = net.info.parentAddress := hnwk ▸ (nwkKey_eq_some.mp hkey).2
      obtain ⟨old', hi', hkey'⟩ := slotFor_known (hsame ▸ hknown) hslot
      obtain rfl := Option.some.inj (hi'.symm.trans hi)
      exact hold (hsame ▸ hkey')
    rw [hnext]
    refine SlotTable.lookup_set_other (fun hlt => ?_) hnew
    rwa [← Option.some.inj ((List.getElem?_eq_getElem hlt).symm.trans hi)] at hold

theorem parent_heard (hjoined : net.info.joined = true) {senderShort : UInt16}
    {payload : List UInt8} {command : NwkLinkStatusCommand} {lqi : UInt8} {t : Nat}
    (hparsed : command.Inside payload) (hvalid : command.valid = true)
    (hparent : senderShort = net.info.parentAddress)
    (hknown : (findByNwk net.neighbors net.info.parentAddress).isSome = true) :
    ∃ e, findByNwk (net.next (.handleLinkStatus senderShort payload command lqi
        (Clock.reading t))).neighbors net.info.parentAddress = some e ∧
      e.lastSeenMs = Clock.reading t := by
  subst hparent
  rcases @handleLinkStatus_cases net lqi (Clock.reading t) net.info.parentAddress payload command
    with ⟨_, hnone⟩ | ⟨i, _, e, _, hslot, _, ⟨hused, hnwk, _, _, hseen, _⟩, hnext⟩
  · obtain ⟨e, he⟩ := Option.isSome_iff_exists.mp hknown
    have hne : net.neighbors ≠ [] := List.ne_nil_of_mem (findByNwk_eq_some he).1
    have hcost := reportedCost_isSome hparsed net.info.nwkAddress command.entryCount.toNat 0
      (by simp)
    have hslot := hnone hcost _ (by rw [upsertKeys, hvalid, hjoined]; rfl)
    obtain ⟨i, hsome⟩ := slotFor_isSome hne _ _
    rw [hsome] at hslot
    cases hslot
  · refine ⟨e, ?_, hseen⟩
    rw [hnext]
    exact findByNwk_written hslot (nwkKey_eq_some.mpr ⟨hused, hnwk⟩)

theorem watch_watched (s : Watch) (call : Nat × Upkeep) (h : Watched s) (hcall : Spares s call) :
    Watched (watch s call) := by
  obtain ⟨t, call⟩ := call
  obtain ⟨hnow, hparsed, hspares⟩ := hcall
  obtain ⟨e, hfound, hseen⟩ := h.parent
  have hinfo : (watch s (t, call)).net.info = s.net.info := upkeep_info call t
  have hknown : (findByNwk s.net.neighbors s.net.info.parentAddress).isSome = true := by
    rw [hfound]
    rfl
  refine ⟨by rw [hinfo, h.joined], ?_, ?_, ?_⟩
  · rw [isCoordinator, hinfo]
    exact h.leaf
  · have hle : s.heard ≤ t := h.heard_le.trans hnow
    simp only [watch]
    split
    · exact Nat.le_refl t
    · exact hle
  rw [hinfo]
  cases call with
  | handleLinkStatus senderShort payload command lqi =>
    simp only [watch, Upkeep.op]
    by_cases hhears : (Upkeep.handleLinkStatus senderShort payload command lqi).Hears s.net
    · rw [if_pos hhears]
      exact parent_heard h.joined (hparsed hhears.1) hhears.1 hhears.2 hknown
    · have hkept := parent_spared (.handleLinkStatus senderShort payload command lqi
        (Clock.reading t)) hparsed hknown (hspares.resolve_left hhears)
      rw [if_neg hhears, hkept]
      exact ⟨e, hfound, hseen⟩
  | acceptChild ieeeAddress deviceType rxOnWhenIdle lqi =>
    have hhears : ¬ (Upkeep.acceptChild ieeeAddress deviceType rxOnWhenIdle lqi).Hears s.net := id
    have hkept := parent_spared (.acceptChild ieeeAddress deviceType rxOnWhenIdle lqi
      (Clock.reading t)) trivial hknown (hspares.resolve_left hhears)
    simp only [watch, Upkeep.op]
    rw [if_neg hhears, hkept]
    exact ⟨e, hfound, hseen⟩
  | ageNeighbors =>
    have hhears : ¬ Upkeep.ageNeighbors.Hears s.net := id
    refine ⟨e, ?_, by rw [watch, if_neg hhears, hseen]⟩
    simp only [watch, Upkeep.op, next, ageNeighbors]
    split
    · exact hfound
    split
    · exact hfound
    · rw [findByNwk_removeStaleRouters, hfound]

theorem noteParent_watched {nwkAddress : UInt16} {ieeeAddress : UInt64}
    {deviceType depth lqi : UInt8} {permitJoining : Bool} {t : Nat}
    (hleaf : net.isCoordinator = false)
    (hnoted : (net.noteParent nwkAddress ieeeAddress deviceType depth lqi permitJoining
      (Clock.reading t)).2 = true) :
    Watched ⟨(net.noteParent nwkAddress ieeeAddress deviceType depth lqi permitJoining
      (Clock.reading t)).1, t, t⟩ := by
  unfold noteParent at hnoted ⊢
  cases hjoined : net.info.joined with
  | false => simp [hjoined] at hnoted
  | true =>
    rw [if_neg (by simp [hjoined])] at hnoted ⊢
    rcases upsert_cases net.neighbors nwkAddress ieeeAddress deviceType zbRelParent depth lqi true
        permitJoining (Clock.reading t) with ⟨_, hupsert⟩ | ⟨i, old, hslot, _, hupsert⟩
    · simp [hupsert] at hnoted
    · rw [hupsert]
      exact ⟨hjoined, hleaf, Nat.le_refl t, _, findByNwk_written hslot rfl, rfl⟩

theorem Watched.reports_iff (h : Watched s) {t : Nat} (ht : s.now ≤ t)
    (hsilence : t - s.heard < Clock.lap) : Reports s t ↔ Readable s t := by
  obtain ⟨e, hfound, hseen⟩ := h.parent
  have hle : s.heard ≤ t := h.heard_le.trans ht
  have hlost : (s.net.ageNeighbors (Clock.reading t)).2.parentLost = true ↔
      s.net.info.parentAddress ≠ zbNwkAddrInvalid ∧ Clock.SameLap s.heard t ∧
        silenceLimitMs < t - s.heard := by
    have hoverdue := Clock.overdue_iff hle (by omega)
      (kLinkStatusPeriodMs * kRouterAgeLimit.toUInt32)
    rw [show (kLinkStatusPeriodMs * kRouterAgeLimit.toUInt32).toNat = silenceLimitMs from rfl]
      at hoverdue
    rw [← hoverdue, ageNeighbors, h.joined]
    simp only [Bool.not_true, Bool.false_eq_true, if_false]
    split
    · next hyoung =>
      refine iff_of_false Bool.false_ne_true fun hlost => ?_
      exact UInt32.not_le.mpr hyoung hlost.2.1
    · next hold =>
      rw [findByNwk_removeStaleRouters, hfound, h.leaf]
      simp [hseen, UInt32.not_lt.mp hold]
  rw [Reports, hlost, Readable]
  constructor
  · intro hreports
    by_cases hshort : t - s.heard ≤ silenceLimitMs
    · exact .inl hshort
    · obtain ⟨haddr, hsame, _⟩ := hreports.mpr (Nat.not_le.mp hshort)
      exact .inr ⟨haddr, hsame⟩
  · rintro (hshort | ⟨haddr, hsame⟩)
    · exact iff_of_false (fun hlost => Nat.not_lt.mpr hshort hlost.2.2) (Nat.not_lt.mpr hshort)
    · exact ⟨fun hlost => hlost.2.2, fun hsilent => ⟨haddr, hsame, hsilent⟩⟩

/-- After any run in which only the parent writes its slot, aging reports the parent lost when it
is just when the clock can be read so. -/
theorem parentLost_iff (net : ZigbeeNetwork) (hleaf : net.isCoordinator = false)
    (nwkAddress : UInt16) (ieeeAddress : UInt64) (deviceType depth lqi : UInt8)
    (permitJoining : Bool) (noted : Nat) (calls : List (Nat × Upkeep)) (t : Nat) :
    let start := net.noteParent nwkAddress ieeeAddress deviceType depth lqi permitJoining
      (Clock.reading noted)
    start.2 = true → Runs.Along watch Spares ⟨start.1, noted, noted⟩ calls →
      let s := calls.foldl watch ⟨start.1, noted, noted⟩
      s.now ≤ t → t - s.heard < Clock.lap → (Reports s t ↔ Readable s t) := by
  intro start hnoted hrun s ht hsilence
  have h : Watched s := hrun.invariant watch_watched (noteParent_watched hleaf hnoted)
  exact h.reports_iff ht hsilence

private def joinedChild (slots : UInt8) : ZigbeeNetwork :=
  (init (begin slots)).beginJoinedDevice zbDeviceRouter 0x1234 0 11 0x0002 0x0001 1 0

private def emptyLinkStatus (senderShort : UInt16) : Upkeep :=
  .handleLinkStatus senderShort [0x60] { valid := true, entries := some 1 } 90

private theorem emptyLinkStatus_parsed (senderShort : UInt16) :
    (emptyLinkStatus senderShort).Parsed :=
  fun _ index hindex => absurd hindex (by simp)

/-- Heard at 20 s beside another router, the parent is reported at 80 s. -/
theorem parentLost_silent :
    let start := (joinedChild 2).noteParent 0x0001 0xC0 zbDeviceCoordinator 0 120 true 0
    let calls := [(10000, emptyLinkStatus 0x0005), (20000, emptyLinkStatus 0x0001),
      (60000, Upkeep.ageNeighbors)]
    Reports (calls.foldl watch ⟨start.1, 0, 0⟩) 80000 ∧
      ((calls.foldl watch ⟨start.1, 0, 0⟩).net.ageNeighbors 80000).2.parentLost = true := by
  intro start calls
  have hrun : Runs.Along watch Spares ⟨start.1, 0, 0⟩ calls :=
    ⟨⟨by decide, emptyLinkStatus_parsed _, by decide⟩, ⟨by decide, emptyLinkStatus_parsed _,
      by decide⟩, ⟨by decide, trivial, by decide⟩, trivial⟩
  refine ⟨?_, by decide⟩
  exact (parentLost_iff (joinedChild 2) (by decide) 0x0001 0xC0 zbDeviceCoordinator 0 120 true 0
    calls 80000 (by decide) hrun (by decide) (by decide)).mpr (by decide)

/-- A parent silent for 101 s across the end of a lap is not reported, and neither is one silent
for 60 s whose slot another router took. -/
theorem parentLost_missed :
    let start := (joinedChild 2).noteParent 0x0001 0xC0 zbDeviceCoordinator 0 120 true
      (Clock.reading (Clock.lap - 1000))
    let crowded := (joinedChild 1).noteParent 0x0001 0xC0 zbDeviceCoordinator 0 120 true 0
    let s := watch ⟨crowded.1, 0, 0⟩ (1000, emptyLinkStatus 0x0005)
    (start.2 = true ∧
      (start.1.ageNeighbors (Clock.reading (Clock.lap + 100000))).2.parentLost = false ∧
      ¬ Reports ⟨start.1, Clock.lap - 1000, Clock.lap - 1000⟩ (Clock.lap + 100000)) ∧
    (crowded.2 = true ∧ s.heard = 0 ∧
      (s.net.ageNeighbors (Clock.reading 60000)).2.parentLost = false ∧ ¬ Reports s 60000) := by
  decide

end ZigbeeNetwork

end NiusZigbee
