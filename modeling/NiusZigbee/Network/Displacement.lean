import NiusZigbee.Network.Admission
import NiusZigbee.Nwk.Bounds

/-!
# What an admission or a lesson costs

Every call that learns a neighbor ends in one upsert, which writes the slot of its short address,
else that of its IEEE address, else a free one, else the least recently seen one. Whose entry that
is makes no difference.
-/

namespace NiusZigbee

open ZigbeeMac ZigbeeNwk ZigbeeNeighborTable

namespace ZigbeeNetwork

/-- The calls that admit or learn a neighbor. The entries of a valid Link Status lie in its
payload, as those of every one that was parsed do. -/
def Op.Learns : Op → Prop
  | .acceptChild .. | .handleAssociationRequest .. | .noteParent .. => True
  | .handleLinkStatus _ payload command _ _ => command.valid = true → command.Inside payload
  | _ => False

/-- The IEEE address of the device an admission or `noteParent` is about. -/
def Op.device : Op → Option UInt64
  | .acceptChild ieeeAddress .. | .handleAssociationRequest ieeeAddress .. |
    .noteParent _ ieeeAddress .. => some ieeeAddress
  | _ => none

/-- The short address of the device a Link Status is about. -/
def Op.sender : Op → Option UInt16
  | .handleLinkStatus senderShort .. => some senderShort
  | _ => none

/-- The entry is that of the device the call is about. -/
def Op.Concerns (e : ZigbeeNeighbor) (op : Op) : Prop :=
  op.device = some e.ieeeAddress ∨ op.sender = some e.nwkAddress

instance (e : ZigbeeNeighbor) (op : Op) : Decidable (op.Concerns e) :=
  inferInstanceAs (Decidable (_ ∨ _))

/-- The entry of the current parent, or of a child the call is not about. -/
def Protected (net : ZigbeeNetwork) (op : Op) (e : ZigbeeNeighbor) : Prop :=
  e.used = true ∧
    ((net.info.parentAddress ≠ zbNwkAddrInvalid ∧ e.nwkAddress = net.info.parentAddress) ∨
      (e.relationship = zbRelChild ∧ ¬ op.Concerns e))

instance (net : ZigbeeNetwork) (op : Op) (e : ZigbeeNeighbor) : Decidable (net.Protected op e) :=
  inferInstanceAs (Decidable (_ ∧ (_ ∧ _ ∨ _ ∧ _)))

/-- After the call every protected entry is there under both of its addresses. -/
def Keeps (net : ZigbeeNetwork) (op : Op) : Prop :=
  ∀ e ∈ net.neighbors, net.Protected op e →
    ∃ e' ∈ (net.next op).neighbors,
      e'.used = true ∧ e'.nwkAddress = e.nwkAddress ∧ e'.ieeeAddress = e.ieeeAddress

instance (net : ZigbeeNetwork) (op : Op) : Decidable (net.Keeps op) :=
  inferInstanceAs (Decidable (∀ e ∈ _, _ → ∃ e' ∈ _, _))

/-- There is no slot but those of protected entries of other devices. -/
def NoSlot (net : ZigbeeNetwork) (op : Op) : Prop :=
  ∀ e ∈ net.neighbors, net.Protected op e ∧ ¬ op.Concerns e

instance (net : ZigbeeNetwork) (op : Op) : Decidable (net.NoSlot op) :=
  inferInstanceAs (Decidable (∀ e ∈ _, _))

/-- The call is an admission that the node is open for. -/
def admits (net : ZigbeeNetwork) : Op → Bool
  | .acceptChild _ _ _ _ nowMs => net.takesChildren nowMs
  | .handleAssociationRequest _ request _ nowMs =>
    request.valid && request.allocateAddress && net.takesChildren nowMs
  | _ => false

/-- No child, and for a request the answer that the node is at capacity. -/
def turnsAway (net : ZigbeeNetwork) : Op → Bool
  | .acceptChild ieeeAddress deviceType rxOnWhenIdle lqi nowMs =>
    (net.acceptChild ieeeAddress deviceType rxOnWhenIdle lqi nowMs).2 == none
  | .handleAssociationRequest ieeeAddress request lqi nowMs =>
    (net.handleAssociationRequest ieeeAddress request lqi nowMs).2.status == macAssocPanAtCapacity
  | _ => false

/-- An admission without a slot for its device is refused and leaves the table alone. -/
def Refuses (net : ZigbeeNetwork) (op : Op) : Prop :=
  net.admits op = true → net.NoSlot op →
    net.turnsAway op = true ∧ (net.next op).neighbors = net.neighbors

instance (net : ZigbeeNetwork) (op : Op) : Decidable (net.Refuses op) :=
  inferInstanceAs (Decidable (_ = true → _ → _ ∧ _))

/-- The slot the call writes is that of a protected entry with other addresses. -/
def Displaces (net : ZigbeeNetwork) (op : Op) : Prop :=
  ∃ keys ∈ net.upsertKeys op,
    ∃ old ∈ (slotFor net.neighbors keys.1 keys.2).bind (net.neighbors[·]?),
      net.Protected op old ∧ (old.nwkAddress, old.ieeeAddress) ≠ keys

instance (net : ZigbeeNetwork) (op : Op) : Decidable (net.Displaces op) :=
  inferInstanceAs (Decidable (∃ keys ∈ net.upsertKeys op, ∃ old ∈ _, _))

variable {net : ZigbeeNetwork}

theorem reportedCost_isSome {payload : List UInt8} {command : NwkLinkStatusCommand}
    (h : command.Inside payload) (self : UInt16) (left : Nat) (index : UInt8)
    (hleft : index.toNat + left ≤ command.entryCount.toNat) :
    (reportedCost payload command self left index).isSome = true := by
  induction left generalizing index with
  | zero => rfl
  | succ left ih =>
    have hcount := command.entryCount.toNat_lt
    obtain ⟨entry, hentry⟩ := h index (UInt8.lt_iff_toNat_lt.mpr (by omega))
    have hnext : (index + 1).toNat = index.toNat + 1 := by
      rw [UInt8.toNat_add]
      simp
      omega
    simp only [reportedCost, hentry, Option.bind_eq_bind, Option.bind_some]
    split
    · rfl
    · exact ih (index + 1) (by omega)

theorem learns_cases {op : Op} (hop : op.Learns) :
    ((net.next op).neighbors = net.neighbors ∧
      ∀ keys ∈ net.upsertKeys op, slotFor net.neighbors keys.1 keys.2 = none) ∨
    ∃ keys i old new, net.upsertKeys op = some keys ∧
      slotFor net.neighbors keys.1 keys.2 = some i ∧ net.neighbors[i]? = some old ∧
      new.used = true ∧ new.nwkAddress = keys.1 ∧ new.ieeeAddress = keys.2 ∧
      (net.next op).neighbors = net.neighbors.set i new := by
  have haccept : ∀ ieeeAddress deviceType rxOnWhenIdle lqi nowMs,
      let op := Op.acceptChild ieeeAddress deviceType rxOnWhenIdle lqi nowMs
      ((net.next op).neighbors = net.neighbors ∧
        ∀ keys ∈ net.upsertKeys op, slotFor net.neighbors keys.1 keys.2 = none) ∨
      ∃ keys i old new, net.upsertKeys op = some keys ∧
        slotFor net.neighbors keys.1 keys.2 = some i ∧ net.neighbors[i]? = some old ∧
        new.used = true ∧ new.nwkAddress = keys.1 ∧ new.ieeeAddress = keys.2 ∧
        (net.next op).neighbors = net.neighbors.set i new := by
    intro ieeeAddress deviceType rxOnWhenIdle lqi nowMs
    rcases @acceptChild_cases net ieeeAddress deviceType lqi rxOnWhenIdle nowMs with
      ⟨hnone, allocator, heq⟩ | ⟨i, old, hkeys, _, hslot, hold, heq⟩
    · refine .inl ⟨by rw [next, heq], fun keys hkeys => ?_⟩
      simp only [upsertKeys, childKeys, Option.mem_def, Option.ite_none_right_eq_some] at hkeys
      obtain ⟨⟨hopen, haddr⟩, hkeys⟩ := hkeys
      cases hslot : slotFor net.neighbors keys.1 keys.2 with
      | none => rfl
      | some i =>
        obtain ⟨_, hold, _⟩ := slotFor_cases hslot
        have hne : net.neighbors ≠ [] := List.ne_nil_of_mem (List.mem_of_getElem? hold)
        have hgrant := @grant_of_takesChildren net ieeeAddress deviceType lqi rxOnWhenIdle nowMs
          hopen haddr hne
        simp [grant, hnone] at hgrant
    · exact .inr ⟨_, i, old, _, hkeys, hslot, hold, rfl, rfl, rfl, by rw [next, heq]⟩
  cases op with
  | acceptChild => exact haccept _ _ _ _ _
  | handleAssociationRequest ieeeAddress request lqi nowMs =>
    cases hvalid : request.valid && request.allocateAddress with
    | false =>
      refine .inl ⟨by rw [(associationRequest_refused hvalid).1], fun keys hkeys => ?_⟩
      simp [upsertKeys, hvalid] at hkeys
    | true =>
      rw [(associationRequest_eq hvalid).1]
      have hsame := haccept ieeeAddress
        (if request.fullFunctionDevice then zbDeviceRouter else zbDeviceEndDevice)
        request.receiverOnWhenIdle lqi nowMs
      simpa only [upsertKeys, hvalid, if_true] using hsame
  | noteParent nwkAddress ieeeAddress deviceType depth lqi permitJoining nowMs =>
    simp only [next, noteParent, upsertKeys]
    cases hjoined : net.info.joined with
    | false => exact .inl ⟨rfl, fun keys hkeys => by simp at hkeys⟩
    | true =>
      simp only [Bool.not_true, Bool.false_eq_true, if_false, if_true]
      rcases upsert_cases net.neighbors nwkAddress ieeeAddress deviceType zbRelParent depth lqi true
          permitJoining nowMs with ⟨hslot, hupsert⟩ | ⟨i, old, hslot, hold, hupsert⟩
      · rw [hupsert]
        refine .inl ⟨rfl, fun keys hkeys => ?_⟩
        obtain rfl := Option.some.inj hkeys
        exact hslot
      · rw [hupsert]
        exact .inr ⟨_, i, old, _, rfl, hslot, hold, rfl, rfl, rfl, rfl⟩
  | handleLinkStatus senderShort payload command lqi nowMs =>
    rcases @handleLinkStatus_cases net lqi nowMs senderShort payload command with
      ⟨heq, hnone⟩ | ⟨i, old, heard, hkeys, hslot, hold, ⟨hused, hnwk, hieee, _⟩, heq⟩
    · refine .inl ⟨by rw [heq], fun keys hkeys => hnone ?_ keys hkeys⟩
      have hvalid : command.valid = true := by
        simp only [upsertKeys, Option.mem_def, Option.ite_none_right_eq_some] at hkeys
        exact (Bool.and_eq_true_iff.mp hkeys.1).1
      exact reportedCost_isSome (hop hvalid) net.info.nwkAddress command.entryCount.toNat 0
        (by simp)
    · exact .inr ⟨_, i, old, heard, hkeys, hslot, hold, hused, hnwk, hieee, by rw [heq]⟩
  | _ => exact absurd hop id

theorem keeps_iff (hd : SlotTable.Distinct nwkKey net.neighbors) {op : Op} (hop : op.Learns) :
    net.Keeps op ↔ ¬ net.Displaces op := by
  rcases @learns_cases net _ hop with
    ⟨hsame, hnone⟩ | ⟨keys, i, old, new, hkeys, hslot, hi, hused, hnwk, hieee, hnext⟩
  · refine iff_of_true (fun e he hprotected => ⟨e, by rwa [hsame], hprotected.1, rfl, rfl⟩) ?_
    rintro ⟨keys, hkeys, old, hold, _⟩
    rw [hnone keys hkeys] at hold
    cases hold
  have hlt : i < net.neighbors.length := (List.getElem?_eq_some_iff.mp hi).1
  constructor
  · -- the displaced entry's short address was in no other slot
    rintro hkeeps ⟨keys', hkeys', old', hold', hprotected, hne⟩
    obtain rfl : keys = keys' := Option.some.inj (hkeys.symm.trans hkeys')
    rw [Option.mem_def, hslot, Option.bind_some, hi] at hold'
    obtain rfl := Option.some.inj hold'
    obtain ⟨e, he, heused, henwk, heieee⟩ := hkeeps old (List.mem_of_getElem? hi) hprotected
    rw [hnext] at he
    obtain ⟨j, hj⟩ := List.mem_iff_getElem?.mp he
    by_cases hij : i = j
    · subst hij
      rw [List.getElem?_set_self hlt] at hj
      obtain rfl := Option.some.inj hj
      exact hne (by rw [← henwk, ← heieee, hnwk, hieee])
    · rw [List.getElem?_set_ne hij] at hj
      exact hij (hd hi hj (nwkKey_eq_some.mpr ⟨hprotected.1, rfl⟩)
        (nwkKey_eq_some.mpr ⟨heused, henwk⟩))
  · intro hspared e he hprotected
    obtain ⟨j, hj⟩ := List.mem_iff_getElem?.mp he
    rw [hnext]
    by_cases hij : i = j
    · subst hij
      obtain rfl : old = e := Option.some.inj (hi.symm.trans hj)
      have hkeep : (old.nwkAddress, old.ieeeAddress) = keys := by
        by_contra hne
        refine hspared ⟨keys, hkeys, old, ?_, hprotected, hne⟩
        rw [Option.mem_def, hslot, Option.bind_some, hi]
      refine ⟨new, List.mem_of_getElem? (List.getElem?_set_self hlt), hused, ?_, ?_⟩
      · rw [hnwk, ← hkeep]
      · rw [hieee, ← hkeep]
    · refine ⟨e, List.mem_of_getElem? (i := j) ?_, hprotected.1, rfl, rfl⟩
      rw [List.getElem?_set_ne hij, hj]

/-- An admission that would write a protected slot displaces its entry: the device it is for has
another IEEE address. -/
theorem displaces_of_noSlot {op : Op} (hno : net.NoSlot op) {ieeeAddress : UInt64}
    (hconcerns : ∀ e : ZigbeeNeighbor, op.Concerns e ↔ e.ieeeAddress = ieeeAddress)
    {nwkAddress : UInt16} (hkeys : net.upsertKeys op = some (nwkAddress, ieeeAddress)) {i : Nat}
    (hslot : slotFor net.neighbors nwkAddress ieeeAddress = some i) : net.Displaces op := by
  obtain ⟨old, hi, _⟩ := slotFor_cases hslot
  obtain ⟨hprotected, hother⟩ := hno old (List.mem_of_getElem? hi)
  refine ⟨_, hkeys, old, ?_, hprotected, fun hsame => hother ?_⟩
  · rw [Option.mem_def, hslot, Option.bind_some, hi]
  · exact (hconcerns old).mpr (congrArg Prod.snd hsame)

theorem refuses_of_spared {op : Op} (hspared : ¬ net.Displaces op) : net.Refuses op := by
  intro hadmits hno
  cases op with
  | acceptChild ieeeAddress deviceType rxOnWhenIdle lqi nowMs =>
    rcases @acceptChild_cases net ieeeAddress deviceType lqi rxOnWhenIdle nowMs with
      ⟨hnone, allocator, heq⟩ | ⟨i, old, hkeys, _, hslot, _⟩
    · exact ⟨beq_iff_eq.mpr hnone, by rw [next, heq]⟩
    · refine absurd (displaces_of_noSlot hno (fun e => ?_) hkeys hslot) hspared
      simp [Op.Concerns, Op.device, Op.sender, eq_comm]
  | handleAssociationRequest ieeeAddress request lqi nowMs =>
    obtain ⟨hvalid, hopen⟩ := Bool.and_eq_true_iff.mp hadmits
    rcases @acceptChild_cases net ieeeAddress
        (if request.fullFunctionDevice then zbDeviceRouter else zbDeviceEndDevice) lqi
        request.receiverOnWhenIdle nowMs with
      ⟨hnone, allocator, heq⟩ | ⟨i, old, hkeys, _, hslot, _⟩
    · refine ⟨beq_iff_eq.mpr ?_, by rw [(associationRequest_eq hvalid).1, next, heq]⟩
      have hv : (!request.valid || !request.allocateAddress) = false := by
        rw [← Bool.not_and, hvalid]
        rfl
      simp [handleAssociationRequest, hv, hopen, hnone]
    · refine absurd (displaces_of_noSlot hno (fun e => ?_) ?_ hslot) hspared
      · simp [Op.Concerns, Op.device, Op.sender, eq_comm]
      · rw [upsertKeys, hvalid, if_pos rfl, hkeys]
  | _ => cases hadmits

/-- In every reachable state, a call that learns a neighbor leaves the parent and the children there
and refuses whom it has no slot for just when the slot it writes is not one of theirs. -/
theorem costs_nothing_iff (capacity : UInt8) (ops : List Op) (op : Op) (hop : op.Learns) :
    let net := ops.foldl next (init (begin capacity))
    (net.Keeps op ∧ net.Refuses op) ↔ ¬ net.Displaces op := by
  intro net
  have hd : SlotTable.Distinct nwkKey net.neighbors := run_nwk_distinct capacity ops
  constructor
  · rintro ⟨hkeeps, _⟩
    exact (keeps_iff hd hop).mp hkeeps
  · intro hspared
    exact ⟨(keeps_iff hd hop).mpr hspared, refuses_of_spared hspared⟩

private def parented : List Op :=
  [.beginJoinedDevice zbDeviceRouter 0x1234 0 11 0x0002 0x0001 1 0,
    .configureAddressPool 0x0031 0x003F, .permitJoining 0xFF 0,
    .noteParent 0x0001 0xC0 zbDeviceCoordinator 0 120 true 0]

/-- With a slot to spare the parent and the child stay. -/
theorem costs_nothing_spare :
    let net := (parented ++ [Op.acceptChild 0xA1 zbDeviceEndDevice true 100 1]).foldl next
      (init (begin 3))
    let op := Op.acceptChild 0xB2 zbDeviceEndDevice true 100 2
    ¬ net.Displaces op ∧ net.Keeps op ∧ net.Refuses op := by
  intro net op
  have hspared : ¬ net.Displaces op := by decide
  exact ⟨hspared, (costs_nothing_iff 3 _ op trivial).mpr hspared⟩

/-- A full table gives the slot of the parent to the next child, and that of the older child to the
one after it; nobody is refused. -/
theorem parent_and_child_displaced :
    let net := (parented ++ [Op.acceptChild 0xA1 zbDeviceEndDevice true 100 1]).foldl next
      (init (begin 2))
    let op := Op.acceptChild 0xB2 zbDeviceEndDevice true 100 2
    let op' := Op.handleAssociationRequest 0xB3 { valid := true, allocateAddress := true } 100 3
    (net.NoSlot op ∧ ¬ net.Keeps op ∧ ¬ net.Refuses op ∧
      (findByNwk net.neighbors net.info.parentAddress).isSome = true ∧
      findByNwk (net.next op).neighbors net.info.parentAddress = none) ∧
    ((net.next op).NoSlot op' ∧ ¬ (net.next op).Keeps op' ∧ ¬ (net.next op).Refuses op' ∧
      (findByIeee (net.next op).neighbors 0xA1).isSome = true ∧
      findByIeee ((net.next op).next op').neighbors 0xA1 = none) := by
  decide

end ZigbeeNetwork

end NiusZigbee
