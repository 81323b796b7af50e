import NiusZigbee.Network.Membership

/-!
# The addresses an admission hands out

An admission never gives away the address of a child or of a former child. It does give away any
other address of the pool, whoever holds it: that the pool keeps apart from the rest of the network
is left to whoever configures it.
-/

namespace NiusZigbee

open ZigbeeNeighborTable ZigbeeAddressAllocator

namespace ZigbeeNetwork

/-- The node itself, its parent, or a neighbor known by its IEEE address has the address. -/
def InUse (net : ZigbeeNetwork) (address : UInt16) : Prop :=
  address = net.info.nwkAddress ∨ address = net.info.parentAddress ∨
    ∃ e ∈ net.neighbors, e.used = true ∧ e.ieeeAddress ≠ 0 ∧ e.nwkAddress = address

instance (net : ZigbeeNetwork) (address : UInt16) : Decidable (net.InUse address) :=
  inferInstanceAs (Decidable (_ ∨ _ ∨ _))

/-- Of the pool's addresses only leases of the node's children are in use. -/
def PoolApart (net : ZigbeeNetwork) : Prop :=
  ∀ address, net.allocator.isInPool address = true →
    allocatedChild net.neighbors address = false → ¬ net.InUse address

variable {net : ZigbeeNetwork} {ieeeAddress : UInt64} {deviceType lqi : UInt8}
  {rxOnWhenIdle : Bool} {nowMs : UInt32}

/-- The calls that have nothing to do with children or neighbors. -/
def Op.Own : Op → Prop
  | .acceptChild .. | .handleAssociationRequest .. | .configureAddressPool .. | .noteParent ..
  | .handleLinkStatus .. | .ageNeighbors _ => False
  | _ => True

theorem next_own {op : Op} (hop : op.Own) :
    (net.next op).neighbors = net.neighbors ∧ (net.next op).allocator = net.allocator := by
  cases op with
  | completeJoin =>
    simp only [next, completeJoin]
    split <;> exact ⟨rfl, rfl⟩
  | noteBeacon =>
    simp only [next, noteBeacon]
    split
    · exact ⟨rfl, rfl⟩
    split
    · exact ⟨rfl, rfl⟩
    split <;> exact ⟨rfl, rfl⟩
  | beginJoiningCandidate =>
    simp only [next, beginJoiningCandidate]
    split <;> exact ⟨rfl, rfl⟩
  | rejoinParent =>
    simp only [next, rejoinParent]
    split <;> exact ⟨rfl, rfl⟩
  | _ => first | exact ⟨rfl, rfl⟩ | exact absurd hop id

/-- What is kept when the table stays as it is, by an upsert, by a Link Status and by aging is kept
by every call. -/
theorem next_table {P : List ZigbeeNeighbor → Prop} (h : P net.neighbors)
    (hupsert : ∀ nwkAddress ieeeAddress deviceType relationship depth lqi rxOnWhenIdle permitJoining
      nowMs, P (upsert net.neighbors nwkAddress ieeeAddress deviceType relationship depth lqi
        rxOnWhenIdle permitJoining nowMs).1)
    (hheard : ∀ senderShort payload (command : ZigbeeNwk.NwkLinkStatusCommand) lqi nowMs i old
      reported,
      slotFor net.neighbors senderShort
          ((findByNwk net.neighbors senderShort).elim 0 (·.ieeeAddress)) = some i →
        net.neighbors[i]? = some old →
        reportedCost payload command net.info.nwkAddress command.entryCount.toNat 0 =
          some reported →
        P (net.neighbors.set i (net.heardFrom old senderShort reported lqi nowMs)))
    (haged : ∀ cutoffMs,
      P (removeStaleRouters net.neighbors cutoffMs net.info.parentAddress).1)
    (op : Op) : P (net.next op).neighbors := by
  have haccept : ∀ ieeeAddress deviceType rxOnWhenIdle lqi nowMs,
      P (net.next (.acceptChild ieeeAddress deviceType rxOnWhenIdle lqi nowMs)).neighbors := by
    intro ieeeAddress deviceType rxOnWhenIdle lqi nowMs
    simp only [next, acceptChild]
    split
    · exact h
    split
    · exact h
    · exact hupsert _ _ _ _ _ _ _ _ _
  have hown : ∀ op : Op, op.Own → P (net.next op).neighbors :=
    fun op hop => by rwa [(next_own hop).1]
  cases op with
  | acceptChild => exact haccept _ _ _ _ _
  | handleAssociationRequest ieeeAddress request =>
    exact next_associationRequest (P := fun net : ZigbeeNetwork => P net.neighbors) h
      (fun _ _ => haccept _ _ _ _ _) request
  | noteParent =>
    simp only [next, noteParent]
    split
    · exact h
    · split <;> exact hupsert _ _ _ _ _ _ _ _ _
  | handleLinkStatus senderShort payload command lqi nowMs =>
    rcases @handleLinkStatus_cases net lqi nowMs senderShort payload command with
      ⟨heq, _⟩ | ⟨i, old, _, _, hslot, hold, ⟨_, _, _, _, _, reported, hreported, rfl⟩, heq⟩
    · rwa [heq]
    · rw [heq]
      exact hheard _ _ _ _ _ _ _ _ hslot hold hreported
  | ageNeighbors =>
    simp only [next, ageNeighbors]
    split
    · exact h
    split
    · exact h
    · exact haged _
  | configureAddressPool => exact h
  | _ => exact hown _ trivial

theorem next_nwk_distinct (h : SlotTable.Distinct nwkKey net.neighbors) (op : Op) :
    SlotTable.Distinct nwkKey (net.next op).neighbors := by
  refine next_table h ?_ ?_ ?_ op
  · intros
    exact upsert_nwk_distinct h
  · intro senderShort _ _ _ _ i old reported hslot _ _
    refine h.set fun j b k hj hb hk => ?_
    rw [nwkKey_eq_some] at hk
    rw [← hk.2]
    exact slotFor_nwk h hslot hj hb
  · intros
    exact removeStaleRouters_nwk_distinct h

theorem run_nwk_distinct (capacity : UInt8) (ops : List Op) :
    SlotTable.Distinct nwkKey (ops.foldl next (init (begin capacity))).neighbors := by
  refine Runs.invariant (I := fun net : ZigbeeNetwork => SlotTable.Distinct nwkKey net.neighbors)
    (fun _ op h => next_nwk_distinct h op) ?_ ops
  refine SlotTable.distinct_of_unused fun e he => ?_
  rw [List.eq_of_mem_replicate he]
  rfl

theorem next_wellFormed (h : net.allocator.WellFormed) (op : Op) :
    (net.next op).allocator.WellFormed := by
  have haccept : ∀ ieeeAddress deviceType rxOnWhenIdle lqi nowMs,
      (net.next
        (.acceptChild ieeeAddress deviceType rxOnWhenIdle lqi nowMs)).allocator.WellFormed := by
    intro ieeeAddress deviceType rxOnWhenIdle lqi nowMs
    have haddr : (net.childAddress ieeeAddress).1.WellFormed := by
      unfold childAddress
      split
      · exact h
      · exact allocate_wellFormed h
    simp only [next, acceptChild]
    split
    · exact h
    split <;> exact haddr
  have hown : ∀ op : Op, op.Own → (net.next op).allocator.WellFormed :=
    fun op hop => by rwa [(next_own hop).2]
  cases op with
  | configureAddressPool firstAddress lastAddress => exact begin_wellFormed _ _
  | acceptChild => exact haccept _ _ _ _ _
  | handleAssociationRequest ieeeAddress request =>
    exact next_associationRequest (P := fun net : ZigbeeNetwork => net.allocator.WellFormed) h
      (fun _ _ => haccept _ _ _ _ _) request
  | handleLinkStatus senderShort payload command lqi nowMs =>
    rcases @handleLinkStatus_cases net lqi nowMs senderShort payload command with
      ⟨heq, _⟩ | ⟨_, _, _, _, _, _, _, heq⟩ <;> rwa [heq]
  | noteParent =>
    simp only [next, noteParent]
    split
    · exact h
    · split <;> exact h
  | ageNeighbors =>
    simp only [next, ageNeighbors]
    split
    · exact h
    split <;> exact h
  | _ => exact hown _ trivial

theorem run_wellFormed (capacity : UInt8) (ops : List Op) :
    (ops.foldl next (init (begin capacity))).allocator.WellFormed :=
  Runs.invariant (I := fun net : ZigbeeNetwork => net.allocator.WellFormed)
    (fun _ op h => next_wellFormed h op) default_wellFormed ops

/-! ## One admission -/

/-- The address of a device new to the table comes from the pool and is no child's lease. -/
theorem grant_new_address {pair : UInt64 × UInt16}
    (hgrant : net.grant (.acceptChild ieeeAddress deviceType rxOnWhenIdle lqi nowMs) = some pair)
    (hnew : findByIeee net.neighbors ieeeAddress = none) :
    net.allocator.isInPool pair.2 = true ∧ allocatedChild net.neighbors pair.2 = false := by
  have haddr : (net.childAddress ieeeAddress).2 = (net.allocator.allocate net.neighbors).2 := by
    simp [childAddress, hnew]
  have hpair : pair.2 = (net.childAddress ieeeAddress).2 :=
    congrArg Prod.snd (grant_acceptChild hgrant)
  rcases @acceptChild_cases net ieeeAddress deviceType lqi rxOnWhenIdle nowMs with
    ⟨hnone, _⟩ | ⟨_, _, _, hinv, _⟩
  · simp [grant, hnone] at hgrant
  · rw [hpair, haddr]
    rw [haddr] at hinv
    exact allocate_spec hinv

theorem not_lease_of_free (hd : SlotTable.Distinct nwkKey net.neighbors) {address : UInt16}
    (hfree : allocatedChild net.neighbors address = false) {e : ZigbeeNeighbor}
    (he : e ∈ net.neighbors) (hused : e.used = true) (hlease : isLease e = true) :
    e.nwkAddress ≠ address := by
  intro hnwk
  cases hfound : findByNwk net.neighbors address with
  | none => exact findByNwk_eq_none.mp hfound e he hused hnwk
  | some occupant =>
    obtain ⟨ho, houed, honwk⟩ := findByNwk_eq_some hfound
    have hsame : e = occupant := hd.eq he ho (nwkKey_eq_some.mpr ⟨hused, hnwk⟩)
      (nwkKey_eq_some.mpr ⟨houed, honwk⟩)
    rw [allocatedChild, hfound, Option.any_some, ← hsame, hlease] at hfree
    cases hfree

theorem grant_keeps {pair : UInt64 × UInt16}
    (hgrant : net.grant (.acceptChild ieeeAddress deviceType rxOnWhenIdle lqi nowMs) = some pair)
    (hnew : findByIeee net.neighbors ieeeAddress = none)
    (hroom : ¬ net.Recycles (.acceptChild ieeeAddress deviceType rxOnWhenIdle lqi nowMs))
    {e : ZigbeeNeighbor} (he : e ∈ net.neighbors) (hused : e.used = true)
    (hnwk : e.nwkAddress ≠ pair.2) :
    e ∈ (net.next (.acceptChild ieeeAddress deviceType rxOnWhenIdle lqi nowMs)).neighbors := by
  have hpair : pair.2 = (net.childAddress ieeeAddress).2 :=
    congrArg Prod.snd (grant_acceptChild hgrant)
  rw [hpair] at hnwk
  rcases @acceptChild_cases net ieeeAddress deviceType lqi rxOnWhenIdle nowMs with
    ⟨hnone, _⟩ | ⟨i, old, hkeys, _, hslot, hold, heq⟩
  · simp [grant, hnone] at hgrant
  · obtain ⟨j, hj⟩ := List.mem_iff_getElem?.mp he
    have hother : j ≠ i := by
      rintro rfl
      obtain ⟨old', hold', hcase⟩ := slotFor_cases hslot
      obtain rfl : e = old' := Option.some.inj (hj.symm.trans hold')
      rcases hcase with ⟨_, _, hsame⟩ | ⟨_, _, _, hsame⟩ | ⟨_, _, hfree | hrec⟩
      · exact hnwk hsame
      · exact findByIeee_eq_none.mp hnew e he hused hsame
      · rw [hfree] at hused
        cases hused
      · exact hroom ⟨_, hkeys, hrec⟩
    simp only [next, heq]
    refine List.mem_of_getElem? (i := j) ?_
    rw [List.getElem?_set_ne (Ne.symm hother), hj]

/-! ## Admissions over whole runs -/

/-- In every reachable state, a device new to the table gets a pool address that no child and no
former child holds; with the pool kept apart, one that nobody known to the node holds. -/
theorem admission_addresses (capacity : UInt8) (ops : List Op) (op : Op) (pair : UInt64 × UInt16) :
    let net := ops.foldl next (init (begin capacity))
    net.grant op = some pair → findByIeee net.neighbors pair.1 = none →
      (net.allocator.isInPool pair.2 = true ∧
        ∀ e ∈ net.neighbors, e.used = true → isLease e = true →
          e.nwkAddress ≠ pair.2 ∧ (¬ net.Recycles op → e ∈ (net.next op).neighbors)) ∧
      (net.PoolApart →
        pair.2 ≠ net.info.nwkAddress ∧ pair.2 ≠ net.info.parentAddress ∧
          ∀ e ∈ net.neighbors, e.used = true → e.ieeeAddress ≠ 0 → e.ieeeAddress ≠ pair.1 →
            e.nwkAddress ≠ pair.2 ∧ (¬ net.Recycles op → e ∈ (net.next op).neighbors)) := by
  intro net hgrant hnew
  have hd : SlotTable.Distinct nwkKey net.neighbors := run_nwk_distinct capacity ops
  obtain ⟨deviceType, rxOnWhenIdle, lqi, nowMs, hchild, hnext, hrec⟩ := grant_eq_some hgrant
  obtain ⟨hpool, hfree⟩ := grant_new_address hchild hnew
  have hkeep : ∀ e ∈ net.neighbors, e.used = true → e.nwkAddress ≠ pair.2 →
      ¬ net.Recycles op → e ∈ (net.next op).neighbors := by
    intro e he hused hnwk hroom
    rw [hnext]
    exact grant_keeps hchild hnew (mt hrec.mpr hroom) he hused hnwk
  refine ⟨⟨hpool, fun e he hused hlease => ?_⟩, fun hapart => ?_⟩
  · have hnwk := not_lease_of_free hd hfree he hused hlease
    exact ⟨hnwk, hkeep e he hused hnwk⟩
  · have hunused := hapart pair.2 hpool hfree
    simp only [InUse, not_or, not_exists, not_and] at hunused
    refine ⟨hunused.1, hunused.2.1, fun e he hused hieee _ => ?_⟩
    have hnwk := hunused.2.2 e he hused hieee
    exact ⟨hnwk, hkeep e he hused hnwk⟩

private def joinedRouter : List Op :=
  [.beginJoinedDevice zbDeviceRouter 0x1234 0 11 0x0002 0x0001 1 0,
    .noteParent 0x0001 0xC0 zbDeviceCoordinator 0 120 true 0, .permitJoining 0xFF 0]

private def joining (ieeeAddress : UInt64) : Op :=
  .acceptChild ieeeAddress zbDeviceRouter true 100 1

/-- A router that keeps the default pool gives its first child the address of its parent, over the
parent's entry, and its second child its own address. -/
theorem admission_takes_parent_and_own_address :
    let net := joinedRouter.foldl next (init (begin 4))
    (findByIeee net.neighbors 0xA1 = none ∧ net.grant (joining 0xA1) = some (0xA1, 0x0001) ∧
      net.info.parentAddress = 0x0001 ∧
      (findByIeee net.neighbors 0xC0).map (·.nwkAddress) = some 0x0001 ∧
      findByIeee (net.next (joining 0xA1)).neighbors 0xC0 = none) ∧
    (findByIeee (net.next (joining 0xA1)).neighbors 0xB2 = none ∧
      (net.next (joining 0xA1)).grant (joining 0xB2) = some (0xB2, 0x0002) ∧
      (net.next (joining 0xA1)).info.nwkAddress = 0x0002) := by
  decide

/-- The same router with a pool of its own. -/
theorem admission_addresses_own_pool :
    let net := (.configureAddressPool 0x0031 0x003F :: joinedRouter).foldl next (init (begin 4))
    net.grant (joining 0xA1) = some (0xA1, 0x0031) ∧ net.allocator.isInPool 0x0031 = true :=
  ⟨by decide, (admission_addresses 4 (.configureAddressPool 0x0031 0x003F :: joinedRouter)
    (joining 0xA1) (0xA1, 0x0031) (by decide) (by decide)).1.1⟩

/-- A reachable node gives nobody's address away, wherever its walk through the pool stands, just
when its pool is kept apart. -/
theorem poolApart_iff (capacity : UInt8) (ops : List Op) :
    let net := ops.foldl next (init (begin capacity))
    net.takesChildren nowMs = true → findByIeee net.neighbors ieeeAddress = none →
      net.neighbors ≠ [] →
      (net.PoolApart ↔ ∀ candidate, net.allocator.firstAddress.toNat ≤ candidate.toNat →
        candidate.toNat ≤ net.allocator.lastAddress.toNat →
        ∀ pair, { net with allocator.nextCandidate := candidate }.grant
          (.acceptChild ieeeAddress deviceType rxOnWhenIdle lqi nowMs) = some pair →
          ¬ net.InUse pair.2) := by
  intro net hopen hnew hne
  have hw : net.allocator.WellFormed := run_wellFormed capacity ops
  constructor
  · intro hapart candidate _ _ pair hgrant
    obtain ⟨hpool, hfree⟩ := grant_new_address hgrant hnew
    exact hapart pair.2 hpool hfree
  · intro hsafe address hpool hfree
    have hbounds := isInPool_iff.mp hpool
    have hw' : { net.allocator with nextCandidate := address }.WellFormed :=
      ⟨hw.pos, hw.last_le, hbounds.2.1, hbounds.2.2⟩
    have haddr : ({ net with allocator.nextCandidate := address }.childAddress ieeeAddress).2 =
        address := by
      simp only [childAddress, hnew]
      exact allocate_next hw' hfree
    have hvalid : address ≠ zbNwkAddrInvalid := by
      rintro rfl
      exact absurd hbounds.1.2 (by decide)
    refine hsafe address hbounds.2.1 hbounds.2.2 (ieeeAddress, address) ?_
    have hgrant := @grant_of_takesChildren { net with allocator.nextCandidate := address }
      ieeeAddress deviceType lqi rxOnWhenIdle nowMs hopen (by rwa [haddr]) hne
    rwa [haddr] at hgrant

end ZigbeeNetwork

end NiusZigbee
