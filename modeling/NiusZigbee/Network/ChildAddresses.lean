import NiusZigbee.Network.Membership

/-!
# Stable and unique child addresses

On a coordinator the entries with an IEEE address are exactly its children and the leases of its
former children. A Link Status adds entries without one, aging turns children into leases, and an
upsert that recycles nothing continues the lease of the slot it writes.
-/

namespace NiusZigbee

open ZigbeeNwk ZigbeeNeighborTable ZigbeeAddressAllocator

/-- The device whose lease a neighbor entry is. -/
def leaseKey (e : ZigbeeNeighbor) : Option UInt64 :=
  if e.used && e.ieeeAddress != 0 then some e.ieeeAddress else none

theorem leaseKey_eq_some {e : ZigbeeNeighbor} {ieeeAddress : UInt64} :
    leaseKey e = some ieeeAddress ↔
      e.used = true ∧ e.ieeeAddress ≠ 0 ∧ e.ieeeAddress = ieeeAddress := by
  unfold leaseKey
  split <;> simp_all

/-- The table holds one lease for each device admitted so far, and no other IEEE address. -/
structure Leased (entries : List ZigbeeNeighbor) (admitted : List (UInt64 × UInt16)) : Prop where
  addresses : SlotTable.Distinct nwkKey entries
  devices : SlotTable.Distinct leaseKey entries
  lease : ∀ e ∈ entries, e.used = true → e.ieeeAddress ≠ 0 →
    isLease e = true ∧ (e.ieeeAddress, e.nwkAddress) ∈ admitted
  kept : ∀ p ∈ admitted, p.1 ≠ 0 ∧ p.2 ≠ zbNwkAddrInvalid ∧
    ∃ e ∈ entries, e.used = true ∧ e.ieeeAddress = p.1 ∧ e.nwkAddress = p.2

namespace Leased

variable {entries : List ZigbeeNeighbor} {admitted : List (UInt64 × UInt16)}

theorem of_clear (h : ∀ e ∈ entries, e.used = false) : Leased entries [] where
  addresses := SlotTable.distinct_of_unused fun e he => nwkKey_eq_none.mpr (h e he)
  devices := SlotTable.distinct_of_unused fun e he => by simp [leaseKey, h e he]
  lease e he hused := by simp [h e he] at hused
  kept := by simp

theorem set (h : Leased entries admitted) {i : Nat} {old new : ZigbeeNeighbor}
    {admitted' : List (UInt64 × UInt16)} (hold : entries[i]? = some old) (hused : new.used = true)
    (hnwk : ∀ j b, j ≠ i → entries[j]? = some b → nwkKey b ≠ some new.nwkAddress)
    (hieee : ∀ j b, j ≠ i → entries[j]? = some b → new.ieeeAddress ≠ 0 →
      leaseKey b ≠ some new.ieeeAddress)
    (hkeep : old.used = true → old.ieeeAddress ≠ 0 →
      new.ieeeAddress = old.ieeeAddress ∧ new.nwkAddress = old.nwkAddress)
    (hlease : new.ieeeAddress ≠ 0 → isLease new = true ∧ new.nwkAddress ≠ zbNwkAddrInvalid)
    (hmem : ∀ p, p ∈ admitted' ↔
      p ∈ admitted ∨ new.ieeeAddress ≠ 0 ∧ p = (new.ieeeAddress, new.nwkAddress)) :
    Leased (entries.set i new) admitted' := by
  have hlt : i < entries.length := (List.getElem?_eq_some_iff.mp hold).1
  have hnew : new ∈ entries.set i new := List.mem_set hlt new
  refine ⟨?_, ?_, ?_, ?_⟩
  · refine h.addresses.set fun j b k hj hb hk => ?_
    rw [nwkKey_eq_some] at hk
    exact hk.2 ▸ hnwk j b hj hb
  · refine h.devices.set fun j b k hj hb hk => ?_
    rw [leaseKey_eq_some] at hk
    exact hk.2.2 ▸ hieee j b hj hb hk.2.1
  · intro e he heused hne
    rcases List.mem_or_eq_of_mem_set he with he | rfl
    · obtain ⟨hl, hin⟩ := h.lease e he heused hne
      exact ⟨hl, (hmem _).mpr (.inl hin)⟩
    · exact ⟨(hlease hne).1, (hmem _).mpr (.inr ⟨hne, rfl⟩)⟩
  · intro p hp
    rcases (hmem p).mp hp with hp | ⟨hne, rfl⟩
    · obtain ⟨hp1, hp2, e, he, heused, hei, hen⟩ := h.kept p hp
      refine ⟨hp1, hp2, ?_⟩
      obtain ⟨j, hj⟩ := List.mem_iff_getElem?.mp he
      by_cases hji : j = i
      · -- the lease written over is continued by the new entry
        subst hji
        have heq : e = old := Option.some.inj (hj.symm.trans hold)
        have hcont := hkeep (heq ▸ heused) (by rw [← heq, hei]; exact hp1)
        exact ⟨new, hnew, hused, by rw [hcont.1, ← heq, hei], by rw [hcont.2, ← heq, hen]⟩
      · have hstay : (entries.set i new)[j]? = some e := by
          rw [List.getElem?_set_ne (Ne.symm hji), hj]
        exact ⟨e, List.mem_of_getElem? hstay, heused, hei, hen⟩
    · exact ⟨hne, (hlease hne).2, new, hnew, hused, rfl, rfl⟩

theorem age (h : Leased entries admitted) (cutoffMs : UInt32) (spareAddress : UInt16) :
    Leased (removeStaleRouters entries cutoffMs spareAddress).1 admitted := by
  unfold removeStaleRouters
  refine ⟨?_, ?_, ?_, ?_⟩
  · exact removeStaleRouters_nwk_distinct h.addresses
  · refine h.devices.map fun n => ?_
    rcases age_cases cutoffMs spareAddress n with ⟨hu, _, hi, _⟩ | ⟨hu, _⟩
    · exact .inr (by rw [leaseKey, leaseKey, hu, hi])
    · exact .inl (by simp [leaseKey, hu])
  · intro e he hused hne
    obtain ⟨n, hn, rfl⟩ := List.mem_map.mp he
    rcases age_cases cutoffMs spareAddress n with ⟨hu, ha, hi, hl⟩ | ⟨hu, _⟩
    · rw [hu] at hused
      rw [hi] at hne
      obtain ⟨hlease, hin⟩ := h.lease n hn hused hne
      exact ⟨hl hlease, by rw [hi, ha]; exact hin⟩
    · rw [hu] at hused
      cases hused
  · intro p hp
    obtain ⟨hp1, hp2, n, hn, hused, hi, ha⟩ := h.kept p hp
    refine ⟨hp1, hp2, _, List.mem_map_of_mem hn, ?_⟩
    rcases age_cases cutoffMs spareAddress n with ⟨hu, ha', hi', _⟩ | ⟨_, hnot⟩
    · exact ⟨by rw [hu, hused], by rw [hi', hi], by rw [ha', ha]⟩
    · have hne : n.ieeeAddress ≠ 0 := by rwa [hi]
      exact absurd (h.lease n hn hused hne).1 (by simp [hnot hne])

variable {net : ZigbeeNetwork}

/-- The address of an admission: its device's lease, or one that no lease occupies. -/
theorem childAddress_continues (h : Leased net.neighbors admitted) {ieeeAddress : UInt64}
    (hne : ieeeAddress ≠ 0)
    (hinv : (net.childAddress ieeeAddress).2 ≠ zbNwkAddrInvalid) {i : Nat} {old : ZigbeeNeighbor}
    (hslot : slotFor net.neighbors (net.childAddress ieeeAddress).2 ieeeAddress = some i)
    (hold : net.neighbors[i]? = some old)
    (hroom : ¬ Recycles net.neighbors (net.childAddress ieeeAddress).2 ieeeAddress) :
    (old.used = true → old.ieeeAddress ≠ 0 →
      ieeeAddress = old.ieeeAddress ∧ (net.childAddress ieeeAddress).2 = old.nwkAddress) ∧
    ∀ j b, j ≠ i → net.neighbors[j]? = some b → leaseKey b ≠ some ieeeAddress := by
  obtain ⟨old', hold', hcase⟩ := slotFor_cases hslot
  obtain rfl : old' = old := Option.some.inj (hold'.symm.trans hold)
  have hmem : old' ∈ net.neighbors := List.mem_of_getElem? hold
  cases hknown : findByIeee net.neighbors ieeeAddress with
  | some e =>
    obtain ⟨he, heused, hei⟩ := findByIeee_eq_some hknown
    have haddr : (net.childAddress ieeeAddress).2 = e.nwkAddress := by
      simp [ZigbeeNetwork.childAddress, hknown]
    rw [haddr] at hcase ⊢
    rcases hcase with ⟨_, hused, hnwk⟩ | ⟨hnone, _⟩ | ⟨hnone, _⟩
    · have hsame : old' = e := h.addresses.eq hmem he (nwkKey_eq_some.mpr ⟨hused, hnwk⟩)
        (nwkKey_eq_some.mpr ⟨heused, rfl⟩)
      refine ⟨fun _ _ => ⟨by rw [hsame, hei], hnwk.symm⟩, fun j b hj hb hkey => hj ?_⟩
      refine h.devices hb hold hkey (leaseKey_eq_some.mpr ⟨hused, ?_, ?_⟩)
      · rwa [hsame, hei]
      · rw [hsame, hei]
    all_goals exact absurd rfl (findByNwk_eq_none.mp hnone e he heused)
  | none =>
    have hunknown := findByIeee_eq_none.mp hknown
    refine ⟨fun hused hieee => ?_, fun j b _ hb hkey => ?_⟩
    · rcases hcase with ⟨hfind, _, _⟩ | ⟨_, _, _, hei⟩ | ⟨_, _, hfree | hrec⟩
      · -- the address was allocated, so its occupant is no lease
        have haddr :
            (net.childAddress ieeeAddress).2 = (net.allocator.allocate net.neighbors).2 := by
          simp [ZigbeeNetwork.childAddress, hknown]
        have hfree := (allocate_spec (haddr ▸ hinv)).2
        rw [← haddr, allocatedChild, findByNwk, SlotTable.lookup_of_find hfind, hold] at hfree
        exact absurd (h.lease old' hmem hused hieee).1 (by simpa using hfree)
      · exact absurd hei (hunknown old' hmem hused)
      · rw [hfree] at hused
        cases hused
      · exact absurd hrec hroom
    · rw [leaseKey_eq_some] at hkey
      exact hunknown b (List.mem_of_getElem? hb) hkey.1 hkey.2.2

theorem accept (h : Leased net.neighbors admitted) {ieeeAddress : UInt64}
    (hne : ieeeAddress ≠ 0) (deviceType : UInt8) (rxOnWhenIdle : Bool) (lqi : UInt8)
    (nowMs : UInt32)
    (hroom : ¬ net.Recycles (.acceptChild ieeeAddress deviceType rxOnWhenIdle lqi nowMs)) :
    Leased (net.next (.acceptChild ieeeAddress deviceType rxOnWhenIdle lqi nowMs)).neighbors
      ((net.grant (.acceptChild ieeeAddress deviceType rxOnWhenIdle lqi nowMs)).toList ++
        admitted) := by
  simp only [ZigbeeNetwork.next, ZigbeeNetwork.grant]
  rcases @ZigbeeNetwork.acceptChild_cases net ieeeAddress deviceType lqi rxOnWhenIdle nowMs with
    ⟨hnone, allocator, heq⟩ | ⟨i, old, hkeys, hinv, hslot, hold, heq⟩
  · rw [heq, hnone]
    exact h
  · have hfits : ¬ Recycles net.neighbors (net.childAddress ieeeAddress).2 ieeeAddress := by
      intro hrec
      exact hroom ⟨_, hkeys, hrec⟩
    obtain ⟨hkeep, hothers⟩ := h.childAddress_continues hne hinv hslot hold hfits
    rw [heq]
    refine h.set hold rfl (fun j b hj hb => slotFor_nwk h.addresses hslot hj hb)
      (fun j b hj hb _ => hothers j b hj hb) hkeep (fun _ => ⟨?_, hinv⟩) (fun p => ?_)
    · simp [isLease, ZigbeeNetwork.admitted, stored, hne]
    · simp [ZigbeeNetwork.admitted, stored, hne, or_comm]

theorem hear (h : Leased net.neighbors admitted)
    (hroot : net.info.parentAddress = zbNwkAddrInvalid) (senderShort : UInt16)
    (payload : List UInt8) (command : NwkLinkStatusCommand) (lqi : UInt8) (nowMs : UInt32)
    (hroom : ¬ net.Recycles (.handleLinkStatus senderShort payload command lqi nowMs)) :
    Leased (net.next (.handleLinkStatus senderShort payload command lqi nowMs)).neighbors
      admitted := by
  rcases @ZigbeeNetwork.handleLinkStatus_cases net lqi nowMs senderShort payload command with
    ⟨heq, _⟩ | ⟨i, old, heard, hkeys, hslot, hold, ⟨hused, hnwk, hieee, hrel, _⟩, heq⟩
  · rwa [heq]
  rw [heq]
  obtain ⟨old', hold', hcase⟩ := slotFor_cases hslot
  obtain rfl : old' = old := Option.some.inj (hold'.symm.trans hold)
  have hmem : old' ∈ net.neighbors := List.mem_of_getElem? hold
  cases hknown : findByNwk net.neighbors senderShort with
  | some e =>
    -- a neighbor already heard of keeps its IEEE address, and its lease with it
    obtain ⟨he, heused, hen⟩ := findByNwk_eq_some hknown
    rw [hknown, Option.elim_some] at hieee
    rcases hcase with ⟨hfind, holdused, holdnwk⟩ | ⟨hnone, _⟩ | ⟨hnone, _⟩
    · obtain rfl : old' = e := h.addresses.eq hmem he
        (nwkKey_eq_some.mpr ⟨holdused, holdnwk⟩) (nwkKey_eq_some.mpr ⟨heused, hen⟩)
      refine h.set hold hused ?_ ?_ ?_ ?_ ?_
      · intro j b hj hb
        rw [hnwk]
        exact slotFor_nwk h.addresses hslot hj hb
      · intro j b hj hb hne hkey
        rw [hieee] at hne hkey
        exact hj (h.devices hb hold hkey (leaseKey_eq_some.mpr ⟨heused, hne, rfl⟩))
      · intro _ _
        exact ⟨hieee, by rw [hnwk, hen]⟩
      · intro hne
        rw [hieee] at hne
        obtain ⟨hlease, hin⟩ := h.lease old' he heused hne
        have hvalid := (h.kept _ hin).2.1
        rw [hen] at hvalid
        refine ⟨?_, by rwa [hnwk]⟩
        have hsame : heard.relationship = old'.relationship := by
          rw [hrel, ZigbeeNetwork.heardAs, hroot, if_neg hvalid, hknown, Option.elim_some]
        rwa [isLease, hieee, hsame]
      · intro p
        refine ⟨.inl, ?_⟩
        rintro (hp | ⟨hne, rfl⟩)
        · exact hp
        · rw [hieee] at hne ⊢
          rw [hnwk, ← hen]
          exact (h.lease old' he heused hne).2
    all_goals
      rw [hknown] at hnone
      cases hnone
  | none =>
    rw [hknown, Option.elim_none] at hieee hcase
    have hfree : old'.used = false := by
      rcases hcase with ⟨hfind, holdused, holdnwk⟩ | ⟨_, hne, _⟩ | ⟨_, _, hfree | hrec⟩
      · exact absurd holdnwk (findByNwk_eq_none.mp hknown old' hmem holdused)
      · exact absurd rfl hne
      · exact hfree
      · refine absurd ⟨_, hkeys, ?_⟩ hroom
        rwa [hknown, Option.elim_none]
    refine h.set hold hused ?_ ?_ ?_ ?_ ?_
    · intro j b hj hb
      rw [hnwk]
      exact slotFor_nwk h.addresses hslot hj hb
    · intro j b _ _ hne
      exact absurd hieee hne
    · intro hu
      rw [hfree] at hu
      cases hu
    · intro hne
      exact absurd hieee hne
    · intro p
      simp [hieee]

/-- One device, one address. -/
theorem addresses_eq_iff (h : Leased entries admitted) {p q : UInt64 × UInt16}
    (hp : p ∈ admitted) (hq : q ∈ admitted) : p.1 = q.1 ↔ p.2 = q.2 := by
  obtain ⟨hp1, _, e, he, heused, hei, hen⟩ := h.kept p hp
  obtain ⟨hq1, _, f, hf, hfused, hfi, hfn⟩ := h.kept q hq
  constructor
  · intro hieee
    have hsame : e = f := h.devices.eq he hf
      (leaseKey_eq_some.mpr ⟨heused, by rwa [hei], hei⟩)
      (leaseKey_eq_some.mpr ⟨hfused, by rwa [hfi], by rw [hfi, hieee]⟩)
    rw [← hen, ← hfn, hsame]
  · intro hnwk
    have hsame : e = f := h.addresses.eq he hf (nwkKey_eq_some.mpr ⟨heused, hen⟩)
      (nwkKey_eq_some.mpr ⟨hfused, by rw [hfn, hnwk]⟩)
    rw [← hei, ← hfi, hsame]

end Leased

/-! ## Runs of a coordinator -/

namespace ZigbeeNetwork

/-- The calls of a coordinator that serves its network. -/
def Op.Serving : Op → Prop
  | .acceptChild ieeeAddress _ _ _ _ => ieeeAddress ≠ 0
  | .handleAssociationRequest ieeeAddress _ _ _ => ieeeAddress ≠ 0
  | .handleLinkStatus _ _ _ _ _ => True
  | .ageNeighbors _ => True
  | .permitJoining _ _ => True
  | .closeJoining => True
  | .configureAddressPool _ _ => True
  | _ => False

instance : DecidablePred Op.Serving := fun op => by
  cases op <;> unfold Op.Serving <;> infer_instance

/-- A call, with the devices admitted so far beside the network. -/
def serve (s : ZigbeeNetwork × List (UInt64 × UInt16)) (op : Op) :
    ZigbeeNetwork × List (UInt64 × UInt16) :=
  (s.1.next op, (s.1.grant op).toList ++ s.2)

private theorem serve_leased (s : ZigbeeNetwork × List (UInt64 × UInt16)) (op : Op)
    (hs : s.1.info.parentAddress = zbNwkAddrInvalid ∧ Leased s.1.neighbors s.2)
    (hop : op.Serving ∧ ¬ s.1.Recycles op) :
    (serve s op).1.info.parentAddress = zbNwkAddrInvalid ∧
      Leased (serve s op).1.neighbors (serve s op).2 := by
  obtain ⟨net, admitted⟩ := s
  obtain ⟨hroot, h⟩ := hs
  obtain ⟨hserving, hroom⟩ := hop
  have hinfo : ∀ ieeeAddress deviceType rxOnWhenIdle lqi nowMs,
      (net.next (.acceptChild ieeeAddress deviceType rxOnWhenIdle lqi nowMs)).info = net.info := by
    intro ieeeAddress deviceType rxOnWhenIdle lqi nowMs
    rcases @acceptChild_cases net ieeeAddress deviceType lqi rxOnWhenIdle nowMs with
      ⟨_, _, heq⟩ | ⟨_, _, _, _, _, _, heq⟩ <;> rw [next, heq]
  cases op with
  | acceptChild ieeeAddress deviceType rxOnWhenIdle lqi nowMs =>
    exact ⟨by rw [serve, hinfo]; exact hroot, h.accept hserving _ _ _ _ hroom⟩
  | handleAssociationRequest ieeeAddress request lqi nowMs =>
    cases hvalid : request.valid && request.allocateAddress with
    | false =>
      obtain ⟨hnext, hgrant⟩ := @associationRequest_refused net ieeeAddress lqi nowMs _ hvalid
      simp only [serve, hnext, hgrant]
      exact ⟨hroot, h⟩
    | true =>
      obtain ⟨hnext, hgrant⟩ := @associationRequest_eq net ieeeAddress lqi nowMs _ hvalid
      simp only [serve, hnext, hgrant]
      refine ⟨by rw [hinfo]; exact hroot, h.accept hserving _ _ _ _ ?_⟩
      simpa [Recycles, upsertKeys, hvalid] using hroom
  | handleLinkStatus senderShort payload command lqi nowMs =>
    refine ⟨?_, h.hear hroot _ _ _ _ _ hroom⟩
    rcases @handleLinkStatus_cases net lqi nowMs senderShort payload command with
      ⟨heq, _⟩ | ⟨_, _, _, _, _, _, _, heq⟩ <;> rw [serve, heq] <;> exact hroot
  | ageNeighbors nowMs =>
    simp only [serve, next, grant, ageNeighbors]
    split
    · exact ⟨hroot, h⟩
    split
    · exact ⟨hroot, h⟩
    · exact ⟨hroot, h.age _ _⟩
  | permitJoining _ _ => exact ⟨hroot, h⟩
  | closeJoining => exact ⟨hroot, h⟩
  | configureAddressPool _ _ => exact ⟨hroot, h⟩
  | _ => exact absurd hserving id

/-- A coordinator that never recycles a neighbor gives a device the same address whenever it
admits it, and no address to two devices: the table holds each device it admitted under its
address, and no other. -/
theorem child_addresses (net : ZigbeeNetwork) (hclear : ∀ e ∈ net.neighbors, e.used = false)
    (panId : UInt16) (extendedPanId : UInt64) (channel updateId : UInt8) (ops : List Op)
    (hrun : Runs.Along serve (fun s op => op.Serving ∧ ¬ s.1.Recycles op)
      (net.beginCoordinator panId extendedPanId channel updateId, []) ops) :
    let s := ops.foldl serve (net.beginCoordinator panId extendedPanId channel updateId, [])
    (∀ p ∈ s.2, ∀ q ∈ s.2, p.1 = q.1 ↔ p.2 = q.2) ∧
    (∀ p ∈ s.2, ∃ e ∈ s.1.neighbors,
      e.used = true ∧ e.ieeeAddress = p.1 ∧ e.nwkAddress = p.2) ∧
    ∀ e ∈ s.1.neighbors, e.used = true → e.ieeeAddress ≠ 0 →
      (e.ieeeAddress, e.nwkAddress) ∈ s.2 := by
  intro s
  have hinit : (net.beginCoordinator panId extendedPanId channel updateId).info.parentAddress =
      zbNwkAddrInvalid ∧
      Leased (net.beginCoordinator panId extendedPanId channel updateId).neighbors [] :=
    ⟨rfl, .of_clear hclear⟩
  have hend : s.1.info.parentAddress = zbNwkAddrInvalid ∧ Leased s.1.neighbors s.2 :=
    hrun.invariant
      (I := fun s => s.1.info.parentAddress = zbNwkAddrInvalid ∧ Leased s.1.neighbors s.2)
      serve_leased hinit
  obtain ⟨_, h⟩ := hend
  exact ⟨fun p hp q hq => h.addresses_eq_iff hp hq, fun p hp => (h.kept p hp).2.2,
    fun e he hused hne => (h.lease e he hused hne).2⟩

private def served : List Op :=
  [.configureAddressPool 2 3, .permitJoining 0xFF 0,
    .handleLinkStatus 2 [0x60] { valid := true, entries := some 1 } 90 1,
    .acceptChild 0xA1 zbDeviceRouter true 100 2,
    .handleAssociationRequest 0xB2 { valid := true, allocateAddress := true } 80 3,
    .ageNeighbors 60000, .handleLinkStatus 9 [0x60] { valid := true, entries := some 1 } 70 60001,
    .handleAssociationRequest 0xA1
      { valid := true, allocateAddress := true, fullFunctionDevice := true } 90 60002]

/-- A device heard of before it joins, another one, and the first again after it aged out. -/
theorem child_addresses_rejoin :
    (served.foldl serve ((init (begin 3)).beginCoordinator 0x1234 0 11 0, [])).2 =
      [(0xA1, 2), (0xB2, 3), (0xA1, 2)] ∧
    ∀ p ∈ (served.foldl serve ((init (begin 3)).beginCoordinator 0x1234 0 11 0, [])).2,
      ∀ q ∈ (served.foldl serve ((init (begin 3)).beginCoordinator 0x1234 0 11 0, [])).2,
        p.1 = q.1 ↔ p.2 = q.2 :=
  ⟨by decide, (child_addresses (init (begin 3)) (by decide) 0x1234 0 11 0 served (by decide)).1⟩

end ZigbeeNetwork

end NiusZigbee
