import NiusZigbee.Network.Admission
import NiusZigbee.Nwk.Payload

/-!
# The Link Status exchange

What a node collects for its Link Status, taken through the codec and into the table of a node that
hears it: the receiver's cost towards the sender is the cost at which the sender hears the
receiver.
-/

namespace NiusZigbee

open ByteCodec OutBuffer ZigbeeNeighborTable ZigbeeNwk

namespace ZigbeeNetwork

/-! ## Costs fit three bits -/

/-- Both costs of the neighbor fit the fields of a Link Status entry. -/
def CostsFit (e : ZigbeeNeighbor) : Prop := e.incomingCost.toNat < 8 ∧ e.outgoingCost.toNat < 8

variable {net : ZigbeeNetwork}

theorem costFromLqi_lt (lqi : UInt8) : (costFromLqi lqi).toNat < 8 := by
  unfold costFromLqi
  repeat' split
  all_goals decide

theorem reportedCost_lt {payload : List UInt8} {command : NwkLinkStatusCommand} {self : UInt16}
    {left : Nat} {index cost : UInt8}
    (h : reportedCost payload command self left index = some (some cost)) : cost.toNat < 8 := by
  induction left generalizing index with
  | zero => simp [reportedCost] at h
  | succ left ih =>
    simp only [reportedCost, Option.bind_eq_bind, Option.bind_eq_some_iff] at h
    obtain ⟨entry, hentry, h⟩ := h
    cases entry with
    | none => simp at h
    | some entry =>
      dsimp only at h
      split at h
      · obtain rfl := Option.some.inj (Option.some.inj h)
        unfold getLinkStatusEntry at hentry
        split at hentry
        · simp at hentry
        split at hentry
        · simp at hentry
        · simp only [Option.bind_eq_bind, Option.bind_eq_some_iff] at hentry
          obtain ⟨_, _, costs, _, hentry⟩ := hentry
          obtain rfl := Option.some.inj (Option.some.inj hentry)
          have hand : (costs &&& 0x07).toNat ≤ 7 := by
            rw [UInt8.toNat_and]
            exact Nat.and_le_right
          exact Nat.lt_succ_of_le hand
      · exact ih h

theorem stored_costsFit {entry : ZigbeeNeighbor} (h : CostsFit entry) (nwkAddress : UInt16)
    (ieeeAddress : UInt64) (deviceType relationship depth lqi : UInt8)
    (rxOnWhenIdle permitJoining : Bool) (nowMs : UInt32) :
    CostsFit (stored entry nwkAddress ieeeAddress deviceType relationship depth lqi rxOnWhenIdle
      permitJoining nowMs) := by
  simp only [CostsFit, stored]
  split
  · exact ⟨by decide, by decide⟩
  · exact h

theorem heardFrom_costsFit {old : ZigbeeNeighbor} (h : CostsFit old) {senderShort : UInt16}
    {reported : Option UInt8} {lqi : UInt8} {nowMs : UInt32}
    (hreported : ∀ cost ∈ reported, cost.toNat < 8) :
    CostsFit (net.heardFrom old senderShort reported lqi nowMs) := by
  refine ⟨costFromLqi_lt lqi, ?_⟩
  cases reported with
  | none =>
    simp only [heardFrom, stored, Option.getD_none]
    split
    · decide
    · exact h.2
  | some cost => exact hreported cost rfl

theorem aged_costsFit (e : ZigbeeNeighbor) : CostsFit (aged e) := by
  have hzero : (0 : UInt8).toNat < 8 := by decide
  unfold aged
  split <;> exact ⟨hzero, hzero⟩

theorem set_costsFit (h : ∀ e ∈ net.neighbors, CostsFit e) {i : Nat} {e : ZigbeeNeighbor}
    (he : CostsFit e) : ∀ e' ∈ net.neighbors.set i e, CostsFit e' := by
  intro e' he'
  rcases List.mem_or_eq_of_mem_set he' with hmem | rfl
  · exact h e' hmem
  · exact he

theorem upsert_costsFit (h : ∀ e ∈ net.neighbors, CostsFit e) (nwkAddress : UInt16)
    (ieeeAddress : UInt64) (deviceType relationship depth lqi : UInt8)
    (rxOnWhenIdle permitJoining : Bool) (nowMs : UInt32) :
    ∀ e ∈ (upsert net.neighbors nwkAddress ieeeAddress deviceType relationship depth lqi
      rxOnWhenIdle permitJoining nowMs).1, CostsFit e := by
  rcases upsert_cases net.neighbors nwkAddress ieeeAddress deviceType relationship depth lqi
      rxOnWhenIdle permitJoining nowMs with ⟨_, hupsert⟩ | ⟨i, old, _, hold, hupsert⟩
  · rwa [hupsert]
  · rw [hupsert]
    exact set_costsFit h (stored_costsFit (h old (List.mem_of_getElem? hold)) _ _ _ _ _ _ _ _ _)

theorem next_costsFit (h : ∀ e ∈ net.neighbors, CostsFit e) (op : Op) :
    ∀ e ∈ (net.next op).neighbors, CostsFit e := by
  refine next_table (P := fun entries => ∀ e ∈ entries, CostsFit e) h
    (upsert_costsFit h) ?_ ?_ op
  · intro senderShort payload command lqi nowMs i old reported _ hold hreported
    refine set_costsFit h (heardFrom_costsFit (h old (List.mem_of_getElem? hold)) ?_)
    rintro cost rfl
    exact reportedCost_lt hreported
  · intro cutoffMs e he
    obtain ⟨n, hn, rfl⟩ := List.mem_map.mp he
    split
    · exact aged_costsFit n
    · exact h n hn

theorem run_costsFit (capacity : UInt8) (ops : List Op) :
    ∀ e ∈ (ops.foldl next (init (begin capacity))).neighbors, CostsFit e := by
  refine Runs.invariant (I := fun net : ZigbeeNetwork => ∀ e ∈ net.neighbors, CostsFit e)
    (fun _ op h => next_costsFit h op) (fun e he => ?_) ops
  rw [List.eq_of_mem_replicate he]
  exact ⟨by decide, by decide⟩

/-! ## What a node collects -/

theorem mem_collect {maxEntries : UInt8} {entry : NwkLinkStatusEntry}
    (h : entry ∈ net.collectLinkStatusEntries maxEntries) :
    ∃ e ∈ net.neighbors, e.used = true ∧ entry = linkStatusEntry e := by
  obtain ⟨e, he, rfl⟩ := List.mem_map.mp h
  obtain ⟨hmem, hlisted⟩ := List.mem_filter.mp (List.mem_of_mem_take he)
  simp only [isListed, Bool.and_eq_true] at hlisted
  exact ⟨e, hmem, hlisted.1.1, rfl⟩

theorem collect_length_le (net : ZigbeeNetwork) (maxEntries : UInt8) :
    (net.collectLinkStatusEntries maxEntries).length ≤ maxEntries.toNat := by
  rw [collectLinkStatusEntries, List.length_map]
  exact List.length_take_le _ _

theorem collect_fits (h : ∀ e ∈ net.neighbors, CostsFit e) (maxEntries : UInt8) :
    ∀ entry ∈ net.collectLinkStatusEntries maxEntries, entry.Fits := by
  intro entry hentry
  obtain ⟨e, he, _, rfl⟩ := mem_collect hentry
  refine ⟨?_, (h e he).2⟩
  simp only [linkStatusEntry]
  split
  · exact (h e he).1
  · exact costFromLqi_lt e.lqi

theorem collect_find (hd : SlotTable.Distinct nwkKey net.neighbors) {maxEntries : UInt8}
    {entry : NwkLinkStatusEntry} (h : entry ∈ net.collectLinkStatusEntries maxEntries) :
    (net.collectLinkStatusEntries maxEntries).find? (·.address = entry.address) = some entry := by
  cases hfind : (net.collectLinkStatusEntries maxEntries).find? (·.address = entry.address) with
  | none =>
    have hnone := List.find?_eq_none.mp hfind entry h
    simp at hnone
  | some first =>
    have hsame : first.address = entry.address := by simpa using List.find?_some hfind
    obtain ⟨e, he, hused, rfl⟩ := mem_collect h
    obtain ⟨e', he', hused', rfl⟩ := mem_collect (List.mem_of_find?_eq_some hfind)
    rw [hd.eq he' he (nwkKey_eq_some.mpr ⟨hused', hsame⟩) (nwkKey_eq_some.mpr ⟨hused, rfl⟩)]

/-! ## What its receiver makes of it -/

/-- The receiver's search ends at the first entry with its address. -/
theorem reportedCost_bytes {entries : List NwkLinkStatusEntry}
    (hfit : ∀ entry ∈ entries, entry.Fits) (hcount : entries.length ≤ 31)
    (firstFrame lastFrame : Bool) (self : UInt16) (left : Nat) (index : UInt8)
    (hleft : index.toNat + left = entries.length) :
    reportedCost (linkStatusBytes entries firstFrame lastFrame)
      { valid := true, firstFrame := firstFrame, lastFrame := lastFrame
        entryCount := entries.length.toUInt8, entries := some 1 } self left index =
      some (((entries.drop index.toNat).find? (·.address = self)).map (·.incomingCost)) := by
  induction left generalizing index with
  | zero => rw [reportedCost, List.drop_of_length_le (by omega)]; rfl
  | succ left ih =>
    have hlt : index.toNat < entries.length := by omega
    have hnext : (index + 1).toNat = index.toNat + 1 := by
      rw [UInt8.toNat_add]
      simp
      omega
    have htail := ih (index + 1) (by omega)
    rw [hnext] at htail
    rw [List.drop_eq_getElem_cons hlt, List.find?_cons, reportedCost,
      getLinkStatusEntry_bytes hfit hcount firstFrame lastFrame hlt]
    by_cases hself : entries[index.toNat].address = self
    · simp [hself]
    · simp [hself, htail]

/-- The slot for a sender known by its short address, or for one there is room for. -/
theorem slotFor_sender {b : ZigbeeNetwork} {senderShort : UInt16}
    (hroom : (findByNwk b.neighbors senderShort).isSome = true ∨
      (firstFree b.neighbors).isSome = true) :
    ∃ i old, slotFor b.neighbors senderShort
        ((findByNwk b.neighbors senderShort).elim 0 (·.ieeeAddress)) = some i ∧
      b.neighbors[i]? = some old ∧ (nwkKey old = some senderShort ∨ nwkKey old = none) := by
  have hne : b.neighbors ≠ [] := by
    rintro hnil
    rw [hnil] at hroom
    rcases hroom with h | h <;> cases h
  obtain ⟨i, hslot⟩ := slotFor_isSome hne senderShort
    ((findByNwk b.neighbors senderShort).elim 0 (·.ieeeAddress))
  obtain ⟨old, hold, hcase⟩ := slotFor_cases hslot
  refine ⟨i, old, hslot, hold, ?_⟩
  rcases hcase with ⟨_, hused⟩ | ⟨hnone, hieee, _⟩ | ⟨hnone, _, hfree | hrec⟩
  · exact .inl (nwkKey_eq_some.mpr hused)
  · rw [hnone] at hieee
    exact absurd rfl hieee
  · exact .inr (nwkKey_eq_none.mpr hfree)
  · obtain ⟨_, _, hfull, _⟩ := hrec
    rw [hnone, hfull] at hroom
    rcases hroom with h | h <;> cases h

/-- What a reachable node tells of a neighbor becomes, at that neighbor, its cost towards the node;
the rest of the neighbor's table is left as it was. -/
theorem linkStatus_exchange (capacity : UInt8) (ops : List Op) (b : ZigbeeNetwork)
    (maxEntries outMax : UInt8) (firstFrame lastFrame : Bool) (lqi : UInt8) (nowMs : UInt32) :
    let a := ops.foldl next (init (begin capacity))
    let entries := a.collectLinkStatusEntries maxEntries
    let frame := buildLinkStatusPayload outMax entries firstFrame lastFrame
    maxEntries.toNat ≤ 31 → 1 + 3 * entries.length ≤ outMax.toNat → b.info.joined = true →
      ((findByNwk b.neighbors a.info.nwkAddress).isSome = true ∨
        (firstFree b.neighbors).isSome = true) →
      ∀ entry ∈ entries, entry.address = b.info.nwkAddress →
        ∃ command i old sender,
          frame.Within outMax.toNat ∧ parseLinkStatusPayload frame.bytes = some (true, command) ∧
          b.handleLinkStatus a.info.nwkAddress frame.bytes command lqi nowMs =
            some ({ b with neighbors := b.neighbors.set i sender }, true) ∧
          findByNwk (b.neighbors.set i sender) a.info.nwkAddress = some sender ∧
          sender.outgoingCost = entry.incomingCost ∧ sender.incomingCost = costFromLqi lqi ∧
          b.neighbors[i]? = some old ∧
          (nwkKey old = some a.info.nwkAddress ∨ nwkKey old = none) := by
  intro a entries frame hmax hout hjoined hroom entry hentry haddr
  have hcount : entries.length ≤ 31 := (collect_length_le a maxEntries).trans hmax
  have hfit : ∀ entry ∈ entries, entry.Fits := collect_fits (run_costsFit capacity ops) maxEntries
  have hlen : (linkStatusBytes entries firstFrame lastFrame).length = entries.length * 3 + 1 := by
    simp only [linkStatusBytes, List.length_cons, length_entries]
  have hframe : frame = .exact (linkStatusBytes entries firstFrame lastFrame) := by
    simp only [frame]
    rw [buildLinkStatusPayload_eq, if_neg (by omega)]
  have hreported := reportedCost_bytes hfit hcount firstFrame lastFrame b.info.nwkAddress
    entries.length 0 (by simp)
  have hfind : entries.find? (·.address = b.info.nwkAddress) = some entry := by
    rw [← haddr]
    exact collect_find (run_nwk_distinct capacity ops) hentry
  rw [show (0 : UInt8).toNat = 0 from rfl, List.drop_zero, hfind, Option.map_some] at hreported
  obtain ⟨i, old, hslot, hold, hkey⟩ := slotFor_sender hroom
  refine ⟨{ valid := true, firstFrame := firstFrame, lastFrame := lastFrame
            entryCount := entries.length.toUInt8, entries := some 1 }, i, old,
    b.heardFrom old a.info.nwkAddress (some entry.incomingCost) lqi nowMs, ?_, ?_, ?_,
    findByNwk_written hslot rfl, rfl, rfl, hold, hkey⟩
  · rw [hframe]
    exact Built.exact_within _ (by omega) (by omega)
  · rw [hframe, Built.exact_bytes]
    exact parseLinkStatusPayload_bytes hcount firstFrame lastFrame
  · rw [hframe, Built.exact_bytes]
    refine handleLinkStatus_heard rfl hjoined hslot hold ?_
    rw [show entries.length.toUInt8.toNat = entries.length from toNat_toUInt8 (by omega)]
    exact hreported

private def parentOfRouter : List Op :=
  [.beginCoordinator 0x1234 0 11 0, .permitJoining 0xFF 0,
    .acceptChild 0xB1 zbDeviceRouter true 90 1]

private def routerChild : ZigbeeNetwork :=
  [.beginJoinedDevice zbDeviceRouter 0x1234 0 11 0x0001 0x0000 1 0,
    .noteParent 0x0000 0xA0 zbDeviceCoordinator 0 120 true 0].foldl next (init (begin 4))

/-- A coordinator's first Link Status, heard by the child it tells of. -/
theorem linkStatus_exchange_child :
    let a := parentOfRouter.foldl next (init (begin 4))
    let entries := a.collectLinkStatusEntries 16
    entries = [{ address := 0x0001, incomingCost := 3, outgoingCost := 0 }] ∧
      ∃ command i sender,
        routerChild.handleLinkStatus 0x0000
            (buildLinkStatusPayload 64 entries true true).bytes command 70 2 =
          some ({ routerChild with neighbors := routerChild.neighbors.set i sender }, true) ∧
        sender.outgoingCost = 3 ∧ sender.incomingCost = 5 := by
  intro a entries
  have hentries : entries = [{ address := 0x0001, incomingCost := 3, outgoingCost := 0 }] := by
    decide
  have hentry : { address := 0x0001, incomingCost := 3, outgoingCost := 0 } ∈ entries := by
    rw [hentries]
    exact List.mem_singleton_self _
  obtain ⟨command, i, _, sender, _, _, hheard, _, hout, hin, _⟩ :=
    linkStatus_exchange 4 parentOfRouter routerChild 16 64 true true 70 2 (by decide) (by decide)
      (by decide) (.inl (by decide)) _ hentry (by decide)
  exact ⟨hentries, command, i, sender, hheard, hout, hin⟩

end ZigbeeNetwork

end NiusZigbee
