import NiusZigbee.Network.Admission
import NiusZigbee.Network.ChildAddresses

/-!
# The two keys of a neighbor

An upsert looks for the short address first and gives the entry it finds the IEEE address it was
called with, whoever else has that. Short addresses stay unique; IEEE addresses do as long as no
known device is upserted under the short address of another entry.
-/

namespace NiusZigbee

open ZigbeeNeighborTable

namespace ZigbeeNeighborTable

/-- A call on the neighbor table. -/
inductive Call where
  | upsert (nwkAddress : UInt16) (ieeeAddress : UInt64) (deviceType relationship depth lqi : UInt8)
      (rxOnWhenIdle permitJoining : Bool) (nowMs : UInt32)
  | removeByNwk (nwkAddress : UInt16)
  | removeOlderThan (cutoffMs : UInt32)
  | removeStaleRouters (cutoffMs : UInt32) (spareAddress : UInt16)

def next (entries : List ZigbeeNeighbor) : Call → List ZigbeeNeighbor
  | .upsert nwkAddress ieeeAddress deviceType relationship depth lqi rxOnWhenIdle permitJoining
      nowMs =>
    (ZigbeeNeighborTable.upsert entries nwkAddress ieeeAddress deviceType relationship depth lqi
      rxOnWhenIdle permitJoining nowMs).1
  | .removeByNwk nwkAddress => (ZigbeeNeighborTable.removeByNwk entries nwkAddress).1
  | .removeOlderThan cutoffMs => (ZigbeeNeighborTable.removeOlderThan entries cutoffMs).1
  | .removeStaleRouters cutoffMs spareAddress =>
    (ZigbeeNeighborTable.removeStaleRouters entries cutoffMs spareAddress).1

/-- No two neighbors share a short address, and no two share an IEEE address but 0. -/
structure KeysUnique (entries : List ZigbeeNeighbor) : Prop where
  nwk : SlotTable.Distinct nwkKey entries
  ieee : SlotTable.Distinct leaseKey entries

/-- The IEEE address is that of one neighbor, the short address that of another. -/
def Clashes (entries : List ZigbeeNeighbor) (nwkAddress : UInt16) (ieeeAddress : UInt64) : Prop :=
  ieeeAddress ≠ 0 ∧ (findByNwk entries nwkAddress).isSome = true ∧
    ∃ b ∈ entries, b.used = true ∧ b.ieeeAddress = ieeeAddress ∧ b.nwkAddress ≠ nwkAddress

instance (entries : List ZigbeeNeighbor) (nwkAddress : UInt16) (ieeeAddress : UInt64) :
    Decidable (Clashes entries nwkAddress ieeeAddress) := inferInstanceAs (Decidable (_ ∧ _ ∧ _))

def Call.Clashes (entries : List ZigbeeNeighbor) : Call → Prop
  | .upsert nwkAddress ieeeAddress .. =>
    ZigbeeNeighborTable.Clashes entries nwkAddress ieeeAddress
  | _ => False

instance (entries : List ZigbeeNeighbor) (call : Call) : Decidable (call.Clashes entries) := by
  cases call <;> unfold Call.Clashes <;> infer_instance

theorem keysUnique_of_unused {entries : List ZigbeeNeighbor} (h : ∀ e ∈ entries, e.used = false) :
    KeysUnique entries where
  nwk := SlotTable.distinct_of_unused fun e he => nwkKey_eq_none.mpr (h e he)
  ieee := SlotTable.distinct_of_unused fun e he => by simp [leaseKey, h e he]

theorem begin_keysUnique (capacity : UInt8) : KeysUnique (begin capacity) :=
  keysUnique_of_unused fun e he => by rw [List.eq_of_mem_replicate he]

variable {entries : List ZigbeeNeighbor} {nwkAddress : UInt16} {ieeeAddress : UInt64} {i : Nat}

theorem KeysUnique.map (h : KeysUnique entries) {f : ZigbeeNeighbor → ZigbeeNeighbor}
    (hf : ∀ n, (f n).used = false ∨
      ((f n).used = n.used ∧ (f n).nwkAddress = n.nwkAddress ∧
        (f n).ieeeAddress = n.ieeeAddress)) : KeysUnique (entries.map f) := by
  constructor
  · refine h.nwk.map fun n => ?_
    rcases hf n with hnone | ⟨hused, hnwk, _⟩
    · exact .inl (nwkKey_eq_none.mpr hnone)
    · exact .inr (by rw [nwkKey, nwkKey, hused, hnwk])
  · refine h.ieee.map fun n => ?_
    rcases hf n with hnone | ⟨hused, _, hieee⟩
    · exact .inl (by simp [leaseKey, hnone])
    · exact .inr (by rw [leaseKey, leaseKey, hused, hieee])

theorem KeysUnique.set (h : KeysUnique entries)
    (hslot : slotFor entries nwkAddress ieeeAddress = some i)
    (hfits : ¬ Clashes entries nwkAddress ieeeAddress) {e : ZigbeeNeighbor}
    (hnwk : e.nwkAddress = nwkAddress) (hieee : e.ieeeAddress = ieeeAddress) :
    KeysUnique (entries.set i e) := by
  constructor
  · refine h.nwk.set fun j b k hj hb hk => ?_
    rw [nwkKey_eq_some] at hk
    rw [← hk.2, hnwk]
    exact slotFor_nwk h.nwk hslot hj hb
  · refine h.ieee.set fun j b k hj hb hk hbk => ?_
    obtain ⟨_, hne, rfl⟩ := leaseKey_eq_some.mp hk
    obtain ⟨hbused, _, hbieee⟩ := leaseKey_eq_some.mp hbk
    rw [hieee] at hne hbieee
    have hbmem := List.mem_of_getElem? hb
    obtain ⟨old, hold, hcase⟩ := slotFor_cases hslot
    rcases hcase with ⟨hfind, _, _⟩ | ⟨_, _, housed, hoieee⟩ | ⟨_, hnone, _⟩
    · -- the entry of the short address is another one's
      refine hfits ⟨hne, ?_, b, hbmem, hbused, hbieee, fun hsame => hj ?_⟩
      · rw [findByNwk, SlotTable.lookup_of_find hfind, hold]
        rfl
      · exact h.nwk.of_find hfind hb (nwkKey_eq_some.mpr ⟨hbused, hsame⟩)
    · exact hj (h.ieee hb hold (leaseKey_eq_some.mpr ⟨hbused, by rwa [hbieee], hbieee⟩)
        (leaseKey_eq_some.mpr ⟨housed, by rwa [hoieee], hoieee⟩))
    · exact findByIeee_eq_none.mp (hnone hne) b hbmem hbused hbieee

/-- An upsert under clashing addresses leaves two entries with the IEEE address. -/
theorem not_keysUnique_of_clashes
    (hslot : slotFor entries nwkAddress ieeeAddress = some i)
    (hclash : Clashes entries nwkAddress ieeeAddress) {e : ZigbeeNeighbor}
    (hused : e.used = true) (hieee : e.ieeeAddress = ieeeAddress) :
    ¬ KeysUnique (entries.set i e) := by
  intro hunique
  obtain ⟨hne, hknown, b, hb, hbused, hbieee, hbnwk⟩ := hclash
  obtain ⟨old, hold, hcase⟩ := slotFor_cases hslot
  obtain ⟨j, hj⟩ := List.mem_iff_getElem?.mp hb
  have hlt : i < entries.length := (List.getElem?_eq_some_iff.mp hold).1
  rcases hcase with ⟨_, _, honwk⟩ | ⟨hnone, _⟩ | ⟨hnone, _⟩
  · have hij : i ≠ j := by
      rintro rfl
      rw [hold] at hj
      exact hbnwk (Option.some.inj hj ▸ honwk)
    refine hij (hunique.ieee (List.getElem?_set_self hlt)
      (by rw [List.getElem?_set_ne hij, hj])
      (leaseKey_eq_some.mpr ⟨hused, by rwa [hieee], hieee⟩)
      (leaseKey_eq_some.mpr ⟨hbused, by rwa [hbieee], hbieee⟩))
  all_goals
    rw [hnone] at hknown
    cases hknown

theorem upsert_keysUnique_iff (h : KeysUnique entries)
    {deviceType relationship depth lqi : UInt8} {rxOnWhenIdle permitJoining : Bool}
    {nowMs : UInt32} :
    KeysUnique (upsert entries nwkAddress ieeeAddress deviceType relationship depth lqi rxOnWhenIdle
      permitJoining nowMs).1 ↔ ¬ Clashes entries nwkAddress ieeeAddress := by
  rcases upsert_cases entries nwkAddress ieeeAddress deviceType relationship depth lqi rxOnWhenIdle
      permitJoining nowMs with ⟨hslot, hupsert⟩ | ⟨i, old, hslot, _, hupsert⟩
  · rw [hupsert]
    refine ⟨fun _ hclash => ?_, fun _ => h⟩
    obtain ⟨_, _, b, hb, _⟩ := hclash
    obtain ⟨i, hi⟩ := slotFor_isSome (List.ne_nil_of_mem hb) nwkAddress ieeeAddress
    rw [hi] at hslot
    cases hslot
  · rw [hupsert]
    exact ⟨fun hunique hclash => not_keysUnique_of_clashes hslot hclash rfl rfl hunique,
      fun hfits => h.set hslot hfits rfl rfl⟩

theorem KeysUnique.removeStaleRouters (h : KeysUnique entries) (cutoffMs : UInt32)
    (spareAddress : UInt16) :
    KeysUnique (removeStaleRouters entries cutoffMs spareAddress).1 := by
  refine h.map fun n => ?_
  rcases ZigbeeAddressAllocator.age_cases cutoffMs spareAddress n with
    ⟨hused, hnwk, hieee, _⟩ | ⟨hused, _⟩
  · exact .inr ⟨hused, hnwk, hieee⟩
  · exact .inl hused

/-- A call keeps the keys unique just when it is no upsert under clashing addresses. -/
theorem next_keysUnique_iff (h : KeysUnique entries) (call : Call) :
    KeysUnique (next entries call) ↔ ¬ call.Clashes entries := by
  cases call with
  | upsert => exact upsert_keysUnique_iff h
  | removeByNwk nwkAddress =>
    refine iff_of_true ?_ id
    simp only [next, removeByNwk]
    split
    · exact h
    · constructor
      · exact h.nwk.set fun _ _ _ _ _ hk => by cases hk
      · exact h.ieee.set fun _ _ _ _ _ hk => by cases hk
  | removeOlderThan cutoffMs =>
    refine iff_of_true (h.map fun n => ?_) id
    split
    · exact .inl rfl
    · exact .inr ⟨rfl, rfl, rfl⟩
  | removeStaleRouters cutoffMs spareAddress =>
    exact iff_of_true (h.removeStaleRouters cutoffMs spareAddress) id

end ZigbeeNeighborTable

/-! ## The calls of the network object -/

namespace ZigbeeNetwork

variable {net : ZigbeeNetwork}

/-- The addresses a call learns a parent under. -/
def Op.parentKeys : Op → Option (UInt16 × UInt64)
  | .noteParent nwkAddress ieeeAddress .. => some (nwkAddress, ieeeAddress)
  | _ => none

/-- The call learns a parent under the short address of one neighbor and the IEEE address of
another. -/
def Op.Clashes (net : ZigbeeNetwork) (op : Op) : Prop :=
  net.info.joined = true ∧
    ∃ keys ∈ op.parentKeys, ZigbeeNeighborTable.Clashes net.neighbors keys.1 keys.2

instance (net : ZigbeeNetwork) (op : Op) : Decidable (op.Clashes net) :=
  inferInstanceAs (Decidable (_ ∧ ∃ keys ∈ op.parentKeys, _))

theorem not_clashes {op : Op} (hop : op.parentKeys = none) : ¬ op.Clashes net := by
  rintro ⟨_, keys, hkeys, _⟩
  rw [hop] at hkeys
  cases hkeys

theorem childAddress_fits (h : KeysUnique net.neighbors) (ieeeAddress : UInt64) :
    ¬ ZigbeeNeighborTable.Clashes net.neighbors (net.childAddress ieeeAddress).2 ieeeAddress := by
  rintro ⟨hne, _, b, hb, hbused, hbieee, hbnwk⟩
  cases hknown : findByIeee net.neighbors ieeeAddress with
  | none => exact findByIeee_eq_none.mp hknown b hb hbused hbieee
  | some e =>
    obtain ⟨he, heused, heieee⟩ := findByIeee_eq_some hknown
    have hsame : b = e := h.ieee.eq hb he (leaseKey_eq_some.mpr ⟨hbused, by rwa [hbieee], hbieee⟩)
      (leaseKey_eq_some.mpr ⟨heused, by rwa [heieee], heieee⟩)
    refine hbnwk ?_
    rw [hsame, childAddress, hknown]

theorem heard_fits (h : KeysUnique net.neighbors) (senderShort : UInt16) :
    ¬ ZigbeeNeighborTable.Clashes net.neighbors senderShort
      ((findByNwk net.neighbors senderShort).elim 0 (·.ieeeAddress)) := by
  rintro ⟨hne, hknown, b, hb, hbused, hbieee, hbnwk⟩
  obtain ⟨e, hfound⟩ := Option.isSome_iff_exists.mp hknown
  obtain ⟨he, heused, henwk⟩ := findByNwk_eq_some hfound
  rw [hfound, Option.elim_some] at hne hbieee
  have hsame : b = e := h.ieee.eq hb he (leaseKey_eq_some.mpr ⟨hbused, by rwa [hbieee], hbieee⟩)
    (leaseKey_eq_some.mpr ⟨heused, hne, rfl⟩)
  exact hbnwk (hsame ▸ henwk)

theorem next_keysUnique_iff (h : KeysUnique net.neighbors) (op : Op) :
    KeysUnique (net.next op).neighbors ↔ ¬ op.Clashes net := by
  have haccept : ∀ ieeeAddress deviceType rxOnWhenIdle lqi nowMs,
      KeysUnique
        (net.next (.acceptChild ieeeAddress deviceType rxOnWhenIdle lqi nowMs)).neighbors := by
    intro ieeeAddress deviceType rxOnWhenIdle lqi nowMs
    simp only [next, acceptChild]
    split
    · exact h
    split
    · exact h
    · exact (upsert_keysUnique_iff h).mpr (childAddress_fits h ieeeAddress)
  have hown : ∀ op : Op, op.Own → KeysUnique (net.next op).neighbors :=
    fun op hop => by rwa [(next_own hop).1]
  cases op with
  | acceptChild => exact iff_of_true (haccept _ _ _ _ _) (not_clashes rfl)
  | handleAssociationRequest ieeeAddress request =>
    refine iff_of_true ?_ (not_clashes rfl)
    exact next_associationRequest (P := fun net : ZigbeeNetwork => KeysUnique net.neighbors) h
      (fun _ _ => haccept _ _ _ _ _) request
  | noteParent nwkAddress ieeeAddress deviceType depth lqi permitJoining nowMs =>
    have hclash : (Op.noteParent nwkAddress ieeeAddress deviceType depth lqi permitJoining
        nowMs).Clashes net ↔ net.info.joined = true ∧
          ZigbeeNeighborTable.Clashes net.neighbors nwkAddress ieeeAddress := by
      simp [Op.Clashes, Op.parentKeys]
    rw [hclash]
    simp only [next, noteParent]
    cases hjoined : net.info.joined with
    | false => simpa using h
    | true =>
      rw [if_neg (by simp)]
      have hiff := @upsert_keysUnique_iff net.neighbors nwkAddress ieeeAddress h deviceType
        zbRelParent depth lqi true permitJoining nowMs
      split <;> simpa using hiff
  | handleLinkStatus senderShort payload command lqi nowMs =>
    refine iff_of_true ?_ (not_clashes rfl)
    rcases @handleLinkStatus_cases net lqi nowMs senderShort payload command with
      ⟨heq, _⟩ | ⟨i, _, heard, _, hslot, _, ⟨_, hnwk, hieee, _⟩, heq⟩
    · rwa [heq]
    · rw [heq]
      exact h.set hslot (heard_fits h senderShort) hnwk hieee
  | ageNeighbors nowMs =>
    refine iff_of_true ?_ (not_clashes rfl)
    simp only [next, ageNeighbors]
    split
    · exact h
    split
    · exact h
    · exact h.removeStaleRouters _ _
  | configureAddressPool => exact iff_of_true h (not_clashes rfl)
  | _ => exact iff_of_true (hown _ trivial) (not_clashes rfl)

/-- The keys are unique after every part of a run, of the table's calls or of the network's, just
when no call of the run upserts clashing addresses. -/
theorem keysUnique_iff (capacity : UInt8) (calls : List ZigbeeNeighborTable.Call)
    (ops : List Op) :
    ((∀ n, KeysUnique ((calls.take n).foldl ZigbeeNeighborTable.next (begin capacity))) ↔
      Runs.Along ZigbeeNeighborTable.next (fun entries call => ¬ call.Clashes entries)
        (begin capacity) calls) ∧
    ((∀ n, KeysUnique ((ops.take n).foldl next (init (begin capacity))).neighbors) ↔
      Runs.Along next (fun net op => ¬ op.Clashes net) (init (begin capacity)) ops) := by
  constructor
  · exact (Runs.along_iff (I := KeysUnique)
      (fun _ call h => ZigbeeNeighborTable.next_keysUnique_iff h call)
      (begin_keysUnique capacity) calls).symm
  · exact (Runs.along_iff (I := fun net : ZigbeeNetwork => KeysUnique net.neighbors)
      (fun _ op h => next_keysUnique_iff h op) (begin_keysUnique capacity) ops).symm

/-- A child that comes back under a short address learned meanwhile is in the table twice. -/
theorem keys_duplicated :
    let calls : List ZigbeeNeighborTable.Call :=
      [.upsert 1 0xA1 zbDeviceRouter zbRelSibling 1 100 true false 0,
        .upsert 2 0 zbDeviceRouter zbRelSibling 1 100 true false 1,
        .upsert 2 0xA1 zbDeviceRouter zbRelSibling 1 100 true false 2]
    ((calls.foldl ZigbeeNeighborTable.next (begin 3)).filter (·.ieeeAddress = 0xA1)).map
        (·.nwkAddress) = [1, 2] ∧
      ¬ KeysUnique (calls.foldl ZigbeeNeighborTable.next (begin 3)) := by
  intro calls
  refine ⟨by decide, fun h => ?_⟩
  exact absurd (@h.ieee 0 1 _ _ 0xA1 rfl rfl rfl rfl) (by decide)

end ZigbeeNetwork

end NiusZigbee
