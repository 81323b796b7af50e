import NiusZigbee.Network.AddressAllocator

/-!
# A whole turn through the address pool

From any address of the pool `advance` comes past every other one within as many steps as the pool
is long. A search that gives up has seen the whole pool.
-/

namespace NiusZigbee

open ZigbeeNeighborTable

namespace ZigbeeAddressAllocator

variable (allocator : ZigbeeAddressAllocator) (neighbors : List ZigbeeNeighbor)

/-- A child or a former child with an IEEE address has the address. -/
def Held (address : UInt16) : Prop :=
  ∃ e ∈ neighbors, e.used = true ∧ e.nwkAddress = address ∧ isLease e = true

/-- The loop of `allocate` under its 16-bit counter `i`; `none` if it runs for more rounds. -/
def searchLoop : Nat → UInt16 → UInt16 → Option (Option UInt16)
  | 0, _, _ => none
  | rounds + 1, i, candidate =>
    if i < allocator.span then
      if allocator.isInPool candidate && !allocatedChild neighbors candidate then
        some (some candidate)
      else searchLoop rounds (i + 1) (allocator.advance candidate)
    else some none

variable {allocator neighbors} {candidate address : UInt16}

theorem allocatedChild_iff (hd : SlotTable.Distinct nwkKey neighbors) :
    allocatedChild neighbors address = true ↔ Held neighbors address := by
  constructor
  · intro h
    cases hfound : findByNwk neighbors address with
    | none => simp [allocatedChild, hfound] at h
    | some occupant =>
      rw [allocatedChild, hfound, Option.any_some] at h
      obtain ⟨hmem, hused, hnwk⟩ := findByNwk_eq_some hfound
      exact ⟨occupant, hmem, hused, hnwk, h⟩
  · rintro ⟨e, hmem, hused, hnwk, hlease⟩
    cases hfound : findByNwk neighbors address with
    | none => exact absurd hnwk (findByNwk_eq_none.mp hfound e hmem hused)
    | some occupant =>
      obtain ⟨homem, houed, honwk⟩ := findByNwk_eq_some hfound
      have hsame : e = occupant := hd.eq hmem homem (nwkKey_eq_some.mpr ⟨hused, hnwk⟩)
        (nwkKey_eq_some.mpr ⟨houed, honwk⟩)
      rw [allocatedChild, hfound, Option.any_some, ← hsame, hlease]

/-! ## The search -/

/-- The 16-bit counter reaches the span: the loop ends, with what the counted search finds. -/
theorem searchLoop_eq {rounds : Nat} {i : UInt16}
    (h : allocator.span.toNat - i.toNat < rounds) :
    allocator.searchLoop neighbors rounds i candidate =
      some (allocator.allocateFrom neighbors (allocator.span.toNat - i.toNat) candidate) := by
  induction rounds generalizing i candidate with
  | zero => omega
  | succ rounds ih =>
    rw [searchLoop]
    by_cases hi : i < allocator.span
    · have hlt : i.toNat < allocator.span.toNat := UInt16.lt_iff_toNat_lt.mp hi
      have hspan := allocator.span.toNat_lt
      have hsucc : (i + 1).toNat = i.toNat + 1 := by
        rw [UInt16.toNat_add]
        simp
        omega
      obtain ⟨left, hleft⟩ : ∃ left, allocator.span.toNat - i.toNat = left + 1 :=
        ⟨allocator.span.toNat - i.toNat - 1, by omega⟩
      have hnext : allocator.span.toNat - (i + 1).toNat = left := by omega
      rw [if_pos hi, hleft, allocateFrom]
      split
      · rfl
      · rw [ih (by omega), hnext]
    · have hge : allocator.span.toNat ≤ i.toNat := by
        simpa [UInt16.lt_iff_toNat_lt] using hi
      rw [if_neg hi, show allocator.span.toNat - i.toNat = 0 by omega, allocateFrom]

theorem allocateFrom_eq_none {tries : Nat}
    (h : allocator.allocateFrom neighbors tries candidate = none) :
    ∀ k < tries, allocator.isInPool (allocator.advance^[k] candidate) = true →
      allocatedChild neighbors (allocator.advance^[k] candidate) = true := by
  induction tries generalizing candidate with
  | zero => intro k hk; omega
  | succ tries ih =>
    unfold allocateFrom at h
    split at h
    · cases h
    · next htaken =>
      intro k hk hpool
      cases k with
      | zero => simpa [show allocator.isInPool candidate = true from hpool] using htaken
      | succ k =>
        rw [Function.iterate_succ_apply] at hpool ⊢
        exact ih h k (by omega) hpool

/-! ## The walk -/

theorem advance_iterate {k : Nat} (h : candidate.toNat + k ≤ allocator.lastAddress.toNat) :
    (allocator.advance^[k] candidate).toNat = candidate.toNat + k := by
  induction k with
  | zero => rfl
  | succ k ih =>
    have hk := ih (by omega)
    have hlast := allocator.lastAddress.toNat_lt
    have hlt : ¬ allocator.advance^[k] candidate ≥ allocator.lastAddress := by
      rw [ge_iff_le, UInt16.le_iff_toNat_le, hk]
      omega
    rw [Function.iterate_succ_apply', advance, if_neg hlt, UInt16.toNat_add, hk]
    simp
    omega

/-- One turn through the pool visits each of its addresses. -/
theorem advance_reaches (hw : allocator.WellFormed)
    (hfirst : allocator.firstAddress.toNat ≤ candidate.toNat)
    (hlast : candidate.toNat ≤ allocator.lastAddress.toNat)
    (hafirst : allocator.firstAddress.toNat ≤ address.toNat)
    (halast : address.toNat ≤ allocator.lastAddress.toNat) :
    ∃ k < allocator.span.toNat, allocator.advance^[k] candidate = address := by
  have hspan := span_toNat hw
  by_cases hle : candidate.toNat ≤ address.toNat
  · refine ⟨address.toNat - candidate.toNat, by omega, UInt16.toNat_inj.mp ?_⟩
    rw [advance_iterate (by omega)]
    omega
  · -- to the end of the pool, over to its start, and on from there
    have hend : allocator.advance^[allocator.lastAddress.toNat - candidate.toNat] candidate =
        allocator.lastAddress := by
      apply UInt16.toNat_inj.mp
      rw [advance_iterate (by omega)]
      omega
    have hover : allocator.advance allocator.lastAddress = allocator.firstAddress :=
      if_pos (UInt16.le_refl _)
    refine ⟨(address.toNat - allocator.firstAddress.toNat) + 1 +
      (allocator.lastAddress.toNat - candidate.toNat), by omega, UInt16.toNat_inj.mp ?_⟩
    rw [Function.iterate_add_apply, hend, Function.iterate_succ_apply, hover,
      advance_iterate (by omega)]
    omega

/-! ## Allocations -/

theorem run_wellFormed_pool (firstAddress lastAddress : UInt16)
    (tables : List (List ZigbeeNeighbor)) :
    (tables.foldl (fun pool table => (pool.allocate table).1)
      (begin firstAddress lastAddress)).WellFormed := by
  induction tables using List.reverseRecOn with
  | nil => exact begin_wellFormed firstAddress lastAddress
  | append_singleton tables table ih =>
    rw [List.foldl_append]
    exact allocate_wellFormed ih

theorem allocate_eq_searchLoop (hw : allocator.WellFormed) :
    ∃ found, allocator.searchLoop neighbors 0x10000 0 allocator.nextCandidate = some found ∧
      allocator.allocateFrom neighbors allocator.span.toNat allocator.nextCandidate = found ∧
      (allocator.allocate neighbors).2 = found.getD zbNwkAddrInvalid := by
  have hle := le_trans hw.first_le_next hw.next_le_last
  have hopen : ¬ allocator.firstAddress > allocator.lastAddress := by
    simp only [gt_iff_lt, UInt16.lt_iff_toNat_lt]
    omega
  have hspan := allocator.span.toNat_lt
  refine ⟨_, searchLoop_eq ?_, rfl, ?_⟩
  · simp only [UInt16.toNat_zero]
    omega
  · rw [allocate, if_neg hopen]
    simp only [UInt16.toNat_zero, Nat.sub_zero]
    cases allocator.allocateFrom neighbors allocator.span.toNat allocator.nextCandidate <;> rfl

/-- Whatever bounds it began with and whatever it gave out since, the pool is a range of device
addresses with the walk inside it; the search through it ends, gives out an address of the pool
that no child or former child holds, and gives up only when they hold every one. -/
theorem allocate_complete (firstAddress lastAddress : UInt16)
    (tables : List (List ZigbeeNeighbor)) (neighbors : List ZigbeeNeighbor)
    (hd : SlotTable.Distinct nwkKey neighbors) :
    let pool := tables.foldl (fun pool table => (pool.allocate table).1)
      (begin firstAddress lastAddress)
    (1 ≤ pool.firstAddress ∧ pool.firstAddress ≤ pool.lastAddress ∧ pool.lastAddress ≤ 0xFFF7 ∧
      pool.isInPool pool.nextCandidate = true) ∧
    (∃ found, pool.searchLoop neighbors 0x10000 0 pool.nextCandidate = some found ∧
      (pool.allocate neighbors).2 = found.getD zbNwkAddrInvalid) ∧
    ((pool.allocate neighbors).2 ≠ zbNwkAddrInvalid →
      pool.isInPool (pool.allocate neighbors).2 = true ∧
        ¬ Held neighbors (pool.allocate neighbors).2) ∧
    ((pool.allocate neighbors).2 = zbNwkAddrInvalid →
      ∀ address, pool.isInPool address = true → Held neighbors address) := by
  intro pool
  have hw : pool.WellFormed := run_wellFormed_pool firstAddress lastAddress tables
  have hpos := hw.pos
  have hlast := hw.last_le
  have hfirst := hw.first_le_next
  have hnext := hw.next_le_last
  have hin : pool.isInPool pool.nextCandidate = true :=
    isInPool_iff.mpr ⟨⟨by omega, by omega⟩, hfirst, hnext⟩
  obtain ⟨found, hloop, hfrom, hfound⟩ := @allocate_eq_searchLoop pool neighbors hw
  refine ⟨⟨UInt16.le_iff_toNat_le.mpr hpos, UInt16.le_iff_toNat_le.mpr (hfirst.trans hnext),
    UInt16.le_iff_toNat_le.mpr hlast, hin⟩, ⟨found, hloop, hfound⟩, fun hne => ?_, fun heq => ?_⟩
  · obtain ⟨hpool, hfree⟩ := allocate_spec hne
    refine ⟨hpool, fun hheld => ?_⟩
    rw [(allocatedChild_iff hd).mpr hheld] at hfree
    cases hfree
  · intro address haddress
    have hnone : found = none := by
      cases found with
      | none => rfl
      | some given =>
        have hgiven := (isInPool_iff.mp (allocateFrom_eq_some hfrom).1).1.2
        rw [hfound, Option.getD_some] at heq
        rw [heq] at hgiven
        exact absurd hgiven (by decide)
    rw [hnone] at hfrom
    have hbounds := (isInPool_iff.mp haddress).2
    obtain ⟨k, hk, hreach⟩ := advance_reaches hw hfirst hnext hbounds.1 hbounds.2
    have hheld := allocateFrom_eq_none hfrom k hk
    rw [hreach] at hheld
    exact (allocatedChild_iff hd).mp (hheld haddress)

/-- Two addresses of three were given out before. The third is free while a router has it, which has
no lease; with three children the walk, which starts at the last address, comes round to nothing. -/
theorem allocate_complete_exhausted :
    let entry (nwkAddress : UInt16) (ieeeAddress : UInt64) (relationship : UInt8) :
        ZigbeeNeighbor := { used := true, nwkAddress, ieeeAddress, relationship }
    let pool := [[], [entry 0x31 0xA1 zbRelChild]].foldl
      (fun (pool : ZigbeeAddressAllocator) table => (pool.allocate table).1) (begin 0x31 0x33)
    let shared := [entry 0x31 0xA1 zbRelChild, {}, entry 0x32 0xA2 zbRelPreviousChild,
      entry 0x33 0xA3 zbRelSibling]
    let full := [entry 0x31 0xA1 zbRelChild, entry 0x32 0xA2 zbRelPreviousChild, {},
      entry 0x33 0xA3 zbRelChild]
    pool.nextCandidate = 0x33 ∧
    (∃ found, pool.searchLoop full 0x10000 0 pool.nextCandidate = some found ∧
      (pool.allocate full).2 = found.getD zbNwkAddrInvalid) ∧
    ((pool.allocate shared).2 = 0x33 ∧ pool.isInPool 0x33 = true ∧ ¬ Held shared 0x33) ∧
    (pool.allocate full).2 = zbNwkAddrInvalid ∧
      ∀ address, pool.isInPool address = true → Held full address := by
  intro entry pool shared full
  have hshared : SlotTable.Distinct nwkKey shared :=
    SlotTable.distinct_of_keys_nodup (by decide)
  have hfull : SlotTable.Distinct nwkKey full := SlotTable.distinct_of_keys_nodup (by decide)
  obtain ⟨-, -, hfree, -⟩ :=
    allocate_complete 0x31 0x33 [[], [entry 0x31 0xA1 zbRelChild]] shared hshared
  obtain ⟨-, hloop, -, hheld⟩ :=
    allocate_complete 0x31 0x33 [[], [entry 0x31 0xA1 zbRelChild]] full hfull
  have hthird : (pool.allocate shared).2 = 0x33 := by decide
  have hnone : (pool.allocate full).2 = zbNwkAddrInvalid := by decide
  have hgiven := hfree (by decide)
  exact ⟨by decide, hloop, ⟨hthird, by decide, hthird ▸ hgiven.2⟩, hnone, hheld hnone⟩

end ZigbeeAddressAllocator

end NiusZigbee
