import NiusZigbee.Aps.BindingTable
import Mathlib.Data.Finset.Card

/-!
# Finding and binding

The output clusters of the initiator that the target takes as input are collected in an array of
sixteen, each once, and bound to the target. A match that finds the array full is not bound.
-/

namespace NiusZigbee

open ZigbeeBindingTable

namespace ZigbeeFindingBinding

/-- The loop over the output clusters; it ends early when `matched` is full. -/
def matchFrom (targetInputClusters : List UInt16) (maxMatched : UInt8) :
    List UInt16 → List UInt16 → List UInt16
  | [], matched => matched
  | c :: rest, matched =>
    if matched.length < maxMatched.toNat then
      matchFrom targetInputClusters maxMatched rest
        (if c ∈ targetInputClusters ∧ c ∉ matched then matched ++ [c] else matched)
    else matched

def matchClusters (myOutputClusters targetInputClusters : List UInt16) (maxMatched : UInt8) :
    List UInt16 :=
  matchFrom targetInputClusters maxMatched myOutputClusters []

/-- Both ends of the bindings to create. -/
structure Ends where
  srcIeee : UInt64
  srcEndpoint : UInt8
  targetIeee : UInt64
  targetEndpoint : UInt8

/-- The binding for the cluster. -/
def Ends.binding (ends : Ends) (clusterId : UInt16) : ZigbeeBinding where
  used := true
  srcIeee := ends.srcIeee
  srcEndpoint := ends.srcEndpoint
  clusterId := clusterId
  dstAddrMode := zbBindAddrIeee
  dstGroup := 0
  dstIeee := ends.targetIeee
  dstEndpoint := ends.targetEndpoint

/-- How many bindings are in place, and the table. -/
def createBindings (entries : List ZigbeeBinding) (ends : Ends) (matched : List UInt16) :
    UInt8 × List ZigbeeBinding :=
  matched.foldl (fun r c =>
    let (ok, entries) := add r.2 (ends.binding c)
    (if ok then r.1 + 1 else r.1, entries)) (0, entries)

def bindMatching (entries : List ZigbeeBinding) (ends : Ends)
    (myOutputClusters targetInputClusters : List UInt16) : UInt8 × List ZigbeeBinding :=
  createBindings entries ends (matchClusters myOutputClusters targetInputClusters 16)

/-! ## What is asked of it -/

/-- The distinct output clusters that the target takes. -/
def matching (mine target : List UInt16) : Finset UInt16 := (mine.filter (· ∈ target)).toFinset

def freeSlots (entries : List ZigbeeBinding) : Nat := entries.countP fun e => !e.used

/-- Every match is bound to the target, no binding is lost, and no other one is added. -/
structure BindsMatches (ends : Ends) (mine target : List UInt16)
    (entries entries' : List ZigbeeBinding) : Prop where
  bound : ∀ c ∈ matching mine target, (lookup entries' (ends.binding c).id).isSome = true
  kept : ∀ e ∈ entries, e.used = true → e ∈ entries'
  added : ∀ e ∈ entries', e.used = true →
    e ∈ entries ∨ ∃ c ∈ matching mine target, e = ends.binding c
  distinct : SlotTable.Distinct ZigbeeBinding.key entries →
    SlotTable.Distinct ZigbeeBinding.key entries'

/-- Fewer than sixteen matches come before the cluster in the initiator's list. -/
def Early (mine target : List UInt16) (c : UInt16) : Prop :=
  ∀ before after, mine = before ++ c :: after → c ∉ before → (matching before target).card < 16

/-! ## The array -/

variable {target : List UInt16} {maxMatched : UInt8} {c : UInt16}

theorem mem_matching {mine : List UInt16} : c ∈ matching mine target ↔ c ∈ mine ∧ c ∈ target := by
  simp [matching]

theorem matchFrom_full {matched : List UInt16} (h : ¬ matched.length < maxMatched.toNat)
    (rest : List UInt16) : matchFrom target maxMatched rest matched = matched := by
  cases rest with
  | nil => rfl
  | cons c rest => exact if_neg h

theorem matchFrom_append (before rest matched : List UInt16) :
    matchFrom target maxMatched (before ++ rest) matched =
      matchFrom target maxMatched rest (matchFrom target maxMatched before matched) := by
  induction before generalizing matched with
  | nil => rfl
  | cons c before ih =>
    by_cases hroom : matched.length < maxMatched.toNat
    · rw [List.cons_append, matchFrom, matchFrom, if_pos hroom, if_pos hroom, ih]
    · rw [matchFrom_full hroom, matchFrom_full hroom, matchFrom_full hroom]

theorem mem_matchFrom {matched : List UInt16} (h : c ∈ matched) (rest : List UInt16) :
    c ∈ matchFrom target maxMatched rest matched := by
  induction rest generalizing matched with
  | nil => exact h
  | cons x rest ih =>
    rw [matchFrom]
    split
    · apply ih
      split
      · exact List.mem_append_left _ h
      · exact h
    · exact h

/-- The array holds matches, each once, and all of them while it has room. -/
structure Collected (target : List UInt16) (maxMatched : UInt8) (seen matched : List UInt16) :
    Prop where
  nodup : matched.Nodup
  sound : ∀ c ∈ matched, c ∈ seen ∧ c ∈ target
  complete : matched.length < maxMatched.toNat → ∀ c ∈ seen, c ∈ target → c ∈ matched

theorem collected (target : List UInt16) (maxMatched : UInt8) (seen : List UInt16) :
    Collected target maxMatched seen (matchFrom target maxMatched seen []) := by
  induction seen using List.reverseRecOn with
  | nil =>
    exact ⟨List.nodup_nil, fun c hc => absurd hc List.not_mem_nil,
      fun _ c hc => absurd hc List.not_mem_nil⟩
  | append_singleton seen x ih =>
    rw [matchFrom_append]
    generalize matchFrom target maxMatched seen [] = matched at ih ⊢
    have hsound : ∀ c ∈ matched, c ∈ seen ++ [x] ∧ c ∈ target :=
      fun c hc => ⟨List.mem_append_left _ (ih.sound c hc).1, (ih.sound c hc).2⟩
    by_cases hroom : matched.length < maxMatched.toNat
    · rw [matchFrom, if_pos hroom, matchFrom]
      by_cases hnew : x ∈ target ∧ x ∉ matched
      · rw [if_pos hnew]
        refine ⟨?_, fun c hc => ?_, fun _ c hc htarget => ?_⟩
        · exact ih.nodup.append (List.nodup_singleton x) (by simpa using hnew.2)
        · rcases List.mem_append.mp hc with hc | hc
          · exact hsound c hc
          · rw [List.mem_singleton.mp hc]
            exact ⟨List.mem_append_right _ List.mem_cons_self, hnew.1⟩
        · rcases List.mem_append.mp hc with hc | hc
          · exact List.mem_append_left _ (ih.complete hroom c hc htarget)
          · exact List.mem_append_right _ hc
      · rw [if_neg hnew]
        refine ⟨ih.nodup, hsound, fun _ c hc htarget => ?_⟩
        rcases List.mem_append.mp hc with hc | hc
        · exact ih.complete hroom c hc htarget
        · rw [List.mem_singleton.mp hc] at htarget ⊢
          exact not_not.mp fun hnot => hnew ⟨htarget, hnot⟩
    · rw [matchFrom_full hroom]
      exact ⟨ih.nodup, hsound, fun h => absurd h hroom⟩

/-- The clusters collected are the early matches. -/
theorem mem_matchClusters {mine : List UInt16} :
    c ∈ matchClusters mine target 16 ↔ c ∈ matching mine target ∧ Early mine target c := by
  rw [mem_matching]
  constructor
  · intro hc
    refine ⟨(collected target 16 mine).sound c hc, ?_⟩
    rintro before after rfl hfirst
    have hbefore := collected target 16 before
    have hroom : (matchFrom target 16 before []).length < (16 : UInt8).toNat := by
      by_contra hfull
      rw [matchClusters, matchFrom_append, matchFrom_full hfull] at hc
      exact hfirst (hbefore.sound c hc).1
    have hsub : matching before target ⊆ (matchFrom target 16 before []).toFinset := by
      intro x hx
      obtain ⟨hmem, htarget⟩ := mem_matching.mp hx
      exact List.mem_toFinset.mpr (hbefore.complete hroom x hmem htarget)
    exact (Finset.card_le_card hsub).trans_lt ((List.toFinset_card_le _).trans_lt hroom)
  · rintro ⟨⟨hmem, htarget⟩, hearly⟩
    obtain ⟨before, after, rfl, hfirst⟩ := List.eq_append_cons_of_mem hmem
    have hbefore := collected target 16 before
    have hsub : (matchFrom target 16 before []).toFinset ⊆ matching before target := by
      intro x hx
      exact mem_matching.mpr (hbefore.sound x (List.mem_toFinset.mp hx))
    have hroom : (matchFrom target 16 before []).length < (16 : UInt8).toNat := by
      rw [← List.toFinset_card_of_nodup hbefore.nodup]
      exact (Finset.card_le_card hsub).trans_lt (hearly before after rfl hfirst)
    rw [matchClusters, matchFrom_append, matchFrom, if_pos hroom]
    apply mem_matchFrom
    split
    · exact List.mem_append_right _ List.mem_cons_self
    · next hheld =>
      exact not_not.mp fun hnot => hheld ⟨htarget, hnot⟩

theorem early_of_length {mine : List UInt16} (h : mine.length ≤ 16) : Early mine target c := by
  rintro before after rfl _
  have hcard : (matching before target).card ≤ before.length :=
    (List.toFinset_card_le _).trans (List.length_filter_le _ _)
  rw [List.length_append, List.length_cons] at h
  omega

theorem matchClusters_length_le (mine target : List UInt16) :
    (matchClusters mine target 16).length ≤ (matching mine target).card := by
  have hnodup : (matchClusters mine target 16).Nodup := (collected target 16 mine).nodup
  rw [← List.toFinset_card_of_nodup hnodup]
  apply Finset.card_le_card
  intro c hc
  exact (mem_matchClusters.mp (List.mem_toFinset.mp hc)).1

/-! ## The table -/

section Table

variable {entries : List ZigbeeBinding} {ends : Ends} {matched : List UInt16} {b : ZigbeeBinding}

theorem add_of_free (h : 0 < freeSlots entries) : (add entries b).1 = true := by
  by_contra hfail
  obtain ⟨e, he, hfree⟩ := List.countP_pos_iff.mp h
  have hused := (add_eq_false.mp (eq_false_of_ne_true hfail)).2 e he
  rw [hused] at hfree
  cases hfree

theorem freeSlots_add (entries : List ZigbeeBinding) (b : ZigbeeBinding) :
    freeSlots entries ≤ freeSlots (add entries b).2 + 1 := by
  rcases add_cases entries b with ⟨-, hadd⟩ | ⟨i, -, hroom, hslot, hadd⟩ | ⟨-, -, hadd⟩
  · rw [hadd]
    exact Nat.le_succ _
  · obtain ⟨hi, -⟩ := SlotTable.slotFor_of_room hroom hslot
    rw [hadd, freeSlots, freeSlots, List.countP_set hi]
    split <;> split <;> omega
  · rw [hadd]
    exact Nat.le_succ _

theorem createBindings_concat (entries : List ZigbeeBinding) (ends : Ends) (matched : List UInt16)
    (c : UInt16) : (createBindings entries ends (matched ++ [c])).2 =
      (add (createBindings entries ends matched).2 (ends.binding c)).2 := by
  rw [createBindings, createBindings, List.foldl_concat]

/-- What the loop over the collected clusters has done to the table. -/
structure Created (ends : Ends) (entries : List ZigbeeBinding) (matched : List UInt16)
    (entries' : List ZigbeeBinding) : Prop where
  free : freeSlots entries ≤ freeSlots entries' + matched.length
  kept : ∀ e ∈ entries, e.used = true → e ∈ entries'
  added : ∀ e ∈ entries', e.used = true → e ∈ entries ∨ ∃ c ∈ matched, e = ends.binding c
  other : ∀ k, (∀ c ∈ matched, k ≠ (ends.binding c).id) → lookup entries' k = lookup entries k
  held : ∀ k, (lookup entries k).isSome = true → (lookup entries' k).isSome = true
  distinct : SlotTable.Distinct ZigbeeBinding.key entries →
    SlotTable.Distinct ZigbeeBinding.key entries'

theorem created (entries : List ZigbeeBinding) (ends : Ends) (matched : List UInt16) :
    Created ends entries matched (createBindings entries ends matched).2 := by
  induction matched using List.reverseRecOn with
  | nil =>
    exact ⟨Nat.le_refl _, fun _ he _ => he, fun _ he _ => Or.inl he, fun _ _ => rfl, fun _ h => h,
      fun h => h⟩
  | append_singleton matched c ih =>
    rw [createBindings_concat]
    generalize (createBindings entries ends matched).2 = entries' at ih ⊢
    refine ⟨?_, fun e he hused => mem_add (ih.kept e he hused) hused, fun e he hused => ?_,
      fun k hk => ?_, fun k hk => lookup_add_held (ih.held k hk),
      fun h => add_distinct (ih.distinct h)⟩
    · have hstep := freeSlots_add entries' (ends.binding c)
      have hprev := ih.free
      rw [List.length_append, List.length_singleton]
      omega
    · rcases of_mem_add he with hmem | rfl
      · rcases ih.added e hmem hused with hold | ⟨x, hx, hnew⟩
        · exact Or.inl hold
        · exact Or.inr ⟨x, List.mem_append_left _ hx, hnew⟩
      · exact Or.inr ⟨c, List.mem_append_right _ List.mem_cons_self, rfl⟩
    · rw [add_other (hk c (List.mem_append_right _ List.mem_cons_self))]
      exact ih.other k fun x hx => hk x (List.mem_append_left _ hx)

/-- With a free slot for each, every collected cluster is bound. -/
theorem createBindings_bound (hroom : matched.length ≤ freeSlots entries) :
    ∀ c ∈ matched,
      (lookup (createBindings entries ends matched).2 (ends.binding c).id).isSome = true := by
  induction matched using List.reverseRecOn with
  | nil => exact fun c hc => absurd hc List.not_mem_nil
  | append_singleton matched x ih =>
    rw [List.length_append, List.length_singleton] at hroom
    have hfree := (created entries ends matched).free
    intro c hc
    rw [createBindings_concat]
    rcases List.mem_append.mp hc with hc | hc
    · exact lookup_add_held (ih (by omega) c hc)
    · rw [List.mem_singleton.mp hc]
      exact add_self (add_of_free (by omega))

end Table

/-- With a free slot for each distinct match, finding and binding does what is asked of it exactly
when every match beyond the sixteenth was bound before. -/
theorem bindMatching_iff (entries : List ZigbeeBinding) (ends : Ends) (mine target : List UInt16)
    (hroom : (matching mine target).card ≤ freeSlots entries) :
    BindsMatches ends mine target entries (bindMatching entries ends mine target).2 ↔
      ∀ c ∈ matching mine target,
        Early mine target c ∨ (lookup entries (ends.binding c).id).isSome = true := by
  have hcreated := created entries ends (matchClusters mine target 16)
  constructor
  · intro h c hc
    by_cases hearly : Early mine target c
    · exact Or.inl hearly
    · right
      rw [← hcreated.other]
      · exact h.bound c hc
      · intro x hx hid
        obtain rfl : c = x := congrArg BindingId.clusterId hid
        exact hearly (mem_matchClusters.mp hx).2
  · intro h
    refine ⟨fun c hc => ?_, hcreated.kept, fun e he hused => ?_, hcreated.distinct⟩
    · rcases h c hc with hearly | hheld
      · exact createBindings_bound ((matchClusters_length_le mine target).trans hroom) c
          (mem_matchClusters.mpr ⟨hc, hearly⟩)
      · exact hcreated.held _ hheld
    · rcases hcreated.added e he hused with hold | ⟨c, hc, hnew⟩
      · exact Or.inl hold
      · exact Or.inr ⟨c, (mem_matchClusters.mp hc).1, hnew⟩

/-- A switch is bound to a lamp for the two clusters that both have. -/
theorem bindMatching_iff_lamp :
    let ends : Ends := ⟨0x11, 1, 0x22, 11⟩
    BindsMatches ends [6, 6, 8, 0x300] [0, 8, 6] (begin 2)
      (bindMatching (begin 2) ends [6, 6, 8, 0x300] [0, 8, 6]).2 := by
  intro ends
  exact (bindMatching_iff (begin 2) ends [6, 6, 8, 0x300] [0, 8, 6] (by decide)).mpr
    fun c _ => Or.inl (early_of_length (by decide))

/-- The seventeenth match is lost, with a slot free for it. -/
theorem seventeenth_lost : ¬ ∀ (entries : List ZigbeeBinding) (ends : Ends)
    (mine target : List UInt16), (matching mine target).card ≤ freeSlots entries →
      BindsMatches ends mine target entries (bindMatching entries ends mine target).2 := by
  intro h
  let clusters : List UInt16 := (List.range 17).map (·.toUInt16)
  have hbinds := h (begin 17) ⟨0x11, 1, 0x22, 11⟩ clusters clusters (by decide)
  exact absurd (hbinds.bound 16 (by decide)) (by decide)

end ZigbeeFindingBinding

end NiusZigbee
