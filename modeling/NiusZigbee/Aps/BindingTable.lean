import NiusZigbee.Library.Latest
import NiusZigbee.Library.Runs
import NiusZigbee.Library.SlotTable

/-!
# The binding table

A binding is known by its source endpoint, its cluster and its destination, which is a group or a
device with an endpoint, as the address mode says. The table is a set of such bindings, and a walk
with `next` meets each binding of an endpoint and a cluster once.
-/

namespace NiusZigbee

structure ZigbeeBinding where
  used : Bool := false
  srcIeee : UInt64 := 0
  srcEndpoint : UInt8 := 0
  clusterId : UInt16 := 0
  dstAddrMode : UInt8 := 0
  dstGroup : UInt16 := 0
  dstIeee : UInt64 := 0
  dstEndpoint : UInt8 := 0
deriving DecidableEq, Repr

def zbBindAddrGroup : UInt8 := 0x01

def zbBindAddrIeee : UInt8 := 0x03

/-- What tells two bindings apart. -/
structure BindingId where
  srcEndpoint : UInt8
  clusterId : UInt16
  dstAddrMode : UInt8
  destination : UInt16 ⊕ UInt64 × UInt8
deriving DecidableEq

namespace ZigbeeBinding

def id (b : ZigbeeBinding) : BindingId where
  srcEndpoint := b.srcEndpoint
  clusterId := b.clusterId
  dstAddrMode := b.dstAddrMode
  destination :=
    if b.dstAddrMode = zbBindAddrGroup then .inl b.dstGroup else .inr (b.dstIeee, b.dstEndpoint)

def key (e : ZigbeeBinding) : Option BindingId := if e.used then some e.id else none

/-- The binding as a slot holds it. -/
def stored (b : ZigbeeBinding) : ZigbeeBinding := { b with used := true }

/-- Entry `e` is the binding that `find` looks for. -/
def Matches (b e : ZigbeeBinding) : Prop :=
  e.used = true ∧ e.srcEndpoint = b.srcEndpoint ∧ e.clusterId = b.clusterId ∧
    e.dstAddrMode = b.dstAddrMode ∧
      if b.dstAddrMode = zbBindAddrGroup then e.dstGroup = b.dstGroup
      else e.dstIeee = b.dstIeee ∧ e.dstEndpoint = b.dstEndpoint

instance (b e : ZigbeeBinding) : Decidable (b.Matches e) := by
  unfold Matches
  infer_instance

/-- Entry `e` is of the endpoint and the cluster that `next` walks. -/
def On (srcEndpoint : UInt8) (clusterId : UInt16) (e : ZigbeeBinding) : Prop :=
  e.used = true ∧ e.srcEndpoint = srcEndpoint ∧ e.clusterId = clusterId

instance (srcEndpoint : UInt8) (clusterId : UInt16) (e : ZigbeeBinding) :
    Decidable (e.On srcEndpoint clusterId) := inferInstanceAs (Decidable (_ ∧ _ ∧ _))

theorem stored_key (b : ZigbeeBinding) : b.stored.key = some b.id := rfl

theorem key_eq_none {e : ZigbeeBinding} : e.key = none ↔ e.used = false := by
  simp [key]

theorem matches_iff {b e : ZigbeeBinding} : b.Matches e ↔ e.key = some b.id := by
  cases hused : e.used with
  | false => simp [Matches, key, hused]
  | true =>
    simp only [Matches, key, hused, if_true, Option.some.injEq, id, BindingId.mk.injEq, true_and]
    refine and_congr_right fun _ => and_congr_right fun _ => and_congr_right fun hmode => ?_
    by_cases hgroup : b.dstAddrMode = zbBindAddrGroup
    · rw [if_pos hgroup, if_pos hgroup, if_pos (hmode.trans hgroup), Sum.inl.injEq]
    · rw [if_neg hgroup, if_neg hgroup, if_neg (hmode ▸ hgroup), Sum.inr.injEq, Prod.mk.injEq]

end ZigbeeBinding

namespace ZigbeeBindingTable

def begin (capacity : UInt8) : List ZigbeeBinding := List.replicate capacity.toNat {}

def find (entries : List ZigbeeBinding) (b : ZigbeeBinding) : Option Nat :=
  entries.findIdx? fun e => decide (b.Matches e)

/-- Whether the binding is in the table afterwards, and the table. -/
def add (entries : List ZigbeeBinding) (b : ZigbeeBinding) : Bool × List ZigbeeBinding :=
  match find entries b with
  | some _ => (true, entries)
  | none =>
    match entries.findIdx? fun e => !e.used with
    | some i => (true, entries.set i b.stored)
    | none => (false, entries)

def remove (entries : List ZigbeeBinding) (b : ZigbeeBinding) : Bool × List ZigbeeBinding :=
  match find entries b with
  | some i => (true, entries.set i {})
  | none => (false, entries)

/-- The loop of `next` over the slots from the cursor on. -/
def nextFrom (srcEndpoint : UInt8) (clusterId : UInt16) :
    List ZigbeeBinding → UInt8 → Option ZigbeeBinding × UInt8
  | [], cursor => (none, cursor)
  | e :: rest, cursor =>
    if e.On srcEndpoint clusterId then (some e, cursor + 1)
    else nextFrom srcEndpoint clusterId rest (cursor + 1)

/-- The next binding of the endpoint and the cluster, and the cursor behind it. -/
def next (entries : List ZigbeeBinding) (srcEndpoint : UInt8) (clusterId : UInt16)
    (cursor : UInt8) : Option ZigbeeBinding × UInt8 :=
  nextFrom srcEndpoint clusterId (entries.drop cursor.toNat) cursor

/-- What the calls of `next` return until `nullptr`; `none` if `calls` of them do not get there. -/
def walk (entries : List ZigbeeBinding) (srcEndpoint : UInt8) (clusterId : UInt16) :
    (calls : Nat) → (cursor : UInt8) → Option (List ZigbeeBinding)
  | 0, _ => none
  | calls + 1, cursor =>
    match next entries srcEndpoint clusterId cursor with
    | (none, _) => some []
    | (some e, cursor) => (walk entries srcEndpoint clusterId calls cursor).map (e :: ·)

inductive Call where
  | add (b : ZigbeeBinding)
  | remove (b : ZigbeeBinding)

def step (entries : List ZigbeeBinding) : Call → List ZigbeeBinding
  | .add b => (add entries b).2
  | .remove b => (remove entries b).2

/-- The table after a run of calls. -/
def after (capacity : UInt8) (calls : List Call) : List ZigbeeBinding :=
  calls.foldl step (begin capacity)

def lookup (entries : List ZigbeeBinding) (k : BindingId) : Option ZigbeeBinding :=
  SlotTable.lookup ZigbeeBinding.key entries k

/-- An add of the binding that succeeds after `past`. -/
def AddsAfter (capacity : UInt8) (k : BindingId) (past : List Call) (call : Call) (_ : Unit) :
    Prop :=
  ∃ b : ZigbeeBinding, call = .add b ∧ b.id = k ∧ (add (after capacity past) b).1 = true

def Removes (k : BindingId) (call : Call) : Prop := ∃ b : ZigbeeBinding, call = .remove b ∧ b.id = k

/-- The binding was added and not removed since. -/
def Bound (capacity : UInt8) (calls : List Call) (k : BindingId) : Prop :=
  Latest.LatestValue (AddsAfter capacity k) (fun _ call => Removes k call) calls ()

variable {entries : List ZigbeeBinding} {b e : ZigbeeBinding} {k : BindingId} {i : Nat}

theorem find_eq (entries : List ZigbeeBinding) (b : ZigbeeBinding) :
    find entries b = SlotTable.find ZigbeeBinding.key entries b.id := by
  simp only [find, SlotTable.find, ZigbeeBinding.matches_iff]

theorem firstFree_eq (entries : List ZigbeeBinding) :
    (entries.findIdx? fun e => !e.used) = SlotTable.firstFree ZigbeeBinding.key entries := by
  simp only [SlotTable.firstFree, ZigbeeBinding.key_eq_none]
  congr 1
  funext e
  cases e.used <;> rfl

/-! ## One call -/

/-- An add finds the binding, takes an unused slot for it, or finds the table full. -/
theorem add_cases (entries : List ZigbeeBinding) (b : ZigbeeBinding) :
    ((lookup entries b.id).isSome = true ∧ add entries b = (true, entries)) ∨
      (∃ i, lookup entries b.id = none ∧ SlotTable.HasRoom ZigbeeBinding.key entries b.id ∧
        SlotTable.slotFor ZigbeeBinding.key (fun _ => none) entries b.id = some i ∧
        add entries b = (true, entries.set i b.stored)) ∨
      (lookup entries b.id = none ∧ (∀ e ∈ entries, e.used = true) ∧
        add entries b = (false, entries)) := by
  rw [add, find_eq, firstFree_eq]
  cases hfind : SlotTable.find ZigbeeBinding.key entries b.id with
  | some i =>
    left
    obtain ⟨hi, -⟩ := SlotTable.find_eq_some hfind
    rw [lookup, SlotTable.lookup_of_find hfind, List.getElem?_eq_getElem hi]
    exact ⟨rfl, rfl⟩
  | none =>
    right
    have hnone := SlotTable.lookup_of_find_none hfind
    cases hfree : SlotTable.firstFree ZigbeeBinding.key entries with
    | some i =>
      refine Or.inl ⟨i, hnone, ?_, ?_, rfl⟩
      · exact Or.inr (by rw [hfree]; rfl)
      · simp only [SlotTable.slotFor, hfind, hfree]
    | none =>
      refine Or.inr ⟨hnone, fun e he => ?_, rfl⟩
      have hused := SlotTable.firstFree_eq_none hfree e he
      rw [Ne, ZigbeeBinding.key_eq_none] at hused
      exact eq_true_of_ne_false hused

theorem remove_cases (entries : List ZigbeeBinding) (b : ZigbeeBinding) :
    (∃ i, SlotTable.find ZigbeeBinding.key entries b.id = some i ∧
        remove entries b = (true, entries.set i {})) ∨
      (lookup entries b.id = none ∧ remove entries b = (false, entries)) := by
  rw [remove, find_eq]
  cases hfind : SlotTable.find ZigbeeBinding.key entries b.id with
  | some i => exact Or.inl ⟨i, rfl, rfl⟩
  | none => exact Or.inr ⟨SlotTable.lookup_of_find_none hfind, rfl⟩

theorem add_eq_false : (add entries b).1 = false ↔
    lookup entries b.id = none ∧ ∀ e ∈ entries, e.used = true := by
  rcases add_cases entries b with ⟨hheld, hadd⟩ | ⟨i, hnone, hroom, hslot, hadd⟩ |
    ⟨hnone, hfull, hadd⟩
  · rw [hadd]
    refine iff_of_false (by simp) fun h => ?_
    rw [h.1] at hheld
    cases hheld
  · rw [hadd]
    refine iff_of_false (by simp) fun h => ?_
    obtain ⟨hi, hkey | ⟨hfree, -⟩⟩ := SlotTable.slotFor_of_room hroom hslot
    · rw [lookup, SlotTable.lookup_eq_none] at hnone
      exact hnone _ (List.getElem_mem hi) hkey
    · rw [ZigbeeBinding.key_eq_none, h.2 _ (List.getElem_mem hi)] at hfree
      cases hfree
  · rw [hadd]
    exact iff_of_true rfl ⟨hnone, hfull⟩

theorem add_self (h : (add entries b).1 = true) :
    (lookup (add entries b).2 b.id).isSome = true := by
  rcases add_cases entries b with ⟨hheld, hadd⟩ | ⟨i, -, hroom, hslot, hadd⟩ | ⟨-, -, hadd⟩
  · rw [hadd]
    exact hheld
  · obtain ⟨hi, -⟩ := SlotTable.slotFor_of_room hroom hslot
    rw [hadd, lookup, SlotTable.lookup_store_self hslot hi b.stored_key]
    rfl
  · rw [hadd] at h
    cases h

theorem add_other (h : k ≠ b.id) : lookup (add entries b).2 k = lookup entries k := by
  rcases add_cases entries b with ⟨-, hadd⟩ | ⟨i, -, hroom, hslot, hadd⟩ | ⟨-, -, hadd⟩
  · rw [hadd]
  · rw [hadd]
    exact SlotTable.lookup_store_other hroom hslot b.stored_key h
  · rw [hadd]

theorem add_failed (h : (add entries b).1 = false) : (add entries b).2 = entries := by
  rcases add_cases entries b with ⟨-, hadd⟩ | ⟨i, -, -, -, hadd⟩ | ⟨-, -, hadd⟩
  · rw [hadd]
  · rw [hadd] at h
    cases h
  · rw [hadd]

theorem mem_add (he : e ∈ entries) (hused : e.used = true) :
    e ∈ (add entries b).2 := by
  rcases add_cases entries b with ⟨-, hadd⟩ | ⟨i, hnone, hroom, hslot, hadd⟩ | ⟨-, -, hadd⟩
  · rwa [hadd]
  · rw [hadd]
    obtain ⟨hi, hcase⟩ := SlotTable.slotFor_of_room hroom hslot
    obtain ⟨j, hj⟩ := List.mem_iff_getElem?.mp he
    have hij : i ≠ j := by
      rintro rfl
      rw [List.getElem?_eq_getElem hi] at hj
      obtain rfl := Option.some.inj hj
      rcases hcase with hkey | ⟨hfree, -⟩
      · exact SlotTable.lookup_eq_none.mp hnone _ he hkey
      · rw [ZigbeeBinding.key_eq_none, hused] at hfree
        cases hfree
    exact List.mem_of_getElem? ((List.getElem?_set_ne hij).trans hj)
  · rwa [hadd]

theorem of_mem_add (he : e ∈ (add entries b).2) : e ∈ entries ∨ e = b.stored := by
  rcases add_cases entries b with ⟨-, hadd⟩ | ⟨i, -, -, -, hadd⟩ | ⟨-, -, hadd⟩
  · rw [hadd] at he
    exact Or.inl he
  · rw [hadd] at he
    exact List.mem_or_eq_of_mem_set he
  · rw [hadd] at he
    exact Or.inl he

theorem lookup_add_held (h : (lookup entries k).isSome = true) :
    (lookup (add entries b).2 k).isSome = true := by
  by_cases hk : k = b.id
  · rcases add_cases entries b with ⟨-, hadd⟩ | ⟨i, hnone, -⟩ | ⟨-, -, hadd⟩
    · rwa [hadd]
    · rw [hk, hnone] at h
      cases h
    · rwa [hadd]
  · rwa [add_other hk]

theorem add_distinct (h : SlotTable.Distinct ZigbeeBinding.key entries) :
    SlotTable.Distinct ZigbeeBinding.key (add entries b).2 := by
  rcases add_cases entries b with ⟨-, hadd⟩ | ⟨i, -, -, hslot, hadd⟩ | ⟨-, -, hadd⟩
  · rwa [hadd]
  · rw [hadd]
    exact h.store hslot b.stored_key
  · rwa [hadd]

theorem add_length (entries : List ZigbeeBinding) (b : ZigbeeBinding) :
    (add entries b).2.length = entries.length := by
  rcases add_cases entries b with ⟨-, hadd⟩ | ⟨i, -, -, -, hadd⟩ | ⟨-, -, hadd⟩
  · rw [hadd]
  · rw [hadd]
    exact List.length_set
  · rw [hadd]

theorem remove_self (h : SlotTable.Distinct ZigbeeBinding.key entries) :
    lookup (remove entries b).2 b.id = none := by
  rcases remove_cases entries b with ⟨i, hfind, hremove⟩ | ⟨hnone, hremove⟩
  · rw [hremove]
    exact h.lookup_clear hfind rfl
  · rw [hremove]
    exact hnone

theorem remove_other (h : k ≠ b.id) : lookup (remove entries b).2 k = lookup entries k := by
  rcases remove_cases entries b with ⟨i, hfind, hremove⟩ | ⟨-, hremove⟩
  · rw [hremove]
    exact SlotTable.lookup_clear_other hfind rfl h
  · rw [hremove]

/-! ## A run of calls -/

/-- No binding twice, and as many slots as at the start. -/
structure Sound (capacity : UInt8) (entries : List ZigbeeBinding) : Prop where
  distinct : SlotTable.Distinct ZigbeeBinding.key entries
  length_eq : entries.length = capacity.toNat

theorem Sound.step {capacity : UInt8} (h : Sound capacity entries) (call : Call) :
    Sound capacity (step entries call) := by
  cases call with
  | add b => exact ⟨add_distinct h.distinct, (add_length entries b).trans h.length_eq⟩
  | remove b =>
    rcases remove_cases entries b with ⟨i, -, hremove⟩ | ⟨-, hremove⟩
    · rw [ZigbeeBindingTable.step, hremove]
      exact ⟨h.distinct.clear rfl, List.length_set.trans h.length_eq⟩
    · rwa [ZigbeeBindingTable.step, hremove]

theorem begin_unused (capacity : UInt8) : ∀ e ∈ begin capacity, e.key = none := by
  intro e he
  rw [List.eq_of_mem_replicate he]
  rfl

theorem after_sound (capacity : UInt8) (calls : List Call) :
    Sound capacity (after capacity calls) :=
  Runs.invariant (fun _ call h => h.step call)
    ⟨SlotTable.distinct_of_unused (begin_unused capacity), List.length_replicate⟩ calls

theorem after_concat (capacity : UInt8) (calls : List Call) (call : Call) :
    after capacity (calls ++ [call]) = step (after capacity calls) call := by
  rw [after, List.foldl_concat]
  rfl

/-- The table holds what was added and not removed since. -/
theorem lookup_isSome_iff (capacity : UInt8) (calls : List Call) (k : BindingId) :
    (lookup (after capacity calls) k).isSome = true ↔ Bound capacity calls k := by
  suffices hlatest : (lookup (after capacity calls) k).map (fun _ => ()) = some () ↔
      Bound capacity calls k by
    rw [← hlatest]
    cases lookup (after capacity calls) k <;> simp
  refine @Latest.eq_some_iff _ _ (AddsAfter capacity k) (fun _ call => Removes k call)
    (fun calls => (lookup (after capacity calls) k).map fun _ => ()) ?_ ?_ ?_ ?_ calls ()
  · have hnone : lookup (after capacity []) k = none := by
      rw [lookup, SlotTable.lookup_eq_none]
      intro e he
      rw [begin_unused capacity e he]
      simp
    rw [hnone]
    rfl
  · rintro past _ ⟨⟩ ⟨b, rfl, rfl, hadded⟩
    obtain ⟨e, he⟩ := Option.isSome_iff_exists.mp (add_self hadded)
    rw [after_concat, step, he]
    rfl
  · rintro past _ ⟨b, rfl, rfl⟩
    rw [after_concat, step, remove_self (after_sound capacity past).distinct]
    rfl
  · rintro past call ⟨hremove, hadd⟩
    rw [after_concat]
    cases call with
    | add b =>
      by_cases hk : k = b.id
      · cases hadded : (add (after capacity past) b).1 with
        | true => exact absurd ⟨b, rfl, hk.symm, hadded⟩ (hadd ())
        | false => rw [step, add_failed hadded]
      · rw [step, add_other hk]
    | remove b =>
      have hk : k ≠ b.id := fun hk => hremove ⟨b, rfl, hk.symm⟩
      rw [step, remove_other hk]

/-- Every slot in use holds a binding as it was added. -/
theorem stored_of_mem (capacity : UInt8) (calls : List Call) :
    ∀ e ∈ after capacity calls, e.used = true → ∃ b, Call.add b ∈ calls ∧ e = b.stored := by
  induction calls using List.reverseRecOn with
  | nil =>
    intro e he hused
    have hnone := begin_unused capacity e he
    rw [ZigbeeBinding.key_eq_none, hused] at hnone
    cases hnone
  | append_singleton calls call ih =>
    intro e he hused
    have hkept : e ∈ after capacity calls →
        ∃ b, Call.add b ∈ calls ++ [call] ∧ e = b.stored := by
      intro hmem
      obtain ⟨b, hb, heq⟩ := ih e hmem hused
      exact ⟨b, List.mem_append_left _ hb, heq⟩
    rw [after_concat] at he
    cases call with
    | add b =>
      rcases of_mem_add he with hmem | rfl
      · exact hkept hmem
      · exact ⟨b, List.mem_append_right _ List.mem_cons_self, rfl⟩
    | remove b =>
      rcases remove_cases (after capacity calls) b with ⟨i, -, hremove⟩ | ⟨-, hremove⟩
      · rw [step, hremove] at he
        rcases List.mem_or_eq_of_mem_set he with hmem | rfl
        · exact hkept hmem
        · cases hused
      · rw [step, hremove] at he
        exact hkept he

/-! ## The walk -/

variable {srcEndpoint : UInt8} {clusterId : UInt16}

theorem nextFrom_spec (rest : List ZigbeeBinding) (cursor : UInt8)
    (h : cursor.toNat + rest.length ≤ 255) :
    (rest.filter (·.On srcEndpoint clusterId) = [] ∧
        ∃ cursor', nextFrom srcEndpoint clusterId rest cursor = (none, cursor')) ∨
      ∃ (e : ZigbeeBinding) (skipped tail : List ZigbeeBinding) (cursor' : UInt8),
        rest = skipped ++ e :: tail ∧ skipped.filter (·.On srcEndpoint clusterId) = [] ∧
          e.On srcEndpoint clusterId ∧ cursor'.toNat = cursor.toNat + skipped.length + 1 ∧
          nextFrom srcEndpoint clusterId rest cursor = (some e, cursor') := by
  induction rest generalizing cursor with
  | nil => exact Or.inl ⟨rfl, cursor, rfl⟩
  | cons x rest ih =>
    rw [List.length_cons] at h
    have hcursor : (cursor + 1).toNat = cursor.toNat + 1 := by
      rw [UInt8.toNat_add, UInt8.toNat_one]
      exact Nat.mod_eq_of_lt (by omega)
    by_cases hon : x.On srcEndpoint clusterId
    · exact Or.inr ⟨x, [], rest, cursor + 1, rfl, rfl, hon, hcursor, if_pos hon⟩
    · rw [nextFrom, if_neg hon]
      have hfilter : ∀ xs : List ZigbeeBinding, (x :: xs).filter (·.On srcEndpoint clusterId) =
          xs.filter (·.On srcEndpoint clusterId) :=
        fun xs => List.filter_cons_of_neg (by simpa using hon)
      rcases ih (cursor + 1) (by omega) with ⟨hnone, hnext⟩ |
        ⟨e, skipped, tail, cursor', rfl, hskipped, he, hcursor', hnext⟩
      · exact Or.inl ⟨(hfilter rest).trans hnone, hnext⟩
      · refine Or.inr ⟨e, x :: skipped, tail, cursor', rfl, (hfilter skipped).trans hskipped, he,
          ?_, hnext⟩
        rw [List.length_cons]
        omega

/-- From any cursor the walk returns what the slots from there on hold, in slot order. -/
theorem walk_from (hlength : entries.length ≤ 255) (calls : Nat) (cursor : UInt8)
    (hcursor : cursor.toNat ≤ entries.length) (hcalls : entries.length - cursor.toNat < calls) :
    walk entries srcEndpoint clusterId calls cursor =
      some ((entries.drop cursor.toNat).filter (·.On srcEndpoint clusterId)) := by
  induction calls generalizing cursor with
  | zero => omega
  | succ calls ih =>
    have hrest : cursor.toNat + (entries.drop cursor.toNat).length ≤ 255 := by
      rw [List.length_drop]
      omega
    rcases nextFrom_spec (entries.drop cursor.toNat) cursor hrest with ⟨hnone, cursor', hnext⟩ |
      ⟨e, skipped, tail, cursor', hsplit, hskipped, he, hcursor', hnext⟩
    · rw [walk, next, hnext, hnone]
    · have hlen := congrArg List.length hsplit
      rw [List.length_drop, List.length_append, List.length_cons] at hlen
      have htail : entries.drop cursor'.toNat = tail := by
        rw [hcursor', Nat.add_assoc, ← List.drop_drop, hsplit, ← List.drop_drop,
          List.drop_left]
        rfl
      rw [walk, next, hnext]
      dsimp only
      rw [ih cursor' (by omega) (by omega), htail, hsplit, List.filter_append, hskipped,
        List.filter_cons_of_pos (by simpa using he)]
      rfl

theorem after_length_le (capacity : UInt8) (calls : List Call) :
    (after capacity calls).length ≤ 255 := by
  rw [(after_sound capacity calls).length_eq]
  exact Nat.le_of_lt_succ capacity.toNat_lt

/-- After any run of calls the table is the set of the bindings added and not removed since, an add
fails only for a new binding in a full table, and a walk meets the bindings of its endpoint and
cluster once each. -/
theorem binding_table_law (capacity : UInt8) (calls : List Call) :
    (SlotTable.keys ZigbeeBinding.key (after capacity calls)).Nodup ∧
      (∀ k, k ∈ SlotTable.keys ZigbeeBinding.key (after capacity calls) ↔ Bound capacity calls k) ∧
      (∀ e ∈ after capacity calls, e.used = true → ∃ b, Call.add b ∈ calls ∧ e = b.stored) ∧
      (∀ b, (add (after capacity calls) b).1 = false ↔
        ¬ Bound capacity calls b.id ∧ ∀ e ∈ after capacity calls, e.used = true) ∧
      ∀ srcEndpoint clusterId numCalls, (after capacity calls).length < numCalls →
        walk (after capacity calls) srcEndpoint clusterId numCalls 0 =
          some ((after capacity calls).filter (·.On srcEndpoint clusterId)) := by
  refine ⟨(after_sound capacity calls).distinct.keys_nodup, fun k => ?_,
    stored_of_mem capacity calls, fun b => ?_, fun srcEndpoint clusterId numCalls h => ?_⟩
  · rw [SlotTable.mem_keys]
    exact lookup_isSome_iff capacity calls k
  · rw [add_eq_false, ← lookup_isSome_iff, Bool.not_eq_true, Option.isSome_eq_false_iff,
      Option.isNone_iff_eq_none]
  · exact walk_from (after_length_le capacity calls) numCalls 0 (Nat.zero_le _) h

/-- A lamp and a group on one switch; the lamp's slot goes to another lamp. -/
theorem binding_table_law_reused_slot :
    let lamp (ieee : UInt64) : ZigbeeBinding :=
      { srcEndpoint := 1, clusterId := 6, dstAddrMode := 3, dstIeee := ieee, dstEndpoint := 11 }
    let group : ZigbeeBinding :=
      { srcEndpoint := 1, clusterId := 6, dstAddrMode := 1, dstGroup := 7 }
    walk (after 2 [.add (lamp 0xA1), .add group, .remove (lamp 0xA1), .add (lamp 0xB2)]) 1 6 3 0 =
      some [(lamp 0xB2).stored, group.stored] := by
  intro lamp group
  exact (binding_table_law 2
    [.add (lamp 0xA1), .add group, .remove (lamp 0xA1), .add (lamp 0xB2)]).2.2.2.2 1 6 3 (by decide)

end ZigbeeBindingTable

end NiusZigbee
