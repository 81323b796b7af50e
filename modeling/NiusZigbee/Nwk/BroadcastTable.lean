import NiusZigbee.Library.Runs
import NiusZigbee.Library.SlotTable
import Mathlib.Data.Option.Basic
import Mathlib.Logic.Function.Basic

/-!
# The broadcast transaction table

A broadcast is known by its source and its sequence number. While its entry is in the table it is
not processed again, copies of it count as passive acknowledgements, and it is sent again until
enough of them were heard. A table without slots is one that was never attached.
-/

namespace NiusZigbee

structure BroadcastEntry where
  used : Bool := false
  source : UInt16 := 0
  sequence : UInt8 := 0
  firstSeenMs : UInt32 := 0
  lastTxMs : UInt32 := 0
  retries : UInt8 := 0
  passiveAcks : UInt8 := 0
deriving DecidableEq, Repr

/-- Source and sequence number. -/
abbrev TransactionId := UInt16 × UInt8

namespace BroadcastEntry

def transaction (e : BroadcastEntry) : Option TransactionId :=
  if e.used then some (e.source, e.sequence) else none

/-- The entry of a transaction just recorded. -/
def fresh (k : TransactionId) (nowMs : UInt32) : BroadcastEntry :=
  ⟨true, k.1, k.2, nowMs, nowMs, 0, 0⟩

/-- A counter that stays at its largest value. -/
def bump (n : UInt8) : UInt8 := if n < 0xFF then n + 1 else n

def acked (e : BroadcastEntry) : BroadcastEntry := { e with passiveAcks := bump e.passiveAcks }

def sent (e : BroadcastEntry) (nowMs : UInt32) : BroadcastEntry :=
  { e with retries := bump e.retries, lastTxMs := nowMs }

/-- The conditions of `due`. -/
def Due (nowMs : UInt32) (neededAcks : UInt8) (retryMs : UInt32) (maxRetries : UInt8)
    (e : BroadcastEntry) : Prop :=
  e.used = true ∧ e.retries < maxRetries ∧ e.passiveAcks < neededAcks ∧
    retryMs ≤ nowMs - e.lastTxMs

instance (nowMs : UInt32) (neededAcks : UInt8) (retryMs : UInt32) (maxRetries : UInt8)
    (e : BroadcastEntry) : Decidable (Due nowMs neededAcks retryMs maxRetries e) :=
  inferInstanceAs (Decidable (_ ∧ _ ∧ _ ∧ _))

end BroadcastEntry

namespace ZigbeeBroadcastTable

open BroadcastEntry

def kDefaultExpiryMs : UInt32 := 9000

def begin (capacity : UInt8) : List BroadcastEntry := List.replicate capacity.toNat {}

def find (entries : List BroadcastEntry) (k : TransactionId) : Option Nat :=
  SlotTable.find transaction entries k

/-- A free slot, else the one seen longest ago. -/
def allocate (entries : List BroadcastEntry) (nowMs : UInt32) : Option Nat :=
  match SlotTable.firstFree transaction entries with
  | some i => some i
  | none =>
    SlotTable.least transaction
      (fun e oldest => nowMs - oldest.firstSeenMs < nowMs - e.firstSeenMs) entries

/-- What the two `record` calls have in common: the entry of the transaction, changed by `hit` if
the table has it already. -/
def record (entries : List BroadcastEntry) (k : TransactionId) (nowMs : UInt32)
    (hit : BroadcastEntry → BroadcastEntry) : Option Nat × List BroadcastEntry :=
  match find entries k with
  | some i => (some i, entries.modify i hit)
  | none =>
    match allocate entries nowMs with
    | none => (none, entries)
    | some i => (some i, entries.set i (fresh k nowMs))

/-- Whether the transaction is new. -/
def recordIncoming (entries : List BroadcastEntry) (source : UInt16) (sequence : UInt8)
    (nowMs : UInt32) : Bool × List BroadcastEntry :=
  ((find entries (source, sequence)).isNone, (record entries (source, sequence) nowMs acked).2)

def recordOutgoing (entries : List BroadcastEntry) (source : UInt16) (sequence : UInt8)
    (nowMs : UInt32) : Option Nat × List BroadcastEntry :=
  record entries (source, sequence) nowMs fun e => { e with lastTxMs := nowMs }

def markPassiveAck (entries : List BroadcastEntry) (source : UInt16) (sequence : UInt8) :
    Bool × List BroadcastEntry :=
  match find entries (source, sequence) with
  | none => (false, entries)
  | some i => (true, entries.modify i acked)

def due (entries : List BroadcastEntry) (nowMs : UInt32) (neededAcks : UInt8) (retryMs : UInt32)
    (maxRetries : UInt8) : Option Nat :=
  entries.findIdx? fun e => decide (e.Due nowMs neededAcks retryMs maxRetries)

def markRebroadcast (entries : List BroadcastEntry) (i : Nat) (nowMs : UInt32) :
    List BroadcastEntry := entries.modify i (·.sent nowMs)

/-- `expire` reclaims the entry. -/
def old (nowMs expiryMs : UInt32) (e : BroadcastEntry) : Bool :=
  e.used && expiryMs ≤ nowMs - e.firstSeenMs

def expire (entries : List BroadcastEntry) (nowMs expiryMs : UInt32) :
    Nat × List BroadcastEntry :=
  (entries.countP (old nowMs expiryMs),
    entries.map fun e => if old nowMs expiryMs e then {} else e)

/-- A call. The caller of `due` rebroadcasts what it returns, and marks that; entries are also
marked by themselves. -/
inductive Call where
  | recordIncoming (source : UInt16) (sequence : UInt8) (nowMs : UInt32)
  | recordOutgoing (source : UInt16) (sequence : UInt8) (nowMs : UInt32)
  | markPassiveAck (source : UInt16) (sequence : UInt8)
  | rebroadcastDue (nowMs : UInt32) (neededAcks : UInt8) (retryMs : UInt32) (maxRetries : UInt8)
  | markRebroadcast (i : Nat) (nowMs : UInt32)
  | expire (nowMs expiryMs : UInt32)

def step (entries : List BroadcastEntry) : Call → List BroadcastEntry
  | .recordIncoming source seqNo nowMs => (recordIncoming entries source seqNo nowMs).2
  | .recordOutgoing source seqNo nowMs => (recordOutgoing entries source seqNo nowMs).2
  | .markPassiveAck source seqNo => (markPassiveAck entries source seqNo).2
  | .rebroadcastDue nowMs neededAcks retryMs maxRetries =>
    ((due entries nowMs neededAcks retryMs maxRetries).map
      fun i => markRebroadcast entries i nowMs).getD entries
  | .markRebroadcast i nowMs => markRebroadcast entries i nowMs
  | .expire nowMs expiryMs => (expire entries nowMs expiryMs).2

/-- No slot is left for the transaction but that of another one. -/
def Full (entries : List BroadcastEntry) (k : TransactionId) : Prop :=
  entries ≠ [] ∧ ¬ SlotTable.HasRoom transaction entries k

instance (entries : List BroadcastEntry) (k : TransactionId) : Decidable (Full entries k) :=
  inferInstanceAs (Decidable (_ ∧ _))

/-- The call recycles a live entry. -/
def Recycles (entries : List BroadcastEntry) : Call → Prop
  | .recordIncoming source seqNo _ => Full entries (source, seqNo)
  | .recordOutgoing source seqNo _ => Full entries (source, seqNo)
  | _ => False

instance (entries : List BroadcastEntry) : (call : Call) → Decidable (Recycles entries call)
  | .recordIncoming _ _ _ => inferInstanceAs (Decidable (Full _ _))
  | .recordOutgoing _ _ _ => inferInstanceAs (Decidable (Full _ _))
  | .markPassiveAck _ _ => isFalse id
  | .rebroadcastDue _ _ _ _ => isFalse id
  | .markRebroadcast _ _ => isFalse id
  | .expire _ _ => isFalse id

/-! ## What happened to the transactions -/

/-- A live transaction: when it was recorded, and how often since it was sent again, how often of
these because it was due, and how often it was acknowledged. -/
structure Transaction where
  firstSeenMs : UInt32
  rebroadcasts : Nat := 0
  throughDue : Nat := 0
  passiveAcks : Nat := 0

namespace Transaction

def acked (t : Transaction) : Transaction := { t with passiveAcks := t.passiveAcks + 1 }

def sent (t : Transaction) : Transaction := { t with rebroadcasts := t.rebroadcasts + 1 }

def sentDue (t : Transaction) : Transaction :=
  { t with rebroadcasts := t.rebroadcasts + 1, throughDue := t.throughDue + 1 }

end Transaction

/-- The live transactions; there is no limit to them. -/
abbrev Log := TransactionId → Option Transaction

namespace Log

def record (log : Log) (k : TransactionId) (nowMs : UInt32) (hit : Transaction → Transaction) :
    Log :=
  Function.update log k (some (((log k).map hit).getD ⟨nowMs, 0, 0, 0⟩))

/-- A live transaction is changed. -/
def change (log : Log) (k : Option TransactionId) (f : Transaction → Transaction) : Log :=
  fun k' => if k = some k' then (log k').map f else log k'

def expire (log : Log) (nowMs expiryMs : UInt32) : Log :=
  fun k => (log k).filter fun t => !decide (expiryMs ≤ nowMs - t.firstSeenMs)

end Log

/-- The table, and what happened to the transactions. -/
structure Observed where
  entries : List BroadcastEntry
  log : Log

/-- The transaction a slot is for. -/
def transactionAt (entries : List BroadcastEntry) (i : Nat) : Option TransactionId :=
  entries[i]?.bind transaction

def observe (s : Observed) (call : Call) : Observed where
  entries := step s.entries call
  log :=
    match call with
    | .recordIncoming source seqNo nowMs =>
      if s.entries = [] then s.log else s.log.record (source, seqNo) nowMs .acked
    | .recordOutgoing source seqNo nowMs =>
      if s.entries = [] then s.log else s.log.record (source, seqNo) nowMs id
    | .markPassiveAck source seqNo => s.log.change (some (source, seqNo)) .acked
    | .rebroadcastDue nowMs neededAcks retryMs maxRetries =>
      s.log.change ((due s.entries nowMs neededAcks retryMs maxRetries).bind
        (transactionAt s.entries)) .sentDue
    | .markRebroadcast i _ => s.log.change (transactionAt s.entries i) .sent
    | .expire nowMs expiryMs => s.log.expire nowMs expiryMs

def start (capacity : UInt8) : Observed := ⟨begin capacity, fun _ => none⟩

def run (capacity : UInt8) (calls : List Call) : Observed := calls.foldl observe (start capacity)

/-- No call of the run recycles a live entry. -/
def NoneRecycled (capacity : UInt8) (calls : List Call) : Prop :=
  Runs.Along observe (fun s call => ¬ Recycles s.entries call) (start capacity) calls

instance (capacity : UInt8) (calls : List Call) : Decidable (NoneRecycled capacity calls) :=
  inferInstanceAs (Decidable (Runs.Along _ _ _ _))

/-! ## One call -/

/-- The entry holds what happened to the transaction, as far as its counters go. -/
structure Stands (e : BroadcastEntry) (t : Transaction) : Prop where
  firstSeen : e.firstSeenMs = t.firstSeenMs
  retries : e.retries.toNat = min t.rebroadcasts 255
  acks : e.passiveAcks.toNat = min t.passiveAcks 255

/-- The table holds the live transactions, each of them once. -/
structure Holds (entries : List BroadcastEntry) (log : Log) : Prop where
  distinct : SlotTable.Distinct transaction entries
  stands : ∀ k, Option.Rel Stands (SlotTable.lookup transaction entries k) (log k)

section Calls

variable {entries : List BroadcastEntry} {log : Log} {e : BroadcastEntry} {t : Transaction}
  {k : TransactionId} {i : Nat} {nowMs expiryMs : UInt32}

theorem bump_toNat (n : UInt8) : (bump n).toNat = min (n.toNat + 1) 255 := by
  have hlt := n.toNat_lt
  rw [bump]
  split
  · next h =>
    have hless : n.toNat < 255 := UInt8.lt_iff_toNat_lt.mp h
    rw [UInt8.toNat_add, UInt8.toNat_one]
    omega
  · next h =>
    have hmax : ¬ n.toNat < 255 := fun hless => h (UInt8.lt_iff_toNat_lt.mpr hless)
    omega

theorem Stands.acked (h : Stands e t) : Stands e.acked t.acked where
  firstSeen := h.firstSeen
  retries := h.retries
  acks := by
    have hacks := h.acks
    change (bump e.passiveAcks).toNat = min (t.passiveAcks + 1) 255
    rw [bump_toNat]
    omega

theorem Stands.sent (h : Stands e t) (nowMs : UInt32) : Stands (e.sent nowMs) t.sent where
  firstSeen := h.firstSeen
  retries := by
    have hretries := h.retries
    change (bump e.retries).toNat = min (t.rebroadcasts + 1) 255
    rw [bump_toNat]
    omega
  acks := h.acks

theorem Stands.sentDue (h : Stands e t) (nowMs : UInt32) : Stands (e.sent nowMs) t.sentDue :=
  ⟨(h.sent nowMs).firstSeen, (h.sent nowMs).retries, (h.sent nowMs).acks⟩

theorem used_of_transaction (h : e.transaction = some k) : e.used = true := by
  by_contra hused
  rw [transaction, if_neg hused] at h
  cases h

theorem Holds.at (h : Holds entries log) (hi : entries[i]? = some e)
    (hk : e.transaction = some k) : ∃ t, log k = some t ∧ Stands e t := by
  have hrel := h.stands k
  rw [h.distinct.lookup_of_getElem? hi hk] at hrel
  cases hlog : log k with
  | none =>
    rw [hlog] at hrel
    cases hrel
  | some t =>
    rw [hlog, Option.rel_some_some] at hrel
    exact ⟨t, rfl, hrel⟩

theorem Holds.lookup_eq_none_iff (h : Holds entries log) :
    SlotTable.lookup transaction entries k = none ↔ log k = none := by
  have hrel := h.stands k
  cases hlookup : SlotTable.lookup transaction entries k <;> cases hlog : log k <;>
    rw [hlookup, hlog] at hrel
  · exact iff_of_true rfl rfl
  · cases hrel
  · cases hrel
  · exact iff_of_false (Option.some_ne_none _) (Option.some_ne_none _)

theorem Holds.change (h : Holds entries log) (hi : entries[i]? = some e)
    (hk : e.transaction = some k) {f : BroadcastEntry → BroadcastEntry}
    {g : Transaction → Transaction} (hf : (f e).transaction = some k)
    (hfg : ∀ t, Stands e t → Stands (f e) (g t)) :
    Holds (entries.modify i f) (log.change (some k) g) := by
  have hmodify : entries.modify i f = entries.set i (f e) := by
    rw [List.modify_eq_set_getElem?, hi]
    rfl
  rw [hmodify]
  refine ⟨h.distinct.rewrite hi hk hf, fun k' => ?_⟩
  rw [h.distinct.lookup_rewrite hi hk hf, Log.change]
  by_cases hk' : k' = k
  · subst hk'
    obtain ⟨t, ht, hstands⟩ := h.at hi hk
    rw [if_pos rfl, if_pos rfl, ht]
    exact Option.Rel.some (hfg t hstands)
  · rw [if_neg hk', if_neg fun heq => hk' (Option.some.inj heq).symm]
    exact h.stands k'

theorem Holds.unused (h : Holds entries log) {f : BroadcastEntry → BroadcastEntry}
    (hi : ∀ e, entries[i]? = some e → e.transaction = none ∧ (f e).transaction = none) :
    Holds (entries.modify i f) log := by
  cases hslot : entries[i]? with
  | none =>
    rwa [List.modify_eq_set_getElem?, hslot]
  | some e =>
    obtain ⟨hfree, hfree'⟩ := hi e hslot
    have hmodify : entries.modify i f = entries.set i (f e) := by
      rw [List.modify_eq_set_getElem?, hslot]
      rfl
    rw [hmodify]
    refine ⟨h.distinct.clear hfree', fun k => ?_⟩
    rw [SlotTable.lookup_set_other]
    · exact h.stands k
    · intro hlt
      rw [List.getElem?_eq_getElem hlt] at hslot
      rw [Option.some.inj hslot, hfree]
      exact (Option.some_ne_none k).symm
    · rw [hfree']
      exact (Option.some_ne_none k).symm

theorem Log.record_held {hit : Transaction → Transaction} (h : log k = some t) :
    log.record k nowMs hit = log.change (some k) hit := by
  funext k'
  rw [Log.record, Log.change]
  by_cases hk' : k' = k
  · subst hk'
    rw [Function.update_self, if_pos rfl, h]
    rfl
  · rw [Function.update_of_ne hk', if_neg fun heq => hk' (Option.some.inj heq).symm]

theorem Holds.record (h : Holds entries log) (hroom : ¬ Full entries k)
    {hit : BroadcastEntry → BroadcastEntry} {hit' : Transaction → Transaction}
    (hkey : ∀ e, (hit e).transaction = e.transaction)
    (hhit : ∀ e t, Stands e t → Stands (hit e) (hit' t)) :
    Holds (record entries k nowMs hit).2
      (if entries = [] then log else log.record k nowMs hit') := by
  rw [ZigbeeBroadcastTable.record, find]
  cases hfind : SlotTable.find transaction entries k with
  | some i =>
    obtain ⟨hi, hk, -⟩ := SlotTable.find_eq_some hfind
    have hslot := List.getElem?_eq_getElem hi
    obtain ⟨t, ht, -⟩ := h.at hslot hk
    have hne : entries ≠ [] := List.ne_nil_of_length_pos (Nat.zero_lt_of_lt hi)
    rw [if_neg hne, Log.record_held ht]
    exact h.change hslot hk ((hkey _).trans hk) fun t => hhit _ t
  | none =>
    have hnone := SlotTable.lookup_of_find_none hfind
    cases hfree : SlotTable.firstFree transaction entries with
    | none =>
      have hempty : entries = [] := by
        by_contra hne
        refine hroom ⟨hne, ?_⟩
        rw [SlotTable.HasRoom, hfind, hfree]
        simp
      subst hempty
      exact h
    | some i =>
      obtain ⟨hi, -⟩ := SlotTable.firstFree_eq_some hfree
      have hne : entries ≠ [] := List.ne_nil_of_length_pos (Nat.zero_lt_of_lt hi)
      have hslot : SlotTable.slotFor transaction (fun _ => none) entries k = some i := by
        simp only [SlotTable.slotFor, hfind, hfree]
      have hfresh : (fresh k nowMs).transaction = some k := rfl
      have hlog : log k = none := h.lookup_eq_none_iff.mp hnone
      simp only [allocate, hfree, if_neg hne]
      refine ⟨h.distinct.store hslot hfresh, fun k' => ?_⟩
      rw [Log.record, hlog]
      by_cases hk' : k' = k
      · subst hk'
        rw [Function.update_self, SlotTable.lookup_store_self hslot hi hfresh]
        exact Option.Rel.some ⟨rfl, rfl, rfl⟩
      · rw [Function.update_of_ne hk', SlotTable.lookup_store_other
          (SlotTable.hasRoom_of_slotFor hslot) hslot hfresh hk']
        exact h.stands k'

theorem Holds.expire (h : Holds entries log) :
    Holds (expire entries nowMs expiryMs).2 (log.expire nowMs expiryMs) := by
  have hcleared : (({} : BroadcastEntry)).transaction = none := rfl
  refine ⟨h.distinct.map fun e => ?_, fun k => ?_⟩
  · split
    · exact Or.inl rfl
    · exact Or.inr rfl
  · have hrel := h.stands k
    rw [ZigbeeBroadcastTable.expire, h.distinct.lookup_reclaim hcleared, Log.expire]
    cases hlookup : SlotTable.lookup transaction entries k with
    | none =>
      rw [h.lookup_eq_none_iff.mp hlookup]
      exact Option.Rel.none
    | some e =>
      obtain ⟨i, hi⟩ := List.mem_iff_getElem?.mp (SlotTable.lookup_mem hlookup)
      have hk := SlotTable.lookup_key hlookup
      obtain ⟨t, ht, hstands⟩ := h.at hi hk
      have hold : old nowMs expiryMs e = decide (expiryMs ≤ nowMs - t.firstSeenMs) := by
        rw [old, used_of_transaction hk, hstands.firstSeen]
        rfl
      rw [ht, Option.filter_some, Option.filter_some, hold]
      split
      · exact Option.Rel.some hstands
      · exact Option.Rel.none

/-- What `due` returns has not been sent, and not been acknowledged, as often as its limits say. -/
theorem Holds.due (h : Holds entries log) {neededAcks maxRetries : UInt8} {retryMs : UInt32}
    (hdue : due entries nowMs neededAcks retryMs maxRetries = some i) :
    ∃ e k t, entries[i]? = some e ∧ e.transaction = some k ∧ log k = some t ∧ Stands e t ∧
      t.rebroadcasts < maxRetries.toNat ∧ t.passiveAcks < neededAcks.toNat := by
  obtain ⟨hi, hmeets, -⟩ := List.findIdx?_eq_some_iff_getElem.mp hdue
  obtain ⟨hused, hretries, hacks, -⟩ := of_decide_eq_true hmeets
  have hk : entries[i].transaction = some (entries[i].source, entries[i].sequence) := if_pos hused
  obtain ⟨t, ht, hstands⟩ := h.at (List.getElem?_eq_getElem hi) hk
  rw [UInt8.lt_iff_toNat_lt, hstands.retries] at hretries
  rw [UInt8.lt_iff_toNat_lt, hstands.acks] at hacks
  have hmax := maxRetries.toNat_lt
  have hneeded := neededAcks.toNat_lt
  exact ⟨_, _, t, List.getElem?_eq_getElem hi, hk, ht, hstands, by omega, by omega⟩

end Calls

/-! ## A run of calls -/

theorem Log.change_none (log : Log) (f : Transaction → Transaction) : log.change none f = log := by
  funext k
  exact if_neg (Option.some_ne_none k).symm

theorem Holds.markPassiveAck {entries : List BroadcastEntry} {log : Log} (h : Holds entries log)
    (source : UInt16) (sequence : UInt8) :
    Holds (markPassiveAck entries source sequence).2
      (log.change (some (source, sequence)) .acked) := by
  rw [ZigbeeBroadcastTable.markPassiveAck, find]
  cases hfind : SlotTable.find transaction entries (source, sequence) with
  | none =>
    have hnone := h.lookup_eq_none_iff.mp (SlotTable.lookup_of_find_none hfind)
    have hsame : log.change (some (source, sequence)) .acked = log := by
      funext k
      rw [Log.change]
      split
      · next hk =>
        rw [← Option.some.inj hk, hnone]
        rfl
      · rfl
    rwa [hsame]
  | some i =>
    obtain ⟨hi, hk, -⟩ := SlotTable.find_eq_some hfind
    exact h.change (List.getElem?_eq_getElem hi) hk hk fun t => Stands.acked

theorem Holds.markRebroadcast {entries : List BroadcastEntry} {log : Log} (h : Holds entries log)
    (i : Nat) (nowMs : UInt32) {g : Transaction → Transaction}
    (hg : ∀ e t, Stands e t → Stands (e.sent nowMs) (g t)) :
    Holds (markRebroadcast entries i nowMs) (log.change (transactionAt entries i) g) := by
  cases hat : transactionAt entries i with
  | none =>
    rw [Log.change_none]
    apply h.unused
    intro e he
    rw [transactionAt, he] at hat
    exact ⟨hat, hat⟩
  | some k =>
    obtain ⟨e, hi, hk⟩ := Option.bind_eq_some_iff.mp hat
    exact h.change hi hk hk fun t => hg e t

theorem Holds.observe {s : Observed} (h : Holds s.entries s.log) {call : Call}
    (hroom : ¬ Recycles s.entries call) : Holds (observe s call).entries (observe s call).log := by
  cases call with
  | recordIncoming source sequence nowMs =>
    exact h.record hroom (fun _ => rfl) fun _ _ => Stands.acked
  | recordOutgoing source sequence nowMs =>
    exact h.record hroom (fun _ => rfl) fun _ _ hstands =>
      ⟨hstands.firstSeen, hstands.retries, hstands.acks⟩
  | markPassiveAck source sequence => exact h.markPassiveAck source sequence
  | rebroadcastDue nowMs neededAcks retryMs maxRetries =>
    rw [ZigbeeBroadcastTable.observe, step]
    cases ZigbeeBroadcastTable.due s.entries nowMs neededAcks retryMs maxRetries with
    | none =>
      rw [Option.bind_none, Log.change_none]
      exact h
    | some i => exact h.markRebroadcast i nowMs fun _ _ hstands => hstands.sentDue nowMs
  | markRebroadcast i nowMs =>
    exact h.markRebroadcast i nowMs fun _ _ hstands => hstands.sent nowMs
  | expire nowMs expiryMs => exact h.expire

theorem begin_unused (capacity : UInt8) : ∀ e ∈ begin capacity, e.transaction = none := by
  intro e he
  rw [List.eq_of_mem_replicate he]
  rfl

theorem start_holds (capacity : UInt8) : Holds (start capacity).entries (start capacity).log := by
  refine ⟨SlotTable.distinct_of_unused (begin_unused capacity), fun k => ?_⟩
  have hnone : SlotTable.lookup transaction (begin capacity) k = none := by
    rw [SlotTable.lookup_eq_none]
    intro e he
    rw [begin_unused capacity e he]
    exact (Option.some_ne_none k).symm
  rw [start, hnone]
  exact Option.Rel.none

theorem run_holds {capacity : UInt8} {calls : List Call} (h : NoneRecycled capacity calls) :
    Holds (run capacity calls).entries (run capacity calls).log :=
  Runs.Along.invariant (I := fun s : Observed => Holds s.entries s.log)
    (fun _ _ hs hroom => hs.observe hroom) (start_holds capacity) h

theorem run_entries (capacity : UInt8) (calls : List Call) :
    (run capacity calls).entries = calls.foldl step (begin capacity) := by
  induction calls using List.reverseRecOn with
  | nil => rfl
  | append_singleton calls call ih =>
    rw [run, List.foldl_concat, List.foldl_concat, ← ih]
    rfl

/-- How often the live transactions were sent because they were due. -/
def Counted (m : Nat) (log : Log) : Prop :=
  ∀ k t, log k = some t → t.throughDue ≤ t.rebroadcasts ∧ t.throughDue ≤ m

theorem Counted.record {m : Nat} {log : Log} (h : Counted m log) (k : TransactionId)
    (nowMs : UInt32) {hit : Transaction → Transaction}
    (hhit : ∀ t, (hit t).rebroadcasts = t.rebroadcasts ∧ (hit t).throughDue = t.throughDue) :
    Counted m (log.record k nowMs hit) := by
  intro k' t ht
  rw [Log.record] at ht
  by_cases hk' : k' = k
  · subst hk'
    rw [Function.update_self] at ht
    obtain rfl := Option.some.inj ht
    cases hlog : log k' with
    | none => exact ⟨Nat.le_refl 0, Nat.zero_le m⟩
    | some t =>
      rw [Option.map_some, Option.getD_some, (hhit t).1, (hhit t).2]
      exact h k' t hlog
  · rw [Function.update_of_ne hk'] at ht
    exact h k' t ht

theorem Counted.change {m : Nat} {log : Log} (h : Counted m log) (k : Option TransactionId)
    {f : Transaction → Transaction}
    (hf : ∀ k' t, k = some k' → log k' = some t → (f t).throughDue ≤ (f t).rebroadcasts ∧
      (f t).throughDue ≤ m) :
    Counted m (log.change k f) := by
  intro k' t ht
  rw [Log.change] at ht
  split at ht
  · next hk =>
    obtain ⟨t, hlog, rfl⟩ := Option.map_eq_some_iff.mp ht
    exact hf k' t hk hlog
  · exact h k' t ht

/-- The limit of a call that sends what is due. -/
def Call.maxRetries : Call → Option UInt8
  | .rebroadcastDue _ _ _ maxRetries => some maxRetries
  | _ => none

theorem Counted.observe {m : Nat} {s : Observed} (h : Counted m s.log)
    (hholds : Holds s.entries s.log) {call : Call}
    (hlimit : ∀ maxRetries, call.maxRetries = some maxRetries → maxRetries.toNat ≤ m) :
    Counted m (observe s call).log := by
  cases call with
  | recordIncoming source sequence nowMs =>
    rw [ZigbeeBroadcastTable.observe]
    split
    · exact h
    · exact h.record _ nowMs fun _ => ⟨rfl, rfl⟩
  | recordOutgoing source sequence nowMs =>
    rw [ZigbeeBroadcastTable.observe]
    split
    · exact h
    · exact h.record _ nowMs fun _ => ⟨rfl, rfl⟩
  | markPassiveAck source sequence => exact h.change _ fun k t _ => h k t
  | rebroadcastDue nowMs neededAcks retryMs maxRetries =>
    apply h.change
    intro k t hk ht
    obtain ⟨i, hdue, hat⟩ := Option.bind_eq_some_iff.mp hk
    obtain ⟨e, k', t', hi, hk', ht', -, hless, -⟩ := hholds.due hdue
    rw [transactionAt, hi, Option.bind_some, hk'] at hat
    obtain rfl := Option.some.inj hat
    obtain rfl := Option.some.inj (ht.symm.trans ht')
    have hcount := (h k' t ht).1
    have hm := hlimit maxRetries rfl
    change t.throughDue + 1 ≤ t.rebroadcasts + 1 ∧ t.throughDue + 1 ≤ m
    omega
  | markRebroadcast i nowMs =>
    apply h.change
    intro k t _ ht
    exact ⟨Nat.le_succ_of_le (h k t ht).1, (h k t ht).2⟩
  | expire nowMs expiryMs =>
    intro k t ht
    exact h k t (Option.eq_some_of_filter_eq_some ht)

theorem run_counted {capacity : UInt8} {calls : List Call} {m : Nat}
    (h : NoneRecycled capacity calls)
    (hlimit : ∀ call ∈ calls, ∀ maxRetries, call.maxRetries = some maxRetries →
      maxRetries.toNat ≤ m) :
    Counted m (run capacity calls).log := by
  induction calls using List.reverseRecOn with
  | nil =>
    intro k t ht
    cases ht
  | append_singleton calls call ih =>
    have hprefix := (Runs.along_append.mp h).1
    rw [run, List.foldl_concat]
    refine (ih hprefix fun call hcall => hlimit call (List.mem_append_left _ hcall)).observe
      (run_holds hprefix) (hlimit call ?_)
    exact List.mem_append_right _ (List.mem_singleton.mpr rfl)

/-- While no live entry is recycled: a transaction is new just when it is not live, no transaction
has two entries, what is due is within its limits, and so none is sent more often than the limit
because it was due. -/
theorem broadcast_table_law (capacity : UInt8) (calls : List Call)
    (h : NoneRecycled capacity calls) :
    let entries := calls.foldl step (begin capacity)
    let log := (run capacity calls).log
    (∀ source sequence nowMs, (recordIncoming entries source sequence nowMs).1 = true ↔
      log (source, sequence) = none) ∧
    (SlotTable.keys transaction entries).Nodup ∧
    (∀ nowMs neededAcks retryMs maxRetries i,
      due entries nowMs neededAcks retryMs maxRetries = some i →
        ∃ k t, transactionAt entries i = some k ∧ log k = some t ∧
          t.rebroadcasts < maxRetries.toNat ∧ t.passiveAcks < neededAcks.toNat) ∧
    ∀ m, (∀ call ∈ calls, ∀ maxRetries, call.maxRetries = some maxRetries →
        maxRetries.toNat ≤ m) →
      ∀ k t, log k = some t → t.throughDue ≤ m := by
  have hholds := run_holds h
  intro entries log
  rw [run_entries] at hholds
  refine ⟨fun source sequence nowMs => ?_, hholds.distinct.keys_nodup, ?_, ?_⟩
  · rw [← hholds.lookup_eq_none_iff]
    change (SlotTable.find transaction entries (source, sequence)).isNone = true ↔ _
    cases hfind : SlotTable.find transaction entries (source, sequence) with
    | none => exact iff_of_true rfl (SlotTable.lookup_of_find_none hfind)
    | some i =>
      obtain ⟨hi, -⟩ := SlotTable.find_eq_some hfind
      rw [SlotTable.lookup_of_find hfind, List.getElem?_eq_getElem hi]
      exact iff_of_false Bool.false_ne_true (Option.some_ne_none _)
  · intro nowMs neededAcks retryMs maxRetries i hdue
    obtain ⟨e, k, t, hi, hk, ht, -, hless, hacks⟩ := hholds.due hdue
    exact ⟨k, t, by rw [transactionAt, hi, Option.bind_some, hk], ht, hless, hacks⟩
  · intro m hlimit k t ht
    exact (run_counted h hlimit k t ht).2

/-- A broadcast heard, sent again when due, heard twice more, and gone after nine seconds. -/
theorem broadcast_table_law_once :
    (recordIncoming ([.recordIncoming 0x1234 7 0xFFFFFF00, .rebroadcastDue 0x200 2 500 3,
        .recordIncoming 0x1234 7 0x280, .markPassiveAck 0x1234 7].foldl step (begin 2))
      0x1234 7 0x300).1 = false ∧
    (recordIncoming ([.recordIncoming 0x1234 7 0xFFFFFF00, .rebroadcastDue 0x200 2 500 3,
        .expire 0x3000 kDefaultExpiryMs].foldl step (begin 2)) 0x1234 7 0x3000).1 = true := by
  have hheard := (broadcast_table_law 2 [.recordIncoming 0x1234 7 0xFFFFFF00,
    .rebroadcastDue 0x200 2 500 3, .recordIncoming 0x1234 7 0x280, .markPassiveAck 0x1234 7]
    (by decide)).1 0x1234 7 0x300
  have hgone := (broadcast_table_law 2 [.recordIncoming 0x1234 7 0xFFFFFF00,
    .rebroadcastDue 0x200 2 500 3, .expire 0x3000 kDefaultExpiryMs] (by decide)).1 0x1234 7 0x3000
  refine ⟨?_, hgone.mpr (by decide)⟩
  rw [← Bool.not_eq_true, hheard]
  decide

end ZigbeeBroadcastTable

end NiusZigbee
