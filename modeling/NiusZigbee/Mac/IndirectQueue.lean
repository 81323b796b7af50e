import NiusZigbee.Library.Latest
import NiusZigbee.Library.Recency

/-!
# The indirect queue

A parent keeps the latest frame for each sleepy child until the child polls, or its time is over.
A full queue gives up the entry that would expire first, as far as the wrapping clock can tell.
-/

namespace NiusZigbee

open Recency

/-- The payload is an array of 100 bytes, of which the first `length` are the frame. -/
structure IndirectEntry where
  used : Bool
  childShort : UInt16
  expiryMs : UInt32
  length : UInt8
  payload : Vector UInt8 100
deriving DecidableEq

namespace IndirectEntry

def kMaxPayload : Nat := 100

/-- The constructor, which leaves the payload as it finds it. -/
def empty (payload : Vector UInt8 100) : IndirectEntry := ⟨false, 0xFFFF, 0, 0, payload⟩

def child (e : IndirectEntry) : Option UInt16 := if e.used then some e.childShort else none

/-- Length and bytes of the frame. -/
def frame (e : IndirectEntry) : Nat × List UInt8 :=
  (e.length.toNat, e.payload.toList.take e.length.toNat)

/-- `memcpy` onto the front of the payload. -/
def copy (payload : Vector UInt8 100) (data : List UInt8) : Vector UInt8 100 :=
  Vector.ofFn fun i => data.getD i.1 payload[i]

/-- The persistence time has elapsed. -/
def due (nowMs : UInt32) (e : IndirectEntry) : Bool := 0 ≤ (nowMs - e.expiryMs).toInt32

theorem child_eq_some {e : IndirectEntry} {c : UInt16} :
    e.child = some c ↔ e.used = true ∧ e.childShort = c := by
  rw [child]
  cases e.used <;> simp

theorem child_eq_none {e : IndirectEntry} : e.child = none ↔ e.used = false := by
  simp [child]

theorem copy_take (payload : Vector UInt8 100) {data : List UInt8} (h : data.length ≤ 100) :
    (copy payload data).toList.take data.length = data := by
  apply List.ext_getElem
  · rw [List.length_take, Vector.length_toList]
    omega
  · intro i hi hi'
    simp only [List.getElem_take, Vector.getElem_toList, copy, Vector.getElem_ofFn,
      List.getD_eq_getElem?_getD, List.getElem?_eq_getElem hi', Option.getD_some]

end IndirectEntry

namespace ZigbeeIndirectQueue

open IndirectEntry

variable (uninit : Vector UInt8 100)

def begin (capacity : UInt8) : List IndirectEntry := List.replicate capacity.toNat (empty uninit)

/-- `entries_[i].expiryMs` comes before the candidate's, on the wrapping clock. -/
def sooner (e candidate : IndirectEntry) : Bool := (e.expiryMs - candidate.expiryMs).toInt32 < 0

def oldest (entries : List IndirectEntry) : Option Nat := SlotTable.least child sooner entries

def pending (entries : List IndirectEntry) (childShort : UInt16) : Option IndirectEntry :=
  SlotTable.lookup child entries childShort

def enqueue (entries : List IndirectEntry) (childShort : UInt16) (data : List UInt8)
    (nowMs persistenceMs : UInt32) : Bool × List IndirectEntry :=
  if data.length > kMaxPayload then (false, entries)
  else
    match SlotTable.slotFor child oldest entries childShort with
    | none => (false, entries)
    | some i =>
      (true, entries.modify i fun e =>
        { used := true
          childShort := childShort
          expiryMs := nowMs + persistenceMs
          length := data.length.toUInt8
          payload := copy e.payload data })

/-- `dequeue` of an entry, by its index; there is none beyond the table. -/
def dequeueEntry (entries : List IndirectEntry) (i : Nat) : List IndirectEntry :=
  entries.set i (empty uninit)

def dequeue (entries : List IndirectEntry) (childShort : UInt16) : Bool × List IndirectEntry :=
  match SlotTable.find child entries childShort with
  | none => (false, entries)
  | some i => (true, dequeueEntry uninit entries i)

/-- How many entries were dropped, and the table without them. -/
def expire (entries : List IndirectEntry) (nowMs : UInt32) : Nat × List IndirectEntry :=
  (entries.countP fun e => e.used && e.due nowMs,
    entries.map fun e => if e.used && e.due nowMs then empty uninit else e)

/-- A call, with its true time where the code reads the clock. -/
inductive Call where
  | enqueue (childShort : UInt16) (data : List UInt8) (now : Nat) (persistenceMs : UInt32)
  | dequeue (childShort : UInt16)
  | dequeueEntry (i : Nat)
  | expire (now : Nat)

def step (entries : List IndirectEntry) : Call → List IndirectEntry
  | .enqueue childShort data now persistenceMs =>
    (enqueue entries childShort data (Clock.reading now) persistenceMs).2
  | .dequeue childShort => (dequeue uninit entries childShort).2
  | .dequeueEntry i => dequeueEntry uninit entries i
  | .expire now => (expire uninit entries (Clock.reading now)).2

/-- The table after a run of calls. -/
def after (capacity : UInt8) (calls : List Call) : List IndirectEntry :=
  calls.foldl (step uninit) (begin uninit capacity)

/-- The table with the true expiry time of each slot. -/
def expiries : Table (List IndirectEntry) IndirectEntry UInt16 Call where
  slots := id
  key := child
  stamp := (·.expiryMs)
  next := step uninit
  stamps entries call :=
    match call with
    | .enqueue childShort data now persistenceMs =>
      if data.length > kMaxPayload then none
      else (SlotTable.slotFor child oldest entries childShort).map fun i =>
        (i, now + persistenceMs.toNat)
    | _ => none
  recycled _ _ := none

/-- An enqueue for the child that succeeds after `past`, with length and bytes of its frame. -/
def EnqueuesAfter (capacity : UInt8) (c : UInt16) (past : List Call) (call : Call)
    (frame : Nat × List UInt8) : Prop :=
  ∃ data now persistenceMs, call = .enqueue c data now persistenceMs ∧
    (enqueue (after uninit capacity past) c data (Clock.reading now) persistenceMs).1 = true ∧
    frame = (data.length, data)

/-- A call that takes the entry of the child out after `past`: it is dequeued, expired or
evicted. -/
inductive TakesOutAfter (capacity : UInt8) (c : UInt16) (past : List Call) : Call → Prop where
  | dequeued : TakesOutAfter capacity c past (.dequeue c)
  | dequeuedEntry (i : Nat) (e : IndirectEntry) (he : (after uninit capacity past)[i]? = some e)
      (hchild : e.child = some c) : TakesOutAfter capacity c past (.dequeueEntry i)
  | expired (now : Nat) (e : IndirectEntry)
      (he : pending (after uninit capacity past) c = some e)
      (hdue : e.due (Clock.reading now) = true) : TakesOutAfter capacity c past (.expire now)
  | evicted (c' : UInt16) (data : List UInt8) (now : Nat) (persistenceMs : UInt32)
      (henqueue : (enqueue (after uninit capacity past) c' data (Clock.reading now)
        persistenceMs).1 = true)
      (hevicts : SlotTable.Evicts child oldest (after uninit capacity past) c' c) :
      TakesOutAfter capacity c past (.enqueue c' data now persistenceMs)

/-- The frame of the last successful enqueue for the child, if nothing took it out since. -/
def Queued (capacity : UInt8) (calls : List Call) (c : UInt16) (frame : Nat × List UInt8) : Prop :=
  Latest.LatestValue (EnqueuesAfter uninit capacity c) (TakesOutAfter uninit capacity c) calls frame

/-- The expiry times of any two entries in use are less than `gap` apart. -/
def LiveWithin (gap : Nat) (s : Timed (List IndirectEntry)) : Prop :=
  ∀ (i j : Nat) (a b : IndirectEntry) (t u : Nat), s.state[i]? = some a → s.state[j]? = some b →
    a.used = true → b.used = true → s.times[i]? = some t → s.times[j]? = some u → t < u + gap

/-- The entry of the child expires no later than any other. -/
def FirstToExpire (s : Timed (List IndirectEntry)) (c : UInt16) : Prop :=
  ∃ i e, s.state[i]? = some e ∧ e.child = some c ∧ Oldest s.times i

variable {uninit} {entries : List IndirectEntry} {c k : UInt16} {data : List UInt8}
  {nowMs persistenceMs : UInt32}

/-! ## One call -/

theorem enqueue_cases (entries : List IndirectEntry) (c : UInt16) (data : List UInt8)
    (nowMs persistenceMs : UInt32) :
    enqueue entries c data nowMs persistenceMs = (false, entries) ∧
        (data.length > kMaxPayload ∨ SlotTable.slotFor child oldest entries c = none) ∨
      ∃ (i : Nat) (e : IndirectEntry), data.length ≤ kMaxPayload ∧
        SlotTable.slotFor child oldest entries c = some i ∧ i < entries.length ∧
        e.child = some c ∧ e.expiryMs = nowMs + persistenceMs ∧ e.frame = (data.length, data) ∧
        enqueue entries c data nowMs persistenceMs = (true, entries.set i e) := by
  by_cases hlong : data.length > kMaxPayload
  · exact Or.inl ⟨if_pos hlong, Or.inl hlong⟩
  rw [enqueue, if_neg hlong]
  cases hslot : SlotTable.slotFor child oldest entries c with
  | none => exact Or.inl ⟨rfl, Or.inr rfl⟩
  | some i =>
    have hle : data.length ≤ 100 := Nat.not_lt.mp hlong
    have hi : i < entries.length := SlotTable.slotFor_least_lt hslot
    have hlength : data.length.toUInt8.toNat = data.length :=
      Nat.mod_eq_of_lt (Nat.lt_of_le_of_lt hle (by decide))
    refine Or.inr ⟨i, ⟨true, c, nowMs + persistenceMs, data.length.toUInt8,
      copy entries[i].payload data⟩, hle, rfl, hi, rfl, rfl, ?_, ?_⟩
    · simp only [frame, hlength, copy_take _ hle]
    · simp only [List.modify_eq_set_getElem?, List.getElem?_eq_getElem hi]
      rfl

theorem empty_child (payload : Vector UInt8 100) : (empty payload).child = none := rfl

theorem enqueue_self (h : (enqueue entries c data nowMs persistenceMs).1 = true) :
    (pending (enqueue entries c data nowMs persistenceMs).2 c).map frame =
      some (data.length, data) := by
  rcases enqueue_cases entries c data nowMs persistenceMs with ⟨hrefused, -⟩ |
    ⟨i, e, -, hslot, hi, hchild, -, hframe, henqueue⟩
  · rw [hrefused] at h
    cases h
  · rw [henqueue, pending, SlotTable.lookup_store_self hslot hi hchild, Option.map_some, hframe]

theorem enqueue_failed (h : (enqueue entries c data nowMs persistenceMs).1 = false) :
    (enqueue entries c data nowMs persistenceMs).2 = entries := by
  rcases enqueue_cases entries c data nowMs persistenceMs with ⟨hrefused, -⟩ |
    ⟨i, e, -, -, -, -, -, -, henqueue⟩
  · rw [hrefused]
  · rw [henqueue] at h
    cases h

theorem enqueue_evicted (hentries : SlotTable.Distinct child entries)
    (h : (enqueue entries c data nowMs persistenceMs).1 = true)
    (hevicts : SlotTable.Evicts child oldest entries c k) :
    pending (enqueue entries c data nowMs persistenceMs).2 k = none := by
  rcases enqueue_cases entries c data nowMs persistenceMs with ⟨hrefused, -⟩ |
    ⟨i, e, -, hslot, -, hchild, -, -, henqueue⟩
  · rw [hrefused] at h
    cases h
  · rw [henqueue]
    exact hentries.lookup_evicted hevicts hslot hchild hevicts.ne

theorem enqueue_other (hne : k ≠ c)
    (h : (enqueue entries c data nowMs persistenceMs).1 = true →
      ¬ SlotTable.Evicts child oldest entries c k) :
    pending (enqueue entries c data nowMs persistenceMs).2 k = pending entries k := by
  rcases enqueue_cases entries c data nowMs persistenceMs with ⟨hrefused, -⟩ |
    ⟨i, e, -, hslot, -, hchild, -, -, henqueue⟩
  · rw [hrefused]
  · rw [henqueue] at h ⊢
    exact SlotTable.lookup_not_evicted (h rfl) hslot hchild hne

theorem dequeue_self (h : SlotTable.Distinct child entries) :
    pending (dequeue uninit entries c).2 c = none := by
  rw [dequeue]
  cases hfind : SlotTable.find child entries c with
  | none => exact SlotTable.lookup_of_find_none hfind
  | some i => exact h.lookup_clear hfind rfl

theorem dequeue_other (hne : k ≠ c) :
    pending (dequeue uninit entries c).2 k = pending entries k := by
  rw [dequeue]
  cases hfind : SlotTable.find child entries c with
  | none => rfl
  | some i => exact SlotTable.lookup_clear_other hfind rfl hne

theorem dequeueEntry_self (h : SlotTable.Distinct child entries) {i : Nat} {e : IndirectEntry}
    (he : entries[i]? = some e) (hchild : e.child = some k) :
    pending (dequeueEntry uninit entries i) k = none :=
  h.lookup_overwrite he hchild (by simp [empty_child])

theorem dequeueEntry_other {i : Nat} (h : ∀ e, entries[i]? = some e → e.child ≠ some k) :
    pending (dequeueEntry uninit entries i) k = pending entries k :=
  SlotTable.lookup_set_other (fun hi => h _ (List.getElem?_eq_getElem hi)) (by simp [empty_child])

theorem pending_expire (h : SlotTable.Distinct child entries) :
    pending (expire uninit entries nowMs).2 k =
      (pending entries k).filter fun e => !(e.used && e.due nowMs) :=
  h.lookup_reclaim (empty_child uninit) k

theorem expire_due (h : SlotTable.Distinct child entries) {e : IndirectEntry}
    (he : pending entries k = some e) (hdue : e.due nowMs = true) :
    pending (expire uninit entries nowMs).2 k = none := by
  have hused := (child_eq_some.mp (SlotTable.lookup_key he)).1
  rw [pending_expire h, he, Option.filter_some, hused, hdue]
  rfl

theorem expire_kept (h : ∀ e, pending entries k = some e → e.due nowMs = false)
    (hentries : SlotTable.Distinct child entries) :
    pending (expire uninit entries nowMs).2 k = pending entries k := by
  rw [pending_expire hentries]
  cases hlookup : pending entries k with
  | none => rfl
  | some e =>
    rw [Option.filter_some, h e hlookup, Bool.and_false]
    rfl

/-! ## A run of calls -/

theorem step_distinct (h : SlotTable.Distinct child entries) (call : Call) :
    SlotTable.Distinct child (step uninit entries call) := by
  cases call with
  | enqueue c data now persistenceMs =>
    rw [step]
    rcases enqueue_cases entries c data (Clock.reading now) persistenceMs with ⟨hrefused, -⟩ |
      ⟨i, e, -, hslot, -, hchild, -, -, henqueue⟩
    · rwa [hrefused]
    · rw [henqueue]
      exact h.store hslot hchild
  | dequeue c =>
    rw [step, dequeue]
    cases SlotTable.find child entries c with
    | none => exact h
    | some i => exact h.clear rfl
  | dequeueEntry i => exact h.clear rfl
  | expire now =>
    refine h.map fun e => ?_
    split
    · exact Or.inl rfl
    · exact Or.inr rfl

theorem begin_unused (uninit : Vector UInt8 100) (capacity : UInt8) :
    ∀ e ∈ begin uninit capacity, e.child = none := by
  intro e he
  rw [List.eq_of_mem_replicate he]
  rfl

theorem after_distinct (uninit : Vector UInt8 100) (capacity : UInt8) (calls : List Call) :
    SlotTable.Distinct child (after uninit capacity calls) :=
  @Runs.invariant _ _ (step uninit) (SlotTable.Distinct child)
    (fun _ call h => step_distinct h call) _
    (SlotTable.distinct_of_unused (begin_unused uninit capacity)) calls

theorem after_concat (capacity : UInt8) (calls : List Call) (call : Call) :
    after uninit capacity (calls ++ [call]) = step uninit (after uninit capacity calls) call := by
  rw [after, List.foldl_concat]
  rfl

theorem pending_eq_some_iff (uninit : Vector UInt8 100) (capacity : UInt8) (calls : List Call)
    (c : UInt16) (frame : Nat × List UInt8) :
    (pending (after uninit capacity calls) c).map IndirectEntry.frame = some frame ↔
      Queued uninit capacity calls c frame := by
  refine @Latest.eq_some_iff _ _ (EnqueuesAfter uninit capacity c) (TakesOutAfter uninit capacity c)
    (fun calls => (pending (after uninit capacity calls) c).map IndirectEntry.frame) ?_ ?_ ?_ ?_
    calls frame
  · have hnone : pending (after uninit capacity []) c = none := by
      rw [pending, SlotTable.lookup_eq_none]
      intro e he
      rw [begin_unused uninit capacity e he]
      simp
    rw [hnone]
    rfl
  · rintro past _ frame ⟨data, now, persistenceMs, rfl, hok, rfl⟩
    rw [after_concat]
    exact enqueue_self hok
  · intro past call htaken
    rw [after_concat, Option.map_eq_none_iff]
    have hdistinct := after_distinct uninit capacity past
    cases htaken with
    | dequeued => exact dequeue_self hdistinct
    | dequeuedEntry i e he hchild => exact dequeueEntry_self hdistinct he hchild
    | expired now e he hdue => exact expire_due hdistinct he hdue
    | evicted c' data now persistenceMs hok hevicts => exact enqueue_evicted hdistinct hok hevicts
  · rintro past call ⟨hkept, hidle⟩
    rw [after_concat]
    congr 1
    cases call with
    | enqueue c' data now persistenceMs =>
      cases hok : (enqueue (after uninit capacity past) c' data (Clock.reading now)
          persistenceMs).1 with
      | false => rw [step, enqueue_failed hok]
      | true =>
        by_cases hc : c = c'
        · subst hc
          exact absurd ⟨data, now, persistenceMs, rfl, hok, rfl⟩ (hidle (data.length, data))
        · exact enqueue_other hc fun _ hevicts =>
            hkept (.evicted c' data now persistenceMs hok hevicts)
    | dequeue c' =>
      refine dequeue_other fun hc => hkept ?_
      subst hc
      exact .dequeued
    | dequeueEntry i =>
      exact dequeueEntry_other fun e he hchild => hkept (.dequeuedEntry i e he hchild)
    | expire now =>
      refine expire_kept (fun e he => eq_false_of_ne_true fun hdue => ?_)
        (after_distinct uninit capacity past)
      exact hkept (.expired now e he hdue)

/-! ## Eviction -/

theorem expiries_lawful (uninit : Vector UInt8 100) : (expiries uninit).Lawful where
  length entries call := by
    cases call with
    | enqueue c data now persistenceMs =>
      simp only [expiries, id, step]
      rcases enqueue_cases entries c data (Clock.reading now) persistenceMs with ⟨hrefused, -⟩ |
        ⟨i, e, -, -, -, -, -, -, henqueue⟩
      · rw [hrefused]
      · rw [henqueue]
        exact List.length_set
    | dequeue c =>
      simp only [expiries, id, step, dequeue]
      split
      · rfl
      · exact List.length_set
    | dequeueEntry i => exact List.length_set
    | expire now => exact List.length_map _
  stamped entries call i time e hstamps he := by
    cases call with
    | enqueue c data now persistenceMs =>
      obtain ⟨hlong, hstamps⟩ := Option.ite_none_left_eq_some.mp hstamps
      obtain ⟨j, hslot, hpair⟩ := Option.map_eq_some_iff.mp hstamps
      obtain ⟨rfl, rfl⟩ := Prod.mk.inj hpair
      simp only [expiries, id, step] at he
      rcases enqueue_cases entries c data (Clock.reading now) persistenceMs with
        ⟨-, hlong' | hnone⟩ | ⟨i, new, -, hslot', hi, -, hexpiry, -, henqueue⟩
      · exact absurd hlong' hlong
      · rw [hslot] at hnone
        cases hnone
      · obtain rfl := Option.some.inj (hslot.symm.trans hslot')
        rw [henqueue, List.getElem?_set_self hi] at he
        obtain rfl := Option.some.inj he
        simp only [expiries]
        rw [hexpiry, Clock.reading_add]
        congr 1
        exact (UInt32.ofNat_toNat).symm
    | _ => cases hstamps
  kept entries call j e hother he hkey := by
    cases call with
    | enqueue c data now persistenceMs =>
      simp only [expiries, id, step] at he
      rcases enqueue_cases entries c data (Clock.reading now) persistenceMs with ⟨hrefused, -⟩ |
        ⟨i, new, hle, hslot, -, -, -, -, henqueue⟩
      · rw [hrefused] at he
        exact kept_refl he hkey
      · have hij : i ≠ j := by
          rintro rfl
          refine hother (now + persistenceMs.toNat) ?_
          simp only [expiries, if_neg (Nat.not_lt.mpr hle), hslot, Option.map_some]
        rw [henqueue, List.getElem?_set_ne hij] at he
        exact kept_refl he hkey
    | dequeue c =>
      simp only [expiries, id, step, dequeue] at he
      split at he
      · exact kept_refl he hkey
      · exact kept_set he hkey fun _ => rfl
    | dequeueEntry i => exact kept_set he hkey fun _ => rfl
    | expire now =>
      refine kept_map he hkey fun e he => ?_
      split at he
      · exact absurd rfl he
      · next hkept => exact ⟨he, by rw [if_neg hkept]⟩
  recycled entries call j hrecycled := by cases hrecycled

/-- With all expiry times less than half a lap apart, the entry given up is the first to expire. -/
theorem evicts_first {s : Timed (List IndirectEntry)} (hs : (expiries uninit).Dated s)
    (hevicts : SlotTable.Evicts child oldest s.state c k) (hlive : LiveWithin (2 ^ 31) s) :
    FirstToExpire s k := by
  obtain ⟨j, old, hleast, hj, hchild⟩ := hevicts.held
  have hfull := SlotTable.used_of_full hevicts.1
  have htime : ∀ (i : Nat) (e : IndirectEntry), s.state[i]? = some e →
      e.used = true ∧ ∃ t : Nat, s.times[i]? = some t ∧ e.expiryMs = Clock.reading t := by
    intro i e he
    have hused := hfull e (List.mem_of_getElem? he)
    exact ⟨eq_true_of_ne_false fun h => hused (child_eq_none.mpr h), hs.stamp i e he hused⟩
  have hgap : ∀ (i i' : Nat) (a b : IndirectEntry) (t u : Nat), s.state[i]? = some a →
      s.state[i']? = some b → s.times[i]? = some t → s.times[i']? = some u → t < u + 0x80000000 :=
    fun i i' a b t u ha hb => hlive i i' a b t u ha hb (htime i a ha).1 (htime i' b hb).1
  obtain ⟨-, told, htold, hold⟩ := htime j old hj
  -- the distance to the entry given up, shifted by half a lap, orders the entries
  let f (e : IndirectEntry) : Nat := (e.expiryMs - old.expiryMs + 0x80000000).toNat
  have hf : ∀ (i : Nat) (e : IndirectEntry) (t : Nat), s.state[i]? = some e →
      s.times[i]? = some t → e.expiryMs = Clock.reading t → f e = t + 0x80000000 - told := by
    intro i e t he ht hread
    simp only [f, hread, hold]
    exact Clock.toNat_sub_add_half (hgap i j e old t told he hj ht htold)
      (hgap j i old e told t hj he htold ht)
  obtain ⟨e, he, -, hle⟩ := @SlotTable.least_le_of_used _ _ _ child sooner f s.state (by
    intro a ha b hb _ _
    obtain ⟨i, hi⟩ := List.mem_iff_getElem?.mp ha
    obtain ⟨i', hi'⟩ := List.mem_iff_getElem?.mp hb
    obtain ⟨-, t, ht, hread⟩ := htime i a hi
    obtain ⟨-, u, hu, hread'⟩ := htime i' b hi'
    have hfar := hgap j i old a told t hj hi htold ht
    have hfar' := hgap j i' old b told u hj hi' htold hu
    rw [hf i a t hi ht hread, hf i' b u hi' hu hread', sooner, decide_eq_true_eq, hread, hread',
      Clock.sub_neg_iff (hgap i i' a b t u hi hi' ht hu) (hgap i' i b a u t hi' hi hu ht)]
    omega) j hleast
  refine ⟨j, old, hj, hchild, ?_⟩
  intro t ht u hu
  obtain rfl := Option.some.inj (htold.symm.trans ht)
  obtain ⟨i, hi⟩ := List.mem_iff_getElem?.mp hu
  have hlt : i < s.state.length := by
    have hlength : s.times.length = s.state.length := hs.length
    rw [← hlength]
    exact (List.getElem?_eq_some_iff.mp hi).1
  have hget := List.getElem?_eq_getElem hlt
  obtain ⟨-, u', hu', hread⟩ := htime i _ hget
  obtain rfl := Option.some.inj (hi.symm.trans hu')
  obtain rfl := Option.some.inj (hj.symm.trans he)
  have hmin := hle _ (List.getElem_mem hlt) (hfull _ (List.getElem_mem hlt))
  rw [hf i _ u hget hi hread, hf j old told hj htold hold] at hmin
  have hfar := hgap j i old _ told u hj hget htold hi
  omega

/-- Less than half a lap away from its expiry time, an entry is due from that time on. -/
theorem due_iff {s : Timed (List IndirectEntry)} (hs : (expiries uninit).Dated s) {i t now : Nat}
    {e : IndirectEntry} (he : s.state[i]? = some e) (hused : e.used = true)
    (ht : s.times[i]? = some t) (h : now < t + 2 ^ 31) (h' : t < now + 2 ^ 31) :
    e.due (Clock.reading now) = true ↔ t ≤ now := by
  have hkey : e.child ≠ none := by
    rw [Ne, child_eq_none, hused]
    simp
  obtain ⟨t', ht', hread⟩ := hs.stamp i e he hkey
  obtain rfl := Option.some.inj (ht.symm.trans ht')
  have hexpiry : e.expiryMs = Clock.reading t := hread
  rw [due, decide_eq_true_eq, hexpiry, ← Int32.not_lt, Clock.sub_neg_iff h h', Nat.not_lt]

/-- After any run of calls there is one entry a child at most, and what is pending for a child is
the frame queued for it. An entry is due from its expiry time on. An eviction is for a new child in
a full table; while the expiry times are less than half a lap apart, it is of the entry that would
expire first. -/
theorem indirect_queue_law (uninit : Vector UInt8 100) (capacity : UInt8) (calls : List Call) :
    (SlotTable.keys child (after uninit capacity calls)).Nodup ∧
      (∀ c frame, (pending (after uninit capacity calls) c).map IndirectEntry.frame = some frame ↔
        Queued uninit capacity calls c frame) ∧
      (∀ (i t now : Nat) (e : IndirectEntry), (after uninit capacity calls)[i]? = some e →
        e.used = true →
        ((expiries uninit).run (begin uninit capacity) calls).times[i]? = some t →
        now < t + 2 ^ 31 → t < now + 2 ^ 31 → (e.due (Clock.reading now) = true ↔ t ≤ now)) ∧
      ∀ c c', SlotTable.Evicts child oldest (after uninit capacity calls) c c' →
        (∀ e ∈ after uninit capacity calls, e.used = true) ∧
          pending (after uninit capacity calls) c = none ∧
          (LiveWithin (2 ^ 31) ((expiries uninit).run (begin uninit capacity) calls) →
            FirstToExpire ((expiries uninit).run (begin uninit capacity) calls) c') := by
  have hdated := (expiries_lawful uninit).run_dated (begin_unused uninit capacity) calls
  have hstate : ((expiries uninit).run (begin uninit capacity) calls).state =
      after uninit capacity calls := Table.run_state ..
  refine ⟨(after_distinct uninit capacity calls).keys_nodup,
    pending_eq_some_iff uninit capacity calls, fun i t now e he hused ht h h' => ?_,
    fun c c' hevicts => ⟨fun e he => ?_, hevicts.new, fun hlive => ?_⟩⟩
  · rw [← hstate] at he
    exact due_iff hdated he hused ht h h'
  · have hused := SlotTable.used_of_full hevicts.1 e he
    exact eq_true_of_ne_false fun h => hused (child_eq_none.mpr h)
  · rw [← hstate] at hevicts
    exact evicts_first hdated hevicts hlive

theorem liveWithin_of_times {gap : Nat} {s : Timed (List IndirectEntry)}
    (h : ∀ t ∈ s.times, ∀ u ∈ s.times, t < u + gap) : LiveWithin gap s :=
  fun _ _ _ _ t u _ _ _ _ ht hu => h t (List.mem_of_getElem? ht) u (List.mem_of_getElem? hu)

/-- The clock wraps between the two expiry times; the one before the wrap is the first. -/
theorem indirect_queue_law_wrap :
    let calls : List Call :=
      [.enqueue 1 [0xAA] 0xFFFFFF9C 7680, .enqueue 2 [0xBB] 0xFFFFDCD8 7680]
    FirstToExpire ((expiries (Vector.replicate 100 0)).run (begin (Vector.replicate 100 0) 2) calls)
      2 := by
  intro calls
  exact ((indirect_queue_law (Vector.replicate 100 0) 2 calls).2.2.2 3 2 (by decide)).2.2
    (liveWithin_of_times (by decide))

/-- Two children whose frames expire half a lap apart. -/
def halfLapCalls : List Call := [.enqueue 1 [0xAA] 0 0, .enqueue 2 [0xBB] 0 0x80000000]

theorem halfLapCalls_within (n : Nat) : LiveWithin (2 ^ 31 + 1)
    ((expiries (Vector.replicate 100 0)).run (begin (Vector.replicate 100 0) 2)
      (halfLapCalls.take n)) := by
  apply liveWithin_of_times
  rcases n with _ | _ | n
  · decide
  · decide
  · rw [List.take_of_length_le (by rw [halfLapCalls]; exact Nat.le_add_left 2 n)]
    decide

/-- Exactly half a lap apart, the frame that expires later can be the one given up. -/
theorem half_lap_evicts_later : ¬ ∀ (uninit : Vector UInt8 100) (capacity : UInt8)
    (calls : List Call),
    (∀ n, LiveWithin (2 ^ 31 + 1)
      ((expiries uninit).run (begin uninit capacity) (calls.take n))) →
    ∀ c c', SlotTable.Evicts child oldest (after uninit capacity calls) c c' →
      FirstToExpire ((expiries uninit).run (begin uninit capacity) calls) c' := by
  intro h
  obtain ⟨i, e, he, hchild, holdest⟩ := h _ 2 halfLapCalls halfLapCalls_within 3 2 (by decide)
  have htimes : ((expiries (Vector.replicate 100 0)).run (begin (Vector.replicate 100 0) 2)
      halfLapCalls).times = [0, 2 ^ 31] := by decide
  rw [htimes] at holdest
  rcases i with _ | _ | i
  · obtain rfl := Option.some.inj he
    exact absurd hchild (by decide)
  · exact absurd (holdest (2 ^ 31) rfl 0 List.mem_cons_self) (by decide)
  · cases he

end ZigbeeIndirectQueue

end NiusZigbee
