import NiusZigbee.Library.Clock
import NiusZigbee.Library.Runs
import NiusZigbee.Library.SlotTable

/-!
# Tables that recycle their oldest slot

The slots of a table carry readings of a clock that wraps; the true times of the readings are kept
beside the table as history. A full table gives up the slot with the least reading, which is the
oldest one just while no wrap of the clock lies between two of its times.
-/

namespace Recency

/-- A state with a table of stamped slots. A call stamps at most one slot, with a reading of some
true time; `recycled` is the slot in use that it takes for a key the full table does not hold. -/
structure Table (σ α κ ω : Type) where
  slots : σ → List α
  key : α → Option κ
  stamp : α → UInt32
  next : σ → ω → σ
  stamps : σ → ω → Option (Nat × Nat)
  recycled : σ → ω → Option Nat

/-- A state with the true time of each slot's stamp. -/
structure Timed (σ : Type) where
  state : σ
  times : List Nat

/-- All of the times lie within half a lap of one another. -/
def Close (times : List Nat) : Prop := ∀ s ∈ times, ∀ t ∈ times, s ≤ t + Clock.lap / 2

def OneLap (times : List Nat) : Prop := ∀ s ∈ times, ∀ t ∈ times, Clock.SameLap s t

/-- No time is before that of slot `j`. -/
def Oldest (times : List Nat) (j : Nat) : Prop := ∀ s ∈ times[j]?, ∀ t ∈ times, s ≤ t

instance (times : List Nat) : Decidable (Close times) := inferInstanceAs (Decidable (∀ _ ∈ _, _))
instance (times : List Nat) : Decidable (OneLap times) := inferInstanceAs (Decidable (∀ _ ∈ _, _))
instance (times : List Nat) (j : Nat) : Decidable (Oldest times j) :=
  inferInstanceAs (Decidable (∀ _ ∈ _, _))

section Kept

variable {α κ : Type}

/-- Slot `j` of the table was in use, under the stamp it has in `e`. -/
def Kept (key : α → Option κ) (stamp : α → UInt32) (t : List α) (j : Nat) (e : α) : Prop :=
  ∃ old, t[j]? = some old ∧ key old ≠ none ∧ stamp e = stamp old

variable {key : α → Option κ} {stamp : α → UInt32} {t : List α} {i j : Nat} {e new : α}

theorem kept_refl (he : t[j]? = some e) (hkey : key e ≠ none) : Kept key stamp t j e :=
  ⟨e, he, hkey, rfl⟩

theorem kept_set (he : (t.set i new)[j]? = some e) (hkey : key e ≠ none)
    (hnew : i = j → key new = none) : Kept key stamp t j e := by
  by_cases hij : i = j
  · subst hij
    rw [List.getElem?_set_self'] at he
    obtain ⟨_, _, rfl⟩ := Option.map_eq_some_iff.mp he
    exact absurd (hnew rfl) hkey
  · rw [List.getElem?_set_ne hij] at he
    exact kept_refl he hkey

theorem kept_map {f : α → α} (he : (t.map f)[j]? = some e) (hkey : key e ≠ none)
    (hf : ∀ n, key (f n) ≠ none → key n ≠ none ∧ stamp (f n) = stamp n) :
    Kept key stamp t j e := by
  rw [List.getElem?_map] at he
  obtain ⟨old, hold, rfl⟩ := Option.map_eq_some_iff.mp he
  exact ⟨old, hold, hf old hkey⟩

end Kept

namespace Table

variable {σ α κ ω : Type} (T : Table σ α κ ω)

def track (s : Timed σ) (call : ω) : Timed σ where
  state := T.next s.state call
  times :=
    match T.stamps s.state call with
    | none => s.times
    | some (i, time) => s.times.set i time

/-- Slots that no time has been noted for yet. -/
def start (s : σ) : Timed σ := ⟨s, List.replicate (T.slots s).length 0⟩

def run (s : σ) (calls : List ω) : Timed σ := calls.foldl T.track (T.start s)

theorem run_state (s : σ) (calls : List ω) : (T.run s calls).state = calls.foldl T.next s := by
  induction calls using List.reverseRecOn with
  | nil => rfl
  | append_singleton calls call ih =>
    rw [run, List.foldl_concat, List.foldl_concat, ← ih]
    rfl

/-- What `stamps` and `recycled` say of the calls is so. -/
structure Lawful : Prop where
  length : ∀ s call, (T.slots (T.next s call)).length = (T.slots s).length
  stamped : ∀ s call i time e, T.stamps s call = some (i, time) →
    (T.slots (T.next s call))[i]? = some e → T.stamp e = Clock.reading time
  kept : ∀ s call j e, (∀ time, T.stamps s call ≠ some (j, time)) →
    (T.slots (T.next s call))[j]? = some e → T.key e ≠ none → Kept T.key T.stamp (T.slots s) j e
  recycled : ∀ s call j, T.recycled s call = some j →
    (∀ e ∈ T.slots s, T.key e ≠ none) ∧
      SlotTable.least T.key (fun e best => T.stamp e < T.stamp best) (T.slots s) = some j

/-- The stamp of every slot in use is the reading of its time. -/
structure Dated (s : Timed σ) : Prop where
  length : s.times.length = (T.slots s.state).length
  stamp : ∀ (i : Nat) (e : α), (T.slots s.state)[i]? = some e → T.key e ≠ none →
    ∃ time : Nat, s.times[i]? = some time ∧ T.stamp e = Clock.reading time

variable {T}

theorem start_dated {s : σ} (h : ∀ e ∈ T.slots s, T.key e = none) : T.Dated (T.start s) where
  length := List.length_replicate
  stamp _ e he hkey := absurd (h e (List.mem_of_getElem? he)) hkey

theorem Lawful.dated (h : T.Lawful) (s : Timed σ) (call : ω) (hs : T.Dated s) :
    T.Dated (T.track s call) := by
  have hlength : (T.track s call).times.length = s.times.length := by
    unfold track
    cases T.stamps s.state call with
    | none => rfl
    | some p => exact List.length_set
  refine ⟨by rw [hlength, hs.length, track, h.length], fun i e he hkey => ?_⟩
  by_cases hstamped : ∃ time, T.stamps s.state call = some (i, time)
  · obtain ⟨time, hstamps⟩ := hstamped
    have hi : i < s.times.length := by
      rw [hs.length, ← h.length s.state call]
      exact (List.getElem?_eq_some_iff.mp he).1
    refine ⟨time, ?_, h.stamped s.state call i time e hstamps he⟩
    simp only [track, hstamps, List.getElem?_set_self hi]
  · have hother : ∀ time, T.stamps s.state call ≠ some (i, time) :=
      fun time hstamps => hstamped ⟨time, hstamps⟩
    obtain ⟨old, hold, hused, hsame⟩ := h.kept s.state call i e hother he hkey
    obtain ⟨time, htime, hread⟩ := hs.stamp i old hold hused
    refine ⟨time, ?_, hsame.trans hread⟩
    unfold track
    cases hstamps : T.stamps s.state call with
    | none => exact htime
    | some p =>
      have hne : p.1 ≠ i := by
        rintro rfl
        exact hother p.2 hstamps
      simpa only [List.getElem?_set_ne hne] using htime

theorem Lawful.run_dated (h : T.Lawful) {s : σ} (hs : ∀ e ∈ T.slots s, T.key e = none)
    (calls : List ω) : T.Dated (T.run s calls) :=
  Runs.invariant h.dated (start_dated hs) calls

/-- The slot a full table gives up is its oldest just while its times share a lap of the clock. -/
theorem Lawful.oldest_iff [DecidableEq κ] (h : T.Lawful) {s : Timed σ} (hs : T.Dated s)
    {call : ω} {j : Nat} (hrecycled : T.recycled s.state call = some j) (hclose : Close s.times) :
    Oldest s.times j ↔ OneLap s.times := by
  obtain ⟨hfull, hleast⟩ := h.recycled s.state call j hrecycled
  obtain ⟨e, he, hkey, hle⟩ := SlotTable.least_le (f := fun e => (T.stamp e).toNat)
    (fun a b => by rw [decide_eq_true_eq, UInt32.lt_iff_toNat_lt]) hleast
  obtain ⟨time, htime, hread⟩ := hs.stamp j e he hkey
  -- no other slot shows less than the recycled one
  have hreading : ∀ t ∈ s.times, ¬ Clock.reading t < Clock.reading time := by
    intro t ht
    obtain ⟨i, hi⟩ := List.mem_iff_getElem?.mp ht
    have hlt : i < (T.slots s.state).length := by
      rw [← hs.length]
      exact (List.getElem?_eq_some_iff.mp hi).1
    have hmem := List.getElem_mem hlt
    obtain ⟨t', ht', hread'⟩ := hs.stamp i _ (List.getElem?_eq_getElem hlt) (hfull _ hmem)
    obtain rfl : t = t' := Option.some.inj (hi.symm.trans ht')
    rw [UInt32.not_lt, UInt32.le_iff_toNat_le, ← hread, ← hread']
    exact hle _ hmem (hfull _ hmem)
  have hmem : time ∈ s.times := List.mem_of_getElem? htime
  constructor
  · intro holdest
    have hlap : ∀ t ∈ s.times, Clock.SameLap time t := by
      intro t ht
      by_contra hwrap
      have hfar := hclose t ht time hmem
      have hlap : Clock.lap / 2 < Clock.lap := by decide
      exact hreading t ht
        (Clock.reading_lt_of_wrap (holdest time htime t ht) (by omega) hwrap)
    intro t ht u hu
    exact (hlap t ht).symm.trans (hlap u hu)
  · intro hlap time' htime' t ht
    obtain rfl : time = time' := Option.some.inj (htime.symm.trans htime')
    by_contra hless
    exact hreading t ht ((Clock.reading_lt_iff (hlap t ht time hmem)).mpr (Nat.not_le.mp hless))

theorem Lawful.run_oldest_iff [DecidableEq κ] (h : T.Lawful) {s : σ}
    (hs : ∀ e ∈ T.slots s, T.key e = none) {calls : List ω} {call : ω} {j : Nat}
    (hrecycled : T.recycled (T.run s calls).state call = some j)
    (hclose : Close (T.run s calls).times) :
    Oldest (T.run s calls).times j ↔ OneLap (T.run s calls).times :=
  h.oldest_iff (h.run_dated hs calls) hrecycled hclose

end Table

end Recency
