import NiusZigbee.Aps.Frame

/-!
# Acknowledged APS delivery, sender side

`ZigbeeApsRetransmit` keeps a copy of every APDU until its acknowledgement comes or its tries run
out. `begin` hands it its slots; a slot is named by its index.
-/

namespace NiusZigbee

open ByteCodec

/-- `apdu` is the whole array; `apduLen` bytes of it count. -/
structure ApsPending where
  used : Bool := false
  dstShort : UInt16 := 0
  apsCounter : UInt8 := 0
  srcEndpoint : UInt8 := 0
  nextAttemptMs : UInt32 := 0
  intervalMs : UInt16 := 0
  triesLeft : UInt8 := 0
  apdu : List UInt8 := List.replicate ZigbeeAps.kMaxFrame 0
  apduLen : UInt8 := 0
deriving DecidableEq, Repr

/-- What the caller re-sends. -/
def ApsPending.frame (e : ApsPending) : List UInt8 := e.apdu.take e.apduLen.toNat

structure ApsRetransmitStats where
  queued : UInt32 := 0
  delivered : UInt32 := 0
  retransmits : UInt32 := 0
  dropped : UInt32 := 0
deriving DecidableEq, Repr

structure ZigbeeApsRetransmit where
  entries : List ApsPending
  stats : ApsRetransmitStats := {}
deriving DecidableEq, Repr

namespace ZigbeeApsRetransmit

def begin (capacity : UInt8) : ZigbeeApsRetransmit :=
  { entries := List.replicate capacity.toNat {} }

variable (t : ZigbeeApsRetransmit)

/-- The slot taken, `none` for `nullptr`. -/
def add (dstShort : UInt16) (apsCounter srcEndpoint : UInt8) (apdu : List UInt8)
    (maxRetries : UInt8) (intervalMs : UInt16) (nowMs : UInt32) :
    ZigbeeApsRetransmit × Option Nat :=
  if apdu.length > ZigbeeAps.kMaxFrame then (t, none)
  else
    match t.entries.findIdx? fun e => !e.used with
    | none => (t, none)
    | some i =>
      ({ entries := t.entries.modify i fun e =>
          { used := true, dstShort := dstShort, apsCounter := apsCounter
            srcEndpoint := srcEndpoint, nextAttemptMs := nowMs + intervalMs.toUInt32
            intervalMs := intervalMs, triesLeft := maxRetries
            apdu := apdu ++ e.apdu.drop apdu.length, apduLen := apdu.length.toUInt8 }
         stats := { t.stats with queued := t.stats.queued + 1 } }, some i)

/-- The slot confirmed; `none` for `return false`. -/
def onAck (apsCounter ackDstEndpoint : UInt8) : ZigbeeApsRetransmit × Option Nat :=
  match t.entries.findIdx? fun e =>
    e.used && e.apsCounter = apsCounter && e.srcEndpoint = ackDstEndpoint with
  | none => (t, none)
  | some i =>
    ({ entries := t.entries.set i {}
       stats := { t.stats with delivered := t.stats.delivered + 1 } }, some i)

/-- The scan of `due`: slots out of tries are cleared and counted up to the first one that may be
re-sent. -/
def dueScan (nowMs : UInt32) : List ApsPending → List ApsPending × UInt32 × Option Nat
  | [] => ([], 0, none)
  | e :: es =>
    if !e.used || (nowMs - e.nextAttemptMs).toInt32 < 0 then
      let (es, dropped, i) := dueScan nowMs es
      (e :: es, dropped, i.map (· + 1))
    else if e.triesLeft = 0 then
      let (es, dropped, i) := dueScan nowMs es
      ({} :: es, dropped + 1, i.map (· + 1))
    else (e :: es, 0, some 0)

def due (nowMs : UInt32) : ZigbeeApsRetransmit × Option Nat :=
  let (entries, dropped, i) := dueScan nowMs t.entries
  ({ entries := entries
     stats := { t.stats with dropped := t.stats.dropped + dropped } }, i)

def attempted (nowMs : UInt32) (e : ApsPending) : ApsPending :=
  { e with
    triesLeft := if e.triesLeft > 0 then e.triesLeft - 1 else e.triesLeft
    nextAttemptMs := nowMs + e.intervalMs.toUInt32 }

def markAttempted (i : Nat) (nowMs : UInt32) : ZigbeeApsRetransmit :=
  match t.entries[i]? with
  | none => t
  | some e =>
    if e.used then
      { entries := t.entries.set i (attempted nowMs e)
        stats := { t.stats with retransmits := t.stats.retransmits + 1 } }
    else t

def pending : Nat := t.entries.countP (·.used)

def hasPendingFor (dstShort : UInt16) (srcEndpoint : UInt8) : Bool :=
  t.entries.any fun e => e.used && e.dstShort = dstShort && e.srcEndpoint = srcEndpoint

/-! ## What the operations do to the slots in use -/

/-- What a slot is about, as long as it is in use. -/
def identity (e : ApsPending) : UInt16 × UInt8 × UInt8 × List UInt8 :=
  (e.dstShort, e.apsCounter, e.srcEndpoint, e.frame)

/-- Slots in use afterwards were in use before, about the same APDU. -/
def Keeps (t t' : ZigbeeApsRetransmit) : Prop :=
  ∀ (i : Nat) (e' : ApsPending), t'.entries[i]? = some e' → e'.used →
    ∃ e, t.entries[i]? = some e ∧ e.used ∧ identity e' = identity e

variable {t}

theorem Keeps.refl : Keeps t t := fun _ e he hused => ⟨e, he, hused, rfl⟩

theorem Keeps.trans {t' t'' : ZigbeeApsRetransmit} (h : Keeps t t') (h' : Keeps t' t'') :
    Keeps t t'' := by
  intro i e'' he'' hused
  obtain ⟨e', he', hused', hsame'⟩ := h' i e'' he'' hused
  obtain ⟨e, he, hused, hsame⟩ := h i e' he' hused'
  exact ⟨e, he, hused, hsame'.trans hsame⟩

section Add

variable {dstShort : UInt16} {apsCounter srcEndpoint : UInt8} {apdu : List UInt8}
  {maxRetries : UInt8} {intervalMs : UInt16} {nowMs : UInt32} {i : Nat} {e : ApsPending}

theorem add_cases (t : ZigbeeApsRetransmit) (dstShort : UInt16) (apsCounter srcEndpoint : UInt8)
    (apdu : List UInt8) (maxRetries : UInt8) (intervalMs : UInt16) (nowMs : UInt32) :
    t.add dstShort apsCounter srcEndpoint apdu maxRetries intervalMs nowMs = (t, none) ∨
    ∃ i old new, t.entries[i]? = some old ∧ old.used = false ∧ new.used = true ∧
      identity new = (dstShort, apsCounter, srcEndpoint, apdu) ∧ new.triesLeft = maxRetries ∧
      new.intervalMs = intervalMs ∧ new.nextAttemptMs = nowMs + intervalMs.toUInt32 ∧
      t.add dstShort apsCounter srcEndpoint apdu maxRetries intervalMs nowMs =
        ({ entries := t.entries.set i new
           stats := { t.stats with queued := t.stats.queued + 1 } }, some i) := by
  simp only [add]
  split
  · exact .inl rfl
  next hlen =>
  split
  · exact .inl rfl
  next i hfree =>
  have hmax : apdu.length < 256 := Nat.lt_of_le_of_lt (Nat.not_lt.mp hlen) (by decide)
  obtain ⟨hi, hunused, -⟩ := List.findIdx?_eq_some_iff_getElem.mp hfree
  rw [List.modify_eq_set_getElem?, List.getElem?_eq_getElem hi]
  refine .inr ⟨i, t.entries[i], _, List.getElem?_eq_getElem hi, by simpa using hunused, rfl, ?_,
    rfl, rfl, rfl, rfl⟩
  simp [identity, ApsPending.frame, toNat_toUInt8 hmax]

theorem add_used (he : (t.add dstShort apsCounter srcEndpoint apdu maxRetries intervalMs
      nowMs).1.entries[i]? = some e) :
    ((t.add dstShort apsCounter srcEndpoint apdu maxRetries intervalMs nowMs).2 = some i ∧
      identity e = (dstShort, apsCounter, srcEndpoint, apdu)) ∨ t.entries[i]? = some e := by
  rcases add_cases t dstShort apsCounter srcEndpoint apdu maxRetries intervalMs nowMs with
    hnone | ⟨j, old, new, hold, -, -, hsame, -, -, -, hadd⟩
  · rw [hnone] at he
    exact .inr he
  · rw [hadd] at he ⊢
    by_cases hij : j = i
    · subst hij
      rw [List.getElem?_set_self (List.getElem?_eq_some_iff.mp hold).1, Option.some.injEq] at he
      exact .inl ⟨rfl, he ▸ hsame⟩
    · rw [List.getElem?_set_ne hij] at he
      exact .inr he

theorem add_stats_delivered : (t.add dstShort apsCounter srcEndpoint apdu maxRetries intervalMs
    nowMs).1.stats.delivered = t.stats.delivered := by
  rcases add_cases t dstShort apsCounter srcEndpoint apdu maxRetries intervalMs nowMs with
    hnone | ⟨i, old, new, -, -, -, -, -, -, -, hadd⟩
  · rw [hnone]
  · rw [hadd]

end Add

/-- `onAck` clears one slot in use that has this counter and endpoint, or does nothing. -/
theorem onAck_cases (t : ZigbeeApsRetransmit) (apsCounter ackDstEndpoint : UInt8) :
    t.onAck apsCounter ackDstEndpoint = (t, none) ∨
    ∃ i e, t.entries[i]? = some e ∧ e.used ∧ e.apsCounter = apsCounter ∧
      e.srcEndpoint = ackDstEndpoint ∧
      t.onAck apsCounter ackDstEndpoint =
        ({ entries := t.entries.set i {}
           stats := { t.stats with delivered := t.stats.delivered + 1 } }, some i) := by
  simp only [onAck]
  split
  · exact .inl rfl
  · next i hfind =>
    right
    obtain ⟨hi, hmatch, -⟩ := List.findIdx?_eq_some_iff_getElem.mp hfind
    simp only [Bool.and_eq_true, decide_eq_true_eq] at hmatch
    exact ⟨i, _, List.getElem?_eq_getElem hi, hmatch.1.1, hmatch.1.2, hmatch.2, rfl⟩

/-- With a slot in use that has this counter and endpoint, one up to it is confirmed. -/
theorem onAck_first {apsCounter ackDstEndpoint : UInt8} {j : Nat} {e : ApsPending}
    (he : t.entries[j]? = some e) (hused : e.used) (hcounter : e.apsCounter = apsCounter)
    (hendpoint : e.srcEndpoint = ackDstEndpoint) :
    ∃ i, (t.onAck apsCounter ackDstEndpoint).2 = some i ∧ i ≤ j := by
  obtain ⟨hj, rfl⟩ := List.getElem?_eq_some_iff.mp he
  simp only [onAck]
  split
  · next hnone =>
    have hall := List.findIdx?_eq_none_iff.mp hnone _ (List.getElem_mem hj)
    simp [hused, hcounter, hendpoint] at hall
  · next i hfind =>
    obtain ⟨_, _, hbefore⟩ := List.findIdx?_eq_some_iff_getElem.mp hfind
    refine ⟨i, rfl, ?_⟩
    by_contra hlt
    exact hbefore j (Nat.not_le.mp hlt) (by simp [hused, hcounter, hendpoint])

theorem clear_used {i j : Nat} {e : ApsPending} (he : (t.entries.set i {})[j]? = some e)
    (hused : e.used) : j ≠ i ∧ t.entries[j]? = some e := by
  by_cases hij : i = j
  · subst hij
    rw [List.getElem?_set_self'] at he
    cases hold : t.entries[i]? with
    | none => simp [hold] at he
    | some old =>
      simp only [hold, Option.map_eq_map, Option.map_some, Function.const_apply,
        Option.some.injEq] at he
      subst he
      cases hused
  · exact ⟨Ne.symm hij, by rwa [List.getElem?_set_ne hij] at he⟩

/-- The scan leaves a slot alone, or clears it when its time has come and no tries are left. -/
theorem dueScan_slot (nowMs : UInt32) (es : List ApsPending) (i : Nat) :
    (dueScan nowMs es).1[i]? = es[i]? ∨
    ∃ e, es[i]? = some e ∧ e.used ∧ ¬ (nowMs - e.nextAttemptMs).toInt32 < 0 ∧ e.triesLeft = 0 ∧
      (dueScan nowMs es).1[i]? = some {} := by
  induction es generalizing i with
  | nil => exact .inl rfl
  | cons x es ih =>
    simp only [dueScan]
    split
    · cases i with
      | zero => exact .inl rfl
      | succ i => exact ih i
    · next hwait =>
      simp only [Bool.or_eq_true, Bool.not_eq_true', not_or, Bool.not_eq_false,
        decide_eq_true_eq] at hwait
      split
      · next htries =>
        cases i with
        | zero => exact .inr ⟨x, rfl, hwait.1, hwait.2, htries, rfl⟩
        | succ i => exact ih i
      · exact .inl rfl

theorem dueScan_due {nowMs : UInt32} {es : List ApsPending} {i : Nat}
    (h : (dueScan nowMs es).2.2 = some i) :
    ∃ e, (dueScan nowMs es).1[i]? = some e ∧ e.used ∧ e.triesLeft ≠ 0 := by
  induction es generalizing i with
  | nil => simp [dueScan] at h
  | cons x es ih =>
    simp only [dueScan] at h ⊢
    split at h
    · next hwait =>
      rw [if_pos hwait]
      obtain ⟨j, hj, rfl⟩ := Option.map_eq_some_iff.mp h
      exact ih hj
    · next hwait =>
      rw [if_neg hwait]
      split at h
      · next htries =>
        rw [if_pos htries]
        obtain ⟨j, hj, rfl⟩ := Option.map_eq_some_iff.mp h
        exact ih hj
      · next htries =>
        rw [if_neg htries]
        cases h
        simp only [Bool.or_eq_true, Bool.not_eq_true', not_or, Bool.not_eq_false] at hwait
        exact ⟨x, rfl, hwait.1, htries⟩

/-- What the scan counts as dropped is what it takes out of use. -/
theorem dueScan_count (nowMs : UInt32) (es : List ApsPending) :
    UInt32.ofNat (es.countP (·.used)) =
      (dueScan nowMs es).2.1 + UInt32.ofNat ((dueScan nowMs es).1.countP (·.used)) := by
  induction es with
  | nil => rfl
  | cons x es ih =>
    simp only [dueScan]
    split
    · simp only [List.countP_cons, UInt32.ofNat_add, ih, UInt32.add_assoc]
    · next hwait =>
      simp only [Bool.or_eq_true, Bool.not_eq_true', not_or, Bool.not_eq_false] at hwait
      split
      · have hcleared : ¬ ({} : ApsPending).used = true := by decide
        rw [List.countP_cons_of_pos hwait.1, List.countP_cons_of_neg hcleared, UInt32.ofNat_add, ih,
          UInt32.add_assoc, UInt32.add_comm (UInt32.ofNat _), ← UInt32.add_assoc]
        rfl
      · rw [UInt32.zero_add]

theorem due_keeps (nowMs : UInt32) : Keeps t (t.due nowMs).1 := by
  intro i e he hused
  rcases dueScan_slot nowMs t.entries i with hkept | ⟨_, _, _, _, _, hcleared⟩
  · exact ⟨e, hkept ▸ he, hused, rfl⟩
  · rw [show (t.due nowMs).1.entries[i]? = some {} from hcleared, Option.some.injEq] at he
    rw [← he] at hused
    cases hused

theorem due_some {nowMs : UInt32} {i : Nat} (h : (t.due nowMs).2 = some i) :
    ∃ e, (t.due nowMs).1.entries[i]? = some e ∧ e.used := by
  obtain ⟨e, he, hused, _⟩ := dueScan_due h
  exact ⟨e, he, hused⟩

theorem markAttempted_keeps (i : Nat) (nowMs : UInt32) : Keeps t (t.markAttempted i nowMs) := by
  simp only [markAttempted]
  split
  · exact Keeps.refl
  next old hold =>
  split
  · next hused =>
    intro j e' he' hused'
    by_cases hij : i = j
    · subst hij
      simp only [List.getElem?_set_self', hold, Option.map_eq_map, Option.map_some,
        Function.const_apply, Option.some.injEq] at he'
      exact ⟨old, hold, hused, by rw [← he']; rfl⟩
    · rw [List.getElem?_set_ne hij] at he'
      exact ⟨e', he', hused', rfl⟩
  · exact Keeps.refl

theorem markAttempted_delivered (i : Nat) (nowMs : UInt32) :
    (t.markAttempted i nowMs).stats.delivered = t.stats.delivered := by
  simp only [markAttempted]
  split
  · rfl
  split <;> rfl

theorem hasPendingFor_eq_false {dstShort : UInt16} {srcEndpoint : UInt8}
    (h : t.hasPendingFor dstShort srcEndpoint = false) {i : Nat} {e : ApsPending}
    (he : t.entries[i]? = some e) (hused : e.used) :
    ¬ (e.dstShort = dstShort ∧ e.srcEndpoint = srcEndpoint) := by
  rintro ⟨hdst, hsrc⟩
  have hany := List.any_eq_false.mp h e (List.mem_of_getElem? he)
  simp [hused, hdst, hsrc] at hany

end ZigbeeApsRetransmit

end NiusZigbee
