import NiusZigbee.Aps.Retransmit
import NiusZigbee.Library.Clock
import NiusZigbee.Library.Runs

/-!
# The account of every queued APDU

A sender registers APDUs, takes in acknowledgements and polls for what is due, at true times that
the clock shows modulo its range. What was given to `add` and what became of it rides along with the
slot the APDU went to.
-/

namespace NiusZigbee.ZigbeeApsRetransmit

open ByteCodec

/-- An APDU given to `add`, and what became of it. -/
structure Tracked where
  slot : Nat
  dstShort : UInt16
  apsCounter : UInt8
  srcEndpoint : UInt8
  apdu : List UInt8
  maxRetries : UInt8
  intervalMs : UInt16
  /-- When it was queued or last marked as attempted. -/
  lastMs : Nat
  /-- What `due` handed out for it, latest first. -/
  resent : List (List UInt8) := []
  /-- The acknowledgements with its counter and endpoint since `lastMs`: when they came, and the
  slot they confirmed. -/
  acks : List (Nat × Option Nat) := []
deriving DecidableEq, Repr

/-- The table, the APDUs in its slots, and those confirmed or given up, these with the time. -/
structure Sender where
  retx : ZigbeeApsRetransmit
  nowMs : Nat := 0
  held : Nat → Option Tracked := fun _ => none
  delivered : List Tracked := []
  dropped : List (Nat × Tracked) := []

inductive Call where
  | add (dstShort : UInt16) (apsCounter srcEndpoint : UInt8) (apdu : List UInt8)
    (maxRetries : UInt8) (intervalMs : UInt16)
  | onAck (apsCounter ackDstEndpoint : UInt8)
  /-- What is handed out is marked `laterMs` later, before any other call. -/
  | due (laterMs : Nat)

namespace Sender

def start (capacity : UInt8) : Sender where
  retx := begin capacity

variable (s : Sender)

def add (t : Nat) (dstShort : UInt16) (apsCounter srcEndpoint : UInt8) (apdu : List UInt8)
    (maxRetries : UInt8) (intervalMs : UInt16) : Sender :=
  let r := s.retx.add dstShort apsCounter srcEndpoint apdu maxRetries intervalMs (Clock.reading t)
  { s with
    retx := r.1
    nowMs := t
    held := fun i =>
      if r.2 = some i then
        some
          { slot := i, dstShort := dstShort, apsCounter := apsCounter, srcEndpoint := srcEndpoint
            apdu := apdu, maxRetries := maxRetries, intervalMs := intervalMs, lastMs := t }
      else s.held i }

/-- An acknowledgement with this counter and endpoint came at `t` and confirmed `slot`. -/
def noteAck (t : Nat) (slot : Option Nat) (apsCounter ackDstEndpoint : UInt8) (a : Tracked) :
    Tracked :=
  if a.apsCounter = apsCounter ∧ a.srcEndpoint = ackDstEndpoint then
    { a with acks := (t, slot) :: a.acks }
  else a

def onAck (t : Nat) (apsCounter ackDstEndpoint : UInt8) : Sender :=
  let r := s.retx.onAck apsCounter ackDstEndpoint
  { s with
    retx := r.1
    nowMs := t
    held := fun i =>
      if r.2 = some i then none
      else (s.held i).map (noteAck t r.2 apsCounter ackDstEndpoint)
    delivered := (r.2.bind s.held).toList ++ s.delivered }

/-- A slot taken out of use. -/
def cleared (before after : List ApsPending) (i : Nat) : Bool :=
  before[i]?.any (·.used) && !after[i]?.any (·.used)

/-- The table after `due`, with the APDUs it gave up. -/
def giveUp (t : Nat) : Sender :=
  let after := (s.retx.due (Clock.reading t)).1
  let gone := cleared s.retx.entries after.entries
  { s with
    retx := after
    nowMs := t
    held := fun i => if gone i then none else s.held i
    dropped :=
      ((List.range s.retx.entries.length).filter gone).filterMap
        (fun i => (s.held i).map (t, ·)) ++ s.dropped }

/-- What slot `i` holds is sent again and marked. -/
def resend (t i : Nat) : Sender :=
  let frame := (s.retx.entries[i]?.map (·.frame)).getD []
  { s with
    retx := s.retx.markAttempted i (Clock.reading t)
    nowMs := t
    held := fun j =>
      if j = i then
        (s.held j).map fun a => { a with resent := frame :: a.resent, lastMs := t, acks := [] }
      else s.held j }

def due (t laterMs : Nat) : Sender :=
  match (s.retx.due (Clock.reading t)).2 with
  | none => s.giveUp t
  | some i => (s.giveUp t).resend (t + laterMs) i

def step (call : Nat × Call) : Sender :=
  match call.2 with
  | .add dstShort apsCounter srcEndpoint apdu maxRetries intervalMs =>
    s.add call.1 dstShort apsCounter srcEndpoint apdu maxRetries intervalMs
  | .onAck apsCounter ackDstEndpoint => s.onAck call.1 apsCounter ackDstEndpoint
  | .due laterMs => s.due call.1 laterMs

/-- Time does not go back. -/
def Timely (call : Nat × Call) : Prop := s.nowMs ≤ call.1

instance (call : Nat × Call) : Decidable (s.Timely call) := inferInstanceAs (Decidable (_ ≤ _))

/-- Every APDU that was ever queued. -/
def Queued (a : Tracked) : Prop :=
  (∃ i, s.held i = some a) ∨ a ∈ s.delivered ∨ ∃ t, (t, a) ∈ s.dropped

end Sender

/-! ## What holds of an APDU -/

/-- The APDU is within its retries, and was sent again as it was given. -/
def Tracked.Within (a : Tracked) : Prop :=
  a.resent.length ≤ a.maxRetries.toNat ∧ ∀ frame ∈ a.resent, frame = a.apdu

/-- At `t` the retries are used up and an interval has gone by, in which every acknowledgement with
its counter and endpoint confirmed a lower slot. -/
def Tracked.Spent (a : Tracked) (t : Nat) : Prop :=
  a.resent.length = a.maxRetries.toNat ∧ a.lastMs + a.intervalMs.toNat ≤ t ∧
    ∀ ack ∈ a.acks, ∃ j < a.slot, ack.2 = some j

/-- A slot in use as its APDU has it. -/
structure Tracks (a : Tracked) (e : ApsPending) (nowMs : Nat) : Prop where
  identity : identity e = (a.dstShort, a.apsCounter, a.srcEndpoint, a.apdu)
  intervalMs : e.intervalMs = a.intervalMs
  nextAttemptMs : e.nextAttemptMs = Clock.reading (a.lastMs + a.intervalMs.toNat)
  lastMs : a.lastMs ≤ nowMs
  triesLeft : e.triesLeft.toNat + a.resent.length = a.maxRetries.toNat
  resent : ∀ frame ∈ a.resent, frame = a.apdu
  acks : ∀ ack ∈ a.acks, ∃ j < a.slot, ack.2 = some j

/-- The slots in use are those of the APDUs held, and nothing is lost or sent too often. -/
structure Accounted (s : Sender) : Prop where
  used : ∀ i e, s.retx.entries[i]? = some e → e.used →
    ∃ a, s.held i = some a ∧ a.slot = i ∧ Tracks a e s.nowMs
  held : ∀ i a, s.held i = some a → ∃ e, s.retx.entries[i]? = some e ∧ e.used
  stats : s.retx.stats.queued =
    s.retx.stats.delivered + s.retx.stats.dropped + UInt32.ofNat s.retx.pending
  delivered : ∀ a ∈ s.delivered, a.Within
  dropped : ∀ t a, (t, a) ∈ s.dropped → a.Within ∧ a.Spent t

/-! ## Each call keeps the account -/

section Steps

variable {s : Sender} {t : Nat}

theorem Tracks.later {a : Tracked} {e : ApsPending} {nowMs : Nat} (h : Tracks a e nowMs)
    (ht : nowMs ≤ t) : Tracks a e t :=
  { h with lastMs := Nat.le_trans h.lastMs ht }

theorem Tracks.within {a : Tracked} {e : ApsPending} {nowMs : Nat} (h : Tracks a e nowMs) :
    a.Within := by
  have htries := h.triesLeft
  exact ⟨by omega, h.resent⟩

theorem Accounted.later (h : Accounted s) (ht : s.nowMs ≤ t) : Accounted { s with nowMs := t } :=
  { h with
    used := fun i e he hused => by
      obtain ⟨a, ha, hslot, htracks⟩ := h.used i e he hused
      exact ⟨a, ha, hslot, htracks.later ht⟩ }

theorem reading_interval (t : Nat) (intervalMs : UInt16) :
    Clock.reading t + intervalMs.toUInt32 = Clock.reading (t + intervalMs.toNat) := by
  have hlap : intervalMs.toNat < Clock.lap := Nat.lt_trans intervalMs.toNat_lt (by decide)
  rw [Clock.reading_add]
  congr 1
  apply UInt32.toNat_inj.mp
  rw [Clock.toNat_reading, Nat.mod_eq_of_lt hlap, UInt16.toNat_toUInt32]

theorem countP_fill {entries : List ApsPending} {i : Nat} {old new : ApsPending}
    (hold : entries[i]? = some old) (hunused : old.used = false) (hnew : new.used = true) :
    (entries.set i new).countP (·.used) = entries.countP (·.used) + 1 := by
  obtain ⟨hi, rfl⟩ := List.getElem?_eq_some_iff.mp hold
  rw [List.countP_set hi, hunused, hnew]
  rfl

theorem countP_clear {entries : List ApsPending} {i : Nat} {old : ApsPending}
    (hold : entries[i]? = some old) (hused : old.used = true) :
    entries.countP (·.used) = (entries.set i {}).countP (·.used) + 1 := by
  obtain ⟨hi, rfl⟩ := List.getElem?_eq_some_iff.mp hold
  have hpos : 0 < entries.countP (·.used) :=
    List.countP_pos_iff.mpr ⟨_, List.getElem_mem hi, hused⟩
  rw [List.countP_set hi, hused]
  simp only [if_true, Bool.false_eq_true, if_false]
  omega

theorem Accounted.add (h : Accounted s) (ht : s.nowMs ≤ t) (dstShort : UInt16)
    (apsCounter srcEndpoint : UInt8) (apdu : List UInt8) (maxRetries : UInt8)
    (intervalMs : UInt16) :
    Accounted (s.add t dstShort apsCounter srcEndpoint apdu maxRetries intervalMs) := by
  rcases add_cases s.retx dstShort apsCounter srcEndpoint apdu maxRetries intervalMs
      (Clock.reading t) with
    hnone | ⟨i, old, new, hold, hunused, hnew, hid, htries, hint, hnext, hadd⟩
  · have hstep : s.add t dstShort apsCounter srcEndpoint apdu maxRetries intervalMs =
        { s with nowMs := t } := by
      simp only [Sender.add, hnone, reduceCtorEq, if_false]
    rw [hstep]
    exact h.later ht
  have hi := (List.getElem?_eq_some_iff.mp hold).1
  simp only [Sender.add, hadd, Option.some.injEq]
  constructor
  · intro j e he hused
    by_cases hij : i = j
    · subst hij
      rw [List.getElem?_set_self hi, Option.some.injEq] at he
      subst he
      refine ⟨_, if_pos rfl, rfl, ⟨hid, hint, ?_, Nat.le_refl t, ?_, by simp, by simp⟩⟩
      · rw [hnext, reading_interval]
      · rw [htries]
        rfl
    · rw [List.getElem?_set_ne hij] at he
      obtain ⟨a, ha, hslot, htracks⟩ := h.used j e he hused
      exact ⟨a, (if_neg hij).trans ha, hslot, htracks.later ht⟩
  · intro j a ha
    by_cases hij : i = j
    · subst hij
      exact ⟨new, List.getElem?_set_self hi, hnew⟩
    · rw [List.getElem?_set_ne hij]
      exact h.held j a ((if_neg hij).symm.trans ha)
  · have hone : UInt32.ofNat (s.retx.pending + 1) = UInt32.ofNat s.retx.pending + 1 :=
      UInt32.ofNat_add _ _
    simp only [pending, countP_fill hold hunused hnew] at hone ⊢
    rw [hone, ← UInt32.add_assoc, h.stats]
    rfl
  · exact h.delivered
  · exact h.dropped

/-- An acknowledgement with another counter or endpoint, or one that confirms a lower slot, leaves
the rest as tracked. -/
theorem Tracks.noteAck {a : Tracked} {e : ApsPending} {nowMs : Nat} {slot : Option Nat}
    (h : Tracks a e nowMs) (ht : nowMs ≤ t) {apsCounter ackDstEndpoint : UInt8}
    (hlower : a.apsCounter = apsCounter → a.srcEndpoint = ackDstEndpoint →
      ∃ j < a.slot, slot = some j) :
    (Sender.noteAck t slot apsCounter ackDstEndpoint a).slot = a.slot ∧
      Tracks (Sender.noteAck t slot apsCounter ackDstEndpoint a) e t := by
  unfold Sender.noteAck
  split
  · next hmatch =>
    refine ⟨rfl, { h.later ht with acks := fun ack hack => ?_ }⟩
    rcases List.mem_cons.mp hack with rfl | hold
    · exact hlower hmatch.1 hmatch.2
    · exact h.acks ack hold
  · exact ⟨rfl, h.later ht⟩

theorem Accounted.onAck (h : Accounted s) (ht : s.nowMs ≤ t) (apsCounter ackDstEndpoint : UInt8) :
    Accounted (s.onAck t apsCounter ackDstEndpoint) := by
  -- The APDU in a slot that stays in use has another key or a slot behind the one confirmed.
  have hothers : ∀ j e, s.retx.entries[j]? = some e → e.used →
      (s.retx.onAck apsCounter ackDstEndpoint).2 ≠ some j →
      ∃ a, (s.held j).map (Sender.noteAck t (s.retx.onAck apsCounter ackDstEndpoint).2 apsCounter
        ackDstEndpoint) = some a ∧ a.slot = j ∧ Tracks a e t := by
    intro j e he hused hne
    obtain ⟨a, ha, hslot, htracks⟩ := h.used j e he hused
    have hkey := htracks.identity
    simp only [identity, Prod.mk.injEq] at hkey
    have hlower : a.apsCounter = apsCounter → a.srcEndpoint = ackDstEndpoint →
        ∃ i < a.slot, (s.retx.onAck apsCounter ackDstEndpoint).2 = some i := by
      intro hcounter hendpoint
      obtain ⟨i, hi, hle⟩ := onAck_first he hused (hkey.2.1.trans hcounter)
        (hkey.2.2.1.trans hendpoint)
      have hij : i ≠ j := fun hij => hne (hij ▸ hi)
      exact ⟨i, by omega, hi⟩
    obtain ⟨hnoted, hntracks⟩ := htracks.noteAck ht hlower
    exact ⟨_, by rw [ha, Option.map_some], hnoted.trans hslot, hntracks⟩
  rcases onAck_cases s.retx apsCounter ackDstEndpoint with
    hnone | ⟨i, e, he, hused, -, -, hack⟩
  · simp only [Sender.onAck, hnone] at hothers ⊢
    constructor
    · intro j e he hused
      exact hothers j e he hused (by simp)
    · intro j b hb
      obtain ⟨b', hb', -⟩ := Option.map_eq_some_iff.mp hb
      exact h.held j b' hb'
    · exact h.stats
    · exact h.delivered
    · exact h.dropped
  obtain ⟨a, ha, -, htracks⟩ := h.used i e he hused
  simp only [Sender.onAck, hack, Option.some.injEq, Option.bind_some, ha, Option.toList_some,
    List.singleton_append] at hothers ⊢
  constructor
  · intro j e' he' hused'
    obtain ⟨hij, hold⟩ := clear_used he' hused'
    obtain ⟨b, hb, hbslot, hbtracks⟩ := hothers j e' hold hused' fun hsame =>
      hij (Option.some.inj hsame).symm
    exact ⟨b, (if_neg (Ne.symm hij)).trans hb, hbslot, hbtracks⟩
  · intro j b hb
    by_cases hij : i = j
    · cases (if_pos hij).symm.trans hb
    · obtain ⟨b', hb', -⟩ := Option.map_eq_some_iff.mp ((if_neg hij).symm.trans hb)
      rw [List.getElem?_set_ne hij]
      exact h.held j b' hb'
  · have hone : UInt32.ofNat (((s.retx.entries.set i {}).countP (·.used)) + 1) = _ :=
      UInt32.ofNat_add _ _
    have hstats := h.stats
    simp only [pending, countP_clear he hused, hone] at hstats ⊢
    rw [hstats]
    grind
  · intro b hb
    rcases List.mem_cons.mp hb with rfl | hb
    · exact htracks.within
    · exact h.delivered b hb
  · exact h.dropped

theorem cleared_due (r : ZigbeeApsRetransmit) (nowMs : UInt32) (i : Nat) :
    (Sender.cleared r.entries (r.due nowMs).1.entries i = false ∧
      (r.due nowMs).1.entries[i]? = r.entries[i]?) ∨
    (Sender.cleared r.entries (r.due nowMs).1.entries i = true ∧
      (r.due nowMs).1.entries[i]? = some {} ∧ ∃ e, r.entries[i]? = some e ∧ e.used ∧
      ¬ (nowMs - e.nextAttemptMs).toInt32 < 0 ∧ e.triesLeft = 0) := by
  rcases dueScan_slot nowMs r.entries i with hkept | ⟨e, he, hused, htime, htries, hempty⟩
  · refine .inl ⟨?_, hkept⟩
    rw [Sender.cleared, show (r.due nowMs).1.entries[i]? = _ from hkept, Bool.and_not_self]
  · refine .inr ⟨?_, hempty, e, he, hused, htime, htries⟩
    rw [Sender.cleared, he, show (r.due nowMs).1.entries[i]? = _ from hempty, Option.any_some,
      hused]
    rfl

/-- An APDU given up has used its retries, and its interval has gone by. -/
theorem Tracks.spent {a : Tracked} {e : ApsPending} {nowMs : Nat} (h : Tracks a e nowMs)
    (ht : nowMs ≤ t) (htime : ¬ (Clock.reading t - e.nextAttemptMs).toInt32 < 0)
    (htries : e.triesLeft = 0) : a.Spent t := by
  have hcount := h.triesLeft
  rw [htries, UInt8.toNat_zero, Nat.zero_add] at hcount
  refine ⟨hcount, ?_, h.acks⟩
  by_contra hearly
  have hlast := h.lastMs
  have hinterval := a.intervalMs.toNat_lt
  apply htime
  rw [h.nextAttemptMs]
  exact Clock.early (Nat.not_le.mp hearly) (by omega)

theorem Accounted.giveUp (h : Accounted s) (ht : s.nowMs ≤ t) : Accounted (s.giveUp t) := by
  constructor
  · intro i e he hused
    rcases cleared_due s.retx (Clock.reading t) i with ⟨hstays, hkept⟩ | ⟨-, hempty, -⟩
    · obtain ⟨a, ha, hslot, htracks⟩ := h.used i e (hkept ▸ he) hused
      refine ⟨a, (if_neg ?_).trans ha, hslot, htracks.later ht⟩
      rw [hstays]
      exact Bool.false_ne_true
    · cases Option.some.inj (hempty.symm.trans he)
      cases hused
  · intro i a ha
    rcases cleared_due s.retx (Clock.reading t) i with ⟨hstays, hkept⟩ | ⟨hgone, -⟩
    · have hheld : s.held i = some a := by
        refine (if_neg ?_).symm.trans ha
        rw [hstays]
        exact Bool.false_ne_true
      obtain ⟨e, he, hused⟩ := h.held i a hheld
      exact ⟨e, hkept.trans he, hused⟩
    · cases (if_pos hgone).symm.trans ha
  · have hcount := dueScan_count (Clock.reading t) s.retx.entries
    have hstats := h.stats
    simp only [pending, hcount] at hstats
    simp only [Sender.giveUp, ZigbeeApsRetransmit.due, pending, hstats]
    grind
  · exact h.delivered
  · intro t' a hmem
    rcases List.mem_append.mp hmem with hnew | hold
    · obtain ⟨i, hi, ha⟩ := List.mem_filterMap.mp hnew
      obtain ⟨a', ha', hpair⟩ := Option.map_eq_some_iff.mp ha
      cases hpair
      have hgone := (List.mem_filter.mp hi).2
      rcases cleared_due s.retx (Clock.reading t) i with
        ⟨hstays, -⟩ | ⟨-, -, e, he, hused, htime, htries⟩
      · cases hstays.symm.trans hgone
      · obtain ⟨b, hb, -, htracks⟩ := h.used i e he hused
        cases Option.some.inj (hb.symm.trans ha')
        exact ⟨htracks.within, htracks.spent ht htime htries⟩
    · exact h.dropped t' a hold

theorem toNat_pred {b : UInt8} (h : b ≠ 0) : (b - 1).toNat + 1 = b.toNat := by
  have hpos : b.toNat ≠ 0 := fun h0 => h (UInt8.toNat_inj.mp h0)
  have hle : (1 : UInt8) ≤ b := by
    rw [UInt8.le_iff_toNat_le, UInt8.toNat_one]
    omega
  rw [UInt8.toNat_sub_of_le _ _ hle, UInt8.toNat_one]
  omega

theorem Tracks.attempted {a : Tracked} {e : ApsPending} {nowMs : Nat} (h : Tracks a e nowMs)
    (htries : e.triesLeft ≠ 0) :
    Tracks { a with resent := e.frame :: a.resent, lastMs := t, acks := [] }
      (attempted (Clock.reading t) e) t := by
  have hpos : e.triesLeft > 0 := UInt8.pos_iff_ne_zero.mpr htries
  have hkey := h.identity
  simp only [ZigbeeApsRetransmit.identity, Prod.mk.injEq] at hkey
  constructor
  · exact h.identity
  · exact h.intervalMs
  · rw [← reading_interval, ← h.intervalMs]
    rfl
  · exact Nat.le_refl t
  · have hleft := toNat_pred htries
    have hcount := h.triesLeft
    simp only [ZigbeeApsRetransmit.attempted, if_pos hpos, List.length_cons]
    omega
  · intro frame hframe
    rcases List.mem_cons.mp hframe with rfl | hframe
    · exact hkey.2.2.2
    · exact h.resent frame hframe
  · intro ack hack
    cases hack

theorem Accounted.resend (h : Accounted s) (ht : s.nowMs ≤ t) {i : Nat} {e : ApsPending}
    (he : s.retx.entries[i]? = some e) (hused : e.used) (htries : e.triesLeft ≠ 0) :
    Accounted (s.resend t i) := by
  have hi := (List.getElem?_eq_some_iff.mp he).1
  obtain ⟨a, ha, hslot, htracks⟩ := h.used i e he hused
  simp only [Sender.resend, markAttempted, he, hused, if_true, Option.map_some, Option.getD_some]
  constructor
  · intro j e' he' hused'
    by_cases hij : j = i
    · subst hij
      rw [List.getElem?_set_self hi, Option.some.injEq] at he'
      subst he'
      refine ⟨{ a with resent := e.frame :: a.resent, lastMs := t, acks := [] },
        (if_pos rfl).trans ?_, hslot, htracks.attempted htries⟩
      rw [ha, Option.map_some]
    · rw [List.getElem?_set_ne (Ne.symm hij)] at he'
      obtain ⟨b, hb, hbslot, hbtracks⟩ := h.used j e' he' hused'
      exact ⟨b, (if_neg hij).trans hb, hbslot, hbtracks.later ht⟩
  · intro j b hb
    by_cases hij : j = i
    · subst hij
      exact ⟨attempted (Clock.reading t) e, List.getElem?_set_self hi, hused⟩
    · rw [List.getElem?_set_ne (Ne.symm hij)]
      exact h.held j b ((if_neg hij).symm.trans hb)
  · have hsame : (s.retx.entries.set i (attempted (Clock.reading t) e)).countP (·.used) =
        s.retx.entries.countP (·.used) := by
      have hkept : (attempted (Clock.reading t) e).used = true := hused
      have hpos : 0 < s.retx.entries.countP (·.used) :=
        List.countP_pos_iff.mpr ⟨e, List.mem_of_getElem? he, hused⟩
      have hold : s.retx.entries[i] = e := (List.getElem?_eq_some_iff.mp he).2
      rw [List.countP_set hi, hold, hused, hkept, if_pos rfl]
      omega
    have hstats := h.stats
    simp only [pending, hsame] at hstats ⊢
    exact hstats
  · exact h.delivered
  · exact h.dropped

theorem Accounted.due (h : Accounted s) (ht : s.nowMs ≤ t) (laterMs : Nat) :
    Accounted (s.due t laterMs) := by
  simp only [Sender.due]
  cases hdue : (s.retx.due (Clock.reading t)).2 with
  | none => exact h.giveUp ht
  | some i =>
    obtain ⟨e, he, hused, htries⟩ := dueScan_due hdue
    exact (h.giveUp ht).resend (Nat.le_add_right t laterMs) he hused htries

theorem Accounted.step (h : Accounted s) (call : Nat × Call) (ht : s.Timely call) :
    Accounted (s.step call) := by
  cases hcall : call.2 with
  | add dstShort apsCounter srcEndpoint apdu maxRetries intervalMs =>
    simp only [Sender.step, hcall]
    exact h.add ht dstShort apsCounter srcEndpoint apdu maxRetries intervalMs
  | onAck apsCounter ackDstEndpoint =>
    simp only [Sender.step, hcall]
    exact h.onAck ht apsCounter ackDstEndpoint
  | due laterMs =>
    simp only [Sender.step, hcall]
    exact h.due ht laterMs

end Steps

theorem accounted_start (capacity : UInt8) : Accounted (Sender.start capacity) := by
  have hunused : ∀ e ∈ (begin capacity).entries, e.used = false := by
    intro e he
    rw [List.eq_of_mem_replicate he]
  constructor
  · intro i e he hused
    rw [hunused e (List.mem_of_getElem? he)] at hused
    cases hused
  · intro i a ha
    cases ha
  · have hnone : (begin capacity).pending = 0 :=
      List.countP_eq_zero.mpr fun e he => by simp [hunused e he]
    simp only [Sender.start, hnone]
    rfl
  · intro a ha
    cases ha
  · intro t a ha
    cases ha

/-- Whatever is called, in time: the counters balance with what is pending, every APDU is sent
again unchanged and within its retries, and one given up had used them and waited for an interval,
in which acknowledgements with its counter and endpoint confirmed lower slots only. -/
theorem retransmit_accounting (capacity : UInt8) (calls : List (Nat × Call))
    (h : Runs.Along Sender.step Sender.Timely (Sender.start capacity) calls) :
    let s := calls.foldl Sender.step (Sender.start capacity)
    s.retx.stats.queued =
      s.retx.stats.delivered + s.retx.stats.dropped + UInt32.ofNat s.retx.pending ∧
    (∀ a, s.Queued a → a.Within) ∧ ∀ t a, (t, a) ∈ s.dropped → a.Spent t := by
  intro s
  have hs : Accounted s :=
    h.invariant (fun _ call hs ht => hs.step call ht) (accounted_start capacity)
  refine ⟨hs.stats, ?_, fun t a ha => (hs.dropped t a ha).2⟩
  rintro a (⟨i, ha⟩ | ha | ⟨t, ha⟩)
  · obtain ⟨e, he, hused⟩ := hs.held i a ha
    obtain ⟨b, hb, -, htracks⟩ := hs.used i e he hused
    cases Option.some.inj (hb.symm.trans ha)
    exact htracks.within
  · exact hs.delivered a ha
  · exact (hs.dropped t a ha).1

theorem retransmit_accounting_retried :
    let calls := [(0, Call.add 0x0001 5 1 [0x40, 2] 1 1000), (1000, Call.due 5), (2005, Call.due 0)]
    let s := calls.foldl Sender.step (Sender.start 4)
    s.retx.stats.queued =
      s.retx.stats.delivered + s.retx.stats.dropped + UInt32.ofNat s.retx.pending ∧
    (∀ a, s.Queued a → a.Within) ∧ ∀ t a, (t, a) ∈ s.dropped → a.Spent t :=
  retransmit_accounting 4 _ ⟨by decide, by decide, by decide, trivial⟩

private def twoDestinations : List (Nat × Call) :=
  [(0, .add 0x0001 5 1 [0x40, 2] 0 1000), (0, .add 0x0002 5 1 [0x40, 3] 0 1000),
    (500, .onAck 5 1), (1000, .due 0)]

/-- An APDU is given up although an acknowledgement with its counter and endpoint came within its
interval: it went to the other APDU that has them. -/
theorem dropped_despite_ack :
    let s := twoDestinations.foldl Sender.step (Sender.start 4)
    Runs.Along Sender.step Sender.Timely (Sender.start 4) twoDestinations ∧
      s.dropped = [(1000,
        { slot := 1, dstShort := 0x0002, apsCounter := 5, srcEndpoint := 1, apdu := [0x40, 3]
          maxRetries := 0, intervalMs := 1000, lastMs := 0, acks := [(500, some 0)] })] :=
  ⟨⟨by decide, by decide, by decide, by decide, trivial⟩, by decide⟩

end NiusZigbee.ZigbeeApsRetransmit
