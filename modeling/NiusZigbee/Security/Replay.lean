import NiusZigbee.Library.HighWater
import NiusZigbee.Security.Aes128
import NiusZigbee.Security.NwkSecurity

/-!
# Replay protection over whole runs

The replay table is a store of high-water marks, as long as no more pairs authenticate than it has
slots. Only an authentic frame reaches it, so a rejected one leaves no trace but the statistics.
-/

namespace NiusZigbee

open ByteCodec

namespace ReplayTable

/-- The last counter of a pair, if it has an entry. -/
def mark (table : ReplayTable) (k : ReplayKey) : Option Nat :=
  (table.lookup k).map fun entry => entry.lastCounter.toNat

/-- Each pair has at most one entry, and all of them are in `S`. -/
structure Within (S : Finset ReplayKey) (table : ReplayTable) : Prop where
  nodup : (SlotTable.keys ReplayEntry.key table.entries).Nodup
  subset : ∀ k ∈ SlotTable.keys ReplayEntry.key table.entries, k ∈ S

variable {table : ReplayTable} {S : Finset ReplayKey} {k : ReplayKey} {counter : UInt32}

/-- A counter above the mark is stored; any other leaves the table alone. -/
theorem replayCheckAndUpdate_cases (table : ReplayTable) (ieee : UInt64) (keySeq : UInt8)
    (counter : UInt32) :
    (HighWater.Fresh table.mark (ieee, keySeq) counter.toNat ∧
      table.replayCheckAndUpdate ieee keySeq counter =
        (.fresh, table.store (ieee, keySeq) counter)) ∨
    (¬ HighWater.Fresh table.mark (ieee, keySeq) counter.toNat ∧
      (table.replayCheckAndUpdate ieee keySeq counter = (.duplicate, table) ∨
        table.replayCheckAndUpdate ieee keySeq counter = (.stale, table))) := by
  cases hlookup : table.lookup (ieee, keySeq) with
  | none =>
    left
    exact ⟨by simp [HighWater.Fresh, mark, hlookup], by simp [replayCheckAndUpdate, hlookup]⟩
  | some entry =>
    have hfresh : HighWater.Fresh table.mark (ieee, keySeq) counter.toNat ↔
        entry.lastCounter < counter := by
      simp [HighWater.Fresh, mark, hlookup, UInt32.lt_iff_toNat_lt]
    rw [hfresh]
    simp only [replayCheckAndUpdate, hlookup]
    by_cases hsame : counter = entry.lastCounter
    · right
      rw [if_pos hsame, hsame]
      exact ⟨UInt32.lt_irrefl _, Or.inl rfl⟩
    · by_cases hless : counter < entry.lastCounter
      · right
        rw [if_neg hsame, if_pos hless]
        exact ⟨UInt32.lt_asymm hless, Or.inr rfl⟩
      · left
        rw [if_neg hsame, if_neg hless]
        exact ⟨UInt32.lt_of_le_of_ne (UInt32.not_lt.mp hless) (Ne.symm hsame), rfl⟩

theorem reset_within (S : Finset ReplayKey) : reset.Within S := by
  have hkeys : SlotTable.keys ReplayEntry.key reset.entries = [] := rfl
  exact ⟨by rw [hkeys]; exact List.nodup_nil, by simp [hkeys]⟩

theorem Within.store (h : table.Within S) (hcard : S.card ≤ kMaxReplayPeers) (hk : k ∈ S)
    (counter : UInt32) :
    (table.store k counter).Within S ∧
      (table.store k counter).mark = HighWater.raise table.mark k counter.toNat := by
  have hroom : SlotTable.HasRoom ReplayEntry.key table.entries k :=
    SlotTable.hasRoom_of_card h.nodup h.subset (table.size ▸ hcard) hk
  obtain ⟨i, hi⟩ := SlotTable.slotFor_isSome
    (SlotTable.least ReplayEntry.key ReplayEntry.lower) hroom
  obtain ⟨e, he⟩ : ∃ e : ReplayEntry, e = ⟨true, k.1, k.2, counter⟩ := ⟨_, rfl⟩
  have hkey : e.key = some k := by rw [he]; rfl
  have hentries : (table.store k counter).entries = table.entries.set i e := by
    simp only [ReplayTable.store, hi, he]
  obtain ⟨hnodup, hsub⟩ := SlotTable.keys_store hroom hi hkey h.nodup
  refine ⟨⟨by rw [hentries]; exact hnodup, ?_⟩, ?_⟩
  · intro k' hk'
    rw [hentries] at hk'
    rcases hsub k' hk' with rfl | hold
    · exact hk
    · exact h.subset k' hold
  · funext k'
    by_cases hself : k' = k
    · subst hself
      have hstored := SlotTable.lookup_store_self hi (SlotTable.slotFor_least_lt hi) hkey
      have hcounter : e.lastCounter = counter := by rw [he]
      simp [mark, lookup, hentries, hstored, HighWater.raise, hcounter]
    · have hother := SlotTable.lookup_store_other hroom hi hkey hself
      simp [mark, lookup, hentries, hother, HighWater.raise, Function.update_of_ne hself]

end ReplayTable

namespace ZigbeeSecurity

variable (ecb : BlockCipher)

def Authentic.replayKey (frame : Authentic) : ReplayKey := (frame.srcIeee, frame.keySeq)

/-- What is done to the receiver in a run. -/
inductive Op where
  | setNetworkKey (key : Block) (keySequence : UInt8)
  | setAlternateKey (key : Block) (keySequence : UInt8)
  | switchKey (keySequence : UInt8)
  | openNpdu (npdu : List UInt8) (headerLen : Nat) (outMax : UInt8)

def apply (s : ZigbeeSecurity) : Op → ZigbeeSecurity
  | .setNetworkKey key keySequence => s.setNetworkKey key keySequence
  | .setAlternateKey key keySequence => s.setAlternateKey key keySequence
  | .switchKey keySequence => (s.switchKey keySequence).1
  | .openNpdu npdu headerLen outMax => (s.openNpdu ecb npdu headerLen outMax).1

/-- What `openNpdu` answers, for the steps that call it. -/
def verdict (s : ZigbeeSecurity) : Op → Option (Except OpenError Opened)
  | .openNpdu npdu headerLen outMax => some (s.openNpdu ecb npdu headerLen outMax).2
  | _ => none

def verdicts (s : ZigbeeSecurity) : List Op → List (Option (Except OpenError Opened))
  | [] => []
  | op :: ops => s.verdict ecb op :: verdicts (s.apply ecb op) ops

/-- A received frame that authenticated, with the bytes it came as. -/
structure Received where
  npdu : List UInt8
  headerLen : Nat
  frame : Authentic

def received (s : ZigbeeSecurity) : Op → Option Received
  | .openNpdu npdu headerLen outMax =>
    match s.authenticate ecb npdu headerLen outMax with
    | .ok frame => some ⟨npdu, headerLen, frame⟩
    | .error _ => none
  | _ => none

/-- The frames of a run that passed authentication, accepted or not. -/
def authenticated (s : ZigbeeSecurity) : List Op → List Received
  | [] => []
  | op :: ops => (s.received ecb op).toList ++ authenticated (s.apply ecb op) ops

def acceptedNow (s : ZigbeeSecurity) (op : Op) : Option Received :=
  match s.verdict ecb op with
  | some (.ok _) => s.received ecb op
  | _ => none

/-- The frames of a run that were accepted, in order. -/
def accepted (s : ZigbeeSecurity) : List Op → List Received
  | [] => []
  | op :: ops => (s.acceptedNow ecb op).toList ++ accepted (s.apply ecb op) ops

variable {ecb} {s s' : ZigbeeSecurity} {npdu : List UInt8} {headerLen : Nat} {outMax : UInt8}

/-! ## One call -/

/-- An authentic frame is accepted exactly when its counter is fresh, and only then is it stored. -/
theorem openNpdu_authentic {frame : Authentic}
    (h : s.authenticate ecb npdu headerLen outMax = .ok frame) :
    (HighWater.Fresh s.replay.mark frame.replayKey frame.frameCounter.toNat ∧
      (s.openNpdu ecb npdu headerLen outMax).2 = .ok ⟨frame.npdu, frame.srcIeee⟩ ∧
      (s.openNpdu ecb npdu headerLen outMax).1.replay =
        s.replay.store frame.replayKey frame.frameCounter) ∨
    (¬ HighWater.Fresh s.replay.mark frame.replayKey frame.frameCounter.toNat ∧
      ((s.openNpdu ecb npdu headerLen outMax).2 = .error .duplicate ∨
        (s.openNpdu ecb npdu headerLen outMax).2 = .error .stale) ∧
      (s.openNpdu ecb npdu headerLen outMax).1.replay = s.replay) := by
  simp only [openNpdu, h]
  rcases s.replay.replayCheckAndUpdate_cases frame.srcIeee frame.keySeq frame.frameCounter with
    ⟨hfresh, hcheck⟩ | ⟨hfresh, hcheck | hcheck⟩
  · exact Or.inl ⟨hfresh, by rw [hcheck], by rw [hcheck]; rfl⟩
  · exact Or.inr ⟨hfresh, Or.inl (by rw [hcheck]), by rw [hcheck]⟩
  · exact Or.inr ⟨hfresh, Or.inr (by rw [hcheck]), by rw [hcheck]⟩

theorem openNpdu_keeps (npdu : List UInt8) (headerLen : Nat) (outMax : UInt8) :
    ∃ replay stats, (s.openNpdu ecb npdu headerLen outMax).1 =
      { s with replay := replay, stats := stats } := by
  simp only [openNpdu]
  split
  · exact ⟨_, _, rfl⟩
  · split <;> exact ⟨_, _, rfl⟩

theorem openNpdu_unauthentic {e : OpenError}
    (h : s.authenticate ecb npdu headerLen outMax = .error e) :
    s.openNpdu ecb npdu headerLen outMax =
      ({ s with stats := countError s.stats e }, .error e) := by
  simp only [openNpdu, h]

/-- Pair and counter of an authentic frame are read off its auxiliary header. -/
theorem authenticate_aux {frame : Authentic}
    (h : s.authenticate ecb npdu headerLen outMax = .ok frame) :
    frame.srcIeee = join64 (slice (slice npdu headerLen kAuxLen) 5 8) ∧
      frame.keySeq = (slice npdu headerLen kAuxLen).getD 13 0 ∧
      frame.frameCounter = join32 (slice (slice npdu headerLen kAuxLen) 1 4) := by
  simp only [authenticate] at h
  split at h
  · cases h
  split at h
  · cases h
  split at h
  · cases h
  split at h
  · cases h
  split at h
  · cases h
  split at h
  · cases h
  cases h
  exact ⟨rfl, rfl, rfl⟩

/-! ## Runs of accepted frames -/

theorem apply_replay_key (op : Op) (h : s.received ecb op = none) :
    (s.apply ecb op).replay = s.replay := by
  cases op with
  | setNetworkKey key keySequence => rfl
  | setAlternateKey key keySequence => rfl
  | switchKey keySequence =>
    simp only [apply, switchKey]
    split
    · rfl
    split <;> rfl
  | openNpdu npdu headerLen outMax =>
    simp only [received] at h
    split at h
    · cases h
    next herr =>
    simp only [apply, openNpdu_unauthentic herr]

theorem acceptedNow_fresh {op : Op} {r : Received} (hrec : s.received ecb op = some r)
    (hfresh : HighWater.Fresh s.replay.mark r.frame.replayKey r.frame.frameCounter.toNat) :
    s.acceptedNow ecb op = some r := by
  have hkept := hrec
  cases op with
  | setNetworkKey key keySequence => cases hrec
  | setAlternateKey key keySequence => cases hrec
  | switchKey keySequence => cases hrec
  | openNpdu npdu headerLen outMax =>
    simp only [received] at hrec
    split at hrec
    · next frame hauth =>
      cases hrec
      rcases openNpdu_authentic hauth with ⟨-, hok, -⟩ | ⟨hstale, -⟩
      · simp only [acceptedNow, verdict, hok, hkept]
      · exact absurd hfresh hstale
    · cases hrec

theorem acceptedNow_received {op : Op} {r : Received} (h : s.acceptedNow ecb op = some r) :
    s.received ecb op = some r := by
  simp only [acceptedNow] at h
  split at h
  · exact h
  · cases h

theorem received_open (npdu : List UInt8) (headerLen : Nat) (outMax : UInt8) (op : Op) :
    (s.apply ecb (.openNpdu npdu headerLen outMax)).received ecb op = s.received ecb op := by
  obtain ⟨replay, stats, hopen⟩ : ∃ replay stats, s.apply ecb (.openNpdu npdu headerLen outMax) =
    { s with replay := replay, stats := stats } := openNpdu_keeps npdu headerLen outMax
  rw [hopen]
  cases op <;> rfl

/-- One step of the high-water discipline: either the frame is fresh, is accepted and raises its
mark, or nothing is accepted and no mark moves. -/
theorem step_marks {S : Finset ReplayKey} (hwithin : s.replay.Within S)
    (hcard : S.card ≤ kMaxReplayPeers) (op : Op)
    (hpairs : ∀ r ∈ s.received ecb op, r.frame.replayKey ∈ S) :
    (s.apply ecb op).replay.Within S ∧
    ((∃ r, s.acceptedNow ecb op = some r ∧
        HighWater.Fresh s.replay.mark r.frame.replayKey r.frame.frameCounter.toNat ∧
        (s.apply ecb op).replay.mark =
          HighWater.raise s.replay.mark r.frame.replayKey r.frame.frameCounter.toNat) ∨
      (s.acceptedNow ecb op = none ∧ (s.apply ecb op).replay.mark = s.replay.mark)) := by
  cases hrec : s.received ecb op with
  | none =>
    have hnone : s.acceptedNow ecb op = none := by
      simp only [acceptedNow, hrec]
      split <;> rfl
    rw [apply_replay_key op hrec]
    exact ⟨hwithin, Or.inr ⟨hnone, rfl⟩⟩
  | some r =>
    cases op with
    | setNetworkKey key keySequence => cases hrec
    | setAlternateKey key keySequence => cases hrec
    | switchKey keySequence => cases hrec
    | openNpdu npdu headerLen outMax =>
      have hmem := hpairs r hrec
      have hkept := hrec
      simp only [received] at hrec
      split at hrec
      · next frame hauth =>
        cases hrec
        rcases openNpdu_authentic hauth with ⟨hfresh, -, hstore⟩ | ⟨-, herr, hsame⟩
        · obtain ⟨hwithin', hmark⟩ := hwithin.store hcard hmem frame.frameCounter
          simp only [apply, hstore]
          exact ⟨hwithin', Or.inl ⟨_, acceptedNow_fresh hkept hfresh, hfresh, hmark⟩⟩
        · simp only [apply, hsame]
          refine ⟨hwithin, Or.inr ⟨?_, trivial⟩⟩
          rcases herr with herr | herr <;> simp only [acceptedNow, verdict, herr]
      · cases hrec

/-- The accepted counters of a run obey the marks it starts from. -/
theorem accepted_marks {S : Finset ReplayKey} (hwithin : s.replay.Within S)
    (hcard : S.card ≤ kMaxReplayPeers) (ops : List Op)
    (hpairs : ∀ r ∈ s.authenticated ecb ops, r.frame.replayKey ∈ S) :
    HighWater.Accepted s.replay.mark
      ((s.accepted ecb ops).map fun r => (r.frame.replayKey, r.frame.frameCounter.toNat)) := by
  induction ops generalizing s with
  | nil => trivial
  | cons op ops ih =>
    simp only [authenticated, List.mem_append, Option.mem_toList] at hpairs
    obtain ⟨hwithin', hstep⟩ := step_marks hwithin hcard op fun r hr => hpairs r (Or.inl hr)
    have hrest := ih hwithin' fun r hr => hpairs r (Or.inr hr)
    rcases hstep with ⟨r, hnow, hfresh, hmark⟩ | ⟨hnow, hmark⟩
    · rw [hmark] at hrest
      simp only [accepted, hnow, Option.toList_some, List.cons_append, List.nil_append,
        List.map_cons]
      exact ⟨hfresh, hrest⟩
    · rw [hmark] at hrest
      simpa only [accepted, hnow, Option.toList_none, List.nil_append] using hrest

theorem accepted_of_heard_twice (hempty : s.replay = .reset) {r : Received}
    (hr : s.received ecb (.openNpdu npdu headerLen outMax) = some r) :
    let twice : List Op := [.openNpdu npdu headerLen outMax, .openNpdu npdu headerLen outMax]
    (∀ a ∈ s.authenticated ecb twice, a = r) ∧ s.accepted ecb twice = [r] := by
  intro twice
  have hagain := (received_open npdu headerLen outMax (.openNpdu npdu headerLen outMax)).trans hr
  have hall : ∀ a ∈ s.authenticated ecb twice, a = r := by
    intro a ha
    simpa [twice, authenticated, hr, hagain] using ha
  have hfresh : HighWater.Fresh s.replay.mark r.frame.replayKey r.frame.frameCounter.toNat := by
    rw [hempty]
    intro v hv
    cases hv
  have hfirst := acceptedNow_fresh hr hfresh
  have hpair : ∀ a ∈ s.authenticated ecb twice, a.frame.replayKey ∈
      ({r.frame.replayKey} : Finset ReplayKey) :=
    fun a ha => hall a ha ▸ Finset.mem_singleton_self _
  have hmarks := accepted_marks (hempty ▸ ReplayTable.reset_within _)
    (Finset.card_singleton _ ▸ by decide) twice hpair
  refine ⟨hall, ?_⟩
  cases hsecond : (s.apply ecb (.openNpdu npdu headerLen outMax)).acceptedNow ecb
      (.openNpdu npdu headerLen outMax) with
  | none => simp [twice, accepted, hfirst, hsecond]
  | some r' =>
    have hsame : r = r' := Option.some.inj (hagain.symm.trans (acceptedNow_received hsecond))
    subst hsame
    simp only [twice, accepted, hfirst, hsecond] at hmarks
    exact absurd (HighWater.fresh_raise_self.mp hmarks.2.1) (Nat.lt_irrefl _)

/-- Every accepted frame of a run is an authentic one, with the pair and counter its bytes hold. -/
theorem accepted_aux (ops : List Op) : ∀ r ∈ s.accepted ecb ops,
    r.frame.replayKey = (join64 (slice (slice r.npdu r.headerLen kAuxLen) 5 8),
      (slice r.npdu r.headerLen kAuxLen).getD 13 0) ∧
    r.frame.frameCounter = join32 (slice (slice r.npdu r.headerLen kAuxLen) 1 4) := by
  induction ops generalizing s with
  | nil => simp [accepted]
  | cons op ops ih =>
    intro r hr
    simp only [accepted, List.mem_append, Option.mem_toList] at hr
    rcases hr with hnow | hrest
    · cases op with
      | setNetworkKey key keySequence => cases hnow
      | setAlternateKey key keySequence => cases hnow
      | switchKey keySequence => cases hnow
      | openNpdu npdu headerLen outMax =>
        simp only [acceptedNow, received] at hnow
        split at hnow
        · split at hnow
          · next frame hauth =>
            cases hnow
            obtain ⟨hieee, hseq, hfc⟩ := authenticate_aux hauth
            exact ⟨by rw [Authentic.replayKey, hieee, hseq], hfc⟩
          · cases hnow
        · cases hnow
    · exact ih r hrest

/-! ## Rejected frames -/

theorem openNpdu_stats (stats : ZigbeeSecurityStats) (npdu : List UInt8) (headerLen : Nat)
    (outMax : UInt8) :
    ∃ stats', ({ s with stats := stats }.openNpdu ecb npdu headerLen outMax) =
      ({ (s.openNpdu ecb npdu headerLen outMax).1 with stats := stats' },
        (s.openNpdu ecb npdu headerLen outMax).2) := by
  have hauth : { s with stats := stats }.authenticate ecb npdu headerLen outMax =
      s.authenticate ecb npdu headerLen outMax := rfl
  simp only [openNpdu, hauth]
  split
  · exact ⟨_, rfl⟩
  · split <;> exact ⟨_, rfl⟩

theorem verdicts_stats (stats : ZigbeeSecurityStats) (ops : List Op) :
    { s with stats := stats }.verdicts ecb ops = s.verdicts ecb ops := by
  induction ops generalizing s stats with
  | nil => rfl
  | cons op ops ih =>
    cases op with
    | setNetworkKey key keySequence =>
      simp only [verdicts, verdict]
      exact congrArg _ (@ih (s.setNetworkKey key keySequence) stats)
    | setAlternateKey key keySequence =>
      simp only [verdicts, verdict]
      exact congrArg _ (@ih (s.setAlternateKey key keySequence) stats)
    | switchKey keySequence =>
      have hswitch : ({ s with stats := stats }.switchKey keySequence).1 =
          { (s.switchKey keySequence).1 with stats := stats } := by
        simp only [switchKey]
        split
        · rfl
        split <;> rfl
      simp only [verdicts, verdict, apply, hswitch, ih]
    | openNpdu npdu headerLen outMax =>
      obtain ⟨stats', hopen⟩ : ∃ stats', { s with stats := stats }.openNpdu ecb npdu headerLen
        outMax = _ := openNpdu_stats stats npdu headerLen outMax
      simp only [verdicts, verdict, apply, hopen, ih]

theorem openNpdu_rejected {e : OpenError}
    (h : (s.openNpdu ecb npdu headerLen outMax).2 = .error e) :
    ∃ stats, (s.openNpdu ecb npdu headerLen outMax).1 = { s with stats := stats } := by
  cases hauth : s.authenticate ecb npdu headerLen outMax with
  | error e' =>
    rw [openNpdu_unauthentic hauth]
    exact ⟨_, rfl⟩
  | ok frame =>
    rcases s.replay.replayCheckAndUpdate_cases frame.srcIeee frame.keySeq frame.frameCounter with
      ⟨-, hcheck⟩ | ⟨-, hcheck | hcheck⟩ <;> simp only [openNpdu, hauth, hcheck] at h ⊢
    · cases h
    · exact ⟨_, rfl⟩
    · exact ⟨_, rfl⟩

/-- A rejected frame, whatever it was rejected for, changes neither the replay table nor any later
answer. -/
theorem rejected_changes_nothing {e : OpenError}
    (h : (s.openNpdu ecb npdu headerLen outMax).2 = .error e) :
    (s.openNpdu ecb npdu headerLen outMax).1.replay = s.replay ∧
      ∀ later, (s.openNpdu ecb npdu headerLen outMax).1.verdicts ecb later =
        s.verdicts ecb later := by
  obtain ⟨stats, hstats⟩ := openNpdu_rejected h
  rw [hstats]
  exact ⟨rfl, verdicts_stats stats⟩

/-- From an empty replay table and with at most eight authentic pairs, the counters accepted for one
pair strictly increase and no frame is accepted twice; and what is rejected leaves no trace. -/
theorem replay_protection (hempty : s.replay = .reset) (ops : List Op) {S : Finset ReplayKey}
    (hcard : S.card ≤ kMaxReplayPeers)
    (hpairs : ∀ r ∈ s.authenticated ecb ops, r.frame.replayKey ∈ S) :
    ((s.accepted ecb ops).Pairwise fun a b => a.frame.replayKey = b.frame.replayKey →
      a.frame.frameCounter < b.frame.frameCounter) ∧
    ((s.accepted ecb ops).Pairwise fun a b => ¬ (a.npdu = b.npdu ∧ a.headerLen = b.headerLen)) ∧
    ∀ npdu headerLen outMax e,
      ((ops.foldl (apply ecb) s).openNpdu ecb npdu headerLen outMax).2 = .error e →
      ((ops.foldl (apply ecb) s).openNpdu ecb npdu headerLen outMax).1.replay =
        (ops.foldl (apply ecb) s).replay ∧
      ∀ later, ((ops.foldl (apply ecb) s).openNpdu ecb npdu headerLen outMax).1.verdicts ecb later =
        (ops.foldl (apply ecb) s).verdicts ecb later := by
  have hmarks := (accepted_marks (hempty ▸ ReplayTable.reset_within S) hcard ops
    hpairs).increasing
  have hcounters : (s.accepted ecb ops).Pairwise fun a b =>
      a.frame.replayKey = b.frame.replayKey → a.frame.frameCounter < b.frame.frameCounter := by
    simpa only [List.pairwise_map, UInt32.lt_iff_toNat_lt] using hmarks
  refine ⟨hcounters, ?_, ?_⟩
  · refine hcounters.imp_of_mem ?_
    rintro a b ha hb hlt ⟨hnpdu, hheader⟩
    obtain ⟨hka, hca⟩ := accepted_aux ops a ha
    obtain ⟨hkb, hcb⟩ := accepted_aux ops b hb
    rw [hnpdu, hheader] at hka hca
    have hless := hlt (hka.trans hkb.symm)
    rw [hca, hcb] at hless
    exact UInt32.lt_irrefl _ hless
  · intro npdu headerLen outMax e he
    exact rejected_changes_nothing he

private def heardKey : Block := Block.ofList ((List.range 16).map fun i => (0xC0 + i).toUInt8)

/-- Counter 5 from 11:22:33:44:55:66:77:88, under key sequence 1. -/
private def heardFrame : List UInt8 :=
  [8, 2, 0, 0, 52, 18, 30, 7, 40, 5, 0, 0, 0, 136, 119, 102, 85, 68, 51, 34, 17, 1, 227, 147, 43,
    55, 0]

private def heardTwice : List Op := [.openNpdu heardFrame 8 144, .openNpdu heardFrame 8 144]

private theorem heardFrame_authentic : ((init.setNetworkKey heardKey 1).received Aes128.encrypt
    (.openNpdu heardFrame 8 144)).isSome := by decide +kernel

theorem replay_protection_heard_twice :
    let s := init.setNetworkKey heardKey 1
    (s.accepted Aes128.encrypt heardTwice).length = 1 ∧
      (s.accepted Aes128.encrypt heardTwice).Pairwise fun a b =>
        a.frame.replayKey = b.frame.replayKey → a.frame.frameCounter < b.frame.frameCounter := by
  intro s
  obtain ⟨r, hr⟩ := Option.isSome_iff_exists.mp heardFrame_authentic
  obtain ⟨hall, honce⟩ := accepted_of_heard_twice rfl hr
  have hpair : ∀ a ∈ s.authenticated Aes128.encrypt heardTwice,
      a.frame.replayKey ∈ ({r.frame.replayKey} : Finset ReplayKey) :=
    fun a ha => hall a ha ▸ Finset.mem_singleton_self _
  have hcard : ({r.frame.replayKey} : Finset ReplayKey).card ≤ kMaxReplayPeers :=
    Finset.card_singleton _ ▸ by decide
  refine ⟨?_, (replay_protection (s := s) rfl heardTwice hcard hpair).1⟩
  rw [heardTwice, honce, List.length_singleton]

end ZigbeeSecurity

end NiusZigbee
