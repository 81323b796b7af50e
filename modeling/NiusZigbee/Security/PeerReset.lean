import NiusZigbee.Security.OpenSecured
import NiusZigbee.Security.Replay

/-!
# Replay protection across resets

When a child joins again, what was heard of it is forgotten, so that a counter which went back is
taken. Only frames of that device can then be accepted a second time: for every other device the
table goes on as if there had been no reset.
-/

namespace NiusZigbee

open ByteCodec

namespace ReplayTable

def resetPeer (table : ReplayTable) (ieee : UInt64) : ReplayTable :=
  ⟨table.entries.map fun entry => if entry.used && entry.ieee = ieee then {} else entry,
    by rw [List.length_map, table.size]⟩

variable {table : ReplayTable} {S : Finset ReplayKey}

theorem Within.resetPeer (h : table.Within S) (ieee : UInt64) :
    (table.resetPeer ieee).Within S ∧
      (table.resetPeer ieee).mark = HighWater.forget table.mark fun k => k.1 = ieee := by
  have hclear : ReplayEntry.key {} = none := rfl
  have hkeys := SlotTable.keys_reclaim (t := table.entries)
    (p := fun entry => entry.used && entry.ieee = ieee) hclear
  refine ⟨⟨h.nodup.sublist hkeys, fun k hk => h.subset k (hkeys.subset hk)⟩, ?_⟩
  funext k
  have hlookup : (table.resetPeer ieee).lookup k = _ :=
    (SlotTable.distinct_of_keys_nodup h.nodup).lookup_reclaim
      (p := fun entry => entry.used && entry.ieee = ieee) hclear k
  rw [mark, hlookup]
  change Option.map _ ((table.lookup k).filter _) = _
  cases hheld : table.lookup k with
  | none => simp [HighWater.forget, mark, hheld]
  | some entry =>
    have hkey : entry.key = some k := SlotTable.lookup_key hheld
    have hused : entry.used = true ∧ entry.ieee = k.1 := by
      simp only [ReplayEntry.key, Option.ite_none_right_eq_some, Option.some.injEq] at hkey
      exact ⟨hkey.1, congrArg Prod.fst hkey.2⟩
    by_cases hieee : k.1 = ieee <;>
      simp [HighWater.forget, mark, hheld, hused, hieee, Option.filter_some]

end ReplayTable

namespace ZigbeeSecurity

def resetReplayTable (s : ZigbeeSecurity) : ZigbeeSecurity := { s with replay := .reset }

def resetReplayPeer (s : ZigbeeSecurity) (ieee : UInt64) : ZigbeeSecurity :=
  { s with replay := s.replay.resetPeer ieee }

/-! ## Runs with resets -/

inductive PeerOp where
  | keep (op : Op)
  | resetReplayTable
  | resetReplayPeer (ieee : UInt64)

/-- An accepted frame, or the pairs that were forgotten. -/
abbrev Happening := Received ⊕ (ReplayKey → Bool)

variable (ecb : BlockCipher)

def applyPeer (s : ZigbeeSecurity) : PeerOp → ZigbeeSecurity
  | .keep op => s.apply ecb op
  | .resetReplayTable => s.resetReplayTable
  | .resetReplayPeer ieee => s.resetReplayPeer ieee

def happenedNow (s : ZigbeeSecurity) : PeerOp → Option Happening
  | .keep op => (s.acceptedNow ecb op).map Sum.inl
  | .resetReplayTable => some (.inr fun _ => true)
  | .resetReplayPeer ieee => some (.inr fun k => k.1 = ieee)

def happened (s : ZigbeeSecurity) : List PeerOp → List Happening
  | [] => []
  | op :: ops => (s.happenedNow ecb op).toList ++ happened (s.applyPeer ecb op) ops

/-- The frames of a run that passed authentication, accepted or not. -/
def authentic (s : ZigbeeSecurity) : List PeerOp → List Received
  | [] => []
  | .keep op :: ops => (s.received ecb op).toList ++ authentic (s.apply ecb op) ops
  | op :: ops => authentic (s.applyPeer ecb op) ops

/-- What a happening is to a monitor of high-water marks. -/
def Happening.event : Happening → HighWater.Event ReplayKey Nat
  | .inl r => .accepted r.frame.replayKey r.frame.frameCounter.toNat
  | .inr p => .forgotten p

variable {ecb} {s : ZigbeeSecurity} {S : Finset ReplayKey}

theorem happened_log (hwithin : s.replay.Within S) (hcard : S.card ≤ kMaxReplayPeers)
    (ops : List PeerOp) (hpairs : ∀ r ∈ s.authentic ecb ops, r.frame.replayKey ∈ S) :
    HighWater.Log s.replay.mark ((s.happened ecb ops).map Happening.event) := by
  induction ops generalizing s with
  | nil => trivial
  | cons op ops ih =>
    cases op with
    | keep op =>
      simp only [authentic, List.mem_append, Option.mem_toList] at hpairs
      obtain ⟨hwithin', hstep⟩ := step_marks hwithin hcard op fun r hr => hpairs r (Or.inl hr)
      have hrest := ih hwithin' fun r hr => hpairs r (Or.inr hr)
      rcases hstep with ⟨r, hnow, hfresh, hmark⟩ | ⟨hnow, hmark⟩
      · rw [hmark] at hrest
        simp only [happened, happenedNow, hnow, Option.map_some, Option.toList_some,
          List.singleton_append, List.map_cons]
        exact ⟨hfresh, hrest⟩
      · rw [hmark] at hrest
        simp only [happened, happenedNow, hnow, Option.map_none, Option.toList_none,
          List.nil_append]
        exact hrest
    | resetReplayTable =>
      have hempty : (s.resetReplayTable).replay.mark =
          HighWater.forget s.replay.mark fun _ => true := rfl
      have hrest := ih (s := s.resetReplayTable) (ReplayTable.reset_within S) hpairs
      rw [hempty] at hrest
      exact hrest
    | resetReplayPeer ieee =>
      obtain ⟨hwithin', hmark⟩ := hwithin.resetPeer ieee
      have hrest := ih (s := s.resetReplayPeer ieee) hwithin' hpairs
      rw [show (s.resetReplayPeer ieee).replay.mark = _ from hmark] at hrest
      exact hrest

/-- Between two accepted frames of one pair the counter goes up, unless that pair was forgotten in
between. -/
theorem replay_protection_across_resets (hempty : s.replay = .reset) (ops : List PeerOp)
    (hcard : S.card ≤ kMaxReplayPeers)
    (hpairs : ∀ r ∈ s.authentic ecb ops, r.frame.replayKey ∈ S) {pre mid post : List Happening}
    {a b : Received}
    (hrun : s.happened ecb ops = pre ++ .inl a :: (mid ++ .inl b :: post))
    (hsame : a.frame.replayKey = b.frame.replayKey)
    (hkept : ∀ p, .inr p ∈ mid → p a.frame.replayKey = false) :
    a.frame.frameCounter < b.frame.frameCounter := by
  have hlog := happened_log (hempty ▸ ReplayTable.reset_within S) hcard ops hpairs
  have hremembers : HighWater.Remembers a.frame.replayKey (mid.map Happening.event) := by
    intro p hp
    obtain ⟨e, he, hevent⟩ := List.mem_map.mp hp
    cases e with
    | inl r => cases hevent
    | inr q =>
      cases hevent
      exact hkept p he
  rw [hrun, List.map_append, List.map_cons, List.map_append, List.map_cons] at hlog
  simp only [Happening.event, ← hsame] at hlog
  exact UInt32.lt_iff_toNat_lt.mpr (hlog.increasing hremembers)

/-! ## Whom a reset concerns -/

variable {s' : ZigbeeSecurity} {ieee : UInt64}

/-- Two receivers that differ in what they heard of one device only. -/
structure Alike (ieee : UInt64) (S : Finset ReplayKey) (s s' : ZigbeeSecurity) : Prop where
  keys : ∃ replay stats, s' = { s with replay := replay, stats := stats }
  left : s.replay.Within S
  right : s'.replay.Within S
  marks : ∀ k : ReplayKey, k.1 ≠ ieee → s.replay.mark k = s'.replay.mark k

/-- The frames of other devices than `ieee` among those accepted. -/
def fromOthers (ieee : UInt64) : List Happening → List Received
  | [] => []
  | .inl r :: rest =>
    if r.frame.srcIeee = ieee then fromOthers ieee rest else r :: fromOthers ieee rest
  | .inr _ :: rest => fromOthers ieee rest

theorem apply_alike (op : Op) {replay : ReplayTable} {stats : ZigbeeSecurityStats} :
    ∃ replay' stats', { s with replay := replay, stats := stats }.apply ecb op =
      { s.apply ecb op with replay := replay', stats := stats' } := by
  cases op with
  | setNetworkKey key keySequence => exact ⟨replay, stats, rfl⟩
  | setAlternateKey key keySequence => exact ⟨replay, stats, rfl⟩
  | switchKey keySequence =>
    refine ⟨replay, stats, ?_⟩
    simp only [apply, switchKey]
    split
    · rfl
    split <;> rfl
  | openNpdu npdu headerLen outMax =>
    obtain ⟨r1, st1, h1⟩ : ∃ r1 st1, (s.openNpdu ecb npdu headerLen outMax).1 =
      { s with replay := r1, stats := st1 } := openNpdu_keeps npdu headerLen outMax
    obtain ⟨r2, st2, h2⟩ : ∃ r2 st2, ({ s with replay := replay, stats := stats }.openNpdu ecb npdu
        headerLen outMax).1 = { s with replay := r2, stats := st2 } :=
      openNpdu_keeps npdu headerLen outMax
    exact ⟨r2, st2, by rw [apply, apply, h1, h2]⟩

theorem Alike.received (ecb : BlockCipher) (h : Alike ieee S s s') (op : Op) :
    s'.received ecb op = s.received ecb op := by
  obtain ⟨replay, stats, rfl⟩ := h.keys
  cases op <;> rfl

theorem acceptedNow_none {op : Op} {r : Received} (hrec : s.received ecb op = some r)
    (hnow : s.acceptedNow ecb op = none) :
    ¬ HighWater.Fresh s.replay.mark r.frame.replayKey r.frame.frameCounter.toNat := by
  intro hfresh
  rw [acceptedNow_fresh hrec hfresh] at hnow
  cases hnow

theorem Alike.keep (h : Alike ieee S s s') (hcard : S.card ≤ kMaxReplayPeers) (op : Op)
    (hpairs : ∀ r ∈ s.received ecb op, r.frame.replayKey ∈ S) :
    Alike ieee S (s.apply ecb op) (s'.apply ecb op) ∧
      ∀ r, r.frame.srcIeee ≠ ieee →
        (s.acceptedNow ecb op = some r ↔ s'.acceptedNow ecb op = some r) := by
  have hreceived := h.received ecb op
  obtain ⟨hleft, hstep⟩ := step_marks h.left hcard op hpairs
  obtain ⟨hright, hstep'⟩ := step_marks h.right hcard op (hreceived.symm ▸ hpairs)
  have hkeys : ∃ replay stats,
      s'.apply ecb op = { s.apply ecb op with replay := replay, stats := stats } := by
    obtain ⟨replay, stats, rfl⟩ := h.keys
    exact apply_alike op
  have hfreshIff {r : Received} (hr : r.frame.srcIeee ≠ ieee) :
      HighWater.Fresh s.replay.mark r.frame.replayKey r.frame.frameCounter.toNat ↔
        HighWater.Fresh s'.replay.mark r.frame.replayKey r.frame.frameCounter.toNat := by
    simp only [HighWater.Fresh, h.marks r.frame.replayKey hr]
  have hraise {r : Received} (hr : ¬ r.frame.srcIeee ≠ ieee) {m : ReplayKey → Option Nat}
      {k : ReplayKey} (hk : k.1 ≠ ieee) :
      HighWater.raise m r.frame.replayKey r.frame.frameCounter.toNat k = m k := by
    apply Function.update_of_ne
    rintro rfl
    exact hr hk
  rcases hstep with ⟨r, hnow, hfresh, hmark⟩ | ⟨hnow, hmark⟩ <;>
    rcases hstep' with ⟨r', hnow', hfresh', hmark'⟩ | ⟨hnow', hmark'⟩
  · obtain rfl : r = r' := Option.some.inj ((acceptedNow_received hnow).symm.trans
      (hreceived.symm.trans (acceptedNow_received hnow')))
    refine ⟨⟨hkeys, hleft, hright, fun k hk => ?_⟩, fun _ _ => by rw [hnow, hnow']⟩
    by_cases hself : k = r.frame.replayKey
    · rw [hmark, hmark', hself, HighWater.raise, HighWater.raise, Function.update_self,
        Function.update_self]
    · rw [hmark, hmark', HighWater.raise, HighWater.raise, Function.update_of_ne hself,
        Function.update_of_ne hself, h.marks k hk]
  · -- only a frame of the device itself can be fresh for one and not for the other
    have hown : ¬ r.frame.srcIeee ≠ ieee := fun hr =>
      acceptedNow_none (hreceived.trans (acceptedNow_received hnow)) hnow'
        ((hfreshIff hr).mp hfresh)
    refine ⟨⟨hkeys, hleft, hright, fun k hk => ?_⟩, fun q hq => ?_⟩
    · rw [hmark, hmark', hraise hown hk, h.marks k hk]
    · rw [hnow, hnow']
      refine iff_of_false (fun heq => ?_) (Option.some_ne_none q).symm
      exact hown (Option.some.inj heq ▸ hq)
  · have hown : ¬ r'.frame.srcIeee ≠ ieee := fun hr =>
      acceptedNow_none (hreceived.symm.trans (acceptedNow_received hnow')) hnow
        ((hfreshIff hr).mpr hfresh')
    refine ⟨⟨hkeys, hleft, hright, fun k hk => ?_⟩, fun q hq => ?_⟩
    · rw [hmark, hmark', hraise hown hk, h.marks k hk]
    · rw [hnow, hnow']
      refine iff_of_false (Option.some_ne_none q).symm (fun heq => ?_)
      exact hown (Option.some.inj heq ▸ hq)
  · exact ⟨⟨hkeys, hleft, hright, fun k hk => by rw [hmark, hmark', h.marks k hk]⟩,
      fun _ _ => by rw [hnow, hnow']⟩

/-- A run without the resets of one device. -/
def PeerOp.sparing (ieee : UInt64) : PeerOp → Bool
  | .resetReplayPeer other => other != ieee
  | _ => true

theorem fromOthers_kept (now : Option Received) (rest : List Happening) :
    fromOthers ieee ((now.map Sum.inl).toList ++ rest) =
      (now.filter fun r => r.frame.srcIeee != ieee).toList ++ fromOthers ieee rest := by
  cases now with
  | none => rfl
  | some r =>
    by_cases hr : r.frame.srcIeee = ieee <;> simp [fromOthers, Option.filter_some, hr]

theorem Alike.fromOthers (h : Alike ieee S s s') (hcard : S.card ≤ kMaxReplayPeers)
    (ops : List PeerOp) (hpairs : ∀ r ∈ s.authentic ecb ops, r.frame.replayKey ∈ S) :
    fromOthers ieee (s.happened ecb ops) =
      fromOthers ieee (s'.happened ecb (ops.filter (PeerOp.sparing ieee))) := by
  induction ops generalizing s s' with
  | nil => rfl
  | cons op ops ih =>
    cases op with
    | keep op =>
      simp only [authentic, List.mem_append, Option.mem_toList] at hpairs
      obtain ⟨hnext, hsame⟩ := h.keep hcard op fun r hr => hpairs r (Or.inl hr)
      have hrest := ih hnext fun r hr => hpairs r (Or.inr hr)
      have hnow : ((s.acceptedNow ecb op).filter fun r => r.frame.srcIeee != ieee) =
          (s'.acceptedNow ecb op).filter fun r => r.frame.srcIeee != ieee := by
        ext r
        simp only [Option.filter_eq_some_iff, bne_iff_ne]
        exact and_congr_left (hsame r)
      rw [List.filter_cons_of_pos rfl]
      simp only [happened, happenedNow, fromOthers_kept, hnow, applyPeer, hrest]
    | resetReplayTable =>
      obtain ⟨replay, stats, rfl⟩ := h.keys
      rw [List.filter_cons_of_pos rfl]
      exact ih ⟨⟨_, stats, rfl⟩, ReplayTable.reset_within S, ReplayTable.reset_within S,
        fun _ _ => rfl⟩ hpairs
    | resetReplayPeer other =>
      obtain ⟨hleft, hmark⟩ := h.left.resetPeer other
      by_cases hother : other = ieee
      · subst hother
        rw [List.filter_cons_of_neg (by simp [PeerOp.sparing])]
        refine ih (s := s.resetReplayPeer other) ⟨?_, hleft, h.right, fun k hk => ?_⟩ hpairs
        · obtain ⟨replay, stats, rfl⟩ := h.keys
          exact ⟨replay, stats, rfl⟩
        · have hk' : decide (k.1 = other) = false := decide_eq_false hk
          rw [← h.marks k hk]
          change (s.replay.resetPeer other).mark k = _
          rw [hmark, HighWater.forget, hk']
          rfl
      · obtain ⟨hright, hmark'⟩ := h.right.resetPeer other
        rw [List.filter_cons_of_pos (by simp [PeerOp.sparing, hother])]
        refine @ih (s.resetReplayPeer other) (s'.resetReplayPeer other)
          ⟨?_, hleft, hright, fun k hk => ?_⟩ hpairs
        · obtain ⟨replay, stats, rfl⟩ := h.keys
          exact ⟨_, stats, rfl⟩
        · change (s.replay.resetPeer other).mark k = (s'.replay.resetPeer other).mark k
          rw [hmark, hmark', HighWater.forget, HighWater.forget, h.marks k hk]

theorem within_run (hwithin : s.replay.Within S) (hcard : S.card ≤ kMaxReplayPeers)
    (ops : List PeerOp) (hpairs : ∀ r ∈ s.authentic ecb ops, r.frame.replayKey ∈ S) :
    (ops.foldl (applyPeer ecb) s).replay.Within S := by
  induction ops generalizing s with
  | nil => exact hwithin
  | cons op ops ih =>
    cases op with
    | keep op =>
      simp only [authentic, List.mem_append, Option.mem_toList] at hpairs
      obtain ⟨hnext, -⟩ := step_marks hwithin hcard op fun r hr => hpairs r (Or.inl hr)
      exact ih hnext fun r hr => hpairs r (Or.inr hr)
    | resetReplayTable => exact ih (s := s.resetReplayTable) (ReplayTable.reset_within S) hpairs
    | resetReplayPeer other =>
      exact ih (s := s.resetReplayPeer other) (hwithin.resetPeer other).1 hpairs

/-- A device that was just forgotten is heard whatever its counter. -/
theorem acceptedNow_forgotten (hwithin : s.replay.Within S) {op : Op} {r : Received}
    (hr : r.frame.srcIeee = ieee)
    (hrec : (s.resetReplayPeer ieee).received ecb op = some r) :
    (s.resetReplayPeer ieee).acceptedNow ecb op = some r := by
  apply acceptedNow_fresh hrec
  have hmark : (s.resetReplayPeer ieee).replay.mark =
      HighWater.forget s.replay.mark fun k => k.1 = ieee := (hwithin.resetPeer ieee).2
  rw [hmark, HighWater.fresh_forget]
  exact Or.inl (decide_eq_true hr)

/-- Which frames of other devices are accepted does not depend on whether, or how often, a device is
forgotten; and whatever was heard of that device, its next authentic frame after it is. -/
theorem resets_confined (hempty : s.replay = .reset) (ops : List PeerOp)
    (hcard : S.card ≤ kMaxReplayPeers)
    (hpairs : ∀ r ∈ s.authentic ecb ops, r.frame.replayKey ∈ S) :
    fromOthers ieee (s.happened ecb ops) =
      fromOthers ieee (s.happened ecb (ops.filter (PeerOp.sparing ieee))) ∧
    ∀ op r, r.frame.srcIeee = ieee →
      ((ops.foldl (applyPeer ecb) s).resetReplayPeer ieee).received ecb op = some r →
      ((ops.foldl (applyPeer ecb) s).resetReplayPeer ieee).acceptedNow ecb op = some r := by
  have hwithin : s.replay.Within S := hempty ▸ ReplayTable.reset_within S
  have halike : Alike ieee S s s := ⟨⟨s.replay, s.stats, rfl⟩, hwithin, hwithin, fun _ _ => rfl⟩
  exact ⟨halike.fromOthers hcard ops hpairs, fun op r hr hrec =>
    acceptedNow_forgotten (within_run hwithin hcard ops hpairs) hr hrec⟩

/-! ## A child that comes back -/

private def childKey : Block := Block.ofList [0xC0, 0xC1]

private def childIeee : UInt64 := 0x1122334455667788

private def childNpdu : List UInt8 := [8, 0, 0, 0, 52, 18, 30, 7, 0xAA]

private def frameFrom (ieee : UInt64) (counter : UInt32) : Op :=
  .openNpdu (securedBytes Aes128.encrypt childKey 1 childNpdu 8 ieee counter) 8 144

private def receivedFrom (ieee : UInt64) (counter : UInt32) : Received :=
  ⟨securedBytes Aes128.encrypt childKey 1 childNpdu 8 ieee counter, 8,
    ⟨childNpdu, ieee, 1, counter⟩⟩

private theorem frameFrom_received (h : s.hasKey = true) (hsel : s.selectKey 1 = some childKey)
    (ieee : UInt64) (counter : UInt32) :
    s.received Aes128.encrypt (frameFrom ieee counter) = some (receivedFrom ieee counter) := by
  have hauth : s.authenticate Aes128.encrypt (securedBytes Aes128.encrypt childKey 1 childNpdu 8
      ieee counter) 8 144 = .ok ⟨childNpdu, ieee, 1, counter⟩ :=
    authenticate_secured h hsel (by decide) (by decide) (by decide) (by decide) (by decide)
      (by decide)
  simp only [frameFrom, received, hauth, receivedFrom]

private theorem frameFrom_keeps (ieee : UInt64) (counter : UInt32) : ∃ replay stats,
    s.apply Aes128.encrypt (frameFrom ieee counter) =
      { s with replay := replay, stats := stats } := by
  rw [frameFrom, apply]
  exact openNpdu_keeps _ _ _

/-- A device is heard with a counter, or is forgotten. -/
private def peerOp : UInt64 × Option UInt32 → PeerOp
  | (ieee, some counter) => .keep (frameFrom ieee counter)
  | (ieee, none) => .resetReplayPeer ieee

private theorem peerOp_keeps (p : UInt64 × Option UInt32) : ∃ replay stats,
    s.applyPeer Aes128.encrypt (peerOp p) = { s with replay := replay, stats := stats } := by
  match p with
  | (ieee, some counter) => exact frameFrom_keeps ieee counter
  | (ieee, none) => exact ⟨s.replay.resetPeer ieee, s.stats, rfl⟩

private theorem peerOps_keep (ops : List (UInt64 × Option UInt32)) : ∃ replay stats,
    (ops.map peerOp).foldl (applyPeer Aes128.encrypt) s =
      { s with replay := replay, stats := stats } := by
  induction ops generalizing s with
  | nil => exact ⟨s.replay, s.stats, rfl⟩
  | cons p ops ih =>
    obtain ⟨replay, stats, hstep⟩ := @peerOp_keeps s p
    rw [List.map_cons, List.foldl_cons, hstep]
    exact ih

private theorem peerOps_pairs (h : s.hasKey = true) (hsel : s.selectKey 1 = some childKey)
    (ops : List (UInt64 × Option UInt32)) (hS : ∀ p ∈ ops, (p.1, 1) ∈ S) :
    ∀ r ∈ s.authentic Aes128.encrypt (ops.map peerOp), r.frame.replayKey ∈ S := by
  induction ops generalizing s with
  | nil =>
    intro r hr
    cases hr
  | cons p ops ih =>
    intro r hr
    obtain ⟨replay, stats, hstep⟩ := @peerOp_keeps s p
    have hrest : r ∈ (s.applyPeer Aes128.encrypt (peerOp p)).authentic Aes128.encrypt
        (ops.map peerOp) → r.frame.replayKey ∈ S := by
      rw [hstep]
      exact @ih { s with replay := replay, stats := stats } h hsel
        (fun q hq => hS q (List.mem_cons_of_mem p hq)) r
    match p with
    | (ieee, none) => exact hrest hr
    | (ieee, some counter) =>
      rw [List.map_cons, peerOp, authentic, frameFrom_received h hsel] at hr
      rcases List.mem_append.mp hr with hnow | hlater
      · obtain rfl : r = receivedFrom ieee counter := by simpa using hnow
        exact hS _ List.mem_cons_self
      · exact hrest hlater

private def parentSecurity : ZigbeeSecurity := init.setNetworkKey childKey 1

private def otherForgotten : List PeerOp :=
  [(childIeee, some 5), (9, none), (childIeee, some 6)].map peerOp

private theorem otherForgotten_happened :
    parentSecurity.happened Aes128.encrypt otherForgotten =
      [.inl (receivedFrom childIeee 5), .inr fun k => k.1 = 9,
        .inl (receivedFrom childIeee 6)] := by
  have hfirst : parentSecurity.received Aes128.encrypt (frameFrom childIeee 5) =
      some (receivedFrom childIeee 5) := frameFrom_received rfl rfl childIeee 5
  have hunheard : HighWater.Fresh parentSecurity.replay.mark (childIeee, 1) 5 := by
    intro v hv
    cases hv
  have hnow : parentSecurity.acceptedNow Aes128.encrypt (frameFrom childIeee 5) =
      some (receivedFrom childIeee 5) := acceptedNow_fresh hfirst hunheard
  obtain ⟨replay, stats, hopen⟩ : ∃ replay stats,
      parentSecurity.apply Aes128.encrypt (frameFrom childIeee 5) =
        { parentSecurity with replay := replay, stats := stats } := frameFrom_keeps childIeee 5
  obtain ⟨after, hafter⟩ : ∃ after, (parentSecurity.apply Aes128.encrypt
    (frameFrom childIeee 5)).resetReplayPeer 9 = after := ⟨_, rfl⟩
  have hsecond : after.received Aes128.encrypt (frameFrom childIeee 6) =
      some (receivedFrom childIeee 6) := by
    rw [← hafter, hopen]
    exact frameFrom_received rfl rfl childIeee 6
  have hpair : ∀ r ∈ parentSecurity.received Aes128.encrypt (frameFrom childIeee 5),
      r.frame.replayKey ∈ ({(childIeee, 1)} : Finset ReplayKey) := by
    rw [hfirst]
    rintro r ⟨⟩
    exact Finset.mem_singleton_self _
  have hreset : parentSecurity.replay.Within {(childIeee, 1)} := ReplayTable.reset_within _
  obtain ⟨hwithin, hmarks⟩ := step_marks hreset (by decide) (frameFrom childIeee 5) hpair
  have hmark : after.replay.mark = HighWater.forget (HighWater.raise parentSecurity.replay.mark
      (childIeee, 1) 5) fun k => k.1 = 9 := by
    rcases hmarks with ⟨r, hr, -, hmark⟩ | ⟨hnone, -⟩
    · obtain rfl : receivedFrom childIeee 5 = r := Option.some.inj (hnow.symm.trans hr)
      rw [← hafter]
      exact (hwithin.resetPeer 9).2.trans (by rw [hmark]; rfl)
    · rw [hnow] at hnone
      cases hnone
  have hlater : after.acceptedNow Aes128.encrypt (frameFrom childIeee 6) =
      some (receivedFrom childIeee 6) := by
    apply acceptedNow_fresh hsecond
    rw [hmark, HighWater.fresh_forget]
    right
    have hkey : (receivedFrom childIeee 6).frame.replayKey = (childIeee, 1) := rfl
    rw [hkey, HighWater.fresh_raise_self]
    decide
  simp only [otherForgotten, List.map_cons, List.map_nil, peerOp, happened, happenedNow, applyPeer,
    hnow, hafter, hlater, Option.map_some, Option.toList_some, List.singleton_append,
    List.append_nil]

private theorem otherForgotten_pairs : ∀ r ∈ parentSecurity.authentic Aes128.encrypt otherForgotten,
    r.frame.replayKey ∈ ({(childIeee, 1), (9, 1)} : Finset ReplayKey) :=
  peerOps_pairs rfl rfl _ (by simp)

theorem replay_protection_across_resets_other :
    (receivedFrom childIeee 5).frame.frameCounter <
      (receivedFrom childIeee 6).frame.frameCounter := by
  have hrun : parentSecurity.happened Aes128.encrypt otherForgotten =
      [] ++ .inl (receivedFrom childIeee 5) ::
        ([.inr fun k => k.1 = 9] ++ .inl (receivedFrom childIeee 6) :: []) :=
    otherForgotten_happened
  have hcard : ({(childIeee, 1), (9, 1)} : Finset ReplayKey).card ≤ kMaxReplayPeers := by decide
  have hpair : (receivedFrom childIeee 5).frame.replayKey =
      (receivedFrom childIeee 6).frame.replayKey := rfl
  refine replay_protection_across_resets rfl otherForgotten hcard otherForgotten_pairs hrun hpair ?_
  intro p hp
  rw [List.mem_singleton] at hp
  cases hp
  decide

private def childForgotten : List (UInt64 × Option UInt32) :=
  [(childIeee, some 5), (9, some 7), (childIeee, none), (childIeee, some 5), (9, some 7),
    (9, some 8)]

/-- The child is forgotten between its frames: the other device is heard as if it had not been, and
the frame of the child is accepted a third time once it is forgotten again. -/
theorem resets_confined_child :
    fromOthers childIeee (parentSecurity.happened Aes128.encrypt (childForgotten.map peerOp)) =
      fromOthers childIeee (parentSecurity.happened Aes128.encrypt
        ((childForgotten.map peerOp).filter (PeerOp.sparing childIeee))) ∧
    (((childForgotten.map peerOp).foldl (applyPeer Aes128.encrypt)
      parentSecurity).resetReplayPeer childIeee).acceptedNow Aes128.encrypt
        (frameFrom childIeee 5) = some (receivedFrom childIeee 5) := by
  have hpairs : ∀ r ∈ parentSecurity.authentic Aes128.encrypt (childForgotten.map peerOp),
      r.frame.replayKey ∈ ({(childIeee, 1), (9, 1)} : Finset ReplayKey) :=
    peerOps_pairs rfl rfl _ (by simp [childForgotten])
  obtain ⟨hothers, hforgotten⟩ := @resets_confined Aes128.encrypt parentSecurity _ childIeee rfl
    (childForgotten.map peerOp) (by decide) hpairs
  refine ⟨hothers, hforgotten _ _ rfl ?_⟩
  obtain ⟨replay, stats, hkept⟩ := @peerOps_keep parentSecurity childForgotten
  rw [hkept]
  exact frameFrom_received rfl rfl childIeee 5

end ZigbeeSecurity

end NiusZigbee
