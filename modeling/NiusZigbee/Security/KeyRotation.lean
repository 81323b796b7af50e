import NiusZigbee.Library.Runs
import NiusZigbee.Security.OpenSecured
import NiusZigbee.Security.Replay

/-!
# Key rotation

A sender and a receiver hold the same two network keys and switch between them whenever they like.
Frames queue up between them in the order they were secured, some are lost, some heard twice.
-/

namespace NiusZigbee

open ByteCodec OutBuffer ZigbeeSecurity

namespace ZigbeeSecurity

/-- The keys of a node, each with its sequence number. -/
def held (s : ZigbeeSecurity) : Set (Block × UInt8) :=
  {p | s.hasKey = true ∧ p = (s.key, s.keySequence) ∨ s.hasAlt = true ∧ p = (s.altKey, s.altKeySeq)}

theorem held_switchKey (s : ZigbeeSecurity) (keySequence : UInt8) :
    (s.switchKey keySequence).1.held = s.held := by
  simp only [switchKey]
  split
  · rfl
  split
  · next halt =>
    simp only [Bool.and_eq_true, decide_eq_true_eq] at halt
    ext p
    simp only [held, halt.1, Set.mem_ofPred_eq, true_and]
    exact Or.comm
  · rfl

theorem holds_of_held {s : ZigbeeSecurity} {a b : Block × UInt8} (hne : a.2 ≠ b.2)
    (h : s.held = {a, b}) :
    s.hasKey = true ∧ ((s.key, s.keySequence) = a ∨ (s.key, s.keySequence) = b) ∧
      s.Holds a.1 a.2 ∧ s.Holds b.1 b.2 := by
  have ha : a ∈ s.held := h ▸ Set.mem_insert a {b}
  have hb : b ∈ s.held := h ▸ Set.mem_insert_of_mem a rfl
  simp only [held, Set.mem_ofPred_eq] at ha hb
  rcases ha with ⟨hkey, rfl⟩ | ⟨halt, rfl⟩
  · rcases hb with ⟨-, rfl⟩ | ⟨halt, rfl⟩
    · exact absurd rfl hne
    · exact ⟨hkey, Or.inl rfl, ⟨hkey, Or.inl ⟨rfl, rfl⟩⟩, hkey, Or.inr ⟨halt, rfl, rfl, hne⟩⟩
  · rcases hb with ⟨hkey, rfl⟩ | ⟨-, rfl⟩
    · exact ⟨hkey, Or.inr rfl, ⟨hkey, Or.inr ⟨halt, rfl, rfl, hne.symm⟩⟩, hkey, Or.inl ⟨rfl, rfl⟩⟩
    · exact absurd rfl hne

end ZigbeeSecurity

/-- A frame on its way: what was secured, under which counter, and the bytes that came out. -/
structure SecuredFrame where
  npdu : List UInt8
  headerLen : Nat
  frameCounter : UInt32
  bytes : List UInt8
deriving DecidableEq

/-- The two ends of the link: the sender's address, their buffers, and the keys both hold. -/
structure KeyedLink where
  srcIeee : UInt64
  outMax : UInt8
  rxMax : UInt8
  first : Block × UInt8
  second : Block × UInt8
  distinct : first.2 ≠ second.2

structure KeyedLink.World where
  sender : ZigbeeSecurity
  receiver : ZigbeeSecurity
  lastCounter : UInt32
  inFlight : List SecuredFrame
  delivered : List SecuredFrame

inductive KeyedLink.Action where
  | senderSwitch (keySequence : UInt8)
  | receiverSwitch (keySequence : UInt8)
  | secure (npdu : List UInt8) (headerLen : Nat) (frameCounter : UInt32)
  | lose (i : Nat)
  | deliver
  | redeliver (frame : SecuredFrame)

namespace KeyedLink

variable (link : KeyedLink) (ecb : BlockCipher)

def keys : Set (Block × UInt8) := {link.first, link.second}

def replayKey (p : Block × UInt8) : ReplayKey := (link.srcIeee, p.2)

/-- The receiver's answer to a frame. -/
def answer (w : World) (frame : SecuredFrame) : ZigbeeSecurity × Except OpenError Opened :=
  w.receiver.openNpdu ecb frame.bytes frame.headerLen link.rxMax

def step (w : World) : Action → World
  | .senderSwitch keySequence => { w with sender := (w.sender.switchKey keySequence).1 }
  | .receiverSwitch keySequence => { w with receiver := (w.receiver.switchKey keySequence).1 }
  | .secure npdu headerLen frameCounter =>
    let r := w.sender.secureNpdu ecb npdu headerLen link.srcIeee frameCounter link.outMax
    { w with
      sender := r.1
      lastCounter := frameCounter
      inFlight := w.inFlight ++ [⟨npdu, headerLen, frameCounter, r.2.bytes⟩] }
  | .lose i => { w with inFlight := w.inFlight.eraseIdx i }
  | .deliver =>
    match w.inFlight with
    | [] => w
    | frame :: rest =>
      { w with
        receiver := (link.answer ecb w frame).1
        inFlight := rest
        delivered := frame :: w.delivered }
  | .redeliver frame => { w with receiver := (link.answer ecb w frame).1 }

/-- A frame is secured with a counter above the last one, under a header length that covers the
frame-control word; only a frame that was delivered comes again. -/
def Enabled (w : World) : Action → Prop
  | .secure npdu headerLen frameCounter =>
    w.lastCounter < frameCounter ∧ npdu.length ≤ 237 ∧ npdu.length ≤ link.rxMax.toNat ∧
      nwkSecurityBit npdu = false ∧ 2 ≤ headerLen ∧
      (w.sender.secureNpdu ecb npdu headerLen link.srcIeee frameCounter link.outMax).2.len ≠ 0
  | .redeliver frame => frame ∈ w.delivered
  | _ => True

instance (w : World) (action : Action) : Decidable (link.Enabled ecb w action) := by
  cases action <;> simp only [Enabled] <;> infer_instance

/-- Both ends hold both keys, nothing is under way, and the receiver has room for both pairs and no
counter of theirs above the sender's last. -/
structure Initial (w : World) (S : Finset ReplayKey) : Prop where
  sender : w.sender.held = link.keys
  receiver : w.receiver.held = link.keys
  within : w.receiver.replay.Within S
  room : S.card ≤ kMaxReplayPeers
  first : link.replayKey link.first ∈ S
  second : link.replayKey link.second ∈ S
  behind : ∀ p ∈ link.keys, ∀ v, w.receiver.replay.mark (link.replayKey p) = some v →
    v ≤ w.lastCounter.toNat
  inFlight : w.inFlight = []
  delivered : w.delivered = []

/-! ## One frame -/

/-- The frame was secured under `p`, within the bounds the receiver needs. -/
structure Under (p : Block × UInt8) (frame : SecuredFrame) : Prop where
  bytes : frame.bytes = securedBytes ecb p.1 p.2 frame.npdu frame.headerLen link.srcIeee
    frame.frameCounter
  two : 2 ≤ frame.headerLen
  header : frame.headerLen ≤ frame.npdu.length
  aad : frame.headerLen + kAuxLen ≤ kMaxAad
  total : frame.npdu.length + kAuxLen + kMicLen ≤ 255
  fits : frame.npdu.length ≤ link.rxMax.toNat
  clear : nwkSecurityBit frame.npdu = false

variable {link} {ecb} {w : World} {frame : SecuredFrame} {p : Block × UInt8}

theorem Under.authenticate (h : link.Under ecb p frame) (hkeys : w.receiver.held = link.keys)
    (hp : p ∈ link.keys) :
    w.receiver.authenticate ecb frame.bytes frame.headerLen link.rxMax =
      .ok ⟨frame.npdu, link.srcIeee, p.2, frame.frameCounter⟩ := by
  obtain ⟨-, -, hfirst, hsecond⟩ := holds_of_held link.distinct hkeys
  have hholds : w.receiver.Holds p.1 p.2 := by
    rcases hp with rfl | rfl
    · exact hfirst
    · exact hsecond
  rw [h.bytes]
  exact authenticate_secured hholds.1 hholds.selectKey h.two h.header h.aad h.total h.fits h.clear

/-- A frame under a key of the link is accepted, with its content, exactly when its counter is
fresh. -/
theorem Under.answer (h : link.Under ecb p frame) (hkeys : w.receiver.held = link.keys)
    (hp : p ∈ link.keys) :
    (HighWater.Fresh w.receiver.replay.mark (link.replayKey p) frame.frameCounter.toNat ∧
      (link.answer ecb w frame).2 = .ok ⟨frame.npdu, link.srcIeee⟩ ∧
      (link.answer ecb w frame).1.replay =
        w.receiver.replay.store (link.replayKey p) frame.frameCounter) ∨
    (¬ HighWater.Fresh w.receiver.replay.mark (link.replayKey p) frame.frameCounter.toNat ∧
      ((link.answer ecb w frame).2 = .error .duplicate ∨
        (link.answer ecb w frame).2 = .error .stale) ∧
      (link.answer ecb w frame).1.replay = w.receiver.replay) :=
  openNpdu_authentic (h.authenticate hkeys hp)

theorem held_answer (w : World) (frame : SecuredFrame) :
    (link.answer ecb w frame).1.held = w.receiver.held := by
  obtain ⟨replay, stats, h⟩ : ∃ replay stats, (link.answer ecb w frame).1 =
    { w.receiver with replay := replay, stats := stats } := openNpdu_keeps _ _ _
  rw [h]
  rfl

theorem secure_under {npdu : List UInt8} {headerLen : Nat} {frameCounter : UInt32}
    (hkeys : w.sender.held = link.keys)
    (h : link.Enabled ecb w (.secure npdu headerLen frameCounter)) :
    ∃ p ∈ link.keys,
      link.Under ecb p ⟨npdu, headerLen, frameCounter, (w.sender.secureNpdu ecb npdu headerLen
        link.srcIeee frameCounter link.outMax).2.bytes⟩ ∧
      (w.sender.secureNpdu ecb npdu headerLen link.srcIeee frameCounter link.outMax).1.held =
        w.sender.held := by
  obtain ⟨-, hlen, hfits, hclear, htwo, hsecured⟩ := h
  have htotal : npdu.length + kAuxLen + kMicLen ≤ 255 := by
    simp only [kAuxLen, kMicLen]
    omega
  obtain ⟨hkey, hbounds⟩ := secureNpdu_fits htotal hsecured
  obtain ⟨-, hactive, -⟩ := holds_of_held link.distinct hkeys
  rw [secureNpdu_eq hkey hbounds, Built.exact_bytes]
  exact ⟨(w.sender.key, w.sender.keySequence), hactive,
    ⟨rfl, htwo, hbounds.header, hbounds.aad, htotal, hfits, hclear⟩, rfl⟩

/-! ## The invariant -/

/-- Frames in flight are under the link's keys, in the order of their counters, and above every mark
of the receiver; delivered ones are at or below the mark of their key. -/
structure Inv (link : KeyedLink) (ecb : BlockCipher) (S : Finset ReplayKey) (w : World) : Prop where
  sender : w.sender.held = link.keys
  receiver : w.receiver.held = link.keys
  within : w.receiver.replay.Within S
  behind : ∀ p ∈ link.keys, ∀ v, w.receiver.replay.mark (link.replayKey p) = some v →
    v ≤ w.lastCounter.toNat
  under : ∀ frame ∈ w.inFlight, ∃ p ∈ link.keys, link.Under ecb p frame
  sent : ∀ frame ∈ w.inFlight, frame.frameCounter ≤ w.lastCounter
  order : w.inFlight.Pairwise fun a b => a.frameCounter < b.frameCounter
  ahead : ∀ frame ∈ w.inFlight, ∀ p ∈ link.keys,
    HighWater.Fresh w.receiver.replay.mark (link.replayKey p) frame.frameCounter.toNat
  delivered : ∀ frame ∈ w.delivered, ∃ p ∈ link.keys, link.Under ecb p frame ∧
    ¬ HighWater.Fresh w.receiver.replay.mark (link.replayKey p) frame.frameCounter.toNat

variable {S : Finset ReplayKey}

theorem Initial.inv (h : link.Initial w S) : Inv link ecb S w := by
  refine ⟨h.sender, h.receiver, h.within, h.behind, ?_, ?_, ?_, ?_, ?_⟩ <;>
    simp [h.inFlight, h.delivered]

theorem Inv.secure (hinv : Inv link ecb S w) {npdu : List UInt8} {headerLen : Nat}
    {frameCounter : UInt32} (h : link.Enabled ecb w (.secure npdu headerLen frameCounter)) :
    Inv link ecb S (link.step ecb w (.secure npdu headerLen frameCounter)) := by
  obtain ⟨p, hp, hunder, hheld⟩ := secure_under hinv.sender h
  have hlast : w.lastCounter < frameCounter := h.1
  have hlast' := UInt32.lt_iff_toNat_lt.mp hlast
  refine ⟨hheld.trans hinv.sender, hinv.receiver, hinv.within, ?_, ?_, ?_, ?_, ?_, hinv.delivered⟩
  · intro q hq v hv
    exact le_trans (hinv.behind q hq v hv) (le_of_lt hlast')
  · intro frame hframe
    rcases List.mem_append.mp hframe with hold | hnew
    · exact hinv.under frame hold
    · rw [List.mem_singleton.mp hnew]
      exact ⟨p, hp, hunder⟩
  · intro frame hframe
    rcases List.mem_append.mp hframe with hold | hnew
    · exact UInt32.le_trans (hinv.sent frame hold) (UInt32.le_of_lt hlast)
    · rw [List.mem_singleton.mp hnew]
      exact UInt32.le_refl _
  · refine List.pairwise_append.mpr ⟨hinv.order, List.pairwise_singleton _ _, ?_⟩
    intro a ha b hb
    rw [List.mem_singleton.mp hb]
    exact UInt32.lt_of_le_of_lt (hinv.sent a ha) hlast
  · intro frame hframe q hq
    rcases List.mem_append.mp hframe with hold | hnew
    · exact hinv.ahead frame hold q hq
    · rw [List.mem_singleton.mp hnew]
      intro v hv
      exact lt_of_le_of_lt (hinv.behind q hq v hv) hlast'

theorem Inv.lose (hinv : Inv link ecb S w) (i : Nat) :
    Inv link ecb S (link.step ecb w (.lose i)) := by
  have hsub : (w.inFlight.eraseIdx i).Sublist w.inFlight := List.eraseIdx_sublist _ _
  exact ⟨hinv.sender, hinv.receiver, hinv.within, hinv.behind,
    fun frame hframe => hinv.under frame (hsub.subset hframe),
    fun frame hframe => hinv.sent frame (hsub.subset hframe), hinv.order.sublist hsub,
    fun frame hframe => hinv.ahead frame (hsub.subset hframe), hinv.delivered⟩

/-- The head of the queue is accepted with its content, and raises the mark of its key only. -/
theorem Inv.head (hinv : Inv link ecb S w) (hcard : S.card ≤ kMaxReplayPeers)
    (hS : ∀ p ∈ link.keys, link.replayKey p ∈ S) {rest : List SecuredFrame}
    (hhead : w.inFlight = frame :: rest) :
    (link.answer ecb w frame).2 = .ok ⟨frame.npdu, link.srcIeee⟩ ∧
    ∃ p ∈ link.keys, link.Under ecb p frame ∧
      (link.answer ecb w frame).1.replay.Within S ∧
      (link.answer ecb w frame).1.replay.mark = HighWater.raise w.receiver.replay.mark
        (link.replayKey p) frame.frameCounter.toNat := by
  have hmem : frame ∈ w.inFlight := hhead ▸ List.mem_cons_self
  obtain ⟨p, hp, hunder⟩ := hinv.under frame hmem
  rcases hunder.answer hinv.receiver hp with ⟨-, hok, hstore⟩ | ⟨hstale, -⟩
  · obtain ⟨hwithin, hmark⟩ := hinv.within.store hcard (hS p hp) frame.frameCounter
    exact ⟨hok, p, hp, hunder, hstore ▸ hwithin, hstore ▸ hmark⟩
  · exact absurd (hinv.ahead frame hmem p hp) hstale

theorem Inv.deliver (hinv : Inv link ecb S w) (hcard : S.card ≤ kMaxReplayPeers)
    (hS : ∀ p ∈ link.keys, link.replayKey p ∈ S) :
    Inv link ecb S (link.step ecb w .deliver) := by
  cases hqueue : w.inFlight with
  | nil =>
    simp only [step, hqueue]
    exact hinv
  | cons frame rest =>
    obtain ⟨-, p, hp, hunder, hwithin, hmark⟩ := hinv.head hcard hS hqueue
    have hmem : frame ∈ w.inFlight := hqueue ▸ List.mem_cons_self
    have hrest : ∀ later ∈ rest, later ∈ w.inFlight := fun later hlater =>
      hqueue ▸ List.mem_cons_of_mem _ hlater
    obtain ⟨hnext, horder⟩ := List.pairwise_cons.mp (hqueue ▸ hinv.order)
    simp only [step, hqueue]
    refine ⟨hinv.sender, (held_answer w frame).trans hinv.receiver, hwithin, ?_,
      fun later hlater => hinv.under later (hrest later hlater),
      fun later hlater => hinv.sent later (hrest later hlater), horder, ?_, ?_⟩
    · intro q hq v hv
      rw [hmark] at hv
      by_cases hsame : link.replayKey q = link.replayKey p
      · rw [hsame, HighWater.raise, Function.update_self, Option.some.injEq] at hv
        exact hv ▸ UInt32.le_iff_toNat_le.mp (hinv.sent frame hmem)
      · rw [HighWater.raise, Function.update_of_ne hsame] at hv
        exact hinv.behind q hq v hv
    · intro later hlater q hq
      rw [hmark]
      by_cases hsame : link.replayKey q = link.replayKey p
      · rw [hsame, HighWater.fresh_raise_self]
        exact UInt32.lt_iff_toNat_lt.mp (hnext later hlater)
      · rw [HighWater.fresh_raise_other hsame]
        exact hinv.ahead later (hrest later hlater) q hq
    · intro old hold
      rcases List.mem_cons.mp hold with rfl | hold
      · refine ⟨p, hp, hunder, ?_⟩
        rw [hmark, HighWater.fresh_raise_self]
        exact lt_irrefl _
      · obtain ⟨q, hq, hunderq, hstale⟩ := hinv.delivered old hold
        refine ⟨q, hq, hunderq, ?_⟩
        rw [hmark]
        exact HighWater.not_fresh_raise hstale (hinv.ahead frame hmem p hp)

/-- A second copy is rejected and leaves the replay table alone. -/
theorem Inv.again (hinv : Inv link ecb S w) (hframe : frame ∈ w.delivered) :
    ((link.answer ecb w frame).2 = .error .duplicate ∨
      (link.answer ecb w frame).2 = .error .stale) ∧
    (link.answer ecb w frame).1.replay = w.receiver.replay := by
  obtain ⟨p, hp, hunder, hstale⟩ := hinv.delivered frame hframe
  rcases hunder.answer hinv.receiver hp with ⟨hfresh, -⟩ | ⟨-, herror, hsame⟩
  · exact absurd hfresh hstale
  · exact ⟨herror, hsame⟩

theorem Inv.redeliver (hinv : Inv link ecb S w) (hframe : frame ∈ w.delivered) :
    Inv link ecb S (link.step ecb w (.redeliver frame)) := by
  obtain ⟨-, hsame⟩ := hinv.again hframe
  have hreceiver : (link.answer ecb w frame).1.held = link.keys :=
    (held_answer w frame).trans hinv.receiver
  exact ⟨hinv.sender, hreceiver, hsame.symm ▸ hinv.within, hsame.symm ▸ hinv.behind, hinv.under,
    hinv.sent, hinv.order, hsame.symm ▸ hinv.ahead, hsame.symm ▸ hinv.delivered⟩

theorem Inv.step (hinv : Inv link ecb S w) (hcard : S.card ≤ kMaxReplayPeers)
    (hS : ∀ p ∈ link.keys, link.replayKey p ∈ S) (action : Action)
    (h : link.Enabled ecb w action) : Inv link ecb S (link.step ecb w action) := by
  cases action with
  | senderSwitch keySequence =>
    exact ⟨(held_switchKey _ _).trans hinv.sender, hinv.receiver, hinv.within, hinv.behind,
      hinv.under, hinv.sent, hinv.order, hinv.ahead, hinv.delivered⟩
  | receiverSwitch keySequence =>
    have hreplay : (w.receiver.switchKey keySequence).1.replay = w.receiver.replay := by
      simp only [switchKey]
      split
      · rfl
      split <;> rfl
    exact ⟨hinv.sender, (held_switchKey _ _).trans hinv.receiver, hreplay.symm ▸ hinv.within,
      hreplay.symm ▸ hinv.behind, hinv.under, hinv.sent, hinv.order, hreplay.symm ▸ hinv.ahead,
      hreplay.symm ▸ hinv.delivered⟩
  | secure npdu headerLen frameCounter => exact hinv.secure h
  | lose i => exact hinv.lose i
  | deliver => exact hinv.deliver hcard hS
  | redeliver frame => exact hinv.redeliver h

/-- Wherever a run has led: the next frame to arrive is accepted with its original content, every
frame that was delivered is rejected when it comes again, and each node holds the keys it held. -/
theorem rotation_loses_nothing (hinit : link.Initial w S) {actions : List Action}
    (hrun : Runs.Along (link.step ecb) (link.Enabled ecb) w actions) :
    let now := actions.foldl (link.step ecb) w
    (∀ frame rest, now.inFlight = frame :: rest →
      (link.answer ecb now frame).2 = .ok ⟨frame.npdu, link.srcIeee⟩) ∧
    (∀ frame ∈ now.delivered, (link.answer ecb now frame).2 = .error .duplicate ∨
      (link.answer ecb now frame).2 = .error .stale) ∧
    now.sender.held = w.sender.held ∧ now.receiver.held = w.receiver.held := by
  have hS : ∀ p ∈ link.keys, link.replayKey p ∈ S := by
    rintro p (rfl | rfl)
    · exact hinit.first
    · exact hinit.second
  have hinv : Inv link ecb S (actions.foldl (link.step ecb) w) :=
    hrun.invariant (I := Inv link ecb S)
      (fun w action hinv h => hinv.step hinit.room hS action h) hinit.inv
  exact ⟨fun frame rest hhead => (hinv.head hinit.room hS hhead).1,
    fun frame hframe => (hinv.again hframe).1, hinv.sender.trans hinit.sender.symm,
    hinv.receiver.trans hinit.receiver.symm⟩

private def crossed : KeyedLink :=
  ⟨0x1122, 134, 140, (Block.ofList [0xA1], 1), (Block.ofList [0xB2], 2), by decide⟩

private def crossedNode (a b : Block × UInt8) : ZigbeeSecurity :=
  (init.setNetworkKey a.1 a.2).setAlternateKey b.1 b.2

private theorem crossedNode_held (a b : Block × UInt8) : (crossedNode a b).held = {a, b} := by
  ext p
  simp [held, crossedNode, setNetworkKey, setAlternateKey]

private def crossedWorld : World :=
  ⟨crossedNode crossed.first crossed.second, crossedNode crossed.second crossed.first, 0, [], []⟩

private theorem crossed_initial : crossed.Initial crossedWorld {(0x1122, 1), (0x1122, 2)} where
  sender := crossedNode_held _ _
  receiver := (crossedNode_held _ _).trans (Set.pair_comm _ _)
  within := ReplayTable.reset_within _
  room := by decide
  first := by decide
  second := by decide
  behind := fun _ _ _ hv => nomatch hv
  inFlight := rfl
  delivered := rfl

private def crossedRun : List Action :=
  [.secure [0x08, 0, 2, 0, 1, 0, 30, 1, 0xAA] 8 1, .senderSwitch 2,
    .secure [0x08, 0, 2, 0, 1, 0, 30, 2, 0xBB] 8 2, .deliver, .receiverSwitch 1,
    .secure [0x08, 0, 2, 0, 1, 0, 30, 3, 0xCC] 8 3]

/-- Both ends switch, in opposite directions, with frames under way. -/
theorem rotation_loses_nothing_crossed :
    let now := crossedRun.foldl (crossed.step Aes128.encrypt) crossedWorld
    (∀ frame rest, now.inFlight = frame :: rest →
      (crossed.answer Aes128.encrypt now frame).2 = .ok ⟨frame.npdu, crossed.srcIeee⟩) ∧
    (∀ frame ∈ now.delivered,
      (crossed.answer Aes128.encrypt now frame).2 = .error .duplicate ∨
      (crossed.answer Aes128.encrypt now frame).2 = .error .stale) ∧
    now.sender.held = crossedWorld.sender.held ∧ now.receiver.held = crossedWorld.receiver.held :=
  rotation_loses_nothing crossed_initial (by decide)

end KeyedLink

end NiusZigbee
