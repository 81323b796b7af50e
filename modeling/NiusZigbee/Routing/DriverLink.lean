import NiusZigbee.Routing.DataPlane

/-!
# The nodes over the driver

A node sends a frame exactly when the driver of its radio hands one to the module, and a driver with
the key gives the receiver the NPDU that the node put into the air.
-/

namespace NiusZigbee.DataPlane

open ByteCodec OutBuffer ZigbeeNwk ZigbeeMac ZigbeeSecurity
open CC2530Radio (Addresses NwkTx)

variable {ecb : BlockCipher} {r rx : CC2530Radio} {node : Node} {a : Addresses} {tx : NwkTx}
  {s t : ZigbeeSecurity}

/-- The radio of a node: it has a key when the node says so, and the node's next sequence
number. -/
structure Drives (r : CC2530Radio) (node : Node) : Prop where
  keyed : r.keyed = node.keyed
  sequence : r.nwkSequence = node.nwkSequence

theorem prepare_keyed : (tx.prepare a r).1.keyed = r.keyed := by
  obtain ⟨_, _, _, _, hsame⟩ := NwkTx.prepare_sequences (a := a) (r := r) tx
  rw [hsame]
  rfl

variable (ecb a tx)

/-- What a node sends is what its driver sends. -/
theorem transmit_run (hkeyed : r.keyed = node.keyed) (ackRequest : Bool) :
    node.transmit a.macDstShort (tx.prepare a r).2 =
      (tx.run ecb a ackRequest r).2.map fun _ => ⟨a.macDstShort, (tx.prepare a r).2.bytes⟩ := by
  by_cases hzero : (tx.prepare a r).2.len = 0
  · simp [Node.transmit, NwkTx.run_eq, CC2530Radio.sendSecured, hzero]
  have hsends := CC2530Radio.sendSecured_isSome (r := (tx.prepare a r).1) (a := a) ecb
    (NwkTx.prepare_length hzero) ackRequest
  rw [prepare_keyed, hkeyed] at hsends
  rw [NwkTx.run_eq, Node.transmit, if_neg hzero, Node.radioSend]
  cases hsent : ((tx.prepare a r).1.sendSecured ecb a (tx.prepare a r).2 ackRequest).2 with
  | none =>
    rw [hsent] at hsends
    simp only [Option.isSome_none, Bool.false_eq_true, false_iff, not_and] at hsends
    rw [if_neg (hsends hzero)]
    rfl
  | some psdu =>
    rw [hsent] at hsends
    rw [if_pos (hsends.mp rfl).2]
    rfl

theorem sendSecured_keyed (npdu : Built) (ackRequest : Bool) :
    (r.sendSecured ecb a npdu ackRequest).1.keyed = r.keyed ∧
      (r.sendSecured ecb a npdu ackRequest).1.nwkSequence = r.nwkSequence := by
  by_cases hzero : npdu.len = 0
  · simp [CC2530Radio.sendSecured, hzero]
  have hsecured : (r.applyTxSecurity ecb npdu.bytes CC2530Radio.kSecuredMax).1.keyed = r.keyed ∧
      (r.applyTxSecurity ecb npdu.bytes CC2530Radio.kSecuredMax).1.nwkSequence =
        r.nwkSequence := by
    by_cases hunsecured : r.Unsecured
    · rw [CC2530Radio.applyTxSecurity_unsecured hunsecured]
      exact ⟨rfl, rfl⟩
    · obtain ⟨s, hsec, hkey⟩ := CC2530Radio.keyed_of_not_unsecured hunsecured
      obtain ⟨stats, hstats⟩ := CC2530Radio.applyTxSecurity_keyed ecb hsec hkey npdu.bytes
        CC2530Radio.kSecuredMax
      rw [hstats]
      simp [CC2530Radio.keyed, hsec, hkey]
  simp only [CC2530Radio.sendSecured, if_neg hzero]
  generalize r.applyTxSecurity ecb npdu.bytes CC2530Radio.kSecuredMax = answer at hsecured
  obtain ⟨r', result⟩ := answer
  cases result <;> exact hsecured

theorem run_drives (ackRequest : Bool) :
    (tx.run ecb a ackRequest r).1.keyed = r.keyed ∧
      (tx.run ecb a ackRequest r).1.nwkSequence = (tx.prepare a r).1.nwkSequence := by
  rw [NwkTx.run_eq]
  obtain ⟨hkeyed, hsequence⟩ :=
    sendSecured_keyed (r := (tx.prepare a r).1) ecb a (tx.prepare a r).2 ackRequest
  exact ⟨hkeyed.trans prepare_keyed, hsequence⟩

/-! ## The sending functions of a node -/

variable {ecb a tx}

theorem sendNwkData_drives (h : Drives r node) (payload : List UInt8) (radius : UInt8)
    (ackRequest : Bool) :
    let sent := NwkTx.run ecb a ackRequest r (.data payload radius)
    let result := node.sendNwkData a.macDstShort a.nwkDstShort a.nwkSrcShort payload radius
    Drives sent.1 result.1 ∧ result.2 = sent.2.map fun _ => ⟨a.macDstShort,
      (NwkTx.prepare a r (.data payload radius)).2.bytes⟩ := by
  intro sent result
  obtain ⟨hkeyed, hsequence⟩ := run_drives (r := r) ecb a (.data payload radius)
    ackRequest
  refine ⟨⟨hkeyed.trans h.keyed, hsequence.trans (congrArg (· + 1) h.sequence)⟩, ?_⟩
  rw [← transmit_run ecb a _ h.keyed]
  simp only [result, Node.sendNwkData, NwkTx.prepare, h.sequence]

theorem sendNwkCommand_drives (h : Drives r node) (commandId : UInt8) (payload : List UInt8)
    (ackRequest : Bool) :
    let sent := NwkTx.run ecb a ackRequest r (.command commandId payload kDefaultRadius)
    let result := node.sendNwkCommand a.macDstShort a.nwkDstShort a.nwkSrcShort commandId payload
    Drives sent.1 result.1 ∧ result.2 = sent.2.map fun _ => ⟨a.macDstShort,
      (NwkTx.prepare a r (.command commandId payload kDefaultRadius)).2.bytes⟩ := by
  intro sent result
  obtain ⟨hkeyed, hsequence⟩ := run_drives (r := r) ecb a
    (.command commandId payload kDefaultRadius) ackRequest
  refine ⟨⟨hkeyed.trans h.keyed, hsequence.trans (congrArg (· + 1) h.sequence)⟩, ?_⟩
  rw [← transmit_run ecb a _ h.keyed]
  simp only [result, Node.sendNwkCommand, NwkTx.prepare, h.sequence]

theorem sendSourceRouted_drives (h : Drives r node) (payload : List UInt8) (ackRequest : Bool)
    {first : UInt16} {rest : List UInt16} (hrelays : node.srRelays = first :: rest)
    (hready : (node.sourceRouting && node.joined && node.role == .coordinator) = true)
    (hdst : a.nwkDstShort = node.srDst) (hsrc : a.nwkSrcShort = node.shortAddress)
    (hmac : a.macDstShort = first) :
    let tx : NwkTx := .sourceRouted node.srRelays 0 payload kDefaultRadius node.srSeq
    let sent := tx.run ecb a ackRequest r
    let result := node.sendSourceRouted payload
    Drives sent.1 result.1 ∧
      result.2 = sent.2.map fun _ => ⟨first, (tx.prepare a r).2.bytes⟩ := by
  intro tx sent result
  have hresult : result = ({ node with srSeq := node.srSeq + 1 },
      node.transmit a.macDstShort (tx.prepare a r).2) := by
    simp only [result, Node.sendSourceRouted, hrelays, hready, if_true, tx, NwkTx.prepare, hdst,
      hsrc, hmac]
  obtain ⟨hkeyed, hsequence⟩ := run_drives (r := r) ecb a tx ackRequest
  rw [hresult, transmit_run ecb a tx h.keyed ackRequest, hmac]
  exact ⟨⟨hkeyed.trans h.keyed, hsequence.trans h.sequence⟩, rfl⟩

/-- A relay rebuilds the frame with its own index and sends it like any other. -/
theorem relay_drives (hkeyed : r.keyed = node.keyed) {npdu : List UInt8} {next : InFlight}
    {self panId : UInt16} (ackRequest : Bool)
    (h : hop Node.relayPolicy ⟨self, npdu⟩ = some (.forwarded next)) :
    ∃ frame relays relayIndex, parseDataFrame npdu = some (true, frame) ∧
      node.radioSend next.node next.npdu =
        (NwkTx.run ecb ⟨panId, next.node, self, frame.dstShort, frame.srcShort⟩ ackRequest r
          (.sourceRouted relays relayIndex (frame.payloadBytes npdu)
            (Node.relayPolicy.nextRadius frame.radius) frame.sequence)).2.map fun _ =>
          ⟨next.node, next.npdu⟩ := by
  simp only [hop, Option.bind_eq_bind, Option.bind_eq_some_iff] at h
  obtain ⟨⟨ok, frame⟩, hparse, h⟩ := h
  cases ok with
  | false => simp at h
  | true =>
    simp only [Bool.not_true, Bool.false_eq_true, if_false, Option.bind_eq_some_iff] at h
    obtain ⟨action, -, h⟩ := h
    cases action with
    | drop => simp at h
    | deliver => simp at h
    | relay nextHop outRelayIndex =>
      simp only [Option.bind_eq_some_iff] at h
      obtain ⟨relays, -, h⟩ := h
      split at h
      · simp at h
      · next hlen =>
        simp only [Option.pure_def, Option.some.injEq, HopResult.forwarded.injEq] at h
        subst h
        refine ⟨frame, relays, outRelayIndex, hparse, ?_⟩
        exact (if_neg hlen).symm.trans (transmit_run ecb
          ⟨panId, nextHop, self, frame.dstShort, frame.srcShort⟩
          (.sourceRouted relays outRelayIndex (frame.payloadBytes npdu)
            (Node.relayPolicy.nextRadius frame.radius) frame.sequence) hkeyed ackRequest)

/-! ## The receiving end -/

/-- A driver that has the sender's key and has not seen the counter opens what was sent as the NPDU
that was built. -/
theorem sent_opened (hrelays : tx.RelaysFit) (hsec : r.security = some s)
    (hkey : s.hasKey = true) (ackRequest : Bool) {psdu : List UInt8}
    (hsent : (tx.run ecb a ackRequest r).2 = some psdu) (hrx : rx.security = some t)
    (hrxKey : t.hasKey = true) (hsel : t.selectKey s.keySequence = some s.key)
    (hpromisc : rx.promiscuous = false)
    (hfresh : HighWater.Fresh t.replay.mark (r.securityIeee, s.keySequence)
      (r.securityCounter + 1).toNat) :
    ∃ secured panId dst src sequence ack rx',
      psdu = shortDataBytes panId dst src sequence ack secured ∧
      rx.openReceived ecb secured = (rx', some (tx.prepare a r).2.bytes) := by
  rw [NwkTx.run_eq] at hsent
  have hzero : (tx.prepare a r).2.len ≠ 0 := by
    intro hzero
    rw [CC2530Radio.sendSecured, if_pos hzero] at hsent
    cases hsent
  obtain ⟨_, _, _, _, hsame⟩ := NwkTx.prepare_sequences (a := a) (r := r) tx
  have hsec' : (tx.prepare a r).1.security = some s := by rw [hsame, hsec]
  rcases CC2530Radio.sendSecured_keyed (a := a) ecb hsec' hkey (NwkTx.prepare_length hzero)
    ackRequest with ⟨hnone, -⟩ | ⟨-, -, hpsdu⟩
  · exact absurd hnone hzero
  · obtain ⟨hfits, panId, dst, src, sequence, ack, -, rfl⟩ := hpsdu psdu hsent
    have hcounter : (tx.prepare a r).1.securityIeee = r.securityIeee ∧
        (tx.prepare a r).1.securityCounter = r.securityCounter := by rw [hsame]; exact ⟨rfl, rfl⟩
    rw [hcounter.1, hcounter.2]
    rcases CC2530Radio.openReceived_unprotected ecb r.securityIeee
      (r.securityCounter + 1) (NwkTx.prepare_unprotected hrelays hzero) hfits hrx hrxKey hsel
      hpromisc with ⟨-, stats, hopen⟩ | ⟨hstale, -⟩
    · exact ⟨_, panId, dst, src, sequence, ack, _, rfl, hopen⟩
    · exact absurd hfresh hstale

end NiusZigbee.DataPlane
