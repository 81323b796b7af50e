import NiusZigbee.Routing.SourceRouteTable

/-!
# A source-routed frame on its way

The concentrator stores a device's Route Record, originates a source-routed frame from it, and
every node that receives the frame acts on it and, as a relay, rebuilds it with the index it was
handed. Radius and discover-route bits of the rebuilt frame are the relay's choice.
-/

namespace NiusZigbee

open ByteCodec OutBuffer ZigbeeNwk

/-- The relays of a parsed Route Record, as many as `max` slots take. -/
def extractRelays (payload : List UInt8) (command : NwkRouteRecordCommand) (max : Nat) :
    Option (List UInt16) :=
  (List.range (min command.relayCount.toNat max)).mapM fun i =>
    (getRouteRecordRelay payload command i.toUInt8).join

/-- Parse a Route Record from `destAddr` and store its path. -/
def storeRouteRecord (entries : List SourceRouteEntry) (destAddr : UInt16) (payload : List UInt8)
    (nowMs : UInt32) : Option (Bool × List SourceRouteEntry) := do
  let (ok, command) ← parseRouteRecordPayload payload
  if !ok then return (false, entries)
  else
    let relays ← extractRelays payload command ZigbeeSourceRouteTable.kMaxRelays
    return ZigbeeSourceRouteTable.install entries destAddr relays nowMs

/-- A frame sent to `node`. -/
structure InFlight where
  node : UInt16
  npdu : List UInt8
deriving DecidableEq

inductive HopResult where
  | delivered (frame : NwkDataFrame) (payload : List UInt8)
  | forwarded (next : InFlight)
  | dropped
deriving DecidableEq

/-- A relay's choices for the frame it sends on. -/
structure RelayPolicy where
  outMax : UInt8
  nextRadius : UInt8 → UInt8
  discoverRoute : UInt8

variable (policy : RelayPolicy)

/-- The relay list of a parsed data frame, read entry by entry. -/
def frameRelays (npdu : List UInt8) (frame : NwkDataFrame) : Option (List UInt16) :=
  (List.range (min frame.srRelayCount.toNat ZigbeeSourceRouteTable.kMaxRelays)).mapM fun i =>
    (getDataFrameRelay npdu frame i.toUInt8).join

/-- The frame leaves the concentrator for the first relay, or for the device itself. -/
def originate (dst src : UInt16) (radius sequence : UInt8) (relays : List UInt16)
    (payload : List UInt8) : Option InFlight :=
  let out := buildDataFrameSourceRouted policy.outMax dst src radius sequence relays 0 payload
    policy.discoverRoute
  if out.len = 0 then none else some ⟨relays.headD dst, out.bytes⟩

/-- What the node a frame was sent to does with it. -/
def hop (f : InFlight) : Option HopResult := do
  let (ok, frame) ← parseDataFrame f.npdu
  if !ok then return .dropped
  else
    match ← sourceRouteAction f.npdu frame f.node with
    | .drop => return .dropped
    | .deliver => return .delivered frame (frame.payloadBytes f.npdu)
    | .relay nextHop outRelayIndex =>
      let relays ← frameRelays f.npdu frame
      let out := buildDataFrameSourceRouted policy.outMax frame.dstShort frame.srcShort
        (policy.nextRadius frame.radius) frame.sequence relays outRelayIndex
        (frame.payloadBytes f.npdu) policy.discoverRoute
      if out.len = 0 then return .dropped else return .forwarded ⟨nextHop, out.bytes⟩

/-- The frames a delivery took, first hop first, and what was delivered, within `fuel` hops. -/
def travel : Nat → InFlight → Option (List InFlight × NwkDataFrame × List UInt8)
  | 0, _ => none
  | fuel + 1, f =>
    match hop policy f with
    | some (.delivered frame payload) => some ([f], frame, payload)
    | some (.forwarded next) => (travel fuel next).map fun r => (f :: r.1, r.2)
    | _ => none

/-! ## Reading relay lists -/

section Relays

variable {relays : List UInt16} {payload : List UInt8}

private theorem mapM_range (f : Nat → Option UInt16)
    (h : ∀ i (hi : i < relays.length), f i = some relays[i]) :
    (List.range relays.length).mapM f = some relays := by
  induction relays using List.reverseRecOn with
  | nil => rfl
  | append_singleton relays relay ih =>
    have hinit : (List.range relays.length).mapM f = some relays := by
      apply ih
      intro i hi
      rw [h i (by simp; omega), List.getElem_append_left hi]
    have hlast := h relays.length (by simp)
    rw [List.getElem_append_right (Nat.le_refl _)] at hlast
    rw [List.length_append, List.length_singleton, List.range_succ, List.mapM_append, hinit]
    simp [hlast]

theorem extractRelays_record (hcount : relays.length ≤ ZigbeeSourceRouteTable.kMaxRelays) :
    extractRelays (routeRecordBytes relays)
      { valid := true, relayCount := relays.length.toUInt8, relayList := some 1 }
      ZigbeeSourceRouteTable.kMaxRelays = some relays := by
  simp only [ZigbeeSourceRouteTable.kMaxRelays] at hcount ⊢
  simp only [extractRelays, toNat_toUInt8 (by omega : relays.length < 256),
    Nat.min_eq_left hcount]
  apply mapM_range
  intro i hi
  have hnat : i.toUInt8.toNat = i := toNat_toUInt8 (by omega)
  have hrelay := getRouteRecordRelay_bytes (by omega : relays.length ≤ 127)
    (hnat.symm ▸ hi : i.toUInt8.toNat < relays.length)
  simp only [hnat] at hrelay
  rw [hrelay]
  rfl

/-- A Route Record that carries the path of a device puts it in the store. -/
theorem storeRouteRecord_build {entries : List SourceRouteEntry} (hslots : entries ≠ [])
    (destAddr : UInt16) (hcount : relays.length ≤ ZigbeeSourceRouteTable.kMaxRelays)
    (nowMs : UInt32) {rrMax outMax : UInt8} (hrr : 1 + relays.length * 2 ≤ rrMax.toNat)
    (hout : relays.length ≤ outMax.toNat) :
    ∃ entries', storeRouteRecord entries destAddr (buildRouteRecordPayload rrMax relays).bytes
        nowMs = some (true, entries') ∧
      ZigbeeSourceRouteTable.downstreamRoute entries' destAddr outMax = some relays.reverse := by
  have h127 : relays.length ≤ 127 := by
    simp only [ZigbeeSourceRouteTable.kMaxRelays] at hcount
    omega
  have hbuild := buildRouteRecordPayload_eq rrMax h127
  rw [if_neg (by rw [routeRecordBytes_length]; omega)] at hbuild
  obtain ⟨hok, hroute⟩ := ZigbeeSourceRouteTable.downstreamRoute_install hslots destAddr hcount
    nowMs hout
  refine ⟨_, ?_, hroute⟩
  rw [hbuild, Built.exact_bytes]
  simp only [storeRouteRecord, parseRouteRecordPayload_bytes h127, Option.bind_eq_bind,
    Option.bind_some, Bool.not_true, Bool.false_eq_true, if_false, extractRelays_record hcount,
    Option.pure_def]
  rw [← hok]

/-! ## One hop -/

/-- The bytes of a routed frame as the builder leaves them. -/
def routedNpdu (dst src : UInt16) (radius sequence discoverRoute : UInt8) (relays : List UInt16)
    (relayIndex : UInt8) (payload : List UInt8) : List UInt8 :=
  headerBytes (baseFcf nwkFrameData discoverRoute ||| ((1 : UInt16) <<< 10)) dst src radius
    sequence (routedBytes relays relayIndex payload)

variable {policy}

/-- The route and the payload fit a frame. -/
structure RelayPolicy.Admits (policy : RelayPolicy) (relays : List UInt16) (payload : List UInt8) :
    Prop where
  count : relays.length ≤ ZigbeeSourceRouteTable.kMaxRelays
  size : kBaseHeaderLen + (2 + relays.length * 2) + payload.length ≤ policy.outMax.toNat
  payload : payload.length ≤ kMaxPayload
  discover : policy.discoverRoute ≤ 3

theorem build_routed (h : policy.Admits relays payload) (dst src : UInt16)
    (radius sequence relayIndex : UInt8) :
    let out := buildDataFrameSourceRouted policy.outMax dst src radius sequence relays relayIndex
      payload policy.discoverRoute
    out.len ≠ 0 ∧ out.bytes =
      routedNpdu dst src radius sequence policy.discoverRoute relays relayIndex payload := by
  have hcount := h.count
  simp only [ZigbeeSourceRouteTable.kMaxRelays] at hcount
  dsimp only
  rw [buildDataFrameSourceRouted_eq dst src radius sequence relayIndex (by omega) h.size h.payload
    h.discover]
  refine ⟨?_, Built.exact_bytes _⟩
  simp only [Built.exact_len, headerBytes_length, kBaseHeaderLen]
  omega

variable (h : policy.Admits relays payload) {d src : UInt16} {radius sequence dr : UInt8} {k : Nat}

include h

theorem parse_routed (hdr : dr ≤ 3) (relayIndex : UInt8) :
    parseDataFrame (routedNpdu d src radius sequence dr relays relayIndex payload) =
      some (true, routedFrame d src radius sequence dr relays relayIndex payload) := by
  have hcount := h.count
  simp only [ZigbeeSourceRouteTable.kMaxRelays] at hcount
  exact parseDataFrame_routed d src radius sequence (by omega) h.payload hdr

theorem frameRelays_routed (relayIndex : UInt8) :
    frameRelays (routedNpdu d src radius sequence dr relays relayIndex payload)
      (routedFrame d src radius sequence dr relays relayIndex payload) = some relays := by
  have hcount := h.count
  simp only [ZigbeeSourceRouteTable.kMaxRelays] at hcount
  have hn : relays.length.toUInt8.toNat = relays.length := toNat_toUInt8 (by omega)
  simp only [frameRelays, routedFrame, hn, ZigbeeSourceRouteTable.kMaxRelays,
    Nat.min_eq_left hcount]
  apply mapM_range
  intro i hi
  have hnat : i.toUInt8.toNat = i := toNat_toUInt8 (by omega)
  have hrelay : getDataFrameRelay (routedNpdu d src radius sequence dr relays relayIndex payload)
      (routedFrame d src radius sequence dr relays relayIndex payload) i.toUInt8 = _ :=
    getDataFrameRelay_routed d src radius sequence dr _ (by omega : relays.length ≤ 122)
      (hnat.symm ▸ hi : i.toUInt8.toNat < relays.length)
  simp only [hnat] at hrelay
  exact congrArg Option.join hrelay

omit h in
private theorem read_relay (relayIndex : UInt8) {i : Nat} (hi : i < relays.length) :
    read16 (routedNpdu d src radius sequence dr relays relayIndex payload)
      (kBaseHeaderLen + 2 + i * 2) = some relays[i] := by
  rw [routedNpdu, Nat.add_assoc, read16_headerRest, routedBytes,
    show 2 + i * 2 = i * 2 + 1 + 1 by omega, read16_cons, read16_cons, read16_words _ _ hi]

theorem sourceRouteAction_routed (hk : k ≤ relays.length) (selfShort : UInt16) :
    sourceRouteAction (routedNpdu d src radius sequence dr relays k.toUInt8 payload)
      (routedFrame d src radius sequence dr relays k.toUInt8 payload) selfShort =
      some (if d = selfShort then .deliver
        else if relays[k]? = some selfShort then .relay (relays[k + 1]?.getD d) (k + 1).toUInt8
        else .drop) := by
  have hcount := h.count
  simp only [ZigbeeSourceRouteTable.kMaxRelays] at hcount
  have hnat {i : Nat} (hi : i ≤ 9) : i.toUInt8.toNat = i := toNat_toUInt8 (by omega)
  have hbelow {i : Nat} (hi : i ≤ 9) : i.toUInt8 < relays.length.toUInt8 ↔ i < relays.length := by
    rw [UInt8.lt_iff_toNat_lt, hnat hi, hnat (by omega)]
  have hnext : k.toUInt8 + 1 = (k + 1).toUInt8 := by
    apply UInt8.toNat_inj.mp
    rw [UInt8.toNat_add, hnat (by omega), hnat (by omega), UInt8.toNat_one]
    omega
  by_cases hd : d = selfShort
  · simp only [sourceRouteAction, routedFrame, hd, Bool.not_true, Bool.or_self, Bool.false_eq_true,
      if_false, if_true]
  by_cases hlt : k < relays.length
  · have hge : ¬ k.toUInt8 ≥ relays.length.toUInt8 :=
      UInt8.not_le.mpr ((hbelow (by omega)).mpr hlt)
    have hself : relays[k]? = some relays[k] := List.getElem?_eq_getElem hlt
    simp only [sourceRouteAction, routedFrame, Bool.not_true, Bool.or_self, Bool.false_eq_true,
      if_false, if_neg hd, if_neg hge, hnat (by omega : k ≤ 9), read_relay _ hlt,
      Option.bind_eq_bind, Option.bind_some, hself, Option.some.injEq, hnext]
    by_cases hexp : relays[k] = selfShort
    · simp only [hexp, ne_eq, not_true_eq_false, if_false, if_true]
      by_cases hlast : k + 1 < relays.length
      · rw [if_pos ((hbelow (by omega)).mpr hlast), hnat (by omega), read_relay _ hlast,
          List.getElem?_eq_getElem hlast]
        rfl
      · rw [if_neg (mt (hbelow (by omega)).mp hlast),
          List.getElem?_eq_none (Nat.not_lt.mp hlast)]
        rfl
    · simp only [ne_eq, hexp, not_false_eq_true, if_true, if_false]
      rfl
  · have hge : k.toUInt8 ≥ relays.length.toUInt8 :=
      UInt8.not_lt.mp (mt (hbelow (by omega)).mp hlt)
    have hnone : relays[k]? = none := List.getElem?_eq_none (Nat.not_lt.mp hlt)
    simp [sourceRouteAction, routedFrame, hd, hge, hnone]

omit h in
private theorem payload_routed (relayIndex : UInt8) :
    (routedFrame d src radius sequence dr relays relayIndex payload).payloadBytes
      (routedNpdu d src radius sequence dr relays relayIndex payload) = payload :=
  payloadBytes_routed d src radius sequence dr _

theorem hop_relay (hdr : dr ≤ 3) {relay : UInt16} (hrelay : relays[k]? = some relay)
    (hne : relay ≠ d) :
    hop policy ⟨relay, routedNpdu d src radius sequence dr relays k.toUInt8 payload⟩ =
      some (.forwarded ⟨relays[k + 1]?.getD d,
        routedNpdu d src (policy.nextRadius radius) sequence policy.discoverRoute relays
          (k + 1).toUInt8 payload⟩) := by
  obtain ⟨hk, -⟩ := List.getElem?_eq_some_iff.mp hrelay
  obtain ⟨hlen, hbytes⟩ := build_routed h d src (policy.nextRadius radius) sequence (k + 1).toUInt8
  simp only [hop, parse_routed h hdr, sourceRouteAction_routed h (Nat.le_of_lt hk),
    frameRelays_routed h, payload_routed, hrelay, hne.symm, if_false, if_true,
    Option.bind_eq_bind, Option.bind_some, Bool.not_true, Bool.false_eq_true, Option.pure_def,
    routedFrame_dstShort, routedFrame_srcShort, routedFrame_radius, routedFrame_sequence]
  rw [if_neg hlen, hbytes]

theorem hop_deliver (hdr : dr ≤ 3) (hk : k ≤ relays.length) :
    hop policy ⟨d, routedNpdu d src radius sequence dr relays k.toUInt8 payload⟩ =
      some (.delivered (routedFrame d src radius sequence dr relays k.toUInt8 payload)
        payload) := by
  simp only [hop, parse_routed h hdr, sourceRouteAction_routed h hk, payload_routed, if_true,
    Option.bind_eq_bind, Option.bind_some, Bool.not_true, Bool.false_eq_true, if_false,
    Option.pure_def]

/-! ## The whole way -/

/-- A frame at index `k` of the route: any node but the device and the relay named there drops
it. -/
def DropsOffPath (d : UInt16) (relays : List UInt16) (k : Nat) (f : InFlight) : Prop :=
  ∀ other, other ≠ d → relays[k]? ≠ some other →
    ∃ frame, parseDataFrame f.npdu = some (true, frame) ∧
      sourceRouteAction f.npdu frame other = some .drop

theorem dropsOffPath_routed (hdr : dr ≤ 3) (hk : k ≤ relays.length) (node : UInt16) :
    DropsOffPath d relays k
      ⟨node, routedNpdu d src radius sequence dr relays k.toUInt8 payload⟩ := by
  intro other hd hrelay
  refine ⟨_, parse_routed h hdr _, ?_⟩
  rw [sourceRouteAction_routed h hk, if_neg hd.symm, if_neg hrelay]

/-- From index `k` on, the frame takes the rest of the route and is delivered. -/
theorem travel_routed (hd : d ∉ relays) (hdr : dr ≤ 3) (n : Nat) (hn : k + n = relays.length) :
    ∃ hops frame,
      travel policy (n + 1)
        ⟨relays[k]?.getD d, routedNpdu d src radius sequence dr relays k.toUInt8 payload⟩ =
        some (hops, frame, payload) ∧
      hops.map InFlight.node = relays.drop k ++ [d] ∧
      frame.dstShort = d ∧ frame.srcShort = src ∧ frame.sequence = sequence ∧
      ∀ i (hi : i < hops.length), DropsOffPath d relays (k + i) hops[i] := by
  induction n generalizing k radius dr with
  | zero =>
    have hnone : relays[k]? = none := List.getElem?_eq_none (by omega)
    have hk : k ≤ relays.length := by omega
    refine ⟨_, _, by rw [hnone, travel, Option.getD_none, hop_deliver h hdr hk], ?_, rfl, rfl, rfl,
      ?_⟩
    · simp [List.drop_eq_nil_of_le (by omega : relays.length ≤ k)]
    · intro i hi
      obtain rfl : i = 0 := by simpa using hi
      exact dropsOffPath_routed h hdr hk d
  | succ n ih =>
    have hk : k < relays.length := by omega
    have hsome : relays[k]? = some relays[k] := List.getElem?_eq_getElem hk
    have hne : relays[k] ≠ d := fun heq => hd (heq ▸ List.getElem_mem hk)
    obtain ⟨hops, frame, htravel, hnodes, hdst, hsrc, hseq, hdrop⟩ :=
      @ih (policy.nextRadius radius) policy.discoverRoute (k + 1) h.discover (by omega)
    refine
      ⟨⟨relays[k], routedNpdu d src radius sequence dr relays k.toUInt8 payload⟩ :: hops, frame,
      ?_, ?_, hdst, hsrc, hseq, ?_⟩
    · rw [hsome, Option.getD_some, travel, hop_relay h hdr hsome hne]
      simp only [htravel, Option.map_some]
    · simp only [List.map_cons, hnodes]
      rw [List.drop_eq_getElem_cons hk, List.cons_append]
    · intro i hi
      cases i with
      | zero => exact dropsOffPath_routed h hdr (Nat.le_of_lt hk) relays[k]
      | succ i =>
        have hstep := hdrop i (by simpa using hi)
        rw [show k + (i + 1) = k + 1 + i by omega]
        exact hstep

end Relays

/-- The path a device recorded leads a frame back to it: over the recorded relays in reverse, one
hop each and one to the device, past nodes that would all drop it. -/
theorem source_route_delivers (policy : RelayPolicy) {entries : List SourceRouteEntry}
    (hslots : entries ≠ []) {d : UInt16} {relays : List UInt16} {payload : List UInt8}
    (hfit : policy.Admits relays payload) (hd : d ∉ relays) (src : UInt16)
    (radius sequence : UInt8) (nowMs : UInt32) {rrMax downMax : UInt8}
    (hrr : 1 + relays.length * 2 ≤ rrMax.toNat) (hdown : relays.length ≤ downMax.toNat) :
    ∃ entries' route start hops frame,
      storeRouteRecord entries d (buildRouteRecordPayload rrMax relays).bytes nowMs =
        some (true, entries') ∧
      ZigbeeSourceRouteTable.downstreamRoute entries' d downMax = some route ∧
      originate policy d src radius sequence route payload = some start ∧
      travel policy (relays.length + 1) start = some (hops, frame, payload) ∧
      hops.length = relays.length + 1 ∧
      hops.map InFlight.node = relays.reverse ++ [d] ∧
      frame.dstShort = d ∧ frame.srcShort = src ∧ frame.sequence = sequence ∧
      ∀ k (hk : k < hops.length), DropsOffPath d route k hops[k] := by
  have hrev : policy.Admits relays.reverse payload :=
    { count := by simpa using hfit.count
      size := by simpa using hfit.size
      payload := hfit.payload
      discover := hfit.discover }
  have hd' : d ∉ relays.reverse := by simpa using hd
  obtain ⟨entries', hstore, hroute⟩ := storeRouteRecord_build hslots d hfit.count nowMs hrr hdown
  obtain ⟨hlen, hbytes⟩ := build_routed hrev d src radius sequence 0
  obtain ⟨hops, frame, htravel, hnodes, hdst, hsrc, hseq, hdrop⟩ :=
    travel_routed hrev hd' hfit.discover relays.length (k := 0) (by simp) (d := d)
  refine ⟨entries', relays.reverse, _, hops, frame, hstore, hroute, ?_, htravel, ?_, ?_, hdst, hsrc,
    hseq, ?_⟩
  · rw [originate, if_neg hlen, hbytes, List.headD_eq_head?_getD, List.head?_eq_getElem?]
    rfl
  · simpa using congrArg List.length hnodes
  · simpa using hnodes
  · intro k hk
    simpa using hdrop k hk

/-- Two recorded relays and an empty store of three slots, as the sketches use them. -/
theorem source_route_delivers_two_relays :
    ∃ entries' route start hops frame,
      storeRouteRecord (ZigbeeSourceRouteTable.begin 3) 0x0031
        (buildRouteRecordPayload 16 [0x0009, 0x0002]).bytes 1000 = some (true, entries') ∧
      ZigbeeSourceRouteTable.downstreamRoute entries' 0x0031 8 = some route ∧
      originate ⟨116, fun r => if r > 1 then r - 1 else 1, 0⟩ 0x0031 0x0000 30 5 route
        [0x67, 0x6F] = some start ∧
      travel ⟨116, fun r => if r > 1 then r - 1 else 1, 0⟩ 3 start =
        some (hops, frame, [0x67, 0x6F]) ∧
      hops.length = 3 ∧
      hops.map InFlight.node = [0x0009, 0x0002].reverse ++ [0x0031] ∧
      frame.dstShort = 0x0031 ∧ frame.srcShort = 0x0000 ∧ frame.sequence = 5 ∧
      ∀ k (hk : k < hops.length), DropsOffPath 0x0031 route k hops[k] :=
  source_route_delivers ⟨116, fun r => if r > 1 then r - 1 else 1, 0⟩ (by decide)
    { count := by decide, size := by decide, payload := by decide, discover := by decide }
    (by decide) 0x0000 30 5 1000 (by decide) (by decide)

end NiusZigbee
