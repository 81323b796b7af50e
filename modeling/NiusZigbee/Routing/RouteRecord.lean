import NiusZigbee.Routing.ReturnPath

/-!
# Recorded paths

An end device sends a route record towards the coordinator, the relays on the way append
themselves, and the coordinator keeps the path, reversed. A frame it sends along that path reaches
the device whatever has become of the route tables since.
-/

namespace NiusZigbee.DataPlane

open ByteCodec OutBuffer ZigbeeNwk

variable {ι : Type} [DecidableEq ι]

/-! ## The record -/

section Record

variable {node : Node} {macSrc src : UInt16} {relays : List UInt16} {nowMs : UInt32}

def recordNpdu (src : UInt16) (sequence : UInt8) (relays : List UInt16) : List UInt8 :=
  headerBytes (baseFcf nwkFrameCommand 0) zbNwkAddrCoordinator src kDefaultRadius sequence
    (nwkCmdRouteRecord :: routeRecordBytes relays)

theorem buildRouteRecord (max : UInt8) (hmax : 1 + relays.length * 2 ≤ max.toNat)
    (hcount : relays.length ≤ 7) :
    (buildRouteRecordPayload max relays).bytes = routeRecordBytes relays := by
  rw [buildRouteRecordPayload_eq max (by omega), if_neg (by rw [routeRecordBytes_length]; omega),
    Built.exact_bytes]

theorem sendNwkCommand_record (macDst : UInt16) (hcount : relays.length ≤ 7) :
    (node.sendNwkCommand macDst zbNwkAddrCoordinator src nwkCmdRouteRecord
      (routeRecordBytes relays)).2 = some ⟨macDst, recordNpdu src node.nwkSequence relays⟩ := by
  have hlen : (routeRecordBytes relays).length ≤ 15 := by
    rw [routeRecordBytes_length]
    omega
  have hmax : kBaseHeaderLen + 1 + (routeRecordBytes relays).length ≤ kMaxFrame.toUInt8.toNat := by
    change _ ≤ 116
    simp only [kBaseHeaderLen]
    omega
  have htakes : CC2530Radio.Takes node.keyed (recordNpdu src node.nwkSequence relays) := by
    refine (CC2530Radio.takes_header rfl).mpr ?_
    simp only [List.length_cons, kBaseHeaderLen, CC2530Radio.maxNpdu, kMaxFrame]
    split <;> omega
  simp only [Node.sendNwkCommand, Node.transmit]
  rw [buildCommandFrame_eq _ src kDefaultRadius node.nwkSequence nwkCmdRouteRecord hmax
    (by simp only [kMaxPayload, kMaxFrame, kBaseHeaderLen]; omega) (by decide), if_neg,
    Built.exact_bytes]
  · exact if_pos htakes
  · simp only [Built.exact_len, headerBytes_length, kBaseHeaderLen]
    omega

theorem extractRelays_seven (hcount : relays.length ≤ 7) :
    extractRelays (routeRecordBytes relays)
      { valid := true, relayCount := relays.length.toUInt8, relayList := some 1 } 7 =
      some relays := by
  have hnat : relays.length.toUInt8.toNat = relays.length := toNat_toUInt8 (by omega)
  have height := extractRelays_record (Nat.le_succ_of_le hcount)
  simp only [extractRelays, hnat, ZigbeeSourceRouteTable.kMaxRelays] at height ⊢
  rw [Nat.min_eq_left (by omega)] at height ⊢
  exact height

theorem hear_record (hjoined : node.joined = true) (hrouting : node.sourceRouting = true)
    (sequence : UInt8) (hcount : relays.length ≤ 7) :
    node.hear macSrc (recordNpdu src sequence relays) nowMs =
      if node.role = .coordinator then
        ({ node with srDst := src, srRelays := relays.reverse }, none)
      else
        node.sendNwkCommand node.towardCoordinator zbNwkAddrCoordinator src nwkCmdRouteRecord
          (buildRouteRecordPayload 40 (if relays.length < 7 then relays ++ [node.shortAddress]
            else relays)).bytes := by
  have hlen : (routeRecordBytes relays).length ≤ 15 := by
    rw [routeRecordBytes_length]
    omega
  have hcommand : Command (recordNpdu src sequence relays) := ⟨_, _, _, _, _, rfl⟩
  have hparse : parseCommandFrame (recordNpdu src sequence relays) = _ :=
    parseCommandFrame_header _ src _ _ _
      (by simp only [kMaxPayload, kMaxFrame, kBaseHeaderLen]; omega) (by decide)
  have hslice : slice (recordNpdu src sequence relays) (kBaseHeaderLen + 1)
      (routeRecordBytes relays).length = routeRecordBytes relays := by
    rw [recordNpdu, slice_headerRest]
    exact slice_append [nwkCmdRouteRecord] (routeRecordBytes relays)
  simp only [Node.hear, hcommand.parse, hparse, Node.onNwkCommand, Node.onRouteRecord, hjoined,
    hrouting, Bool.and_self, beq_self_eq_true, if_true, NwkCommandFrame.payloadBytes, hslice,
    parseRouteRecordPayload_bytes (by omega : relays.length ≤ 127), extractRelays_seven hcount]

end Record

/-! ## The way up -/

section Up

variable {w w' : World ι} {d a : ι} {relays : List ι}

/-- From a device over relays to the coordinator, each node sends towards the next. -/
structure RecordPath (w : World ι) (d a : ι) (relays : List ι) : Prop where
  device : (w.node d).role = .endDevice
  coordinator : (w.node a).role = .coordinator
  between : ∀ i ∈ relays, (w.node i).role ≠ .coordinator
  joined : ∀ i ∈ d :: (relays ++ [a]), (w.node i).joined = true
  routing : ∀ i ∈ d :: (relays ++ [a]), (w.node i).sourceRouting = true
  leads : (d :: (relays ++ [a])).IsChain fun x y =>
    (w.node x).towardCoordinator = w.address y
  short : relays.length ≤ 7

/-- The nodes are who and where they were, with the same routes. -/
def Unmoved (w w' : World ι) : Prop :=
  ∀ i, Same (w.node i) (w'.node i) ∧ (w'.node i).routing = (w.node i).routing

omit [DecidableEq ι] in
theorem Unmoved.toward (h : Unmoved w w') (i : ι) :
    (w'.node i).towardCoordinator = (w.node i).towardCoordinator := by
  simp only [Node.towardCoordinator, (h i).2, (h i).1.parentAddress]

omit [DecidableEq ι] in
theorem Unmoved.trans {w'' : World ι} (h : Unmoved w w') (h' : Unmoved w' w'') : Unmoved w w'' :=
  fun i => ⟨(h i).1.trans (h' i).1, (h' i).2.trans (h i).2⟩

theorem unmoved_put {node : Node} {i : ι} (hnode : w'.node = Function.update w.node i node)
    (hsame : Same (w.node i) node) (hrouting : node.routing = (w.node i).routing) :
    Unmoved w w' := by
  intro j
  by_cases hj : j = i
  · subst hj
    rw [hnode, Function.update_self]
    exact ⟨hsame, hrouting⟩
  · rw [hnode, Function.update_of_ne hj]
    exact ⟨.refl _, rfl⟩

/-- A record on its way from `d`, with `recorded` in it, reaches the coordinator over the rest of
the relays. -/
theorem record_travels (nowMs : ι → UInt32) (src : UInt16) (rest : List ι) :
    ∀ (w : World ι) (recorded : List UInt16) (hop : Hop ι) (sequence : UInt8),
      (w.node a).role = .coordinator → (∀ i ∈ rest, (w.node i).role ≠ .coordinator) →
      (∀ i ∈ rest ++ [a], (w.node i).joined = true ∧ (w.node i).sourceRouting = true) →
      ((rest ++ [a]).IsChain fun x y => (w.node x).towardCoordinator = w.address y) →
      recorded.length + rest.length ≤ 7 → w.air.getLast? = some hop →
      (∀ i ∈ (rest ++ [a]).head?, hop.macDst = w.address i) →
      hop.npdu = recordNpdu src sequence recorded →
      let w' := passAlong nowMs w (rest ++ [a])
      Unmoved w w' ∧ (w'.node a).srDst = src ∧
        (w'.node a).srRelays = (recorded ++ rest.map w.address).reverse := by
  induction rest with
  | nil =>
    intro w recorded hop sequence hcoordinator _ hjoined _ hlen hair hto hnpdu w'
    have ha := hjoined a (by simp)
    have hhear := @hear_record (w.node a) hop.macSrc src recorded (nowMs a) ha.1 ha.2 sequence
      (by simpa using hlen)
    rw [if_pos hcoordinator, ← hnpdu] at hhear
    have hnode : w'.node = Function.update w.node a
        { w.node a with srDst := src, srRelays := recorded.reverse } := by
      simp only [w', passAlong, List.nil_append, List.foldl_cons, List.foldl_nil,
        passOn_node nowMs hair (hto a rfl), hhear]
    refine ⟨unmoved_put hnode ⟨rfl, rfl, rfl, rfl, rfl, rfl⟩ rfl, ?_, ?_⟩
    · rw [hnode, Function.update_self]
    · rw [hnode, Function.update_self, List.map_nil, List.append_nil]
  | cons b rest ih =>
    intro w recorded hop sequence hcoordinator hbetween hjoined hleads hlen hair hto hnpdu w'
    have hb := hjoined b (by simp)
    simp only [List.length_cons] at hlen
    have hhear := @hear_record (w.node b) hop.macSrc src recorded (nowMs b) hb.1 hb.2 sequence
      (by omega)
    have happended : (recorded ++ [(w.node b).shortAddress]).length ≤ 7 := by
      simp only [List.length_append, List.length_singleton]
      omega
    rw [if_neg (hbetween b List.mem_cons_self), ← hnpdu, if_pos (by omega),
      buildRouteRecord 40 (by change _ ≤ 40; omega) happended] at hhear
    have hsent := @sendNwkCommand_record (w.node b) src _ (w.node b).towardCoordinator happended
    obtain ⟨c, path, hcp⟩ : ∃ c path, rest ++ [a] = c :: path :=
      List.exists_cons_of_ne_nil (by simp)
    have hnext : (w.node b).towardCoordinator = w.address c := by
      rw [List.cons_append, hcp] at hleads
      exact (List.isChain_cons_cons.mp hleads).1
    obtain ⟨w₁, hw₁⟩ : ∃ w₁, passOn nowMs w b = w₁ := ⟨_, rfl⟩
    have hmoved : Unmoved w w₁ := by
      have hnode : w₁.node = Function.update w.node b
          { w.node b with nwkSequence := (w.node b).nwkSequence + 1 } := by
        rw [← hw₁, passOn_node nowMs hair (hto b rfl), hhear]
        rfl
      exact unmoved_put hnode ⟨rfl, rfl, rfl, rfl, rfl, rfl⟩ rfl
    have hair₁ := passOn_air nowMs hair (hto b rfl) (hhear ▸ hsent)
    rw [hw₁] at hair₁
    have haddress (i : ι) : w₁.address i = w.address i := (hmoved i).1.shortAddress
    have hrest := ih w₁ (recorded ++ [(w.node b).shortAddress]) _ _
      ((hmoved a).1.role.trans hcoordinator)
      (fun i hi => (hmoved i).1.role ▸ hbetween i (List.mem_cons_of_mem b hi))
      (fun i hi => by
        rw [(hmoved i).1.joined, (hmoved i).1.sourceRouting]
        exact hjoined i (List.mem_cons_of_mem b hi))
      (by
        simp only [hmoved.toward, haddress]
        exact hleads.tail)
      (by simp only [List.length_append, List.length_singleton]; omega) hair₁
      (by
        intro i hi
        rw [hcp] at hi
        obtain rfl := Option.some.inj hi
        exact hnext.trans (haddress c).symm) rfl
    have hw' : w' = passAlong nowMs w₁ (rest ++ [a]) := by
      simp only [w', passAlong, List.cons_append, List.foldl_cons, hw₁]
    rw [hw']
    refine ⟨hmoved.trans hrest.1, hrest.2.1, hrest.2.2.trans ?_⟩
    have hmap : rest.map w₁.address = rest.map w.address :=
      List.map_congr_left fun i _ => haddress i
    rw [hmap, List.map_cons, List.append_assoc]
    rfl

/-- The device records its path. -/
def collect (nowMs : ι → UInt32) (w : World ι) (d a : ι) (relays : List ι) : World ι :=
  passAlong nowMs (step w (.sendRouteRecord d)) (relays ++ [a])

theorem collect_records (h : RecordPath w d a relays) (nowMs : ι → UInt32) :
    let w' := collect nowMs w d a relays
    Unmoved w w' ∧ (w'.node a).srDst = w.address d ∧
      (w'.node a).srRelays = (relays.map w.address).reverse := by
  intro w'
  have hd : d ∈ d :: (relays ++ [a]) := List.mem_cons_self
  have hempty : (buildRouteRecordPayload 8 []).bytes = routeRecordBytes [] :=
    buildRouteRecord 8 (by decide) (Nat.zero_le 7)
  have hrecord : (w.node d).sendRouteRecord = (w.node d).sendNwkCommand
      (w.node d).towardCoordinator zbNwkAddrCoordinator (w.node d).shortAddress nwkCmdRouteRecord
      (routeRecordBytes []) := by
    simp only [Node.sendRouteRecord, h.routing d hd, h.joined d hd, h.device, Bool.and_self,
      beq_self_eq_true, if_true, hempty]
  have hsent := @sendNwkCommand_record (w.node d) (w.address d) [] (w.node d).towardCoordinator
    (Nat.zero_le 7)
  have hmoved : Unmoved w (step w (.sendRouteRecord d)) := by
    have hnode : (step w (.sendRouteRecord d)).node = Function.update w.node d
        { w.node d with nwkSequence := (w.node d).nwkSequence + 1 } := by
      simp only [step, World.put, hrecord]
      rfl
    exact unmoved_put hnode ⟨rfl, rfl, rfl, rfl, rfl, rfl⟩ rfl
  have hair : (step w (.sendRouteRecord d)).air.getLast? = some ⟨w.address d,
      (w.node d).towardCoordinator, recordNpdu (w.address d) (w.node d).nwkSequence [], d, 0⟩ := by
    have hout : (w.node d).sendRouteRecord.2 = some ⟨(w.node d).towardCoordinator,
        recordNpdu (w.address d) (w.node d).nwkSequence []⟩ := by
      rw [hrecord]
      exact hsent
    simp only [step, World.put, hout, Option.toList_some, List.map_cons, List.map_nil,
      List.getLast?_append, List.getLast?_singleton, Option.some_or]
    rfl
  have haddress (i : ι) : (step w (.sendRouteRecord d)).address i = w.address i :=
    (hmoved i).1.shortAddress
  have hup := record_travels (a := a) nowMs (w.address d) relays (step w (.sendRouteRecord d)) []
    _ _ ((hmoved a).1.role.trans h.coordinator)
    (fun i hi => (hmoved i).1.role ▸ h.between i hi)
    (fun i hi => by
      rw [(hmoved i).1.joined, (hmoved i).1.sourceRouting]
      exact ⟨h.joined i (List.mem_cons_of_mem d hi), h.routing i (List.mem_cons_of_mem d hi)⟩)
    (by
      simp only [hmoved.toward, haddress]
      exact h.leads.tail)
    (by simpa using h.short) hair
    (by
      intro i hi
      obtain ⟨path, hpath⟩ : ∃ path, relays ++ [a] = i :: path := by
        obtain ⟨b, path, hbp⟩ : ∃ b path, relays ++ [a] = b :: path :=
          List.exists_cons_of_ne_nil (by simp)
        rw [hbp] at hi
        obtain rfl := Option.some.inj hi
        exact ⟨path, hbp⟩
      have hleads := h.leads
      rw [hpath] at hleads
      exact (List.isChain_cons_cons.mp hleads).1.trans (haddress i).symm) rfl
  refine ⟨hmoved.trans hup.1, hup.2.1, hup.2.2.trans ?_⟩
  rw [List.nil_append]
  exact congrArg List.reverse (List.map_congr_left fun i _ => haddress i)

end Up

/-! ## The way down -/

section Down

variable {w w' : World ι} {d a : ι} {relays : List ι}

omit [DecidableEq ι] in
theorem takes_routedNpdu {node : Node} {dst src : UInt16} {route : List UInt16}
    {payload : List UInt8} (hfits : Node.relayPolicy.Admits route payload)
    (htakes : 10 + 2 * route.length + payload.length ≤ node.maxNpdu)
    (radius sequence relayIndex : UInt8) :
    CC2530Radio.Takes node.keyed
      (routedNpdu dst src radius sequence 0 route relayIndex payload) := by
  refine (CC2530Radio.takes_routed hfits.count).mpr ?_
  simp only [Node.maxNpdu] at htakes
  simp only [kBaseHeaderLen]
  omega

omit [DecidableEq ι] in
theorem hear_routed_relay {node : Node} {macSrc : UInt16} {nowMs : UInt32} {m : Message}
    {route : List UInt16} {k : Nat} (hfits : Node.relayPolicy.Admits route m.payload)
    (hjoined : node.joined = true) (hrouting : node.sourceRouting = true)
    (hrelay : route[k]? = some node.shortAddress) (hne : node.shortAddress ≠ m.dst)
    (htakes : 10 + 2 * route.length + m.payload.length ≤ node.maxNpdu) (radius sequence : UInt8) :
    let heard := node.hear macSrc
      (routedNpdu m.dst m.src radius sequence 0 route k.toUInt8 m.payload) nowMs
    heard.2 = some ⟨route[k + 1]?.getD m.dst, routedNpdu m.dst m.src
      (Node.relayPolicy.nextRadius radius) sequence 0 route (k + 1).toUInt8 m.payload⟩ ∧
      Same node heard.1 := by
  have hparse := @parse_routed _ _ _ hfits m.dst m.src radius sequence 0 (by decide) k.toUInt8
  have hhop := @hop_relay _ _ _ hfits m.dst m.src radius sequence 0 k (by decide) _ hrelay hne
  have hrouted : (routedFrame m.dst m.src radius sequence 0 route k.toUInt8 m.payload).sourceRoute =
    true := rfl
  have hself : ¬ m.dst = node.shortAddress := Ne.symm hne
  intro heard
  simp only [heard, Node.hear, hparse, Node.onNwkData, hjoined, hrouting, hrouted, Bool.not_true,
    Bool.false_eq_true, if_false, Bool.and_self, if_true, routedFrame_dstShort, if_neg hself, hhop]
  refine ⟨if_pos (takes_routedNpdu hfits htakes _ _ _), (learn_same _).1⟩

/-- A source-routed frame at relay `k` of its route takes the rest of it. -/
theorem routed_travels (nowMs : ι → UInt32) {m : Message} {route : List UInt16}
    (hfits : Node.relayPolicy.Admits route m.payload) (hfree : m.dst ∉ route) (rest : List ι) :
    ∀ (w : World ι) (k : Nat) (hop : Hop ι) (radius sequence : UInt8),
      (∀ i ∈ rest, (w.node i).joined = true ∧ (w.node i).sourceRouting = true) →
      (∀ i ∈ rest, 10 + 2 * route.length + m.payload.length ≤ (w.node i).maxNpdu) →
      w.address d = m.dst → rest.map w.address = route.drop k → k ≤ route.length →
      w.air.getLast? = some hop → hop.macDst = route[k]?.getD m.dst →
      hop.npdu = routedNpdu m.dst m.src radius sequence 0 route k.toUInt8 m.payload →
      ⟨d, m.dst, m⟩ ∈ (passAlong nowMs w (rest ++ [d])).arrived := by
  induction rest with
  | nil =>
    intro w k hop radius sequence _ _ hd hroute hk hair hto hnpdu
    have hend : route.length ≤ k := List.drop_eq_nil_iff.mp hroute.symm
    rw [List.getElem?_eq_none hend, Option.getD_none] at hto
    have hshape : Shape .router m radius k hop.npdu :=
      hnpdu ▸ .routed sequence route hfits hk
    obtain ⟨frame, hparse, hsrc, hdst, hpayload, -, -, -⟩ := hshape.parse
    have harrives : arrivals d (w.node d) hop.npdu = [⟨d, m.dst, m⟩] := by
      simp only [arrivals, hparse, Node.receives, hdst, hsrc, hpayload]
      rw [World.address] at hd
      simp only [hd, decide_true, Bool.true_or, if_true]
    simp only [passAlong, List.nil_append, List.foldl_cons, List.foldl_nil,
      passOn_arrived nowMs hair (hto.trans hd.symm), harrives]
    exact List.mem_append_right _ (List.mem_singleton_self _)
  | cons b rest ih =>
    intro w k hop radius sequence hjoined htakes hd hroute hk hair hto hnpdu
    have hlt : k < route.length := by
      by_contra hge
      rw [List.drop_eq_nil_of_le (Nat.not_lt.mp hge)] at hroute
      cases hroute
    rw [List.drop_eq_getElem_cons hlt, List.map_cons, List.cons.injEq] at hroute
    obtain ⟨hb, hrest⟩ := hroute
    have hrelay : route[k]? = some (w.address b) := by rw [List.getElem?_eq_getElem hlt, hb]
    have hne : w.address b ≠ m.dst := by
      intro heq
      rw [hb] at heq
      exact hfree (heq ▸ List.getElem_mem hlt)
    rw [hrelay, Option.getD_some] at hto
    obtain ⟨hjb, hrb⟩ := hjoined b List.mem_cons_self
    have hhear := @hear_routed_relay (w.node b) hop.macSrc (nowMs b) m route k hfits hjb hrb hrelay
      hne (htakes b List.mem_cons_self) radius sequence
    rw [← hnpdu] at hhear
    obtain ⟨w₁, hw₁⟩ : ∃ w₁, passOn nowMs w b = w₁ := ⟨_, rfl⟩
    have hsame (i : ι) : Same (w.node i) (w₁.node i) :=
      hw₁ ▸ passOn_same nowMs hair hto hhear.2 i
    have hair₁ := passOn_air nowMs hair hto hhear.1
    rw [hw₁] at hair₁
    have haddress (i : ι) : w₁.address i = w.address i := (hsame i).shortAddress
    have hnext := ih w₁ (k + 1) _ _ sequence
      (fun i hi => by
        rw [(hsame i).joined, (hsame i).sourceRouting]
        exact hjoined i (List.mem_cons_of_mem b hi))
      (fun i hi => by
        rw [Node.maxNpdu, (hsame i).keyed]
        exact htakes i (List.mem_cons_of_mem b hi))
      ((haddress d).trans hd)
      ((List.map_congr_left fun i _ => haddress i).trans hrest) hlt hair₁ rfl rfl
    simpa only [passAlong, List.cons_append, List.foldl_cons, hw₁] using hnext

/-- The coordinator sends along the path it has, and the nodes on it hear the frame in turn. -/
def sendDown (nowMs : ι → UInt32) (w : World ι) (d a : ι) (relays : List ι) (payload : List UInt8) :
    World ι :=
  passAlong nowMs (step w (.sendSourceRouted a payload)) (relays.reverse ++ [d])

theorem send_down {payload : List UInt8} {route : List UInt16} {dst : UInt16}
    (hcoordinator : (w.node a).role = .coordinator) (hjoined : (w.node a).joined = true)
    (hrouting : (w.node a).sourceRouting = true) (hroute : (w.node a).srRelays = route)
    (hdst : (w.node a).srDst = dst) (hne : route ≠ [])
    (hfits : Node.relayPolicy.Admits route payload)
    (htakes : 10 + 2 * route.length + payload.length ≤ (w.node a).maxNpdu) :
    let w' := step w (.sendSourceRouted a payload)
    (∀ i, Same (w.node i) (w'.node i)) ∧ ∃ hop, w'.air.getLast? = some hop ∧
      hop.macDst = route[0]?.getD dst ∧ hop.npdu = routedNpdu dst (w.address a) kDefaultRadius
        (w.node a).srSeq 0 route 0 payload := by
  intro w'
  obtain ⟨first, rest, rfl⟩ := List.exists_cons_of_ne_nil hne
  obtain ⟨hlen, hbytes⟩ :=
    build_routed hfits dst (w.address a) kDefaultRadius (w.node a).srSeq 0
  have hsent : (w.node a).sendSourceRouted payload =
      ({ w.node a with srSeq := (w.node a).srSeq + 1 }, some ⟨first, routedNpdu dst (w.address a)
        kDefaultRadius (w.node a).srSeq 0 (first :: rest) 0 payload⟩) := by
    have hout : (w.node a).transmit first (buildDataFrameSourceRouted kMaxFrame.toUInt8 dst
        (w.node a).shortAddress kDefaultRadius (w.node a).srSeq (first :: rest) 0 payload 0) =
        some ⟨first, routedNpdu dst (w.address a) kDefaultRadius (w.node a).srSeq 0
          (first :: rest) 0 payload⟩ :=
      (if_neg hlen).trans ((congrArg ((w.node a).radioSend first) hbytes).trans
        (if_pos (takes_routedNpdu hfits htakes _ _ _)))
    simp only [Node.sendSourceRouted, hroute, hrouting, hjoined, hcoordinator, Bool.and_self,
      beq_self_eq_true, if_true, hdst, hout]
  refine ⟨fun i => ?_, ⟨w.address a, first, _, a, 0⟩, ?_, rfl, rfl⟩
  · by_cases hi : i = a
    · subst hi
      simp only [w', step, World.emit, World.put, hsent, Function.update_self]
      exact ⟨rfl, rfl, rfl, rfl, rfl, rfl⟩
    · simp only [w', step, World.emit, World.put, Function.update_of_ne hi]
      exact .refl _
  · simp only [w', step, World.emit, World.put, hsent, Option.toList_some, List.map_cons,
      List.map_nil, List.getLast?_append, List.getLast?_singleton, Option.some_or]
    rfl

/-- A device's path is recorded as it is, and what the coordinator sends along it later arrives,
whatever route tables and parents have become meanwhile. -/
theorem recorded_path_delivers (h : RecordPath w d a relays) (hne : relays ≠ [])
    (hfree : ∀ i ∈ relays, w.address i ≠ w.address d) (nowMs : ι → UInt32) :
    let w₁ := collect nowMs w d a relays
    (w₁.node a).srDst = w.address d ∧ (w₁.node a).srRelays = (relays.map w.address).reverse ∧
      ∀ (w₂ : World ι) (payload : List UInt8),
        (∀ i, (w₂.node i).role = (w.node i).role ∧ (w₂.node i).joined = (w.node i).joined ∧
          (w₂.node i).sourceRouting = (w.node i).sourceRouting ∧ w₂.address i = w.address i) →
        (w₂.node a).srDst = (w₁.node a).srDst → (w₂.node a).srRelays = (w₁.node a).srRelays →
        (∀ i ∈ a :: relays,
          10 + 2 * relays.length + payload.length ≤ (w₂.node i).maxNpdu) →
        ⟨d, w.address d, ⟨w.address a, w.address d, payload⟩⟩ ∈
          (sendDown nowMs w₂ d a relays payload).arrived := by
  intro w₁
  obtain ⟨-, hdst, hroute⟩ := collect_records h nowMs
  refine ⟨hdst, hroute, fun w₂ payload hkept hdst₂ hroute₂ hsize => ?_⟩
  have ha : a ∈ d :: (relays ++ [a]) := by simp
  have hlength : (relays.map w.address).reverse.length = relays.length := by simp
  have hsmall : 10 + 2 * relays.length + payload.length ≤ kMaxFrame :=
    (hsize a List.mem_cons_self).trans (Node.maxNpdu_le _)
  have hfits : Node.relayPolicy.Admits (relays.map w.address).reverse payload :=
    { count := by
        have hshort := h.short
        simp only [List.length_reverse, List.length_map, ZigbeeSourceRouteTable.kMaxRelays]
        omega
      size := by
        simp only [List.length_reverse, List.length_map, kBaseHeaderLen]
        change _ ≤ 116
        simp only [kMaxFrame] at hsmall
        omega
      payload := by
        simp only [kMaxFrame, kMaxPayload, kBaseHeaderLen] at hsmall ⊢
        omega
      discover := by decide }
  obtain ⟨hsame, hop, hair, hto, hnpdu⟩ := send_down ((hkept a).1.trans h.coordinator)
    ((hkept a).2.1.trans (h.joined a ha)) ((hkept a).2.2.1.trans (h.routing a ha))
    (hroute₂.trans hroute) (hdst₂.trans hdst) (by simpa using hne) hfits
    (hlength.symm ▸ hsize a List.mem_cons_self)
  have haddress (i : ι) : (step w₂ (.sendSourceRouted a payload)).address i = w.address i :=
    (hsame i).shortAddress.trans (hkept i).2.2.2
  have hfree' : w.address d ∉ (relays.map w.address).reverse := by
    intro hmem
    obtain ⟨i, hi, heq⟩ := List.mem_map.mp (List.mem_reverse.mp hmem)
    exact hfree i hi heq
  have hsrc : w₂.address a = w.address a := (hkept a).2.2.2
  rw [hsrc] at hnpdu
  exact routed_travels (m := ⟨w.address a, w.address d, payload⟩) nowMs hfits hfree' relays.reverse
    (step w₂ (.sendSourceRouted a payload)) 0 hop kDefaultRadius (w₂.node a).srSeq
    (fun i hi => by
      have hmem : i ∈ d :: (relays ++ [a]) := by simp [List.mem_reverse.mp hi]
      rw [(hsame i).joined, (hsame i).sourceRouting, (hkept i).2.1, (hkept i).2.2.1]
      exact ⟨h.joined i hmem, h.routing i hmem⟩)
    (fun i hi => by
      rw [Node.maxNpdu, (hsame i).keyed, hlength]
      exact hsize i (List.mem_cons_of_mem a (List.mem_reverse.mp hi)))
    (haddress d)
    (by rw [List.map_reverse]; exact congrArg _ (List.map_congr_left fun i _ => haddress i))
    (Nat.zero_le _) hair hto hnpdu

/-- The end device of the line, heard by the router and the coordinator. -/
private def recordingLine : World (Fin 3) :=
  { node := fun i => { line i with sourceRouting := true } }

theorem recorded_path_delivers_line :
    ((collect (fun _ => 100) recordingLine 2 0 [1]).node 0).srRelays = [1] ∧
    ⟨2, 2, ⟨0, 2, [0x53, 0x52]⟩⟩ ∈ (sendDown (fun _ => 100)
      (collect (fun _ => 100) recordingLine 2 0 [1]) 2 0 [1] [0x53, 0x52]).arrived := by
  have h : RecordPath recordingLine 2 0 [1] :=
    { device := rfl
      coordinator := rfl
      between := by decide
      joined := by decide
      routing := by decide
      leads := by decide
      short := by decide }
  obtain ⟨-, hroute, hdown⟩ :=
    recorded_path_delivers h (by decide) (by decide) fun _ => 100
  refine ⟨hroute, hdown _ [0x53, 0x52] (fun i => ?_) rfl rfl (by decide)⟩
  have hsame := ((collect_records h fun _ => 100).1 i).1
  exact ⟨hsame.role, hsame.joined, hsame.sourceRouting, hsame.shortAddress⟩

end Down

end NiusZigbee.DataPlane
