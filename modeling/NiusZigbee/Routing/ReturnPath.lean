import NiusZigbee.Routing.DataPlane

/-!
# The way back

A message that is passed on along a path leaves a route back to its source in every node it
reaches, so that an answer needs no route discovery of its own, and leaves the path as it was.
-/

namespace NiusZigbee.DataPlane

open ZigbeeNwk

variable {ι : Type} [DecidableEq ι]

def World.address (w : World ι) (i : ι) : UInt16 := (w.node i).shortAddress

/-- Node `i` hears the frame sent last, if it is for its address. -/
def passOn (nowMs : ι → UInt32) (w : World ι) (i : ι) : World ι :=
  match w.air.getLast? with
  | none => w
  | some hop => if hop.macDst = w.address i then step w (.hear i hop (nowMs i)) else w

theorem passOn_eq {w : World ι} {i : ι} {hop : Hop ι} (nowMs : ι → UInt32)
    (hair : w.air.getLast? = some hop) (hto : hop.macDst = w.address i) :
    passOn nowMs w i = step w (.hear i hop (nowMs i)) := by
  rw [passOn, hair]
  exact if_pos hto

section Heard

variable {w : World ι} {i : ι} {hop : Hop ι} (nowMs : ι → UInt32)
  (hair : w.air.getLast? = some hop) (hto : hop.macDst = w.address i)

include hair hto

theorem passOn_node :
    (passOn nowMs w i).node =
      Function.update w.node i ((w.node i).hear hop.macSrc hop.npdu (nowMs i)).1 := by
  rw [passOn_eq nowMs hair hto]
  rfl

theorem passOn_arrived :
    (passOn nowMs w i).arrived = w.arrived ++ arrivals i (w.node i) hop.npdu := by
  rw [passOn_eq nowMs hair hto]
  rfl

/-- What the node makes of the frame is the next one in the air. -/
theorem passOn_air {out : Out}
    (hout : ((w.node i).hear hop.macSrc hop.npdu (nowMs i)).2 = some out) :
    (passOn nowMs w i).air.getLast? =
      some ⟨w.address i, out.macDst, out.npdu, i, hop.forwards + 1⟩ := by
  simp only [passOn_eq nowMs hair hto, step, World.put, hout, Option.toList_some, List.map_cons,
    List.map_nil, List.getLast?_append, List.getLast?_singleton, Option.some_or]
  rfl

theorem passOn_same (hsame : Same (w.node i) ((w.node i).hear hop.macSrc hop.npdu (nowMs i)).1)
    (j : ι) : Same (w.node j) ((passOn nowMs w i).node j) := by
  rw [passOn_node nowMs hair hto]
  by_cases hj : j = i
  · subst hj
    rw [Function.update_self]
    exact hsame
  · rw [Function.update_of_ne hj]
    exact .refl _

end Heard

def passAlong (nowMs : ι → UInt32) (w : World ι) (path : List ι) : World ι :=
  path.foldl (passOn nowMs) w

/-- Where node `i` sends what is for `dst`. -/
def World.nextHop (w : World ι) (dst : UInt16) (i : ι) : UInt16 :=
  (w.node i).routing.nextHopFor dst

/-- Along the path every node sends what is for `dst` to the node after it. -/
def Leads (w : World ι) (dst : UInt16) (path : List ι) : Prop :=
  path.IsChain fun a b => w.nextHop dst a = w.address b

instance (w : World ι) (dst : UInt16) (path : List ι) : Decidable (Leads w dst path) :=
  inferInstanceAs (Decidable (List.IsChain _ _))

/-- Joined nodes with addresses of their own; those between the ends may pass frames on. -/
structure Path (w : World ι) (path : List ι) : Prop where
  joined : ∀ i ∈ path, (w.node i).joined = true
  unicast : ∀ i ∈ path, w.address i < 0xFFF8
  distinct : path.Pairwise fun a b => w.address a ≠ w.address b
  relays : ∀ i ∈ path.tail.dropLast, (w.node i).role ≠ .endDevice

theorem ne_noNextHop {address : UInt16} (h : address < 0xFFF8) :
    address ≠ ZigbeeRouting.kNoNextHop := by
  rintro rfl
  exact absurd h (by decide)

/-- Longest NPDU the node sends. -/
def Node.maxNpdu (node : Node) : Nat := CC2530Radio.maxNpdu node.keyed

theorem Node.maxNpdu_le (node : Node) : node.maxNpdu ≤ kMaxFrame :=
  CC2530Radio.maxNpdu_le node.keyed

theorem maxPayload_of_fits {node : Node} {n : Nat} (h : kBaseHeaderLen + n ≤ node.maxNpdu) :
    n ≤ kMaxPayload := by
  have hmax := node.maxNpdu_le
  simp only [kMaxPayload]
  omega

section Nodes

variable {node : Node} {macSrc : UInt16} {nowMs : UInt32}

theorem learn_route {src : UInt16} (hself : src ≠ node.shortAddress) (hmac : macSrc < 0xFFF8)
    (hsrc : src < 0xFFF8) (hroom : ZigbeeRouteTable.HasRoom node.routing.routes src) :
    (node.learn macSrc src nowMs).routing.nextHopFor src = macSrc ∧
      ∀ other, other ≠ src →
        ZigbeeRouteTable.find (node.learn macSrc src nowMs).routing.routes other =
          ZigbeeRouteTable.find node.routing.routes other := by
  rw [Node.learn, if_pos ⟨hself, hmac, hsrc⟩]
  refine ⟨?_, fun other hother => ZigbeeRouteTable.find_upsert_other hroom hother⟩
  simp only [ZigbeeRouting.nextHopFor, ZigbeeRouteTable.find_upsert_self hroom, ne_eq,
    not_true_eq_false, if_false]

/-- A message as bytes that has no source route. -/
def plainNpdu (m : Message) (radius sequence : UInt8) : List UInt8 :=
  headerBytes (baseFcf nwkFrameData 0) m.dst m.src radius sequence m.payload

theorem parse_plain {m : Message} (hfits : m.payload.length ≤ kMaxPayload)
    (radius sequence : UInt8) :
    ∃ frame, parseDataFrame (plainNpdu m radius sequence) = some (true, frame) ∧
      frame.sourceRoute = false ∧ frame.srcShort = m.src ∧ frame.dstShort = m.dst ∧
      frame.radius = radius ∧ frame.payloadBytes (plainNpdu m radius sequence) = m.payload := by
  have hshape : Shape .router m radius 0 (plainNpdu m radius sequence) :=
    .plain sequence hfits (absurd rfl)
  obtain ⟨frame, hparse, -, -, hpayload, -, -, -⟩ := hshape.parse
  rw [plainNpdu] at hparse
  rw [parseDataFrame_header m.dst m.src radius sequence hfits (by decide)] at hparse
  obtain rfl := (Prod.mk.inj (Option.some.inj hparse)).2
  exact ⟨_, parseDataFrame_header m.dst m.src radius sequence hfits (by decide), rfl, rfl, rfl, rfl,
    hpayload⟩

theorem sendNwkData_plain (macDst : UInt16) {m : Message}
    (htakes : kBaseHeaderLen + m.payload.length ≤ node.maxNpdu)
    (radius : UInt8) : (node.sendNwkData macDst m.dst m.src m.payload radius).2 =
      some ⟨macDst, plainNpdu m radius node.nwkSequence⟩ := by
  have hfits := maxPayload_of_fits htakes
  simp only [Node.sendNwkData, Node.transmit]
  have hmax : kBaseHeaderLen + m.payload.length ≤ kMaxFrame.toUInt8.toNat := by
    simp only [kMaxPayload, kMaxFrame, kBaseHeaderLen] at hfits ⊢
    change _ ≤ 116
    omega
  rw [buildDataFrame_eq m.dst m.src radius node.nwkSequence hmax hfits (by decide)]
  rw [if_neg, OutBuffer.Built.exact_bytes, Node.radioSend,
    if_pos ((CC2530Radio.takes_header rfl).mpr htakes)]
  · rfl
  · simp only [OutBuffer.Built.exact_len, headerBytes_length, kBaseHeaderLen]
    omega

variable {m : Message} (hfits : m.payload.length ≤ kMaxPayload)
  (hjoined : node.joined = true) (radius sequence : UInt8)

include hfits hjoined

omit hjoined in
theorem hear_plain_same : Same node (node.hear macSrc (plainNpdu m radius sequence) nowMs).1 := by
  obtain ⟨frame, hparse, -⟩ := parse_plain hfits radius sequence
  simp only [Node.hear, hparse]
  exact (onNwkData_same frame).1

omit [DecidableEq ι] in
theorem hear_relay (hdst : m.dst ≠ node.shortAddress) (hunicast : m.dst < 0xFFF8)
    (hnext : node.routing.nextHopFor m.dst ≠ ZigbeeRouting.kNoNextHop)
    (hother : m.dst ≠ m.src) (hself : m.src ≠ node.shortAddress) (hmac : macSrc < 0xFFF8)
    (hsrc : m.src < 0xFFF8) (hroom : ZigbeeRouteTable.HasRoom node.routing.routes m.src)
    (hradius : radius > 1) (hrole : node.role ≠ .endDevice)
    (htakes : kBaseHeaderLen + m.payload.length ≤ node.maxNpdu) :
    (node.hear macSrc (plainNpdu m radius sequence) nowMs).2 =
        some ⟨node.routing.nextHopFor m.dst, plainNpdu m (radius - 1) node.nwkSequence⟩ ∧
      (node.hear macSrc (plainNpdu m radius sequence) nowMs).1.routing =
        (node.learn macSrc m.src nowMs).routing ∧
      ∀ i : ι, arrivals i node (plainNpdu m radius sequence) = [] := by
  obtain ⟨frame, hparse, hplain, hsrc', hdst', hradius', hpayload⟩ :=
    parse_plain hfits radius sequence
  have hsame := (@learn_same node macSrc nowMs m.src).1
  have hroute : (node.learn macSrc m.src nowMs).routing.nextHopFor m.dst =
      node.routing.nextHopFor m.dst :=
    ZigbeeRouting.nextHopFor_congr ((learn_route hself hmac hsrc hroom).2 m.dst hother)
  have hsequence : (node.learn macSrc m.src nowMs).nwkSequence = node.nwkSequence := by
    unfold Node.learn
    split <;> rfl
  simp only [Node.hear, hparse, Node.onNwkData, hjoined, Bool.not_true, Bool.false_eq_true,
    if_false, hplain, Bool.and_false, hsrc', hdst', hradius', hpayload, Node.forward,
    hsame.shortAddress, hsame.role, hroute]
  rw [if_pos ⟨hdst, hunicast⟩, if_pos ⟨hnext, hradius, hrole⟩]
  have hmax : (node.learn macSrc m.src nowMs).maxNpdu = node.maxNpdu := by
    rw [Node.maxNpdu, hsame.keyed]
    rfl
  refine ⟨(sendNwkData_plain _ (hmax.symm ▸ htakes) _).trans (by rw [hsequence]), rfl, fun i => ?_⟩
  have hhigh : ¬ m.dst ≥ 0xFFF8 := UInt16.not_le.mpr hunicast
  simp only [arrivals, hparse, Node.receives, hdst', hdst, decide_false, hhigh, Bool.or_self,
    Bool.false_eq_true, if_false]

omit [DecidableEq ι] in
theorem hear_destination (hdst : m.dst = node.shortAddress) :
    (node.hear macSrc (plainNpdu m radius sequence) nowMs).2 = none ∧
      (node.hear macSrc (plainNpdu m radius sequence) nowMs).1.routing =
        (node.learn macSrc m.src nowMs).routing ∧
      ∀ i : ι, arrivals i node (plainNpdu m radius sequence) = [⟨i, m.dst, m⟩] := by
  obtain ⟨frame, hparse, hplain, hsrc', hdst', hradius', hpayload⟩ :=
    parse_plain hfits radius sequence
  have hsame := (@learn_same node macSrc nowMs m.src).1
  refine ⟨?_, ?_, fun i => ?_⟩
  · simp only [Node.hear, hparse, Node.onNwkData, hjoined, Bool.not_true, Bool.false_eq_true,
      if_false, hplain, Bool.and_false, hsrc', hdst', Node.forward, hsame.shortAddress, hdst, ne_eq,
      not_true_eq_false, false_and]
  · simp only [Node.hear, hparse, Node.onNwkData, hjoined, Bool.not_true, Bool.false_eq_true,
      if_false, hplain, Bool.and_false, hsrc', hdst', Node.forward, hsame.shortAddress, hdst, ne_eq,
      not_true_eq_false, false_and]
  · simp only [arrivals, hparse, Node.receives, hdst', ← hdst, decide_true, Bool.true_or, if_true,
      hsrc', hpayload]

end Nodes

/-! ## One way -/

section Way

variable {w w' : World ι} {m : Message} {nowMs : ι → UInt32}

/-- What a message still has before it: nodes that can take it, each with room for a route back,
that lead to its destination and can send it on. -/
structure Way (w : World ι) (m : Message) (path : List ι) : Prop where
  joined : ∀ i ∈ path, (w.node i).joined = true
  unicast : ∀ i ∈ path, w.address i < 0xFFF8
  away : ∀ i ∈ path, w.address i ≠ m.src
  room : ∀ i ∈ path, ZigbeeRouteTable.HasRoom (w.node i).routing.routes m.src
  distinct : path.Pairwise fun a b => w.address a ≠ w.address b
  leads : Leads w m.dst path
  relays : ∀ i ∈ path.dropLast, (w.node i).role ≠ .endDevice
  takes : ∀ i ∈ path.dropLast, kBaseHeaderLen + m.payload.length ≤ (w.node i).maxNpdu
  ends : ∃ q ∈ path.getLast?, w.address q = m.dst

omit [DecidableEq ι] in
theorem Way.tail {b c : ι} {path : List ι} (h : Way w m (b :: c :: path)) :
    Way w m (c :: path) where
  joined i hi := h.joined i (List.mem_cons_of_mem b hi)
  unicast i hi := h.unicast i (List.mem_cons_of_mem b hi)
  away i hi := h.away i (List.mem_cons_of_mem b hi)
  room i hi := h.room i (List.mem_cons_of_mem b hi)
  distinct := (List.pairwise_cons.mp h.distinct).2
  leads := (List.isChain_cons_cons.mp h.leads).2
  relays i hi := h.relays i (by rw [List.dropLast_cons_of_ne_nil (List.cons_ne_nil c path)]
                                exact List.mem_cons_of_mem b hi)
  takes i hi := h.takes i (by rw [List.dropLast_cons_of_ne_nil (List.cons_ne_nil c path)]
                              exact List.mem_cons_of_mem b hi)
  ends := by simpa using h.ends

omit [DecidableEq ι] in
theorem Way.congr {path : List ι} (h : Way w m path) (hsame : ∀ i ∈ path, w'.node i = w.node i) :
    Way w' m path := by
  have haddress : ∀ i ∈ path, w'.address i = w.address i := fun i hi => by
    rw [World.address, World.address, hsame i hi]
  refine ⟨fun i hi => ?_, fun i hi => ?_, fun i hi => ?_, fun i hi => ?_, ?_, ?_, fun i hi => ?_,
    fun i hi => ?_, ?_⟩
  · rw [hsame i hi]
    exact h.joined i hi
  · rw [haddress i hi]
    exact h.unicast i hi
  · rw [haddress i hi]
    exact h.away i hi
  · rw [hsame i hi]
    exact h.room i hi
  · refine h.distinct.imp_of_mem fun ha hb hne => ?_
    rw [haddress _ ha, haddress _ hb]
    exact hne
  · refine List.IsChain.imp_of_mem_imp (fun a b ha hb hnext => ?_) h.leads
    rw [World.nextHop, hsame a ha, haddress b hb]
    exact hnext
  · rw [hsame i (List.mem_of_mem_dropLast hi)]
    exact h.relays i hi
  · rw [hsame i (List.mem_of_mem_dropLast hi)]
    exact h.takes i hi
  · obtain ⟨q, hq, hdst⟩ := h.ends
    exact ⟨q, hq, by rw [haddress q (List.mem_of_getLast? hq), hdst]⟩

/-- What a message leaves behind: it arrived, every node can reach its source over the node that
handed it on, and nothing else changed. -/
structure Travelled (w w' : World ι) (m : Message) (a : ι) (path : List ι) : Prop where
  arrived : ∃ q ∈ path.getLast?, ⟨q, m.dst, m⟩ ∈ w'.arrived
  earlier : ∀ x ∈ w.arrived, x ∈ w'.arrived
  others : ∀ i, i ∉ path → w'.node i = w.node i
  same : ∀ i, Same (w.node i) (w'.node i)
  routes : ∀ i, ∀ other, other ≠ m.src →
    ZigbeeRouteTable.find (w'.node i).routing.routes other =
      ZigbeeRouteTable.find (w.node i).routing.routes other
  back : (a :: path).IsChain fun x y => w'.nextHop m.src y = w.address x

theorem step_hear {a b : ι} {hop : Hop ι} {radius sequence : UInt8}
    (hfits : m.payload.length ≤ kMaxPayload) (hair : w.air.getLast? = some hop)
    (hto : hop.macDst = w.address b) (hmac : hop.macSrc = w.address a) (hlow : w.address a < 0xFFF8)
    (hnpdu : hop.npdu = plainNpdu m radius sequence)
    (hsrc : m.src < 0xFFF8) (haway : w.address b ≠ m.src)
    (hroom : ZigbeeRouteTable.HasRoom (w.node b).routing.routes m.src)
    (hlearn : ((w.node b).hear hop.macSrc hop.npdu (nowMs b)).1.routing =
      ((w.node b).learn hop.macSrc m.src (nowMs b)).routing) :
    (∀ i, i ≠ b → (passOn nowMs w b).node i = w.node i) ∧
      (∀ i, Same (w.node i) ((passOn nowMs w b).node i)) ∧
      (∀ i, ∀ other, other ≠ m.src →
        ZigbeeRouteTable.find ((passOn nowMs w b).node i).routing.routes other =
          ZigbeeRouteTable.find (w.node i).routing.routes other) ∧
      (passOn nowMs w b).nextHop m.src b = w.address a := by
  have hnode := passOn_node nowMs hair hto
  have hsame : Same (w.node b) ((w.node b).hear hop.macSrc hop.npdu (nowMs b)).1 := by
    rw [hnpdu]
    exact hear_plain_same hfits radius sequence
  obtain ⟨hnext, hfind⟩ :=
    @learn_route (w.node b) hop.macSrc (nowMs b) m.src haway.symm (hmac ▸ hlow) hsrc hroom
  refine ⟨fun i hi => ?_, passOn_same nowMs hair hto hsame, fun i other hother => ?_, ?_⟩
  · rw [hnode, Function.update_of_ne hi]
  · by_cases hi : i = b
    · subst hi
      rw [hnode, Function.update_self, hlearn]
      exact hfind other hother
    · rw [hnode, Function.update_of_ne hi]
  · rw [World.nextHop, hnode, Function.update_self, hlearn, ← hmac]
    exact hnext

theorem travels (hfits : m.payload.length ≤ kMaxPayload) (hsrc : m.src < 0xFFF8)
    (path : List ι) : ∀ (w : World ι) (a b : ι) (hop : Hop ι) (radius sequence : UInt8),
      Way w m (b :: path) → path.length < radius.toNat → w.air.getLast? = some hop →
      hop.macDst = w.address b → hop.macSrc = w.address a → w.address a < 0xFFF8 →
      hop.npdu = plainNpdu m radius sequence →
      Travelled w (passAlong nowMs w (b :: path)) m a (b :: path) := by
  induction path with
  | nil =>
    intro w a b hop radius sequence hway _ hair hto hmac hlow hnpdu
    have hb : b ∈ [b] := List.mem_singleton_self b
    obtain ⟨q, hq, hdst⟩ := hway.ends
    obtain rfl : b = q := Option.some.inj hq
    obtain ⟨-, hlearn, harrives⟩ := @hear_destination ι (w.node b) hop.macSrc (nowMs b) m hfits
      (hway.joined b hb) radius sequence hdst.symm
    obtain ⟨hothers, hsame, hroutes, hback⟩ := step_hear hfits hair hto hmac hlow hnpdu hsrc
      (hway.away b hb) (hway.room b hb) (hnpdu ▸ hlearn)
    have harrived : (passOn nowMs w b).arrived = w.arrived ++ [⟨b, m.dst, m⟩] := by
      rw [passOn_arrived nowMs hair hto, hnpdu, harrives]
    refine ⟨⟨b, hq, ?_⟩, fun x hx => ?_, fun i hi => ?_, hsame, hroutes, ?_⟩
    · rw [passAlong, List.foldl_cons, List.foldl_nil, harrived]
      exact List.mem_append_right _ (List.mem_singleton_self _)
    · rw [passAlong, List.foldl_cons, List.foldl_nil, harrived]
      exact List.mem_append_left _ hx
    · exact hothers i (List.ne_of_not_mem_cons hi)
    · exact List.isChain_cons_cons.mpr ⟨hback, List.isChain_singleton b⟩
  | cons c path ih =>
    intro w a b hop radius sequence hway hlong hair hto hmac hlow hnpdu
    have hb : b ∈ b :: c :: path := List.mem_cons_self
    have hnext : w.nextHop m.dst b = w.address c := (List.isChain_cons_cons.mp hway.leads).1
    obtain ⟨hfar, -⟩ := List.pairwise_cons.mp hway.distinct
    obtain ⟨q, hq, hdst⟩ := hway.ends
    have hqmem : q ∈ c :: path := List.mem_of_getLast? (by simpa using hq)
    have hne (i : ι) (hi : i ∈ c :: path) : i ≠ b := fun heq => hfar i hi (by rw [heq])
    have hunicast : m.dst < 0xFFF8 := hdst ▸ hway.unicast q (List.mem_cons_of_mem b hqmem)
    have hbig : radius > 1 := by
      rw [gt_iff_lt, UInt8.lt_iff_toNat_lt, UInt8.toNat_one]
      simp only [List.length_cons] at hlong
      omega
    have hsome : w.nextHop m.dst b ≠ ZigbeeRouting.kNoNextHop :=
      hnext ▸ ne_noNextHop (hway.unicast c (List.mem_cons_of_mem b List.mem_cons_self))
    have hrole : (w.node b).role ≠ .endDevice := hway.relays b (by simp)
    obtain ⟨hout, hlearn, harrives⟩ := @hear_relay ι (w.node b) hop.macSrc (nowMs b) m hfits
      (hway.joined b hb) radius sequence (hdst ▸ (hfar q hqmem).symm) hunicast hsome
      (hdst ▸ hway.away q (List.mem_cons_of_mem b hqmem)) (hway.away b hb).symm (hmac ▸ hlow) hsrc
      (hway.room b hb) hbig hrole (hway.takes b (by simp))
    obtain ⟨hothers, hsame, hroutes, hback⟩ := step_hear hfits hair hto hmac hlow hnpdu hsrc
      (hway.away b hb) (hway.room b hb) (hnpdu ▸ hlearn)
    have haddress (i : ι) : (passOn nowMs w b).address i = w.address i := (hsame i).shortAddress
    have hair' := passOn_air nowMs hair hto (hnpdu ▸ hout)
    have hway' : Way (passOn nowMs w b) m (c :: path) :=
      hway.tail.congr fun i hi => hothers i (hne i hi)
    have hradius : path.length < (radius - 1).toNat := by
      have hpred := radius_pred hbig
      simp only [List.length_cons] at hlong
      omega
    have hrest := ih (passOn nowMs w b) b c _ (radius - 1) _ hway' hradius hair'
      (hnext.trans (haddress c).symm) (haddress b).symm
      (by rw [haddress b]; exact hway.unicast b hb) rfl
    have harrived : (passOn nowMs w b).arrived = w.arrived := by
      rw [passOn_arrived nowMs hair hto, hnpdu, harrives, List.append_nil]
    have hnot : b ∉ c :: path := fun hmem => hne b hmem rfl
    refine ⟨?_, fun x hx => hrest.earlier x (harrived ▸ hx), fun i hi => ?_,
      fun i => (hsame i).trans (hrest.same i), fun i other hother => ?_, ?_⟩
    · obtain ⟨x, hx, hmem⟩ := hrest.arrived
      exact ⟨x, by simpa using hx, hmem⟩
    · obtain ⟨hib, hip⟩ := List.ne_and_not_mem_of_not_mem_cons hi
      exact (hrest.others i hip).trans (hothers i hib)
    · exact (hrest.routes i other hother).trans (hroutes i other hother)
    · refine List.isChain_cons_cons.mpr ⟨?_, ?_⟩
      · have hkept : (passAlong nowMs (passOn nowMs w b) (c :: path)).node b =
            (passOn nowMs w b).node b := hrest.others b hnot
        rw [← hback, World.nextHop, World.nextHop]
        exact congrArg (fun node : Node => node.routing.nextHopFor m.src) hkept
      · refine hrest.back.imp fun x y hxy => ?_
        rw [← haddress x]
        exact hxy

end Way

/-! ## To and fro -/

section Conversation

variable {w w' : World ι} {p q : ι} {relays : List ι}

/-- Every node from `p` on sends what is for `q` to the next one, and has room for a route to
`p`. -/
structure Ready (w : World ι) (p q : ι) (relays : List ι) : Prop where
  path : Path w (p :: (relays ++ [q]))
  leads : Leads w (w.address q) (p :: (relays ++ [q]))
  room : ∀ i ∈ relays ++ [q], ZigbeeRouteTable.HasRoom (w.node i).routing.routes (w.address p)
  short : relays.length ≤ 29

omit [DecidableEq ι] in
theorem Path.same {path : List ι} (h : Path w path) (hsame : ∀ i, Same (w.node i) (w'.node i)) :
    Path w' path := by
  have haddress (i : ι) : w'.address i = w.address i := (hsame i).shortAddress
  refine ⟨fun i hi => ?_, fun i hi => ?_, ?_, fun i hi => ?_⟩
  · rw [(hsame i).joined]
    exact h.joined i hi
  · rw [haddress i]
    exact h.unicast i hi
  · simp only [haddress]
    exact h.distinct
  · rw [(hsame i).role]
    exact h.relays i hi

omit [DecidableEq ι] in
theorem Path.reverse {path : List ι} (h : Path w path) : Path w path.reverse where
  joined i hi := h.joined i (List.mem_reverse.mp hi)
  unicast i hi := h.unicast i (List.mem_reverse.mp hi)
  distinct := List.pairwise_reverse.mpr (h.distinct.imp Ne.symm)
  relays i hi := by
    apply h.relays i
    rw [List.tail_reverse, List.dropLast_reverse, List.mem_reverse] at hi
    rwa [List.tail_dropLast] at hi

omit [DecidableEq ι] in
theorem hasRoom_of_nextHop {i : ι} {dst : UInt16} (h : w.nextHop dst i < 0xFFF8) :
    ZigbeeRouteTable.HasRoom (w.node i).routing.routes dst := by
  left
  by_contra hnone
  rw [Option.not_isSome_iff_eq_none] at hnone
  have hfind : ZigbeeRouteTable.find (w.node i).routing.routes dst = none :=
    SlotTable.lookup_of_find_none hnone
  rw [World.nextHop, ZigbeeRouting.nextHopFor, hfind] at h
  exact absurd h (by decide)

omit [DecidableEq ι] in
/-- Along a chain of next hops each node but the last has a route. -/
theorem Leads.hasRoom {dst : UInt16} {path : List ι} (h : Leads w dst path)
    (hunicast : ∀ i ∈ path, w.address i < 0xFFF8) :
    ∀ i ∈ path.dropLast, ZigbeeRouteTable.HasRoom (w.node i).routing.routes dst := by
  induction path with
  | nil => nofun
  | cons a path ih =>
    cases path with
    | nil => nofun
    | cons b path =>
      obtain ⟨hab, hrest⟩ := List.isChain_cons_cons.mp h
      intro i hi
      rw [List.dropLast_cons_of_ne_nil (List.cons_ne_nil b path)] at hi
      rcases List.mem_cons.mp hi with rfl | hmem
      · apply hasRoom_of_nextHop
        rw [hab]
        exact hunicast b (List.mem_cons_of_mem _ List.mem_cons_self)
      · exact ih hrest (fun j hj => hunicast j (List.mem_cons_of_mem a hj)) i hmem

/-- `p` sends to `q`, and the nodes on the way hear it one after the other. -/
def tell (nowMs : ι → UInt32) (w : World ι) (p q : ι) (relays : List ι) (payload : List UInt8) :
    World ι :=
  passAlong nowMs (step w (.send p (w.address q) payload)) (relays ++ [q])

theorem send_first (h : Ready w p q relays) {payload : List UInt8}
    (htakes : kBaseHeaderLen + payload.length ≤ (w.node p).maxNpdu)
    (hnext : w.nextHop (w.address q) p ≠ ZigbeeRouting.kNoNextHop) :
    let w' := step w (.send p (w.address q) payload)
    (∀ i, Same (w.node i) (w'.node i)) ∧ (∀ i, (w'.node i).routing = (w.node i).routing) ∧
      w'.arrived = w.arrived ∧ w'.air.getLast? = some ⟨w.address p, w.nextHop (w.address q) p,
        plainNpdu ⟨w.address p, w.address q, payload⟩ kDefaultRadius (w.node p).nwkSequence, p,
        0⟩ := by
  intro w'
  have hnode : w'.node = Function.update w.node p
      { w.node p with nwkSequence := (w.node p).nwkSequence + 1 } := rfl
  refine ⟨fun i => ?_, fun i => ?_, rfl, ?_⟩
  · by_cases hi : i = p
    · subst hi
      rw [hnode, Function.update_self]
      exact ⟨rfl, rfl, rfl, rfl, rfl, rfl⟩
    · rw [hnode, Function.update_of_ne hi]
      exact .refl _
  · by_cases hi : i = p
    · subst hi
      rw [hnode, Function.update_self]
    · rw [hnode, Function.update_of_ne hi]
  · let m : Message := ⟨w.address p, w.address q, payload⟩
    have hsent : ((w.node p).sendApsRouted (w.address q) payload).2 = some
        ⟨w.nextHop (w.address q) p, plainNpdu m kDefaultRadius (w.node p).nwkSequence⟩ := by
      have hnext' : (w.node p).routing.nextHopFor (w.address q) ≠ ZigbeeRouting.kNoNextHop := hnext
      simp only [Node.sendApsRouted, if_neg hnext']
      exact sendNwkData_plain _ (m := m) htakes kDefaultRadius
    have hair : w'.air = w.air ++ ((w.node p).sendApsRouted (w.address q) payload).2.toList.map
        fun out => ⟨w.address p, out.macDst, out.npdu, p, 0⟩ := rfl
    rw [hair, hsent]
    simp [m]

omit [DecidableEq ι] in
theorem Ready.way (h : Ready w p q relays) {payload : List UInt8}
    (htakes : ∀ i ∈ p :: relays, kBaseHeaderLen + payload.length ≤ (w.node i).maxNpdu)
    (hsame : ∀ i, Same (w.node i) (w'.node i))
    (hrouting : ∀ i, (w'.node i).routing = (w.node i).routing) :
    Way w' ⟨w.address p, w.address q, payload⟩ (relays ++ [q]) := by
  have hpath := h.path.same hsame
  have haddress (i : ι) : w'.address i = w.address i := (hsame i).shortAddress
  refine ⟨fun i hi => hpath.joined i (List.mem_cons_of_mem p hi),
    fun i hi => hpath.unicast i (List.mem_cons_of_mem p hi), fun i hi => ?_, fun i hi => ?_,
    (List.pairwise_cons.mp hpath.distinct).2, ?_, hpath.relays, fun i hi => ?_,
    ⟨q, by simp, haddress q⟩⟩
  · rw [haddress i]
    exact ((List.pairwise_cons.mp h.path.distinct).1 i hi).symm
  · rw [hrouting i]
    exact h.room i hi
  · have hleads : Leads w' (w.address q) (p :: (relays ++ [q])) := by
      simp only [Leads, World.nextHop, hrouting, haddress]
      exact h.leads
    exact hleads.tail
  · rw [List.dropLast_concat] at hi
    rw [Node.maxNpdu, (hsame i).keyed]
    exact htakes i (List.mem_cons_of_mem p hi)

/-- A message arrives and leaves the path ready in both directions. -/
theorem tell_arrives (h : Ready w p q relays) {payload : List UInt8}
    (htakes : ∀ i ∈ p :: relays, kBaseHeaderLen + payload.length ≤ (w.node i).maxNpdu)
    (nowMs : ι → UInt32) :
    let w' := tell nowMs w p q relays payload
    ⟨q, w.address q, ⟨w.address p, w.address q, payload⟩⟩ ∈ w'.arrived ∧
      (∀ x ∈ w.arrived, x ∈ w'.arrived) ∧ (∀ i, Same (w.node i) (w'.node i)) ∧
      Ready w' p q relays ∧ Ready w' q p relays.reverse := by
  intro w'
  have hfits := maxPayload_of_fits (htakes p List.mem_cons_self)
  have hp : w.address p < 0xFFF8 := h.path.unicast p List.mem_cons_self
  obtain ⟨b, path, hbp⟩ : ∃ b path, relays ++ [q] = b :: path :=
    List.exists_cons_of_ne_nil (by simp)
  have hnext : w.nextHop (w.address q) p = w.address b := by
    have hleads := h.leads
    rw [hbp] at hleads
    exact (List.isChain_cons_cons.mp hleads).1
  have hb : w.address b < 0xFFF8 := h.path.unicast b (by rw [hbp]; simp)
  obtain ⟨hsame₀, hrouting₀, harrived₀, hair⟩ :=
    send_first h (htakes p List.mem_cons_self) (hnext ▸ ne_noNextHop hb)
  have hway := h.way htakes hsame₀ hrouting₀
  have hlong : path.length < kDefaultRadius.toNat := by
    have hlen := congrArg List.length hbp
    have hshort := h.short
    simp only [List.length_append, List.length_cons, List.length_nil] at hlen
    change _ < 30
    omega
  have htravel : Travelled (step w (.send p (w.address q) payload)) w'
      ⟨w.address p, w.address q, payload⟩ p (relays ++ [q]) := by
    simp only [w', tell]
    rw [hbp] at hway ⊢
    exact travels hfits hp path _ p b _ _ _ hway hlong hair
      (hnext.trans (hsame₀ b).shortAddress.symm) (hsame₀ p).shortAddress.symm
      (by rw [World.address, (hsame₀ p).shortAddress]; exact hp) rfl
  have hsame (i : ι) : Same (w.node i) (w'.node i) := (hsame₀ i).trans (htravel.same i)
  have haddress (i : ι) : w'.address i = w.address i := (hsame i).shortAddress
  have hpath := h.path.same hsame
  have hne : w.address q ≠ w.address p :=
    ((List.pairwise_cons.mp h.path.distinct).1 q (by simp)).symm
  have hleads : Leads w' (w'.address q) (p :: (relays ++ [q])) := by
    refine h.leads.imp fun x y hxy => ?_
    rw [haddress, haddress, ← hxy]
    apply ZigbeeRouting.nextHopFor_congr
    rw [htravel.routes x _ hne, hrouting₀ x]
  have hreverse : (p :: (relays ++ [q])).reverse = q :: (relays.reverse ++ [p]) := by simp
  have hback : Leads w' (w'.address p) (q :: (relays.reverse ++ [p])) := by
    rw [← hreverse]
    refine List.isChain_reverse.mpr (htravel.back.imp fun x y hxy => ?_)
    rw [haddress p, haddress x]
    exact hxy.trans (hsame₀ x).shortAddress
  refine ⟨?_, fun x hx => htravel.earlier x (harrived₀.symm ▸ hx), hsame,
    ⟨hpath, hleads, fun i hi => ?_, h.short⟩,
    ⟨hreverse ▸ hpath.reverse, hback, fun i hi => ?_, by rw [List.length_reverse]; exact h.short⟩⟩
  · obtain ⟨x, hx, hmem⟩ := htravel.arrived
    obtain rfl : q = x := by simpa using hx
    exact hmem
  · apply hback.hasRoom (hreverse ▸ hpath.reverse).unicast
    rw [← List.cons_append, List.dropLast_concat]
    simpa [or_comm] using hi
  · apply hleads.hasRoom hpath.unicast
    rw [← List.cons_append, List.dropLast_concat]
    simpa [or_comm] using hi

/-- A message between `p` and `q`, and when the nodes hear it. -/
structure Said (ι : Type) where
  answer : Bool
  payload : List UInt8
  nowMs : ι → UInt32

def say (p q : ι) (relays : List ι) (w : World ι) (s : Said ι) : World ι :=
  if s.answer then tell s.nowMs w q p relays.reverse s.payload
  else tell s.nowMs w p q relays s.payload

def Said.arrival (s : Said ι) (w : World ι) (p q : ι) : Arrival ι :=
  if s.answer then ⟨p, w.address p, ⟨w.address q, w.address p, s.payload⟩⟩
  else ⟨q, w.address q, ⟨w.address p, w.address q, s.payload⟩⟩

/-- Ready in the direction of `s`. -/
def Said.ReadyFor (s : Said ι) (w : World ι) (p q : ι) (relays : List ι) : Prop :=
  if s.answer then Ready w q p relays.reverse else Ready w p q relays

/-- Every node of the path can send the payload. -/
def Said.Taken (s : Said ι) (w : World ι) (p q : ι) (relays : List ι) : Prop :=
  ∀ i ∈ p :: (relays ++ [q]), kBaseHeaderLen + s.payload.length ≤ (w.node i).maxNpdu

instance (s : Said ι) (w : World ι) (p q : ι) (relays : List ι) :
    Decidable (s.Taken w p q relays) :=
  inferInstanceAs (Decidable (∀ i ∈ p :: (relays ++ [q]), _ ≤ _))

omit [DecidableEq ι] in
theorem Said.Taken.same {s : Said ι} (h : s.Taken w p q relays)
    (hsame : ∀ i, Same (w.node i) (w'.node i)) : s.Taken w' p q relays := by
  intro i hi
  rw [Node.maxNpdu, (hsame i).keyed]
  exact h i hi

theorem say_arrives {s : Said ι} (h : s.ReadyFor w p q relays) (htaken : s.Taken w p q relays) :
    let w' := say p q relays w s
    s.arrival w p q ∈ w'.arrived ∧ (∀ x ∈ w.arrived, x ∈ w'.arrived) ∧
      (∀ i, Same (w.node i) (w'.node i)) ∧ ∀ t : Said ι, t.ReadyFor w' p q relays := by
  intro w'
  simp only [w', say, Said.arrival]
  unfold Said.ReadyFor at h ⊢
  cases hanswer : s.answer with
  | true =>
    rw [if_pos hanswer] at h
    obtain ⟨harrived, hkept, hsame, hback, hforth⟩ :=
      tell_arrives h (fun i hi => htaken i
        (List.mem_cons_of_mem p (by simpa [or_comm] using hi))) s.nowMs
    rw [List.reverse_reverse] at hforth
    refine ⟨harrived, hkept, hsame, fun t => ?_⟩
    split
    · exact hback
    · exact hforth
  | false =>
    rw [if_neg (by rw [hanswer]; decide)] at h
    obtain ⟨harrived, hkept, hsame, hforth, hback⟩ :=
      tell_arrives h (fun i hi => htaken i (List.mem_append_left [q] hi)) s.nowMs
    refine ⟨harrived, hkept, hsame, fun t => ?_⟩
    split
    · exact hback
    · exact hforth

theorem say_all (said : List (Said ι)) (h : ∀ s ∈ said.head?, s.ReadyFor w p q relays)
    (htaken : ∀ s ∈ said, s.Taken w p q relays) :
    (∀ x ∈ w.arrived, x ∈ (said.foldl (say p q relays) w).arrived) ∧
      ∀ s ∈ said, s.arrival w p q ∈ (said.foldl (say p q relays) w).arrived := by
  induction said generalizing w with
  | nil => exact ⟨fun _ hx => hx, nofun⟩
  | cons s said ih =>
    obtain ⟨harrived, hkept, hsame, hready⟩ :=
      say_arrives (h s rfl) (htaken s List.mem_cons_self)
    obtain ⟨hearlier, hrest⟩ := ih (w := say p q relays w s) (fun t _ => hready t)
      fun t ht => (htaken t (List.mem_cons_of_mem s ht)).same hsame
    have haddress (i : ι) : (say p q relays w s).address i = w.address i := (hsame i).shortAddress
    refine ⟨fun x hx => hearlier x (hkept x hx), fun t ht => ?_⟩
    rcases List.mem_cons.mp ht with rfl | hmem
    · exact hearlier _ harrived
    · have harrival : t.arrival (say p q relays w s) p q = t.arrival w p q := by
        simp only [Said.arrival, haddress]
      exact harrival ▸ hrest t hmem

/-- Over a path that leads from `p` to `q`, once `p` has spoken, whatever the two say to each other
in whatever order arrives: the route back is learned from the messages themselves. -/
theorem conversation_arrives (h : Ready w p q relays) {said : List (Said ι)}
    (hfirst : ∀ s ∈ said.head?, s.answer = false)
    (htaken : ∀ s ∈ said, s.Taken w p q relays) :
    ∀ s ∈ said, s.arrival w p q ∈ (said.foldl (say p q relays) w).arrived := by
  refine (say_all said (fun s hs => ?_) htaken).2
  rw [Said.ReadyFor, hfirst s hs]
  exact h

/-- The end device asks the coordinator over the router and is answered twice. -/
theorem conversation_arrives_line :
    ⟨(2 : Fin 3), 2, ⟨0, 2, [0x43]⟩⟩ ∈
      ([⟨false, [0x41], fun _ => 100⟩, ⟨true, [0x42], fun _ => 200⟩,
        ⟨true, [0x43], fun _ => 300⟩].foldl (say 2 0 [1]) { node := line }).arrived := by
  have hready : Ready { node := line } (2 : Fin 3) 0 [1] :=
    { path := ⟨by decide, by decide, by decide, by decide⟩
      leads := by decide
      room := by decide
      short := by decide }
  exact conversation_arrives hready (by simp) (by decide)
    ⟨true, [0x43], fun _ => 300⟩ (by simp)

end Conversation

end NiusZigbee.DataPlane
