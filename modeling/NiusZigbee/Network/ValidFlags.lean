import NiusZigbee.Nwk.Bounds
import NiusZigbee.Aps.Frame
import NiusZigbee.Aps.Fragment
import NiusZigbee.GreenPower.Gpdf
import NiusZigbee.Routing.Discovery
import NiusZigbee.Network.Membership

/-!
# Parse results and valid flags

A parser returns whether it accepts its bytes, and its structure carries the same answer in `valid`
for those who get only the structure. The parsers that check the length of an optional field after
the flag is set leave rejected bytes marked valid.
-/

namespace NiusZigbee

open ByteCodec

/-! ## Parsers that set the flag last -/

section Agreement

variable {α β : Type} {valid : α → Bool}

/-- Whatever is parsed, the flag says what is returned. -/
def Agreeing (valid : α → Bool) (parsed : Option (Bool × α)) : Prop :=
  ∀ r, parsed = some r → valid r.2 = r.1

theorem agreeing_some {r : Bool × α} (h : valid r.2 = r.1) : Agreeing valid (some r) := by
  rintro _ ⟨⟩
  exact h

theorem agreeing_bind (read : Option β) {rest : β → Option (Bool × α)}
    (h : ∀ b, Agreeing valid (rest b)) : Agreeing valid (read >>= rest) := by
  intro r hr
  obtain ⟨b, -, hb⟩ := Option.bind_eq_some_iff.mp hr
  exact h b r hb

theorem agreeing_ite {c : Prop} [Decidable c] {yes no : Option (Bool × α)}
    (hyes : Agreeing valid yes) (hno : Agreeing valid no) :
    Agreeing valid (if c then yes else no) := by
  split
  · exact hyes
  · exact hno

end Agreement

namespace ZigbeeNwk

theorem parseDataFrame_agreeing (npdu : List UInt8) :
    Agreeing NwkDataFrame.valid (parseDataFrame npdu) := by
  refine agreeing_ite (agreeing_some rfl) (agreeing_bind _ fun _ => agreeing_ite
    (agreeing_some rfl) (agreeing_ite (agreeing_some rfl) (agreeing_bind _ fun sub => ?_)))
  cases sub with
  | none => exact agreeing_some rfl
  | some sub =>
    exact agreeing_bind _ fun _ => agreeing_bind _ fun _ => agreeing_bind _ fun _ =>
      agreeing_bind _ fun _ => agreeing_some rfl

theorem parseCommandFrame_agreeing (npdu : List UInt8) :
    Agreeing NwkCommandFrame.valid (parseCommandFrame npdu) := by
  refine agreeing_ite (agreeing_some rfl) (agreeing_bind _ fun _ => agreeing_ite
    (agreeing_some rfl) (agreeing_ite (agreeing_some rfl) ?_))
  exact agreeing_bind _ fun _ => agreeing_bind _ fun _ => agreeing_bind _ fun _ =>
    agreeing_bind _ fun _ => agreeing_bind _ fun _ => agreeing_some rfl

theorem parseNetworkStatusPayload_agreeing (payload : List UInt8) :
    Agreeing NwkNetworkStatusCommand.valid (parseNetworkStatusPayload payload) :=
  agreeing_ite (agreeing_some rfl) (agreeing_bind _ fun _ => agreeing_bind _ fun _ =>
    agreeing_some rfl)

theorem parseRouteRecordPayload_agreeing (payload : List UInt8) :
    Agreeing NwkRouteRecordCommand.valid (parseRouteRecordPayload payload) :=
  agreeing_ite (agreeing_some rfl) (agreeing_bind _ fun _ => agreeing_ite
    (agreeing_some rfl) (agreeing_some rfl))

theorem parseLinkStatusPayload_agreeing (payload : List UInt8) :
    Agreeing NwkLinkStatusCommand.valid (parseLinkStatusPayload payload) :=
  agreeing_ite (agreeing_some rfl) (agreeing_bind _ fun _ => agreeing_ite
    (agreeing_some rfl) (agreeing_some rfl))

theorem parseBeaconPayload_agreeing (payload : List UInt8) :
    Agreeing NwkBeaconPayload.valid (parseBeaconPayload payload) := by
  refine agreeing_ite (agreeing_some rfl) (agreeing_bind _ fun _ => agreeing_ite
    (agreeing_some rfl) ?_)
  refine agreeing_bind _ fun _ => agreeing_bind _ fun _ => agreeing_bind _ fun _ =>
    agreeing_bind _ fun _ => agreeing_bind _ fun _ => ?_
  exact agreeing_bind _ fun _ => agreeing_bind _ fun _ => agreeing_some rfl

theorem parseNetworkStatusPayload_isSome (payload : List UInt8) :
    ∃ r, parseNetworkStatusPayload payload = some r := by
  by_cases hlen : payload.length < 3
  · exact ⟨_, if_pos hlen⟩
  · obtain ⟨status, h0⟩ := getElem?_isSome (by omega : 0 < payload.length)
    obtain ⟨destination, h1⟩ := read16_isSome (by omega : 1 + 1 < payload.length)
    exact ⟨_, by rw [parseNetworkStatusPayload, if_neg hlen, read8_eq, h0, h1]; rfl⟩

theorem parseRouteRecordPayload_isSome (payload : List UInt8) :
    ∃ r, parseRouteRecordPayload payload = some r := by
  by_cases hlen : payload.length < 1
  · exact ⟨_, if_pos hlen⟩
  · obtain ⟨relayCount, h0⟩ := getElem?_isSome (by omega : 0 < payload.length)
    simp only [parseRouteRecordPayload, if_neg hlen, read8_eq, h0, Option.bind_eq_bind,
      Option.bind_some]
    split <;> exact ⟨_, rfl⟩

theorem parseLinkStatusPayload_isSome (payload : List UInt8) :
    ∃ r, parseLinkStatusPayload payload = some r := by
  by_cases hlen : payload.length < 1
  · exact ⟨_, if_pos hlen⟩
  · obtain ⟨first, h0⟩ := getElem?_isSome (by omega : 0 < payload.length)
    simp only [parseLinkStatusPayload, if_neg hlen, read8_eq, h0, Option.bind_eq_bind,
      Option.bind_some]
    split <;> exact ⟨_, rfl⟩

theorem parseBeaconPayload_isSome (payload : List UInt8) :
    ∃ r, parseBeaconPayload payload = some r := by
  by_cases hlen : payload.length < kBeaconPayloadLen
  · exact ⟨_, if_pos hlen⟩
  have hlen' : 15 ≤ payload.length := Nat.not_lt.mp hlen
  obtain ⟨protocolId, h0⟩ := getElem?_isSome (by omega : 0 < payload.length)
  obtain ⟨p1, h1⟩ := getElem?_isSome (by omega : 1 < payload.length)
  obtain ⟨p2, h2⟩ := getElem?_isSome (by omega : 2 < payload.length)
  obtain ⟨epid, h3⟩ := read64_isSome (by omega : 3 + 8 ≤ payload.length)
  obtain ⟨t0, h11⟩ := getElem?_isSome (by omega : 11 < payload.length)
  obtain ⟨t1, h12⟩ := getElem?_isSome (by omega : 12 < payload.length)
  obtain ⟨t2, h13⟩ := getElem?_isSome (by omega : 13 < payload.length)
  obtain ⟨updateId, h14⟩ := getElem?_isSome (by omega : 14 < payload.length)
  simp only [parseBeaconPayload, if_neg hlen, read8_eq, h0, h1, h2, h3, h11, h12, h13, h14,
    Option.bind_eq_bind, Option.bind_some]
  split <;> exact ⟨_, rfl⟩

/-! ## Parsers that set the flag before the optional fields -/

/-- The IEEE address a Route Request announces is there. -/
def RouteRequestFits (payload : List UInt8) : Prop :=
  payload.length < 5 ∨ payload.getD 0 0 &&& 0x10 = 0 ∨ 13 ≤ payload.length

instance : DecidablePred RouteRequestFits := fun _ => inferInstanceAs (Decidable (_ ∨ _ ∨ _))

theorem parseRouteRequestPayload_flag (payload : List UInt8) :
    ∃ r, parseRouteRequestPayload payload = some r ∧
      (r.2.valid = r.1 ↔ RouteRequestFits payload) := by
  by_cases hlen : payload.length < 5
  · exact ⟨_, if_pos hlen, iff_of_true rfl (Or.inl hlen)⟩
  obtain ⟨options, h0⟩ := getElem?_isSome (by omega : 0 < payload.length)
  obtain ⟨requestId, h1⟩ := getElem?_isSome (by omega : 1 < payload.length)
  obtain ⟨destination, h2⟩ := read16_isSome (by omega : 2 + 1 < payload.length)
  obtain ⟨pathCost, h4⟩ := getElem?_isSome (by omega : 4 < payload.length)
  have hget : payload.getD 0 0 = options := by rw [List.getD_eq_getElem?_getD, h0]; rfl
  simp only [RouteRequestFits, hget, parseRouteRequestPayload, if_neg hlen, read8_eq, h0, h1, h2,
    h4, Option.bind_eq_bind, Option.bind_some]
  by_cases hpresent : options &&& 0x10 = 0
  · simp [hpresent]
  by_cases hshort : payload.length < 13
  · simp [hpresent, hshort, hlen]
  · obtain ⟨ieee, h5⟩ := read64_isSome (by omega : 5 + 8 ≤ payload.length)
    simp [hpresent, hshort, h5]
    omega

/-- The IEEE addresses a Route Reply announces are there. -/
def RouteReplyFits (payload : List UInt8) : Prop :=
  let options := payload.getD 0 0
  payload.length < 7 ∨ 7 + (if options &&& 0x10 = 0 then 0 else 8) +
    (if options &&& 0x20 = 0 then 0 else 8) ≤ payload.length

instance : DecidablePred RouteReplyFits := fun _ => inferInstanceAs (Decidable (_ ∨ _))

theorem parseRouteReplyPayload_flag (payload : List UInt8) :
    ∃ r, parseRouteReplyPayload payload = some r ∧ (r.2.valid = r.1 ↔ RouteReplyFits payload) := by
  by_cases hlen : payload.length < 7
  · exact ⟨_, if_pos hlen, iff_of_true rfl (Or.inl hlen)⟩
  obtain ⟨options, h0⟩ := getElem?_isSome (by omega : 0 < payload.length)
  obtain ⟨requestId, h1⟩ := getElem?_isSome (by omega : 1 < payload.length)
  obtain ⟨originator, h2⟩ := read16_isSome (by omega : 2 + 1 < payload.length)
  obtain ⟨responder, h4⟩ := read16_isSome (by omega : 4 + 1 < payload.length)
  obtain ⟨pathCost, h6⟩ := getElem?_isSome (by omega : 6 < payload.length)
  have hget : payload.getD 0 0 = options := by rw [List.getD_eq_getElem?_getD, h0]; rfl
  have h7 : 15 ≤ payload.length → ∃ v, read64 payload 7 = some v := fun h => read64_isSome h
  have h15 : 23 ≤ payload.length → ∃ v, read64 payload 15 = some v := fun h => read64_isSome h
  simp only [RouteReplyFits, hget, parseRouteReplyPayload, if_neg hlen, read8_eq, h0, h1, h2, h4,
    h6, Option.bind_eq_bind, Option.bind_some]
  by_cases ho : options &&& 0x10 = 0
  · by_cases hr : options &&& 0x20 = 0
    · simp [ho, hr, Nat.not_lt.mp hlen]
    by_cases hshort : payload.length < 15
    · simp [ho, hr, hshort, hlen]
    · obtain ⟨v, hv⟩ := h7 (by omega)
      simp [ho, hr, hshort, hv]
      omega
  by_cases hshort : payload.length < 15
  · simp [ho, hshort, hlen]
    omega
  obtain ⟨v, hv⟩ := h7 (by omega)
  by_cases hr : options &&& 0x20 = 0
  · simp [ho, hr, hshort, hv]
    omega
  by_cases hshort' : payload.length < 23
  · simp [ho, hr, hshort, hv, hshort', hlen]
  · obtain ⟨w, hw⟩ := h15 (by omega)
    simp [ho, hr, hshort, hv, hshort', hw]
    omega

end ZigbeeNwk

namespace ZigbeeAps

theorem parseAckFrame_agreeing (apdu : List UInt8) :
    Agreeing ApsAckFrame.valid (parseAckFrame apdu) := by
  refine agreeing_ite (agreeing_some rfl) (agreeing_bind _ fun _ => agreeing_ite
    (agreeing_some rfl) ?_)
  exact agreeing_bind _ fun _ => agreeing_bind _ fun _ => agreeing_bind _ fun _ =>
    agreeing_bind _ fun _ => agreeing_bind _ fun _ => agreeing_some rfl

def deliveryMode (fcf : UInt8) : UInt8 := (fcf >>> (2 : UInt8)) &&& 0x03

/-- The octets of the header that the frame control announces. -/
def headerLen (fcf : UInt8) : Nat :=
  (if deliveryMode fcf = apsDeliveryGroup then kGroupHeaderLen else kBaseHeaderLen) +
    if fcf &&& ((1 : UInt8) <<< 7) = 0 then 0 else 2

/-- An unsecured data frame to an endpoint or a group. -/
def TakenFcf (fcf : UInt8) : Prop :=
  fcf &&& 0x03 = apsFrameData ∧ fcf &&& ((1 : UInt8) <<< 5) = 0 ∧
    (deliveryMode fcf = apsDeliveryUnicast ∨ deliveryMode fcf = apsDeliveryGroup)

instance : DecidablePred TakenFcf := fun _ => inferInstanceAs (Decidable (_ ∧ _ ∧ (_ ∨ _)))

/-- The header that a data frame announces is there. -/
def HeaderFits (apdu : List UInt8) : Prop :=
  apdu.length < kBaseHeaderLen ∨ ¬ TakenFcf (apdu.getD 0 0) ∨
    headerLen (apdu.getD 0 0) ≤ apdu.length

instance : DecidablePred HeaderFits := fun _ => inferInstanceAs (Decidable (_ ∨ ¬ _ ∨ _))

theorem parseExtension_flag (apdu : List UInt8) {frame : ApsDataFrame} {hdr : Nat}
    (hvalid : frame.valid = true) (hhdr : hdr ≤ apdu.length) :
    ∃ r, parseExtension apdu frame hdr = some r ∧
      (r.2.valid = r.1 ↔ hdr + (if frame.extendedHeader then 2 else 0) ≤ apdu.length) := by
  cases hext : frame.extendedHeader with
  | false => exact ⟨_, by simp [parseExtension, hext]; rfl, by simp [hvalid, hhdr]⟩
  | true =>
    by_cases hshort : hdr + 2 > apdu.length
    · exact ⟨_, by simp [parseExtension, hext, hshort]; rfl, by simp [hvalid, hshort]⟩
    · obtain ⟨extFcf, h0⟩ := getElem?_isSome (by omega : hdr < apdu.length)
      obtain ⟨block, h1⟩ := getElem?_isSome (by omega : hdr + 1 < apdu.length)
      refine ⟨_, by simp [parseExtension, hext, hshort, h0, h1]; rfl, ?_⟩
      simp [hvalid]
      omega

theorem parseGroup_flag (apdu : List UInt8) {frame : ApsDataFrame} (hvalid : frame.valid = true) :
    ∃ r, parseGroup apdu frame = some r ∧
      (r.2.valid = r.1 ↔
        kGroupHeaderLen + (if frame.extendedHeader then 2 else 0) ≤ apdu.length) := by
  by_cases hlen : apdu.length < kGroupHeaderLen
  · refine ⟨_, if_pos hlen, ?_⟩
    simp [hvalid]
    omega
  have hlen' : 9 ≤ apdu.length := Nat.not_lt.mp hlen
  obtain ⟨group, h1⟩ := read16_isSome (by omega : 1 + 1 < apdu.length)
  obtain ⟨cluster, h3⟩ := read16_isSome (by omega : 3 + 1 < apdu.length)
  obtain ⟨profile, h5⟩ := read16_isSome (by omega : 5 + 1 < apdu.length)
  obtain ⟨src, h7⟩ := getElem?_isSome (by omega : 7 < apdu.length)
  obtain ⟨counter, h8⟩ := getElem?_isSome (by omega : 8 < apdu.length)
  simp only [parseGroup, if_neg hlen, read8_eq, h1, h3, h5, h7, h8, Option.bind_eq_bind,
    Option.bind_some]
  exact parseExtension_flag apdu hvalid hlen'

theorem parseUnicast_flag {apdu : List UInt8} {frame : ApsDataFrame} (hvalid : frame.valid = true)
    (hlen : kBaseHeaderLen ≤ apdu.length) :
    ∃ r, parseUnicast apdu frame = some r ∧
      (r.2.valid = r.1 ↔
        kBaseHeaderLen + (if frame.extendedHeader then 2 else 0) ≤ apdu.length) := by
  have hlen' : 8 ≤ apdu.length := hlen
  obtain ⟨dst, h1⟩ := getElem?_isSome (by omega : 1 < apdu.length)
  obtain ⟨cluster, h2⟩ := read16_isSome (by omega : 2 + 1 < apdu.length)
  obtain ⟨profile, h4⟩ := read16_isSome (by omega : 4 + 1 < apdu.length)
  obtain ⟨src, h6⟩ := getElem?_isSome (by omega : 6 < apdu.length)
  obtain ⟨counter, h7⟩ := getElem?_isSome (by omega : 7 < apdu.length)
  simp only [parseUnicast, read8_eq, h1, h2, h4, h6, h7, Option.bind_eq_bind, Option.bind_some]
  exact parseExtension_flag apdu hvalid hlen

theorem parseDataFrame_flag (apdu : List UInt8) :
    ∃ r, parseDataFrame apdu = some r ∧ (r.2.valid = r.1 ↔ HeaderFits apdu) := by
  by_cases hlen : apdu.length < kBaseHeaderLen
  · exact ⟨_, if_pos hlen, iff_of_true rfl (Or.inl hlen)⟩
  have hlen' := Nat.not_lt.mp hlen
  obtain ⟨fcf, h0⟩ := getElem?_isSome (Nat.lt_of_lt_of_le (by decide : 0 < kBaseHeaderLen) hlen')
  have hget : apdu.getD 0 0 = fcf := by rw [List.getD_eq_getElem?_getD, h0]; rfl
  have hextended : (if (fcf &&& ((1 : UInt8) <<< 7)) != 0 then 2 else 0) =
      if fcf &&& ((1 : UInt8) <<< 7) = 0 then 0 else 2 := by
    by_cases h : fcf &&& ((1 : UInt8) <<< 7) = 0
    · simp [h]
    · simp [h]
  simp only [HeaderFits, hget, parseDataFrame, if_neg hlen, read8_eq, h0, Option.bind_eq_bind,
    Option.bind_some]
  rw [← deliveryMode]
  by_cases htype : fcf &&& 0x03 = apsFrameData
  swap
  · exact ⟨_, if_pos htype, by simp [TakenFcf, htype]⟩
  rw [if_neg (not_not.mpr htype)]
  by_cases hsec : fcf &&& ((1 : UInt8) <<< 5) = 0
  swap
  · exact ⟨_, if_pos (by simp [hsec]), by simp [TakenFcf, hsec]⟩
  rw [if_neg (by simp [hsec])]
  by_cases hgroup : deliveryMode fcf = apsDeliveryGroup
  · have htaken : TakenFcf fcf := ⟨htype, hsec, Or.inr hgroup⟩
    rw [if_pos hgroup, headerLen, if_pos hgroup, ← hextended]
    simp only [hlen, htaken, not_true_eq_false, false_or]
    exact parseGroup_flag apdu rfl
  rw [if_neg hgroup]
  by_cases hunicast : deliveryMode fcf = apsDeliveryUnicast
  · have htaken : TakenFcf fcf := ⟨htype, hsec, Or.inl hunicast⟩
    rw [if_pos hunicast, headerLen, if_neg hgroup, ← hextended]
    simp only [hlen, htaken, not_true_eq_false, false_or]
    exact parseUnicast_flag rfl hlen'
  · exact ⟨_, if_neg hunicast, by simp [TakenFcf, hunicast, hgroup]⟩

end ZigbeeAps

theorem ZigbeeApsFragment.parseFragment_agreeing (apdu : List UInt8) :
    Agreeing ApsFragmentInfo.valid (parseFragment apdu) := by
  refine agreeing_ite (agreeing_some rfl) (agreeing_bind _ fun _ => agreeing_ite
    (agreeing_some rfl) (agreeing_ite (agreeing_some rfl) ?_))
  refine agreeing_bind _ fun _ => agreeing_bind _ fun _ => agreeing_bind _ fun _ =>
    agreeing_bind _ fun _ => agreeing_bind _ fun _ => ?_
  exact agreeing_bind _ fun _ => agreeing_bind _ fun _ => agreeing_some rfl

theorem ZigbeeApsFragment.parseFragment_isSome (apdu : List UInt8) :
    ∃ r, parseFragment apdu = some r := by
  by_cases hlen : apdu.length < kHeaderLen
  · exact ⟨_, if_pos hlen⟩
  have hlen' : 10 ≤ apdu.length := Nat.not_lt.mp hlen
  obtain ⟨fcf, h0⟩ := getElem?_isSome (by omega : 0 < apdu.length)
  obtain ⟨dst, h1⟩ := getElem?_isSome (by omega : 1 < apdu.length)
  obtain ⟨cluster, h2⟩ := read16_isSome (by omega : 2 + 1 < apdu.length)
  obtain ⟨profile, h4⟩ := read16_isSome (by omega : 4 + 1 < apdu.length)
  obtain ⟨src, h6⟩ := getElem?_isSome (by omega : 6 < apdu.length)
  obtain ⟨counter, h7⟩ := getElem?_isSome (by omega : 7 < apdu.length)
  obtain ⟨extFcf, h8⟩ := getElem?_isSome (by omega : 8 < apdu.length)
  obtain ⟨block, h9⟩ := getElem?_isSome (by omega : 9 < apdu.length)
  simp only [parseFragment, if_neg hlen, read8_eq, h0, h1, h2, h4, h6, h7, h8, h9,
    Option.bind_eq_bind, Option.bind_some]
  split
  · exact ⟨_, rfl⟩
  split <;> exact ⟨_, rfl⟩

namespace ZigbeeGreenPower

/-- The command and payload of a frame without security are there, and the payload fits. -/
def CommandFits (inp : List UInt8) : Prop :=
  let fc := inp.getD 0 0
  let extended := fc &&& kNwkFcExtension ≠ 0
  let e := if extended then inp.getD 1 0 else 0
  let idx := (if extended then 2 else 1) + 4
  inp.length < 6 ∨ (fc >>> 2) &&& 0x0F ≠ kGpProtocolVersion ∨ e &&& 0x07 ≠ 0 ∨
    (e >>> 3) &&& 0x03 ≠ gpSecNone ∨ (idx < inp.length ∧ inp.length ≤ idx + 1 + kMaxPayload)

instance : DecidablePred CommandFits :=
  fun _ => inferInstanceAs (Decidable (_ ∨ _ ∨ _ ∨ _ ∨ (_ ∧ _)))

theorem parseFrom_flag {inp : List UInt8} {idx : Nat} (e : UInt8) (hlen : idx + 4 ≤ inp.length) :
    (parseFrom inp idx e).2.valid = (parseFrom inp idx e).1 ↔
      e &&& 0x07 ≠ 0 ∨ (e >>> 3) &&& 0x03 ≠ gpSecNone ∨
        (idx + 4 < inp.length ∧ inp.length ≤ idx + 4 + 1 + kMaxPayload) := by
  by_cases happ : e &&& 0x07 = 0
  swap
  · simp [parseFrom, happ]
  by_cases hsec : (e >>> 3) &&& 0x03 = gpSecNone
  · have hcounted : ¬ gpSecNone ≥ gpSecFcMic := by decide
    simp only [parseFrom, happ, hsec, hcounted, if_false, false_and, ne_eq, not_true_eq_false,
      if_neg (Nat.not_lt.mpr hlen)]
    by_cases hcommand : idx + 4 ≥ inp.length
    · simp [hcommand]
    by_cases hbig : inp.length - (idx + 4 + 1) > kMaxPayload
    · simp [hcommand, hbig]
      omega
    · simp [hcommand, hbig]
      omega
  · simp only [parseFrom, happ, hsec, ne_eq, not_true_eq_false, if_false, not_false_eq_true,
      if_true, if_neg (Nat.not_lt.mpr hlen)]
    split <;> simp

theorem parse_flag (inp : List UInt8) :
    (parse inp).2.valid = (parse inp).1 ↔ CommandFits inp := by
  by_cases hlen : inp.length < 6
  · simp [parse, CommandFits, hlen]
  by_cases hversion : (inp.getD 0 0 >>> 2) &&& 0x0F = kGpProtocolVersion
  swap
  · refine iff_of_true ?_ (Or.inr (Or.inl hversion))
    simp only [parse, hlen, if_false, ne_eq, hversion, not_false_eq_true, if_true]
  simp only [parse, CommandFits, hlen, hversion, if_false, ne_eq, not_true_eq_false, false_or]
  by_cases hextended : inp.getD 0 0 &&& kNwkFcExtension = 0
  · simp only [hextended, not_true_eq_false, if_false]
    exact parseFrom_flag 0 (by omega)
  · simp only [hextended, not_false_eq_true, if_true]
    exact parseFrom_flag (inp.getD 1 0) (by omega)

end ZigbeeGreenPower

/-! ## All of them, and who looks at the flag -/

inductive FlagParser where
  | nwkData
  | nwkCommand
  | routeRequest
  | routeReply
  | networkStatus
  | routeRecord
  | linkStatus
  | beacon
  | apsData
  | apsAck
  | apsFragment
  | gpdf
deriving DecidableEq, Repr

namespace FlagParser

abbrev Result : FlagParser → Type
  | nwkData => ZigbeeNwk.NwkDataFrame
  | nwkCommand => ZigbeeNwk.NwkCommandFrame
  | routeRequest => ZigbeeNwk.NwkRouteRequestCommand
  | routeReply => ZigbeeNwk.NwkRouteReplyCommand
  | networkStatus => ZigbeeNwk.NwkNetworkStatusCommand
  | routeRecord => ZigbeeNwk.NwkRouteRecordCommand
  | linkStatus => ZigbeeNwk.NwkLinkStatusCommand
  | beacon => ZigbeeNwk.NwkBeaconPayload
  | apsData => ZigbeeAps.ApsDataFrame
  | apsAck => ZigbeeAps.ApsAckFrame
  | apsFragment => ApsFragmentInfo
  | gpdf => GpdfFrame

/-- The parser on its bytes: what it returns and the structure it leaves. -/
def run : (p : FlagParser) → List UInt8 → Option (Bool × p.Result)
  | nwkData => ZigbeeNwk.parseDataFrame
  | nwkCommand => ZigbeeNwk.parseCommandFrame
  | routeRequest => ZigbeeNwk.parseRouteRequestPayload
  | routeReply => ZigbeeNwk.parseRouteReplyPayload
  | networkStatus => ZigbeeNwk.parseNetworkStatusPayload
  | routeRecord => ZigbeeNwk.parseRouteRecordPayload
  | linkStatus => ZigbeeNwk.parseLinkStatusPayload
  | beacon => ZigbeeNwk.parseBeaconPayload
  | apsData => ZigbeeAps.parseDataFrame
  | apsAck => ZigbeeAps.parseAckFrame
  | apsFragment => ZigbeeApsFragment.parseFragment
  | gpdf => fun inp => some (ZigbeeGreenPower.parse inp)

def valid : (p : FlagParser) → p.Result → Bool
  | nwkData => ZigbeeNwk.NwkDataFrame.valid
  | nwkCommand => ZigbeeNwk.NwkCommandFrame.valid
  | routeRequest => ZigbeeNwk.NwkRouteRequestCommand.valid
  | routeReply => ZigbeeNwk.NwkRouteReplyCommand.valid
  | networkStatus => ZigbeeNwk.NwkNetworkStatusCommand.valid
  | routeRecord => ZigbeeNwk.NwkRouteRecordCommand.valid
  | linkStatus => ZigbeeNwk.NwkLinkStatusCommand.valid
  | beacon => ZigbeeNwk.NwkBeaconPayload.valid
  | apsData => ZigbeeAps.ApsDataFrame.valid
  | apsAck => ZigbeeAps.ApsAckFrame.valid
  | apsFragment => ApsFragmentInfo.valid
  | gpdf => GpdfFrame.valid

/-- The parser returns, and what it returns is what the flag says. -/
def Agrees (p : FlagParser) (bs : List UInt8) : Prop :=
  ∃ r, p.run bs = some r ∧ p.valid r.2 = r.1

/-- The consumers that look at the flag alone leave their state as it was. -/
def Ignored : (p : FlagParser) → List UInt8 → p.Result → Prop
  | routeRequest, _, rreq => ∀ (node : ZigbeeRouting) selfShort isRouter previousHop originator
      linkCost nowMs, node.handleRouteRequest selfShort isRouter previousHop originator rreq
        linkCost nowMs = (node, { duplicate := true, replyTo := previousHop })
  | routeReply, _, rrep => ∀ (node : ZigbeeRouting) selfShort previousHop linkCost nowMs,
      node.handleRouteReply selfShort previousHop rrep linkCost nowMs = (node, {})
  | linkStatus, bs, command => ∀ (net : ZigbeeNetwork) senderShort lqi nowMs,
      net.handleLinkStatus senderShort bs command lqi nowMs = some (net, false)
  | beacon, _, payload => ∀ (net : ZigbeeNetwork) channel frame rssi lqi requiredExtendedPanId,
      net.noteBeacon channel frame payload rssi lqi requiredExtendedPanId = (net, false)
  | apsFragment, bs, info => ∀ r : ZigbeeApsReassembler, r.addBlock info bs = (r, false)
  | _, _, _ => True

/-- The fields a parser meets after it has set the flag are there. -/
def LateFieldsFit : FlagParser → List UInt8 → Prop
  | routeRequest, bs => ZigbeeNwk.RouteRequestFits bs
  | routeReply, bs => ZigbeeNwk.RouteReplyFits bs
  | apsData, bs => ZigbeeAps.HeaderFits bs
  | gpdf, bs => ZigbeeGreenPower.CommandFits bs
  | _, _ => True

theorem ignored_of_invalid {p : FlagParser} (bs : List UInt8) {result : p.Result}
    (h : p.valid result = false) : p.Ignored bs result := by
  cases p with
  | routeRequest =>
    intro node selfShort isRouter previousHop originator linkCost nowMs
    exact if_pos (by rw [show result.valid = false from h]; rfl)
  | routeReply =>
    intro node selfShort previousHop linkCost nowMs
    exact if_pos (by rw [show result.valid = false from h]; rfl)
  | linkStatus =>
    intro net senderShort lqi nowMs
    exact if_pos (by rw [show result.valid = false from h]; rfl)
  | beacon =>
    intro net channel frame rssi lqi requiredExtendedPanId
    exact if_pos (by rw [show result.valid = false from h, Bool.not_false, Bool.or_true])
  | apsFragment =>
    intro r
    exact if_pos (by rw [show result.valid = false from h]; rfl)
  | _ => exact True.intro

private theorem agrees_of_agreeing {p : FlagParser} {bs : List UInt8}
    (hrun : ∃ r, p.run bs = some r) (h : Agreeing p.valid (p.run bs)) :
    p.Agrees bs ↔ True := by
  obtain ⟨r, hr⟩ := hrun
  exact iff_true_intro ⟨r, hr, h r hr⟩

private theorem agrees_of_flag {p : FlagParser} {bs : List UInt8} {fits : Prop}
    (h : ∃ r, p.run bs = some r ∧ (p.valid r.2 = r.1 ↔ fits)) : p.Agrees bs ↔ fits := by
  obtain ⟨r, hrun, hr⟩ := h
  rw [← hr]
  constructor
  · rintro ⟨r', hrun', hr'⟩
    rw [hrun, Option.some.injEq] at hrun'
    rwa [hrun']
  · exact fun hr => ⟨r, hrun, hr⟩

theorem agrees_iff (p : FlagParser) (bs : List UInt8) : p.Agrees bs ↔ p.LateFieldsFit bs := by
  cases p with
  | nwkData =>
    exact agrees_of_agreeing (ZigbeeNwk.parseDataFrame_isSome bs)
      (ZigbeeNwk.parseDataFrame_agreeing bs)
  | nwkCommand =>
    exact agrees_of_agreeing (ZigbeeNwk.parseCommandFrame_isSome bs)
      (ZigbeeNwk.parseCommandFrame_agreeing bs)
  | routeRequest => exact agrees_of_flag (ZigbeeNwk.parseRouteRequestPayload_flag bs)
  | routeReply => exact agrees_of_flag (ZigbeeNwk.parseRouteReplyPayload_flag bs)
  | networkStatus =>
    exact agrees_of_agreeing (ZigbeeNwk.parseNetworkStatusPayload_isSome bs)
      (ZigbeeNwk.parseNetworkStatusPayload_agreeing bs)
  | routeRecord =>
    exact agrees_of_agreeing (ZigbeeNwk.parseRouteRecordPayload_isSome bs)
      (ZigbeeNwk.parseRouteRecordPayload_agreeing bs)
  | linkStatus =>
    exact agrees_of_agreeing (ZigbeeNwk.parseLinkStatusPayload_isSome bs)
      (ZigbeeNwk.parseLinkStatusPayload_agreeing bs)
  | beacon =>
    exact agrees_of_agreeing (ZigbeeNwk.parseBeaconPayload_isSome bs)
      (ZigbeeNwk.parseBeaconPayload_agreeing bs)
  | apsData => exact agrees_of_flag (ZigbeeAps.parseDataFrame_flag bs)
  | apsAck =>
    exact agrees_of_agreeing (ZigbeeAps.parseAckFrame_isSome bs)
      (ZigbeeAps.parseAckFrame_agreeing bs)
  | apsFragment =>
    exact agrees_of_agreeing (ZigbeeApsFragment.parseFragment_isSome bs)
      (ZigbeeApsFragment.parseFragment_agreeing bs)
  | gpdf => exact agrees_of_flag ⟨_, rfl, ZigbeeGreenPower.parse_flag bs⟩

/-- The result and the flag agree, and no consumer acts on rejected bytes, exactly when the fields
behind the place where the flag is set are there. -/
theorem flags_agree_iff (p : FlagParser) (bs : List UInt8) :
    (p.Agrees bs ∧ ∀ result, p.run bs = some (false, result) → p.Ignored bs result) ↔
      p.LateFieldsFit bs := by
  rw [← agrees_iff, and_iff_left_iff_imp]
  rintro ⟨r, hrun, hr⟩ result hresult
  rw [hrun, Option.some.injEq] at hresult
  subst hresult
  exact ignored_of_invalid bs hr

/-- A Route Request that ends before the address it announces is rejected, marked valid, and taken:
the node answers it and installs a route. The other three parsers slip in the same way. -/
theorem rejected_but_valid :
    let rreq : ZigbeeNwk.NwkRouteRequestCommand :=
      { valid := true, destinationIeeePresent := true, routeRequestId := 1, destination := 0x1234 }
    let node := ZigbeeRouting.init (List.replicate 2 {})
    routeRequest.run [0x10, 0x01, 0x34, 0x12, 0x00] = some (false, rreq) ∧
      ¬ routeRequest.Ignored [0x10, 0x01, 0x34, 0x12, 0x00] rreq ∧
      (node.handleRouteRequest 0x1234 true 0x0001 0x0002 rreq 1 0).2.replyAsDestination = true ∧
      (node.handleRouteRequest 0x1234 true 0x0001 0x0002 rreq 1 0).1.nextHopFor 0x0002 = 0x0001 ∧
      ¬ routeRequest.Agrees [0x10, 0x01, 0x34, 0x12, 0x00] ∧
      ¬ routeReply.Agrees [0x30, 1, 2, 0, 3, 0, 4, 0, 0, 0, 0, 0, 0, 0, 0] ∧
      ¬ apsData.Agrees [0x0C, 1, 0, 6, 0, 4, 1, 1] ∧ ¬ apsData.Agrees [0x80, 1, 6, 0, 4, 1, 1, 1] ∧
      ¬ gpdf.Agrees [0x8C, 0x00, 1, 0, 0, 0] := by
  intro rreq node
  have hreply : (node.handleRouteRequest 0x1234 true 0x0001 0x0002 rreq 1 0).2.replyAsDestination =
      true := by decide
  have hslips : ¬ ZigbeeNwk.RouteRequestFits [0x10, 0x01, 0x34, 0x12, 0x00] ∧
      ¬ ZigbeeNwk.RouteReplyFits [0x30, 1, 2, 0, 3, 0, 4, 0, 0, 0, 0, 0, 0, 0, 0] ∧
      ¬ ZigbeeAps.HeaderFits [0x0C, 1, 0, 6, 0, 4, 1, 1] ∧
      ¬ ZigbeeAps.HeaderFits [0x80, 1, 6, 0, 4, 1, 1, 1] ∧
      ¬ ZigbeeGreenPower.CommandFits [0x8C, 0x00, 1, 0, 0, 0] := by decide
  refine ⟨by decide, ?_, hreply, by decide, ?_⟩
  · intro hignored
    rw [hignored node 0x1234 true 0x0001 0x0002 1 0] at hreply
    exact absurd hreply (by decide)
  · simp only [agrees_iff]
    exact hslips

end FlagParser

end NiusZigbee
