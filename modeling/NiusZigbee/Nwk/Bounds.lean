import NiusZigbee.Nwk.Command

/-!
# Where the NWK parsers point

What an accepted NPDU or command payload lets its accessors reach. The data frame and Route Record
parsers compute the size of their list in `uint8_t`: they stay inside exactly while it does not
wrap.
-/

namespace NiusZigbee.ZigbeeNwk

open ByteCodec

/-! ## The source-route bit in the received bytes -/

theorem sourceRoute_join16 (lo hi : UInt8) :
    (decodeFcf (join16 lo hi)).sourceRoute = (hi &&& 0x04 != 0) := by
  have hall : ∀ i : Fin 256, ((UInt8.ofNat i.1 &&& 0x04).toUInt16 <<< 8 != 0) =
      (UInt8.ofNat i.1 &&& 0x04 != 0) := by decide +kernel
  have hi' : hi = UInt8.ofNat hi.toNat := by simp
  simp only [decodeFcf, fcfBit]
  rw [show (1 : UInt16) <<< 10 = (0x04 : UInt8).toUInt16 <<< 8 from rfl, join16_and_high, hi']
  exact hall ⟨hi.toNat, hi.toNat_lt⟩

/-! ## The frame parsers read inside the NPDU -/

theorem parseSubframe_isSome (npdu : List UInt8) (sourceRoute : Bool) :
    ∃ r, parseSubframe npdu sourceRoute = some r := by
  cases sourceRoute with
  | false => exact ⟨_, rfl⟩
  | true =>
    by_cases hlen : npdu.length < (kBaseHeaderLen + 2) % 256
    · exact ⟨none, by simp [parseSubframe, hlen]⟩
    · have hlen' : kBaseHeaderLen + 2 ≤ npdu.length := Nat.not_lt.mp hlen
      obtain ⟨count, hcount⟩ := getElem?_isSome (by omega : kBaseHeaderLen < npdu.length)
      obtain ⟨index, hindex⟩ := getElem?_isSome (by omega : kBaseHeaderLen + 1 < npdu.length)
      simp only [parseSubframe, Bool.not_true, Bool.false_eq_true, if_false, if_neg hlen, read8_eq,
        hcount, hindex, Option.bind_eq_bind, Option.bind_some]
      split <;> exact ⟨_, rfl⟩

theorem parseDataFrame_isSome (npdu : List UInt8) : ∃ r, parseDataFrame npdu = some r := by
  by_cases hlen : npdu.length < kBaseHeaderLen
  · exact ⟨_, by rw [parseDataFrame, if_pos hlen]⟩
  have hlen' : 8 ≤ npdu.length := Nat.not_lt.mp hlen
  obtain ⟨fcf, h0⟩ := read16_isSome (by omega : 0 + 1 < npdu.length)
  obtain ⟨dst, h2⟩ := read16_isSome (by omega : 2 + 1 < npdu.length)
  obtain ⟨src, h4⟩ := read16_isSome (by omega : 4 + 1 < npdu.length)
  obtain ⟨radius, h6⟩ := getElem?_isSome (by omega : 6 < npdu.length)
  obtain ⟨sequence, h7⟩ := getElem?_isSome (by omega : 7 < npdu.length)
  obtain ⟨sub, hsub⟩ := parseSubframe_isSome npdu (decodeFcf fcf).sourceRoute
  simp only [parseDataFrame, if_neg hlen, read8_eq, h0, h2, h4, h6, h7, hsub,
    Option.bind_eq_bind, Option.bind_some]
  split
  · exact ⟨_, rfl⟩
  split
  · exact ⟨_, rfl⟩
  · cases sub <;> exact ⟨_, rfl⟩

theorem parseCommandFrame_isSome (npdu : List UInt8) : ∃ r, parseCommandFrame npdu = some r := by
  by_cases hlen : npdu.length < kBaseHeaderLen + 1
  · exact ⟨_, by rw [parseCommandFrame, if_pos hlen]⟩
  have hlen' : 9 ≤ npdu.length := Nat.not_lt.mp hlen
  obtain ⟨fcf, h0⟩ := read16_isSome (by omega : 0 + 1 < npdu.length)
  obtain ⟨dst, h2⟩ := read16_isSome (by omega : 2 + 1 < npdu.length)
  obtain ⟨src, h4⟩ := read16_isSome (by omega : 4 + 1 < npdu.length)
  obtain ⟨radius, h6⟩ := getElem?_isSome (by omega : 6 < npdu.length)
  obtain ⟨sequence, h7⟩ := getElem?_isSome (by omega : 7 < npdu.length)
  obtain ⟨commandId, h8⟩ := getElem?_isSome (by omega : 8 < npdu.length)
  simp only [parseCommandFrame, if_neg hlen, read8_eq, h0, h2, h4, h6, h7, h8,
    Option.bind_eq_bind, Option.bind_some]
  split
  · exact ⟨_, rfl⟩
  split <;> exact ⟨_, rfl⟩

theorem parseCommandFrame_length {npdu : List UInt8} {frame : NwkCommandFrame}
    (h : parseCommandFrame npdu = some (true, frame)) : kBaseHeaderLen + 1 ≤ npdu.length := by
  by_contra hshort
  simp [parseCommandFrame, Nat.not_le.mp hshort] at h

/-! ## Accepted frames -/

theorem parseSubframe_accepts {npdu : List UInt8} {sourceRoute : Bool} {sub : Subframe}
    (h : parseSubframe npdu sourceRoute = some (some sub)) :
    (sourceRoute = false ∧ sub = ⟨0, 0, none, kBaseHeaderLen⟩) ∨
    (sourceRoute = true ∧ kBaseHeaderLen + 2 ≤ npdu.length ∧
      npdu[8]? = some sub.relayCount ∧ npdu[9]? = some sub.relayIndex ∧
      sub.relayList = some (kBaseHeaderLen + 2) ∧
      sub.offset = (kBaseHeaderLen + (2 + sub.relayCount.toNat * 2) % 256) % 256 ∧
      sub.offset ≤ npdu.length) := by
  cases sourceRoute with
  | false => exact Or.inl ⟨rfl, by simpa [parseSubframe] using h.symm⟩
  | true =>
    right
    have hlen : ¬ npdu.length < (kBaseHeaderLen + 2) % 256 := by
      intro hshort
      simp [parseSubframe, hshort] at h
    simp only [parseSubframe, Bool.not_true, Bool.false_eq_true, if_false, hlen, read8_eq,
      Option.bind_eq_bind, Option.bind_eq_some_iff] at h
    obtain ⟨count, hcount, index, hindex, h⟩ := h
    split at h
    · simp at h
    · next hfit =>
      simp only [Option.pure_def, Option.some.injEq] at h
      subst h
      exact ⟨rfl, by simp only [kBaseHeaderLen] at hlen ⊢; omega, hcount, hindex, rfl, rfl,
        Nat.not_lt.mp hfit⟩

theorem parseDataFrame_accepts {npdu : List UInt8} {frame : NwkDataFrame}
    (h : parseDataFrame npdu = some (true, frame)) :
    ∃ fcf sub, kBaseHeaderLen ≤ npdu.length ∧ read16 npdu 0 = some fcf ∧
      frame.toNwkFcf = decodeFcf fcf ∧ frame.valid = true ∧
      parseSubframe npdu frame.sourceRoute = some (some sub) ∧
      frame.srRelayCount = sub.relayCount ∧ frame.srRelayIndex = sub.relayIndex ∧
      frame.srRelayList = sub.relayList ∧ frame.payload = some sub.offset ∧
      frame.payloadLen = (npdu.length - sub.offset) % 256 := by
  have hlen : ¬ npdu.length < kBaseHeaderLen := by
    intro hshort
    simp [parseDataFrame, hshort] at h
  simp only [parseDataFrame, if_neg hlen, Option.bind_eq_bind, Option.bind_eq_some_iff] at h
  obtain ⟨fcf, hfcf, h⟩ := h
  split at h
  · simp at h
  split at h
  · simp at h
  simp only [Option.bind_eq_some_iff] at h
  obtain ⟨sub?, hsub, h⟩ := h
  cases sub? with
  | none => simp at h
  | some sub =>
    simp only [Option.bind_eq_some_iff, Option.pure_def, Option.some.injEq, Prod.mk.injEq,
      true_and] at h
    obtain ⟨dst, -, src, -, radius, -, sequence, -, rfl⟩ := h
    exact ⟨fcf, sub, Nat.not_lt.mp hlen, hfcf, rfl, rfl, hsub, rfl, rfl, rfl, rfl, rfl⟩

/-! ## Staying inside -/

/-- The payload slice and everything the accessors of a parsed data frame read lie inside. -/
def NwkDataFrame.Inside (npdu : List UInt8) (frame : NwkDataFrame) : Prop :=
  (∃ off, frame.payload = some off ∧ off + frame.payloadLen ≤ npdu.length) ∧
    (∀ index < frame.srRelayCount, ∃ relay,
      getDataFrameRelay npdu frame index = some (some relay)) ∧
    ∀ selfShort, ∃ action, sourceRouteAction npdu frame selfShort = some action

def NwkRouteRecordCommand.Inside (payload : List UInt8) (command : NwkRouteRecordCommand) : Prop :=
  ∀ index < command.relayCount, ∃ relay,
    getRouteRecordRelay payload command index = some (some relay)

def NwkLinkStatusCommand.Inside (payload : List UInt8) (command : NwkLinkStatusCommand) : Prop :=
  ∀ index < command.entryCount, ∃ entry,
    getLinkStatusEntry payload command index = some (some entry)

/-- A data frame without the source-route bit, or with a relay count whose size does not wrap. -/
def RelayCountFits (npdu : List UInt8) : Prop :=
  npdu.getD 1 0 &&& 0x04 = 0 ∨ (npdu.getD 8 0).toNat ≤ 122

private theorem relay_read {bs : List UInt8} {base count : Nat} {index : Nat}
    (h : index < count) (hfit : base + count * 2 ≤ bs.length) :
    ∃ v, read16 bs (base + index * 2) = some v := read16_isSome (by omega)

private theorem relays_inside {npdu : List UInt8} {frame : NwkDataFrame}
    (hvalid : frame.valid = true) (hroute : frame.sourceRoute = true)
    (hlist : frame.srRelayList = some (kBaseHeaderLen + 2))
    (hfit : kBaseHeaderLen + 2 + frame.srRelayCount.toNat * 2 ≤ npdu.length) :
    (∀ index < frame.srRelayCount, ∃ relay,
      getDataFrameRelay npdu frame index = some (some relay)) ∧
    ∀ selfShort, ∃ action, sourceRouteAction npdu frame selfShort = some action := by
  have hread {i : UInt8} (hi : i < frame.srRelayCount) :
      ∃ v, read16 npdu (kBaseHeaderLen + 2 + i.toNat * 2) = some v :=
    relay_read (UInt8.lt_iff_toNat_lt.mp hi) hfit
  refine ⟨?_, ?_⟩
  · intro index hindex
    obtain ⟨v, hv⟩ := hread hindex
    exact ⟨v, by simp [getDataFrameRelay, hlist, hvalid, hroute, UInt8.not_le.mpr hindex, hv]⟩
  · intro selfShort
    simp only [sourceRouteAction, hvalid, hroute, hlist, Bool.not_true, Bool.or_self,
      Bool.false_eq_true, if_false]
    split
    · exact ⟨_, rfl⟩
    split
    · exact ⟨_, rfl⟩
    next _ hindex =>
      obtain ⟨expected, hexpected⟩ := hread (UInt8.not_le.mp hindex)
      simp only [hexpected, Option.bind_eq_bind, Option.bind_some]
      split
      · exact ⟨_, rfl⟩
      split
      · next hnext =>
        obtain ⟨v, hv⟩ := hread hnext
        exact ⟨_, by simp only [hv, Option.bind_some]; rfl⟩
      · exact ⟨_, rfl⟩

/-- The byte strings an accepted data frame keeps its accessors inside. -/
theorem parseDataFrame_inside_iff {npdu : List UInt8} (hlen : npdu.length ≤ 255)
    {frame : NwkDataFrame} (h : parseDataFrame npdu = some (true, frame)) :
    frame.Inside npdu ↔ RelayCountFits npdu := by
  obtain ⟨fcf, sub, hbase, hfcf, hdecode, hvalid, hsub, hcount, hindex, hlist, hpayload, hplen⟩ :=
    parseDataFrame_accepts h
  have hbit : (npdu.getD 1 0 &&& 0x04 != 0) = frame.sourceRoute := by
    simp only [kBaseHeaderLen] at hbase
    have h0 : npdu[0]? = some npdu[0] := List.getElem?_eq_getElem (by omega)
    have h1 : npdu[1]? = some npdu[1] := List.getElem?_eq_getElem (by omega)
    have hword : fcf = join16 npdu[0] npdu[1] := by simpa [read16, h0, h1] using hfcf.symm
    rw [hdecode, hword, sourceRoute_join16]
    simp [h1]
  rcases parseSubframe_accepts hsub with ⟨hroute, rfl⟩ | ⟨hroute, hten, h8, h9, hl, hoff, hfit⟩
  · have hclear : npdu.getD 1 0 &&& 0x04 = 0 := by simpa [hroute] using hbit
    refine iff_of_true ⟨⟨_, hpayload, ?_⟩, ?_, ?_⟩ (Or.inl hclear)
    · simp only [hplen] at hbase ⊢
      omega
    · intro index hi
      rw [hcount] at hi
      exact absurd hi (UInt8.not_lt_zero)
    · intro selfShort
      exact ⟨.drop, by simp [sourceRouteAction, hroute]⟩
  · have hset : npdu.getD 1 0 &&& 0x04 ≠ 0 := by simpa [hroute] using hbit
    have hc : npdu.getD 8 0 = sub.relayCount := by simp [h8]
    have hlist' := hlist.trans hl
    simp only [RelayCountFits, hset, false_or, hc]
    constructor
    · rintro ⟨-, hrelays, -⟩
      by_contra hover
      have hlast : (sub.relayCount - 1).toNat = sub.relayCount.toNat - 1 := by
        rw [UInt8.toNat_sub_of_le _ _ (UInt8.le_iff_toNat_le.mpr (by
          rw [UInt8.toNat_one]; omega)), UInt8.toNat_one]
      obtain ⟨relay, hrelay⟩ := hrelays (sub.relayCount - 1) (by
        rw [hcount, UInt8.lt_iff_toNat_lt, hlast]; omega)
      -- the last relay's second byte is at index 255 or later
      have hnone : read16 npdu (kBaseHeaderLen + 2 + (sub.relayCount - 1).toNat * 2) = none := by
        apply read16_eq_none
        rw [hlast]
        simp only [kBaseHeaderLen]
        omega
      simp [getDataFrameRelay, hlist', hnone] at hrelay
    · intro hle
      have hoff' : sub.offset = kBaseHeaderLen + (2 + sub.relayCount.toNat * 2) := by
        rw [hoff]
        simp only [kBaseHeaderLen]
        omega
      refine ⟨⟨_, hpayload, by rw [hplen]; omega⟩, relays_inside hvalid hroute hlist' ?_⟩
      rw [hcount]
      omega

theorem parseRouteRecordPayload_inside_iff {payload : List UInt8} (hlen : payload.length ≤ 255)
    {command : NwkRouteRecordCommand}
    (h : parseRouteRecordPayload payload = some (true, command)) :
    command.Inside payload ↔ (payload.getD 0 0).toNat ≤ 127 := by
  have hone : ¬ payload.length < 1 := by
    intro hshort
    simp [parseRouteRecordPayload, hshort] at h
  obtain ⟨count, hcount⟩ : ∃ b, payload[0]? = some b := getElem?_isSome (by omega)
  simp only [parseRouteRecordPayload, if_neg hone, read8_eq, hcount, Option.bind_eq_bind,
    Option.bind_some] at h
  split at h
  · simp at h
  next hfit =>
  simp only [Option.pure_def, Option.some.injEq, Prod.mk.injEq, true_and] at h
  subst h
  have hget : (payload.getD 0 0).toNat = count.toNat := by simp [hcount]
  rw [hget]
  constructor
  · intro hrelays
    by_contra hover
    have hlast : (count - 1).toNat = count.toNat - 1 := by
      rw [UInt8.toNat_sub_of_le _ _ (UInt8.le_iff_toNat_le.mpr (by
        rw [UInt8.toNat_one]; omega)), UInt8.toNat_one]
    have hlt : count - 1 < count := by
      rw [UInt8.lt_iff_toNat_lt, hlast]
      omega
    obtain ⟨relay, hrelay⟩ := hrelays (count - 1) hlt
    -- the last relay's second byte is at index 256 or later
    have hnone : read16 payload (1 + (count - 1).toNat * 2) = none := by
      apply read16_eq_none
      rw [hlast]
      omega
    simp [getRouteRecordRelay, hnone] at hrelay
  · intro hle index hindex
    have hlt : index.toNat < count.toNat := UInt8.lt_iff_toNat_lt.mp hindex
    obtain ⟨v, hv⟩ : ∃ v, read16 payload (1 + index.toNat * 2) = some v :=
      relay_read hlt (by omega)
    exact ⟨v, by simp [getRouteRecordRelay, UInt8.not_le.mpr hindex, hv]⟩

theorem parseLinkStatusPayload_inside {payload : List UInt8} {command : NwkLinkStatusCommand}
    (h : parseLinkStatusPayload payload = some (true, command)) : command.Inside payload := by
  have hone : ¬ payload.length < 1 := by
    intro hshort
    simp [parseLinkStatusPayload, hshort] at h
  obtain ⟨first, hfirst⟩ : ∃ b, payload[0]? = some b := getElem?_isSome (by omega)
  simp only [parseLinkStatusPayload, if_neg hone, read8_eq, hfirst, Option.bind_eq_bind,
    Option.bind_some] at h
  split at h
  · simp at h
  next hfit =>
  simp only [Option.pure_def, Option.some.injEq, Prod.mk.injEq, true_and] at h
  subst h
  intro index hindex
  have hlt := UInt8.lt_iff_toNat_lt.mp hindex
  dsimp only at hlt
  obtain ⟨address, haddress⟩ : ∃ v, read16 payload (1 + 3 * index.toNat) = some v :=
    read16_isSome (by omega)
  obtain ⟨costs, hcosts⟩ : ∃ b, payload[1 + 3 * index.toNat + 2]? = some b :=
    getElem?_isSome (by omega)
  exact ⟨_, by simp [getLinkStatusEntry, UInt8.not_le.mpr hindex, haddress, hcosts]; rfl⟩

/-- What the three parsers accept keeps every later access inside the bytes exactly when the list
size they compute in `uint8_t` does not wrap. -/
theorem parsers_inside_iff (bs : List UInt8) (hlen : bs.length ≤ 255) :
    (∀ frame, parseDataFrame bs = some (true, frame) → (frame.Inside bs ↔ RelayCountFits bs)) ∧
    (∀ command, parseRouteRecordPayload bs = some (true, command) →
      (command.Inside bs ↔ (bs.getD 0 0).toNat ≤ 127)) ∧
    ∀ command, parseLinkStatusPayload bs = some (true, command) → command.Inside bs := by
  refine ⟨?_, ?_, ?_⟩
  · intro frame h
    exact parseDataFrame_inside_iff hlen h
  · intro command h
    exact parseRouteRecordPayload_inside_iff hlen h
  · intro command h
    exact parseLinkStatusPayload_inside h

/-- A frame routed over one relay, with one payload byte. -/
theorem parsers_inside_one_relay :
    ∃ frame, parseDataFrame [0x08, 0x04, 0x34, 0x12, 0x00, 0x00, 30, 7, 1, 0, 0x11, 0x11, 0xAA] =
        some (true, frame) ∧
      frame.Inside [0x08, 0x04, 0x34, 0x12, 0x00, 0x00, 30, 7, 1, 0, 0x11, 0x11, 0xAA] :=
  ⟨_, rfl, ((parsers_inside_iff _ (by decide)).1 _ rfl).mpr (Or.inr (by decide))⟩

/-- A relay count of 127 makes the subframe length wrap to 0, one of 128 the record length to 1. -/
theorem wrapped_counts_outside :
    (∃ frame, parseDataFrame [0x08, 0x04, 0x34, 0x12, 0x00, 0x00, 30, 7, 127, 0] =
        some (true, frame) ∧
      ¬ frame.Inside [0x08, 0x04, 0x34, 0x12, 0x00, 0x00, 30, 7, 127, 0]) ∧
    ∃ command, parseRouteRecordPayload [128] = some (true, command) ∧ ¬ command.Inside [128] := by
  refine ⟨⟨_, rfl, ?_⟩, ⟨_, rfl, ?_⟩⟩
  · rintro ⟨-, hrelays, -⟩
    obtain ⟨relay, hrelay⟩ := hrelays 0 (by decide)
    simp [getDataFrameRelay, read16, decodeFcf, fcfBit, join16, kBaseHeaderLen] at hrelay
  · intro hrelays
    obtain ⟨relay, hrelay⟩ := hrelays 0 (by decide)
    simp [getRouteRecordRelay, read16] at hrelay

end NiusZigbee.ZigbeeNwk
