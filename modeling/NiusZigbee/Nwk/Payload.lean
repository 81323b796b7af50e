import NiusZigbee.Nwk.Command

/-!
# What the NWK payload parsers read back

For each payload builder: the bytes it leaves when they fit, and the parse of these bytes.
-/

namespace NiusZigbee.ZigbeeNwk

open ByteCodec OutBuffer

/-! ## Packed bytes -/

private theorem routeRequest_options (a b c : Bool) :
    let options := optionBit a 0x08 ||| optionBit b 0x10 ||| optionBit c 0x20
    ((options &&& 0x08) != 0) = a ∧ ((options &&& 0x10) != 0) = b ∧
      ((options &&& 0x20) != 0) = c := by
  cases a <;> cases b <;> cases c <;> decide

private theorem routeReply_options (a b c : Bool) :
    let options := optionBit a 0x10 ||| optionBit b 0x20 ||| optionBit c 0x40
    ((options &&& 0x10) != 0) = a ∧ ((options &&& 0x20) != 0) = b ∧
      ((options &&& 0x40) != 0) = c := by
  cases a <;> cases b <;> cases c <;> decide

private theorem leave_options (a b c : Bool) :
    let options := optionBit a 0x20 ||| optionBit b 0x40 ||| optionBit c 0x80
    ((options &&& 0x20) != 0) = a ∧ ((options &&& 0x40) != 0) = b ∧
      ((options &&& 0x80) != 0) = c := by
  cases a <;> cases b <;> cases c <;> decide

private theorem linkStatus_options {n : Nat} (h : n ≤ 31) (a b : Bool) :
    linkStatusOptions n a b &&& 0x1F = n.toUInt8 ∧
      ((linkStatusOptions n a b &&& 0x20) != 0) = a ∧
      ((linkStatusOptions n a b &&& 0x40) != 0) = b := by
  have hall : ∀ i : Fin 32, ∀ a b : Bool,
      linkStatusOptions i a b &&& 0x1F = i.1.toUInt8 ∧
        ((linkStatusOptions i a b &&& 0x20) != 0) = a ∧
        ((linkStatusOptions i a b &&& 0x40) != 0) = b := by decide
  exact hall ⟨n, by omega⟩ a b

private theorem costByte_fields {entry : NwkLinkStatusEntry} (hin : entry.incomingCost.toNat < 8)
    (hout : entry.outgoingCost.toNat < 8) :
    costByte entry &&& 0x07 = entry.incomingCost ∧
      (costByte entry >>> 4) &&& 0x07 = entry.outgoingCost := by
  have hall : ∀ i o : Fin 8,
      ((UInt8.ofNat i.1 &&& (0x07 : UInt8)) ||| ((UInt8.ofNat o.1 &&& 0x07) <<< 4)) &&& 0x07 =
        UInt8.ofNat i.1 ∧
      (((UInt8.ofNat i.1 &&& (0x07 : UInt8)) ||| ((UInt8.ofNat o.1 &&& 0x07) <<< 4)) >>> 4) &&&
        0x07 = UInt8.ofNat o.1 := by decide
  obtain ⟨i, hi⟩ := exists_fin hin
  obtain ⟨o, ho⟩ := exists_fin hout
  rw [costByte, hi, ho]
  exact hall i o

private theorem beaconProfile_fields {stackProfile : UInt8} (h : stackProfile.toNat < 16) :
    beaconProfile stackProfile &&& 0x0F = stackProfile ∧
      (beaconProfile stackProfile >>> 4) &&& 0x0F = kProtocolVersion := by
  have hall : ∀ i : Fin 16, beaconProfile (UInt8.ofNat i.1) &&& 0x0F = UInt8.ofNat i.1 ∧
      (beaconProfile (UInt8.ofNat i.1) >>> 4) &&& 0x0F = kProtocolVersion := by decide
  obtain ⟨i, rfl⟩ := exists_fin h
  exact hall i

private theorem beaconCapacity_fields {deviceDepth : UInt8} (h : deviceDepth.toNat < 16)
    (a b : Bool) :
    ((beaconCapacity a deviceDepth b &&& ((1 : UInt8) <<< 2)) != 0) = a ∧
      (beaconCapacity a deviceDepth b >>> 3) &&& 0x0F = deviceDepth ∧
      ((beaconCapacity a deviceDepth b &&& ((1 : UInt8) <<< 7)) != 0) = b := by
  have hall : ∀ i : Fin 16, ∀ a b : Bool,
      ((beaconCapacity a (UInt8.ofNat i.1) b &&& ((1 : UInt8) <<< 2)) != 0) = a ∧
        (beaconCapacity a (UInt8.ofNat i.1) b >>> 3) &&& 0x0F = UInt8.ofNat i.1 ∧
        ((beaconCapacity a (UInt8.ofNat i.1) b &&& ((1 : UInt8) <<< 7)) != 0) = b := by decide
  obtain ⟨i, rfl⟩ := exists_fin h
  exact hall i a b

/-! ## Route discovery -/

/-- An optional IEEE address on the wire. -/
def ieeeBytes (ieee : Option UInt64) : List UInt8 := ieee.elim [] le64

theorem ieeeBytes_length (ieee : Option UInt64) :
    (ieeeBytes ieee).length = if ieee.isSome then 8 else 0 := by
  cases ieee <;> simp [ieeeBytes]

def routeRequestBytes (routeRequestId : UInt8) (destination : UInt16) (pathCost : UInt8)
    (manyToOne : Bool) (destinationIeee : Option UInt64) (multicast : Bool) : List UInt8 :=
  (optionBit manyToOne 0x08 ||| optionBit destinationIeee.isSome 0x10 |||
    optionBit multicast 0x20) :: routeRequestId :: lo8 destination :: hi8 destination ::
    pathCost :: ieeeBytes destinationIeee

theorem buildRouteRequestPayload_eq (outMax routeRequestId : UInt8) (destination : UInt16)
    (pathCost : UInt8) (manyToOne : Bool) (destinationIeee : Option UInt64) (multicast : Bool) :
    let bytes := routeRequestBytes routeRequestId destination pathCost manyToOne destinationIeee
      multicast
    buildRouteRequestPayload outMax routeRequestId destination pathCost manyToOne destinationIeee
      multicast = if outMax.toNat < bytes.length then .fail else .exact bytes := by
  cases destinationIeee with
  | none => rfl
  | some ieee =>
    simp only [buildRouteRequestPayload, routeRequestBytes, ieeeBytes, Option.isSome_some,
      Option.elim_some, List.length_cons, le64_length, if_true, Built.exact, Nat.reduceAdd]
    rfl

theorem parseRouteRequestPayload_bytes (routeRequestId : UInt8) (destination : UInt16)
    (pathCost : UInt8) (manyToOne : Bool) (destinationIeee : Option UInt64) (multicast : Bool) :
    parseRouteRequestPayload (routeRequestBytes routeRequestId destination pathCost manyToOne
        destinationIeee multicast) =
      some (true,
        { valid := true, manyToOne := manyToOne
          destinationIeeePresent := destinationIeee.isSome, multicast := multicast
          routeRequestId := routeRequestId, destination := destination, pathCost := pathCost
          destinationIeee := destinationIeee.getD 0 }) := by
  obtain ⟨hm, hi, hc⟩ := routeRequest_options manyToOne destinationIeee.isSome multicast
  cases destinationIeee with
  | none =>
    simp only [Option.isSome_none, bne_eq_false_iff_eq] at hm hi hc
    simp [parseRouteRequestPayload, routeRequestBytes, ieeeBytes, read16, hm, hi, hc]
  | some ieee =>
    have hread : read64 (le64 ieee) 0 = some ieee := by simpa using read64_le64 ieee []
    simp only [Option.isSome_some, bne_iff_ne, ne_eq] at hm hi hc
    simp [parseRouteRequestPayload, routeRequestBytes, ieeeBytes, read16, hm, hi, hc, hread]

def routeReplyBytes (routeRequestId : UInt8) (originator responder : UInt16) (pathCost : UInt8)
    (originatorIeee responderIeee : Option UInt64) (multicast : Bool) : List UInt8 :=
  (optionBit originatorIeee.isSome 0x10 ||| optionBit responderIeee.isSome 0x20 |||
    optionBit multicast 0x40) :: routeRequestId :: lo8 originator :: hi8 originator ::
    lo8 responder :: hi8 responder :: pathCost ::
    (ieeeBytes originatorIeee ++ ieeeBytes responderIeee)

theorem buildRouteReplyPayload_eq (outMax routeRequestId : UInt8) (originator responder : UInt16)
    (pathCost : UInt8) (originatorIeee responderIeee : Option UInt64) (multicast : Bool) :
    let bytes := routeReplyBytes routeRequestId originator responder pathCost originatorIeee
      responderIeee multicast
    buildRouteReplyPayload outMax routeRequestId originator responder pathCost originatorIeee
      responderIeee multicast = if outMax.toNat < bytes.length then .fail else .exact bytes := by
  have hglue : emit 7 (ieeeBytes originatorIeee) ++
      emit (7 + if originatorIeee.isSome then 8 else 0) (ieeeBytes responderIeee) =
      emit 7 (ieeeBytes originatorIeee ++ ieeeBytes responderIeee) := by
    rw [emit_glue _ _ (by rw [ieeeBytes_length])]
  have hlen : (routeReplyBytes routeRequestId originator responder pathCost originatorIeee
      responderIeee multicast).length =
      7 + (if originatorIeee.isSome then 8 else 0) + (if responderIeee.isSome then 8 else 0) := by
    simp only [routeReplyBytes, List.length_cons, List.length_append, ieeeBytes_length]
    omega
  simp only [buildRouteReplyPayload, Built.exact, hlen]
  congr 2
  change _ ++ emit 7 (ieeeBytes originatorIeee) ++ emit _ (ieeeBytes responderIeee) = _
  rw [List.append_assoc, hglue]
  rfl

theorem parseRouteReplyPayload_bytes (routeRequestId : UInt8) (originator responder : UInt16)
    (pathCost : UInt8) (originatorIeee responderIeee : Option UInt64) (multicast : Bool) :
    parseRouteReplyPayload (routeReplyBytes routeRequestId originator responder pathCost
        originatorIeee responderIeee multicast) =
      some (true,
        { valid := true, originatorIeeePresent := originatorIeee.isSome
          responderIeeePresent := responderIeee.isSome, multicast := multicast
          routeRequestId := routeRequestId, originator := originator, responder := responder
          pathCost := pathCost, originatorIeee := originatorIeee.getD 0
          responderIeee := responderIeee.getD 0 }) := by
  obtain ⟨ho, hr, hm⟩ := routeReply_options originatorIeee.isSome responderIeee.isSome multicast
  have hread (a b : UInt64) : read64 (le64 a ++ le64 b) 8 = some b := by
    rw [read64_append_right _ (by simp)]
    simpa using read64_le64 b []
  have hread0 (a : UInt64) : read64 (le64 a) 0 = some a := by simpa using read64_le64 a []
  cases originatorIeee <;> cases responderIeee <;>
    simp only [Option.isSome_none, Option.isSome_some, bne_eq_false_iff_eq, bne_iff_ne, ne_eq]
      at ho hr hm <;>
    simp [parseRouteReplyPayload, routeReplyBytes, ieeeBytes, read16, ho, hr, hm, hread, hread0]

/-! ## Status, leave and rejoin -/

theorem buildNetworkStatusPayload_eq (outMax status : UInt8) (destination : UInt16) :
    buildNetworkStatusPayload outMax status destination =
      if outMax.toNat < (status :: le16 destination).length then .fail
      else .exact (status :: le16 destination) := by
  simp only [buildNetworkStatusPayload, UInt8.lt_iff_toNat_lt]
  rfl

theorem parseNetworkStatusPayload_bytes (status : UInt8) (destination : UInt16) :
    parseNetworkStatusPayload (status :: le16 destination) =
      some (true, { valid := true, status := status, destination := destination }) := by
  simp [parseNetworkStatusPayload, le16, read16]

theorem buildLeavePayload_eq (outMax : UInt8) (rejoin request removeChildren : Bool) :
    let bytes :=
      [optionBit rejoin 0x20 ||| optionBit request 0x40 ||| optionBit removeChildren 0x80]
    buildLeavePayload outMax rejoin request removeChildren =
      if outMax.toNat < bytes.length then .fail else .exact bytes := by
  simp only [buildLeavePayload, UInt8.lt_iff_toNat_lt]
  rfl

theorem parseLeavePayload_bytes (rejoin request removeChildren : Bool) :
    parseLeavePayload [optionBit rejoin 0x20 ||| optionBit request 0x40 |||
        optionBit removeChildren 0x80] =
      some (true, { valid := true, rejoin := rejoin, request := request
                    removeChildren := removeChildren }) := by
  obtain ⟨hj, hq, hc⟩ := leave_options rejoin request removeChildren
  simp [parseLeavePayload, hj, hq, hc]

theorem buildRejoinRequestPayload_eq (outMax capability : UInt8) :
    buildRejoinRequestPayload outMax capability =
      if outMax.toNat < [capability].length then .fail else .exact [capability] := by
  simp only [buildRejoinRequestPayload, UInt8.lt_iff_toNat_lt]
  rfl

theorem parseRejoinRequestPayload_bytes (capability : UInt8) :
    parseRejoinRequestPayload [capability] =
      some (true, { valid := true, capability := capability }) := rfl

theorem buildRejoinResponsePayload_eq (outMax : UInt8) (nwkAddress : UInt16) (status : UInt8) :
    let bytes := [lo8 nwkAddress, hi8 nwkAddress, status]
    buildRejoinResponsePayload outMax nwkAddress status =
      if outMax.toNat < bytes.length then .fail else .exact bytes := by
  simp only [buildRejoinResponsePayload, UInt8.lt_iff_toNat_lt]
  rfl

theorem parseRejoinResponsePayload_bytes (nwkAddress : UInt16) (status : UInt8) :
    parseRejoinResponsePayload [lo8 nwkAddress, hi8 nwkAddress, status] =
      some (true, { valid := true, nwkAddress := nwkAddress, status := status }) := by
  simp [parseRejoinResponsePayload, read16]

/-! ## Route Record -/

section RouteRecord

variable {relays : List UInt16}

def routeRecordBytes (relays : List UInt16) : List UInt8 :=
  relays.length.toUInt8 :: relays.flatMap le16

theorem routeRecordBytes_length (relays : List UInt16) :
    (routeRecordBytes relays).length = 1 + relays.length * 2 := by
  simp only [routeRecordBytes, List.length_cons, length_words]
  omega

/-- The stores of the Route Record builder are the record's bytes for any number of relays; only
the length it returns wraps. -/
theorem routeRecord_writes (relays : List UInt16) :
    emit 0 [relays.length.toUInt8] ++
      relays.zipIdx.flatMap (fun p => emit (1 + p.2 * 2) (le16 p.1)) =
      emit 0 (routeRecordBytes relays) := by
  have hrelays := emit_records le16 2 le16_length 1 0 relays
  simp only [Nat.zero_mul, Nat.add_zero] at hrelays
  rw [hrelays, emit_glue _ _ (by simp)]
  rfl

theorem buildRouteRecordPayload_eq (outMax : UInt8) (hcount : relays.length ≤ 127) :
    buildRouteRecordPayload outMax relays =
      if outMax.toNat < (routeRecordBytes relays).length then .fail
      else .exact (routeRecordBytes relays) := by
  have hlen : (1 + relays.length * 2) % 256 = 1 + relays.length * 2 := by omega
  simp only [buildRouteRecordPayload, routeRecord_writes, hlen, Built.exact,
    routeRecordBytes_length]

theorem parseRouteRecordPayload_bytes (hcount : relays.length ≤ 127) :
    parseRouteRecordPayload (routeRecordBytes relays) =
      some (true, { valid := true, relayCount := relays.length.toUInt8, relayList := some 1 }) := by
  have hshort : ¬ relays.length * 2 + 1 < (1 + relays.length * 2) % 256 := by omega
  simp [parseRouteRecordPayload, routeRecordBytes,
    toNat_toUInt8 (by omega : relays.length < 256), hshort]

theorem getRouteRecordRelay_bytes (hcount : relays.length ≤ 127) {i : UInt8}
    (hi : i.toNat < relays.length) :
    getRouteRecordRelay (routeRecordBytes relays)
      { valid := true, relayCount := relays.length.toUInt8, relayList := some 1 } i =
      some (some relays[i.toNat]) := by
  have hlt : ¬ i ≥ relays.length.toUInt8 := by
    rw [ge_iff_le, UInt8.not_le, UInt8.lt_iff_toNat_lt, toNat_toUInt8 (by omega)]
    exact hi
  have hread := read16_words relays [] hi
  rw [List.append_nil] at hread
  simp [getRouteRecordRelay, hlt, routeRecordBytes, Nat.add_comm 1, hread]

end RouteRecord

/-! ## Link Status -/

section LinkStatus

variable {entries : List NwkLinkStatusEntry}

/-- Both costs fit their three bits. -/
def NwkLinkStatusEntry.Fits (entry : NwkLinkStatusEntry) : Prop :=
  entry.incomingCost.toNat < 8 ∧ entry.outgoingCost.toNat < 8

instance (entry : NwkLinkStatusEntry) : Decidable entry.Fits := by
  unfold NwkLinkStatusEntry.Fits
  infer_instance

def entryBytes (entry : NwkLinkStatusEntry) : List UInt8 :=
  [lo8 entry.address, hi8 entry.address, costByte entry]

def linkStatusBytes (entries : List NwkLinkStatusEntry) (firstFrame lastFrame : Bool) :
    List UInt8 :=
  linkStatusOptions entries.length firstFrame lastFrame :: entries.flatMap entryBytes

theorem length_entries (entries : List NwkLinkStatusEntry) :
    (entries.flatMap entryBytes).length = entries.length * 3 := by
  induction entries with
  | nil => rfl
  | cons entry entries ih =>
    simp only [List.flatMap_cons, List.length_append, ih, List.length_cons]
    simp only [entryBytes, List.length_cons, List.length_nil]
    omega

theorem buildLinkStatusPayload_eq (outMax : UInt8) (firstFrame lastFrame : Bool) :
    buildLinkStatusPayload outMax entries firstFrame lastFrame =
      if entries.length > 31 ∨ outMax.toNat < (linkStatusBytes entries firstFrame lastFrame).length
      then .fail
      else .exact (linkStatusBytes entries firstFrame lastFrame) := by
  have hentry (p : NwkLinkStatusEntry × Nat) :
      emit (1 + 3 * p.2) (le16 p.1.address) ++ emit (3 + 3 * p.2) [costByte p.1] =
        emit (1 + p.2 * 3) (entryBytes p.1) := by
    rw [emit_glue _ _ (by simp; omega), Nat.mul_comm]
    rfl
  have hentries := emit_records entryBytes 3 (fun _ => rfl) 1 0 entries
  simp only [Nat.zero_mul, Nat.add_zero] at hentries
  by_cases hcount : entries.length > 31
  · simp [buildLinkStatusPayload, hcount]
  · have hneeded : (1 + 3 * entries.length) % 256 = entries.length * 3 + 1 := by omega
    have hlen : (linkStatusBytes entries firstFrame lastFrame).length = entries.length * 3 + 1 := by
      simp only [linkStatusBytes, List.length_cons, length_entries]
    simp only [buildLinkStatusPayload, hcount, if_false, false_or, hneeded, hlen, hentry, hentries]
    rw [emit_glue _ _ (by simp)]
    simp only [Built.exact, hlen]
    rfl

theorem parseLinkStatusPayload_bytes (hcount : entries.length ≤ 31) (firstFrame lastFrame : Bool) :
    parseLinkStatusPayload (linkStatusBytes entries firstFrame lastFrame) =
      some (true,
        { valid := true, firstFrame := firstFrame, lastFrame := lastFrame
          entryCount := entries.length.toUInt8, entries := some 1 }) := by
  obtain ⟨hc, hf, hl⟩ := linkStatus_options hcount firstFrame lastFrame
  have hnat : entries.length.toUInt8.toNat = entries.length :=
    toNat_toUInt8 (by omega)
  have hshort : ¬ entries.length * 3 + 1 < 1 + 3 * entries.length := by omega
  simp only [parseLinkStatusPayload, linkStatusBytes, List.length_cons, length_entries, read8_eq,
    List.getElem?_cons_zero, bind, Option.bind, hc, hf, hl, hnat, if_neg hshort]
  rfl

theorem read_entry (tail : List UInt8) {i : Nat} (hi : i < entries.length) :
    read16 (entries.flatMap entryBytes ++ tail) (3 * i) = some entries[i].address ∧
      (entries.flatMap entryBytes ++ tail)[3 * i + 2]? = some (costByte entries[i]) := by
  induction entries generalizing i with
  | nil => simp at hi
  | cons entry entries ih =>
    cases i with
    | zero => simp [entryBytes, read16]
    | succ i =>
      have hi' : i < entries.length := by simpa using hi
      obtain ⟨haddr, hcost⟩ := ih hi'
      simp only [List.flatMap_cons, entryBytes, List.cons_append, List.nil_append,
        List.getElem_cons_succ]
      rw [show 3 * (i + 1) = 3 * i + 1 + 1 + 1 by omega]
      simp only [read16_cons, List.getElem?_cons_succ]
      exact ⟨haddr, hcost⟩

theorem getLinkStatusEntry_bytes (hfit : ∀ entry ∈ entries, entry.Fits)
    (hcount : entries.length ≤ 31) (firstFrame lastFrame : Bool) {i : UInt8}
    (hi : i.toNat < entries.length) :
    getLinkStatusEntry (linkStatusBytes entries firstFrame lastFrame)
      { valid := true, firstFrame := firstFrame, lastFrame := lastFrame
        entryCount := entries.length.toUInt8, entries := some 1 } i =
      some (some entries[i.toNat]) := by
  have hlt : ¬ i ≥ entries.length.toUInt8 := by
    rw [ge_iff_le, UInt8.not_le, UInt8.lt_iff_toNat_lt]
    simpa [Nat.mod_eq_of_lt (by omega : entries.length < 256)] using hi
  obtain ⟨haddr, hcost⟩ := read_entry [] hi
  obtain ⟨hin, hout⟩ := hfit _ (List.getElem_mem hi)
  obtain ⟨hci, hco⟩ := costByte_fields hin hout
  rw [List.append_nil] at haddr hcost
  simp [getLinkStatusEntry, hlt, linkStatusBytes, Nat.add_comm 1, Nat.add_right_comm _ 1 2, haddr,
    hcost, hci, hco]

end LinkStatus

/-! ## Beacon payload -/

def beaconPayloadBytes (extendedPanId : UInt64) (deviceDepth : UInt8)
    (routerCapacity endDeviceCapacity : Bool) (updateId stackProfile : UInt8) : List UInt8 :=
  kProtocolIdZigbee :: beaconProfile stackProfile ::
    beaconCapacity routerCapacity deviceDepth endDeviceCapacity ::
    (le64 extendedPanId ++ [0xFF, 0xFF, 0xFF, updateId])

theorem buildBeaconPayload_eq (outMax : UInt8) (extendedPanId : UInt64) (deviceDepth : UInt8)
    (routerCapacity endDeviceCapacity : Bool) (updateId stackProfile : UInt8) :
    let bytes := beaconPayloadBytes extendedPanId deviceDepth routerCapacity endDeviceCapacity
      updateId stackProfile
    buildBeaconPayload outMax extendedPanId deviceDepth routerCapacity endDeviceCapacity updateId
        stackProfile =
      if outMax.toNat < bytes.length then .fail else .exact bytes := rfl

theorem parseBeaconPayload_bytes (extendedPanId : UInt64) {deviceDepth : UInt8}
    (routerCapacity endDeviceCapacity : Bool) (updateId : UInt8) {stackProfile : UInt8}
    (hdepth : deviceDepth.toNat < 16) (hprofile : stackProfile.toNat < 16) :
    parseBeaconPayload (beaconPayloadBytes extendedPanId deviceDepth routerCapacity
        endDeviceCapacity updateId stackProfile) =
      some (true,
        { valid := true, protocolId := kProtocolIdZigbee, stackProfile := stackProfile
          protocolVersion := kProtocolVersion, routerCapacity := routerCapacity
          deviceDepth := deviceDepth, endDeviceCapacity := endDeviceCapacity
          extendedPanId := extendedPanId, txOffset := kBeaconlessTxOffset
          updateId := updateId }) := by
  obtain ⟨hp, hv⟩ := beaconProfile_fields hprofile
  obtain ⟨hr, hd, he⟩ := beaconCapacity_fields hdepth routerCapacity endDeviceCapacity
  have hlen : ¬ (beaconPayloadBytes extendedPanId deviceDepth routerCapacity
      endDeviceCapacity updateId stackProfile).length < kBeaconPayloadLen := by
    simp [beaconPayloadBytes, kBeaconPayloadLen]
  have htail (i : Nat) : (le64 extendedPanId ++ [0xFF, 0xFF, 0xFF, updateId])[8 + i]? =
      [0xFF, 0xFF, 0xFF, updateId][i]? := by
    rw [List.getElem?_append_right (by simp)]
    simp
  have h8 := htail 0
  have h9 := htail 1
  have h10 := htail 2
  have h11 := htail 3
  rw [parseBeaconPayload, if_neg hlen]
  simp only [beaconPayloadBytes, read8_eq, List.getElem?_cons_succ, List.getElem?_cons_zero,
    read64_cons, read64_le64, h8, h9, h10, h11]
  simp [hp, hv, hr, hd, he]
  decide

end NiusZigbee.ZigbeeNwk
