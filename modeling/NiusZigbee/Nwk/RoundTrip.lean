import NiusZigbee.Library.ByteSize
import NiusZigbee.Nwk.Payload

/-!
# NWK encoders and decoders agree

One call of any NWK builder, the buffer it leaves, and what its parser recovers. The two builders
with a `uint8_t` size computation over a relay list agree with their parsers exactly while that
computation does not wrap, or the call is refused.
-/

namespace NiusZigbee.ZigbeeNwk

open ByteCodec OutBuffer

/-- A call of one of the NWK builders. -/
inductive NwkCall where
  | dataFrame (dstShort srcShort : UInt16) (radius sequence : UInt8) (payload : List UInt8)
      (discoverRoute : UInt8)
  | dataFrameSourceRouted (dstShort srcShort : UInt16) (radius sequence : UInt8)
      (relays : List UInt16) (relayIndex : UInt8) (payload : List UInt8) (discoverRoute : UInt8)
  | commandFrame (dstShort srcShort : UInt16) (radius sequence commandId : UInt8)
      (payload : List UInt8) (discoverRoute : UInt8)
  | routeRequest (routeRequestId : UInt8) (destination : UInt16) (pathCost : UInt8)
      (manyToOne : Bool) (destinationIeee : Option UInt64) (multicast : Bool)
  | routeReply (routeRequestId : UInt8) (originator responder : UInt16) (pathCost : UInt8)
      (originatorIeee responderIeee : Option UInt64) (multicast : Bool)
  | networkStatus (status : UInt8) (destination : UInt16)
  | routeRecord (relays : List UInt16)
  | leave (rejoin request removeChildren : Bool)
  | rejoinRequest (capability : UInt8)
  | rejoinResponse (nwkAddress : UInt16) (status : UInt8)
  | linkStatus (entries : List NwkLinkStatusEntry) (firstFrame lastFrame : Bool)
  | beaconPayload (extendedPanId : UInt64) (deviceDepth : UInt8)
      (routerCapacity endDeviceCapacity : Bool) (updateId stackProfile : UInt8)

namespace NwkCall

def build (outMax : UInt8) : NwkCall → Built
  | dataFrame dst src radius sequence payload discoverRoute =>
      buildDataFrame outMax dst src radius sequence payload discoverRoute
  | dataFrameSourceRouted dst src radius sequence relays relayIndex payload discoverRoute =>
      buildDataFrameSourceRouted outMax dst src radius sequence relays relayIndex payload
        discoverRoute
  | commandFrame dst src radius sequence commandId payload discoverRoute =>
      buildCommandFrame outMax dst src radius sequence commandId payload discoverRoute
  | routeRequest id destination pathCost manyToOne ieee multicast =>
      buildRouteRequestPayload outMax id destination pathCost manyToOne ieee multicast
  | routeReply id originator responder pathCost originatorIeee responderIeee multicast =>
      buildRouteReplyPayload outMax id originator responder pathCost originatorIeee responderIeee
        multicast
  | networkStatus status destination => buildNetworkStatusPayload outMax status destination
  | routeRecord relays => buildRouteRecordPayload outMax relays
  | leave rejoin request removeChildren => buildLeavePayload outMax rejoin request removeChildren
  | rejoinRequest capability => buildRejoinRequestPayload outMax capability
  | rejoinResponse nwkAddress status => buildRejoinResponsePayload outMax nwkAddress status
  | linkStatus entries firstFrame lastFrame =>
      buildLinkStatusPayload outMax entries firstFrame lastFrame
  | beaconPayload extendedPanId deviceDepth routerCapacity endDeviceCapacity updateId
      stackProfile =>
      buildBeaconPayload outMax extendedPanId deviceDepth routerCapacity endDeviceCapacity updateId
        stackProfile

/-- Every field fits its wire field and every count its `uint8_t` parameter. -/
def Fits : NwkCall → Prop
  | dataFrame _ _ _ _ payload discoverRoute => payload.length < 256 ∧ discoverRoute ≤ 3
  | dataFrameSourceRouted _ _ _ _ relays _ payload discoverRoute =>
      relays.length < 256 ∧ payload.length < 256 ∧ discoverRoute ≤ 3
  | commandFrame _ _ _ _ _ payload discoverRoute => payload.length < 256 ∧ discoverRoute ≤ 3
  | routeRecord relays => relays.length < 256
  | linkStatus entries _ _ => entries.length < 256 ∧ ∀ entry ∈ entries, entry.Fits
  | beaconPayload _ deviceDepth _ _ _ stackProfile =>
      deviceDepth.toNat < 16 ∧ stackProfile.toNat < 16
  | _ => True

/-- The parser that belongs to the builder accepts the bytes and recovers the call's arguments. -/
def Recovered (bytes : List UInt8) : NwkCall → Prop
  | dataFrame dst src radius sequence payload discoverRoute =>
      ∃ frame, parseDataFrame bytes = some (true, frame) ∧ frame.valid = true ∧
        frame.toNwkFcf = { frameType := nwkFrameData, protocolVersion := kProtocolVersion,
                           discoverRoute := discoverRoute } ∧
        frame.dstShort = dst ∧ frame.srcShort = src ∧ frame.radius = radius ∧
        frame.sequence = sequence ∧ frame.payloadBytes bytes = payload
  | dataFrameSourceRouted dst src radius sequence relays relayIndex payload discoverRoute =>
      ∃ frame, parseDataFrame bytes = some (true, frame) ∧ frame.valid = true ∧
        frame.toNwkFcf = { frameType := nwkFrameData, protocolVersion := kProtocolVersion,
                           discoverRoute := discoverRoute, sourceRoute := true } ∧
        frame.dstShort = dst ∧ frame.srcShort = src ∧ frame.radius = radius ∧
        frame.sequence = sequence ∧ frame.srRelayCount.toNat = relays.length ∧
        frame.srRelayIndex = relayIndex ∧
        (∀ i : UInt8, (h : i.toNat < relays.length) →
          getDataFrameRelay bytes frame i = some (some relays[i.toNat])) ∧
        frame.payloadBytes bytes = payload
  | commandFrame dst src radius sequence commandId payload discoverRoute =>
      ∃ frame, parseCommandFrame bytes = some (true, frame) ∧ frame.valid = true ∧
        frame.toNwkFcf = { frameType := nwkFrameCommand, protocolVersion := kProtocolVersion,
                           discoverRoute := discoverRoute } ∧
        frame.dstShort = dst ∧ frame.srcShort = src ∧ frame.radius = radius ∧
        frame.sequence = sequence ∧ frame.commandId = commandId ∧
        frame.payloadBytes bytes = payload
  | routeRequest id destination pathCost manyToOne ieee multicast =>
      parseRouteRequestPayload bytes = some (true,
        { valid := true, manyToOne := manyToOne, destinationIeeePresent := ieee.isSome
          multicast := multicast, routeRequestId := id, destination := destination
          pathCost := pathCost, destinationIeee := ieee.getD 0 })
  | routeReply id originator responder pathCost originatorIeee responderIeee multicast =>
      parseRouteReplyPayload bytes = some (true,
        { valid := true, originatorIeeePresent := originatorIeee.isSome
          responderIeeePresent := responderIeee.isSome, multicast := multicast
          routeRequestId := id, originator := originator, responder := responder
          pathCost := pathCost, originatorIeee := originatorIeee.getD 0
          responderIeee := responderIeee.getD 0 })
  | networkStatus status destination =>
      parseNetworkStatusPayload bytes =
        some (true, { valid := true, status := status, destination := destination })
  | routeRecord relays =>
      ∃ command, parseRouteRecordPayload bytes = some (true, command) ∧ command.valid = true ∧
        command.relayCount.toNat = relays.length ∧
        ∀ i : UInt8, (h : i.toNat < relays.length) →
          getRouteRecordRelay bytes command i = some (some relays[i.toNat])
  | leave rejoin request removeChildren =>
      parseLeavePayload bytes = some (true,
        { valid := true, rejoin := rejoin, request := request, removeChildren := removeChildren })
  | rejoinRequest capability =>
      parseRejoinRequestPayload bytes = some (true, { valid := true, capability := capability })
  | rejoinResponse nwkAddress status =>
      parseRejoinResponsePayload bytes =
        some (true, { valid := true, nwkAddress := nwkAddress, status := status })
  | linkStatus entries firstFrame lastFrame =>
      ∃ command, parseLinkStatusPayload bytes = some (true, command) ∧ command.valid = true ∧
        command.firstFrame = firstFrame ∧ command.lastFrame = lastFrame ∧
        command.entryCount.toNat = entries.length ∧
        ∀ i : UInt8, (h : i.toNat < entries.length) →
          getLinkStatusEntry bytes command i = some (some entries[i.toNat])
  | beaconPayload extendedPanId deviceDepth routerCapacity endDeviceCapacity updateId
      stackProfile =>
      parseBeaconPayload bytes = some (true,
        { valid := true, protocolId := kProtocolIdZigbee, stackProfile := stackProfile
          protocolVersion := kProtocolVersion, routerCapacity := routerCapacity
          deviceDepth := deviceDepth, endDeviceCapacity := endDeviceCapacity
          extendedPanId := extendedPanId, txOffset := kBeaconlessTxOffset, updateId := updateId })

/-- The builder returns 0, or a length inside the buffer with no store outside it, and its parser
recovers the call. -/
def Agrees (outMax : UInt8) (call : NwkCall) : Prop :=
  (call.build outMax).Agrees outMax.toNat fun bytes => call.Recovered bytes

/-- The relay list's size fits the `uint8_t` it is computed in, or the builder refuses the call. -/
def CountsFit (outMax : UInt8) : NwkCall → Prop
  | dataFrameSourceRouted _ _ _ _ relays _ payload _ =>
      let wrapped := (10 + relays.length * 2) % 256 + payload.length
      relays.length ≤ 122 ∨ outMax.toNat < wrapped ∨ kMaxPayload < payload.length ∨ wrapped = 0
  | routeRecord relays => relays.length ≤ 127 ∨ outMax.toNat < (1 + relays.length * 2) % 256
  | _ => True

/-! ## Calls without a wrap -/

private theorem agrees_of_exact {outMax : UInt8} {call : NwkCall} {bytes : List UInt8}
    (hbuild : call.build outMax = .exact bytes) (hpos : 0 < bytes.length)
    (hmax : bytes.length ≤ outMax.toNat) (hrec : call.Recovered bytes) : call.Agrees outMax := by
  rw [NwkCall.Agrees, hbuild]
  exact (agrees_exact hpos hmax).mpr hrec

private theorem agrees_of_fail {outMax : UInt8} {call : NwkCall}
    (hbuild : call.build outMax = .fail) : call.Agrees outMax := Or.inl (by rw [hbuild]; rfl)

private theorem agrees_of_ite {outMax : UInt8} {call : NwkCall} {bytes : List UInt8}
    (hbuild : call.build outMax = if outMax.toNat < bytes.length then .fail else .exact bytes)
    (hpos : 0 < bytes.length) (hrec : call.Recovered bytes) : call.Agrees outMax :=
  agrees_of_refused hbuild hpos fun _ => hrec

private theorem dataFrame_agrees (outMax : UInt8) (dst src : UInt16) (radius sequence : UInt8)
    (payload : List UInt8) {discoverRoute : UInt8} (hdr : discoverRoute ≤ 3) :
    (dataFrame dst src radius sequence payload discoverRoute).Agrees outMax := by
  by_cases hlen : payload.length ≤ kMaxPayload
  · by_cases hmax : kBaseHeaderLen + payload.length ≤ outMax.toNat
    · refine agrees_of_exact (buildDataFrame_eq dst src radius sequence hmax hlen hdr)
        (by simp only [headerBytes_length, kBaseHeaderLen]; omega) (by simpa using hmax)
        ⟨_, parseDataFrame_header dst src radius sequence hlen hdr, rfl, rfl, rfl, rfl, rfl, rfl,
          ?_⟩
      have hslice := slice_headerRest (baseFcf nwkFrameData discoverRoute) dst src radius sequence
        payload 0 payload.length
      simpa [NwkDataFrame.payloadBytes, slice] using hslice
    · exact agrees_of_fail (by rw [build, buildDataFrame, if_neg (by omega), if_pos (by omega)])
  · exact agrees_of_fail (by rw [build, buildDataFrame, if_pos (by omega)])

private theorem commandFrame_agrees (outMax : UInt8) (dst src : UInt16)
    (radius sequence commandId : UInt8) (payload : List UInt8) {discoverRoute : UInt8}
    (hdr : discoverRoute ≤ 3) :
    (commandFrame dst src radius sequence commandId payload discoverRoute).Agrees outMax := by
  have hcast : (kMaxPayload - 1) % 256 = kMaxPayload - 1 := rfl
  by_cases hlen : payload.length ≤ kMaxPayload - 1
  · by_cases hmax : kBaseHeaderLen + 1 + payload.length ≤ outMax.toNat
    · refine agrees_of_exact (buildCommandFrame_eq dst src radius sequence commandId hmax hlen hdr)
        (by simp only [headerBytes_length, kBaseHeaderLen]; omega)
        (by simp only [headerBytes_length, List.length_cons]; omega)
        ⟨_, parseCommandFrame_header dst src radius sequence commandId hlen hdr, rfl, rfl, rfl, rfl,
          rfl, rfl, rfl, ?_⟩
      have hslice := slice_headerRest (baseFcf nwkFrameCommand discoverRoute) dst src radius
        sequence (commandId :: payload) 1 payload.length
      simpa [NwkCommandFrame.payloadBytes, slice] using hslice
    · exact agrees_of_fail (by
        rw [build, buildCommandFrame, hcast, if_neg (by omega), if_pos (by omega)])
  · exact agrees_of_fail (by rw [build, buildCommandFrame, hcast, if_pos (by omega)])

private theorem routedHeader_length (count : Nat) :
    (kBaseHeaderLen + (2 + count * 2) % 256) % 256 = (10 + count * 2) % 256 := by
  simp only [kBaseHeaderLen]
  omega

/-- The source-routed builder refuses a payload over the limit or one that does not fit behind the
header whose length it computes. -/
private theorem sourceRouted_len (outMax : UInt8) (dst src : UInt16) (radius sequence : UInt8)
    (relays : List UInt16) (relayIndex : UInt8) (payload : List UInt8) {discoverRoute : UInt8}
    (hdr : discoverRoute ≤ 3) :
    let wrapped := (10 + relays.length * 2) % 256 + payload.length
    (buildDataFrameSourceRouted outMax dst src radius sequence relays relayIndex payload
      discoverRoute).len =
      if outMax.toNat < wrapped ∨ kMaxPayload < payload.length then 0 else wrapped := by
  have hdr' : ¬ discoverRoute > 3 := UInt8.not_lt.mpr hdr
  have hout := outMax.toNat_lt
  have hhead := routedHeader_length relays.length
  simp only [buildDataFrameSourceRouted, hhead, if_neg hdr']
  by_cases hmax : (10 + relays.length * 2) % 256 + payload.length > outMax.toNat
  · rw [if_pos hmax, if_pos (Or.inl hmax), Built.fail_len]
  · by_cases hlen : payload.length > kMaxPayload
    · rw [if_neg hmax, if_pos hlen, if_pos (Or.inr hlen), Built.fail_len]
    · rw [if_neg hmax, if_neg hlen, if_neg (not_or.mpr ⟨hmax, hlen⟩)]
      change ((10 + relays.length * 2) % 256 + payload.length) % 256 = _
      omega

private theorem sourceRouted_agrees (outMax : UInt8) (dst src : UInt16) (radius sequence : UInt8)
    {relays : List UInt16} (relayIndex : UInt8) (payload : List UInt8) {discoverRoute : UInt8}
    (hcount : relays.length ≤ 122) (hdr : discoverRoute ≤ 3) :
    (dataFrameSourceRouted dst src radius sequence relays relayIndex payload discoverRoute).Agrees
      outMax := by
  have hlen := sourceRouted_len outMax dst src radius sequence relays relayIndex payload hdr
  by_cases hfit : kBaseHeaderLen + (2 + relays.length * 2) + payload.length ≤ outMax.toNat ∧
      payload.length ≤ kMaxPayload
  · refine agrees_of_exact
      (buildDataFrameSourceRouted_eq dst src radius sequence relayIndex hcount hfit.1 hfit.2 hdr)
      (by simp only [headerBytes_length, kBaseHeaderLen]; omega)
      (by simp only [headerBytes_length, routedBytes_length]; omega)
      ⟨_, parseDataFrame_routed dst src radius sequence hcount hfit.2 hdr, rfl, rfl, rfl, rfl, rfl,
        rfl, toNat_toUInt8 (by omega), rfl, ?_, payloadBytes_routed _ _ _ _ _ _⟩
    intro i hi
    exact getDataFrameRelay_routed dst src radius sequence discoverRoute _ hcount hi
  · left
    refine hlen.trans (if_pos ?_)
    simp only [kBaseHeaderLen] at hfit
    omega

private theorem routeRecord_agrees (outMax : UInt8) {relays : List UInt16}
    (hcount : relays.length ≤ 127) : (routeRecord relays).Agrees outMax := by
  refine agrees_of_ite (buildRouteRecordPayload_eq outMax hcount)
    (by rw [routeRecordBytes_length]; omega)
    ⟨_, parseRouteRecordPayload_bytes hcount, rfl, toNat_toUInt8 (by omega), ?_⟩
  intro i hi
  exact getRouteRecordRelay_bytes hcount hi

private theorem linkStatus_agrees (outMax : UInt8) {entries : List NwkLinkStatusEntry}
    (firstFrame lastFrame : Bool) (hfit : ∀ entry ∈ entries, entry.Fits) :
    (linkStatus entries firstFrame lastFrame).Agrees outMax := by
  have hbuild : (linkStatus entries firstFrame lastFrame).build outMax = _ :=
    buildLinkStatusPayload_eq outMax firstFrame lastFrame
  by_cases hcount : entries.length ≤ 31
  · have hover : ¬ entries.length > 31 := by omega
    simp only [hover, false_or] at hbuild
    refine agrees_of_ite hbuild (by simp [linkStatusBytes])
      ⟨_, parseLinkStatusPayload_bytes hcount firstFrame lastFrame, rfl, rfl, rfl, ?_, ?_⟩
    · exact toNat_toUInt8 (by omega)
    · intro i hi
      exact getLinkStatusEntry_bytes hfit hcount firstFrame lastFrame hi
  · exact agrees_of_fail (hbuild.trans (if_pos (Or.inl (by omega))))

/-! ## Calls whose size wraps -/

/-- Past 122 relays the last relay lands at or behind the length returned. -/
private theorem sourceRouted_last (outMax : UInt8) (dst src : UInt16)
    (radius sequence : UInt8) {relays : List UInt16} (relayIndex : UInt8) (payload : List UInt8)
    {discoverRoute : UInt8} (hdr : discoverRoute ≤ 3) (hcount : 122 < relays.length)
    (hmax : (10 + relays.length * 2) % 256 + payload.length ≤ outMax.toNat)
    (hlen : payload.length ≤ kMaxPayload) :
    ∃ b, (9 + relays.length * 2, b) ∈ (buildDataFrameSourceRouted outMax dst src radius sequence
      relays relayIndex payload discoverRoute).writes := by
  have hdr' : ¬ discoverRoute > 3 := UInt8.not_lt.mpr hdr
  have hhead := routedHeader_length relays.length
  have hrelays := emit_records le16 2 le16_length 10 0 relays
  simp only [Nat.zero_mul, Nat.add_zero] at hrelays
  obtain ⟨b, hb⟩ : ∃ b, (9 + relays.length * 2, b) ∈ emit 10 (relays.flatMap le16) :=
    mem_emit (by omega) (by rw [length_words]; omega)
  refine ⟨b, ?_⟩
  simp only [buildDataFrameSourceRouted, hhead, if_neg hdr', if_neg (Nat.not_lt.mpr hmax),
    if_neg (Nat.not_lt.mpr hlen), hrelays, List.mem_append]
  exact Or.inl (Or.inr hb)

private theorem sourceRouted_overrun (outMax : UInt8) (dst src : UInt16)
    (radius sequence : UInt8) {relays : List UInt16} (relayIndex : UInt8) (payload : List UInt8)
    {discoverRoute : UInt8} (hdr : discoverRoute ≤ 3) (hcount : 122 < relays.length)
    (hmax : (10 + relays.length * 2) % 256 + payload.length ≤ outMax.toNat)
    (hlen : payload.length ≤ kMaxPayload) :
    ¬ (buildDataFrameSourceRouted outMax dst src radius sequence relays relayIndex payload
      discoverRoute).Within outMax.toNat := by
  have hout := outMax.toNat_lt
  have hsize := sourceRouted_len outMax dst src radius sequence relays relayIndex payload hdr
  obtain ⟨b, hb⟩ := sourceRouted_last outMax dst src radius sequence relayIndex payload hdr hcount
    hmax hlen
  dsimp only at hsize
  rw [if_neg (by omega)] at hsize
  exact Built.not_within_of_write hb (by rw [hsize]; dsimp only; omega)

private theorem routeRecord_overrun (outMax : UInt8) {relays : List UInt16}
    (hcount : 127 < relays.length) (hmax : (1 + relays.length * 2) % 256 ≤ outMax.toNat) :
    ¬ (buildRouteRecordPayload outMax relays).Within outMax.toNat := by
  obtain ⟨b, hb⟩ : ∃ b, (relays.length * 2, b) ∈ emit 0 (routeRecordBytes relays) :=
    mem_emit (by omega) (by rw [routeRecordBytes_length]; omega)
  rw [buildRouteRecordPayload, if_neg (Nat.not_lt.mpr hmax), routeRecord_writes]
  refine Built.not_within_of_write hb ?_
  have := Nat.mod_lt (1 + relays.length * 2) (by decide : 256 > 0)
  dsimp only
  omega

private theorem sourceRouted_agrees_iff (outMax : UInt8) (dst src : UInt16)
    (radius sequence : UInt8) (relays : List UInt16) (relayIndex : UInt8) (payload : List UInt8)
    {discoverRoute : UInt8} (hdr : discoverRoute ≤ 3) :
    (dataFrameSourceRouted dst src radius sequence relays relayIndex payload discoverRoute).Agrees
        outMax ↔
      (dataFrameSourceRouted dst src radius sequence relays relayIndex payload
        discoverRoute).CountsFit outMax := by
  have hlen := sourceRouted_len outMax dst src radius sequence relays relayIndex payload hdr
  simp only [CountsFit]
  constructor
  · rintro (hzero | ⟨hwithin, -⟩)
    · change (buildDataFrameSourceRouted outMax dst src radius sequence relays relayIndex payload
        discoverRoute).len = 0 at hzero
      rw [hlen] at hzero
      split at hzero
      · next h => exact Or.inr (h.imp_right Or.inl)
      · exact Or.inr (Or.inr (Or.inr hzero))
    · by_contra hnot
      simp only [not_or, Nat.not_le, Nat.not_lt] at hnot
      exact sourceRouted_overrun outMax dst src radius sequence relayIndex payload hdr hnot.1
        hnot.2.1 hnot.2.2.1 hwithin
  · rintro (hcount | hmax | hover | hzero)
    · exact sourceRouted_agrees outMax dst src radius sequence relayIndex payload hcount hdr
    · exact Or.inl (hlen.trans (if_pos (Or.inl hmax)))
    · exact Or.inl (hlen.trans (if_pos (Or.inr hover)))
    · exact Or.inl (hlen.trans (by split <;> first | rfl | exact hzero))

private theorem routeRecord_agrees_iff (outMax : UInt8) (relays : List UInt16) :
    (routeRecord relays).Agrees outMax ↔ (routeRecord relays).CountsFit outMax := by
  simp only [CountsFit]
  constructor
  · rintro (hzero | ⟨hwithin, -⟩)
    · right
      by_contra hmax
      change (buildRouteRecordPayload outMax relays).len = 0 at hzero
      rw [buildRouteRecordPayload, if_neg hmax] at hzero
      dsimp only at hzero
      omega
    · by_contra hnot
      simp only [not_or, Nat.not_le, Nat.not_lt] at hnot
      exact routeRecord_overrun outMax hnot.1 hnot.2 hwithin
  · rintro (hcount | hmax)
    · exact routeRecord_agrees outMax hcount
    · exact agrees_of_fail (by rw [build, buildRouteRecordPayload, if_pos hmax])

/-- Every builder agrees with its parser exactly when its relay count fits. -/
theorem agrees_iff_countsFit (outMax : UInt8) (call : NwkCall) (hfit : call.Fits) :
    call.Agrees outMax ↔ call.CountsFit outMax := by
  cases call with
  | dataFrame dst src radius sequence payload discoverRoute =>
    exact iff_of_true (dataFrame_agrees _ _ _ _ _ _ hfit.2) trivial
  | dataFrameSourceRouted dst src radius sequence relays relayIndex payload discoverRoute =>
    exact sourceRouted_agrees_iff _ _ _ _ _ _ _ _ hfit.2.2
  | commandFrame dst src radius sequence commandId payload discoverRoute =>
    exact iff_of_true (commandFrame_agrees _ _ _ _ _ _ _ hfit.2) trivial
  | routeRequest id destination pathCost manyToOne ieee multicast =>
    refine iff_of_true (agrees_of_ite (buildRouteRequestPayload_eq _ _ _ _ _ _ _) ?_
      (parseRouteRequestPayload_bytes _ _ _ _ _ _)) trivial
    simp [routeRequestBytes]
  | routeReply id originator responder pathCost originatorIeee responderIeee multicast =>
    refine iff_of_true (agrees_of_ite (buildRouteReplyPayload_eq _ _ _ _ _ _ _ _) ?_
      (parseRouteReplyPayload_bytes _ _ _ _ _ _ _)) trivial
    simp [routeReplyBytes]
  | networkStatus status destination =>
    exact iff_of_true (agrees_of_ite (buildNetworkStatusPayload_eq _ _ _) (by simp)
      (parseNetworkStatusPayload_bytes _ _)) trivial
  | routeRecord relays => exact routeRecord_agrees_iff outMax relays
  | leave rejoin request removeChildren =>
    exact iff_of_true (agrees_of_ite (buildLeavePayload_eq _ _ _ _) (by simp)
      (parseLeavePayload_bytes _ _ _)) trivial
  | rejoinRequest capability =>
    exact iff_of_true (agrees_of_ite (buildRejoinRequestPayload_eq _ _) (by simp)
      (parseRejoinRequestPayload_bytes _)) trivial
  | rejoinResponse nwkAddress status =>
    exact iff_of_true (agrees_of_ite (buildRejoinResponsePayload_eq _ _ _) (by simp)
      (parseRejoinResponsePayload_bytes _ _)) trivial
  | linkStatus entries firstFrame lastFrame =>
    exact iff_of_true (linkStatus_agrees _ _ _ hfit.2) trivial
  | beaconPayload extendedPanId deviceDepth routerCapacity endDeviceCapacity updateId
      stackProfile =>
    refine iff_of_true (agrees_of_ite (buildBeaconPayload_eq _ _ _ _ _ _ _) ?_
      (parseBeaconPayload_bytes _ _ _ _ hfit.1 hfit.2)) trivial
    simp [beaconPayloadBytes]

theorem agrees_iff_countsFit_three_relays :
    (routeRecord [0x1111, 0x2222, 0x3333]).Fits ∧
      (routeRecord [0x1111, 0x2222, 0x3333]).Agrees 7 := by
  have hfit : (routeRecord [0x1111, 0x2222, 0x3333]).Fits := by simp [Fits]
  exact ⟨hfit, (agrees_iff_countsFit 7 _ hfit).mpr (Or.inl (by decide))⟩

/-- 128 recorded relays fill 257 bytes and report 1; 123 source-route relays leave a header of
length 0, under the payload. -/
theorem relayLists_overrun :
    ((routeRecord (List.replicate 128 0x1234)).Fits ∧
      ¬ (routeRecord (List.replicate 128 0x1234)).Agrees 1) ∧
    ((dataFrameSourceRouted 1 2 30 7 (List.replicate 123 0x1234) 0 [0xAA] 0).Fits ∧
      ¬ (dataFrameSourceRouted 1 2 30 7 (List.replicate 123 0x1234) 0 [0xAA] 0).Agrees 255) := by
  refine ⟨⟨by simp [Fits], ?_⟩, ⟨by simp [Fits], ?_⟩⟩
  · rw [routeRecord_agrees_iff]
    simp [CountsFit]
  · rw [sourceRouted_agrees_iff _ _ _ _ _ _ _ _ (by decide)]
    simp [CountsFit, kMaxPayload, kMaxFrame, kBaseHeaderLen]

/-! ## Stores past the buffer -/

/-- Of the two relay lists, the size fits its byte or the call is refused. -/
def StoresFit (outMax : UInt8) : NwkCall → Prop
  | dataFrameSourceRouted _ _ _ _ relays _ payload discoverRoute =>
      relays.length ≤ 122 ∨ outMax.toNat < (10 + relays.length * 2) % 256 + payload.length ∨
        kMaxPayload < payload.length ∨ 3 < discoverRoute
  | routeRecord relays => ByteChecked outMax.toNat (1 + relays.length * 2)
  | _ => True

private theorem dataFrame_inside (outMax : UInt8) (dst src : UInt16) (radius sequence : UInt8)
    (payload : List UInt8) (discoverRoute : UInt8) :
    (buildDataFrame outMax dst src radius sequence payload discoverRoute).Inside outMax.toNat := by
  by_cases hlen : payload.length > kMaxPayload
  · rw [buildDataFrame, if_pos hlen]
    exact inside_fail
  by_cases hmax : outMax.toNat < kBaseHeaderLen + payload.length
  · rw [buildDataFrame, if_neg hlen, if_pos hmax]
    exact inside_fail
  by_cases hdr : discoverRoute > 3
  · rw [buildDataFrame, if_neg hlen, if_neg hmax, if_pos hdr]
    exact inside_fail
  · rw [buildDataFrame_eq dst src radius sequence (Nat.not_lt.mp hmax) (Nat.not_lt.mp hlen)
      (UInt8.not_lt.mp hdr)]
    exact inside_exact (by simpa using Nat.not_lt.mp hmax)

private theorem commandFrame_inside (outMax : UInt8) (dst src : UInt16)
    (radius sequence commandId : UInt8) (payload : List UInt8) (discoverRoute : UInt8) :
    (buildCommandFrame outMax dst src radius sequence commandId payload discoverRoute).Inside
      outMax.toNat := by
  have hcast : (kMaxPayload - 1) % 256 = kMaxPayload - 1 := rfl
  by_cases hlen : payload.length > kMaxPayload - 1
  · rw [buildCommandFrame, hcast, if_pos hlen]
    exact inside_fail
  by_cases hmax : outMax.toNat < kBaseHeaderLen + 1 + payload.length
  · rw [buildCommandFrame, hcast, if_neg hlen, if_pos hmax]
    exact inside_fail
  by_cases hdr : discoverRoute > 3
  · rw [buildCommandFrame, hcast, if_neg hlen, if_neg hmax, if_pos hdr]
    exact inside_fail
  · rw [buildCommandFrame_eq dst src radius sequence commandId (Nat.not_lt.mp hmax)
      (Nat.not_lt.mp hlen) (UInt8.not_lt.mp hdr)]
    apply inside_exact
    simp only [headerBytes_length, List.length_cons]
    omega

private theorem sourceRouted_inside_iff (outMax : UInt8) (dst src : UInt16)
    (radius sequence : UInt8) (relays : List UInt16) (relayIndex : UInt8) (payload : List UInt8)
    (discoverRoute : UInt8) :
    (buildDataFrameSourceRouted outMax dst src radius sequence relays relayIndex payload
        discoverRoute).Inside outMax.toNat ↔
      relays.length ≤ 122 ∨ outMax.toNat < (10 + relays.length * 2) % 256 + payload.length ∨
        kMaxPayload < payload.length ∨ 3 < discoverRoute := by
  have hout := outMax.toNat_lt
  have hhead := routedHeader_length relays.length
  by_cases hdr : discoverRoute > 3
  · rw [buildDataFrameSourceRouted, if_pos hdr]
    exact iff_of_true inside_fail (Or.inr (Or.inr (Or.inr hdr)))
  by_cases hmax : (10 + relays.length * 2) % 256 + payload.length > outMax.toNat
  · simp only [buildDataFrameSourceRouted, hhead, if_neg hdr, if_pos hmax]
    exact iff_of_true inside_fail (Or.inr (Or.inl hmax))
  by_cases hlen : payload.length > kMaxPayload
  · simp only [buildDataFrameSourceRouted, hhead, if_neg hdr, if_neg hmax, if_pos hlen]
    exact iff_of_true inside_fail (Or.inr (Or.inr (Or.inl hlen)))
  by_cases hcount : relays.length ≤ 122
  · rw [buildDataFrameSourceRouted_eq dst src radius sequence relayIndex hcount
      (by simp only [kBaseHeaderLen]; omega) (Nat.not_lt.mp hlen) (UInt8.not_lt.mp hdr)]
    refine iff_of_true (inside_exact ?_) (Or.inl hcount)
    simp only [headerBytes_length, routedBytes_length, kBaseHeaderLen]
    omega
  · obtain ⟨b, hb⟩ := sourceRouted_last outMax dst src radius sequence relayIndex payload
      (UInt8.not_lt.mp hdr) (Nat.not_le.mp hcount) (Nat.not_lt.mp hmax) (Nat.not_lt.mp hlen)
    refine iff_of_false (not_inside_of_write hb (by dsimp only; omega)) ?_
    simp only [hcount, hlen, not_or]
    exact ⟨id, hmax, id, hdr⟩

private theorem routeRecord_inside_iff (outMax : UInt8) (relays : List UInt16) :
    (buildRouteRecordPayload outMax relays).Inside outMax.toNat ↔
      ByteChecked outMax.toNat (1 + relays.length * 2) := by
  rw [← routeRecordBytes_length]
  apply inside_run_iff outMax.toNat_lt
  rw [buildRouteRecordPayload, routeRecord_writes, routeRecordBytes_length]

/-- Whatever the arguments, nothing is stored past the buffer exactly when a relay list's size fits
its byte or the call is refused. -/
theorem relayLists_inside_iff (outMax : UInt8) (call : NwkCall) :
    (call.build outMax).Inside outMax.toNat ↔ call.StoresFit outMax := by
  cases call with
  | dataFrame dst src radius sequence payload discoverRoute =>
    exact iff_of_true (dataFrame_inside _ _ _ _ _ _ _) trivial
  | dataFrameSourceRouted dst src radius sequence relays relayIndex payload discoverRoute =>
    exact sourceRouted_inside_iff _ _ _ _ _ _ _ _ _
  | commandFrame dst src radius sequence commandId payload discoverRoute =>
    exact iff_of_true (commandFrame_inside _ _ _ _ _ _ _ _) trivial
  | routeRequest id destination pathCost manyToOne ieee multicast =>
    exact iff_of_true (inside_of_refused (buildRouteRequestPayload_eq _ _ _ _ _ _ _)) trivial
  | routeReply id originator responder pathCost originatorIeee responderIeee multicast =>
    exact iff_of_true (inside_of_refused (buildRouteReplyPayload_eq _ _ _ _ _ _ _ _)) trivial
  | networkStatus status destination =>
    exact iff_of_true (inside_of_refused (buildNetworkStatusPayload_eq _ _ _)) trivial
  | routeRecord relays => exact routeRecord_inside_iff outMax relays
  | leave rejoin request removeChildren =>
    exact iff_of_true (inside_of_refused (buildLeavePayload_eq _ _ _ _)) trivial
  | rejoinRequest capability =>
    exact iff_of_true (inside_of_refused (buildRejoinRequestPayload_eq _ _)) trivial
  | rejoinResponse nwkAddress status =>
    exact iff_of_true (inside_of_refused (buildRejoinResponsePayload_eq _ _ _)) trivial
  | linkStatus entries firstFrame lastFrame =>
    refine iff_of_true ?_ trivial
    have hbuild : buildLinkStatusPayload outMax entries firstFrame lastFrame = _ :=
      buildLinkStatusPayload_eq outMax firstFrame lastFrame
    by_cases hcount : entries.length > 31
    · rw [build, hbuild, if_pos (Or.inl hcount)]
      exact inside_fail
    · simp only [hcount, false_or] at hbuild
      exact inside_of_refused hbuild
  | beaconPayload extendedPanId deviceDepth routerCapacity endDeviceCapacity updateId
      stackProfile =>
    exact iff_of_true (inside_of_refused (buildBeaconPayload_eq _ _ _ _ _ _ _)) trivial

end NwkCall

end NiusZigbee.ZigbeeNwk
