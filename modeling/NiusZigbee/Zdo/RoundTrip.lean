import NiusZigbee.Library.ByteSize
import NiusZigbee.Zdo.Payload

/-!
# ZDO encoders and decoders agree

One call of any ZDO builder that has a parser, the buffer it leaves, and what the parser recovers.
Sizes that wrap in `uint8_t`, the output count that the match request's check leaves out, and bind
modes that no parser knows are where they part.
-/

namespace NiusZigbee.ZigbeeZdo

open ByteCodec OutBuffer

/-- A call of one of the ZDO builders. -/
inductive ZdoCall where
  | nwkAddressRequest (sequence : UInt8) (ieeeAddress : UInt64) (requestType startIndex : UInt8)
  | ieeeAddressRequest (sequence : UInt8) (nwkAddress : UInt16) (requestType startIndex : UInt8)
  | addressResponse (sequence status : UInt8) (ieeeAddress : UInt64) (nwkAddress : UInt16)
      (associatedDevices : List UInt16) (startIndex : UInt8)
  | activeEndpointRequest (sequence : UInt8) (nwkAddress : UInt16)
  | activeEndpointResponse (sequence status : UInt8) (nwkAddress : UInt16)
      (endpoints : List UInt8)
  | simpleDescriptor (descriptor : ZdoSimpleDescriptor)
  | simpleDescriptorRequest (sequence : UInt8) (nwkAddress : UInt16) (endpoint : UInt8)
  | simpleDescriptorResponse (sequence status : UInt8) (nwkAddress : UInt16)
      (descriptor : Option ZdoSimpleDescriptor)
  | matchDescriptorRequest (sequence : UInt8) (nwkAddress profileId : UInt16)
      (inputClusters outputClusters : List UInt16)
  | matchDescriptorResponse (sequence status : UInt8) (nwkAddress : UInt16)
      (endpoints : List UInt8)
  | deviceAnnounce (sequence : UInt8) (nwkAddress : UInt16) (ieeeAddress : UInt64)
      (capability : UInt8)
  | bindRequest (request : ZdoBindRequest)
  | bindResponse (sequence status : UInt8)
  | mgmtLqiRequest (sequence startIndex : UInt8)
  | mgmtRtgRequest (sequence startIndex : UInt8)
  | mgmtLqiResponse (sequence status neighborTableEntries startIndex : UInt8)
      (entries : List ZdoNeighborListEntry)
  | mgmtRtgResponse (sequence status routingTableEntries startIndex : UInt8)
      (entries : List ZdoRoutingListEntry)

namespace ZdoCall

def build (outMax : UInt8) : ZdoCall → Built
  | nwkAddressRequest sequence ieeeAddress requestType startIndex =>
      buildNwkAddressRequest outMax sequence ieeeAddress requestType startIndex
  | ieeeAddressRequest sequence nwkAddress requestType startIndex =>
      buildIeeeAddressRequest outMax sequence nwkAddress requestType startIndex
  | addressResponse sequence status ieeeAddress nwkAddress associatedDevices startIndex =>
      buildAddressResponse outMax sequence status ieeeAddress nwkAddress associatedDevices
        startIndex
  | activeEndpointRequest sequence nwkAddress =>
      buildActiveEndpointRequest outMax sequence nwkAddress
  | activeEndpointResponse sequence status nwkAddress endpoints =>
      buildActiveEndpointResponse outMax sequence status nwkAddress endpoints
  | simpleDescriptor descriptor => buildSimpleDescriptor outMax descriptor
  | simpleDescriptorRequest sequence nwkAddress endpoint =>
      buildSimpleDescriptorRequest outMax sequence nwkAddress endpoint
  | simpleDescriptorResponse sequence status nwkAddress descriptor =>
      buildSimpleDescriptorResponse outMax sequence status nwkAddress descriptor
  | matchDescriptorRequest sequence nwkAddress profileId inputClusters outputClusters =>
      buildMatchDescriptorRequest outMax sequence nwkAddress profileId inputClusters outputClusters
  | matchDescriptorResponse sequence status nwkAddress endpoints =>
      buildMatchDescriptorResponse outMax sequence status nwkAddress endpoints
  | deviceAnnounce sequence nwkAddress ieeeAddress capability =>
      buildDeviceAnnounce outMax sequence nwkAddress ieeeAddress capability
  | bindRequest request => buildBindRequest outMax request
  | bindResponse sequence status => buildBindResponse outMax sequence status
  | mgmtLqiRequest sequence startIndex => buildMgmtLqiRequest outMax sequence startIndex
  | mgmtRtgRequest sequence startIndex => buildMgmtRtgRequest outMax sequence startIndex
  | mgmtLqiResponse sequence status neighborTableEntries startIndex entries =>
      buildMgmtLqiResponse outMax sequence status neighborTableEntries startIndex entries
  | mgmtRtgResponse sequence status routingTableEntries startIndex entries =>
      buildMgmtRtgResponse outMax sequence status routingTableEntries startIndex entries

/-- Every field fits its wire field and every count its `uint8_t` parameter. -/
def Fits : ZdoCall → Prop
  | addressResponse _ _ _ _ associatedDevices _ => associatedDevices.length < 256
  | activeEndpointResponse _ _ _ endpoints => endpoints.length < 256
  | matchDescriptorResponse _ _ _ endpoints => endpoints.length < 256
  | simpleDescriptor descriptor => descriptor.Fits
  | simpleDescriptorResponse _ _ _ descriptor => ∀ d ∈ descriptor, d.Fits
  | matchDescriptorRequest _ _ _ inputClusters outputClusters =>
      inputClusters.length < 256 ∧ outputClusters.length < 256
  | mgmtLqiResponse _ _ _ _ entries => entries.length < 256 ∧ ∀ entry ∈ entries, entry.Fits
  | mgmtRtgResponse _ _ _ _ entries => entries.length < 256 ∧ ∀ entry ∈ entries, entry.Fits
  | _ => True

/-- An endpoint-list response carries these fields. -/
def RecoversEndpoints (bytes : List UInt8) (sequence status : UInt8) (nwkAddress : UInt16)
    (endpoints : List UInt8) (response : ZdoEndpointListResponse) : Prop :=
  response.sequence = sequence ∧ response.status = status ∧ response.nwkAddress = nwkAddress ∧
    response.endpointCount.toNat = endpoints.length ∧
    ∃ off, response.endpoints = some off ∧
      slice bytes off response.endpointCount.toNat = endpoints

/-- The parser that belongs to the builder accepts the bytes and recovers the call's arguments. -/
def Recovered (bytes : List UInt8) : ZdoCall → Prop
  | nwkAddressRequest sequence ieeeAddress requestType startIndex =>
      parseNwkAddressRequest bytes = some (true,
        { sequence := sequence, ieeeAddress := ieeeAddress, requestType := requestType
          startIndex := startIndex })
  | ieeeAddressRequest sequence nwkAddress requestType startIndex =>
      parseIeeeAddressRequest bytes = some (true,
        { sequence := sequence, nwkAddress := nwkAddress, requestType := requestType
          startIndex := startIndex })
  | addressResponse sequence status ieeeAddress nwkAddress associatedDevices startIndex =>
      ∃ response, parseAddressResponse bytes = some (true, response) ∧
        response.sequence = sequence ∧ response.status = status ∧
        response.ieeeAddress = ieeeAddress ∧ response.nwkAddress = nwkAddress ∧
        response.startIndex = startIndex ∧
        response.associatedDeviceCount.toNat = associatedDevices.length ∧
        WordsAt bytes response.associatedDevices associatedDevices
  | activeEndpointRequest sequence nwkAddress =>
      parseActiveEndpointRequest bytes =
        some (true, { sequence := sequence, nwkAddress := nwkAddress })
  | activeEndpointResponse sequence status nwkAddress endpoints =>
      ∃ response, parseActiveEndpointResponse bytes = some (true, response) ∧
        RecoversEndpoints bytes sequence status nwkAddress endpoints response
  | simpleDescriptor descriptor =>
      ∃ received, parseSimpleDescriptor bytes bytes.length = some (true, received) ∧
        RecoversDescriptor bytes received descriptor
  | simpleDescriptorRequest sequence nwkAddress endpoint =>
      parseSimpleDescriptorRequest bytes =
        some (true, { sequence := sequence, nwkAddress := nwkAddress, endpoint := endpoint })
  | simpleDescriptorResponse sequence status nwkAddress descriptor =>
      ∃ response, parseSimpleDescriptorResponse bytes = some (true, response) ∧
        response.sequence = sequence ∧ response.status = status ∧
        response.nwkAddress = nwkAddress ∧
        if status ≠ zdoStatusSuccess then response.descriptor = {}
        else match descriptor with
          | none => response.descriptor = {}
          | some descriptor => RecoversDescriptor (bytes.drop 5) response.descriptor descriptor
  | matchDescriptorRequest sequence nwkAddress profileId inputClusters outputClusters =>
      ∃ request, parseMatchDescriptorRequest bytes = some (true, request) ∧
        request.sequence = sequence ∧ request.nwkAddress = nwkAddress ∧
        request.profileId = profileId ∧
        RecoversLists bytes request.toClusterLists inputClusters outputClusters
  | matchDescriptorResponse sequence status nwkAddress endpoints =>
      ∃ response, parseMatchDescriptorResponse bytes = some (true, response) ∧
        RecoversEndpoints bytes sequence status nwkAddress endpoints response
  | deviceAnnounce sequence nwkAddress ieeeAddress capability =>
      parseDeviceAnnounce bytes = some (true,
        { sequence := sequence, nwkAddress := nwkAddress, ieeeAddress := ieeeAddress
          capability := capability })
  | bindRequest request => parseBindRequest bytes = some (true, request.sent)
  | bindResponse sequence status =>
      parseBindResponse bytes = some (true, { sequence := sequence, status := status })
  | mgmtLqiRequest sequence startIndex =>
      parseMgmtRequest bytes = some (true, { sequence := sequence, startIndex := startIndex })
  | mgmtRtgRequest sequence startIndex =>
      parseMgmtRequest bytes = some (true, { sequence := sequence, startIndex := startIndex })
  | mgmtLqiResponse sequence status neighborTableEntries startIndex entries =>
      ∃ response, parseMgmtLqiResponse bytes = some (true, response) ∧
        response.sequence = sequence ∧ response.status = status ∧
        response.neighborTableEntries = neighborTableEntries ∧
        response.startIndex = startIndex ∧ response.listCount.toNat = entries.length ∧
        ∀ i : UInt8, (h : i.toNat < entries.length) →
          getNeighborListEntry bytes response i = some (some entries[i.toNat])
  | mgmtRtgResponse sequence status routingTableEntries startIndex entries =>
      ∃ response, parseMgmtRtgResponse bytes = some (true, response) ∧
        response.sequence = sequence ∧ response.status = status ∧
        response.routingTableEntries = routingTableEntries ∧
        response.startIndex = startIndex ∧ response.listCount.toNat = entries.length ∧
        ∀ i : UInt8, (h : i.toNat < entries.length) →
          getRoutingListEntry bytes response i = some (some entries[i.toNat])

/-- The builder returns 0, or a length inside the buffer with no store outside it, and its parser
recovers the call. -/
def Agrees (outMax : UInt8) (call : ZdoCall) : Prop :=
  (call.build outMax).Agrees outMax.toNat fun bytes => call.Recovered bytes

/-- The counts keep the computed size exact, or the builder refuses the call; the match request
must not end one byte past the buffer, and a bind request must have a mode. -/
def SizesFit (outMax : UInt8) : ZdoCall → Prop
  | addressResponse _ _ _ _ associatedDevices _ =>
      ByteSized outMax.toNat (14 + associatedDevices.length * 2)
  | activeEndpointResponse _ _ _ endpoints => ByteSized outMax.toNat (5 + endpoints.length)
  | matchDescriptorResponse _ _ _ endpoints => ByteSized outMax.toNat (5 + endpoints.length)
  | simpleDescriptor descriptor => ByteSized outMax.toNat descriptor.size
  | simpleDescriptorResponse _ status _ descriptor =>
      status = zdoStatusSuccess → ∀ d ∈ descriptor,
        d.size < 256 ∨ outMax.toNat < 5 + d.size % 256 ∨ d.size % 256 = 0
  | matchDescriptorRequest _ _ _ inputClusters outputClusters =>
      let size := matchRequestSize inputClusters outputClusters
      size ≤ outMax.toNat ∨ outMax.toNat < (size - 1) % 256
  | bindRequest request =>
      request.dstAddrMode = kBindAddrModeGroup ∨ request.dstAddrMode = kBindAddrModeIeee ∨
        outMax.toNat < 22
  | _ => True

/-! ## Calls of an exact size -/

private theorem agrees_of_exact {outMax : UInt8} {call : ZdoCall} {bytes : List UInt8}
    (hbuild : call.build outMax = .exact bytes) (hpos : 0 < bytes.length)
    (hmax : bytes.length ≤ outMax.toNat) (hrec : call.Recovered bytes) : call.Agrees outMax := by
  rw [ZdoCall.Agrees, hbuild]
  exact (agrees_exact hpos hmax).mpr hrec

private theorem agrees_of_ite {outMax : UInt8} {call : ZdoCall} {bytes : List UInt8}
    (hbuild : call.build outMax = if outMax.toNat < bytes.length then .fail else .exact bytes)
    (hpos : 0 < bytes.length) (hrec : call.Recovered bytes) : call.Agrees outMax :=
  agrees_of_refused hbuild hpos fun _ => hrec

private theorem mgmtLqiResponse_agrees (outMax sequence status tableEntries startIndex : UInt8)
    {entries : List ZdoNeighborListEntry} (hcount : entries.length < 256)
    (hfit : ∀ entry ∈ entries, entry.Fits) :
    (mgmtLqiResponse sequence status tableEntries startIndex entries).Agrees outMax := by
  refine agrees_of_ite (buildMgmtResponse_eq neighborEntryBytes_length outMax sequence status
    tableEntries startIndex entries) ?_ ⟨_, parseMgmtLqiResponse_bytes _ _ _ _ hcount, rfl, rfl,
      rfl, rfl, toNat_toUInt8 hcount, ?_⟩
  · rw [mgmtBytes_length neighborEntryBytes_length]
    omega
  · intro i hi
    refine getNeighborListEntry_bytes sequence status tableEntries startIndex rfl ?_ hi
      (hfit _ (List.getElem_mem hi))
    rw [UInt8.lt_iff_toNat_lt, toNat_toUInt8 hcount]
    exact hi

private theorem mgmtRtgResponse_agrees (outMax sequence status tableEntries startIndex : UInt8)
    {entries : List ZdoRoutingListEntry} (hcount : entries.length < 256)
    (hfit : ∀ entry ∈ entries, entry.Fits) :
    (mgmtRtgResponse sequence status tableEntries startIndex entries).Agrees outMax := by
  refine agrees_of_ite (buildMgmtResponse_eq routingEntryBytes_length outMax sequence status
    tableEntries startIndex entries) ?_ ⟨_, parseMgmtRtgResponse_bytes _ _ _ _ hcount, rfl, rfl,
      rfl, rfl, toNat_toUInt8 hcount, ?_⟩
  · rw [mgmtBytes_length routingEntryBytes_length]
    omega
  · intro i hi
    refine getRoutingListEntry_bytes sequence status tableEntries startIndex rfl ?_ hi
      (hfit _ (List.getElem_mem hi))
    rw [UInt8.lt_iff_toNat_lt, toNat_toUInt8 hcount]
    exact hi

/-! ## Calls whose size wraps -/

/-- A builder that checks its size modulo 256 agrees when the size is right, is refused, or is
reported as 0; otherwise it stores past what it reports. -/
private theorem agrees_iff_byteSized {outMax : UInt8} {call : ZdoCall} {bytes : List UInt8}
    (hpos : 0 < bytes.length)
    (hlen : (call.build outMax).len =
      if outMax.toNat < bytes.length % 256 then 0 else bytes.length % 256)
    (hexact : bytes.length ≤ outMax.toNat → call.build outMax = .exact bytes)
    (hlast : 256 ≤ bytes.length → bytes.length % 256 ≤ outMax.toNat →
      ∃ w ∈ (call.build outMax).writes, 255 ≤ w.1)
    (hrec : bytes.length < 256 → call.Recovered bytes) :
    call.Agrees outMax ↔ ByteSized outMax.toNat bytes.length := by
  rw [ZdoCall.Agrees, agrees_wrapped_iff hpos hlen hexact hlast]
  exact or_congr_left (and_iff_left_of_imp hrec)

private theorem agrees_iff_of_run {outMax : UInt8} {call : ZdoCall} {bytes : List UInt8}
    (hpos : 0 < bytes.length)
    (hbuild : call.build outMax =
      if outMax.toNat < bytes.length % 256 then .fail else ⟨bytes.length % 256, emit 0 bytes⟩)
    (hrec : bytes.length < 256 → call.Recovered bytes) :
    call.Agrees outMax ↔ ByteSized outMax.toNat bytes.length := by
  rw [ZdoCall.Agrees, agrees_run_iff hbuild outMax.toNat_lt hpos]
  exact or_congr_left (and_iff_left_of_imp hrec)

private theorem addressResponse_agrees_iff (outMax sequence status : UInt8) (ieeeAddress : UInt64)
    (nwkAddress : UInt16) (devices : List UInt16) (startIndex : UInt8) :
    (addressResponse sequence status ieeeAddress nwkAddress devices startIndex).Agrees outMax ↔
      ByteSized outMax.toNat (14 + devices.length * 2) := by
  have hlen := addressResponseBytes_length sequence status ieeeAddress nwkAddress devices startIndex
  have hbuild := addressResponse_writes outMax sequence status ieeeAddress nwkAddress devices
    startIndex
  rw [← hlen] at hbuild ⊢
  refine agrees_iff_of_run (by omega) hbuild ?_
  intro hsize
  exact ⟨_, parseAddressResponse_bytes sequence status ieeeAddress nwkAddress startIndex (by omega),
    rfl, rfl, rfl, rfl, rfl, toNat_toUInt8 (by omega),
    addressResponse_devices sequence status ieeeAddress nwkAddress devices startIndex⟩

private theorem endpointList_agrees_iff {outMax sequence status : UInt8} {nwkAddress : UInt16}
    {endpoints : List UInt8} {call : ZdoCall}
    (hbuild : call.build outMax = buildEndpointList outMax sequence status nwkAddress endpoints)
    (hrec : ∀ bytes, call.Recovered bytes ↔ ∃ response,
      parseEndpointList bytes = some (true, response) ∧
        RecoversEndpoints bytes sequence status nwkAddress endpoints response) :
    call.Agrees outMax ↔ ByteSized outMax.toNat (5 + endpoints.length) := by
  have hlen := endpointListBytes_length sequence status nwkAddress endpoints
  rw [endpointList_writes] at hbuild
  rw [← hlen] at hbuild ⊢
  refine agrees_iff_of_run (by omega) hbuild ?_
  intro hsize
  have hcount := @toNat_toUInt8 endpoints.length (by omega)
  refine (hrec _).mpr ⟨_, parseEndpointList_bytes sequence status nwkAddress (by omega), rfl, rfl,
    rfl, hcount, 5, rfl, ?_⟩
  rw [hcount]
  exact endpointList_endpoints sequence status nwkAddress endpoints

private theorem simpleDescriptor_agrees_iff (outMax : UInt8) {descriptor : ZdoSimpleDescriptor}
    (hversion : descriptor.deviceVersion.toNat < 16) :
    (simpleDescriptor descriptor).Agrees outMax ↔ ByteSized outMax.toNat descriptor.size := by
  have hlen := descriptor.bytes_length
  have hpos : 0 < descriptor.size := by
    rw [ZdoSimpleDescriptor.size]
    omega
  rw [← hlen]
  refine agrees_iff_byteSized (by omega) ?_ ?_ ?_ ?_
  · rw [hlen]
    exact buildSimpleDescriptor_len outMax descriptor
  · intro hfit
    exact buildSimpleDescriptor_eq (by omega)
  · intro hover hmax
    obtain ⟨b, hb⟩ := @buildSimpleDescriptor_last outMax descriptor (by omega) (by omega)
    exact ⟨_, hb, Nat.le_refl 255⟩
  · intro hsize
    exact parseSimpleDescriptor_bytes (by omega) hversion

private theorem descriptorHeader_agrees (outMax sequence status : UInt8) (nwkAddress : UInt16)
    {descriptor : Option ZdoSimpleDescriptor}
    (hnone : status ≠ zdoStatusSuccess ∨ descriptor = none) :
    (simpleDescriptorResponse sequence status nwkAddress descriptor).Agrees outMax := by
  by_cases hmax : 5 ≤ outMax.toNat
  · refine agrees_of_exact (buildSimpleDescriptorResponse_header hmax hnone)
      (Nat.zero_lt_succ 4) hmax ⟨_, parseSimpleDescriptorResponse_bytes sequence status nwkAddress
        (Nat.zero_le 250), rfl, rfl, rfl, ?_⟩
    rcases hnone with hstatus | rfl
    · rw [if_pos hstatus]
    · split <;> rfl
  · left
    rw [build, buildSimpleDescriptorResponse, if_pos (by omega), Built.fail_len]

private theorem descriptorCarried_agrees_iff (outMax sequence : UInt8) (nwkAddress : UInt16)
    {descriptor : ZdoSimpleDescriptor} (hversion : descriptor.deviceVersion.toNat < 16) :
    (simpleDescriptorResponse sequence zdoStatusSuccess nwkAddress (some descriptor)).Agrees
        outMax ↔
      descriptor.size < 256 ∨ outMax.toNat < 5 + descriptor.size % 256 ∨
        descriptor.size % 256 = 0 := by
  have hout := outMax.toNat_lt
  have hlen := descriptor.bytes_length
  have hsize : 8 ≤ descriptor.size := by
    rw [ZdoSimpleDescriptor.size]
    omega
  -- A refused or wrapped-to-zero descriptor takes the response with it.
  have hzero (h : outMax.toNat < 5 + descriptor.size % 256 ∨ descriptor.size % 256 = 0) :
      (simpleDescriptorResponse sequence zdoStatusSuccess nwkAddress (some descriptor)).Agrees
        outMax := by
    left
    by_cases hmax : outMax.toNat < 5
    · rw [build, buildSimpleDescriptorResponse, if_pos hmax, Built.fail_len]
    · have hroom := @room_toNat outMax (by omega)
      have hinner : (buildSimpleDescriptor (outMax - 5) descriptor).len = 0 := by
        rw [buildSimpleDescriptor_len, hroom]
        split <;> omega
      simp only [build, buildSimpleDescriptorResponse, if_neg hmax, ne_eq, not_true, if_false,
        if_pos hinner]
  by_cases hfit : 5 + descriptor.size ≤ outMax.toNat
  · refine iff_of_true ?_ (Or.inl (by omega))
    obtain ⟨hwithin, hbytes⟩ := @buildSimpleDescriptorResponse_carried outMax sequence nwkAddress
      descriptor hfit
    refine Or.inr ⟨hwithin, ?_⟩
    obtain ⟨received, hparse, hrecovers⟩ := parseSimpleDescriptor_bytes (by omega) hversion
    have hresponse := @parseSimpleDescriptorResponse_bytes sequence zdoStatusSuccess nwkAddress
      descriptor.bytes (by omega)
    have hne : descriptor.bytes ≠ [] := List.ne_nil_of_length_pos (by omega)
    rw [if_neg hne, hparse] at hresponse
    rw [build, hbytes]
    exact ⟨_, hresponse, rfl, rfl, rfl, hrecovers⟩
  constructor
  · rintro (hlenZero | ⟨hwithin, -⟩)
    · by_contra hnot
      simp only [not_or, Nat.not_lt] at hnot
      have hlast := (@buildSimpleDescriptorResponse_last outMax sequence nwkAddress descriptor
        hnot.1 hnot.2.2 hnot.2.1).1
      rw [build, hlast] at hlenZero
      omega
    · by_contra hnot
      simp only [not_or, Nat.not_lt] at hnot
      obtain ⟨hlast, b, hb⟩ := @buildSimpleDescriptorResponse_last outMax sequence nwkAddress
        descriptor hnot.1 hnot.2.2 hnot.2.1
      refine absurd hwithin (Built.not_within_of_write hb ?_)
      rw [build, hlast]
      dsimp only
      omega
  · rintro (h | h)
    · exact hzero (Or.inl (by omega))
    · exact hzero h

private theorem matchRequest_agrees_iff (outMax sequence : UInt8) (nwkAddress profileId : UInt16)
    (inputs outputs : List UInt16) :
    (matchDescriptorRequest sequence nwkAddress profileId inputs outputs).Agrees outMax ↔
      matchRequestSize inputs outputs ≤ outMax.toNat ∨
        outMax.toNat < (matchRequestSize inputs outputs - 1) % 256 := by
  have hout := outMax.toNat_lt
  have hsize := matchRequestBytes_length sequence nwkAddress profileId inputs outputs
  have hodd : matchRequestSize inputs outputs % 2 = 1 := by
    rw [matchRequestSize]
    omega
  have hlen := @buildMatchDescriptorRequest_len outMax sequence nwkAddress profileId inputs outputs
  by_cases hmax : outMax.toNat < (matchRequestSize inputs outputs - 1) % 256
  · rw [if_pos hmax] at hlen
    exact iff_of_true (Or.inl hlen) (Or.inr hmax)
  rw [if_neg hmax] at hlen
  by_cases hfit : matchRequestSize inputs outputs ≤ outMax.toNat
  · refine iff_of_true ?_ (Or.inl hfit)
    exact agrees_of_exact (buildMatchDescriptorRequest_eq (by omega) (by omega)) (by omega)
      (by omega) (parseMatchDescriptorRequest_bytes (by omega))
  refine iff_of_false ?_ (not_or.mpr ⟨hfit, hmax⟩)
  rintro (hzero | ⟨hwithin, -⟩)
  · rw [build, hlen] at hzero
    omega
  · by_cases hover : 256 ≤ matchRequestSize inputs outputs
    · obtain ⟨b, hb⟩ := @buildMatchDescriptorRequest_last outMax sequence nwkAddress profileId
        inputs outputs hover (by omega)
      refine absurd hwithin (Built.not_within_of_write hb ?_)
      rw [build, hlen]
      dsimp only
      omega
    · -- The output count takes the byte behind the buffer.
      have hle : (buildMatchDescriptorRequest outMax sequence nwkAddress profileId inputs
        outputs).len ≤ outMax.toNat := hwithin.2.1
      omega

private theorem bindRequest_agrees_iff (outMax : UInt8) (r : ZdoBindRequest) :
    (bindRequest r).Agrees outMax ↔
      r.dstAddrMode = kBindAddrModeGroup ∨ r.dstAddrMode = kBindAddrModeIeee ∨
        outMax.toNat < 22 := by
  have hlen := bindBytes_length r
  have hpos : 0 < (bindBytes r).length := by
    rw [hlen]
    split <;> omega
  have hbuild : (bindRequest r).build outMax = _ := buildBindRequest_eq outMax r
  by_cases hgroup : r.dstAddrMode = kBindAddrModeGroup
  · exact iff_of_true (agrees_of_ite hbuild hpos (parseBindRequest_bytes (Or.inl hgroup)))
      (Or.inl hgroup)
  by_cases hieee : r.dstAddrMode = kBindAddrModeIeee
  · exact iff_of_true (agrees_of_ite hbuild hpos (parseBindRequest_bytes (Or.inr hieee)))
      (Or.inr (Or.inl hieee))
  rw [if_neg hgroup] at hlen
  rw [hlen] at hbuild
  by_cases hmax : outMax.toNat < 22
  · refine iff_of_true (Or.inl ?_) (Or.inr (Or.inr hmax))
    rw [hbuild, if_pos hmax, Built.fail_len]
  · refine iff_of_false ?_ (by simp only [hgroup, hieee, hmax, or_self, not_false_iff])
    rw [if_neg hmax] at hbuild
    rintro (hzero | ⟨-, hrec⟩)
    · rw [hbuild, Built.exact_len, hlen] at hzero
      omega
    · rw [hbuild, Built.exact_bytes] at hrec
      have hunknown := parseBindRequest_unknown hgroup hieee
      rw [show parseBindRequest (bindBytes r) = _ from hrec] at hunknown
      simp at hunknown

/-- Every builder agrees with its parser exactly when its sizes fit. -/
theorem agrees_iff_sizesFit (outMax : UInt8) (call : ZdoCall) (hfit : call.Fits) :
    call.Agrees outMax ↔ call.SizesFit outMax := by
  cases call with
  | nwkAddressRequest sequence ieeeAddress requestType startIndex =>
    exact iff_of_true (agrees_of_ite (buildNwkAddressRequest_eq _ _ _ _ _) (Nat.zero_lt_succ 10)
      (parseNwkAddressRequest_bytes _ _ _ _)) trivial
  | ieeeAddressRequest sequence nwkAddress requestType startIndex =>
    exact iff_of_true (agrees_of_ite (buildIeeeAddressRequest_eq _ _ _ _ _) (Nat.zero_lt_succ 4)
      (parseIeeeAddressRequest_bytes _ _ _ _)) trivial
  | addressResponse sequence status ieeeAddress nwkAddress devices startIndex =>
    exact addressResponse_agrees_iff _ _ _ _ _ _ _
  | activeEndpointRequest sequence nwkAddress =>
    exact iff_of_true (agrees_of_ite (buildActiveEndpointRequest_eq _ _ _) (Nat.zero_lt_succ 2)
      (parseActiveEndpointRequest_bytes _ _)) trivial
  | activeEndpointResponse sequence status nwkAddress endpoints =>
    exact endpointList_agrees_iff rfl fun _ => Iff.rfl
  | simpleDescriptor descriptor => exact simpleDescriptor_agrees_iff outMax hfit.1
  | simpleDescriptorRequest sequence nwkAddress endpoint =>
    exact iff_of_true (agrees_of_ite (buildSimpleDescriptorRequest_eq _ _ _ _)
      (Nat.zero_lt_succ 3) (parseSimpleDescriptorRequest_bytes _ _ _)) trivial
  | simpleDescriptorResponse sequence status nwkAddress descriptor =>
    by_cases hstatus : status = zdoStatusSuccess
    · subst hstatus
      cases descriptor with
      | none =>
        exact iff_of_true (descriptorHeader_agrees _ _ _ _ (Or.inr rfl)) (by simp [SizesFit])
      | some descriptor =>
        rw [descriptorCarried_agrees_iff outMax sequence nwkAddress (hfit descriptor rfl).1]
        simp [SizesFit]
    · exact iff_of_true (descriptorHeader_agrees _ _ _ _ (Or.inl hstatus))
        fun h => absurd h hstatus
  | matchDescriptorRequest sequence nwkAddress profileId inputs outputs =>
    exact matchRequest_agrees_iff _ _ _ _ _ _
  | matchDescriptorResponse sequence status nwkAddress endpoints =>
    exact endpointList_agrees_iff rfl fun _ => Iff.rfl
  | deviceAnnounce sequence nwkAddress ieeeAddress capability =>
    exact iff_of_true (agrees_of_ite (buildDeviceAnnounce_eq _ _ _ _ _) (Nat.zero_lt_succ 11)
      (parseDeviceAnnounce_bytes _ _ _ _)) trivial
  | bindRequest request => exact bindRequest_agrees_iff outMax request
  | bindResponse sequence status =>
    exact iff_of_true (agrees_of_ite (buildBindResponse_eq _ _ _) (Nat.zero_lt_succ 1)
      (parseBindResponse_bytes _ _)) trivial
  | mgmtLqiRequest sequence startIndex =>
    exact iff_of_true (agrees_of_ite (buildMgmtLqiRequest_eq _ _ _) (Nat.zero_lt_succ 1)
      (parseMgmtRequest_bytes _ _)) trivial
  | mgmtRtgRequest sequence startIndex =>
    exact iff_of_true (agrees_of_ite (buildMgmtLqiRequest_eq _ _ _) (Nat.zero_lt_succ 1)
      (parseMgmtRequest_bytes _ _)) trivial
  | mgmtLqiResponse sequence status tableEntries startIndex entries =>
    exact iff_of_true (mgmtLqiResponse_agrees _ _ _ _ _ hfit.1 hfit.2) trivial
  | mgmtRtgResponse sequence status tableEntries startIndex entries =>
    exact iff_of_true (mgmtRtgResponse_agrees _ _ _ _ _ hfit.1 hfit.2) trivial

theorem agrees_iff_sizesFit_match_request :
    (matchDescriptorRequest 1 0xFFFD 0x0104 [0x0006] []).Fits ∧
      (matchDescriptorRequest 1 0xFFFD 0x0104 [0x0006] []).Agrees 9 := by
  have hfit : (matchDescriptorRequest 1 0xFFFD 0x0104 [0x0006] []).Fits := by simp [Fits]
  exact ⟨hfit, (agrees_iff_sizesFit 9 _ hfit).mpr (Or.inl (by decide))⟩

/-- A match request without clusters fills seven bytes of a buffer of six. -/
theorem matchRequest_overruns :
    (matchDescriptorRequest 1 0xFFFD 0x0104 [] []).Fits ∧
      ¬ (matchDescriptorRequest 1 0xFFFD 0x0104 [] []).Agrees 6 := by
  refine ⟨by simp [Fits], ?_⟩
  rw [matchRequest_agrees_iff]
  decide

/-! ## Stores past the buffer -/

/-- The counts keep the size in its byte, or the builder refuses the call, a match request by the
size that is one byte short. -/
def StoresFit (outMax : UInt8) : ZdoCall → Prop
  | addressResponse _ _ _ _ associatedDevices _ =>
      ByteChecked outMax.toNat (14 + associatedDevices.length * 2)
  | activeEndpointResponse _ _ _ endpoints => ByteChecked outMax.toNat (5 + endpoints.length)
  | matchDescriptorResponse _ _ _ endpoints => ByteChecked outMax.toNat (5 + endpoints.length)
  | simpleDescriptor descriptor => ByteChecked outMax.toNat descriptor.size
  | simpleDescriptorResponse _ status _ descriptor =>
      status = zdoStatusSuccess → ∀ d ∈ descriptor,
        d.size < 256 ∨ outMax.toNat < 5 + d.size % 256
  | matchDescriptorRequest _ _ _ inputClusters outputClusters =>
      let size := matchRequestSize inputClusters outputClusters
      size ≤ outMax.toNat ∨ outMax.toNat < (size - 1) % 256
  | _ => True

private theorem addressResponse_inside_iff (outMax sequence status : UInt8) (ieeeAddress : UInt64)
    (nwkAddress : UInt16) (devices : List UInt16) (startIndex : UInt8) :
    ((addressResponse sequence status ieeeAddress nwkAddress devices startIndex).build
        outMax).Inside outMax.toNat ↔ ByteChecked outMax.toNat (14 + devices.length * 2) := by
  have hlen := addressResponseBytes_length sequence status ieeeAddress nwkAddress devices startIndex
  have hbuild := addressResponse_writes outMax sequence status ieeeAddress nwkAddress devices
    startIndex
  rw [← hlen] at hbuild ⊢
  exact inside_run_iff outMax.toNat_lt hbuild

private theorem endpointList_inside_iff (outMax sequence status : UInt8) (nwkAddress : UInt16)
    (endpoints : List UInt8) :
    (buildEndpointList outMax sequence status nwkAddress endpoints).Inside outMax.toNat ↔
      ByteChecked outMax.toNat (5 + endpoints.length) := by
  have hlen := endpointListBytes_length sequence status nwkAddress endpoints
  have hbuild := endpointList_writes outMax sequence status nwkAddress endpoints
  rw [← hlen] at hbuild ⊢
  exact inside_run_iff outMax.toNat_lt hbuild

private theorem simpleDescriptor_inside_iff (outMax : UInt8) (descriptor : ZdoSimpleDescriptor) :
    (buildSimpleDescriptor outMax descriptor).Inside outMax.toNat ↔
      ByteChecked outMax.toNat descriptor.size := by
  have hlen := descriptor.bytes_length
  rw [← hlen]
  apply inside_wrapped_iff outMax.toNat_lt
  · intro hmax
    rw [hlen, ZdoSimpleDescriptor.size] at hmax
    simp only [buildSimpleDescriptor, if_pos hmax]
  · intro hfit
    exact buildSimpleDescriptor_eq (by omega)
  · intro hover hmax
    obtain ⟨b, hb⟩ := @buildSimpleDescriptor_last outMax descriptor (by omega) (by omega)
    exact ⟨_, hb, Nat.le_refl 255⟩

private theorem responseHead_inside {outMax : Nat} (hmax : 5 ≤ outMax) (sequence status b : UInt8)
    (nwkAddress : UInt16) :
    ∀ w ∈ emit 0 [sequence] ++ emit 1 [status] ++ emit 2 (le16 nwkAddress) ++ emit 4 [b],
      w.1 < outMax := by
  simp only [emit, le16, List.cons_append, List.nil_append,
    List.forall_mem_cons, List.not_mem_nil, false_implies, implies_true, and_true]
  omega

private theorem descriptorResponse_inside_iff (outMax sequence status : UInt8) (nwkAddress : UInt16)
    (descriptor : Option ZdoSimpleDescriptor) :
    (buildSimpleDescriptorResponse outMax sequence status nwkAddress descriptor).Inside
        outMax.toNat ↔
      (status = zdoStatusSuccess → ∀ d ∈ descriptor,
        d.size < 256 ∨ outMax.toNat < 5 + d.size % 256) := by
  by_cases hmax : outMax.toNat < 5
  · rw [buildSimpleDescriptorResponse, if_pos hmax]
    exact iff_of_true inside_fail fun _ d _ => Or.inr (by omega)
  have hhead := responseHead_inside (Nat.not_lt.mp hmax) sequence status 0 nwkAddress
  by_cases hnone : status ≠ zdoStatusSuccess ∨ descriptor = none
  · rw [buildSimpleDescriptorResponse_header (Nat.not_lt.mp hmax) hnone]
    refine iff_of_true (inside_exact (Nat.not_lt.mp hmax)) fun hstatus d hd => ?_
    rcases hnone with hne | rfl
    · exact absurd hstatus hne
    · cases hd
  rw [not_or, not_not] at hnone
  obtain ⟨rfl, hsome⟩ := hnone
  obtain ⟨d, rfl⟩ := Option.ne_none_iff_exists'.mp hsome
  have hroom := @room_toNat outMax (by omega)
  have hinner := simpleDescriptor_inside_iff (outMax - 5) d
  -- what the descriptor stores lies five bytes further on
  have hshift : (∀ w ∈ shiftWrites 5 (buildSimpleDescriptor (outMax - 5) d).writes,
      w.1 < outMax.toNat) ↔ (buildSimpleDescriptor (outMax - 5) d).Inside (outMax - 5).toNat := by
    simp only [shiftWrites, List.forall_mem_map, Built.Inside, hroom]
    exact forall₂_congr fun w _ => by omega
  have hboth : (buildSimpleDescriptorResponse outMax sequence zdoStatusSuccess nwkAddress
      (some d)).Inside outMax.toNat ↔
        (buildSimpleDescriptor (outMax - 5) d).Inside (outMax - 5).toNat := by
    have hlast : ∀ w ∈ emit 4 [(buildSimpleDescriptor (outMax - 5) d).len.toUInt8],
        w.1 < outMax.toNat := by
      simp only [emit, List.forall_mem_singleton]
      omega
    rw [← hshift]
    simp only [buildSimpleDescriptorResponse, if_neg hmax, ne_eq, not_true, if_false]
    split
    · rw [Built.Inside, List.forall_mem_append]
      exact and_iff_right hhead
    · rw [Built.Inside, List.forall_mem_append, List.forall_mem_append]
      exact (and_iff_left hlast).trans (and_iff_right hhead)
  rw [hboth, hinner, ByteChecked, hroom]
  simp only [Option.mem_def, Option.some.injEq, forall_eq', true_implies]
  exact or_congr_right (by omega)

private theorem matchRequest_inside_iff (outMax sequence : UInt8) (nwkAddress profileId : UInt16)
    (inputs outputs : List UInt16) :
    (buildMatchDescriptorRequest outMax sequence nwkAddress profileId inputs outputs).Inside
        outMax.toNat ↔
      matchRequestSize inputs outputs ≤ outMax.toNat ∨
        outMax.toNat < (matchRequestSize inputs outputs - 1) % 256 := by
  have hout := outMax.toNat_lt
  have hlen := matchRequestBytes_length sequence nwkAddress profileId inputs outputs
  by_cases hmax : outMax.toNat < (matchRequestSize inputs outputs - 1) % 256
  · have hrefused : outMax.toNat < (6 + inputs.length * 2 + outputs.length * 2) % 256 := by
      rw [matchRequestSize] at hmax
      omega
    simp only [buildMatchDescriptorRequest, if_pos hrefused]
    exact iff_of_true inside_fail (Or.inr hmax)
  by_cases hfit : matchRequestSize inputs outputs ≤ outMax.toNat
  · rw [buildMatchDescriptorRequest_eq (by omega) (by omega)]
    refine iff_of_true (inside_exact ?_) (Or.inl hfit)
    rw [hlen]
    exact hfit
  refine iff_of_false ?_ (not_or.mpr ⟨hfit, hmax⟩)
  by_cases hover : 256 ≤ matchRequestSize inputs outputs
  · obtain ⟨b, hb⟩ := @buildMatchDescriptorRequest_last outMax sequence nwkAddress profileId
      inputs outputs hover (by omega)
    exact not_inside_of_write hb (by dsimp only; omega)
  · -- the output count takes the byte behind the buffer
    rw [buildMatchDescriptorRequest_eq (by omega) (by omega)]
    obtain ⟨b, hb⟩ := @mem_emit 0 outMax.toNat
      (matchRequestBytes sequence nwkAddress profileId inputs outputs) (by omega) (by omega)
    exact not_inside_of_write hb (Nat.le_refl _)

/-- Whatever the arguments, nothing is stored past the buffer exactly when the sizes fit their bytes
or the call is refused. -/
theorem lists_inside_iff (outMax : UInt8) (call : ZdoCall) :
    (call.build outMax).Inside outMax.toNat ↔ call.StoresFit outMax := by
  cases call with
  | nwkAddressRequest sequence ieeeAddress requestType startIndex =>
    exact iff_of_true (inside_of_refused (buildNwkAddressRequest_eq _ _ _ _ _)) trivial
  | ieeeAddressRequest sequence nwkAddress requestType startIndex =>
    exact iff_of_true (inside_of_refused (buildIeeeAddressRequest_eq _ _ _ _ _)) trivial
  | addressResponse sequence status ieeeAddress nwkAddress devices startIndex =>
    exact addressResponse_inside_iff _ _ _ _ _ _ _
  | activeEndpointRequest sequence nwkAddress =>
    exact iff_of_true (inside_of_refused (buildActiveEndpointRequest_eq _ _ _)) trivial
  | activeEndpointResponse sequence status nwkAddress endpoints =>
    exact endpointList_inside_iff _ _ _ _ _
  | simpleDescriptor descriptor => exact simpleDescriptor_inside_iff outMax descriptor
  | simpleDescriptorRequest sequence nwkAddress endpoint =>
    exact iff_of_true (inside_of_refused (buildSimpleDescriptorRequest_eq _ _ _ _)) trivial
  | simpleDescriptorResponse sequence status nwkAddress descriptor =>
    exact descriptorResponse_inside_iff _ _ _ _ _
  | matchDescriptorRequest sequence nwkAddress profileId inputs outputs =>
    exact matchRequest_inside_iff _ _ _ _ _ _
  | matchDescriptorResponse sequence status nwkAddress endpoints =>
    exact endpointList_inside_iff _ _ _ _ _
  | deviceAnnounce sequence nwkAddress ieeeAddress capability =>
    exact iff_of_true (inside_of_refused (buildDeviceAnnounce_eq _ _ _ _ _)) trivial
  | bindRequest request =>
    exact iff_of_true (inside_of_refused (buildBindRequest_eq outMax request)) trivial
  | bindResponse sequence status =>
    exact iff_of_true (inside_of_refused (buildBindResponse_eq _ _ _)) trivial
  | mgmtLqiRequest sequence startIndex =>
    exact iff_of_true (inside_of_refused (buildMgmtLqiRequest_eq _ _ _)) trivial
  | mgmtRtgRequest sequence startIndex =>
    exact iff_of_true (inside_of_refused (buildMgmtLqiRequest_eq _ _ _)) trivial
  | mgmtLqiResponse sequence status tableEntries startIndex entries =>
    exact iff_of_true (inside_of_refused (buildMgmtResponse_eq neighborEntryBytes_length _ _ _ _ _
      _)) trivial
  | mgmtRtgResponse sequence status tableEntries startIndex entries =>
    exact iff_of_true (inside_of_refused (buildMgmtResponse_eq routingEntryBytes_length _ _ _ _ _
      _)) trivial

end ZdoCall

end NiusZigbee.ZigbeeZdo
