import NiusZigbee.Zdo.Device
import NiusZigbee.Zdo.Payload
import Mathlib.Data.List.Nodup

/-!
# Match descriptors, from the question to the answer

The device answers a match request with the endpoints of the profile that offer every cluster asked
for, in the order of its table and 16 of them at most. What the request carried and what the
response carries is read through the codecs of both sides.
-/

namespace NiusZigbee.ZigbeeDeviceObject

open ByteCodec OutBuffer ZigbeeZdo

/-- The endpoint has the profile and offers all of the clusters. -/
def Offers (profileId : UInt16) (inputs outputs : List UInt16)
    (desc : ZigbeeEndpointDescriptor) : Prop :=
  desc.profileId = profileId ∧ (∀ c ∈ inputs, c ∈ desc.inputClusters) ∧
    ∀ c ∈ outputs, c ∈ desc.outputClusters

instance (profileId : UInt16) (inputs outputs : List UInt16) (desc : ZigbeeEndpointDescriptor) :
    Decidable (Offers profileId inputs outputs desc) :=
  @instDecidableAnd _ _ _
    (@instDecidableAnd _ _ (List.decidableBAll _ inputs) (List.decidableBAll _ outputs))

/-- The endpoints to be listed. -/
def matching (device : ZigbeeDeviceObject) (profileId : UInt16) (inputs outputs : List UInt16) :
    List UInt8 :=
  ((device.endpoints.filter (Offers profileId inputs outputs)).take 16).map (·.endpoint)

def DistinctEndpoints (device : ZigbeeDeviceObject) : Prop :=
  (device.endpoints.map (·.endpoint)).Nodup

instance (device : ZigbeeDeviceObject) : Decidable device.DistinctEndpoints :=
  inferInstanceAs (Decidable (List.Nodup _))

variable {device : ZigbeeDeviceObject} {payload : List UInt8} {profileId : UInt16}
  {inputs outputs : List UInt16}

/-! ## The walk over the request -/

theorem containsCluster_iff {clusters : List UInt16} {clusterId : UInt16} :
    containsCluster clusters clusterId = true ↔ clusterId ∈ clusters := by
  simp [containsCluster]

theorem all_contains_iff {offered ws : List UInt16} :
    ws.all offered.contains = true ↔ ∀ c ∈ ws, c ∈ offered := by simp

theorem clustersOffered_words {offered ws : List UInt16} {off : Nat}
    (h : ∀ k, (hk : k < ws.length) → read16 payload (off + k * 2) = some ws[k]) :
    clustersOffered payload offered off ws.length = some (ws.all offered.contains) := by
  induction ws generalizing off with
  | nil => simp [clustersOffered]
  | cons w ws ih =>
    have hfirst : read16 payload off = some w := by
      have h0 := h 0 (by simp)
      rwa [Nat.zero_mul, Nat.add_zero, List.getElem_cons_zero] at h0
    have hrest : ∀ k, (hk : k < ws.length) → read16 payload (off + 2 + k * 2) = some ws[k] := by
      intro k hk
      have hk' := h (k + 1) (by simpa using hk)
      rwa [List.getElem_cons_succ, show off + (k + 1) * 2 = off + 2 + k * 2 by omega] at hk'
    simp only [List.length_cons, clustersOffered, hfirst, Option.bind_eq_bind, Option.bind_some,
      containsCluster_iff, ih hrest]
    by_cases hw : w ∈ offered
    · rw [if_pos hw]
      simp [hw]
    · rw [if_neg hw]
      simp [hw]

theorem findEndpoint_of_mem (hdistinct : device.DistinctEndpoints)
    {desc : ZigbeeEndpointDescriptor} (hmem : desc ∈ device.endpoints) :
    device.findEndpoint desc.endpoint = some desc := by
  cases hfound : device.findEndpoint desc.endpoint with
  | none =>
    exact absurd (decide_eq_true rfl) (List.find?_eq_none.mp hfound desc hmem)
  | some other =>
    have hkey : other.endpoint = desc.endpoint := by simpa using List.find?_some hfound
    rw [List.inj_on_of_nodup_map hdistinct (List.mem_of_find?_eq_some hfound) hmem hkey]

theorem endpointMatches_eq (hdistinct : device.DistinctEndpoints)
    {desc : ZigbeeEndpointDescriptor} (hmem : desc ∈ device.endpoints) {lists : ClusterLists}
    (hlists : RecoversLists payload lists inputs outputs) :
    device.endpointMatches payload desc.endpoint profileId lists =
      some (decide (Offers profileId inputs outputs desc)) := by
  obtain ⟨hinCount, ⟨inAt, hinAt, hin⟩, houtCount, ⟨outAt, houtAt, hout⟩⟩ := hlists
  simp only [endpointMatches, findEndpoint_of_mem hdistinct hmem, hinAt, houtAt, hinCount,
    houtCount, Option.bind_eq_bind, Option.bind_some, clustersOffered_words hin,
    clustersOffered_words hout]
  by_cases hprofile : desc.profileId = profileId
  swap
  · rw [if_pos hprofile, decide_eq_false fun h => hprofile h.1]
  rw [if_neg (not_not_intro hprofile)]
  by_cases hinputs : inputs.all desc.inputClusters.contains = true
  · rw [if_pos hinputs, Option.some.injEq, Bool.eq_iff_iff, decide_eq_true_eq]
    constructor
    · intro houtputs
      exact ⟨hprofile, all_contains_iff.mp hinputs, all_contains_iff.mp houtputs⟩
    · intro hoffers
      exact all_contains_iff.mpr hoffers.2.2
  · rw [if_neg hinputs, decide_eq_false fun h => hinputs (all_contains_iff.mpr h.2.1)]
    rfl

/-- The loop lists the matching endpoints in order, as many as there is room for. -/
theorem matchingEndpoints_eq (hdistinct : device.DistinctEndpoints)
    {req : ZdoMatchDescriptorRequest} (hprofile : req.profileId = profileId)
    (hlists : RecoversLists payload req.toClusterLists inputs outputs)
    {descs : List ZigbeeEndpointDescriptor} (hsub : descs ⊆ device.endpoints) (room : Nat) :
    device.matchingEndpoints payload req descs room =
      some (((descs.filter (Offers profileId inputs outputs)).take room).map (·.endpoint)) := by
  induction descs generalizing room with
  | nil => simp [matchingEndpoints]
  | cons desc descs ih =>
    rw [List.cons_subset] at hsub
    cases room with
    | zero => simp [matchingEndpoints]
    | succ room =>
      simp only [matchingEndpoints, hprofile, endpointMatches_eq hdistinct hsub.1 hlists,
        Option.bind_eq_bind, Option.bind_some, ih hsub.2]
      by_cases hoffers : Offers profileId inputs outputs desc
      · have hkept := decide_eq_true hoffers
        rw [if_pos hkept, List.filter_cons, if_pos hkept, List.take_succ_cons, List.map_cons]
        rfl
      · have hleft : ¬ decide (Offers profileId inputs outputs desc) = true := by
          simpa using hoffers
        rw [if_neg hleft, List.filter_cons, if_neg hleft]

/-! ## The answer -/

theorem handleRequest_match (hdistinct : device.DistinctEndpoints) (sequence : UInt8)
    (hsize : matchRequestSize inputs outputs < 256) (responseMax : UInt8) :
    device.handleRequest zdoMatchDescReq
        (matchRequestBytes sequence device.nwkAddress profileId inputs outputs) responseMax =
      some (buildMatchDescriptorResponse responseMax sequence zdoStatusSuccess device.nwkAddress
        (device.matching profileId inputs outputs), zdoMatchDescRsp) := by
  obtain ⟨req, hparse, hsequence, hnwk, hprofile, hlists⟩ :=
    @parseMatchDescriptorRequest_bytes sequence device.nwkAddress profileId inputs outputs hsize
  have hmatching := matchingEndpoints_eq hdistinct hprofile hlists (List.Subset.refl _) 16
  have hieee : zdoMatchDescReq ≠ zdoIeeeAddrReq := by decide
  have hnwkReq : zdoMatchDescReq ≠ zdoNwkAddrReq := by decide
  have hactive : zdoMatchDescReq ≠ zdoActiveEpReq := by decide
  have hsimple : zdoMatchDescReq ≠ zdoSimpleDescReq := by decide
  rw [handleRequest, if_neg hieee, if_neg hnwkReq, if_neg hactive, if_neg hsimple, if_pos rfl]
  simp only [hparse, Option.bind_eq_bind, Option.bind_some, hnwk, hsequence, hmatching,
    Bool.not_true, Bool.false_eq_true, if_false, ne_eq, not_true_eq_false]
  rfl

theorem built_exact {outMax sequence : UInt8} {nwkAddress : UInt16}
    (hbuilt : (buildMatchDescriptorRequest outMax sequence nwkAddress profileId inputs
      outputs).Within outMax.toNat) :
    matchRequestSize inputs outputs ≤ outMax.toNat := by
  have hout := outMax.toNat_lt
  have hodd : matchRequestSize inputs outputs % 2 = 1 := by
    rw [matchRequestSize]
    omega
  have hlen := @buildMatchDescriptorRequest_len outMax sequence nwkAddress profileId inputs outputs
  obtain ⟨hpos, hmax, hinside⟩ := hbuilt
  by_cases hrefused : outMax.toNat < (matchRequestSize inputs outputs - 1) % 256
  · rw [if_pos hrefused] at hlen
    omega
  rw [if_neg hrefused] at hlen
  by_cases hover : 256 ≤ matchRequestSize inputs outputs
  · obtain ⟨b, hb⟩ := @buildMatchDescriptorRequest_last outMax sequence nwkAddress profileId inputs
      outputs hover (by omega)
    have hlast : 255 < _ := hinside _ hb
    omega
  · omega

/-- A match request built for the device is answered with the endpoints that offer what it asks
for. -/
theorem match_descriptor_exact (device : ZigbeeDeviceObject) (hdistinct : device.DistinctEndpoints)
    (outMax sequence responseMax : UInt8) (profileId : UInt16) (inputs outputs : List UInt16)
    (hbuilt : (buildMatchDescriptorRequest outMax sequence device.nwkAddress profileId inputs
      outputs).Within outMax.toNat)
    (hroom : 5 + (device.matching profileId inputs outputs).length ≤ responseMax.toNat) :
    let request := buildMatchDescriptorRequest outMax sequence device.nwkAddress profileId inputs
      outputs
    ∃ response parsed,
      device.handleRequest zdoMatchDescReq request.bytes responseMax =
          some (response, zdoMatchDescRsp) ∧
        response.Within responseMax.toNat ∧
        parseMatchDescriptorResponse response.bytes = some (true, parsed) ∧
        parsed.sequence = sequence ∧ parsed.status = zdoStatusSuccess ∧
        parsed.nwkAddress = device.nwkAddress ∧
        ∃ off, parsed.endpoints = some off ∧
          slice response.bytes off parsed.endpointCount.toNat =
            device.matching profileId inputs outputs := by
  intro request
  have hout := outMax.toNat_lt
  have hmax := responseMax.toNat_lt
  have hsize := built_exact hbuilt
  have hrequest : request.bytes =
      matchRequestBytes sequence device.nwkAddress profileId inputs outputs := by
    rw [show request = _ from buildMatchDescriptorRequest_eq (by omega) (by omega),
      Built.exact_bytes]
  have hcount : (device.matching profileId inputs outputs).length ≤ 16 := by
    rw [matching, List.length_map]
    exact List.length_take_le 16 _
  have hlen := endpointListBytes_length sequence zdoStatusSuccess device.nwkAddress
    (device.matching profileId inputs outputs)
  have hresponse : buildMatchDescriptorResponse responseMax sequence zdoStatusSuccess
      device.nwkAddress (device.matching profileId inputs outputs) =
        .exact (endpointListBytes sequence zdoStatusSuccess device.nwkAddress
          (device.matching profileId inputs outputs)) := by
    rw [buildMatchDescriptorResponse, endpointList_writes, Nat.mod_eq_of_lt (by omega),
      if_neg (by omega), Built.exact, hlen]
  have hcounted := @toNat_toUInt8 (device.matching profileId inputs outputs).length (by omega)
  have hparse := parseEndpointList_bytes sequence zdoStatusSuccess device.nwkAddress
    (show (device.matching profileId inputs outputs).length ≤ 250 by omega)
  refine ⟨_, _, ?_, ?_, by rw [Built.exact_bytes]; exact hparse, rfl, rfl, rfl, 5, rfl, ?_⟩
  · rw [hrequest, handleRequest_match hdistinct sequence (by omega) responseMax, hresponse]
  · exact Built.exact_within _ (by omega) (by omega)
  · rw [Built.exact_bytes, hcounted]
    exact endpointList_endpoints sequence zdoStatusSuccess device.nwkAddress _

/-- Two lights and a switch. -/
def lightsAndSwitch : ZigbeeDeviceObject where
  ieeeAddress := 0x00124B0001020304
  nwkAddress := 0x1234
  endpoints :=
    [⟨1, 0x0104, 0x0100, 1, [0x0000, 0x0006], []⟩, ⟨2, 0x0104, 0x0000, 1, [0x0000], [0x0006]⟩,
      ⟨3, 0x0104, 0x0100, 1, [0x0006, 0x0000, 0x0008], []⟩]

/-- Asked for on/off servers it lists the lights. -/
theorem match_descriptor_exact_lights :
    let request := buildMatchDescriptorRequest 64 7 0x1234 0x0104 [0x0006, 0x0000] []
    ∃ response parsed,
      lightsAndSwitch.handleRequest zdoMatchDescReq request.bytes 64 =
          some (response, zdoMatchDescRsp) ∧
        response.Within 64 ∧
        parseMatchDescriptorResponse response.bytes = some (true, parsed) ∧
        parsed.sequence = 7 ∧ parsed.status = zdoStatusSuccess ∧ parsed.nwkAddress = 0x1234 ∧
        ∃ off, parsed.endpoints = some off ∧
          slice response.bytes off parsed.endpointCount.toNat = [1, 3] := by
  have hlights : lightsAndSwitch.matching 0x0104 [0x0006, 0x0000] [] = [1, 3] := by decide
  have hanswer := match_descriptor_exact lightsAndSwitch (by decide) 64 7 64 0x0104
    [0x0006, 0x0000] []
    (by
      rw [buildMatchDescriptorRequest_eq (by decide) (by decide)]
      exact Built.exact_within _ (by decide) (by decide))
    (by decide)
  rw [hlights] at hanswer
  exact hanswer

end NiusZigbee.ZigbeeDeviceObject
