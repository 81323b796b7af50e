import NiusZigbee.Zdo.Device

/-!
# What ZDO parsers lead to

A parser stays inside its payload when it reads nothing outside it and every list it accepts lies
inside it. The checks in `uint8_t` let a count through whose size wraps, and the device object then
walks a match request as far as its clusters are offered.
-/

namespace NiusZigbee.ZigbeeZdo

open ByteCodec

/-- A list of `size` bytes at the pointer, inside the payload. -/
def ListInside (payload : List UInt8) (list : Option Nat) (size : Nat) : Prop :=
  match list with
  | none => size = 0
  | some off => off + size ≤ payload.length

def ClusterLists.Inside (payload : List UInt8) (lists : ClusterLists) : Prop :=
  ListInside payload lists.inputClusters (lists.inputClusterCount.toNat * 2) ∧
    ListInside payload lists.outputClusters (lists.outputClusterCount.toNat * 2)

/-- A parser that reads only inside the payload and accepts only what satisfies `Inside`. -/
def StaysInside {α : Type} (parsed : Option (Bool × α)) (Inside : α → Prop) : Prop :=
  ∃ r, parsed = some r ∧ (r.1 = true → Inside r.2)

/-- A size that fits `uint8_t`, or whose remainder is refused anyway. -/
def SizeFits (payloadLen size : Nat) : Prop := size < 256 ∨ payloadLen < size % 256

/-- Two cluster lists behind a header of `idx` bytes: refused at the first list, refused at the
second, or both sizes fit. -/
def ListsFit (payload : List UInt8) (payloadLen idx : Nat) : Prop :=
  let inputSize := (payload.getD (idx - 1) 0).toNat * 2
  let outputSize := (payload.getD ((idx + inputSize) % 256) 0).toNat * 2
  let size := idx + inputSize + 1
  payloadLen < size % 256 ∨
    (size % 256 ≠ 0 ∧ payloadLen < (size % 256 + outputSize) % 256) ∨ size + outputSize < 256

/-- The same for a length beyond the payload: what is read and what is accepted lies before its
end. -/
def ListsBefore (payload : List UInt8) (payloadLen idx : Nat) : Prop :=
  let inputSize := (payload.getD (idx - 1) 0).toNat * 2
  let outputSize := (payload.getD ((idx + inputSize) % 256) 0).toNat * 2
  let size := idx + inputSize + 1
  payloadLen < size % 256 ∨
    (idx + inputSize) % 256 < payload.length ∧
      (payloadLen < (size % 256 + outputSize) % 256 ∨ size + outputSize ≤ payload.length)

theorem parseClusterLists_inside {payload : List UInt8} {payloadLen idx : Nat} (hidx : 0 < idx)
    (hhead : idx ≤ payload.length) (hlen : payload.length < 256) :
    (∃ r, parseClusterLists payload payloadLen idx = some r ∧
      ∀ lists, r = some lists → lists.Inside payload) ↔ ListsBefore payload payloadLen idx := by
  have hcount := getElem?_getD (by omega : idx - 1 < payload.length)
  simp only [parseClusterLists, ListsBefore, read8_eq, hcount, Option.bind_eq_bind,
    Option.bind_some]
  generalize hinput : (payload.getD (idx - 1) 0).toNat * 2 = inputSize
  by_cases hfirst : payloadLen < (idx + inputSize + 1) % 256
  · simp [hfirst]
  simp only [hfirst, if_false, false_or]
  by_cases hread : (idx + inputSize) % 256 < payload.length
  · have hnext : ((idx + inputSize) % 256 + 1) % 256 = (idx + inputSize + 1) % 256 := by omega
    simp only [getElem?_getD hread, hread, true_and, Option.bind_some, hnext]
    generalize houtput : (payload.getD ((idx + inputSize) % 256) 0).toNat * 2 = outputSize
    by_cases hsecond : payloadLen < ((idx + inputSize + 1) % 256 + outputSize) % 256
    · rw [if_pos hsecond]
      exact iff_of_true ⟨none, rfl, nofun⟩ (Or.inl hsecond)
    · simp only [hsecond, if_false, false_or, Option.pure_def, Option.some.injEq,
        exists_eq_left', forall_eq', ClusterLists.Inside, ListInside, hinput, houtput]
      omega
  · simp [hread]

theorem listsBefore_iff_fit {payload : List UInt8} {payloadLen idx : Nat} (hidx : 0 < idx)
    (hlen : payload.length < 256) (hle : payloadLen ≤ payload.length) :
    ListsBefore payload payloadLen idx ↔ ListsFit payload payloadLen idx := by
  simp only [ListsBefore, ListsFit]
  generalize (payload.getD (idx - 1) 0).toNat * 2 = inputSize
  generalize (payload.getD ((idx + inputSize) % 256) 0).toNat * 2 = outputSize
  omega

/-! ## Parsers -/

private theorem refused {α : Type} {Inside : α → Prop} (a : α) :
    StaysInside (some (false, a)) Inside := ⟨_, rfl, nofun⟩

private theorem accepted_iff {α : Type} {Inside : α → Prop} (a : α) :
    StaysInside (some (true, a)) Inside ↔ Inside a := by
  constructor
  · rintro ⟨r, hr, hinside⟩
    rw [Option.some.injEq] at hr
    subst hr
    exact hinside rfl
  · exact fun h => ⟨_, rfl, fun _ => h⟩

theorem parseAddressResponse_inside {payload : List UInt8} (hlen : payload.length < 256) :
    StaysInside (parseAddressResponse payload) (fun response =>
      ListInside payload response.associatedDevices
        (response.associatedDeviceCount.toNat * 2)) ↔
      payload.length < 14 ∨ SizeFits payload.length (14 + (payload.getD 12 0).toNat * 2) := by
  simp only [parseAddressResponse]
  by_cases hshort : payload.length < 12
  · rw [if_pos hshort]
    exact iff_of_true (refused _) (Or.inl (by omega))
  obtain ⟨ieee, hieee⟩ := read64_isSome (by omega : 2 + 8 ≤ payload.length)
  obtain ⟨nwk, hnwk⟩ := read16_isSome (by omega : 10 + 1 < payload.length)
  simp only [if_neg hshort, read8_eq, getElem?_getD (by omega : 0 < payload.length),
    getElem?_getD (by omega : 1 < payload.length), hieee, hnwk, Option.bind_eq_bind,
    Option.bind_some]
  by_cases hlist : payload.length ≥ 14
  · simp only [if_pos hlist, getElem?_getD (by omega : 12 < payload.length),
      getElem?_getD (by omega : 13 < payload.length), Option.bind_some]
    by_cases hrefused : payload.length < (14 + (payload.getD 12 0).toNat * 2) % 256
    · rw [if_pos hrefused]
      exact iff_of_true (refused _) (Or.inr (Or.inr hrefused))
    · rw [if_neg hrefused]
      refine (accepted_iff _).trans ?_
      simp only [ListInside, SizeFits]
      omega
  · rw [if_neg hlist]
    exact iff_of_true ((accepted_iff _).mpr rfl) (Or.inl (by omega))

theorem parseEndpointList_inside {payload : List UInt8} (hlen : payload.length < 256) :
    StaysInside (parseEndpointList payload) (fun response =>
      ListInside payload response.endpoints response.endpointCount.toNat) ↔
      payload.length < 5 ∨ SizeFits payload.length (5 + (payload.getD 4 0).toNat) := by
  simp only [parseEndpointList]
  by_cases hshort : payload.length < 5
  · rw [if_pos hshort]
    exact iff_of_true (refused _) (Or.inl hshort)
  obtain ⟨nwk, hnwk⟩ := read16_isSome (by omega : 2 + 1 < payload.length)
  simp only [if_neg hshort, read8_eq, getElem?_getD (by omega : 4 < payload.length),
    getElem?_getD (by omega : 0 < payload.length), getElem?_getD (by omega : 1 < payload.length),
    hnwk, Option.bind_eq_bind, Option.bind_some]
  by_cases hrefused : payload.length < (5 + (payload.getD 4 0).toNat) % 256
  · rw [if_pos hrefused]
    exact iff_of_true (refused _) (Or.inr (Or.inr hrefused))
  · rw [if_neg hrefused]
    refine (accepted_iff _).trans ?_
    simp only [ListInside, SizeFits]
    omega

theorem parseSimpleDescriptor_before {payload : List UInt8} {payloadLen : Nat}
    (hlen : payload.length < 256) :
    StaysInside (parseSimpleDescriptor payload payloadLen) (fun descriptor =>
      descriptor.toClusterLists.Inside payload) ↔
      payloadLen < 8 ∨ 7 ≤ payload.length ∧ ListsBefore payload payloadLen 7 := by
  simp only [parseSimpleDescriptor]
  by_cases hshort : payloadLen < 8
  · rw [if_pos hshort]
    exact iff_of_true (refused _) (Or.inl hshort)
  by_cases hhead : 7 ≤ payload.length
  · obtain ⟨profileId, hprofile⟩ := read16_isSome (by omega : 1 + 1 < payload.length)
    obtain ⟨deviceId, hdevice⟩ := read16_isSome (by omega : 3 + 1 < payload.length)
    rw [← parseClusterLists_inside (by decide) hhead hlen]
    simp only [hshort, if_false, read8_eq, getElem?_getD (by omega : 0 < payload.length),
      getElem?_getD (by omega : 5 < payload.length), hprofile, hdevice, Option.bind_eq_bind,
      Option.bind_some, hhead, false_or, true_and]
    cases parseClusterLists payload payloadLen 7 with
    | none => simp [StaysInside]
    | some lists =>
      simp only [Option.bind_some]
      cases lists with
      | none => exact iff_of_true (refused _) ⟨none, rfl, nofun⟩
      | some lists =>
        refine (accepted_iff _).trans ?_
        simp
  · have hnone : parseClusterLists payload payloadLen 7 = none := by
      have hcount : payload[7 - 1]? = none := List.getElem?_eq_none (by omega)
      rw [parseClusterLists, read8_eq, hcount]
      rfl
    simp [hshort, hhead, hnone, StaysInside]

theorem parseSimpleDescriptor_inside {payload : List UInt8} {payloadLen : Nat}
    (hlen : payload.length < 256) (hle : payloadLen ≤ payload.length) :
    StaysInside (parseSimpleDescriptor payload payloadLen) (fun descriptor =>
      descriptor.toClusterLists.Inside payload) ↔
      payloadLen < 8 ∨ ListsFit payload payloadLen 7 := by
  rw [parseSimpleDescriptor_before hlen, listsBefore_iff_fit (by decide) hlen hle]
  by_cases hshort : payloadLen < 8
  · simp [hshort]
  · simp [hshort, (by omega : 7 ≤ payload.length)]

/-- A descriptor whose declared length fits behind the header, or lies beyond the payload but leads
nowhere outside it. -/
def DescriptorFits (payload : List UInt8) : Prop :=
  let descLen := (payload.getD 4 0).toNat
  let descriptor := payload.drop 5
  payload.length < (5 + descLen) % 256 ∨ descLen < 8 ∨
    (5 + descLen < 256 ∧ ListsFit descriptor descLen 7) ∨
    (256 ≤ 5 + descLen ∧ 7 ≤ descriptor.length ∧ ListsBefore descriptor descLen 7)

theorem parseSimpleDescriptorResponse_inside {payload : List UInt8}
    (hlen : payload.length < 256) :
    StaysInside (parseSimpleDescriptorResponse payload) (fun response =>
      response.descriptor.toClusterLists.Inside (payload.drop 5)) ↔
      payload.length < 5 ∨ DescriptorFits payload := by
  simp only [parseSimpleDescriptorResponse, DescriptorFits]
  by_cases hshort : payload.length < 5
  · rw [if_pos hshort]
    exact iff_of_true (refused _) (Or.inl hshort)
  obtain ⟨nwk, hnwk⟩ := read16_isSome (by omega : 2 + 1 < payload.length)
  have hrest : (payload.drop 5).length = payload.length - 5 := List.length_drop
  simp only [hshort, if_false, read8_eq, getElem?_getD (by omega : 4 < payload.length),
    getElem?_getD (by omega : 0 < payload.length), getElem?_getD (by omega : 1 < payload.length),
    hnwk, Option.bind_eq_bind, Option.bind_some, false_or]
  have hdesc := @parseSimpleDescriptor_before (payload.drop 5) (payload.getD 4 0).toNat (by omega)
  have hfit := @listsBefore_iff_fit (payload.drop 5) (payload.getD 4 0).toNat 7 (by decide)
    (by omega)
  have hzero : payload.getD 4 0 = 0 ↔ (payload.getD 4 0).toNat = 0 := by
    rw [← UInt8.toNat_inj]
    rfl
  generalize payload.getD 4 0 = descLen at *
  by_cases hrefused : payload.length < (5 + descLen.toNat) % 256
  · rw [if_pos hrefused]
    exact iff_of_true (refused _) (Or.inl hrefused)
  rw [if_neg hrefused]
  by_cases hnone : descLen = 0
  · rw [if_pos hnone]
    exact iff_of_true ((accepted_iff _).mpr ⟨rfl, rfl⟩) (by have := hzero.mp hnone; omega)
  rw [if_neg hnone]
  have hlift : StaysInside (do
        let r ← parseSimpleDescriptor (payload.drop 5) descLen.toNat
        return (r.1, ({ sequence := payload.getD 0 0, status := payload.getD 1 0
                        nwkAddress := nwk, descriptor := r.2 } : ZdoSimpleDescriptorResponse)))
      (fun response => response.descriptor.toClusterLists.Inside (payload.drop 5)) ↔
      StaysInside (parseSimpleDescriptor (payload.drop 5) descLen.toNat)
        (fun descriptor => descriptor.toClusterLists.Inside (payload.drop 5)) := by
    cases parseSimpleDescriptor (payload.drop 5) descLen.toNat with
    | none => simp [StaysInside]
    | some r => simp [StaysInside]
  refine hlift.trans (hdesc.trans ?_)
  by_cases hover : 256 ≤ 5 + descLen.toNat
  · simp only [hover, hrefused, false_or, true_and, Nat.not_lt.mpr hover, false_and]
  · rw [hfit (by omega)]
    by_cases hfew : descLen.toNat < 8
    · simp [hfew]
    · simp only [hfew, hrefused, hover, hrest, (by omega : 7 ≤ payload.length - 5),
        (by omega : 5 + descLen.toNat < 256), false_or, true_and, false_and, or_false]

theorem parseMatchDescriptorRequest_inside {payload : List UInt8} (hlen : payload.length < 256) :
    StaysInside (parseMatchDescriptorRequest payload) (fun request =>
      request.toClusterLists.Inside payload) ↔
      payload.length < 6 ∨ ListsFit payload payload.length 6 := by
  simp only [parseMatchDescriptorRequest]
  by_cases hshort : payload.length < 6
  · rw [if_pos hshort]
    exact iff_of_true (refused _) (Or.inl hshort)
  obtain ⟨nwk, hnwk⟩ := read16_isSome (by omega : 1 + 1 < payload.length)
  obtain ⟨profileId, hprofile⟩ := read16_isSome (by omega : 3 + 1 < payload.length)
  rw [← listsBefore_iff_fit (by decide) hlen (Nat.le_refl _),
    ← parseClusterLists_inside (by decide) (by omega) hlen]
  simp only [hshort, if_false, read8_eq, getElem?_getD (by omega : 0 < payload.length), hnwk,
    hprofile, Option.bind_eq_bind, Option.bind_some, false_or]
  cases parseClusterLists payload payload.length 6 with
  | none => simp [StaysInside]
  | some lists =>
    simp only [Option.bind_some]
    cases lists with
    | none => exact iff_of_true (refused _) ⟨none, rfl, nofun⟩
    | some lists =>
      refine (accepted_iff _).trans ?_
      simp

theorem parseMgmtLqiResponse_inside (payload : List UInt8) :
    StaysInside (parseMgmtLqiResponse payload) (fun response =>
      ListInside payload response.list (response.listCount.toNat * kNeighborEntryLen)) := by
  simp only [parseMgmtLqiResponse]
  by_cases hshort : payload.length < 5
  · rw [if_pos hshort]
    exact refused _
  simp only [hshort, if_false, read8_eq, getElem?_getD (by omega : 4 < payload.length),
    getElem?_getD (by omega : 0 < payload.length), getElem?_getD (by omega : 1 < payload.length),
    getElem?_getD (by omega : 2 < payload.length), getElem?_getD (by omega : 3 < payload.length),
    Option.bind_eq_bind, Option.bind_some]
  split
  · exact refused _
  · refine (accepted_iff _).mpr ?_
    simp only [ListInside]
    omega

theorem parseMgmtRtgResponse_inside (payload : List UInt8) :
    StaysInside (parseMgmtRtgResponse payload) (fun response =>
      ListInside payload response.list (response.listCount.toNat * kRoutingEntryLen)) := by
  simp only [parseMgmtRtgResponse]
  by_cases hshort : payload.length < 5
  · rw [if_pos hshort]
    exact refused _
  simp only [hshort, if_false, read8_eq, getElem?_getD (by omega : 4 < payload.length),
    getElem?_getD (by omega : 0 < payload.length), getElem?_getD (by omega : 1 < payload.length),
    getElem?_getD (by omega : 2 < payload.length), getElem?_getD (by omega : 3 < payload.length),
    Option.bind_eq_bind, Option.bind_some]
  split
  · exact refused _
  · refine (accepted_iff _).mpr ?_
    simp only [ListInside]
    omega

/-- A match request of at least a header is refused, or its lists are where the two counts and the
`uint8_t` index put them. -/
theorem parseMatchDescriptorRequest_cases {payload : List UInt8} (hhead : ¬ payload.length < 6)
    (hlen : payload.length < 256) {nwk profileId : UInt16} (hnwk : read16 payload 1 = some nwk)
    (hprofile : read16 payload 3 = some profileId) :
    let inputSize := (payload.getD 5 0).toNat * 2
    let outputCount := payload.getD ((6 + inputSize) % 256) 0
    let size := (6 + inputSize + 1) % 256
    ((payload.length < size ∨ payload.length < (size + outputCount.toNat * 2) % 256) ∧
      parseMatchDescriptorRequest payload = some (false, {})) ∨
    (size ≤ payload.length ∧ (size + outputCount.toNat * 2) % 256 ≤ payload.length ∧
      parseMatchDescriptorRequest payload = some (true,
        { sequence := payload.getD 0 0, nwkAddress := nwk, profileId := profileId
          inputClusterCount := payload.getD 5 0, inputClusters := some 6
          outputClusterCount := outputCount, outputClusters := some size })) := by
  have hcount := getElem?_getD (by omega : 5 < payload.length)
  simp only [parseMatchDescriptorRequest, parseClusterLists, hhead, if_false, read8_eq,
    getElem?_getD (by omega : 0 < payload.length), hnwk, hprofile, hcount, Option.bind_eq_bind,
    Option.bind_some, Nat.reduceSub]
  by_cases hfirst : payload.length < (6 + (payload.getD 5 0).toNat * 2 + 1) % 256
  · rw [if_pos hfirst]
    exact Or.inl ⟨Or.inl hfirst, rfl⟩
  have hread : (6 + (payload.getD 5 0).toNat * 2) % 256 < payload.length := by omega
  have hnext : ((6 + (payload.getD 5 0).toNat * 2) % 256 + 1) % 256 =
      (6 + (payload.getD 5 0).toNat * 2 + 1) % 256 := by omega
  simp only [hfirst, if_false, getElem?_getD hread, Option.bind_some, hnext, false_or]
  generalize payload.getD ((6 + (payload.getD 5 0).toNat * 2) % 256) 0 = outputCount
  by_cases hsecond : payload.length <
      ((6 + (payload.getD 5 0).toNat * 2 + 1) % 256 + outputCount.toNat * 2) % 256
  · rw [if_pos hsecond]
    exact Or.inl ⟨hsecond, rfl⟩
  · rw [if_neg hsecond]
    exact Or.inr ⟨by omega, by omega, rfl⟩

end NiusZigbee.ZigbeeZdo

/-! ## The walk over a match request -/

namespace NiusZigbee.ZigbeeDeviceObject

open ByteCodec ZigbeeZdo

/-- Among the clusters of a list that lie in the payload, one is not offered. -/
def NotOffered (payload : List UInt8) (offered : List UInt16) (list count : Nat) : Prop :=
  ∃ k < count, ∃ clusterId, read16 payload (list + k * 2) = some clusterId ∧
    containsCluster offered clusterId = false

private theorem notOffered_zero (payload : List UInt8) (offered : List UInt16) (list : Nat) :
    ¬ NotOffered payload offered list 0 := by
  rintro ⟨k, hk, -⟩
  omega

private theorem notOffered_succ {payload : List UInt8} {offered : List UInt16} {list count : Nat}
    {clusterId : UInt16} (hcluster : read16 payload list = some clusterId) :
    NotOffered payload offered list (count + 1) ↔
      containsCluster offered clusterId = false ∨ NotOffered payload offered (list + 2) count := by
  constructor
  · rintro ⟨k, hk, c, hc, hnot⟩
    cases k with
    | zero =>
      rw [Nat.zero_mul, Nat.add_zero, hcluster, Option.some.injEq] at hc
      exact Or.inl (hc ▸ hnot)
    | succ k => exact Or.inr ⟨k, by omega, c, by rw [← hc]; congr 1; omega, hnot⟩
  · rintro (hnot | ⟨k, hk, c, hc, hnot⟩)
    · exact ⟨0, by omega, clusterId, by rw [Nat.zero_mul, Nat.add_zero, hcluster], hnot⟩
    · exact ⟨k + 1, by omega, c, by rw [← hc]; congr 1; omega, hnot⟩

/-- The loop stops at a cluster that is not offered, at the end of the list, or outside. -/
theorem clustersOffered_spec {payload : List UInt8} (offered : List UInt16) {list : Nat}
    (count : Nat) (hlist : list ≤ payload.length) :
    (NotOffered payload offered list count ∧
      clustersOffered payload offered list count = some false) ∨
    (¬ NotOffered payload offered list count ∧ list + count * 2 ≤ payload.length ∧
      clustersOffered payload offered list count = some true) ∨
    (¬ NotOffered payload offered list count ∧ payload.length < list + count * 2 ∧
      clustersOffered payload offered list count = none) := by
  induction count generalizing list with
  | zero => exact Or.inr (Or.inl ⟨notOffered_zero _ _ _, by omega, rfl⟩)
  | succ count ih =>
    simp only [clustersOffered]
    by_cases hread : list + 1 < payload.length
    · obtain ⟨clusterId, hcluster⟩ := read16_isSome hread
      simp only [hcluster, notOffered_succ hcluster, Option.bind_eq_bind, Option.bind_some]
      cases hoffered : containsCluster offered clusterId with
      | false => exact Or.inl ⟨Or.inl rfl, rfl⟩
      | true =>
        have hnext := @ih (list + 2) (by omega)
        rw [show list + (count + 1) * 2 = list + 2 + count * 2 by omega]
        simpa using hnext
    · have hnone : ∀ k, read16 payload (list + k * 2) = none :=
        fun k => read16_eq_none (by omega)
      have hfirst := hnone 0
      rw [Nat.zero_mul, Nat.add_zero] at hfirst
      refine Or.inr (Or.inr ⟨?_, by omega, by rw [hfirst]; rfl⟩)
      rintro ⟨k, -, c, hc, -⟩
      simp [hnone] at hc

/-- The endpoint is refused inside the payload: by its profile, or by a cluster that is there. -/
def WalkRefused (device : ZigbeeDeviceObject) (payload : List UInt8)
    (desc : ZigbeeEndpointDescriptor) : Prop :=
  let inputCount := (payload.getD 5 0).toNat
  let outputCount := payload.getD ((6 + inputCount * 2) % 256) 0
  match device.findEndpoint desc.endpoint with
  | none => True
  | some offered =>
    read16 payload 3 ≠ some offered.profileId ∨
      NotOffered payload offered.inputClusters 6 inputCount ∨
      6 + inputCount * 2 ≤ payload.length ∧
        NotOffered payload offered.outputClusters ((6 + inputCount * 2 + 1) % 256)
          outputCount.toNat

section Walk

variable {device : ZigbeeDeviceObject} {payload : List UInt8} {req : ZdoMatchDescriptorRequest}

theorem endpointMatches_inside (endpoint : UInt8) (profileId : UInt16) {lists : ClusterLists}
    {inputs outputs : Nat} (hinputs : lists.inputClusters = some inputs)
    (houtputs : lists.outputClusters = some outputs) (hinside : lists.Inside payload) :
    ∃ b, device.endpointMatches payload endpoint profileId lists = some b := by
  obtain ⟨hin, hout⟩ := hinside
  simp only [hinputs, houtputs, ListInside] at hin hout
  simp only [endpointMatches, hinputs, houtputs, Option.bind_eq_bind, Option.bind_some]
  cases device.findEndpoint endpoint with
  | none => exact ⟨_, rfl⟩
  | some offered =>
    dsimp only
    split
    · exact ⟨_, rfl⟩
    have hwalk : ∀ clusters list count, list + count * 2 ≤ payload.length →
        ∃ b, clustersOffered payload clusters list count = some b := by
      intro clusters list count hle
      rcases clustersOffered_spec clusters count (by omega : list ≤ payload.length) with
        ⟨-, h⟩ | ⟨-, -, h⟩ | ⟨-, hover, -⟩
      · exact ⟨_, h⟩
      · exact ⟨_, h⟩
      · omega
    obtain ⟨b, hb⟩ := hwalk offered.inputClusters _ _ hin
    rw [hb]
    cases b with
    | false => exact ⟨_, rfl⟩
    | true => exact hwalk _ _ _ hout

theorem matchingEndpoints_inside {inputs outputs : Nat}
    (hinputs : req.inputClusters = some inputs) (houtputs : req.outputClusters = some outputs)
    (hinside : req.toClusterLists.Inside payload) (descs : List ZigbeeEndpointDescriptor)
    (room : Nat) :
    ∃ endpoints, device.matchingEndpoints payload req descs room = some endpoints := by
  induction descs generalizing room with
  | nil => exact ⟨[], rfl⟩
  | cons desc descs ih =>
    cases room with
    | zero => exact ⟨[], rfl⟩
    | succ room =>
      obtain ⟨b, hb⟩ := @endpointMatches_inside device payload desc.endpoint req.profileId
        req.toClusterLists inputs outputs hinputs houtputs hinside
      simp only [matchingEndpoints, hb, Option.bind_eq_bind, Option.bind_some]
      cases b with
      | false => exact ih (room + 1)
      | true =>
        obtain ⟨endpoints, hrest⟩ := ih room
        exact ⟨desc.endpoint :: endpoints, by simp [hrest]⟩

theorem endpointMatches_outside (hhead : 6 ≤ payload.length)
    (hprofile : read16 payload 3 = some req.profileId)
    (hinputs : req.inputClusters = some 6) (hinputCount : req.inputClusterCount = payload.getD 5 0)
    (houtputs : req.outputClusters = some ((6 + (payload.getD 5 0).toNat * 2 + 1) % 256))
    (houtputCount : req.outputClusterCount =
      payload.getD ((6 + (payload.getD 5 0).toNat * 2) % 256) 0)
    (hsize : (6 + (payload.getD 5 0).toNat * 2 + 1) % 256 ≤ payload.length)
    (houtside : ¬ req.toClusterLists.Inside payload) (desc : ZigbeeEndpointDescriptor) :
    (WalkRefused device payload desc ∧
      device.endpointMatches payload desc.endpoint req.profileId req.toClusterLists =
        some false) ∨
    (¬ WalkRefused device payload desc ∧
      device.endpointMatches payload desc.endpoint req.profileId req.toClusterLists = none) := by
  simp only [ClusterLists.Inside, ListInside, hinputs, houtputs, hinputCount, houtputCount]
    at houtside
  simp only [WalkRefused, endpointMatches, hinputs, houtputs, hinputCount, houtputCount, hprofile,
    Option.bind_eq_bind, Option.bind_some]
  cases device.findEndpoint desc.endpoint with
  | none => exact Or.inl ⟨trivial, rfl⟩
  | some offered =>
    dsimp only
    by_cases hmatch : offered.profileId = req.profileId
    · rw [if_neg (not_not.mpr hmatch)]
      simp only [hmatch, ne_eq, not_true, false_or]
      rcases clustersOffered_spec offered.inputClusters (payload.getD 5 0).toNat hhead with
        ⟨hnot, hwalk⟩ | ⟨hnot, hin, hwalk⟩ | ⟨hnot, hover, hwalk⟩
      · exact Or.inl ⟨Or.inl hnot, by rw [hwalk]; rfl⟩
      · rw [hwalk]
        simp only [hnot, hin, false_or, true_and, Option.bind_some, if_true]
        rcases clustersOffered_spec offered.outputClusters
          (payload.getD ((6 + (payload.getD 5 0).toNat * 2) % 256) 0).toNat hsize with
          ⟨hnot', hwalk'⟩ | ⟨-, hin', -⟩ | ⟨hnot', -, hwalk'⟩
        · exact Or.inl ⟨hnot', hwalk'⟩
        · exact absurd ⟨hin, hin'⟩ houtside
        · exact Or.inr ⟨hnot', hwalk'⟩
      · refine Or.inr ⟨?_, by rw [hwalk]; rfl⟩
        rintro (h | ⟨hle, -⟩)
        · exact hnot h
        · omega
    · rw [if_pos hmatch]
      exact Or.inl ⟨Or.inl fun h => hmatch (Option.some.inj h).symm, rfl⟩

theorem matchingEndpoints_outside {descs : List ZigbeeEndpointDescriptor}
    (hwalk : ∀ desc : ZigbeeEndpointDescriptor,
      (WalkRefused device payload desc ∧
        device.endpointMatches payload desc.endpoint req.profileId req.toClusterLists =
          some false) ∨
      (¬ WalkRefused device payload desc ∧
        device.endpointMatches payload desc.endpoint req.profileId req.toClusterLists = none))
    (room : Nat) :
    (∃ endpoints, device.matchingEndpoints payload req descs (room + 1) = some endpoints) ↔
      ∀ desc ∈ descs, WalkRefused device payload desc := by
  induction descs with
  | nil => exact iff_of_true ⟨[], rfl⟩ nofun
  | cons desc descs ih =>
    rw [List.forall_mem_cons]
    simp only [matchingEndpoints, Option.bind_eq_bind]
    rcases hwalk desc with ⟨hrefused, hmatch⟩ | ⟨hnot, hmatch⟩
    · simp only [hmatch, Option.bind_some, hrefused, true_and]
      exact ih
    · simp [hmatch, hnot]

end Walk

/-- The request is no match request, its lists fit, it is for another device, or every endpoint is
refused before the walk leaves the payload. -/
def RequestFits (device : ZigbeeDeviceObject) (requestClusterId : UInt16)
    (payload : List UInt8) : Prop :=
  requestClusterId ≠ zdoMatchDescReq ∨ payload.length < 6 ∨
    ListsFit payload payload.length 6 ∨ read16 payload 1 ≠ some device.nwkAddress ∨
    ∀ desc ∈ device.endpoints, WalkRefused device payload desc

private theorem fixed_requests_isSome (payload : List UInt8) :
    (∃ r, parseIeeeAddressRequest payload = some r) ∧
      (∃ r, parseNwkAddressRequest payload = some r) ∧
      (∃ r, parseActiveEndpointRequest payload = some r) ∧
      ∃ r, parseSimpleDescriptorRequest payload = some r := by
  refine ⟨?_, ?_, ?_, ?_⟩
  · by_cases hshort : payload.length < 5
    · exact ⟨_, if_pos hshort⟩
    · obtain ⟨nwk, hnwk⟩ := read16_isSome (by omega : 1 + 1 < payload.length)
      exact ⟨_, by
        rw [parseIeeeAddressRequest, if_neg hshort, hnwk]
        simp only [read8_eq, getElem?_getD (by omega : 0 < payload.length),
          getElem?_getD (by omega : 3 < payload.length),
          getElem?_getD (by omega : 4 < payload.length)]
        rfl⟩
  · by_cases hshort : payload.length < 11
    · exact ⟨_, if_pos hshort⟩
    · obtain ⟨ieee, hieee⟩ := read64_isSome (by omega : 1 + 8 ≤ payload.length)
      exact ⟨_, by
        rw [parseNwkAddressRequest, if_neg hshort, hieee]
        simp only [read8_eq, getElem?_getD (by omega : 0 < payload.length),
          getElem?_getD (by omega : 9 < payload.length),
          getElem?_getD (by omega : 10 < payload.length)]
        rfl⟩
  · by_cases hshort : payload.length < 3
    · exact ⟨_, if_pos hshort⟩
    · obtain ⟨nwk, hnwk⟩ := read16_isSome (by omega : 1 + 1 < payload.length)
      exact ⟨_, by
        rw [parseActiveEndpointRequest, if_neg hshort, hnwk]
        simp only [read8_eq, getElem?_getD (by omega : 0 < payload.length)]
        rfl⟩
  · by_cases hshort : payload.length < 4
    · exact ⟨_, if_pos hshort⟩
    · obtain ⟨nwk, hnwk⟩ := read16_isSome (by omega : 1 + 1 < payload.length)
      exact ⟨_, by
        rw [parseSimpleDescriptorRequest, if_neg hshort, hnwk]
        simp only [read8_eq, getElem?_getD (by omega : 0 < payload.length),
          getElem?_getD (by omega : 3 < payload.length)]
        rfl⟩

theorem handleRequest_fixed (device : ZigbeeDeviceObject) {requestClusterId : UInt16}
    (hcluster : requestClusterId ≠ zdoMatchDescReq) (payload : List UInt8)
    (responsePayloadMax : UInt8) :
    ∃ r, device.handleRequest requestClusterId payload responsePayloadMax = some r := by
  obtain ⟨⟨ieeeReq, hieee⟩, ⟨nwkReq, hnwk⟩, ⟨activeReq, hactive⟩, ⟨simpleReq, hsimple⟩⟩ :=
    fixed_requests_isSome payload
  simp only [handleRequest, hieee, hnwk, hactive, hsimple, if_neg hcluster, Option.bind_eq_bind,
    Option.bind_some]
  split
  · split
    · exact ⟨_, rfl⟩
    · split <;> exact ⟨_, rfl⟩
  split
  · split
    · exact ⟨_, rfl⟩
    · split <;> exact ⟨_, rfl⟩
  split
  · split
    · exact ⟨_, rfl⟩
    · split <;> exact ⟨_, rfl⟩
  split
  · split
    · exact ⟨_, rfl⟩
    · split
      · exact ⟨_, rfl⟩
      · cases device.findEndpoint simpleReq.2.endpoint <;> exact ⟨_, rfl⟩
  · exact ⟨_, rfl⟩

theorem handleRequest_inside_iff (device : ZigbeeDeviceObject) (requestClusterId : UInt16)
    {payload : List UInt8} (hlen : payload.length < 256) (responsePayloadMax : UInt8) :
    (∃ r, device.handleRequest requestClusterId payload responsePayloadMax = some r) ↔
      device.RequestFits requestClusterId payload := by
  by_cases hcluster : requestClusterId = zdoMatchDescReq
  swap
  · exact iff_of_true (handleRequest_fixed device hcluster payload _) (Or.inl hcluster)
  subst hcluster
  have hother : zdoMatchDescReq ≠ zdoIeeeAddrReq ∧ zdoMatchDescReq ≠ zdoNwkAddrReq ∧
      zdoMatchDescReq ≠ zdoActiveEpReq ∧ zdoMatchDescReq ≠ zdoSimpleDescReq := by decide
  simp only [handleRequest, RequestFits, hother, if_false, if_true, ne_eq, not_true, false_or]
  by_cases hhead : payload.length < 6
  · have hparse : parseMatchDescriptorRequest payload = some (false, {}) := if_pos hhead
    exact iff_of_true ⟨_, by rw [hparse]; rfl⟩ (Or.inl hhead)
  obtain ⟨nwk, hnwk⟩ := read16_isSome (by omega : 1 + 1 < payload.length)
  obtain ⟨profileId, hprofile⟩ := read16_isSome (by omega : 3 + 1 < payload.length)
  have hinside := parseMatchDescriptorRequest_inside hlen
  simp only [hhead, false_or] at hinside ⊢
  rcases parseMatchDescriptorRequest_cases hhead hlen hnwk hprofile with
    ⟨-, hparse⟩ | ⟨hsize, -, hparse⟩
  · refine iff_of_true ⟨_, by rw [hparse]; rfl⟩ (Or.inl (hinside.mp ?_))
    rw [hparse]
    exact ⟨_, rfl, nofun⟩
  generalize hreq : (⟨_, _, _, _⟩ : ZdoMatchDescriptorRequest) = req at hparse
  have hlists : ListsFit payload payload.length 6 ↔ req.toClusterLists.Inside payload := by
    rw [← hinside, hparse]
    constructor
    · rintro ⟨r, hr, hr'⟩
      rw [Option.some.injEq] at hr
      subst hr
      exact hr' rfl
    · exact fun h => ⟨_, rfl, fun _ => h⟩
  rw [hparse, hlists, hnwk]
  simp only [Option.bind_eq_bind, Option.bind_some, Bool.not_true, Bool.false_eq_true, if_false]
  have hreqNwk : req.nwkAddress = nwk := by rw [← hreq]
  by_cases haddress : nwk = device.nwkAddress
  swap
  · refine iff_of_true ⟨_, if_pos (hreqNwk ▸ haddress)⟩ (Or.inr (Or.inl ?_))
    exact fun h => haddress (Option.some.inj h)
  rw [if_neg (not_not.mpr (hreqNwk.trans haddress))]
  simp only [haddress, not_true, false_or]
  by_cases hin : req.toClusterLists.Inside payload
  · subst hreq
    obtain ⟨endpoints, hmatch⟩ := matchingEndpoints_inside rfl rfl hin device.endpoints 16
    exact iff_of_true ⟨_, by rw [hmatch]; rfl⟩ (Or.inl hin)
  · have hwalk := @endpointMatches_outside device payload req (by omega)
      (by rw [← hreq]; exact hprofile) (by rw [← hreq]) (by rw [← hreq]) (by rw [← hreq])
      (by rw [← hreq]) hsize hin
    rw [← matchingEndpoints_outside hwalk 15]
    simp only [hin, false_or]
    cases device.matchingEndpoints payload req device.endpoints (15 + 1) <;> simp

end NiusZigbee.ZigbeeDeviceObject

namespace NiusZigbee.ZigbeeZdo

/-- Each ZDO parser, and the device object, stays inside its input exactly when the counts in the
input ask for a size that `uint8_t` holds, or the input is turned down before they matter. -/
theorem zdo_inside_iff {payload : List UInt8} (hlen : payload.length ≤ 255) :
    (StaysInside (parseAddressResponse payload) (fun response =>
        ListInside payload response.associatedDevices
          (response.associatedDeviceCount.toNat * 2)) ↔
      payload.length < 14 ∨ SizeFits payload.length (14 + (payload.getD 12 0).toNat * 2)) ∧
    (StaysInside (parseActiveEndpointResponse payload) (fun response =>
        ListInside payload response.endpoints response.endpointCount.toNat) ↔
      payload.length < 5 ∨ SizeFits payload.length (5 + (payload.getD 4 0).toNat)) ∧
    (StaysInside (parseSimpleDescriptor payload payload.length) (fun descriptor =>
        descriptor.toClusterLists.Inside payload) ↔
      payload.length < 8 ∨ ListsFit payload payload.length 7) ∧
    (StaysInside (parseSimpleDescriptorResponse payload) (fun response =>
        response.descriptor.toClusterLists.Inside (payload.drop 5)) ↔
      payload.length < 5 ∨ DescriptorFits payload) ∧
    (StaysInside (parseMatchDescriptorRequest payload) (fun request =>
        request.toClusterLists.Inside payload) ↔
      payload.length < 6 ∨ ListsFit payload payload.length 6) ∧
    (StaysInside (parseMatchDescriptorResponse payload) (fun response =>
        ListInside payload response.endpoints response.endpointCount.toNat) ↔
      payload.length < 5 ∨ SizeFits payload.length (5 + (payload.getD 4 0).toNat)) ∧
    StaysInside (parseMgmtLqiResponse payload) (fun response =>
      ListInside payload response.list (response.listCount.toNat * kNeighborEntryLen)) ∧
    StaysInside (parseMgmtRtgResponse payload) (fun response =>
      ListInside payload response.list (response.listCount.toNat * kRoutingEntryLen)) ∧
    ∀ (device : ZigbeeDeviceObject) (requestClusterId : UInt16) (responsePayloadMax : UInt8),
      (∃ r, device.handleRequest requestClusterId payload responsePayloadMax = some r) ↔
        device.RequestFits requestClusterId payload := by
  have hlt : payload.length < 256 := by omega
  exact ⟨parseAddressResponse_inside hlt, parseEndpointList_inside hlt,
    parseSimpleDescriptor_inside hlt (Nat.le_refl _), parseSimpleDescriptorResponse_inside hlt,
    parseMatchDescriptorRequest_inside hlt, parseEndpointList_inside hlt,
    parseMgmtLqiResponse_inside payload, parseMgmtRtgResponse_inside payload,
    fun device requestClusterId responsePayloadMax =>
      ZigbeeDeviceObject.handleRequest_inside_iff device requestClusterId hlt responsePayloadMax⟩

/-- A match request for one input cluster and no output cluster. -/
theorem zdo_inside_iff_match_request :
    StaysInside (parseMatchDescriptorRequest [7, 0x34, 0x12, 0x04, 0x01, 1, 0x06, 0x00, 0])
      (fun request =>
        request.toClusterLists.Inside [7, 0x34, 0x12, 0x04, 0x01, 1, 0x06, 0x00, 0]) :=
  (zdo_inside_iff (by decide)).2.2.2.2.1.mpr (Or.inr (Or.inr (Or.inr (by decide))))

/-- 125 input clusters make the size wrap to 1, so that the output count is read from the sequence
number: six bytes are accepted, and the device object reads behind them. -/
theorem wrapped_match_request_outside :
    let payload : List UInt8 := [0, 0x34, 0x12, 0x04, 0x01, 125]
    let device : ZigbeeDeviceObject := ⟨1, 0x1234, [⟨1, 0x0104, 0x0100, 1, [0x0006], []⟩]⟩
    (∃ request, parseMatchDescriptorRequest payload = some (true, request) ∧
      ¬ request.toClusterLists.Inside payload) ∧
    device.handleRequest zdoMatchDescReq payload 80 = none := by
  refine ⟨⟨_, rfl, ?_⟩, rfl⟩
  rintro ⟨hin, -⟩
  simp [ListInside] at hin

end NiusZigbee.ZigbeeZdo
