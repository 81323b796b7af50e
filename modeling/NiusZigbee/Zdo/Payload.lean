import NiusZigbee.Zdo.Frame

/-!
# The bytes of ZDO payloads

What each builder writes when its size fits, and what its parser makes of it. Lists are recovered
element by element through the pointer the parser leaves.
-/

namespace NiusZigbee.ZigbeeZdo

open ByteCodec OutBuffer

/-- A word list of the parsed payload, through its pointer. -/
def WordsAt (bytes : List UInt8) (list : Option Nat) (ws : List UInt16) : Prop :=
  ∃ off, list = some off ∧ ∀ k, (h : k < ws.length) → read16 bytes (off + k * 2) = some ws[k]

theorem wordsAt_of_split {bytes pre : List UInt8} {ws : List UInt16} {post : List UInt8}
    {off : Nat} (hbytes : bytes = pre ++ (ws.flatMap le16 ++ post)) (hoff : pre.length = off) :
    WordsAt bytes (some off) ws := by
  refine ⟨off, rfl, ?_⟩
  intro k hk
  rw [hbytes, read16_append_right _ (by omega), hoff, Nat.add_sub_cancel_left,
    read16_words ws post hk]

theorem words_writes (off : Nat) (ws : List UInt16) :
    (ws.zipIdx.flatMap fun p => emit (off + p.2 * 2) (le16 p.1)) = emit off (ws.flatMap le16) := by
  have h := emit_records le16 2 le16_length off 0 ws
  rwa [Nat.zero_mul, Nat.add_zero] at h

/-! ## Address responses -/

def addressResponseBytes (sequence status : UInt8) (ieeeAddress : UInt64) (nwkAddress : UInt16)
    (devices : List UInt16) (startIndex : UInt8) : List UInt8 :=
  [sequence, status] ++ le64 ieeeAddress ++ le16 nwkAddress ++
    [devices.length.toUInt8, startIndex] ++ devices.flatMap le16

theorem addressResponseBytes_length (sequence status : UInt8) (ieeeAddress : UInt64)
    (nwkAddress : UInt16) (devices : List UInt16) (startIndex : UInt8) :
    (addressResponseBytes sequence status ieeeAddress nwkAddress devices startIndex).length =
      14 + devices.length * 2 := by
  simp only [addressResponseBytes, List.length_append, length_words, le64_length, le16_length,
    List.length_cons, List.length_nil]

theorem addressResponse_writes (outMax sequence status : UInt8) (ieeeAddress : UInt64)
    (nwkAddress : UInt16) (devices : List UInt16) (startIndex : UInt8) :
    buildAddressResponse outMax sequence status ieeeAddress nwkAddress devices startIndex =
      if outMax.toNat < (14 + devices.length * 2) % 256 then .fail
      else
        { len := (14 + devices.length * 2) % 256
          writes := emit 0 (addressResponseBytes sequence status ieeeAddress nwkAddress devices
            startIndex) } := by
  simp only [buildAddressResponse, words_writes]
  simp [addressResponseBytes, emit_append, emit]

theorem parseAddressResponse_bytes (sequence status : UInt8) (ieeeAddress : UInt64)
    (nwkAddress : UInt16) {devices : List UInt16} (startIndex : UInt8)
    (hcount : devices.length ≤ 120) :
    parseAddressResponse (addressResponseBytes sequence status ieeeAddress nwkAddress devices
        startIndex) =
      some (true,
        { sequence := sequence, status := status, ieeeAddress := ieeeAddress
          nwkAddress := nwkAddress, associatedDeviceCount := devices.length.toUInt8
          startIndex := startIndex, associatedDevices := some 14 }) := by
  have hlen := addressResponseBytes_length sequence status ieeeAddress nwkAddress devices startIndex
  have h0 : (addressResponseBytes sequence status ieeeAddress nwkAddress devices startIndex)[0]? =
      some sequence := rfl
  have h1 : (addressResponseBytes sequence status ieeeAddress nwkAddress devices startIndex)[1]? =
      some status := rfl
  have h2 : read64 (addressResponseBytes sequence status ieeeAddress nwkAddress devices
      startIndex) 2 = some ieeeAddress := by simp [addressResponseBytes]
  have h10 : read16 (addressResponseBytes sequence status ieeeAddress nwkAddress devices
      startIndex) 10 = some nwkAddress := by
    have hsplit : addressResponseBytes sequence status ieeeAddress nwkAddress devices startIndex =
        ([sequence, status] ++ le64 ieeeAddress) ++ (le16 nwkAddress ++
          ([devices.length.toUInt8, startIndex] ++ devices.flatMap le16)) := by
      simp only [addressResponseBytes, List.append_assoc]
    rw [hsplit, read16_append_right _ (by simp)]
    simp
  have h12 : (addressResponseBytes sequence status ieeeAddress nwkAddress devices startIndex)[12]? =
      some devices.length.toUInt8 := rfl
  have h13 : (addressResponseBytes sequence status ieeeAddress nwkAddress devices startIndex)[13]? =
      some startIndex := rfl
  generalize addressResponseBytes sequence status ieeeAddress nwkAddress devices startIndex =
    bytes at *
  have hshort : ¬ bytes.length < 12 := by omega
  have hlist : bytes.length ≥ 14 := by omega
  have hfit : ¬ bytes.length < (14 + devices.length.toUInt8.toNat * 2) % 256 := by
    rw [toNat_toUInt8 (by omega)]
    omega
  simp only [parseAddressResponse, if_neg hshort, read8_eq, h0, h1, h2, h10, h12, h13,
    Option.bind_eq_bind, Option.bind_some, if_pos hlist, if_neg hfit]
  rfl

theorem addressResponse_devices (sequence status : UInt8) (ieeeAddress : UInt64)
    (nwkAddress : UInt16) (devices : List UInt16) (startIndex : UInt8) :
    WordsAt (addressResponseBytes sequence status ieeeAddress nwkAddress devices startIndex)
      (some 14) devices := by
  refine @wordsAt_of_split _ ([sequence, status] ++ le64 ieeeAddress ++ le16 nwkAddress ++
    [devices.length.toUInt8, startIndex]) devices [] 14 ?_ ?_
  · simp only [addressResponseBytes, List.append_nil]
  · simp

/-! ## Endpoint lists -/

def endpointListBytes (sequence status : UInt8) (nwkAddress : UInt16) (endpoints : List UInt8) :
    List UInt8 :=
  [sequence, status] ++ le16 nwkAddress ++ [endpoints.length.toUInt8] ++ endpoints

theorem endpointListBytes_length (sequence status : UInt8) (nwkAddress : UInt16)
    (endpoints : List UInt8) :
    (endpointListBytes sequence status nwkAddress endpoints).length = 5 + endpoints.length := by
  simp only [endpointListBytes, List.length_append, le16_length, List.length_cons, List.length_nil]

theorem endpointList_writes (outMax sequence status : UInt8) (nwkAddress : UInt16)
    (endpoints : List UInt8) :
    buildEndpointList outMax sequence status nwkAddress endpoints =
      if outMax.toNat < (5 + endpoints.length) % 256 then .fail
      else
        { len := (5 + endpoints.length) % 256
          writes := emit 0 (endpointListBytes sequence status nwkAddress endpoints) } := by
  simp only [buildEndpointList]
  simp [endpointListBytes, emit_append, emit]

theorem parseEndpointList_bytes (sequence status : UInt8) (nwkAddress : UInt16)
    {endpoints : List UInt8} (hcount : endpoints.length ≤ 250) :
    parseEndpointList (endpointListBytes sequence status nwkAddress endpoints) =
      some (true,
        { sequence := sequence, status := status, nwkAddress := nwkAddress
          endpointCount := endpoints.length.toUInt8, endpoints := some 5 }) := by
  have hlen := endpointListBytes_length sequence status nwkAddress endpoints
  have h0 : (endpointListBytes sequence status nwkAddress endpoints)[0]? = some sequence := rfl
  have h1 : (endpointListBytes sequence status nwkAddress endpoints)[1]? = some status := rfl
  have h2 : read16 (endpointListBytes sequence status nwkAddress endpoints) 2 =
      some nwkAddress := by simp [endpointListBytes]
  have h4 : (endpointListBytes sequence status nwkAddress endpoints)[4]? =
      some endpoints.length.toUInt8 := rfl
  generalize endpointListBytes sequence status nwkAddress endpoints = bytes at *
  have hshort : ¬ bytes.length < 5 := by omega
  have hfit : ¬ bytes.length < (5 + endpoints.length.toUInt8.toNat) % 256 := by
    rw [toNat_toUInt8 (by omega)]
    omega
  simp only [parseEndpointList, if_neg hshort, read8_eq, h0, h1, h2, h4, Option.bind_eq_bind,
    Option.bind_some, if_neg hfit]
  rfl

theorem endpointList_endpoints (sequence status : UInt8) (nwkAddress : UInt16)
    (endpoints : List UInt8) :
    slice (endpointListBytes sequence status nwkAddress endpoints) 5 endpoints.length =
      endpoints := slice_of_length rfl rfl

/-! ## Cluster lists -/

def clusterListBytes (inputs outputs : List UInt16) : List UInt8 :=
  inputs.length.toUInt8 :: (inputs.flatMap le16 ++ outputs.length.toUInt8 :: outputs.flatMap le16)

theorem clusterListBytes_length (inputs outputs : List UInt16) :
    (clusterListBytes inputs outputs).length = 2 + inputs.length * 2 + outputs.length * 2 := by
  simp only [clusterListBytes, List.length_cons, List.length_append, length_words]
  omega

private theorem words_writes_mod {off : Nat} {ws : List UInt16} (h : off + ws.length * 2 ≤ 256) :
    (ws.zipIdx.flatMap fun p => emit ((off + p.2 * 2) % 256) (le16 p.1)) =
      emit off (ws.flatMap le16) := by
  rw [← words_writes]
  simp only [List.flatMap]
  congr 1
  apply List.map_congr_left
  intro p hp
  have hindex := List.snd_lt_of_mem_zipIdx hp
  rw [Nat.mod_eq_of_lt (by omega)]

theorem clusterListWrites_eq {idx : Nat} {inputs outputs : List UInt16} (hidx : 0 < idx)
    (hfit : idx + inputs.length * 2 + 1 + outputs.length * 2 ≤ 256) :
    clusterListWrites idx inputs outputs = emit (idx - 1) (clusterListBytes inputs outputs) := by
  simp only [clusterListWrites, words_writes_mod (by omega : idx + inputs.length * 2 ≤ 256),
    words_writes_mod (by omega : idx + inputs.length * 2 + 1 + outputs.length * 2 ≤ 256)]
  rw [Nat.mod_eq_of_lt (by omega), clusterListBytes]
  simp only [emit, emit_append, length_words, List.cons_append, List.nil_append, List.append_assoc]
  rw [show idx - 1 + 1 = idx by omega]

theorem clusterListWrites_last {idx : Nat} {inputs outputs : List UInt16} (hidx : idx ≤ 255)
    (hover : 256 ≤ idx + inputs.length * 2 + 1 + outputs.length * 2) :
    ∃ b, (255, b) ∈ clusterListWrites idx inputs outputs := by
  have hword : ∀ (off : Nat) (ws : List UInt16), off ≤ 255 → 256 ≤ off + ws.length * 2 →
      ∃ b, (255, b) ∈ ws.zipIdx.flatMap fun p => emit ((off + p.2 * 2) % 256) (le16 p.1) := by
    intro off ws hoff hlen
    have hk : (255 - off) / 2 < ws.length := by omega
    obtain ⟨b, hb⟩ := @mem_emit ((off + (255 - off) / 2 * 2) % 256) 255
      (le16 ws[(255 - off) / 2]) (by omega) (by rw [le16_length]; omega)
    refine ⟨b, List.mem_flatMap.mpr ⟨(ws[(255 - off) / 2], (255 - off) / 2), ?_, hb⟩⟩
    exact List.mk_mem_zipIdx_iff_getElem?.mpr (List.getElem?_eq_getElem hk)
  simp only [clusterListWrites, List.mem_append]
  by_cases hin : 256 ≤ idx + inputs.length * 2
  · obtain ⟨b, hb⟩ := hword idx inputs hidx hin
    exact ⟨b, Or.inl (Or.inl (Or.inr hb))⟩
  by_cases hcount : idx + inputs.length * 2 = 255
  · refine ⟨outputs.length.toUInt8, Or.inl (Or.inr ?_)⟩
    simp [emit, hcount]
  · obtain ⟨b, hb⟩ := hword (idx + inputs.length * 2 + 1) outputs (by omega) (by omega)
    exact ⟨b, Or.inr hb⟩

/-- Both lists of a payload, with their counts. -/
def RecoversLists (bytes : List UInt8) (lists : ClusterLists) (inputs outputs : List UInt16) :
    Prop :=
  lists.inputClusterCount.toNat = inputs.length ∧ WordsAt bytes lists.inputClusters inputs ∧
    lists.outputClusterCount.toNat = outputs.length ∧ WordsAt bytes lists.outputClusters outputs

theorem parseClusterLists_bytes {head : List UInt8} {inputs outputs : List UInt16} {idx : Nat}
    (hidx : idx = head.length + 1)
    (hfit : idx + inputs.length * 2 + 1 + outputs.length * 2 < 256) :
    let bytes := head ++ clusterListBytes inputs outputs
    ∃ lists, parseClusterLists bytes bytes.length idx = some (some lists) ∧
      RecoversLists bytes lists inputs outputs := by
  have hlen : (head ++ clusterListBytes inputs outputs).length =
      idx + inputs.length * 2 + 1 + outputs.length * 2 := by
    rw [List.length_append, clusterListBytes_length]
    omega
  have hcount : (head ++ clusterListBytes inputs outputs)[idx - 1]? =
      some inputs.length.toUInt8 := by
    rw [List.getElem?_append_right (by omega), hidx, Nat.add_sub_cancel, Nat.sub_self]
    rfl
  have hin : head ++ clusterListBytes inputs outputs =
      (head ++ [inputs.length.toUInt8]) ++
        (inputs.flatMap le16 ++ outputs.length.toUInt8 :: outputs.flatMap le16) := by
    simp [clusterListBytes]
  have hout : head ++ clusterListBytes inputs outputs =
      (head ++ [inputs.length.toUInt8] ++ inputs.flatMap le16 ++ [outputs.length.toUInt8]) ++
        (outputs.flatMap le16 ++ []) := by
    simp [clusterListBytes]
  have hcount' : (head ++ clusterListBytes inputs outputs)[idx + inputs.length * 2]? =
      some outputs.length.toUInt8 := by
    rw [hin, List.getElem?_append_right (by
        rw [List.length_append, List.length_singleton]; omega),
      List.getElem?_append_right (by
        rw [length_words, List.length_append, List.length_singleton]; omega),
      length_words, List.length_append, List.length_singleton,
      show idx + inputs.length * 2 - (head.length + 1) - inputs.length * 2 = 0 by omega]
    rfl
  have hwordsIn : WordsAt (head ++ clusterListBytes inputs outputs) (some idx) inputs :=
    wordsAt_of_split hin (by rw [List.length_append, List.length_singleton, hidx])
  have hwordsOut : WordsAt (head ++ clusterListBytes inputs outputs)
      (some (idx + inputs.length * 2 + 1)) outputs :=
    wordsAt_of_split hout (by
      simp only [List.length_append, List.length_singleton, length_words]
      omega)
  have hi := toNat_toUInt8 (by omega : inputs.length < 256)
  have ho := toNat_toUInt8 (by omega : outputs.length < 256)
  refine ⟨{ inputClusterCount := inputs.length.toUInt8, inputClusters := some idx
            outputClusterCount := outputs.length.toUInt8
            outputClusters := some (idx + inputs.length * 2 + 1) }, ?_, hi, hwordsIn, ho,
    hwordsOut⟩
  have hmod : (idx + inputs.length * 2) % 256 = idx + inputs.length * 2 :=
    Nat.mod_eq_of_lt (by omega)
  have hmod' : (idx + inputs.length * 2 + 1) % 256 = idx + inputs.length * 2 + 1 :=
    Nat.mod_eq_of_lt (by omega)
  rw [parseClusterLists, read8_eq, hcount]
  simp only [Option.bind_eq_bind, Option.bind_some, hi, hmod, hmod', read8_eq, hcount', ho, hlen]
  rw [if_neg (by omega), if_neg (by omega)]
  rfl

/-! ## Descriptors -/

namespace ZdoSimpleDescriptor

def size (descriptor : ZdoSimpleDescriptor) : Nat :=
  8 + descriptor.inputClusters.length * 2 + descriptor.outputClusters.length * 2

/-- The version fits its four bits, and both counts their bytes. -/
def Fits (descriptor : ZdoSimpleDescriptor) : Prop :=
  descriptor.deviceVersion.toNat < 16 ∧ descriptor.inputClusters.length < 256 ∧
    descriptor.outputClusters.length < 256

def head (descriptor : ZdoSimpleDescriptor) : List UInt8 :=
  [descriptor.endpoint] ++ le16 descriptor.profileId ++ le16 descriptor.deviceId ++
    [descriptor.deviceVersion &&& 0x0F]

def bytes (descriptor : ZdoSimpleDescriptor) : List UInt8 :=
  descriptor.head ++ clusterListBytes descriptor.inputClusters descriptor.outputClusters

theorem bytes_length (descriptor : ZdoSimpleDescriptor) :
    descriptor.bytes.length = descriptor.size := by
  rw [bytes, List.length_append, clusterListBytes_length, size]
  simp only [head, List.length_append, le16_length, List.length_cons, List.length_nil]
  omega

end ZdoSimpleDescriptor

/-- What a received descriptor tells of the one that was sent. -/
def RecoversDescriptor (bytes : List UInt8) (received : ZdoReceivedDescriptor)
    (descriptor : ZdoSimpleDescriptor) : Prop :=
  received.endpoint = descriptor.endpoint ∧ received.profileId = descriptor.profileId ∧
    received.deviceId = descriptor.deviceId ∧
    received.deviceVersion = descriptor.deviceVersion ∧
    RecoversLists bytes received.toClusterLists descriptor.inputClusters descriptor.outputClusters

theorem buildSimpleDescriptor_len (outMax : UInt8) (descriptor : ZdoSimpleDescriptor) :
    (buildSimpleDescriptor outMax descriptor).len =
      if outMax.toNat < descriptor.size % 256 then 0 else descriptor.size % 256 := by
  rw [ZdoSimpleDescriptor.size]
  simp only [buildSimpleDescriptor]
  split <;> rfl

theorem buildSimpleDescriptor_eq {outMax : UInt8} {descriptor : ZdoSimpleDescriptor}
    (hfit : descriptor.size ≤ outMax.toNat) :
    buildSimpleDescriptor outMax descriptor = .exact descriptor.bytes := by
  have hout := outMax.toNat_lt
  have hlen := descriptor.bytes_length
  have hsize : descriptor.size % 256 = descriptor.size := Nat.mod_eq_of_lt (by omega)
  have hlists : clusterListWrites 7 descriptor.inputClusters descriptor.outputClusters =
      emit 6 (clusterListBytes descriptor.inputClusters descriptor.outputClusters) :=
    clusterListWrites_eq (by decide) (by
      rw [ZdoSimpleDescriptor.size] at hfit
      omega)
  simp only [buildSimpleDescriptor, ← ZdoSimpleDescriptor.size.eq_1, hsize, hlists]
  rw [if_neg (by omega), Built.exact, hlen]
  simp [ZdoSimpleDescriptor.bytes, ZdoSimpleDescriptor.head, emit_append, emit]

theorem buildSimpleDescriptor_last {outMax : UInt8} {descriptor : ZdoSimpleDescriptor}
    (hover : 256 ≤ descriptor.size) (hmax : descriptor.size % 256 ≤ outMax.toNat) :
    ∃ b, (255, b) ∈ (buildSimpleDescriptor outMax descriptor).writes := by
  rw [ZdoSimpleDescriptor.size] at hover hmax
  obtain ⟨b, hb⟩ := @clusterListWrites_last 7 descriptor.inputClusters descriptor.outputClusters
    (by decide) (by omega)
  refine ⟨b, ?_⟩
  simp only [buildSimpleDescriptor]
  rw [if_neg (by omega)]
  exact List.mem_append_right _ hb

private theorem and_nibble {v : UInt8} (h : v.toNat < 16) : v &&& 0x0F = v := by
  apply UInt8.toNat_inj.mp
  rw [UInt8.toNat_and]
  exact (Nat.and_two_pow_sub_one_eq_mod v.toNat 4).trans (Nat.mod_eq_of_lt h)

theorem parseSimpleDescriptor_bytes {descriptor : ZdoSimpleDescriptor}
    (hfit : descriptor.size < 256) (hversion : descriptor.deviceVersion.toNat < 16) :
    ∃ received, parseSimpleDescriptor descriptor.bytes descriptor.bytes.length =
        some (true, received) ∧ RecoversDescriptor descriptor.bytes received descriptor := by
  have hlen := descriptor.bytes_length
  have hsize : 8 ≤ descriptor.size := by
    rw [ZdoSimpleDescriptor.size]
    omega
  obtain ⟨lists, hlists, hrecovers⟩ := @parseClusterLists_bytes descriptor.head
    descriptor.inputClusters descriptor.outputClusters 7 rfl (by
      rw [ZdoSimpleDescriptor.size] at hfit
      omega)
  rw [← ZdoSimpleDescriptor.bytes.eq_1] at hlists hrecovers
  have h0 : descriptor.bytes[0]? = some descriptor.endpoint := rfl
  have h1 : read16 descriptor.bytes 1 = some descriptor.profileId := by
    simp [ZdoSimpleDescriptor.bytes, ZdoSimpleDescriptor.head]
  have h3 : read16 descriptor.bytes 3 = some descriptor.deviceId := by
    simp [ZdoSimpleDescriptor.bytes, ZdoSimpleDescriptor.head, le16, read16]
  have h5 : descriptor.bytes[5]? = some (descriptor.deviceVersion &&& 0x0F) := rfl
  have hmask : descriptor.deviceVersion &&& 0x0F &&& 0x0F = descriptor.deviceVersion := by
    rw [and_nibble hversion, and_nibble hversion]
  have hshort : ¬ descriptor.bytes.length < 8 := by omega
  refine ⟨{ lists with
            endpoint := descriptor.endpoint, profileId := descriptor.profileId
            deviceId := descriptor.deviceId, deviceVersion := descriptor.deviceVersion },
    ?_, rfl, rfl, rfl, rfl, hrecovers⟩
  simp only [parseSimpleDescriptor, if_neg hshort, read8_eq, h0, h1, h3, h5, hlists, hmask,
    Option.bind_eq_bind, Option.bind_some]
  rfl

/-- The response that carries `descriptor` behind its length. -/
def descriptorResponseBytes (sequence status : UInt8) (nwkAddress : UInt16)
    (descriptor : List UInt8) : List UInt8 :=
  [sequence, status] ++ le16 nwkAddress ++ [descriptor.length.toUInt8] ++ descriptor

theorem shiftWrites_emit (k off : Nat) (bs : List UInt8) :
    shiftWrites k (emit off bs) = emit (k + off) bs := emit_map_add k off bs

theorem buildSimpleDescriptorResponse_header {outMax sequence status : UInt8} {nwkAddress : UInt16}
    {descriptor : Option ZdoSimpleDescriptor} (hmax : 5 ≤ outMax.toNat)
    (hnone : status ≠ zdoStatusSuccess ∨ descriptor = none) :
    buildSimpleDescriptorResponse outMax sequence status nwkAddress descriptor =
      .exact (descriptorResponseBytes sequence status nwkAddress []) := by
  simp only [buildSimpleDescriptorResponse, if_neg (Nat.not_lt.mpr hmax)]
  have hhead : emit 0 [sequence] ++ emit 1 [status] ++ emit 2 (le16 nwkAddress) ++ emit 4 [0] =
      emit 0 (descriptorResponseBytes sequence status nwkAddress []) := rfl
  cases descriptor with
  | none => rw [hhead]; rfl
  | some descriptor =>
    have hstatus : status ≠ zdoStatusSuccess := by simpa using hnone
    simp only [if_pos hstatus, hhead]
    rfl

section Carried

variable {outMax sequence : UInt8} {nwkAddress : UInt16} {descriptor : ZdoSimpleDescriptor}

theorem room_toNat (hmax : 5 ≤ outMax.toNat) : (outMax - 5).toNat = outMax.toNat - 5 := by
  rw [UInt8.toNat_sub_of_le]
  · rfl
  · rw [UInt8.le_iff_toNat_le]
    exact hmax

theorem buildSimpleDescriptorResponse_carried (hfit : 5 + descriptor.size ≤ outMax.toNat) :
    let built := buildSimpleDescriptorResponse outMax sequence zdoStatusSuccess nwkAddress
      (some descriptor)
    built.Within outMax.toNat ∧ built.bytes =
      descriptorResponseBytes sequence zdoStatusSuccess nwkAddress descriptor.bytes := by
  have hout := outMax.toNat_lt
  have hlen := descriptor.bytes_length
  have hroom := @room_toNat outMax (by omega)
  have hinner := @buildSimpleDescriptor_eq (outMax - 5) descriptor (by omega)
  have hpos : 0 < descriptor.size := by
    rw [ZdoSimpleDescriptor.size]
    omega
  have hbuild : buildSimpleDescriptorResponse outMax sequence zdoStatusSuccess nwkAddress
      (some descriptor) =
      ⟨([sequence, zdoStatusSuccess] ++ le16 nwkAddress ++ [0] ++ descriptor.bytes).length,
        emit 0 ([sequence, zdoStatusSuccess] ++ le16 nwkAddress ++ [0] ++ descriptor.bytes) ++
          emit 4 [descriptor.size.toUInt8]⟩ := by
    have hne : ¬ descriptor.size = 0 := by omega
    have hmod : (5 + descriptor.size) % 256 = 5 + descriptor.size := Nat.mod_eq_of_lt (by omega)
    simp only [buildSimpleDescriptorResponse, if_neg (by omega : ¬ outMax.toNat < 5), hinner,
      Built.exact, shiftWrites_emit, hlen, if_neg hne, hmod, ne_eq, not_true, if_false]
    simp [emit_append, emit, hlen]
    omega
  have hsize : ([sequence, zdoStatusSuccess] ++ le16 nwkAddress ++ [0] ++
      descriptor.bytes).length = 5 + descriptor.size := by
    simp only [List.length_append, le16_length, List.length_cons, List.length_nil, hlen]
  rw [hbuild]
  refine ⟨⟨by dsimp only; omega, by rw [hsize]; exact hfit, ?_⟩, ?_⟩
  · intro w hw
    dsimp only at hw ⊢
    rcases List.mem_append.mp hw with h | h
    · have := emit_index h
      omega
    · have := emit_index h
      rw [List.length_singleton] at this
      omega
  · rw [Built.bytes_store, descriptorResponseBytes, hlen]
    rfl

/-- A descriptor whose size wraps is stored past the length that is returned. -/
theorem buildSimpleDescriptorResponse_last (hover : 256 ≤ descriptor.size)
    (hne : descriptor.size % 256 ≠ 0) (hmax : 5 + descriptor.size % 256 ≤ outMax.toNat) :
    let built := buildSimpleDescriptorResponse outMax sequence zdoStatusSuccess nwkAddress
      (some descriptor)
    built.len = 5 + descriptor.size % 256 ∧ ∃ b, (260, b) ∈ built.writes := by
  have hout := outMax.toNat_lt
  have hroom := @room_toNat outMax (by omega)
  have hinner := buildSimpleDescriptor_len (outMax - 5) descriptor
  rw [if_neg (by omega)] at hinner
  obtain ⟨b, hb⟩ := @buildSimpleDescriptor_last (outMax - 5) descriptor hover (by omega)
  have hmod : (5 + descriptor.size % 256) % 256 = 5 + descriptor.size % 256 :=
    Nat.mod_eq_of_lt (by omega)
  simp only [buildSimpleDescriptorResponse, if_neg (by omega : ¬ outMax.toNat < 5), hinner,
    if_neg hne, hmod, ne_eq, not_true, if_false, true_and]
  exact ⟨b, List.mem_append_left _ (List.mem_append_right _
    (List.mem_map.mpr ⟨(255, b), hb, rfl⟩))⟩

end Carried

theorem parseSimpleDescriptorResponse_bytes (sequence status : UInt8) (nwkAddress : UInt16)
    {descriptor : List UInt8} (hlen : descriptor.length ≤ 250) :
    parseSimpleDescriptorResponse
        (descriptorResponseBytes sequence status nwkAddress descriptor) =
      if descriptor = [] then
        some (true, { sequence := sequence, status := status, nwkAddress := nwkAddress })
      else
        (parseSimpleDescriptor descriptor descriptor.length).map fun r =>
          (r.1, { sequence := sequence, status := status, nwkAddress := nwkAddress
                  descriptor := r.2 }) := by
  have hsize : (descriptorResponseBytes sequence status nwkAddress descriptor).length =
      5 + descriptor.length := by
    simp only [descriptorResponseBytes, List.length_append, le16_length, List.length_cons,
      List.length_nil]
  have h0 : (descriptorResponseBytes sequence status nwkAddress descriptor)[0]? =
      some sequence := rfl
  have h1 : (descriptorResponseBytes sequence status nwkAddress descriptor)[1]? =
      some status := rfl
  have h2 : read16 (descriptorResponseBytes sequence status nwkAddress descriptor) 2 =
      some nwkAddress := by simp [descriptorResponseBytes]
  have h4 : (descriptorResponseBytes sequence status nwkAddress descriptor)[4]? =
      some descriptor.length.toUInt8 := rfl
  have hdrop : (descriptorResponseBytes sequence status nwkAddress descriptor).drop 5 =
      descriptor := rfl
  have hcount := toNat_toUInt8 (by omega : descriptor.length < 256)
  have hzero : descriptor.length.toUInt8 = 0 ↔ descriptor = [] := by
    rw [← UInt8.toNat_inj, hcount]
    exact List.length_eq_zero_iff
  simp only [parseSimpleDescriptorResponse, hsize, read8_eq, h0, h1, h2, h4, hdrop, hcount, hzero,
    Option.bind_eq_bind, Option.bind_some]
  rw [if_neg (by omega), if_neg (by omega)]
  split
  · rfl
  · cases parseSimpleDescriptor descriptor descriptor.length <;> rfl

/-! ## Match requests -/

def matchRequestHead (sequence : UInt8) (nwkAddress profileId : UInt16) : List UInt8 :=
  [sequence] ++ le16 nwkAddress ++ le16 profileId

def matchRequestBytes (sequence : UInt8) (nwkAddress profileId : UInt16)
    (inputs outputs : List UInt16) : List UInt8 :=
  matchRequestHead sequence nwkAddress profileId ++ clusterListBytes inputs outputs

def matchRequestSize (inputs outputs : List UInt16) : Nat :=
  7 + inputs.length * 2 + outputs.length * 2

theorem matchRequestBytes_length (sequence : UInt8) (nwkAddress profileId : UInt16)
    (inputs outputs : List UInt16) :
    (matchRequestBytes sequence nwkAddress profileId inputs outputs).length =
      matchRequestSize inputs outputs := by
  rw [matchRequestBytes, List.length_append, clusterListBytes_length, matchRequestSize]
  simp only [matchRequestHead, List.length_append, le16_length, List.length_cons, List.length_nil]
  omega

section MatchRequest

variable {outMax sequence : UInt8} {nwkAddress profileId : UInt16} {inputs outputs : List UInt16}

theorem buildMatchDescriptorRequest_len :
    (buildMatchDescriptorRequest outMax sequence nwkAddress profileId inputs outputs).len =
      if outMax.toNat < (matchRequestSize inputs outputs - 1) % 256 then 0
      else matchRequestSize inputs outputs % 256 := by
  have hn : 6 + inputs.length * 2 + outputs.length * 2 = matchRequestSize inputs outputs - 1 := by
    rw [matchRequestSize]
    omega
  have hlen : 6 + inputs.length * 2 + 1 + outputs.length * 2 =
      matchRequestSize inputs outputs := by
    rw [matchRequestSize]
    omega
  simp only [buildMatchDescriptorRequest, hn, hlen]
  split <;> rfl

/-- The check is one byte short, so a request may end one byte past the buffer. -/
theorem buildMatchDescriptorRequest_eq (hfit : matchRequestSize inputs outputs < 256)
    (hmax : matchRequestSize inputs outputs ≤ outMax.toNat + 1) :
    buildMatchDescriptorRequest outMax sequence nwkAddress profileId inputs outputs =
      .exact (matchRequestBytes sequence nwkAddress profileId inputs outputs) := by
  have hlen := matchRequestBytes_length sequence nwkAddress profileId inputs outputs
  have hsize : 6 + inputs.length * 2 + 1 + outputs.length * 2 =
      matchRequestSize inputs outputs := by
    rw [matchRequestSize]
    omega
  simp only [buildMatchDescriptorRequest]
  rw [if_neg (by omega), clusterListWrites_eq (by decide) (by omega), hsize,
    Nat.mod_eq_of_lt (by omega), Built.exact, hlen]
  simp [matchRequestBytes, matchRequestHead, emit_append, emit]

theorem buildMatchDescriptorRequest_last (hover : 256 ≤ matchRequestSize inputs outputs)
    (hmax : (matchRequestSize inputs outputs - 1) % 256 ≤ outMax.toNat) :
    ∃ b, (255, b) ∈
      (buildMatchDescriptorRequest outMax sequence nwkAddress profileId inputs outputs).writes := by
  rw [matchRequestSize] at hover hmax
  obtain ⟨b, hb⟩ := @clusterListWrites_last 6 inputs outputs (by decide) (by omega)
  refine ⟨b, ?_⟩
  simp only [buildMatchDescriptorRequest]
  rw [if_neg (by omega)]
  exact List.mem_append_right _ hb

theorem parseMatchDescriptorRequest_bytes (hfit : matchRequestSize inputs outputs < 256) :
    let bytes := matchRequestBytes sequence nwkAddress profileId inputs outputs
    ∃ request, parseMatchDescriptorRequest bytes = some (true, request) ∧
      request.sequence = sequence ∧ request.nwkAddress = nwkAddress ∧
      request.profileId = profileId ∧
      RecoversLists bytes request.toClusterLists inputs outputs := by
  have hlen := matchRequestBytes_length sequence nwkAddress profileId inputs outputs
  obtain ⟨lists, hlists, hrecovers⟩ := @parseClusterLists_bytes
    (matchRequestHead sequence nwkAddress profileId) inputs outputs 6 rfl (by
      rw [matchRequestSize] at hfit
      omega)
  rw [← matchRequestBytes.eq_1] at hlists hrecovers
  have h0 : (matchRequestBytes sequence nwkAddress profileId inputs outputs)[0]? =
      some sequence := rfl
  have h1 : read16 (matchRequestBytes sequence nwkAddress profileId inputs outputs) 1 =
      some nwkAddress := by simp [matchRequestBytes, matchRequestHead]
  have h3 : read16 (matchRequestBytes sequence nwkAddress profileId inputs outputs) 3 =
      some profileId := by simp [matchRequestBytes, matchRequestHead, le16, read16]
  have hshort : ¬ (matchRequestBytes sequence nwkAddress profileId inputs outputs).length < 6 := by
    rw [hlen, matchRequestSize]
    omega
  refine ⟨{ lists with sequence := sequence, nwkAddress := nwkAddress, profileId := profileId },
    ?_, rfl, rfl, rfl, hrecovers⟩
  simp only [parseMatchDescriptorRequest, if_neg hshort, read8_eq, h0, h1, h3, hlists,
    Option.bind_eq_bind, Option.bind_some]
  rfl

end MatchRequest

/-! ## Bindings -/

def bindHead (r : ZdoBindRequest) : List UInt8 :=
  [r.sequence] ++ le64 r.srcAddress ++ [r.srcEndpoint] ++ le16 r.clusterId ++ [r.dstAddrMode]

/-- A request with the fields its mode leaves out at their defaults. -/
def ZdoBindRequest.sent (r : ZdoBindRequest) : ZdoBindRequest :=
  if r.dstAddrMode = kBindAddrModeGroup then { r with dstAddress := 0, dstEndpoint := 0 }
  else { r with dstGroup := 0 }

def bindBytes (r : ZdoBindRequest) : List UInt8 :=
  bindHead r ++ if r.dstAddrMode = kBindAddrModeGroup then le16 r.dstGroup
    else le64 r.dstAddress ++ [r.dstEndpoint]

theorem bindHead_length (r : ZdoBindRequest) : (bindHead r).length = 13 := by
  simp only [bindHead, List.length_append, le64_length, le16_length, List.length_cons,
    List.length_nil]

theorem bindBytes_length (r : ZdoBindRequest) :
    (bindBytes r).length = if r.dstAddrMode = kBindAddrModeGroup then 15 else 22 := by
  rw [bindBytes, List.length_append, bindHead_length]
  split <;> simp

theorem buildBindRequest_eq (outMax : UInt8) (r : ZdoBindRequest) :
    buildBindRequest outMax r =
      if outMax.toNat < (bindBytes r).length then .fail else .exact (bindBytes r) := by
  have hlen := bindBytes_length r
  simp only [buildBindRequest, ← hlen, Built.exact]
  by_cases hmode : r.dstAddrMode = kBindAddrModeGroup
  · simp only [bindBytes, bindHead, if_pos hmode]
    simp [emit_append, emit]
  · simp only [bindBytes, bindHead, if_neg hmode]
    simp [emit_append, emit]

theorem parseBindRequest_bytes {r : ZdoBindRequest}
    (hmode : r.dstAddrMode = kBindAddrModeGroup ∨ r.dstAddrMode = kBindAddrModeIeee) :
    parseBindRequest (bindBytes r) = some (true, r.sent) := by
  have hlen := bindBytes_length r
  have hhead := bindHead_length r
  have hshort : ¬ (bindBytes r).length < 13 := by
    rw [hlen]
    split <;> omega
  have h0 : (bindBytes r)[0]? = some r.sequence := rfl
  have h1 : read64 (bindBytes r) 1 = some r.srcAddress := by simp [bindBytes, bindHead]
  have h9 : (bindBytes r)[9]? = some r.srcEndpoint := rfl
  have h10 : read16 (bindBytes r) 10 = some r.clusterId := by
    have hsplit : bindBytes r = ([r.sequence] ++ le64 r.srcAddress ++ [r.srcEndpoint]) ++
        (le16 r.clusterId ++ (r.dstAddrMode :: if r.dstAddrMode = kBindAddrModeGroup then
          le16 r.dstGroup else le64 r.dstAddress ++ [r.dstEndpoint])) := by
      simp [bindBytes, bindHead]
    rw [hsplit, read16_append_right _ (by simp)]
    simp
  have h12 : (bindBytes r)[12]? = some r.dstAddrMode := rfl
  simp only [parseBindRequest, if_neg hshort, read8_eq, h0, h1, h9, h10, h12,
    Option.bind_eq_bind, Option.bind_some]
  rcases hmode with hmode | hmode
  · have h13 : read16 (bindBytes r) 13 = some r.dstGroup := by
      rw [bindBytes, if_pos hmode, read16_append_right _ (by omega), hhead]
      exact read16_le16 r.dstGroup []
    rw [if_pos hmode, hlen, if_pos hmode, if_neg (by decide), h13]
    simp [ZdoBindRequest.sent, hmode]
  · have hne : ¬ r.dstAddrMode = kBindAddrModeGroup := by
      rw [hmode]
      decide
    have h13 : read64 (bindBytes r) 13 = some r.dstAddress := by
      rw [bindBytes, if_neg hne, read64_append_right _ (by omega), hhead]
      exact read64_le64 r.dstAddress [r.dstEndpoint]
    have h21 : (bindBytes r)[21]? = some r.dstEndpoint := by
      rw [bindBytes, if_neg hne, List.getElem?_append_right (by omega), hhead]
      rfl
    rw [if_neg hne, if_pos hmode, hlen, if_neg hne, if_neg (by decide), h13, h21]
    simp [ZdoBindRequest.sent, hne]

theorem parseBindRequest_unknown {r : ZdoBindRequest}
    (hgroup : r.dstAddrMode ≠ kBindAddrModeGroup) (hieee : r.dstAddrMode ≠ kBindAddrModeIeee) :
    parseBindRequest (bindBytes r) = some (false, {}) := by
  have hlen := bindBytes_length r
  rw [if_neg hgroup] at hlen
  obtain ⟨v1, h1⟩ := @read64_isSome (bindBytes r) 1 (by omega)
  obtain ⟨v10, h10⟩ := @read16_isSome (bindBytes r) 10 (by omega)
  have h0 : (bindBytes r)[0]? = some r.sequence := rfl
  have h9 : (bindBytes r)[9]? = some r.srcEndpoint := rfl
  have h12 : (bindBytes r)[12]? = some r.dstAddrMode := rfl
  simp only [parseBindRequest, read8_eq, h0, h1, h9, h10, h12, Option.bind_eq_bind,
    Option.bind_some]
  rw [if_neg (by omega), if_neg hgroup, if_neg hieee]
  rfl

/-! ## Management tables -/

section Mgmt

variable {α : Type} {entryLen : Nat} {entryBytes : α → List UInt8}

def mgmtHead (sequence status tableEntries startIndex : UInt8) (count : Nat) : List UInt8 :=
  [sequence, status, tableEntries, startIndex, count.toUInt8]

def mgmtBytes (entryBytes : α → List UInt8) (sequence status tableEntries startIndex : UInt8)
    (entries : List α) : List UInt8 :=
  mgmtHead sequence status tableEntries startIndex entries.length ++ entries.flatMap entryBytes

theorem mgmtBytes_length (hentry : ∀ e, (entryBytes e).length = entryLen)
    (sequence status tableEntries startIndex : UInt8) (entries : List α) :
    (mgmtBytes entryBytes sequence status tableEntries startIndex entries).length =
      5 + entries.length * entryLen := by
  rw [mgmtBytes, List.length_append, length_records hentry]
  rfl

theorem buildMgmtResponse_eq (hentry : ∀ e, (entryBytes e).length = entryLen)
    (outMax sequence status tableEntries startIndex : UInt8) (entries : List α) :
    let bytes := mgmtBytes entryBytes sequence status tableEntries startIndex entries
    buildMgmtResponse entryLen entryBytes outMax sequence status tableEntries startIndex entries =
      if outMax.toNat < bytes.length then .fail else .exact bytes := by
  have hlen := mgmtBytes_length hentry sequence status tableEntries startIndex entries
  have hrecords := emit_records entryBytes entryLen hentry 5 0 entries
  rw [Nat.zero_mul, Nat.add_zero] at hrecords
  simp only [buildMgmtResponse, hrecords, ← hlen]
  by_cases hmax : outMax.toNat <
      (mgmtBytes entryBytes sequence status tableEntries startIndex entries).length
  · rw [if_pos hmax, if_pos hmax]
  · have hout := outMax.toNat_lt
    rw [if_neg hmax, if_neg hmax, Nat.mod_eq_of_lt (by omega), Built.exact]
    simp [mgmtBytes, mgmtHead, emit]

theorem mgmtBytes_drop (hentry : ∀ e, (entryBytes e).length = entryLen)
    (sequence status tableEntries startIndex : UInt8) {entries : List α} {k : Nat}
    (hk : k < entries.length) :
    (mgmtBytes entryBytes sequence status tableEntries startIndex entries).drop
        (5 + k * entryLen) =
      entryBytes entries[k] ++ (entries.drop (k + 1)).flatMap entryBytes := by
  rw [mgmtBytes, show 5 = (mgmtHead sequence status tableEntries startIndex
    entries.length).length from rfl, List.drop_length_add_append, drop_records hentry hk]

end Mgmt

/-- Every field fits its bits on air. -/
def ZdoNeighborListEntry.Fits (e : ZdoNeighborListEntry) : Prop :=
  e.deviceType.toNat < 4 ∧ e.rxOnWhenIdle.toNat < 4 ∧ e.relationship.toNat < 8 ∧
    e.permitJoining.toNat < 4

def ZdoRoutingListEntry.Fits (e : ZdoRoutingListEntry) : Prop := e.status.toNat < 8

theorem neighborEntryBytes_length (e : ZdoNeighborListEntry) :
    (neighborEntryBytes e).length = kNeighborEntryLen := by
  simp only [neighborEntryBytes, List.length_append, le64_length, le16_length, List.length_cons,
    List.length_nil, kNeighborEntryLen]

theorem routingEntryBytes_length (e : ZdoRoutingListEntry) :
    (routingEntryBytes e).length = kRoutingEntryLen := by
  simp only [routingEntryBytes, List.length_append, le16_length, List.length_cons,
    List.length_nil, kRoutingEntryLen]

private theorem neighbor_flags : ∀ (d x : Fin 4) (r : Fin 8),
    let flags := (UInt8.ofNat d.1 &&& 0x03) ||| ((UInt8.ofNat x.1 &&& 0x03) <<< (2 : UInt8)) |||
      ((UInt8.ofNat r.1 &&& 0x07) <<< (4 : UInt8))
    flags &&& 0x03 = UInt8.ofNat d.1 ∧ (flags >>> (2 : UInt8)) &&& 0x03 = UInt8.ofNat x.1 ∧
      (flags >>> (4 : UInt8)) &&& 0x07 = UInt8.ofNat r.1 := by decide

private theorem routing_flags : ∀ (s : Fin 8) (m t r : Bool),
    let flags := (UInt8.ofNat s.1 &&& 0x07) ||| (if m then 0x08 else 0) |||
      (if t then 0x10 else 0) ||| (if r then 0x20 else 0)
    flags &&& 0x07 = UInt8.ofNat s.1 ∧ ((flags &&& 0x08) != 0) = m ∧
      ((flags &&& 0x10) != 0) = t ∧ ((flags &&& 0x20) != 0) = r := by decide

private theorem and_two_bits : ∀ p : Fin 4,
    UInt8.ofNat p.1 &&& 0x03 &&& 0x03 = UInt8.ofNat p.1 := by decide

section Lists

variable (sequence status tableEntries startIndex : UInt8)

theorem parseMgmtLqiResponse_bytes {entries : List ZdoNeighborListEntry}
    (hcount : entries.length < 256) :
    parseMgmtLqiResponse
        (mgmtBytes neighborEntryBytes sequence status tableEntries startIndex entries) =
      some (true,
        { sequence := sequence, status := status, neighborTableEntries := tableEntries
          startIndex := startIndex, listCount := entries.length.toUInt8, list := some 5 }) := by
  have hlen := mgmtBytes_length neighborEntryBytes_length sequence status tableEntries startIndex
    entries
  have hc := toNat_toUInt8 hcount
  simp only [parseMgmtLqiResponse, hlen, read8_eq]
  rw [if_neg (by omega)]
  simp [mgmtBytes, mgmtHead, Nat.mod_eq_of_lt hcount]

theorem parseMgmtRtgResponse_bytes {entries : List ZdoRoutingListEntry}
    (hcount : entries.length < 256) :
    parseMgmtRtgResponse
        (mgmtBytes routingEntryBytes sequence status tableEntries startIndex entries) =
      some (true,
        { sequence := sequence, status := status, routingTableEntries := tableEntries
          startIndex := startIndex, listCount := entries.length.toUInt8, list := some 5 }) := by
  have hlen := mgmtBytes_length routingEntryBytes_length sequence status tableEntries startIndex
    entries
  have hc := toNat_toUInt8 hcount
  simp only [parseMgmtRtgResponse, hlen, read8_eq]
  rw [if_neg (by omega)]
  simp [mgmtBytes, mgmtHead, Nat.mod_eq_of_lt hcount]

theorem getNeighborListEntry_bytes {entries : List ZdoNeighborListEntry}
    {response : ZdoMgmtLqiResponse} {i : UInt8} (hlist : response.list = some 5)
    (hindex : i < response.listCount) (hi : i.toNat < entries.length)
    (hfit : entries[i.toNat].Fits) :
    getNeighborListEntry
        (mgmtBytes neighborEntryBytes sequence status tableEntries startIndex entries) response i =
      some (some entries[i.toNat]) := by
  have hdrop := mgmtBytes_drop neighborEntryBytes_length sequence status tableEntries startIndex hi
  have hlen := mgmtBytes_length neighborEntryBytes_length sequence status tableEntries startIndex
    entries
  have hin : 5 + i.toNat * kNeighborEntryLen ≤
      5 + entries.length * kNeighborEntryLen :=
    Nat.add_le_add_left (Nat.mul_le_mul_right _ (Nat.le_of_lt hi)) 5
  rw [← hlen] at hin
  simp only [getNeighborListEntry, hlist, if_neg (UInt8.not_le.mpr hindex)]
  generalize entries[i.toNat] = e at hdrop hfit ⊢
  generalize (entries.drop (i.toNat + 1)).flatMap neighborEntryBytes = rest at hdrop
  generalize 5 + i.toNat * kNeighborEntryLen = p at hdrop hin ⊢
  generalize mgmtBytes neighborEntryBytes sequence status tableEntries startIndex entries =
    bytes at hdrop hin ⊢
  have hbyte (k : Nat) : bytes[p + k]? = (neighborEntryBytes e ++ rest)[k]? := by
    rw [← hdrop, List.getElem?_drop]
  have h0 : read64 bytes p = some e.extendedPanId := by
    have h := read64_drop 0 hin
    rw [hdrop, Nat.add_zero] at h
    rw [← h, neighborEntryBytes, List.append_assoc, List.append_assoc, List.append_assoc,
      read64_le64]
  have h8 : read64 bytes (p + 8) = some e.extendedAddress := by
    rw [← read64_drop 8 hin, hdrop, neighborEntryBytes, List.append_assoc, List.append_assoc,
      List.append_assoc, read64_append_right _ (by simp), le64_length, Nat.sub_self, read64_le64]
  have h16 : read16 bytes (p + 16) = some e.nwkAddress := by
    rw [← read16_drop, hdrop, neighborEntryBytes, List.append_assoc, List.append_assoc,
      read16_append_right _ (by simp), List.length_append, le64_length, le64_length]
    exact read16_le16 e.nwkAddress _
  obtain ⟨hd, hx, hr, hp⟩ := hfit
  obtain ⟨d, hd⟩ := exists_fin hd
  obtain ⟨x, hx⟩ := exists_fin hx
  obtain ⟨r, hr⟩ := exists_fin hr
  obtain ⟨q, hq⟩ := exists_fin hp
  obtain ⟨hfd, hfx, hfr⟩ := neighbor_flags d x r
  have h18 : bytes[p + 18]? = some ((e.deviceType &&& 0x03) |||
      ((e.rxOnWhenIdle &&& 0x03) <<< (2 : UInt8)) |||
      ((e.relationship &&& 0x07) <<< (4 : UInt8))) := (hbyte 18).trans rfl
  have h19 : bytes[p + 19]? = some (e.permitJoining &&& 0x03) := (hbyte 19).trans rfl
  have h20 : bytes[p + 20]? = some e.depth := (hbyte 20).trans rfl
  have h21 : bytes[p + 21]? = some e.lqi := (hbyte 21).trans rfl
  simp only [read8_eq, h0, h8, h16, h18, h19, h20, h21, Option.bind_eq_bind, Option.bind_some,
    hd, hx, hr, hq, hfd, hfx, hfr, and_two_bits]
  rw [← hd, ← hx, ← hr, ← hq]
  rfl

theorem getRoutingListEntry_bytes {entries : List ZdoRoutingListEntry}
    {response : ZdoMgmtRtgResponse} {i : UInt8} (hlist : response.list = some 5)
    (hindex : i < response.listCount) (hi : i.toNat < entries.length)
    (hfit : entries[i.toNat].Fits) :
    getRoutingListEntry
        (mgmtBytes routingEntryBytes sequence status tableEntries startIndex entries) response i =
      some (some entries[i.toNat]) := by
  have hdrop := mgmtBytes_drop routingEntryBytes_length sequence status tableEntries startIndex hi
  simp only [getRoutingListEntry, hlist, if_neg (UInt8.not_le.mpr hindex)]
  generalize entries[i.toNat] = e at hdrop hfit ⊢
  generalize (entries.drop (i.toNat + 1)).flatMap routingEntryBytes = rest at hdrop
  generalize 5 + i.toNat * kRoutingEntryLen = p at hdrop ⊢
  generalize mgmtBytes routingEntryBytes sequence status tableEntries startIndex entries =
    bytes at hdrop ⊢
  have h0 : read16 bytes p = some e.destinationAddress := by
    have h := read16_drop bytes p 0
    rw [hdrop, Nat.add_zero] at h
    rw [← h, routingEntryBytes, List.append_assoc, List.append_assoc, read16_le16]
  have h3 : read16 bytes (p + 3) = some e.nextHopAddress := by
    rw [← read16_drop, hdrop, routingEntryBytes, List.append_assoc,
      read16_append_right _ (by simp)]
    exact read16_le16 e.nextHopAddress rest
  obtain ⟨s, hs⟩ := exists_fin hfit
  obtain ⟨hfs, hfm, hft, hfr⟩ := routing_flags s e.memoryConstrained e.manyToOne
    e.routeRecordRequired
  have h2 : bytes[p + 2]? = some ((e.status &&& 0x07) |||
      (if e.memoryConstrained then 0x08 else 0) ||| (if e.manyToOne then 0x10 else 0) |||
      (if e.routeRecordRequired then 0x20 else 0)) := by
    rw [← List.getElem?_drop, hdrop]
    rfl
  simp only [read8_eq, h0, h2, h3, Option.bind_eq_bind, Option.bind_some, hs, hfs, hfm, hft, hfr]
  rw [← hs]
  rfl

end Lists

/-! ## Requests of a fixed size -/

section Fixed

variable (outMax sequence : UInt8) (nwkAddress : UInt16) (ieeeAddress : UInt64)
  (requestType startIndex endpoint capability status : UInt8)

def nwkAddressRequestBytes : List UInt8 :=
  [sequence] ++ le64 ieeeAddress ++ [requestType, startIndex]

def ieeeAddressRequestBytes : List UInt8 :=
  [sequence] ++ le16 nwkAddress ++ [requestType, startIndex]

def simpleDescriptorRequestBytes : List UInt8 := [sequence] ++ le16 nwkAddress ++ [endpoint]

def deviceAnnounceBytes : List UInt8 :=
  [sequence] ++ le16 nwkAddress ++ le64 ieeeAddress ++ [capability]

theorem buildNwkAddressRequest_eq :
    buildNwkAddressRequest outMax sequence ieeeAddress requestType startIndex =
      if outMax.toNat < (nwkAddressRequestBytes sequence ieeeAddress requestType
        startIndex).length then .fail
      else .exact (nwkAddressRequestBytes sequence ieeeAddress requestType startIndex) := rfl

theorem parseNwkAddressRequest_bytes :
    parseNwkAddressRequest (nwkAddressRequestBytes sequence ieeeAddress requestType startIndex) =
      some (true, { sequence := sequence, ieeeAddress := ieeeAddress, requestType := requestType
                    startIndex := startIndex }) := by
  simp [parseNwkAddressRequest, nwkAddressRequestBytes]

theorem buildIeeeAddressRequest_eq :
    buildIeeeAddressRequest outMax sequence nwkAddress requestType startIndex =
      if outMax.toNat < (ieeeAddressRequestBytes sequence nwkAddress requestType
        startIndex).length then .fail
      else .exact (ieeeAddressRequestBytes sequence nwkAddress requestType startIndex) := rfl

theorem parseIeeeAddressRequest_bytes :
    parseIeeeAddressRequest (ieeeAddressRequestBytes sequence nwkAddress requestType startIndex) =
      some (true, { sequence := sequence, nwkAddress := nwkAddress, requestType := requestType
                    startIndex := startIndex }) := by
  have h1 : read16 (ieeeAddressRequestBytes sequence nwkAddress requestType startIndex) 1 =
      some nwkAddress := by simp [ieeeAddressRequestBytes]
  simp only [parseIeeeAddressRequest, h1]
  rfl

theorem buildActiveEndpointRequest_eq :
    buildActiveEndpointRequest outMax sequence nwkAddress =
      if outMax.toNat < (sequence :: le16 nwkAddress).length then .fail
      else .exact (sequence :: le16 nwkAddress) := rfl

theorem parseActiveEndpointRequest_bytes :
    parseActiveEndpointRequest (sequence :: le16 nwkAddress) =
      some (true, { sequence := sequence, nwkAddress := nwkAddress }) := by
  have h1 : read16 (sequence :: le16 nwkAddress) 1 = some nwkAddress := by
    rw [read16_cons]
    exact read16_le16 nwkAddress []
  simp only [parseActiveEndpointRequest, h1]
  rfl

theorem buildSimpleDescriptorRequest_eq :
    buildSimpleDescriptorRequest outMax sequence nwkAddress endpoint =
      if outMax.toNat < (simpleDescriptorRequestBytes sequence nwkAddress endpoint).length then
        .fail
      else .exact (simpleDescriptorRequestBytes sequence nwkAddress endpoint) := rfl

theorem parseSimpleDescriptorRequest_bytes :
    parseSimpleDescriptorRequest (simpleDescriptorRequestBytes sequence nwkAddress endpoint) =
      some (true, { sequence := sequence, nwkAddress := nwkAddress, endpoint := endpoint }) := by
  have h1 : read16 (simpleDescriptorRequestBytes sequence nwkAddress endpoint) 1 =
      some nwkAddress := by simp [simpleDescriptorRequestBytes]
  simp only [parseSimpleDescriptorRequest, h1]
  rfl

theorem buildDeviceAnnounce_eq :
    buildDeviceAnnounce outMax sequence nwkAddress ieeeAddress capability =
      if outMax.toNat < (deviceAnnounceBytes sequence nwkAddress ieeeAddress capability).length
        then .fail
      else .exact (deviceAnnounceBytes sequence nwkAddress ieeeAddress capability) := rfl

theorem parseDeviceAnnounce_bytes :
    parseDeviceAnnounce (deviceAnnounceBytes sequence nwkAddress ieeeAddress capability) =
      some (true, { sequence := sequence, nwkAddress := nwkAddress, ieeeAddress := ieeeAddress
                    capability := capability }) := by
  have h1 : read16 (deviceAnnounceBytes sequence nwkAddress ieeeAddress capability) 1 =
      some nwkAddress := by simp [deviceAnnounceBytes]
  have h3 : read64 (deviceAnnounceBytes sequence nwkAddress ieeeAddress capability) 3 =
      some ieeeAddress := by
    rw [deviceAnnounceBytes, List.append_assoc, read64_append_right _ (by simp)]
    exact read64_le64 ieeeAddress [capability]
  simp only [parseDeviceAnnounce, h1, h3]
  rfl

theorem buildBindResponse_eq :
    buildBindResponse outMax sequence status =
      if outMax.toNat < [sequence, status].length then .fail
      else .exact [sequence, status] := rfl

theorem parseBindResponse_bytes :
    parseBindResponse [sequence, status] =
      some (true, { sequence := sequence, status := status }) := rfl

theorem buildMgmtLqiRequest_eq :
    buildMgmtLqiRequest outMax sequence startIndex =
      if outMax.toNat < [sequence, startIndex].length then .fail
      else .exact [sequence, startIndex] := rfl

theorem parseMgmtRequest_bytes :
    parseMgmtRequest [sequence, startIndex] =
      some (true, { sequence := sequence, startIndex := startIndex }) := rfl

end Fixed

end NiusZigbee.ZigbeeZdo
