import NiusZigbee.Library.WireFormat
import NiusZigbee.Security.Touchlink

/-!
# Touchlink commands

An initiator scans and a target answers with its response id. The initiator then asks the target to
identify itself and to join, and the join request carries the network key under a key derived from
the ids of both.
-/

namespace NiusZigbee

open ByteCodec OutBuffer

structure ZllScanRequest where
  transactionId : UInt32 := 0
  zigbeeInfo : UInt8 := 0
  zllInfo : UInt8 := 0
deriving DecidableEq, Repr

structure ZllScanResponse where
  transactionId : UInt32 := 0
  rssiCorrection : Int8 := 0
  zigbeeInfo : UInt8 := 0
  zllInfo : UInt8 := 0
  keyBitmask : UInt16 := 0
  responseId : UInt32 := 0
  extendedPanId : UInt64 := 0
  nwkUpdateId : UInt8 := 0
  logicalChannel : UInt8 := 0
  panId : UInt16 := 0
  networkAddress : UInt16 := 0
  numberSubDevices : UInt8 := 0
  totalGroupIds : UInt8 := 0
deriving DecidableEq

structure ZllIdentifyRequest where
  transactionId : UInt32 := 0
  duration : UInt16 := 0
deriving DecidableEq, Repr

structure ZllNetworkJoinRequest where
  transactionId : UInt32 := 0
  keyIndex : UInt8 := 0
  encryptedNetworkKey : Block := Vector.replicate 16 0
  nwkUpdateId : UInt8 := 0
  logicalChannel : UInt8 := 0
  panId : UInt16 := 0
  networkAddress : UInt16 := 0
deriving DecidableEq

namespace ZigbeeTouchlink

def zllKeyMaster : UInt8 := 4

def buildScanRequest (outMax : UInt8) (r : ZllScanRequest) : Built :=
  if outMax < 6 then .fail
  else .exact (le32 r.transactionId ++ ([r.zigbeeInfo] ++ [r.zllInfo]))

def parseScanRequest (p : List UInt8) : Option (Bool × ZllScanRequest) :=
  if p.length < 6 then some (false, {})
  else do
    return (true,
      { transactionId := join32 (← readBytes p 0 4)
        zigbeeInfo := ← read8 p 4
        zllInfo := ← read8 p 5 })

/-- The number of group ids does not travel. -/
def buildScanResponse (outMax : UInt8) (r : ZllScanResponse) : Built :=
  if outMax < 28 then .fail
  else
    .exact (le32 r.transactionId ++ ([r.rssiCorrection.toUInt8] ++ ([r.zigbeeInfo] ++
      ([r.zllInfo] ++ (le16 r.keyBitmask ++ (le32 r.responseId ++ (le64 r.extendedPanId ++
        ([r.nwkUpdateId] ++ ([r.logicalChannel] ++ (le16 r.panId ++ (le16 r.networkAddress ++
          [r.numberSubDevices])))))))))))

def parseScanResponse (p : List UInt8) : Option (Bool × ZllScanResponse) :=
  if p.length < 28 then some (false, {})
  else do
    return (true,
      { transactionId := join32 (← readBytes p 0 4)
        rssiCorrection := (← read8 p 4).toInt8
        zigbeeInfo := ← read8 p 5
        zllInfo := ← read8 p 6
        keyBitmask := ← read16 p 7
        responseId := join32 (← readBytes p 9 4)
        extendedPanId := ← read64 p 13
        nwkUpdateId := ← read8 p 21
        logicalChannel := ← read8 p 22
        panId := ← read16 p 23
        networkAddress := ← read16 p 25
        numberSubDevices := ← read8 p 27 })

def buildIdentifyRequest (outMax : UInt8) (r : ZllIdentifyRequest) : Built :=
  if outMax < 6 then .fail else .exact (le32 r.transactionId ++ le16 r.duration)

def parseIdentifyRequest (p : List UInt8) : Option (Bool × ZllIdentifyRequest) :=
  if p.length < 6 then some (false, {})
  else do
    return (true, { transactionId := join32 (← readBytes p 0 4), duration := ← read16 p 4 })

def buildNetworkJoinRouterRequest (outMax : UInt8) (j : ZllNetworkJoinRequest) : Built :=
  if outMax < 27 then .fail
  else
    .exact (le32 j.transactionId ++ ([j.keyIndex] ++ (j.encryptedNetworkKey.toList ++
      ([j.nwkUpdateId] ++ ([j.logicalChannel] ++ (le16 j.panId ++ le16 j.networkAddress))))))

def parseNetworkJoinRouterRequest (p : List UInt8) : Option (Bool × ZllNetworkJoinRequest) :=
  if p.length < 27 then some (false, {})
  else do
    return (true,
      { transactionId := join32 (← readBytes p 0 4)
        keyIndex := ← read8 p 4
        encryptedNetworkKey := Block.ofList (← readBytes p 5 16)
        nwkUpdateId := ← read8 p 21
        logicalChannel := ← read8 p 22
        panId := ← read16 p 23
        networkAddress := ← read16 p 25 })

/-! ## The commands are read back -/

theorem block_length (block : Block) : block.toList.length = 16 := Vector.length_toList

def blockFormat : WireFormat Block :=
  .ofBytes 16 Vector.toList Block.ofList block_length Block.ofList_toList
    fun _ => Block.toList_ofList

def int8Format : WireFormat Int8 :=
  WireFormat.u8.record UInt8.toInt8 Int8.toUInt8 (fun _ => rfl) fun _ => rfl

def scanRequestFormat : WireFormat (UInt32 × UInt8 × UInt8) :=
  WireFormat.u32.pair (WireFormat.u8.pair WireFormat.u8)

def identifyRequestFormat : WireFormat (UInt32 × UInt16) := WireFormat.u32.pair WireFormat.u16

def scanResponseFormat : WireFormat (UInt32 × Int8 × UInt8 × UInt8 × UInt16 × UInt32 × UInt64 ×
    UInt8 × UInt8 × UInt16 × UInt16 × UInt8) :=
  WireFormat.u32.pair (int8Format.pair (WireFormat.u8.pair (WireFormat.u8.pair
    (WireFormat.u16.pair (WireFormat.u32.pair (WireFormat.u64.pair (WireFormat.u8.pair
      (WireFormat.u8.pair (WireFormat.u16.pair (WireFormat.u16.pair WireFormat.u8))))))))))

def joinFormat : WireFormat (UInt32 × UInt8 × Block × UInt8 × UInt8 × UInt16 × UInt16) :=
  WireFormat.u32.pair (WireFormat.u8.pair (blockFormat.pair (WireFormat.u8.pair
    (WireFormat.u8.pair (WireFormat.u16.pair WireFormat.u16)))))

theorem bind_get_int8 {γ : Type} (p : List UInt8) (off : Nat) (k : Int8 → Option γ) :
    (int8Format.get p off).bind k = (read8 p off).bind fun b => k b.toInt8 :=
  WireFormat.bind_get_record p off WireFormat.u8 _ _ _ _ k

theorem parseScanRequest_eq {p : List UInt8} (h : 6 ≤ p.length) :
    parseScanRequest p =
      (scanRequestFormat.get p 0).bind fun f => some (true, ⟨f.1, f.2.1, f.2.2⟩) := by
  rw [parseScanRequest, if_neg (Nat.not_lt.mpr h), scanRequestFormat]
  simp only [WireFormat.bind_get_pair, WireFormat.bind_get_u32]
  rfl

theorem parseIdentifyRequest_eq {p : List UInt8} (h : 6 ≤ p.length) :
    parseIdentifyRequest p =
      (identifyRequestFormat.get p 0).bind fun f => some (true, ⟨f.1, f.2⟩) := by
  rw [parseIdentifyRequest, if_neg (Nat.not_lt.mpr h), identifyRequestFormat]
  simp only [WireFormat.bind_get_pair, WireFormat.bind_get_u32]
  rfl

theorem parseScanResponse_eq {p : List UInt8} (h : 28 ≤ p.length) :
    parseScanResponse p =
      (scanResponseFormat.get p 0).bind fun f => some (true,
        ⟨f.1, f.2.1, f.2.2.1, f.2.2.2.1, f.2.2.2.2.1, f.2.2.2.2.2.1, f.2.2.2.2.2.2.1,
          f.2.2.2.2.2.2.2.1, f.2.2.2.2.2.2.2.2.1, f.2.2.2.2.2.2.2.2.2.1,
          f.2.2.2.2.2.2.2.2.2.2.1, f.2.2.2.2.2.2.2.2.2.2.2, 0⟩) := by
  rw [parseScanResponse, if_neg (Nat.not_lt.mpr h), scanResponseFormat]
  simp only [WireFormat.bind_get_pair, WireFormat.bind_get_u32, bind_get_int8]
  rfl

theorem parseNetworkJoinRouterRequest_eq {p : List UInt8} (h : 27 ≤ p.length) :
    parseNetworkJoinRouterRequest p =
      (joinFormat.get p 0).bind fun f => some (true,
        ⟨f.1, f.2.1, f.2.2.1, f.2.2.2.1, f.2.2.2.2.1, f.2.2.2.2.2.1, f.2.2.2.2.2.2⟩) := by
  rw [parseNetworkJoinRouterRequest, if_neg (Nat.not_lt.mpr h), joinFormat, blockFormat]
  simp only [WireFormat.bind_get_pair, WireFormat.bind_get_u32, WireFormat.bind_get_ofBytes]
  rfl

theorem scanRequest_isCommand :
    IsCommand (fun _ => 6) (fun _ => True) buildScanRequest parseScanRequest := by
  have hread : RoundTrips (fun _ => True)
      (fun r : ZllScanRequest => scanRequestFormat.put (r.transactionId, r.zigbeeInfo, r.zllInfo))
      parseScanRequest :=
    roundTrips_of_read scanRequestFormat (fun h => ⟨_, if_pos h⟩) parseScanRequest_eq
      (fun _ => rfl) (fun _ _ => rfl) fun _ => trivial
  exact IsCommand.of_guard hread (fun _ _ => rfl) fun _ => rfl

theorem identifyRequest_isCommand :
    IsCommand (fun _ => 6) (fun _ => True) buildIdentifyRequest parseIdentifyRequest := by
  have hread : RoundTrips (fun _ => True)
      (fun r : ZllIdentifyRequest => identifyRequestFormat.put (r.transactionId, r.duration))
      parseIdentifyRequest :=
    roundTrips_of_read identifyRequestFormat (fun h => ⟨_, if_pos h⟩) parseIdentifyRequest_eq
      (fun _ => rfl) (fun _ _ => rfl) fun _ => trivial
  exact IsCommand.of_guard hread (fun _ _ => rfl) fun _ => rfl

/-- The number of group ids is not read back: the parser leaves it 0. -/
theorem scanResponse_isCommand :
    IsCommand (fun _ => 28) (·.totalGroupIds = 0) buildScanResponse parseScanResponse := by
  have hread : RoundTrips (·.totalGroupIds = 0)
      (fun r : ZllScanResponse => scanResponseFormat.put (r.transactionId, r.rssiCorrection,
        r.zigbeeInfo, r.zllInfo, r.keyBitmask, r.responseId, r.extendedPanId, r.nwkUpdateId,
        r.logicalChannel, r.panId, r.networkAddress, r.numberSubDevices))
      parseScanResponse := by
    apply roundTrips_of_read scanResponseFormat (fun h => ⟨_, if_pos h⟩) parseScanResponse_eq
      (fun _ => rfl) _ fun _ => rfl
    rintro ⟨⟩ rfl
    rfl
  exact IsCommand.of_guard hread (fun _ _ => rfl) fun _ => rfl

theorem joinRequest_isCommand :
    IsCommand (fun _ => 27) (fun _ => True) buildNetworkJoinRouterRequest
      parseNetworkJoinRouterRequest := by
  have hread : RoundTrips (fun _ => True)
      (fun j : ZllNetworkJoinRequest => joinFormat.put (j.transactionId, j.keyIndex,
        j.encryptedNetworkKey, j.nwkUpdateId, j.logicalChannel, j.panId, j.networkAddress))
      parseNetworkJoinRouterRequest :=
    roundTrips_of_read joinFormat (fun h => ⟨_, if_pos h⟩) parseNetworkJoinRouterRequest_eq
      (fun _ => rfl) (fun _ _ => rfl) fun _ => trivial
  exact IsCommand.of_guard hread (fun _ _ => rfl) fun _ => joinFormat.length_put _

/-! ## The network key inside the join request -/

variable {encrypt : Encrypt} {masterKey networkKey encrypted : Block} {responseId : UInt32}

/-- Every command is read back, and the network key is decrypted out of the join request that is
heard. Another transaction recovers it only where its transport key encrypts it to the same
block. -/
theorem commands_carry_network_key (haes : ComputesAes encrypt) (offer : ZllNetworkJoinRequest)
    (hencrypted : encryptNetworkKey encrypt masterKey offer.transactionId responseId networkKey =
      some encrypted) {outMax : UInt8} (hroom : 27 ≤ outMax) (rest : List UInt8) :
    IsCommand (fun _ => 6) (fun _ => True) buildScanRequest parseScanRequest ∧
      IsCommand (fun _ => 28) (·.totalGroupIds = 0) buildScanResponse parseScanResponse ∧
      IsCommand (fun _ => 6) (fun _ => True) buildIdentifyRequest parseIdentifyRequest ∧
      IsCommand (fun _ => 27) (fun _ => True) buildNetworkJoinRouterRequest
        parseNetworkJoinRouterRequest ∧
      ∃ j, parseNetworkJoinRouterRequest ((buildNetworkJoinRouterRequest outMax
          { offer with keyIndex := zllKeyMaster, encryptedNetworkKey := encrypted }).bytes ++
            rest) = some (true, j) ∧
        j = { offer with keyIndex := zllKeyMaster, encryptedNetworkKey := encrypted } ∧
        decryptNetworkKey encrypt masterKey j.transactionId responseId j.encryptedNetworkKey =
          some networkKey ∧
        ∀ masterKey' transactionId' responseId',
          decryptNetworkKey encrypt masterKey' transactionId' responseId' j.encryptedNetworkKey =
              some networkKey ↔
            ∃ tk, deriveTransportKey encrypt masterKey' transactionId' responseId' = some tk ∧
              Aes128.encrypt tk networkKey = encrypted := by
  have hwhole := joinRequest_isCommand.whole outMax
    { offer with keyIndex := zllKeyMaster, encryptedNetworkKey := encrypted } hroom
  have hheard := joinRequest_isCommand.roundTrips.recovered
    { offer with keyIndex := zllKeyMaster, encryptedNetworkKey := encrypted } rest trivial
  have hkey := decryptNetworkKey_encrypt haes hencrypted
  refine ⟨scanRequest_isCommand, scanResponse_isCommand, identifyRequest_isCommand,
    joinRequest_isCommand,
    { offer with keyIndex := zllKeyMaster, encryptedNetworkKey := encrypted }, ?_, rfl, hkey, ?_⟩
  · rw [hwhole, Built.exact_bytes]
    exact hheard
  · intro masterKey' transactionId' responseId'
    exact decryptNetworkKey_eq_some

/-- The keys, the ids and the network that the self-test of the library uses. -/
theorem commands_carry_network_key_lamp :
    let chip := ZigbeeApsSecurity.Checked.ofCipher Aes128.encrypt
    let masterKey := Block.ofList [0x9F, 0x55, 0x95, 0xF1, 0x02, 0x57, 0xC8, 0xA4, 0x69, 0xCB, 0xF4,
      0x2B, 0xC9, 0x3F, 0xEE, 0x31]
    let networkKey := Block.ofList [0xC0, 0xC1, 0xC2, 0xC3, 0xC4, 0xC5, 0xC6, 0xC7, 0xC8, 0xC9,
      0xCA, 0xCB, 0xCC, 0xCD, 0xCE, 0xCF]
    let answer : ZllScanResponse :=
      { transactionId := 0x12345678, rssiCorrection := -5, zigbeeInfo := 0x01, zllInfo := 0x12
        keyBitmask := 0x0010, responseId := 0xCAFEBABE, extendedPanId := 0x1A62195E00000001
        nwkUpdateId := 2, logicalChannel := 15, panId := 0x1A62, numberSubDevices := 1 }
    let offer : ZllNetworkJoinRequest :=
      { transactionId := 0x12345678, logicalChannel := 15, panId := 0x1A62, networkAddress := 5 }
    parseScanResponse ((buildScanResponse 40 answer).bytes ++ [0]) = some (true, answer) ∧
      ∃ encrypted j, parseNetworkJoinRouterRequest ((buildNetworkJoinRouterRequest 40
          { offer with keyIndex := zllKeyMaster, encryptedNetworkKey := encrypted }).bytes ++
            [0xAA, 0xBB]) = some (true, j) ∧ j.networkAddress = 5 ∧ j.logicalChannel = 15 ∧
        decryptNetworkKey chip masterKey j.transactionId answer.responseId
          j.encryptedNetworkKey = some networkKey := by
  intro chip masterKey networkKey answer offer
  have haes : ComputesAes chip := by
    intro key block out hout
    exact (Option.some.inj hout).symm
  obtain ⟨encrypted, hencrypted⟩ : ∃ out, encryptNetworkKey chip masterKey offer.transactionId
      answer.responseId networkKey = some out := ⟨_, rfl⟩
  obtain ⟨-, hscan, -, -, j, hj, hfields, hkey, -⟩ :=
    commands_carry_network_key haes offer hencrypted (by decide : 27 ≤ (40 : UInt8)) [0xAA, 0xBB]
  refine ⟨?_, encrypted, j, hj, by rw [hfields], by rw [hfields], hkey⟩
  rw [hscan.whole 40 answer (by decide), Built.exact_bytes]
  exact hscan.roundTrips.recovered answer [0] rfl

end ZigbeeTouchlink

end NiusZigbee
