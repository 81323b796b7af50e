import NiusZigbee.Library.Delimited
import NiusZigbee.Zcl.Frame

/-!
# Read Attributes

The Basic and the On/Off cluster answer a Read Attributes request with one record for each
attribute id, collected in a scratch payload. The loop over the ids ends because the offset of an id
is a byte.
-/

namespace NiusZigbee

open ByteCodec OutBuffer

namespace ZigbeeZcl

def zclCmdReadAttributesResponse : UInt8 := 0x01

def zclStatusSuccess : UInt8 := 0x00
def zclStatusUnsupportedAttribute : UInt8 := 0x86

def zclTypeBoolean : UInt8 := 0x10
def zclTypeUint8 : UInt8 := 0x20
def zclTypeCharString : UInt8 := 0x42

def kAttrOnOff : UInt16 := 0x0000
def kAttrBasicZclVersion : UInt16 := 0x0000
def kAttrBasicApplicationVersion : UInt16 := 0x0001
def kAttrBasicStackVersion : UInt16 := 0x0002
def kAttrBasicHardwareVersion : UInt16 := 0x0003
def kAttrBasicManufacturerName : UInt16 := 0x0004
def kAttrBasicModelIdentifier : UInt16 := 0x0005
def kAttrBasicDateCode : UInt16 := 0x0006
def kAttrBasicPowerSource : UInt16 := 0x0007

/-- The id at `index`; the inner `none` is the `return false`. -/
def getReadAttributeId (payload : List UInt8) (index : UInt8) : Option (Option UInt16) :=
  let offset := (index.toNat * 2) % 256
  if offset > payload.length ∨ payload.length - offset < 2 then some none
  else (read16 payload offset).map some

def buildAttributeStatusRecord (outMax : UInt8) (attrId : UInt16) (status : UInt8) : Built :=
  if outMax.toNat < 3 then .fail
  else { len := 3, writes := emit 0 (le16 attrId) ++ emit 2 [status] }

def buildBoolAttributeRecord (outMax : UInt8) (attrId : UInt16) (value : Bool) : Built :=
  if outMax.toNat < 5 then .fail
  else
    { len := 5
      writes := emit 0 (le16 attrId) ++ emit 2 [zclStatusSuccess] ++ emit 3 [zclTypeBoolean] ++
        emit 4 [if value then 1 else 0] }

def buildUint8AttributeRecord (outMax : UInt8) (attrId : UInt16) (value : UInt8) : Built :=
  if outMax.toNat < 5 then .fail
  else
    { len := 5
      writes := emit 0 (le16 attrId) ++ emit 2 [zclStatusSuccess] ++ emit 3 [zclTypeUint8] ++
        emit 4 [value] }

/-- `value` holds the bytes before the terminating zero, `strlen` of them. -/
def buildCharStringAttributeRecord (outMax : UInt8) (attrId : UInt16) (value : List UInt8) :
    Built :=
  let len := if value.length > 255 then 255 else value.length
  if outMax.toNat < 5 + len then .fail
  else
    { len := (5 + len) % 256
      writes := emit 0 (le16 attrId) ++ emit 2 [zclStatusSuccess] ++ emit 3 [zclTypeCharString] ++
        emit 4 [len.toUInt8] ++ emit 5 (value.take len) }

/-! ## What a record says -/

inductive AttributeValue where
  | boolean (value : Bool)
  | uint8 (value : UInt8)
  | charString (value : List UInt8)
deriving DecidableEq, Repr

/-- An attribute with its status, and its value if there is one. -/
structure AttributeRecord where
  attrId : UInt16
  status : UInt8
  value : Option AttributeValue
deriving DecidableEq, Repr

namespace AttributeValue

def bytes : AttributeValue → List UInt8
  | boolean value => [zclTypeBoolean, if value then 1 else 0]
  | uint8 value => [zclTypeUint8, value]
  | charString value => zclTypeCharString :: value.length.toUInt8 :: value

/-- The value at the front of `bs`, behind its type, and what follows it. -/
def decode : List UInt8 → Option (AttributeValue × List UInt8)
  | type :: b :: bs =>
    if type = zclTypeBoolean then
      if b = 0 then some (boolean false, bs) else if b = 1 then some (boolean true, bs) else none
    else if type = zclTypeUint8 then some (uint8 b, bs)
    else if type = zclTypeCharString then
      if bs.length < b.toNat then none
      else some (charString (bs.take b.toNat), bs.drop b.toNat)
    else none
  | _ => none

theorem decode_bytes {value : AttributeValue} (h : value.bytes.length < 256) (rest : List UInt8) :
    decode (value.bytes ++ rest) = some (value, rest) := by
  cases value with
  | boolean value => cases value <;> rfl
  | uint8 value => rfl
  | charString value =>
    simp only [bytes, List.length_cons] at h
    have hlen : value.length.toUInt8.toNat = value.length := toNat_toUInt8 (by omega)
    have hfits : ¬ (value ++ rest).length < value.length := by
      rw [List.length_append]
      omega
    have hboolean : ¬ zclTypeCharString = zclTypeBoolean := by decide
    have huint8 : ¬ zclTypeCharString = zclTypeUint8 := by decide
    rw [bytes, List.cons_append, List.cons_append, decode, if_neg hboolean, if_neg huint8,
      if_pos rfl, hlen, if_neg hfits, List.take_left, List.drop_left]

end AttributeValue

namespace AttributeRecord

def bytes (record : AttributeRecord) : List UInt8 :=
  le16 record.attrId ++ record.status :: record.value.elim [] AttributeValue.bytes

/-- The record at the front of `bs`, and what follows it. -/
def decode : List UInt8 → Option (AttributeRecord × List UInt8)
  | lo :: hi :: status :: bs =>
    if status = zclStatusSuccess then
      (AttributeValue.decode bs).map fun p => (⟨join16 lo hi, status, some p.1⟩, p.2)
    else some (⟨join16 lo hi, status, none⟩, bs)
  | _ => none

/-- What is reported of an attribute: its value, or that it is not supported. -/
def report (attrId : UInt16) (value : Option AttributeValue) : AttributeRecord where
  attrId := attrId
  status := if value.isSome then zclStatusSuccess else zclStatusUnsupportedAttribute
  value := value

theorem decode_report {attrId : UInt16} {value : Option AttributeValue}
    (h : (report attrId value).bytes.length < 256) (rest : List UInt8) :
    decode ((report attrId value).bytes ++ rest) = some (report attrId value, rest) := by
  cases value with
  | none =>
    have hstatus : ¬ zclStatusUnsupportedAttribute = zclStatusSuccess := by decide
    simp only [report, bytes, le16, Option.elim_none, Option.isSome_none, Bool.false_eq_true,
      if_false, List.cons_append, List.nil_append, decode, if_neg hstatus, join16_bytes]
  | some value =>
    have hlen : value.bytes.length < 256 := by
      simp only [bytes, report, Option.elim_some, List.length_append, List.length_cons] at h
      omega
    simp only [report, bytes, le16, Option.elim_some, Option.isSome_some, if_true,
      List.cons_append, List.nil_append, decode, AttributeValue.decode_bytes hlen,
      Option.map_some, join16_bytes]

/-- All the records of a payload. -/
def decodeAll (bs : List UInt8) : Option (List AttributeRecord) :=
  Delimited.readAll decode bs.length bs

theorem decodeAll_reports {ids : List UInt16} {value : UInt16 → Option AttributeValue}
    (h : (ids.flatMap fun id => (report id (value id)).bytes).length < 256) :
    decodeAll (ids.flatMap fun id => (report id (value id)).bytes) =
      some (ids.map fun id => report id (value id)) := by
  have hmap : (ids.flatMap fun id => (report id (value id)).bytes) =
      (ids.map fun id => report id (value id)).flatMap bytes := by rw [List.flatMap_map]
  have hne : ∀ record : AttributeRecord, record.bytes ≠ [] := by simp [bytes, le16]
  have hrecovers : ∀ record ∈ ids.map fun id => report id (value id),
      Delimited.Recovers decode bytes record := by
    intro record hrecord
    obtain ⟨id, hid, rfl⟩ := List.mem_map.mp hrecord
    refine ⟨hne _, fun rest => decode_report ?_ rest⟩
    have hsublist := List.sublist_flatten_of_mem
      (List.mem_map_of_mem (f := fun id => (report id (value id)).bytes) hid)
    exact hsublist.length_le.trans_lt h
  rw [decodeAll, hmap]
  exact Delimited.readAll_flatMap hrecovers (Delimited.length_le_flatMap fun a _ => hne a)

end AttributeRecord

/-! ## The clusters -/

/-- What the answer takes from the request; its length is a `uint8_t`. A null payload is an empty
one. -/
structure ReadAttributesRequest where
  sequence : UInt8
  payload : List UInt8
  short : payload.length < 256

theorem getReadAttributeId_offset {payload : List UInt8} {i : UInt8} {attrId : UInt16}
    (h : getReadAttributeId payload i = some (some attrId)) :
    i.toNat * 2 % 256 + 2 ≤ payload.length := by
  unfold getReadAttributeId at h
  dsimp only at h
  split at h
  · cases h
  · omega

theorem getReadAttributeId_eq (payload : List UInt8) {i : UInt8} (hi : i.toNat < 128) :
    getReadAttributeId payload i = some (read16 payload (i.toNat * 2)) := by
  have hoffset : i.toNat * 2 % 256 = i.toNat * 2 := Nat.mod_eq_of_lt (by omega)
  unfold getReadAttributeId
  dsimp only
  rw [hoffset]
  by_cases hend : i.toNat * 2 > payload.length ∨ payload.length - i.toNat * 2 < 2
  · rw [if_pos hend, read16_eq_none (by omega)]
  · obtain ⟨attrId, hread⟩ := @read16_isSome payload (i.toNat * 2) (by omega)
    rw [if_neg hend, hread]
    rfl

/-- The loop of `buildReadAttributesResponse` from index `i` on, which no cluster changes: whether
it got to the end, and what it leaves in its scratch payload. -/
def readAttributes (append : UInt16 → UInt8 → Built) (request : ReadAttributesRequest) (i : UInt8)
    (payload : Built) : Option (Bool × Built) :=
  match h : getReadAttributeId request.payload i with
  | none => none
  | some none => some (true, payload)
  | some (some attrId) =>
    let added := append attrId (kMaxPayload + 256 - payload.len).toUInt8
    if added.len = 0 then some (false, payload.append added)
    else readAttributes append request (i + 1) (payload.append added)
termination_by 127 - i.toNat % 128
decreasing_by
  have hoffset := getReadAttributeId_offset h
  have hshort := request.short
  rw [UInt8.toNat_add, UInt8.toNat_one]
  omega

def buildReadResponseFrame (request : ReadAttributesRequest) (payload : List UInt8)
    (outMax : UInt8) : Built :=
  buildCommandFrame outMax zclFrameProfileWide request.sequence zclCmdReadAttributesResponse payload
    zclDirectionServerToClient true

/-- The stores into the scratch payload, and what is built. -/
def respond (append : UInt16 → UInt8 → Built) (request : ReadAttributesRequest) (outMax : UInt8) :
    Option (List (Nat × UInt8) × Built) :=
  if request.payload.length = 0 then some ([], .fail)
  else do
    let (complete, payload) ← readAttributes append request 0 { len := 0, writes := [] }
    if !complete then return (payload.writes, .fail)
    else if payload.len = 0 then return (payload.writes, .fail)
    else return (payload.writes, buildReadResponseFrame request payload.bytes outMax)

end ZigbeeZcl

structure ZigbeeOnOffCluster where
  on : Bool := false
deriving DecidableEq, Repr

/-- The identity strings hold the bytes before their terminating zero. -/
structure ZigbeeBasicCluster where
  zclVersion : UInt8 := 3
  applicationVersion : UInt8 := 1
  stackVersion : UInt8 := 1
  hardwareVersion : UInt8 := 1
  powerSource : UInt8 := 0x03
  manufacturerName : List UInt8 := "NiusRobotLab".toList.map fun c => c.toNat.toUInt8
  modelIdentifier : List UInt8 := "ArduinoNRF-Zigbee".toList.map fun c => c.toNat.toUInt8
  dateCode : List UInt8 := []
deriving DecidableEq, Repr

open ZigbeeZcl

namespace ZigbeeOnOffCluster

variable (cluster : ZigbeeOnOffCluster)

def appendReadAttributeRecord (attrId : UInt16) (outMax : UInt8) : Built :=
  if attrId = kAttrOnOff then buildBoolAttributeRecord outMax attrId cluster.on
  else buildAttributeStatusRecord outMax attrId zclStatusUnsupportedAttribute

def buildReadAttributesResponse (request : ReadAttributesRequest) (outMax : UInt8) :
    Option (List (Nat × UInt8) × Built) :=
  respond cluster.appendReadAttributeRecord request outMax

/-- The attributes of the cluster and their current values. -/
def attributeValue (attrId : UInt16) : Option AttributeValue :=
  if attrId = kAttrOnOff then some (.boolean cluster.on) else none

end ZigbeeOnOffCluster

namespace ZigbeeBasicCluster

variable (cluster : ZigbeeBasicCluster)

def appendReadAttributeRecord (attrId : UInt16) (outMax : UInt8) : Built :=
  if attrId = kAttrBasicZclVersion then
    buildUint8AttributeRecord outMax attrId cluster.zclVersion
  else if attrId = kAttrBasicApplicationVersion then
    buildUint8AttributeRecord outMax attrId cluster.applicationVersion
  else if attrId = kAttrBasicStackVersion then
    buildUint8AttributeRecord outMax attrId cluster.stackVersion
  else if attrId = kAttrBasicHardwareVersion then
    buildUint8AttributeRecord outMax attrId cluster.hardwareVersion
  else if attrId = kAttrBasicManufacturerName then
    buildCharStringAttributeRecord outMax attrId cluster.manufacturerName
  else if attrId = kAttrBasicModelIdentifier then
    buildCharStringAttributeRecord outMax attrId cluster.modelIdentifier
  else if attrId = kAttrBasicDateCode then
    buildCharStringAttributeRecord outMax attrId cluster.dateCode
  else if attrId = kAttrBasicPowerSource then
    buildUint8AttributeRecord outMax attrId cluster.powerSource
  else buildAttributeStatusRecord outMax attrId zclStatusUnsupportedAttribute

def buildReadAttributesResponse (request : ReadAttributesRequest) (outMax : UInt8) :
    Option (List (Nat × UInt8) × Built) :=
  respond cluster.appendReadAttributeRecord request outMax

/-- The attributes of the cluster and their current values. -/
def attributeValue (attrId : UInt16) : Option AttributeValue :=
  if attrId = kAttrBasicZclVersion then some (.uint8 cluster.zclVersion)
  else if attrId = kAttrBasicApplicationVersion then some (.uint8 cluster.applicationVersion)
  else if attrId = kAttrBasicStackVersion then some (.uint8 cluster.stackVersion)
  else if attrId = kAttrBasicHardwareVersion then some (.uint8 cluster.hardwareVersion)
  else if attrId = kAttrBasicManufacturerName then some (.charString cluster.manufacturerName)
  else if attrId = kAttrBasicModelIdentifier then some (.charString cluster.modelIdentifier)
  else if attrId = kAttrBasicDateCode then some (.charString cluster.dateCode)
  else if attrId = kAttrBasicPowerSource then some (.uint8 cluster.powerSource)
  else none

end ZigbeeBasicCluster

/-! ## The records -/

namespace ZigbeeZcl

/-- All of `bs` where it fits, else nothing. -/
def whole (outMax : UInt8) (bs : List UInt8) : Built :=
  if bs.length ≤ outMax.toNat then .exact bs else .fail

/-- Each record is written as a whole or not at all. -/
def Appends (append : UInt16 → UInt8 → Built) (value : UInt16 → Option AttributeValue) : Prop :=
  ∀ attrId outMax, append attrId outMax =
    whole outMax (AttributeRecord.report attrId (value attrId)).bytes

theorem whole_eq {outMax : UInt8} {bs : List UInt8} {n : Nat} {writes : List (Nat × UInt8)}
    (hn : bs.length = n) (hwrites : writes = emit 0 bs) :
    (if outMax.toNat < n then Built.fail else ⟨n, writes⟩) = whole outMax bs := by
  subst hn hwrites
  unfold whole
  by_cases hfits : bs.length ≤ outMax.toNat
  · rw [if_neg (Nat.not_lt.mpr hfits), if_pos hfits]
    rfl
  · rw [if_pos (Nat.not_le.mp hfits), if_neg hfits]

theorem buildAttributeStatusRecord_whole (outMax : UInt8) (attrId : UInt16) :
    buildAttributeStatusRecord outMax attrId zclStatusUnsupportedAttribute =
      whole outMax (AttributeRecord.report attrId none).bytes := by
  refine whole_eq (by rfl) ?_
  rw [emit_glue _ _ (by rfl)]
  rfl

theorem typedRecord_writes (attrId : UInt16) (type b : UInt8) :
    emit 0 (le16 attrId) ++ emit 2 [zclStatusSuccess] ++ emit 3 [type] ++ emit 4 [b] =
      emit 0 (le16 attrId ++ [zclStatusSuccess, type, b]) := by
  rw [emit_glue _ _ (by rfl), emit_glue _ _ (by rfl), emit_glue _ _ (by rfl)]
  rfl

theorem buildBoolAttributeRecord_whole (outMax : UInt8) (attrId : UInt16) (value : Bool) :
    buildBoolAttributeRecord outMax attrId value =
      whole outMax (AttributeRecord.report attrId (some (.boolean value))).bytes :=
  whole_eq rfl (typedRecord_writes attrId _ _)

theorem buildUint8AttributeRecord_whole (outMax : UInt8) (attrId : UInt16) (value : UInt8) :
    buildUint8AttributeRecord outMax attrId value =
      whole outMax (AttributeRecord.report attrId (some (.uint8 value))).bytes :=
  whole_eq rfl (typedRecord_writes attrId _ _)

theorem buildCharStringAttributeRecord_whole (outMax : UInt8) (attrId : UInt16)
    (value : List UInt8) :
    buildCharStringAttributeRecord outMax attrId value =
      whole outMax (AttributeRecord.report attrId (some (.charString value))).bytes := by
  have hbytes : (AttributeRecord.report attrId (some (.charString value))).bytes =
      le16 attrId ++ [zclStatusSuccess] ++ [zclTypeCharString] ++ [value.length.toUInt8] ++
        value := rfl
  have hlen : (AttributeRecord.report attrId (some (.charString value))).bytes.length =
      5 + value.length := by
    rw [hbytes]
    simp only [List.length_append, List.length_singleton, le16_length]
  have hmax := outMax.toNat_lt
  unfold buildCharStringAttributeRecord
  dsimp only
  by_cases hlong : value.length > 255
  · rw [if_pos hlong, if_pos (by omega), whole, if_neg (by omega)]
  rw [if_neg hlong]
  by_cases hfits : outMax.toNat < 5 + value.length
  · rw [if_pos hfits, whole, if_neg (by omega)]
  · rw [if_neg hfits, whole, if_pos (by omega), Nat.mod_eq_of_lt (by omega),
      List.take_of_length_le (Nat.le_refl _), emit_glue _ _ (by rfl), emit_glue _ _ (by rfl),
      emit_glue _ _ (by rfl), emit_glue _ _ (by rfl), ← hbytes, ← hlen]
    rfl

end ZigbeeZcl

theorem ZigbeeOnOffCluster.appends (cluster : ZigbeeOnOffCluster) :
    Appends cluster.appendReadAttributeRecord cluster.attributeValue := by
  intro attrId outMax
  unfold appendReadAttributeRecord attributeValue
  split
  · exact buildBoolAttributeRecord_whole outMax attrId _
  · exact buildAttributeStatusRecord_whole outMax attrId

theorem ZigbeeBasicCluster.appends (cluster : ZigbeeBasicCluster) :
    Appends cluster.appendReadAttributeRecord cluster.attributeValue := by
  intro attrId outMax
  unfold appendReadAttributeRecord attributeValue
  split
  · exact buildUint8AttributeRecord_whole outMax attrId _
  split
  · exact buildUint8AttributeRecord_whole outMax attrId _
  split
  · exact buildUint8AttributeRecord_whole outMax attrId _
  split
  · exact buildUint8AttributeRecord_whole outMax attrId _
  split
  · exact buildCharStringAttributeRecord_whole outMax attrId _
  split
  · exact buildCharStringAttributeRecord_whole outMax attrId _
  split
  · exact buildCharStringAttributeRecord_whole outMax attrId _
  split
  · exact buildUint8AttributeRecord_whole outMax attrId _
  · exact buildAttributeStatusRecord_whole outMax attrId

/-! ## The answer -/

namespace ZigbeeZcl

/-- The records of the attributes with these ids, one behind the other. -/
def reports (value : UInt16 → Option AttributeValue) (ids : List UInt16) : List UInt8 :=
  ids.flatMap fun id => (AttributeRecord.report id (value id)).bytes

/-- Nothing, or a frame with one record for each id of the request, in its order. -/
def Answered (value : UInt16 → Option AttributeValue) (request : ReadAttributesRequest)
    (outMax : UInt8) (built : Built) : Prop :=
  built = .fail ∨
    built.Within outMax.toNat ∧ ∃ frame, parseFrame built.bytes = some (true, frame) ∧
      frame.frameType = zclFrameProfileWide ∧ frame.direction = zclDirectionServerToClient ∧
      frame.sequence = request.sequence ∧ frame.commandId = zclCmdReadAttributesResponse ∧
      AttributeRecord.decodeAll (frame.payloadBytes built.bytes) =
        some ((words request.payload).map fun id => AttributeRecord.report id (value id))

section

variable {append : UInt16 → UInt8 → Built} {value : UInt16 → Option AttributeValue}
  {request : ReadAttributesRequest}

theorem report_length (id : UInt16) (v : Option AttributeValue) :
    3 ≤ (AttributeRecord.report id v).bytes.length := by
  rw [AttributeRecord.bytes, List.length_append, le16_length, List.length_cons]
  omega

theorem exact_inside {bs : List UInt8} {n : Nat} (h : bs.length ≤ n) :
    ∀ w ∈ (Built.exact bs).writes, w.1 < n := by
  intro w hw
  have := emit_index hw
  omega

theorem readAttributes_end {i : UInt8} (hi : i.toNat < 128)
    (hend : read16 request.payload (i.toNat * 2) = none) (payload : Built) :
    readAttributes append request i payload = some (true, payload) := by
  have hget := getReadAttributeId_eq request.payload hi
  rw [hend] at hget
  rw [readAttributes]
  split
  · next heq => simp [hget] at heq
  · rfl
  · next heq => simp [hget] at heq

theorem readAttributes_next {i : UInt8} (hi : i.toNat < 128) {attrId : UInt16}
    (hread : read16 request.payload (i.toNat * 2) = some attrId) (payload : Built) :
    readAttributes append request i payload =
      let added := append attrId (kMaxPayload + 256 - payload.len).toUInt8
      if added.len = 0 then some (false, payload.append added)
      else readAttributes append request (i + 1) (payload.append added) := by
  have hget := getReadAttributeId_eq request.payload hi
  rw [hread] at hget
  rw [readAttributes]
  split
  · next heq => simp [hget] at heq
  · next heq => simp [hget] at heq
  · next found heq =>
    obtain rfl : attrId = found := by simpa [hget] using heq
    rfl

/-- A record goes behind what is there, or ends the loop when it does not fit. -/
theorem readAttributes_record (happends : Appends append value) {i : UInt8} (hi : i.toNat < 128)
    {attrId : UInt16} (hread : read16 request.payload (i.toNat * 2) = some attrId)
    {bs : List UInt8} (hbs : bs.length ≤ kMaxPayload) :
    readAttributes append request i (.exact bs) =
      if bs.length + (AttributeRecord.report attrId (value attrId)).bytes.length ≤ kMaxPayload then
        readAttributes append request (i + 1)
          (.exact (bs ++ (AttributeRecord.report attrId (value attrId)).bytes))
      else some (false, .exact bs) := by
  have hmax : kMaxPayload = 97 := rfl
  have hlen := report_length attrId (value attrId)
  have hleft : (kMaxPayload + 256 - bs.length).toUInt8.toNat = kMaxPayload - bs.length := by
    rw [Nat.toUInt8_eq, UInt8.toNat_ofNat']
    omega
  rw [readAttributes_next hi hread]
  dsimp only
  rw [Built.exact_len, happends attrId, whole, hleft]
  by_cases hfits : bs.length + (AttributeRecord.report attrId (value attrId)).bytes.length ≤
      kMaxPayload
  · have hroom : (AttributeRecord.report attrId (value attrId)).bytes.length ≤
        kMaxPayload - bs.length := by omega
    rw [if_pos hroom, if_pos hfits, Built.exact_len, if_neg (by omega),
      Built.exact_append (by omega)]
  · have hroom : ¬ (AttributeRecord.report attrId (value attrId)).bytes.length ≤
        kMaxPayload - bs.length := by omega
    rw [if_neg hroom, if_neg hfits, Built.fail_len, if_pos rfl,
      Built.append_fail (hbs.trans_lt (by decide))]

/-- From index `i` on the loop adds the records of the ids that are left, if they all fit. -/
theorem readAttributes_eq (happends : Appends append value) {i : UInt8} (hi : i.toNat < 128)
    {ids : List UInt16} (hids : words (request.payload.drop (i.toNat * 2)) = ids)
    {bs : List UInt8} (hbs : bs.length ≤ kMaxPayload) :
    ∃ payload, readAttributes append request i (.exact bs) =
        some (decide ((bs ++ reports value ids).length ≤ kMaxPayload), payload) ∧
      (∀ w ∈ payload.writes, w.1 < kMaxPayload) ∧
      ((bs ++ reports value ids).length ≤ kMaxPayload →
        payload = .exact (bs ++ reports value ids)) := by
  induction ids generalizing i bs with
  | nil =>
    have hend : read16 request.payload (i.toNat * 2) = none := by
      by_contra hsome
      obtain ⟨attrId, hread⟩ := Option.ne_none_iff_exists'.mp hsome
      rw [words_drop hread] at hids
      cases hids
    have hall : bs ++ reports value [] = bs := List.append_nil bs
    rw [hall, decide_eq_true hbs, readAttributes_end hi hend]
    exact ⟨_, rfl, exact_inside hbs, fun _ => rfl⟩
  | cons id ids ih =>
    have hroom : i.toNat * 2 + 1 < request.payload.length := by
      by_contra hend
      rw [words_drop_end (Nat.not_lt.mp hend)] at hids
      cases hids
    obtain ⟨attrId, hread⟩ := read16_isSome hroom
    rw [words_drop hread, List.cons.injEq] at hids
    obtain ⟨rfl, hids⟩ := hids
    have hshort := request.short
    have hnext : (i + 1).toNat = i.toNat + 1 := toNat_succ (by omega)
    have hall : bs ++ reports value (attrId :: ids) =
        bs ++ (AttributeRecord.report attrId (value attrId)).bytes ++ reports value ids := by
      rw [reports, List.flatMap_cons, ← List.append_assoc]
      rfl
    rw [readAttributes_record happends hi hread hbs, hall]
    by_cases hfits : bs.length + (AttributeRecord.report attrId (value attrId)).bytes.length ≤
        kMaxPayload
    · rw [if_pos hfits]
      apply ih
      · omega
      · rw [hnext, Nat.succ_mul]
        exact hids
      · rw [List.length_append]
        exact hfits
    · have hlong : ¬ (bs ++ (AttributeRecord.report attrId (value attrId)).bytes ++
          reports value ids).length ≤ kMaxPayload := by
        rw [List.length_append, List.length_append]
        omega
      rw [if_neg hfits, decide_eq_false hlong]
      exact ⟨_, rfl, exact_inside hbs, fun h => absurd h hlong⟩

/-- The bytes of the answer. -/
def answerBytes (value : UInt16 → Option AttributeValue) (request : ReadAttributesRequest) :
    List UInt8 :=
  commandBytes zclFrameProfileWide zclDirectionServerToClient request.sequence
    zclCmdReadAttributesResponse true (reports value (words request.payload))

theorem buildReadResponseFrame_whole (request : ReadAttributesRequest) {bs : List UInt8}
    (hbs : bs.length ≤ kMaxPayload) (outMax : UInt8) :
    buildReadResponseFrame request bs outMax =
      whole outMax (commandBytes zclFrameProfileWide zclDirectionServerToClient request.sequence
        zclCmdReadAttributesResponse true bs) := by
  have htype : ¬ zclFrameProfileWide > zclFrameClusterSpecific := by decide
  have hdirection : ¬ zclDirectionServerToClient > zclDirectionServerToClient := by decide
  have hmax : kMaxPayload = 97 := rfl
  have hlen : (kBaseHeaderLen + bs.length) % 256 = kBaseHeaderLen + bs.length :=
    Nat.mod_eq_of_lt (by rw [kBaseHeaderLen]; omega)
  rw [buildReadResponseFrame, buildCommandFrame, if_neg htype, if_neg hdirection,
    if_neg (Nat.not_lt.mpr hbs), hlen]
  refine whole_eq commandBytes_length ?_
  rw [emit_glue _ _ (by rfl), emit_glue _ _ (by rfl), emit_glue _ _ (by rfl)]
  rfl

theorem reports_eq_nil {ids : List UInt16} (h : (reports value ids).length = 0) : ids = [] := by
  cases ids with
  | nil => rfl
  | cons id ids =>
    have hlen := report_length id (value id)
    rw [reports, List.flatMap_cons, List.length_append] at h
    omega

/-- The answer is a frame just when there is something to answer and all of it fits. -/
theorem respond_eq (happends : Appends append value) (request : ReadAttributesRequest)
    (outMax : UInt8) :
    ∃ scratch, respond append request outMax =
        some (scratch,
          if words request.payload ≠ [] ∧
              (reports value (words request.payload)).length ≤ kMaxPayload then
            whole outMax (answerBytes value request)
          else .fail) ∧
      ∀ w ∈ scratch, w.1 < kMaxPayload := by
  unfold respond
  by_cases hempty : request.payload.length = 0
  · have hwords : words request.payload = [] := by
      rw [List.length_eq_zero_iff.mp hempty]
      rfl
    rw [if_pos hempty, if_neg fun h => h.1 hwords]
    exact ⟨[], rfl, by simp⟩
  obtain ⟨payload, hrun, hinside, hexact⟩ := @readAttributes_eq append value request happends 0
    (by decide) (words request.payload) rfl [] (Nat.zero_le _)
  rw [List.nil_append] at hrun hexact
  refine ⟨payload.writes, ?_, hinside⟩
  rw [if_neg hempty]
  have hstart : ({ len := 0, writes := [] } : Built) = .exact [] := rfl
  simp only [hstart, hrun, Option.bind_eq_bind, Option.bind_some]
  by_cases hfits : (reports value (words request.payload)).length ≤ kMaxPayload
  · obtain rfl := hexact hfits
    simp only [hfits, decide_true, Bool.not_true, Bool.false_eq_true, if_false, and_true,
      Built.exact_len, Built.exact_bytes]
    by_cases hnone : words request.payload = []
    · rw [if_neg (not_not.mpr hnone), hnone]
      rfl
    · have hsome : ¬ (reports value (words request.payload)).length = 0 := mt reports_eq_nil hnone
      rw [if_neg hsome, if_pos hnone, buildReadResponseFrame_whole request hfits]
      rfl
  · simp [hfits]

theorem answerBytes_answered
    (hfits : (reports value (words request.payload)).length ≤ kMaxPayload) {outMax : UInt8}
    (hmax : (answerBytes value request).length ≤ outMax.toNat) :
    Answered value request outMax (.exact (answerBytes value request)) := by
  have hparse := @parseFrame_bytes zclFrameProfileWide zclDirectionServerToClient request.sequence
    zclCmdReadAttributesResponse true (reports value (words request.payload)) (by decide)
    (by decide) hfits
  rw [← answerBytes, ← Built.exact_bytes (answerBytes value request)] at hparse
  refine .inr ⟨Built.exact_within _ ?_ hmax, _, hparse, rfl, rfl, rfl, rfl, ?_⟩
  · rw [answerBytes, commandBytes_length]
    exact Nat.lt_of_lt_of_le (by decide) (Nat.le_add_right kBaseHeaderLen _)
  · rw [Built.exact_bytes]
    have hpayload := @payloadBytes_command zclFrameProfileWide zclDirectionServerToClient
      request.sequence zclCmdReadAttributesResponse true (reports value (words request.payload))
    refine (congrArg AttributeRecord.decodeAll hpayload).trans ?_
    exact AttributeRecord.decodeAll_reports (hfits.trans_lt (by decide))

theorem respond_answered (happends : Appends append value) (request : ReadAttributesRequest)
    (outMax : UInt8) :
    ∃ scratch built, respond append request outMax = some (scratch, built) ∧
      (∀ w ∈ scratch, w.1 < kMaxPayload) ∧ Answered value request outMax built := by
  obtain ⟨scratch, hrespond, hinside⟩ := respond_eq happends request outMax
  refine ⟨scratch, _, hrespond, hinside, ?_⟩
  split
  · next hfits =>
    unfold whole
    split
    · next hmax => exact answerBytes_answered hfits.2 hmax
    · exact .inl rfl
  · exact .inl rfl

end

end ZigbeeZcl

/-- Read Attributes is answered completely or not at all, by either cluster in any state. -/
theorem read_attributes_complete (request : ReadAttributesRequest) (outMax : UInt8) :
    (∀ cluster : ZigbeeBasicCluster, ∃ scratch built,
      cluster.buildReadAttributesResponse request outMax = some (scratch, built) ∧
      (∀ w ∈ scratch, w.1 < kMaxPayload) ∧
      Answered cluster.attributeValue request outMax built) ∧
    ∀ cluster : ZigbeeOnOffCluster, ∃ scratch built,
      cluster.buildReadAttributesResponse request outMax = some (scratch, built) ∧
      (∀ w ∈ scratch, w.1 < kMaxPayload) ∧
      Answered cluster.attributeValue request outMax built :=
  ⟨fun cluster => respond_answered cluster.appends request outMax,
    fun cluster => respond_answered cluster.appends request outMax⟩

end NiusZigbee
