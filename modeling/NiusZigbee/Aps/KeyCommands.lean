import NiusZigbee.Library.OutBuffer
import NiusZigbee.Library.WireFormat
import NiusZigbee.Security.CcmStar

/-!
# APS key commands

`ZigbeeApsKey` builds and parses the command frames that transport, request and switch keys.
-/

namespace NiusZigbee

open ByteCodec OutBuffer

structure ApsTransportKey where
  keyType : UInt8 := 0
  key : Block := Vector.replicate 16 0
  keySeqNumber : UInt8 := 0
  destAddress : UInt64 := 0
  srcAddress : UInt64 := 0
deriving DecidableEq

structure ApsRequestKey where
  keyType : UInt8 := 0
  partnerAddress : UInt64 := 0
deriving DecidableEq, Repr

namespace ZigbeeApsKey

def apsCmdTransportKey : UInt8 := 0x05
def apsCmdRequestKey : UInt8 := 0x08
def apsCmdSwitchKey : UInt8 := 0x09

def apsKeyStandardNetwork : UInt8 := 0x01
def apsKeyAppLink : UInt8 := 0x03
def apsKeyHighSecurityNetwork : UInt8 := 0x05

def buildTransportNetworkKey (outMax : UInt8) (t : ApsTransportKey) : Built :=
  if outMax < 35 then .fail
  else
    .exact ([apsCmdTransportKey] ++ ([t.keyType] ++ (t.key.toList ++ ([t.keySeqNumber] ++
      (le64 t.destAddress ++ le64 t.srcAddress)))))

def parseTransportNetworkKey (payload : List UInt8) : Option (Bool × ApsTransportKey) :=
  if payload.length < 35 then some (false, {})
  else do
    if (← read8 payload 0) ≠ apsCmdTransportKey then return (false, {})
    else
      let keyType ← read8 payload 1
      if keyType ≠ apsKeyStandardNetwork ∧ keyType ≠ apsKeyHighSecurityNetwork then
        return (false, { keyType := keyType })
      else
        let key := Block.ofList (← readBytes payload 2 16)
        let keySeqNumber ← read8 payload 18
        let destAddress ← read64 payload 19
        let srcAddress ← read64 payload 27
        return (true,
          { keyType := keyType, key := key, keySeqNumber := keySeqNumber
            destAddress := destAddress, srcAddress := srcAddress })

def buildRequestKey (outMax : UInt8) (r : ApsRequestKey) : Built :=
  let withPartner := r.keyType = apsKeyAppLink
  let needed : UInt8 := 2 + (if withPartner then 8 else 0)
  if outMax < needed then .fail
  else
    .exact ([apsCmdRequestKey, r.keyType] ++ if withPartner then le64 r.partnerAddress else [])

def parseRequestKey (payload : List UInt8) : Option (Bool × ApsRequestKey) :=
  if payload.length < 2 then some (false, {})
  else do
    if (← read8 payload 0) ≠ apsCmdRequestKey then return (false, {})
    else
      let keyType ← read8 payload 1
      if keyType = apsKeyAppLink then
        if payload.length < 10 then return (false, { keyType := keyType })
        else return (true, { keyType := keyType, partnerAddress := ← read64 payload 2 })
      else return (true, { keyType := keyType })

def buildSwitchKey (outMax keySeqNumber : UInt8) : Built :=
  if outMax < 2 then .fail else .exact [apsCmdSwitchKey, keySeqNumber]

def parseSwitchKey (payload : List UInt8) : Option (Bool × UInt8) :=
  if payload.length < 2 then some (false, 0)
  else do
    if (← read8 payload 0) ≠ apsCmdSwitchKey then return (false, 0)
    else return (true, ← read8 payload 1)

/-! ## Round trips -/

def keyFormat : WireFormat Block :=
  .ofBytes 16 Vector.toList Block.ofList (fun _ => Vector.length_toList) Block.ofList_toList
    fun _ => Block.toList_ofList

def transportKeyFormat : WireFormat ApsTransportKey :=
  (WireFormat.u8.pair (keyFormat.pair (WireFormat.u8.pair
    (WireFormat.u64.pair WireFormat.u64)))).record
    (fun p => ⟨p.1, p.2.1, p.2.2.1, p.2.2.2.1, p.2.2.2.2⟩)
    (fun t => (t.keyType, t.key, t.keySeqNumber, t.destAddress, t.srcAddress))
    (fun _ => rfl) (fun _ => rfl)

def IsNetworkKey (t : ApsTransportKey) : Prop :=
  t.keyType = apsKeyStandardNetwork ∨ t.keyType = apsKeyHighSecurityNetwork

instance : DecidablePred IsNetworkKey := fun t =>
  inferInstanceAs (Decidable (t.keyType = apsKeyStandardNetwork ∨
    t.keyType = apsKeyHighSecurityNetwork))

theorem buildTransportNetworkKey_eq {outMax : UInt8} (h : 35 ≤ outMax) (t : ApsTransportKey) :
    buildTransportNetworkKey outMax t =
      .exact ([apsCmdTransportKey] ++ transportKeyFormat.put t) := by
  rw [buildTransportNetworkKey, if_neg (UInt8.not_lt.mpr h)]
  rfl

theorem transportKey_roundTrips :
    RoundTrips IsNetworkKey (fun t => [apsCmdTransportKey] ++ transportKeyFormat.put t)
      parseTransportNetworkKey := by
  apply roundTrips_of_format
  · intro payload h
    exact ⟨_, if_pos h⟩
  · intro payload t hlen hget
    have hlong : ¬ payload.length < 35 := Nat.not_lt.mpr hlen
    obtain ⟨cmd, hcmd⟩ := getElem?_isSome (by omega : 0 < payload.length)
    simp only [transportKeyFormat, WireFormat.record, WireFormat.pair, WireFormat.u8,
      WireFormat.u64, keyFormat, WireFormat.ofBytes, Option.map_eq_some_iff, Option.bind_eq_bind,
      Option.bind_eq_some_iff, Option.pure_def, Option.some.injEq] at hget
    obtain ⟨_, ⟨keyType, hkeyType, _, ⟨key, ⟨keyBytes, hkey, rfl⟩, _, ⟨keySeq, hkeySeq, _,
      ⟨dst, hdst, src, hsrc, rfl⟩, rfl⟩, rfl⟩, rfl⟩, rfl⟩ := hget
    simp only [List.length_singleton, Nat.reduceAdd] at hkeyType hkey hkeySeq hdst hsrc
    rw [read8_eq] at hkeyType hkeySeq
    simp only [List.length_singleton, take_one_iff, hcmd, Option.some.injEq, IsNetworkKey,
      parseTransportNetworkKey, if_neg hlong, read8_eq, hkeyType, hkey, hkeySeq, hdst, hsrc,
      Option.bind_eq_bind, Option.bind_some, ne_eq, ← not_or]
    by_cases htag : cmd = apsCmdTransportKey
    · by_cases htype : keyType = apsKeyStandardNetwork ∨ keyType = apsKeyHighSecurityNetwork
      · simp only [htag, htype, and_self, not_true_eq_false, if_true, if_false, Option.pure_def]
      · simp only [htag, htype, and_false, not_true_eq_false, not_false_eq_true, if_true, if_false]
        exact ⟨_, rfl⟩
    · simp only [htag, false_and, not_false_eq_true, if_true, if_false]
      exact ⟨_, rfl⟩

/-! The partner's address travels with a request for an application link key only. -/

def HasPartner (r : ApsRequestKey) : Prop := r.keyType ≠ apsKeyAppLink → r.partnerAddress = 0

def requestKeyBytes (r : ApsRequestKey) : List UInt8 :=
  [apsCmdRequestKey, r.keyType] ++ if r.keyType = apsKeyAppLink then le64 r.partnerAddress else []

theorem parseRequestKey_cons (keyType : UInt8) (rest : List UInt8) :
    parseRequestKey (apsCmdRequestKey :: keyType :: rest) =
      if keyType = apsKeyAppLink then
        if rest.length < 8 then some (false, { keyType := keyType })
        else (read64 rest 0).map fun partner => (true, ⟨keyType, partner⟩)
      else some (true, { keyType := keyType }) := by
  have hlong : ¬ rest.length + 2 < 2 := by omega
  simp only [parseRequestKey, List.length_cons, Nat.add_assoc, Nat.reduceAdd, if_neg hlong,
    read8_eq, List.getElem?_cons_zero, List.getElem?_cons_succ, Option.bind_eq_bind,
    Option.bind_some, ne_eq, not_true_eq_false, if_false, Option.pure_def, read64_cons]
  split
  · split
    · rw [if_pos (by omega)]
    · rw [if_neg (by omega), Option.map_eq_bind]
      rfl
  · rfl

theorem requestKey_roundTrips : RoundTrips HasPartner requestKeyBytes parseRequestKey := by
  have hshape (payload : List UInt8) : (∃ r, parseRequestKey payload = some (false, r)) ∨
      ∃ keyType rest, payload = apsCmdRequestKey :: keyType :: rest := by
    match payload with
    | [] | [_] => exact Or.inl ⟨_, rfl⟩
    | cmd :: keyType :: rest =>
      by_cases htag : cmd = apsCmdRequestKey
      · exact Or.inr ⟨keyType, rest, by rw [htag]⟩
      · left
        have hlong : ¬ (cmd :: keyType :: rest).length < 2 := by simp
        refine ⟨{}, ?_⟩
        simp only [parseRequestKey, if_neg hlong, read8_eq, List.getElem?_cons_zero,
          Option.bind_eq_bind, Option.bind_some, ne_eq, htag, not_false_eq_true, if_true,
          Option.pure_def]
  constructor
  · intro payload
    rcases hshape payload with ⟨r, hr⟩ | ⟨keyType, rest, rfl⟩
    · exact ⟨_, hr⟩
    · rw [parseRequestKey_cons]
      split
      · split
        · exact ⟨_, rfl⟩
        · obtain ⟨partner, hpartner⟩ := read64_isSome (by omega : 0 + 8 ≤ rest.length)
          exact ⟨_, by rw [hpartner, Option.map_some]⟩
      · exact ⟨_, rfl⟩
  · intro r post hvalid
    rw [requestKeyBytes]
    by_cases happ : r.keyType = apsKeyAppLink
    · rw [if_pos happ, List.append_assoc]
      change parseRequestKey (apsCmdRequestKey :: r.keyType :: (le64 r.partnerAddress ++ post)) = _
      rw [parseRequestKey_cons, if_pos happ,
        if_neg (by rw [List.length_append, le64_length]; omega), read64_le64, Option.map_some]
    · rw [if_neg happ, List.append_nil]
      change parseRequestKey (apsCmdRequestKey :: r.keyType :: post) = _
      rw [parseRequestKey_cons, if_neg happ, ← hvalid happ]
  · intro payload r hr
    rcases hshape payload with ⟨r', hr'⟩ | ⟨keyType, rest, rfl⟩
    · rw [hr'] at hr
      cases hr
    · rw [parseRequestKey_cons] at hr
      split at hr
      · next happ =>
        split at hr
        · cases hr
        · next hlong =>
          obtain ⟨partner, hpartner, hrest⟩ := Option.map_eq_some_iff.mp hr
          cases hrest
          have hsplit := WireFormat.u64.split_of_get (Nat.not_lt.mp hlong) hpartner
          refine ⟨fun h => absurd happ h, rest.drop 8, ?_⟩
          rw [requestKeyBytes, if_pos happ]
          conv_lhs => rw [hsplit]
          rfl
      · next happ =>
        cases hr
        exact ⟨fun _ => rfl, rest, by rw [requestKeyBytes, if_neg happ]; rfl⟩

theorem switchKey_roundTrips :
    RoundTrips (fun _ => True) (fun seq => [apsCmdSwitchKey] ++ WireFormat.u8.put seq)
      parseSwitchKey := by
  apply roundTrips_of_format
  · intro payload h
    exact ⟨_, if_pos h⟩
  · intro payload seq hlen hget
    have hlong : ¬ payload.length < 2 := Nat.not_lt.mpr hlen
    obtain ⟨cmd, hcmd⟩ := getElem?_isSome (by omega : 0 < payload.length)
    have hseq : payload[1]? = some seq := hget
    simp only [List.length_singleton, take_one_iff, hcmd, Option.some.injEq, and_true,
      parseSwitchKey, if_neg hlong, read8_eq, hseq, Option.bind_eq_bind, Option.bind_some, ne_eq]
    by_cases htag : cmd = apsCmdSwitchKey
    · simp only [htag, not_true_eq_false, if_true, if_false, Option.pure_def]
    · simp only [htag, not_false_eq_true, if_true, if_false]
      exact ⟨_, rfl⟩

/-! ## The three commands -/

theorem transportKey_isCommand :
    IsCommand (fun _ => 35) IsNetworkKey buildTransportNetworkKey parseTransportNetworkKey := by
  apply IsCommand.of_guard transportKey_roundTrips
  · intro outMax t
    rfl
  · intro t
    rw [List.length_append, transportKeyFormat.length_put]
    rfl

/-- The partner's address is part of the command only where the type of the key asks for it. -/
def requestKeySize (r : ApsRequestKey) : UInt8 :=
  2 + if r.keyType = apsKeyAppLink then 8 else 0

theorem requestKey_isCommand :
    IsCommand requestKeySize HasPartner buildRequestKey parseRequestKey := by
  apply IsCommand.of_guard requestKey_roundTrips
  · intro outMax r
    rfl
  · intro r
    rw [requestKeyBytes, requestKeySize]
    split <;> rfl

theorem switchKey_isCommand :
    IsCommand (fun _ => 2) (fun _ => True) buildSwitchKey parseSwitchKey :=
  IsCommand.of_guard switchKey_roundTrips (fun _ _ => rfl) fun _ => rfl

/-- Each of the three commands is written whole or refused, and is read back. -/
theorem key_commands_recovered :
    IsCommand (fun _ => 35) IsNetworkKey buildTransportNetworkKey parseTransportNetworkKey ∧
      IsCommand requestKeySize HasPartner buildRequestKey parseRequestKey ∧
      IsCommand (fun _ => 2) (fun _ => True) buildSwitchKey parseSwitchKey :=
  ⟨transportKey_isCommand, requestKey_isCommand, switchKey_isCommand⟩

end ZigbeeApsKey

end NiusZigbee
