import NiusZigbee.Aps.Fragment
import NiusZigbee.Aps.Frame

/-!
# Two parsers of a fragment

`ZigbeeApsFragment::parseFragment` and `ZigbeeAps::parseDataFrame` read the same extended header.
The first looks at frame type and extended-header bit alone, the second also at delivery mode and
security bit, and they agree on the frames for which that makes no difference.
-/

namespace NiusZigbee

open ByteCodec ZigbeeAps
open ZigbeeApsFragment hiding kBaseHeaderLen

/-- Both parsers accept the APDU as a fragment, or neither does, and then they report the same. -/
def FragmentParsersAgree (apdu : List UInt8) : Prop :=
  ∃ isFragment info isData frame,
    parseFragment apdu = some (isFragment, info) ∧ parseDataFrame apdu = some (isData, frame) ∧
    (isFragment = true ↔ isData = true ∧ frame.extendedHeader = true) ∧
    (isFragment = true →
      info.dstEndpoint = frame.dstEndpoint ∧ info.srcEndpoint = frame.srcEndpoint ∧
      info.clusterId = frame.clusterId ∧ info.profileId = frame.profileId ∧
      info.counter = frame.counter ∧ info.firstBlock = frame.firstBlock ∧
      info.blockNumber = frame.blockNumber ∧ info.payloadBytes apdu = frame.payloadBytes apdu)

/-- A data frame long enough for an extended header and marked to have one. -/
def FragmentShaped (apdu : List UInt8) : Prop :=
  kHeaderLen ≤ apdu.length ∧ apdu.getD 0 0 &&& kFcfExtHeaderBit ≠ 0 ∧ apdu.getD 0 0 &&& 0x03 = 0

/-- The security bit is clear and the delivery mode is unicast. -/
def PlainUnicast (fcf : UInt8) : Prop :=
  fcf &&& ((1 : UInt8) <<< 5) = 0 ∧ (fcf >>> (2 : UInt8)) &&& 0x03 = apsDeliveryUnicast

instance (apdu : List UInt8) : Decidable (FragmentShaped apdu) :=
  inferInstanceAs (Decidable (_ ∧ _ ∧ _))

instance (fcf : UInt8) : Decidable (PlainUnicast fcf) := inferInstanceAs (Decidable (_ ∧ _))

section

variable {apdu : List UInt8}

/-- What `parseFragment` reports of a frame it accepts. -/
def fragmentInfo (apdu : List UInt8) : ApsFragmentInfo where
  valid := true
  deliveryMode := (apdu.getD 0 0 >>> (2 : UInt8)) &&& 0x03
  ackRequest := (apdu.getD 0 0 &&& ((1 : UInt8) <<< 6)) != 0
  dstEndpoint := apdu.getD 1 0
  clusterId := join16 (apdu.getD 2 0) (apdu.getD 3 0)
  profileId := join16 (apdu.getD 4 0) (apdu.getD 5 0)
  srcEndpoint := apdu.getD 6 0
  counter := apdu.getD 7 0
  firstBlock := apdu.getD 8 0 &&& 0x03 = kExtFcfFirst
  blockNumber := apdu.getD 9 0
  payload := some kHeaderLen
  payloadLen := (apdu.length - kHeaderLen) % 256

theorem parseFragment_eq (apdu : List UInt8) :
    parseFragment apdu =
      if FragmentShaped apdu then some (true, fragmentInfo apdu) else some (false, {}) := by
  by_cases hlen : apdu.length < kHeaderLen
  · rw [parseFragment, if_pos hlen, if_neg fun h => Nat.not_le.mpr hlen h.1]
  have hlong : 10 ≤ apdu.length := Nat.not_lt.mp hlen
  have h2 : read16 apdu 2 = _ := read16_getD (by omega)
  have h4 : read16 apdu 4 = _ := read16_getD (by omega)
  have hbyte : ∀ i < 10, apdu[i]? = some (apdu.getD i 0) := fun i hi => getElem?_getD (by omega)
  simp only [parseFragment, if_neg hlen, read8_eq, hbyte 0 (by decide), hbyte 1 (by decide), h2, h4,
    hbyte 6 (by decide), hbyte 7 (by decide), hbyte 8 (by decide), hbyte 9 (by decide),
    Option.bind_eq_bind, Option.bind_some]
  by_cases hext : apdu.getD 0 0 &&& kFcfExtHeaderBit = 0
  · rw [if_pos hext, if_neg fun h => h.2.1 hext]
    rfl
  by_cases htype : apdu.getD 0 0 &&& 0x03 = 0
  · rw [if_neg hext, if_neg (not_not_intro htype), if_pos ⟨Nat.not_lt.mp hlen, hext, htype⟩]
    rfl
  · rw [if_neg hext, if_pos htype, if_neg fun h => htype h.2.2]
    rfl

/-- An extended header is accepted as far as there are two bytes for it. -/
theorem parseExtension_accepts {frame out : ApsDataFrame} {hdr : Nat}
    (h : parseExtension apdu frame hdr = some (true, out)) (hext : out.extendedHeader = true) :
    frame.extendedHeader = true ∧ hdr + 2 ≤ apdu.length ∧ out.payload = some (hdr + 2) ∧
      out.payloadLen = (apdu.length - (hdr + 2)) % 256 := by
  simp only [parseExtension] at h
  split at h
  · next hframe =>
    split at h
    · simp at h
    · next hlen =>
      simp only [read8_eq, Option.bind_eq_bind, Option.bind_eq_some_iff, Option.pure_def,
        Option.some.injEq, Prod.mk.injEq, true_and] at h
      obtain ⟨_, -, _, -, rfl⟩ := h
      exact ⟨hframe, by omega, rfl, rfl⟩
  · next hframe =>
    simp only [Option.some.injEq, Prod.mk.injEq, true_and] at h
    subst h
    exact absurd hext hframe

/-- A data frame accepted with an extended header is shaped like a fragment and not secured; it is
unicast, or its payload starts a byte later. -/
theorem parseDataFrame_extended {frame : ApsDataFrame}
    (h : parseDataFrame apdu = some (true, frame)) (hext : frame.extendedHeader = true) :
    FragmentShaped apdu ∧
      (PlainUnicast (apdu.getD 0 0) ∨
        11 ≤ apdu.length ∧ frame.payload = some 11 ∧
          frame.payloadLen = (apdu.length - 11) % 256) := by
  by_cases hlen : apdu.length < kBaseHeaderLen
  · simp [parseDataFrame, hlen] at h
  have hlong : 8 ≤ apdu.length := Nat.not_lt.mp hlen
  have hbyte : ∀ i < 8, apdu[i]? = some (apdu.getD i 0) := fun i hi => getElem?_getD (by omega)
  have hbit : (1 : UInt8) <<< 7 = kFcfExtHeaderBit := rfl
  simp only [parseDataFrame, if_neg hlen, read8_eq, hbyte 0 (by decide), Option.bind_eq_bind,
    Option.bind_some, hbit] at h
  split at h
  · simp at h
  next htype =>
  split at h
  · simp at h
  next hsecurity =>
  have hplain : apdu.getD 0 0 &&& ((1 : UInt8) <<< 5) = 0 := by simpa using hsecurity
  split at h
  · simp only [parseGroup] at h
    split at h
    · simp at h
    simp only [read8_eq, Option.bind_eq_bind, Option.bind_eq_some_iff] at h
    obtain ⟨_, -, _, -, _, -, _, -, _, -, h⟩ := h
    obtain ⟨hbitSet, hroom, hpayload, hpayloadLen⟩ := parseExtension_accepts h hext
    refine ⟨⟨?_, by simpa using hbitSet, not_not.mp htype⟩, .inr ⟨hroom, hpayload, hpayloadLen⟩⟩
    exact Nat.le_trans (by decide) hroom
  · split at h
    · next hmode =>
      simp only [parseUnicast, read8_eq, Option.bind_eq_bind, Option.bind_eq_some_iff] at h
      obtain ⟨_, -, _, -, _, -, _, -, _, -, h⟩ := h
      obtain ⟨hbitSet, hroom, -, -⟩ := parseExtension_accepts h hext
      exact ⟨⟨hroom, by simpa using hbitSet, not_not.mp htype⟩, .inl ⟨hplain, hmode⟩⟩
    · simp at h

/-- What `parseDataFrame` reports of a unicast frame with an extended header. -/
def unicastFrame (apdu : List UInt8) : ApsDataFrame where
  valid := true
  ackRequest := (apdu.getD 0 0 &&& ((1 : UInt8) <<< 6)) != 0
  extendedHeader := true
  firstBlock := apdu.getD 8 0 &&& 0x03 = 0x01
  blockNumber := apdu.getD 9 0
  dstEndpoint := apdu.getD 1 0
  clusterId := join16 (apdu.getD 2 0) (apdu.getD 3 0)
  profileId := join16 (apdu.getD 4 0) (apdu.getD 5 0)
  srcEndpoint := apdu.getD 6 0
  counter := apdu.getD 7 0
  payload := some kHeaderLen
  payloadLen := (apdu.length - kHeaderLen) % 256

theorem parseDataFrame_unicast (hshape : FragmentShaped apdu)
    (hplain : PlainUnicast (apdu.getD 0 0)) :
    parseDataFrame apdu = some (true, unicastFrame apdu) := by
  obtain ⟨hlen, hext, htype⟩ := hshape
  obtain ⟨hsecurity, hmode⟩ := hplain
  have hlong : 10 ≤ apdu.length := hlen
  have h2 : read16 apdu 2 = _ := read16_getD (by omega)
  have h4 : read16 apdu 4 = _ := read16_getD (by omega)
  have hbyte : ∀ i < 10, apdu[i]? = some (apdu.getD i 0) := fun i hi => getElem?_getD (by omega)
  have hshort : ¬ apdu.length < kBaseHeaderLen := Nat.not_lt.mpr (Nat.le_trans (by decide) hlong)
  have hroom : ¬ kBaseHeaderLen + 2 > apdu.length := Nat.not_lt.mpr hlong
  have hbit : (apdu.getD 0 0 &&& ((1 : UInt8) <<< 7) != 0) = true := bne_iff_ne.mpr hext
  have hclear : (apdu.getD 0 0 &&& ((1 : UInt8) <<< 5) != 0) = false := by
    rw [hsecurity]
    rfl
  have hgroup : ¬ apsDeliveryUnicast = apsDeliveryGroup := by decide
  have hdata : ¬ (0 : UInt8) ≠ apsFrameData := by decide
  simp only [parseDataFrame, if_neg hshort, read8_eq, hbyte 0 (by decide), Option.bind_eq_bind,
    Option.bind_some, hbit, hclear, htype, if_neg hdata, hmode, if_neg hgroup, if_true,
    Bool.false_eq_true, if_false, parseUnicast, hbyte 1 (by decide), h2, h4, hbyte 6 (by decide),
    hbyte 7 (by decide), parseExtension, if_neg hroom]
  simp only [kBaseHeaderLen, hbyte 8 (by decide), hbyte 9 (by decide), Option.bind_some]
  rfl

end

theorem slice_mod_length {apdu : List UInt8} {off : Nat} :
    (slice apdu off ((apdu.length - off) % 256)).length = (apdu.length - off) % 256 := by
  rw [slice, List.length_take, List.length_drop]
  exact Nat.min_eq_left (Nat.mod_le _ _)

/-- The parsers agree on an APDU unless it is shaped like a fragment and secured or not unicast. -/
theorem fragment_parsers_agree_iff (apdu : List UInt8) :
    FragmentParsersAgree apdu ↔
      (FragmentShaped apdu → PlainUnicast (apdu.getD 0 0)) := by
  constructor
  · rintro ⟨isFragment, info, isData, frame, hfragment, hdata, haccepts, hsame⟩ hshape
    rw [parseFragment_eq, if_pos hshape, Option.some.injEq, Prod.mk.injEq] at hfragment
    obtain ⟨rfl, rfl⟩ := hfragment
    obtain ⟨rfl, hext⟩ := haccepts.mp rfl
    obtain ⟨-, hplain | ⟨hlen, hpayload, hpayloadLen⟩⟩ := parseDataFrame_extended hdata hext
    · exact hplain
    -- The payloads of a group frame start a byte apart.
    have hbytes := congrArg List.length (hsame rfl).2.2.2.2.2.2.2
    simp only [ApsFragmentInfo.payloadBytes, fragmentInfo, ApsDataFrame.payloadBytes, hpayload,
      hpayloadLen, slice_mod_length, kHeaderLen, ZigbeeApsFragment.kBaseHeaderLen,
      kExtHeaderLen] at hbytes
    exact absurd hbytes (by omega)
  · intro hplain
    by_cases hshape : FragmentShaped apdu
    · refine ⟨true, fragmentInfo apdu, true, unicastFrame apdu, ?_,
        parseDataFrame_unicast hshape (hplain hshape), iff_of_true rfl ⟨rfl, rfl⟩, fun _ => ?_⟩
      · rw [parseFragment_eq, if_pos hshape]
      · exact ⟨rfl, rfl, rfl, rfl, rfl, rfl, rfl, rfl⟩
    · obtain ⟨⟨isData, frame⟩, hdata⟩ := parseDataFrame_isSome apdu
      refine ⟨false, {}, isData, frame, ?_, hdata, ?_, fun h => absurd h Bool.false_ne_true⟩
      · rw [parseFragment_eq, if_neg hshape]
      · refine iff_of_false Bool.false_ne_true ?_
        rintro ⟨rfl, hext⟩
        exact hshape (parseDataFrame_extended hdata hext).1

/-- A secured frame is a fragment to one parser and nothing to the other. -/
theorem secured_fragment_disagrees :
    ¬ FragmentParsersAgree [0xA0, 1, 6, 0, 4, 1, 1, 7, 1, 2, 0xAB] := by
  rintro ⟨isFragment, info, isData, frame, hfragment, hdata, haccepts, -⟩
  rw [show parseFragment [0xA0, 1, 6, 0, 4, 1, 1, 7, 1, 2, 0xAB] =
    some (true, fragmentInfo [0xA0, 1, 6, 0, 4, 1, 1, 7, 1, 2, 0xAB]) from rfl] at hfragment
  rw [show parseDataFrame [0xA0, 1, 6, 0, 4, 1, 1, 7, 1, 2, 0xAB] = some (false, {}) from rfl]
    at hdata
  cases hfragment
  cases hdata
  exact Bool.false_ne_true (haccepts.mp rfl).1

end NiusZigbee
