import NiusZigbee.GreenPower.Gpdf

/-!
# The header of a Green Power data frame

Frame control, an extension if the frame control says so, source id, and from security level 2 on a
frame counter. The body behind it is a command in clear at level 0, and not looked into otherwise.
-/

namespace NiusZigbee.ZigbeeGreenPower

open ByteCodec

def extended (gpdf : List UInt8) : Bool := (gpdf.getD 0 0 &&& kNwkFcExtension) != 0

def extensionOf (gpdf : List UInt8) : UInt8 := if extended gpdf then gpdf.getD 1 0 else 0

def levelOf (gpdf : List UInt8) : UInt8 := (extensionOf gpdf >>> 3) &&& 0x03

def rxAfterTxOf (gpdf : List UInt8) : Bool := (extensionOf gpdf &&& 0x40) != 0

def Counted (gpdf : List UInt8) : Prop := levelOf gpdf ≥ gpSecFcMic

instance (gpdf : List UInt8) : Decidable (Counted gpdf) :=
  inferInstanceAs (Decidable (levelOf gpdf ≥ gpSecFcMic))

def sourceAt (gpdf : List UInt8) : Nat := if extended gpdf then 2 else 1

def sourceOf (gpdf : List UInt8) : UInt32 := join32 (slice gpdf (sourceAt gpdf) 4)

def counterOf (gpdf : List UInt8) : UInt32 :=
  if Counted gpdf then join32 (slice gpdf (sourceAt gpdf + 4) 4) else 0

def headerEnd (gpdf : List UInt8) : Nat :=
  if Counted gpdf then sourceAt gpdf + 4 + 4 else sourceAt gpdf + 4

def body (gpdf : List UInt8) : List UInt8 := gpdf.drop (headerEnd gpdf)

/-- The frames that are parsed: of the version and the addressing of Green Power, the header in
full, and in clear a command that fits. -/
def Parsable (gpdf : List UInt8) : Prop :=
  6 ≤ gpdf.length ∧ (gpdf.getD 0 0 >>> 2) &&& 0x0F = kGpProtocolVersion ∧
    extensionOf gpdf &&& 0x07 = 0 ∧ headerEnd gpdf ≤ gpdf.length ∧
    (levelOf gpdf = gpSecNone → 1 ≤ (body gpdf).length ∧ (body gpdf).length ≤ 1 + kMaxPayload)

instance (gpdf : List UInt8) : Decidable (Parsable gpdf) :=
  inferInstanceAs (Decidable (_ ∧ _ ∧ _ ∧ _ ∧ (_ → _)))

/-- What a frame that is parsed says. -/
def frameOf (gpdf : List UInt8) : GpdfFrame where
  valid := true
  securityLevel := levelOf gpdf
  rxAfterTx := rxAfterTxOf gpdf
  srcId := sourceOf gpdf
  frameCounter := counterOf gpdf
  commandId := if levelOf gpdf = gpSecNone then (body gpdf).getD 0 0 else 0
  payload := if levelOf gpdf = gpSecNone then (body gpdf).drop 1 else []

variable {gpdf : List UInt8}

theorem parse_eq (gpdf : List UInt8) :
    parse gpdf =
      if 6 ≤ gpdf.length ∧ (gpdf.getD 0 0 >>> 2) &&& 0x0F = kGpProtocolVersion then
        parseFrom gpdf (sourceAt gpdf) (extensionOf gpdf)
      else (false, {}) := by
  unfold parse
  dsimp only
  by_cases hshort : gpdf.length < 6
  · rw [if_pos hshort, if_neg fun h => absurd h.1 (Nat.not_le.mpr hshort)]
  rw [if_neg hshort]
  by_cases hversion : (gpdf.getD 0 0 >>> 2) &&& 0x0F = kGpProtocolVersion
  swap
  · rw [if_pos hversion, if_neg fun h => hversion h.2]
  have hbegin : 6 ≤ gpdf.length ∧ (gpdf.getD 0 0 >>> 2) &&& 0x0F = kGpProtocolVersion :=
    ⟨Nat.not_lt.mp hshort, hversion⟩
  rw [if_neg (not_not_intro hversion), if_pos hbegin]
  by_cases hext : gpdf.getD 0 0 &&& kNwkFcExtension = 0
  · have hextended : extended gpdf = false := by simpa [extended] using hext
    rw [if_neg (not_not_intro hext), sourceAt, extensionOf, hextended]
    rfl
  · have hextended : extended gpdf = true := by simpa [extended] using hext
    rw [if_pos hext, sourceAt, extensionOf, hextended]
    rfl

private theorem headerEnd_eq (gpdf : List UInt8) :
    headerEnd gpdf = if Counted gpdf then sourceAt gpdf + 4 + 4 else sourceAt gpdf + 4 := rfl

theorem parseFrom_address (h : extensionOf gpdf &&& 0x07 ≠ 0) :
    (parseFrom gpdf (sourceAt gpdf) (extensionOf gpdf)).1 = false := by
  unfold parseFrom
  dsimp only
  rw [if_pos h]

theorem parseFrom_cut (h : gpdf.length < headerEnd gpdf) :
    (parseFrom gpdf (sourceAt gpdf) (extensionOf gpdf)).1 = false := by
  have hcounted : (levelOf gpdf ≥ gpSecFcMic) = Counted gpdf := rfl
  have hlevel : (extensionOf gpdf >>> 3) &&& 0x03 = levelOf gpdf := rfl
  unfold parseFrom
  dsimp only
  simp only [hlevel, hcounted]
  split
  · rfl
  split
  · rfl
  next hsource =>
  have hcut : Counted gpdf ∧ sourceAt gpdf + 4 + 4 > gpdf.length := by
    rw [headerEnd_eq] at h
    split at h
    · next hc => exact ⟨hc, h⟩
    · exact absurd h hsource
  rw [if_pos hcut]

/-- With address and header in order, it comes down to the command in clear. -/
theorem parseFrom_complete (happ : extensionOf gpdf &&& 0x07 = 0)
    (hheader : headerEnd gpdf ≤ gpdf.length) :
    (parseFrom gpdf (sourceAt gpdf) (extensionOf gpdf)).1 =
        decide (levelOf gpdf = gpSecNone →
          1 ≤ (body gpdf).length ∧ (body gpdf).length ≤ 1 + kMaxPayload) ∧
      ((parseFrom gpdf (sourceAt gpdf) (extensionOf gpdf)).1 = true →
        (parseFrom gpdf (sourceAt gpdf) (extensionOf gpdf)).2 = frameOf gpdf) := by
  have hcounted : (levelOf gpdf ≥ gpSecFcMic) = Counted gpdf := rfl
  have hlevel : (extensionOf gpdf >>> 3) &&& 0x03 = levelOf gpdf := rfl
  have hbody : (body gpdf).length = gpdf.length - headerEnd gpdf := List.length_drop
  have hsource : ¬ sourceAt gpdf + 4 > gpdf.length := by
    rw [headerEnd_eq] at hheader
    split at hheader <;> omega
  have hfull : ¬ (Counted gpdf ∧ sourceAt gpdf + 4 + 4 > gpdf.length) := by
    rintro ⟨hc, hcut⟩
    rw [headerEnd_eq, if_pos hc] at hheader
    omega
  unfold parseFrom
  dsimp only
  simp only [hlevel, hcounted, ← headerEnd_eq]
  rw [if_neg (not_not_intro happ), if_neg hsource, if_neg hfull]
  by_cases hclear : levelOf gpdf = gpSecNone
  swap
  · rw [if_pos hclear, frameOf, if_neg hclear, if_neg hclear, happ]
    refine ⟨?_, fun _ => rfl⟩
    exact (decide_eq_true fun h => absurd h hclear).symm
  rw [if_neg (not_not_intro hclear)]
  by_cases hempty : headerEnd gpdf ≥ gpdf.length
  · rw [if_pos hempty]
    refine ⟨(decide_eq_false fun h => ?_).symm, fun h => absurd h Bool.false_ne_true⟩
    have hsome := (h hclear).1
    omega
  rw [if_neg hempty]
  by_cases hlong : gpdf.length - (headerEnd gpdf + 1) > kMaxPayload
  · rw [if_pos hlong]
    refine ⟨(decide_eq_false fun h => ?_).symm, fun h => absurd h Bool.false_ne_true⟩
    have hfits := (h hclear).2
    omega
  rw [if_neg hlong]
  have hcommand : gpdf.getD (headerEnd gpdf) 0 = (body gpdf).getD 0 0 := by
    simp [body, List.getD_eq_getElem?_getD]
  have hpayload : gpdf.drop (headerEnd gpdf + 1) = (body gpdf).drop 1 := by
    rw [body, List.drop_drop]
  refine ⟨(decide_eq_true fun _ => by omega).symm, fun _ => ?_⟩
  rw [frameOf, if_pos hclear, if_pos hclear, happ, hcommand, hpayload]
  rfl

/-- The parser accepts what is parsable, and fills in the frame from it. -/
theorem parse_parsable (gpdf : List UInt8) :
    (Parsable gpdf → parse gpdf = (true, frameOf gpdf)) ∧
      (¬ Parsable gpdf → (parse gpdf).1 = false) := by
  rw [parse_eq]
  by_cases hbegin : 6 ≤ gpdf.length ∧ (gpdf.getD 0 0 >>> 2) &&& 0x0F = kGpProtocolVersion
  swap
  · rw [if_neg hbegin]
    exact ⟨fun h => absurd ⟨h.1, h.2.1⟩ hbegin, fun _ => rfl⟩
  rw [if_pos hbegin]
  by_cases happ : extensionOf gpdf &&& 0x07 = 0
  swap
  · exact ⟨fun h => absurd h.2.2.1 happ, fun _ => parseFrom_address happ⟩
  by_cases hheader : headerEnd gpdf ≤ gpdf.length
  swap
  · exact ⟨fun h => absurd h.2.2.2.1 hheader, fun _ => parseFrom_cut (Nat.not_le.mp hheader)⟩
  obtain ⟨haccepted, hframe⟩ := parseFrom_complete happ hheader
  constructor
  · intro h
    have htrue : (parseFrom gpdf (sourceAt gpdf) (extensionOf gpdf)).1 = true := by
      rw [haccepted]
      exact decide_eq_true h.2.2.2.2
    exact Prod.ext htrue (hframe htrue)
  · intro h
    rw [haccepted]
    exact decide_eq_false fun hclear => h ⟨hbegin.1, hbegin.2, happ, hheader, hclear⟩

theorem headerEnd_encrypted (h : levelOf gpdf = gpSecEncFcMic) : headerEnd gpdf = 10 := by
  have hcounted : Counted gpdf := by
    rw [Counted, h]
    decide
  have hextended : extended gpdf = true := by
    by_contra hnot
    rw [levelOf, extensionOf, if_neg hnot] at h
    exact absurd h (by decide)
  rw [headerEnd, if_pos hcounted, sourceAt, if_pos hextended]

end NiusZigbee.ZigbeeGreenPower
