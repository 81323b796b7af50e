import NiusZigbee.Nwk.Bounds
import NiusZigbee.Security.OpenSecured

/-!
# What NWK authentication covers

Two received frames give `openNpdu` the same nonce and authenticated data exactly when their headers
agree outside the relay index of a source route and the security level. A change of those two alone
is not seen.
-/

namespace NiusZigbee.ZigbeeSecurity

open ByteCodec ZigbeeNwk

/-! ## The relay index -/

/-- The frame-control word of a header. -/
def headerFcf (npdu : List UInt8) : NwkFcf := decodeFcf (join16 (npdu.getD 0 0) (npdu.getD 1 0))

/-- Where a source-routed header has its relay index: behind the fixed part, the IEEE addresses,
the multicast control and the relay count. -/
def relayIndexPos (fcf : NwkFcf) : Nat :=
  kBaseHeaderLen + (if fcf.dstIeeePresent then 8 else 0) + (if fcf.srcIeeePresent then 8 else 0) +
    (if fcf.multicast then 1 else 0) + 1

/-- Byte `i` is the relay index of a source-routed frame whose header has `headerLen` bytes. -/
def IsRelayIndex (npdu : List UInt8) (headerLen i : Nat) : Prop :=
  (headerFcf npdu).sourceRoute = true ∧ i = relayIndexPos (headerFcf npdu) ∧ i < headerLen

instance (npdu : List UInt8) (headerLen i : Nat) : Decidable (IsRelayIndex npdu headerLen i) :=
  inferInstanceAs (Decidable (_ ∧ _))

theorem srRelayIndexOffset_eq (npdu : List UInt8) (headerLen : Nat) :
    srRelayIndexOffset npdu headerLen =
      if (headerFcf npdu).sourceRoute = true ∧ relayIndexPos (headerFcf npdu) < headerLen then
        relayIndexPos (headerFcf npdu)
      else 0 := by
  obtain ⟨fcf, hfcf⟩ : ∃ fcf, join16 (npdu.getD 0 0) (npdu.getD 1 0) = fcf := ⟨_, rfl⟩
  simp only [srRelayIndexOffset, headerFcf, relayIndexPos, decodeFcf, fcfBit, kBaseHeaderLen, hfcf]
  by_cases hroute : fcf &&& ((1 : UInt16) <<< 10) = 0
  · simp [hroute]
  · by_cases hdst : fcf &&& ((1 : UInt16) <<< 11) = 0 <;>
      by_cases hsrc : fcf &&& ((1 : UInt16) <<< 12) = 0 <;>
      by_cases hmulticast : fcf &&& ((1 : UInt16) <<< 8) = 0 <;>
      simp [hroute, hdst, hsrc, hmulticast]

/-! ## Nonce and authenticated data -/

def openAux (npdu : List UInt8) (headerLen : Nat) : List UInt8 := slice npdu headerLen kAuxLen

def openControl (npdu : List UInt8) (headerLen : Nat) : UInt8 :=
  ((openAux npdu headerLen).getD 0 0 &&& ~~~0x07) ||| kLevel

/-- The nonce that `openNpdu` computes. -/
def openNonce (npdu : List UInt8) (headerLen : Nat) : List UInt8 :=
  nonce (join64 (slice (openAux npdu headerLen) 5 8)) (join32 (slice (openAux npdu headerLen) 1 4))
    (openControl npdu headerLen)

/-- The authenticated data that `openNpdu` computes. -/
def openAad (npdu : List UInt8) (headerLen : Nat) : List UInt8 :=
  authData (setNwkSecurityBit (npdu.take headerLen ++ openAux npdu headerLen) true) headerLen
    (openControl npdu headerLen)

/-- `openNpdu` checks the MIC with just these. -/
theorem authenticate_eq (ecb : BlockCipher) (s : ZigbeeSecurity) (npdu : List UInt8)
    (headerLen : Nat) (outMax : UInt8) :
    s.authenticate ecb npdu headerLen outMax =
      if !s.hasKey then .error .noKey
      else if !nwkSecurityBit npdu || npdu.length < headerLen + kAuxLen + kMicLen then
        .error .malformed
      else
        match s.selectKey ((openAux npdu headerLen).getD 13 0) with
        | none => .error .keySequence
        | some useKey =>
          let cipherLen := (npdu.length - headerLen - kAuxLen - kMicLen) % 256
          if outMax.toNat < (headerLen + cipherLen) % 256 then .error .outMax
          else
            let plain := CcmStar.ctr ecb useKey (openNonce npdu headerLen)
              (slice npdu (headerLen + kAuxLen) cipherLen)
            if (headerLen + kAuxLen) % 256 > kMaxAad then .error .aadTooLong
            else
              match CcmStar.ccmStarCrypt ecb useKey false kMicLen (openNonce npdu headerLen)
                  (openAad npdu headerLen) plain (some (npdu.drop (npdu.length - kMicLen))) with
              | none => .error .mic
              | some _ => .ok ⟨setNwkSecurityBit (npdu.take headerLen) false ++ plain,
                  join64 (slice (openAux npdu headerLen) 5 8), (openAux npdu headerLen).getD 13 0,
                  join32 (slice (openAux npdu headerLen) 1 4)⟩ := rfl

/-- A frame that `openNpdu` does not turn down for its shape. -/
def Shaped (npdu : List UInt8) (headerLen : Nat) : Prop :=
  nwkSecurityBit npdu = true ∧ headerLen + kAuxLen + kMicLen ≤ npdu.length

/-- The headers agree outside the relay index, and the security control outside its level. -/
def AgreeOutside (headerLen : Nat) (f g : List UInt8) : Prop :=
  ∀ i < headerLen + kAuxLen, ¬ IsRelayIndex f headerLen i →
    if i = headerLen then f.getD i 0 &&& ~~~0x07 = g.getD i 0 &&& ~~~0x07
    else f.getD i 0 = g.getD i 0

variable {f g : List UInt8} {headerLen : Nat}

private theorem control_byte (b : UInt8) :
    ((b &&& ~~~0x07) ||| kLevel) &&& ~~~0x07 = b &&& ~~~0x07 := by
  have hall : ∀ i : Fin 256, ((UInt8.ofNat i.1 &&& ~~~0x07) ||| kLevel) &&& ~~~0x07 =
      UInt8.ofNat i.1 &&& ~~~0x07 := by decide +kernel
  obtain ⟨i, rfl⟩ := exists_fin b.toNat_lt
  exact hall i

private theorem getD_of_getElem? {l l' : List UInt8} {i : Nat} (h : l[i]? = l'[i]?) :
    l.getD i 0 = l'.getD i 0 := by
  rw [List.getD_eq_getElem?_getD, List.getD_eq_getElem?_getD, h]

private theorem bit_set {b : UInt8} (h : b &&& 0x02 ≠ 0) : b ||| 0x02 = b := by
  have hall : ∀ i : Fin 256, UInt8.ofNat i.1 &&& 0x02 ≠ 0 →
      UInt8.ofNat i.1 ||| 0x02 = UInt8.ofNat i.1 := by decide +kernel
  obtain ⟨i, rfl⟩ := exists_fin b.toNat_lt
  exact hall i h

private theorem aad_buffer (h : Shaped f headerLen) :
    setNwkSecurityBit (f.take headerLen ++ openAux f headerLen) true =
      f.take (headerLen + kAuxLen) := by
  rw [openAux, slice, ← List.take_add]
  have hbit := h.1
  rcases f with _ | ⟨a, _ | ⟨b, rest⟩⟩
  · simp [nwkSecurityBit] at hbit
  · simp [nwkSecurityBit] at hbit
  · have hb : b &&& 0x02 ≠ 0 := by simpa [nwkSecurityBit] using hbit
    rw [show headerLen + kAuxLen = headerLen + 12 + 1 + 1 from rfl, List.take_succ_cons,
      List.take_succ_cons]
    simp only [setNwkSecurityBit, List.modify_succ_cons, List.modify_zero_cons, if_true,
      bit_set hb]

theorem relayIndexPos_ge (fcf : NwkFcf) : 9 ≤ relayIndexPos fcf := by
  simp only [relayIndexPos, kBaseHeaderLen]
  omega

/-- The substituted security control does not move the relay index. -/
private theorem relay_offset (f : List UInt8) (headerLen : Nat) (control : UInt8) :
    srRelayIndexOffset ((f.take (headerLen + kAuxLen)).set headerLen control) headerLen =
      if (headerFcf f).sourceRoute = true ∧ relayIndexPos (headerFcf f) < headerLen then
        relayIndexPos (headerFcf f)
      else 0 := by
  rw [srRelayIndexOffset_eq]
  by_cases htwo : 2 ≤ headerLen
  · have hbyte (i : Nat) (hi : i < 2) :
        ((f.take (headerLen + kAuxLen)).set headerLen control).getD i 0 = f.getD i 0 := by
      apply getD_of_getElem?
      rw [List.getElem?_set_ne (by omega), List.getElem?_take_of_lt (by omega)]
    have hfcf : headerFcf ((f.take (headerLen + kAuxLen)).set headerLen control) = headerFcf f := by
      rw [headerFcf, headerFcf, hbyte 0 (by omega), hbyte 1 (by omega)]
    rw [hfcf]
  · have hshort (fcf : NwkFcf) : ¬ relayIndexPos fcf < headerLen := by
      have := relayIndexPos_ge fcf
      omega
    rw [if_neg fun h => hshort _ h.2, if_neg fun h => hshort _ h.2]

theorem openAad_eq (h : Shaped f headerLen) :
    openAad f headerLen =
      let aad := (f.take (headerLen + kAuxLen)).set headerLen (openControl f headerLen)
      if (headerFcf f).sourceRoute = true ∧ relayIndexPos (headerFcf f) < headerLen then
        aad.set (relayIndexPos (headerFcf f)) 0
      else aad := by
  have hge := relayIndexPos_ge (headerFcf f)
  simp only [openAad, aad_buffer h, authData, relay_offset]
  by_cases hsr : (headerFcf f).sourceRoute = true ∧ relayIndexPos (headerFcf f) < headerLen
  · rw [if_pos hsr, if_pos hsr, if_pos (by omega)]
  · rw [if_neg hsr, if_neg hsr, if_neg (by simp)]

theorem openAad_length (h : Shaped f headerLen) :
    (openAad f headerLen).length = headerLen + kAuxLen := by
  have hlen := h.2
  rw [openAad_eq h]
  dsimp only
  split <;> simp only [List.length_set, List.length_take] <;> omega

/-- Byte by byte, the authenticated data are the header with these two substitutions. -/
theorem openAad_getElem? (h : Shaped f headerLen) {i : Nat} (hi : i < headerLen + kAuxLen) :
    (openAad f headerLen)[i]? =
      if IsRelayIndex f headerLen i then some 0
      else if i = headerLen then some (openControl f headerLen)
      else f[i]? := by
  have hlen := h.2
  have hsize : ((f.take (headerLen + kAuxLen)).set headerLen
      (openControl f headerLen)).length = headerLen + kAuxLen := by
    simp only [List.length_set, List.length_take]
    omega
  have hplain : ((f.take (headerLen + kAuxLen)).set headerLen (openControl f headerLen))[i]? =
      if i = headerLen then some (openControl f headerLen) else f[i]? := by
    by_cases hcontrol : i = headerLen
    · subst hcontrol
      rw [if_pos rfl, List.getElem?_set_self (by rw [List.length_take]; omega)]
    · rw [if_neg hcontrol, List.getElem?_set_ne (Ne.symm hcontrol),
        List.getElem?_take_of_lt hi]
  rw [openAad_eq h]
  dsimp only
  by_cases hsr : (headerFcf f).sourceRoute = true ∧ relayIndexPos (headerFcf f) < headerLen
  · rw [if_pos hsr]
    by_cases hindex : i = relayIndexPos (headerFcf f)
    · rw [if_pos ⟨hsr.1, hindex, by omega⟩, hindex, List.getElem?_set_self (by omega)]
    · rw [if_neg fun h => hindex h.2.1, List.getElem?_set_ne (Ne.symm hindex), hplain]
  · have hnot : ¬ IsRelayIndex f headerLen i := fun h => hsr ⟨h.1, h.2.1 ▸ h.2.2⟩
    rw [if_neg hsr, if_neg hnot, hplain]

/-! ## Two frames -/

private theorem relay_congr (h : ∀ i < 2, i < headerLen → f.getD i 0 = g.getD i 0) (j : Nat) :
    IsRelayIndex f headerLen j ↔ IsRelayIndex g headerLen j := by
  by_cases htwo : 2 ≤ headerLen
  · have hfcf : headerFcf f = headerFcf g := by
      rw [headerFcf, headerFcf, h 0 (by omega) (by omega), h 1 (by omega) (by omega)]
    simp only [IsRelayIndex, hfcf]
  · have hshort (npdu : List UInt8) : ¬ IsRelayIndex npdu headerLen j := by
      rintro ⟨-, rfl, hlt⟩
      have := relayIndexPos_ge (headerFcf npdu)
      omega
    exact iff_of_false (hshort f) (hshort g)

private theorem not_relay {i : Nat} (h : i < 9 ∨ headerLen ≤ i) :
    ¬ IsRelayIndex f headerLen i := by
  rintro ⟨-, rfl, hlt⟩
  have := relayIndexPos_ge (headerFcf f)
  omega

private theorem openAux_getD (f : List UInt8) (headerLen : Nat) {i : Nat} (hi : i < kAuxLen) :
    (openAux f headerLen).getD i 0 = f.getD (headerLen + i) 0 := by
  rw [openAux, slice, List.getD_eq_getElem?_getD, List.getElem?_take_of_lt hi, List.getElem?_drop,
    ← List.getD_eq_getElem?_getD]

theorem openControl_masked (f : List UInt8) (headerLen : Nat) :
    openControl f headerLen &&& ~~~0x07 = f.getD headerLen 0 &&& ~~~0x07 := by
  rw [openControl, openAux_getD f headerLen (by decide), control_byte, Nat.add_zero]

private theorem getElem?_of_getD {i : Nat} (hf : i < f.length) (hg : i < g.length)
    (h : f.getD i 0 = g.getD i 0) : f[i]? = g[i]? := by
  rw [List.getElem?_eq_getElem hf, List.getElem?_eq_getElem hg]
  simpa [List.getD_eq_getElem?_getD, hf, hg] using h

private theorem openControl_eq (h : AgreeOutside headerLen f g) :
    openControl f headerLen = openControl g headerLen := by
  have := h headerLen (by simp only [kAuxLen]; omega) (not_relay (by omega))
  rw [if_pos rfl] at this
  rw [openControl, openControl, openAux_getD f headerLen (by decide),
    openAux_getD g headerLen (by decide), Nat.add_zero, this]

/-- Equal authenticated data are equal headers, outside what was substituted. -/
theorem openAad_eq_iff (hf : Shaped f headerLen) (hg : Shaped g headerLen) :
    openAad f headerLen = openAad g headerLen ↔ AgreeOutside headerLen f g := by
  have hflen := hf.2
  have hglen := hg.2
  constructor
  · intro h
    have hbyte {i : Nat} (hi : i < headerLen + kAuxLen) :
        (if IsRelayIndex f headerLen i then some 0
          else if i = headerLen then some (openControl f headerLen) else f[i]?) =
        if IsRelayIndex g headerLen i then some 0
          else if i = headerLen then some (openControl g headerLen) else g[i]? := by
      rw [← openAad_getElem? hf hi, ← openAad_getElem? hg hi, h]
    have hfirst (i : Nat) (htwo : i < 2) (hi : i < headerLen) : f.getD i 0 = g.getD i 0 := by
      have := hbyte (by omega : i < headerLen + kAuxLen)
      rw [if_neg (not_relay (by omega)), if_neg (not_relay (by omega)), if_neg (by omega),
        if_neg (by omega)] at this
      exact getD_of_getElem? this
    intro i hi hrelay
    have hrelay' : ¬ IsRelayIndex g headerLen i := fun h => hrelay ((relay_congr hfirst i).mpr h)
    have hi' := hbyte hi
    rw [if_neg hrelay, if_neg hrelay'] at hi'
    by_cases hcontrol : i = headerLen
    · rw [if_pos hcontrol, if_pos hcontrol, Option.some.injEq] at hi'
      rw [if_pos hcontrol, hcontrol, ← openControl_masked, ← openControl_masked, hi']
    · rw [if_neg hcontrol, if_neg hcontrol] at hi'
      rw [if_neg hcontrol]
      exact getD_of_getElem? hi'
  · intro h
    have hfirst (i : Nat) (htwo : i < 2) (hi : i < headerLen) : f.getD i 0 = g.getD i 0 := by
      have := h i (by omega) (not_relay (by omega))
      rwa [if_neg (by omega)] at this
    apply List.ext_getElem?
    intro i
    by_cases hi : i < headerLen + kAuxLen
    · rw [openAad_getElem? hf hi, openAad_getElem? hg hi]
      by_cases hrelay : IsRelayIndex f headerLen i
      · rw [if_pos hrelay, if_pos ((relay_congr hfirst i).mp hrelay)]
      · have hi' := h i hi hrelay
        rw [if_neg hrelay, if_neg fun h => hrelay ((relay_congr hfirst i).mpr h)]
        by_cases hcontrol : i = headerLen
        · rw [if_pos hcontrol, if_pos hcontrol, openControl_eq h]
        · rw [if_neg hcontrol] at hi'
          rw [if_neg hcontrol, if_neg hcontrol]
          exact getElem?_of_getD (by omega) (by omega) hi'
    · rw [List.getElem?_eq_none (by rw [openAad_length hf]; omega),
        List.getElem?_eq_none (by rw [openAad_length hg]; omega)]

section Agree

variable (hf : Shaped f headerLen) (hg : Shaped g headerLen) (h : AgreeOutside headerLen f g)
include hf hg h

private theorem aux_tail : (openAux f headerLen).drop 1 = (openAux g headerLen).drop 1 := by
  have hflen := hf.2
  have hglen := hg.2
  apply List.ext_getElem?
  intro i
  rw [openAux, openAux, List.getElem?_drop, List.getElem?_drop]
  by_cases hi : 1 + i < kAuxLen
  · simp only [slice, List.getElem?_take_of_lt hi, List.getElem?_drop]
    have := h (headerLen + (1 + i)) (by omega) (not_relay (by omega))
    rw [if_neg (by omega)] at this
    exact getElem?_of_getD (by omega) (by omega) this
  · rw [List.getElem?_eq_none (by rw [slice, List.length_take]; omega),
      List.getElem?_eq_none (by rw [slice, List.length_take]; omega)]

private theorem aux_fields_eq :
    slice (openAux f headerLen) 5 8 = slice (openAux g headerLen) 5 8 ∧
      slice (openAux f headerLen) 1 4 = slice (openAux g headerLen) 1 4 ∧
      (openAux f headerLen).getD 13 0 = (openAux g headerLen).getD 13 0 := by
  have htail := aux_tail hf hg h
  have hcut (npdu : List UInt8) (off len : Nat) :
      slice (openAux npdu headerLen) (1 + off) len =
        slice ((openAux npdu headerLen).drop 1) off len := by
    rw [slice, slice, List.drop_drop]
  refine ⟨?_, ?_, ?_⟩
  · rw [hcut f 4 8, hcut g 4 8, htail]
  · rw [hcut f 0 4, hcut g 0 4, htail]
  · have hlast := congrArg (fun l : List UInt8 => l[12]?) htail
    simp only [List.getElem?_drop] at hlast
    exact getD_of_getElem? hlast

theorem openNonce_eq : openNonce f headerLen = openNonce g headerLen := by
  obtain ⟨hieee, hcounter, -⟩ := aux_fields_eq hf hg h
  rw [openNonce, openNonce, hieee, hcounter, openControl_eq h]

end Agree

/-- What a frame that passed authentication says, without its header. -/
def Authentic.content (headerLen : Nat) (frame : Authentic) :
    List UInt8 × UInt64 × UInt8 × UInt32 :=
  (frame.npdu.drop headerLen, frame.srcIeee, frame.keySeq, frame.frameCounter)

/-- What opening a frame hands back, without its header. -/
def Opened.content (headerLen : Nat) (opened : Opened) : List UInt8 × UInt64 :=
  (opened.npdu.drop headerLen, opened.senderIeee)

/-- Frames with the same header outside what is substituted, and the same bytes behind it, fare
alike. -/
theorem authenticate_congr (hf : Shaped f headerLen) (hg : Shaped g headerLen)
    (h : AgreeOutside headerLen f g)
    (hrest : f.drop (headerLen + kAuxLen) = g.drop (headerLen + kAuxLen)) (ecb : BlockCipher)
    (s : ZigbeeSecurity) (outMax : UInt8) :
    (s.authenticate ecb f headerLen outMax).map (Authentic.content headerLen) =
      (s.authenticate ecb g headerLen outMax).map (Authentic.content headerLen) := by
  obtain ⟨hieee, hcounter, hseq⟩ := aux_fields_eq hf hg h
  have hlen : f.length = g.length := by
    have := congrArg List.length hrest
    simp only [List.length_drop] at this
    have := hf.2
    have := hg.2
    omega
  have hcipher (n : Nat) :
      slice f (headerLen + kAuxLen) n = slice g (headerLen + kAuxLen) n := by
    rw [slice, slice, hrest]
  have hmic : f.drop (g.length - kMicLen) = g.drop (g.length - kMicLen) := by
    have := hg.2
    obtain ⟨k, hk⟩ : ∃ k, g.length - kMicLen = headerLen + kAuxLen + k :=
      ⟨g.length - kMicLen - (headerLen + kAuxLen), by omega⟩
    have hdrop (l : List UInt8) :
        l.drop (headerLen + kAuxLen + k) = (l.drop (headerLen + kAuxLen)).drop k := by
      rw [List.drop_drop]
    rw [hk, hdrop, hdrop, hrest]
  have hplain (npdu plain : List UInt8) (hshaped : Shaped npdu headerLen) :
      (setNwkSecurityBit (npdu.take headerLen) false ++ plain).drop headerLen = plain := by
    have := hshaped.2
    apply List.drop_left'
    rw [setNwkSecurityBit_length, List.length_take]
    omega
  rw [authenticate_eq, authenticate_eq]
  simp only [hf.1, hg.1, hlen, hseq, hieee, hcounter, openNonce_eq hf hg h,
    (openAad_eq_iff hf hg).mpr h, hcipher, hmic]
  split
  · rfl
  split
  · rfl
  split
  · rfl
  split
  · rfl
  split
  · rfl
  split
  · rfl
  · simp only [Except.map, Authentic.content, hplain f _ hf, hplain g _ hg]

/-- Nonce and authenticated data of two received frames are the same exactly when their headers
agree outside the relay index and the security level; so a change of those two alone changes neither
whether a frame authenticates nor what it decrypts to. -/
theorem authentication_covers (headerLen : Nat) (f g : List UInt8) (hf : Shaped f headerLen)
    (hg : Shaped g headerLen) :
    (openNonce f headerLen = openNonce g headerLen ∧ openAad f headerLen = openAad g headerLen ↔
      AgreeOutside headerLen f g) ∧
    (AgreeOutside headerLen f g →
      f.drop (headerLen + kAuxLen) = g.drop (headerLen + kAuxLen) →
      ∀ (ecb : BlockCipher) (s : ZigbeeSecurity) (outMax : UInt8),
        (s.authenticate ecb f headerLen outMax).map (Authentic.content headerLen) =
          (s.authenticate ecb g headerLen outMax).map (Authentic.content headerLen) ∧
        (s.openNpdu ecb f headerLen outMax).1 = (s.openNpdu ecb g headerLen outMax).1 ∧
        (s.openNpdu ecb f headerLen outMax).2.map (Opened.content headerLen) =
          (s.openNpdu ecb g headerLen outMax).2.map (Opened.content headerLen)) := by
  refine ⟨⟨fun h => (openAad_eq_iff hf hg).mp h.2,
    fun h => ⟨openNonce_eq hf hg h, (openAad_eq_iff hf hg).mpr h⟩⟩, ?_⟩
  intro h hrest ecb s outMax
  have hcongr := authenticate_congr hf hg h hrest ecb s outMax
  refine ⟨hcongr, ?_⟩
  simp only [openNpdu]
  cases hauth : s.authenticate ecb f headerLen outMax with
  | error e =>
    cases hauth' : s.authenticate ecb g headerLen outMax with
    | error e' =>
      rw [hauth, hauth'] at hcongr
      obtain rfl : e = e' := Except.error.inj hcongr
      exact ⟨rfl, rfl⟩
    | ok b =>
      rw [hauth, hauth'] at hcongr
      cases hcongr
  | ok a =>
    cases hauth' : s.authenticate ecb g headerLen outMax with
    | error e' =>
      rw [hauth, hauth'] at hcongr
      cases hcongr
    | ok b =>
      rw [hauth, hauth'] at hcongr
      have hcontent := Except.ok.inj hcongr
      simp only [Authentic.content, Prod.mk.injEq] at hcontent
      obtain ⟨hpayload, hieee, hseq, hcounter⟩ := hcontent
      dsimp only
      rw [hieee, hseq, hcounter]
      split
      · exact ⟨rfl, rfl⟩
      · exact ⟨rfl, rfl⟩
      · exact ⟨rfl, congrArg Except.ok (Prod.ext hpayload rfl)⟩

/-- A frame and what the next relay makes of it: the index moved on, the level rewritten. -/
theorem authentication_covers_relayed :
    let hdr (relayIndex : UInt8) : List UInt8 :=
      [0x08, 0x06, 0x01, 0x00, 0x02, 0x00, 0x1E, 0x07, 0x02, relayIndex, 0x11, 0x11, 0x22, 0x22]
    let frame (relayIndex control : UInt8) : List UInt8 :=
      hdr relayIndex ++ control :: List.replicate 13 0x00 ++ [0xAA, 0xBB, 0xCC, 0xDD, 0xEE]
    (openNonce (frame 0 0x28) 14 = openNonce (frame 1 0x2D) 14 ∧
      openAad (frame 0 0x28) 14 = openAad (frame 1 0x2D) 14) ∧
    ∀ (ecb : BlockCipher) (s : ZigbeeSecurity) (outMax : UInt8),
      (s.openNpdu ecb (frame 0 0x28) 14 outMax).1 =
        (s.openNpdu ecb (frame 1 0x2D) 14 outMax).1 := by
  intro hdr frame
  have hagree : AgreeOutside 14 (frame 0 0x28) (frame 1 0x2D) := by
    unfold AgreeOutside
    decide
  have h := authentication_covers 14 (frame 0 0x28) (frame 1 0x2D) ⟨by decide, by decide⟩
    ⟨by decide, by decide⟩
  exact ⟨h.1.mpr hagree, fun ecb s outMax => (h.2 hagree rfl ecb s outMax).2.1⟩

end NiusZigbee.ZigbeeSecurity
