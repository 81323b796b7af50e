import NiusZigbee.Nwk.DataFrame
import NiusZigbee.Security.Aes128
import NiusZigbee.Security.OpenSecured
import NiusZigbee.Security.Replay

/-!
# Securing and opening at the driver's header length

The driver tells `ZigbeeSecurity` where the NWK header of a frame ends. Whatever the sender's side
secures under that length, a receiver with the key gets back byte for byte.
-/

namespace NiusZigbee.CC2530Radio

open ByteCodec OutBuffer ZigbeeSecurity

/-- NWK header length from the frame-control bits and the relay count, in `uint8_t`. -/
def nwkHeaderLength (npdu : List UInt8) : UInt8 :=
  if npdu.length < 8 then 8
  else
    let fcf := join16 (npdu.getD 0 0) (npdu.getD 1 0)
    let headerLen : UInt8 := 8
    let headerLen := if (fcf &&& ((1 : UInt16) <<< 11)) ≠ 0 then headerLen + 8 else headerLen
    let headerLen := if (fcf &&& ((1 : UInt16) <<< 12)) ≠ 0 then headerLen + 8 else headerLen
    let headerLen := if (fcf &&& ((1 : UInt16) <<< 8)) ≠ 0 then headerLen + 1 else headerLen
    if (fcf &&& ((1 : UInt16) <<< 10)) ≠ 0 ∧ npdu.length > headerLen.toNat then
      headerLen + (2 + npdu.getD headerLen.toNat 0 * 2)
    else headerLen

/-- The bits of the second byte that lengthen the header: multicast, source route, the two IEEE
addresses. -/
def headerBits : UInt8 := 0x1D

private theorem headerBit_zero {hi : UInt8} (h : hi &&& headerBits = 0) (lo : UInt8) :
    ∀ m ∈ [(0x01 : UInt8), 0x04, 0x08, 0x10], join16 lo hi &&& (m.toUInt16 <<< 8) = 0 := by
  have hall : ∀ i : Fin 256, UInt8.ofNat i.1 &&& headerBits = 0 →
      ∀ m ∈ [(0x01 : UInt8), 0x04, 0x08, 0x10],
        (UInt8.ofNat i.1 &&& m).toUInt16 <<< 8 = 0 := by decide +kernel
  have hi' : hi = UInt8.ofNat hi.toNat := by simp
  intro m hm
  rw [join16_and_high, hi']
  exact hall ⟨hi.toNat, hi.toNat_lt⟩ (hi' ▸ h) m hm

theorem nwkHeaderLength_plain {npdu : List UInt8} (h : npdu.getD 1 0 &&& headerBits = 0) :
    nwkHeaderLength npdu = 8 := by
  have hbit := headerBit_zero h (npdu.getD 0 0)
  have h8 : join16 (npdu.getD 0 0) (npdu.getD 1 0) &&& ((1 : UInt16) <<< 8) = 0 :=
    hbit 0x01 (by simp)
  have h10 : join16 (npdu.getD 0 0) (npdu.getD 1 0) &&& ((1 : UInt16) <<< 10) = 0 :=
    hbit 0x04 (by simp)
  have h11 : join16 (npdu.getD 0 0) (npdu.getD 1 0) &&& ((1 : UInt16) <<< 11) = 0 :=
    hbit 0x08 (by simp)
  have h12 : join16 (npdu.getD 0 0) (npdu.getD 1 0) &&& ((1 : UInt16) <<< 12) = 0 :=
    hbit 0x10 (by simp)
  simp only [nwkHeaderLength, h8, h10, h11, h12, ne_eq, not_true_eq_false, if_false, false_and]
  split <;> rfl

theorem nwkHeaderLength_sourceRouted {npdu : List UInt8} (hlen : 8 < npdu.length)
    (h : npdu.getD 1 0 &&& headerBits = 0x04) :
    nwkHeaderLength npdu = 10 + npdu.getD 8 0 * 2 := by
  have hall : ∀ i : Fin 256, UInt8.ofNat i.1 &&& headerBits = 0x04 →
      (UInt8.ofNat i.1 &&& 0x01).toUInt16 <<< 8 = 0 ∧
      (UInt8.ofNat i.1 &&& 0x04).toUInt16 <<< 8 ≠ 0 ∧
      (UInt8.ofNat i.1 &&& 0x08).toUInt16 <<< 8 = 0 ∧
      (UInt8.ofNat i.1 &&& 0x10).toUInt16 <<< 8 = 0 := by decide +kernel
  have hi : npdu.getD 1 0 = UInt8.ofNat (npdu.getD 1 0).toNat := by simp
  obtain ⟨h8, h10, h11, h12⟩ := hall ⟨(npdu.getD 1 0).toNat, (npdu.getD 1 0).toNat_lt⟩ (hi ▸ h)
  simp only [UInt8.ofNat_toNat, ← join16_and_high (npdu.getD 0 0)] at h8 h10 h11 h12
  change join16 _ _ &&& ((1 : UInt16) <<< 8) = 0 at h8
  change join16 _ _ &&& ((1 : UInt16) <<< 10) ≠ 0 at h10
  change join16 _ _ &&& ((1 : UInt16) <<< 11) = 0 at h11
  change join16 _ _ &&& ((1 : UInt16) <<< 12) = 0 at h12
  rw [nwkHeaderLength, if_neg (by omega)]
  simp only [h8, h10, h11, h12, ne_eq, not_true_eq_false, not_false_eq_true, if_false, true_and]
  rw [if_pos (by simpa using hlen), ← UInt8.add_assoc]
  rfl

/-- Securing a plain frame leaves its header length alone. -/
theorem nwkHeaderLength_secured {ecb : BlockCipher} {key : Block} {keySeq : UInt8}
    {npdu : List UInt8} {srcIeee : UInt64} {frameCounter : UInt32} (hlen : 8 ≤ npdu.length)
    (h : npdu.getD 1 0 &&& headerBits = 0) :
    nwkHeaderLength (securedBytes ecb key keySeq npdu 8 srcIeee frameCounter) = 8 := by
  apply nwkHeaderLength_plain
  obtain ⟨a, b, rest, rfl⟩ : ∃ a b rest, npdu = a :: b :: rest := by
    match npdu, hlen with
    | a :: b :: rest, _ => exact ⟨a, b, rest, rfl⟩
  have hall : ∀ i : Fin 256, UInt8.ofNat i.1 &&& headerBits = 0 →
      (UInt8.ofNat i.1 ||| 0x02) &&& headerBits = 0 := by decide +kernel
  have hb : b = UInt8.ofNat b.toNat := by simp
  have hset := hall ⟨b.toNat, b.toNat_lt⟩ (by simpa using h)
  simpa [securedBytes, setNwkSecurityBit] using hset

/-! ## The round trip -/

/-- The table lets a counter of the pair through when every entry of the pair lies below it. -/
theorem fresh_of_entries {table : ReplayTable} {k : ReplayKey} {counter : UInt32}
    (h : ∀ entry ∈ table.entries, entry.key = some k → entry.lastCounter < counter) :
    HighWater.Fresh table.mark k counter.toNat := by
  intro v hv
  simp only [ReplayTable.mark, ReplayTable.lookup, Option.map_eq_some_iff] at hv
  obtain ⟨entry, hlookup, rfl⟩ := hv
  exact h entry (SlotTable.lookup_mem hlookup) (SlotTable.lookup_key hlookup)

variable {ecb : BlockCipher} {tx rx : ZigbeeSecurity} {npdu : List UInt8} {srcIeee : UInt64}
  {frameCounter : UInt32} {outMax rxMax : UInt8}

/-- What `secureNpdu` made under the header length of the frame, `openNpdu` gives back. The header
length is 8 for a plain frame and `10 + 2 n` for one over `n` relays; the bound excludes the counts
for which it wraps. -/
theorem openNpdu_secureNpdu (hlen : npdu.length ≤ 237) (hclear : nwkSecurityBit npdu = false)
    (hheader : 8 ≤ nwkHeaderLength npdu)
    (hsecured : (tx.secureNpdu ecb npdu (nwkHeaderLength npdu).toNat srcIeee frameCounter
      outMax).2.len ≠ 0)
    (hholds : rx.Holds tx.key tx.keySequence)
    (hfresh : ∀ entry ∈ rx.replay.entries, entry.key = some (srcIeee, tx.keySequence) →
      entry.lastCounter < frameCounter)
    (hmax : npdu.length ≤ rxMax.toNat) :
    (rx.openNpdu ecb (tx.secureNpdu ecb npdu (nwkHeaderLength npdu).toNat srcIeee frameCounter
      outMax).2.bytes (nwkHeaderLength npdu).toNat rxMax).2 = .ok ⟨npdu, srcIeee⟩ := by
  have htotal : npdu.length + kAuxLen + kMicLen ≤ 255 := by
    simp only [kAuxLen, kMicLen]
    omega
  have hheader8 : 8 ≤ (nwkHeaderLength npdu).toNat := UInt8.le_iff_toNat_le.mp hheader
  obtain ⟨hkey, hfits⟩ := secureNpdu_fits htotal hsecured
  rw [secureNpdu_eq hkey hfits, Built.exact_bytes]
  have hauth : rx.authenticate ecb (securedBytes ecb tx.key tx.keySequence npdu
      (nwkHeaderLength npdu).toNat srcIeee frameCounter) (nwkHeaderLength npdu).toNat rxMax =
      .ok ⟨npdu, srcIeee, tx.keySequence, frameCounter⟩ :=
    authenticate_secured hholds.1 hholds.selectKey (by omega) hfits.header hfits.aad htotal hmax
      hclear
  rcases openNpdu_authentic hauth with ⟨-, hok, -⟩ | ⟨hstale, -⟩
  · exact hok
  · exact absurd (fresh_of_entries hfresh) hstale

private def samplePeer : ZigbeeSecurity :=
  (init.setNetworkKey (Block.ofList [0xA1, 0xA2]) 2).setAlternateKey (Block.ofList [0xB1, 0xB2]) 1

/-- A source-routed frame over one relay, to a receiver that has moved on to key 2. -/
theorem openNpdu_secureNpdu_one_relay :
    let npdu : List UInt8 :=
      [0x08, 0x04, 0x34, 0x12, 0x00, 0x00, 0x1E, 0x07, 1, 0, 0x78, 0x56, 0xAA]
    let tx := init.setNetworkKey (Block.ofList [0xB1, 0xB2]) 1
    (samplePeer.openNpdu Aes128.encrypt
      (tx.secureNpdu Aes128.encrypt npdu (nwkHeaderLength npdu).toNat 0x1122 7 134).2.bytes
      (nwkHeaderLength npdu).toNat 140).2 = .ok ⟨npdu, 0x1122⟩ :=
  openNpdu_secureNpdu (by decide) (by decide) (by decide) (by decide)
    ⟨rfl, Or.inr ⟨rfl, rfl, rfl, by decide⟩⟩ (by decide) (by decide)

end NiusZigbee.CC2530Radio
