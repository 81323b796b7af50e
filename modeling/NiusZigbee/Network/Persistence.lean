import NiusZigbee.Library.Crc
import NiusZigbee.Library.OutBuffer
import Mathlib.Data.List.Iterate

/-!
# Persisted network state

The state is saved in 37 bytes, with a magic word in front and a checksum behind. The checksum is
stored least significant byte first, against the order in which it is computed, and one error
across its edge goes unseen.
-/

namespace NiusZigbee

open ByteCodec OutBuffer

structure ZigbeePersistentState where
  panId : UInt16 := 0
  extendedPanId : UInt64 := 0
  channel : UInt8 := 0
  nwkAddress : UInt16 := 0
  parentAddress : UInt16 := 0
  depth : UInt8 := 0
  deviceType : UInt8 := 0
  ieeeAddress : UInt64 := 0
  outgoingFrameCounter : UInt32 := 0
  keySequence : UInt8 := 0
deriving DecidableEq, Repr

namespace ZigbeePersistence

def kMagic : UInt32 := 0x4E5A4231

def kVersion : UInt8 := 1

def kBlobSize : ℕ := 37

def shift : UInt16 → UInt16 := Crc.feedback (· <<< 1) 0x8000 0x1021

def load (b : UInt8) : UInt16 := b.toUInt16 <<< 8

def crc16 (bytes : List UInt8) : UInt16 := Crc.run shift load 0xFFFF bytes

/-- The bytes before the checksum. -/
def fields (s : ZigbeePersistentState) : List UInt8 :=
  le32 kMagic ++ [kVersion] ++ le16 s.panId ++ le64 s.extendedPanId ++ [s.channel] ++
    le16 s.nwkAddress ++ le16 s.parentAddress ++ [s.depth] ++ [s.deviceType] ++
    le64 s.ieeeAddress ++ le32 s.outgoingFrameCounter ++ [s.keySequence]

def blob (s : ZigbeePersistentState) : List UInt8 := fields s ++ le16 (crc16 (fields s))

def serialize (s : ZigbeePersistentState) (outMax : UInt8) : Built :=
  if outMax.toNat < kBlobSize then .fail else .exact (blob s)

/-- The result and what is left in the state. -/
def deserialize (bytes : List UInt8) : Option (Bool × ZigbeePersistentState) :=
  if bytes.length < kBlobSize then some (false, {})
  else do
    let magic ← readBytes bytes 0 4
    if join32 magic ≠ kMagic then return (false, {})
    else
      let version ← read8 bytes 4
      if version ≠ kVersion then return (false, {})
      else
        let storedCrc ← read16 bytes (kBlobSize - 2)
        let body ← readBytes bytes 0 (kBlobSize - 2)
        if crc16 body ≠ storedCrc then return (false, {})
        else
          return (true,
            { panId := ← read16 bytes 5
              extendedPanId := ← read64 bytes 7
              channel := ← read8 bytes 15
              nwkAddress := ← read16 bytes 16
              parentAddress := ← read16 bytes 18
              depth := ← read8 bytes 20
              deviceType := ← read8 bytes 21
              ieeeAddress := ← read64 bytes 22
              outgoingFrameCounter := join32 (← readBytes bytes 30 4)
              keySequence := ← read8 bytes 34 })

/-! ## What is read back -/

/-- The state in a blob. -/
def stateOf (bytes : List UInt8) : ZigbeePersistentState where
  panId := join16 (bytes.getD 5 0) (bytes.getD 6 0)
  extendedPanId := join64 (slice bytes 7 8)
  channel := bytes.getD 15 0
  nwkAddress := join16 (bytes.getD 16 0) (bytes.getD 17 0)
  parentAddress := join16 (bytes.getD 18 0) (bytes.getD 19 0)
  depth := bytes.getD 20 0
  deviceType := bytes.getD 21 0
  ieeeAddress := join64 (slice bytes 22 8)
  outgoingFrameCounter := join32 (slice bytes 30 4)
  keySequence := bytes.getD 34 0

/-- The three checks. -/
structure Valid (bytes : List UInt8) : Prop where
  magic : join32 (slice bytes 0 4) = kMagic
  version : bytes.getD 4 0 = kVersion
  crc : crc16 (bytes.take 35) = join16 (bytes.getD 35 0) (bytes.getD 36 0)

theorem deserialize_valid {bytes : List UInt8} (hlen : bytes.length = kBlobSize)
    (h : Valid bytes) : deserialize bytes = some (true, stateOf bytes) := by
  rw [kBlobSize] at hlen
  have hbody : crc16 (slice bytes 0 35) = join16 (bytes.getD 35 0) (bytes.getD 36 0) := h.crc
  simp only [deserialize, kBlobSize, readBytes, read8_eq, read64, hlen, if_true, Nat.lt_irrefl,
    if_false, Nat.zero_add, Nat.reduceAdd, Nat.reduceSub, Nat.reduceLeDiff,
    read16_getD (show 5 + 1 < bytes.length by omega),
    read16_getD (show 16 + 1 < bytes.length by omega),
    read16_getD (show 18 + 1 < bytes.length by omega),
    read16_getD (show 35 + 1 < bytes.length by omega),
    getElem?_getD (show 4 < bytes.length by omega),
    getElem?_getD (show 15 < bytes.length by omega),
    getElem?_getD (show 20 < bytes.length by omega),
    getElem?_getD (show 21 < bytes.length by omega),
    getElem?_getD (show 34 < bytes.length by omega),
    Option.bind_eq_bind, Option.bind_some, h.magic, h.version, hbody, ne_eq, not_true_eq_false]
  rfl

theorem deserialize_invalid {bytes : List UInt8} (hlen : bytes.length = kBlobSize)
    (h : ¬ Valid bytes) : deserialize bytes = some (false, {}) := by
  rw [kBlobSize] at hlen
  simp only [deserialize, kBlobSize, readBytes, read8_eq, hlen, if_true, Nat.lt_irrefl,
    if_false, Nat.zero_add, Nat.reduceSub, Nat.reduceLeDiff,
    read16_getD (show 35 + 1 < bytes.length by omega),
    getElem?_getD (show 4 < bytes.length by omega), Option.bind_eq_bind, Option.bind_some, ne_eq]
  by_cases hmagic : join32 (slice bytes 0 4) = kMagic
  · by_cases hversion : bytes.getD 4 0 = kVersion
    · have hcrc : crc16 (slice bytes 0 35) ≠ join16 (bytes.getD 35 0) (bytes.getD 36 0) :=
        fun hcrc => h ⟨hmagic, hversion, hcrc⟩
      simp only [hmagic, hversion, hcrc, not_true_eq_false, not_false_eq_true, if_false, if_true]
      rfl
    · simp only [hmagic, hversion, not_true_eq_false, not_false_eq_true, if_false, if_true]
      rfl
  · simp only [hmagic, not_false_eq_true, if_true]
    rfl

theorem fields_length (s : ZigbeePersistentState) : (fields s).length = 35 := by
  simp only [fields, List.length_append, le16_length, le32_length, le64_length,
    List.length_singleton]

theorem blob_length (s : ZigbeePersistentState) : (blob s).length = kBlobSize := by
  rw [blob, List.length_append, fields_length, le16_length, kBlobSize]

theorem stateOf_fields (s : ZigbeePersistentState) (crc : List UInt8) :
    stateOf (fields s ++ crc) = s := by
  have hmiddle : ∀ pre bs post : List UInt8,
      slice (pre ++ (bs ++ post)) pre.length bs.length = bs := by
    intro pre bs post
    rw [← List.append_assoc, slice_append_left _ (by rw [List.length_append]), slice_append]
  have hextended : slice (fields s ++ crc) 7 8 = le64 s.extendedPanId := by
    have h := hmiddle (le32 kMagic ++ [kVersion] ++ le16 s.panId) (le64 s.extendedPanId)
    simp only [List.length_append, le32_length, le16_length, le64_length, List.length_singleton,
      Nat.reduceAdd, List.append_assoc] at h
    simp only [fields, List.append_assoc]
    exact h _
  have hieee : slice (fields s ++ crc) 22 8 = le64 s.ieeeAddress := by
    have h := hmiddle (le32 kMagic ++ [kVersion] ++ le16 s.panId ++ le64 s.extendedPanId ++
      [s.channel] ++ le16 s.nwkAddress ++ le16 s.parentAddress ++ [s.depth] ++ [s.deviceType])
      (le64 s.ieeeAddress)
    simp only [List.length_append, le32_length, le16_length, le64_length, List.length_singleton,
      Nat.reduceAdd, List.append_assoc] at h
    simp only [fields, List.append_assoc]
    exact h _
  have hcounter : slice (fields s ++ crc) 30 4 = le32 s.outgoingFrameCounter := by
    have h := hmiddle (le32 kMagic ++ [kVersion] ++ le16 s.panId ++ le64 s.extendedPanId ++
      [s.channel] ++ le16 s.nwkAddress ++ le16 s.parentAddress ++ [s.depth] ++ [s.deviceType] ++
      le64 s.ieeeAddress) (le32 s.outgoingFrameCounter)
    simp only [List.length_append, le32_length, le16_length, le64_length, List.length_singleton,
      Nat.reduceAdd, List.append_assoc] at h
    simp only [fields, List.append_assoc]
    exact h _
  simp only [stateOf, hextended, hieee, hcounter, join64_le64, join32_le32]
  simp [fields, le16, le32, le64, List.range, List.range.loop]

theorem fields_magic (s : ZigbeePersistentState) (crc : List UInt8) :
    join32 (slice (fields s ++ crc) 0 4) = kMagic := by
  have hfront : slice (fields s ++ crc) 0 4 = le32 kMagic := by
    simp only [fields, List.append_assoc, slice, List.drop_zero]
    exact List.take_left' (le32_length kMagic)
  rw [hfront, join32_le32]

theorem fields_version (s : ZigbeePersistentState) (crc : List UInt8) :
    (fields s ++ crc).getD 4 0 = kVersion := by
  simp only [fields, List.append_assoc]
  rw [List.getD_append_right _ _ _ _ (Nat.le_of_eq (le32_length kMagic)), le32_length]
  rfl

theorem blob_valid (s : ZigbeePersistentState) : Valid (blob s) := by
  have hbody : (blob s).take 35 = fields s := List.take_left' (fields_length s)
  have hstored (i : ℕ) : (blob s).getD (35 + i) 0 = (le16 (crc16 (fields s))).getD i 0 := by
    rw [blob, List.getD_append_right _ _ _ _ (by rw [fields_length]; omega), fields_length,
      Nat.add_sub_cancel_left]
  refine ⟨fields_magic s _, fields_version s _, ?_⟩
  rw [hbody, hstored 0, hstored 1]
  exact (join16_bytes (crc16 (fields s))).symm

/-! ## The checksum -/

theorem shift_eq_zero {a : UInt16} (h : shift a = 0) : a = 0 := by
  have hmove : (a <<< 1).toNat = a.toNat * 2 % 65536 := by
    rw [UInt16.toNat_shiftLeft]
    simp [Nat.shiftLeft_eq]
  have hand : (a &&& 0x8000).toNat = (a.toNat / 2 ^ 15 % 2) * 2 ^ 15 := by
    rw [UInt16.toNat_and, ← Nat.toNat_testBit]
    exact Nat.and_two_pow a.toNat 15
  have hlt := a.toNat_lt
  rw [shift, Crc.feedback] at h
  split at h
  · -- the polynomial is odd, a shifted word is even
    rw [UInt16.xor_eq_zero_iff.mp h] at hmove
    have hodd : (0x1021 : UInt16).toNat = 4129 := rfl
    omega
  · next hclear =>
    rw [not_not.mp hclear, UInt16.toNat_zero] at hand
    rw [h, UInt16.toNat_zero] at hmove
    apply UInt16.toNat_inj.mp
    rw [UInt16.toNat_zero]
    omega

theorem linear : Crc.Linear shift load where
  shift_xor := Crc.feedback_xor (fun _ _ => UInt16.shiftLeft_xor)
    (Crc.and_wordBit (j := 15) (by decide))
  load_xor a b := by rw [load, UInt8.toUInt16_xor, UInt16.shiftLeft_xor]; rfl
  shift_eq_zero _ := shift_eq_zero

theorem load_eq (b : UInt8) : load b = shift^[8] b.toUInt16 := by
  have hlow : Crc.Linear shift UInt8.toUInt16 :=
    { linear with load_xor := fun _ _ => UInt8.toUInt16_xor .. }
  exact linear.load_eq hlow (by decide) b

/-- Two bytes more, the checksum they are to hold taken off in the register. -/
theorem run_concat_pair (init : UInt16) (bytes : List UInt8) (hi lo : UInt8) :
    Crc.run shift load init (bytes ++ [hi, lo]) =
      shift^[16] (Crc.run shift load init bytes ^^^ join16 lo hi) := by
  have hrun : Crc.run shift load init (bytes ++ [hi, lo]) =
      shift^[8] (shift^[8] (Crc.run shift load init bytes ^^^ load hi) ^^^ load lo) := by
    rw [Crc.run, List.foldl_append]
    rfl
  rw [hrun, load_eq lo, ← linear.iterate_xor 8, ← Function.iterate_add_apply, join16_eq_xor,
    UInt16.xor_comm lo.toUInt16, ← UInt16.xor_assoc]
  rfl

/-- The blob with its checksum in the order of its computation. -/
def turned (bytes : List UInt8) : List UInt8 :=
  bytes.take 35 ++ [bytes.getD 36 0, bytes.getD 35 0]

/-- The stored checksum is right when nothing is left behind it. -/
theorem crc_iff (bytes : List UInt8) :
    crc16 (bytes.take 35) = join16 (bytes.getD 35 0) (bytes.getD 36 0) ↔
      Crc.run shift load 0xFFFF (turned bytes) = 0 := by
  rw [turned, run_concat_pair, linear.iterate_eq_zero, UInt16.xor_eq_zero_iff]
  rfl

theorem turned_length {bytes : List UInt8} (hlen : bytes.length = 37) :
    (turned bytes).length = 37 := by
  rw [turned, List.length_append, List.length_take, hlen]
  rfl

theorem turned_flip {bytes error : List UInt8} (hlen : bytes.length = 37)
    (herror : error.length = 37) :
    turned (Crc.flip bytes error) = Crc.flip (turned bytes) (turned error) := by
  have hget : ∀ i, i < 37 →
      (Crc.flip bytes error).getD i 0 = bytes.getD i 0 ^^^ error.getD i 0 := by
    intro i hi
    rw [List.getD_eq_getElem _ _ (by rw [Crc.flip, List.length_zipWith]; omega),
      List.getD_eq_getElem _ _ (by omega), List.getD_eq_getElem _ _ (by omega)]
    exact List.getElem_zipWith
  have htake : (Crc.flip bytes error).take 35 = Crc.flip (bytes.take 35) (error.take 35) :=
    List.take_zipWith
  rw [turned, hget 35 (by decide), hget 36 (by decide), htake, turned, turned, Crc.flip, Crc.flip,
    List.zipWith_append (by rw [List.length_take, List.length_take, hlen, herror])]
  rfl

/-- Flipped bits that leave something in an empty register are noticed. -/
theorem deserialize_flip (s : ZigbeePersistentState) {error : List UInt8}
    (herror : error.length = 37) (h : Crc.run shift load 0 (turned error) ≠ 0) :
    deserialize (Crc.flip (blob s) error) = some (false, {}) := by
  have hlen : (Crc.flip (blob s) error).length = kBlobSize := by
    rw [Crc.flip, List.length_zipWith, blob_length, herror]
    rfl
  apply deserialize_invalid hlen
  intro hvalid
  apply h
  have hintact := (crc_iff (blob s)).mp (blob_valid s).crc
  have hflipped := (crc_iff _).mp hvalid.crc
  rwa [turned_flip (blob_length s) herror, linear.run_flip _ ?_, hintact, UInt16.zero_xor]
    at hflipped
  rw [turned_length (blob_length s), turned_length herror]

/-! ## Errors -/

theorem syndrome_eq {p : ℕ} (hp : p / 8 < 37) :
    Crc.syndrome shift load 37 p = shift^[8 * (38 - p / 8) + p % 8] 1 := by
  have hload : ∀ k : Fin 8, load (Crc.bit k.1) = shift^[8 + k.1] 1 := by decide
  have hcount : 8 * (38 - p / 8) + p % 8 = 8 * (37 - p / 8) + (8 + p % 8) := by omega
  rw [Crc.syndrome, hload ⟨p % 8, Nat.mod_lt p (by decide)⟩, hcount, ← Function.iterate_add_apply]

theorem syndrome_inj {p q : ℕ} (hp : p / 8 < 37) (hq : q / 8 < 37)
    (h : Crc.syndrome shift load 37 p = Crc.syndrome shift load 37 q) : p = q := by
  have horbit : 1 ∉ List.iterate shift (shift 1) 295 := by decide
  rw [syndrome_eq hp, syndrome_eq hq] at h
  have hcount := linear.iterate_inj horbit (by omega) (by omega) h
  omega

theorem syndrome_odd {p : ℕ} (hp : p / 8 < 37) :
    Crc.parity (Crc.syndrome shift load 37 p) = true := by
  rw [syndrome_eq hp, linear.parity_iterate (by decide)]
  decide

theorem split_blob {bytes : List UInt8} (hlen : bytes.length = 37) :
    bytes = bytes.take 35 ++ [bytes.getD 35 0, bytes.getD 36 0] := by
  have hlast := drop_pair (show 35 + 1 < bytes.length by omega)
  rw [List.drop_eq_nil_of_le (show bytes.length ≤ 35 + 2 by omega), List.append_nil] at hlast
  rw [← hlast, List.take_append_drop]

theorem turned_flips_length {error : List UInt8} (herror : error.length = 37) :
    (Crc.flips (turned error)).length = (Crc.flips error).length := by
  conv_rhs => rw [split_blob herror]
  rw [turned, Crc.flips_append, Crc.flips_append, List.length_append, List.length_append]
  simp only [List.length_map, Crc.flips, List.length_append, List.map_nil, List.append_nil]
  omega

theorem run_turned_few {error : List UInt8} (herror : error.length = 37)
    (hne : Crc.flips error ≠ []) (hfew : (Crc.flips error).length ≤ 3) :
    Crc.run shift load 0 (turned error) ≠ 0 := by
  have hlen := turned_length herror
  have hcount := turned_flips_length herror
  apply linear.run_few_ne_zero
  · intro hnil
    rw [hnil] at hcount
    exact hne (List.length_eq_zero_iff.mp hcount.symm)
  · rwa [hcount]
  · rw [hlen]
    exact fun p q => syndrome_inj
  · rw [hlen]
    exact fun p => syndrome_odd

theorem join16_eq_zero {lo hi : UInt8} : join16 lo hi = 0 ↔ lo = 0 ∧ hi = 0 := by
  have hhi : load hi = 0 ↔ hi.toUInt16 = 0 := by rw [load_eq, linear.iterate_eq_zero]
  have hwide : ∀ b : UInt8, b.toUInt16 = 0 ↔ b = 0 := fun b => UInt8.toUInt16_inj (b := 0)
  rw [join16, UInt16.or_eq_zero_iff, hwide, ← hwide hi, ← hhi]
  rfl

theorem run_pair {hi lo : UInt8} :
    Crc.run shift load 0 [hi, lo] = 0 ↔ lo = 0 ∧ hi = 0 := by
  have hrun := run_concat_pair 0 [] hi lo
  rw [List.nil_append, show Crc.run shift load 0 [] = 0 from rfl, UInt16.zero_xor] at hrun
  rw [hrun, linear.iterate_eq_zero, join16_eq_zero]

/-- A byte can make up for itself in the low byte of the checksum in one way only. -/
theorem run_across {a lo : UInt8} (h : Crc.run shift load 0 [a, 0, lo] = 0) :
    a = 0 ∧ lo = 0 ∨ a = 0x89 ∧ lo = 0xA1 := by
  have hbyte : ∀ n : Fin 256, (Crc.run shift load 0 [UInt8.ofNat n.1]) >>> 8 = 0 →
      UInt8.ofNat n.1 = 0 ∨ UInt8.ofNat n.1 = 0x89 := by
    decide +kernel
  have hrun := run_concat_pair 0 [a] 0 lo
  rw [show [a] ++ [0, lo] = [a, 0, lo] from rfl, h, eq_comm, linear.iterate_eq_zero,
    UInt16.xor_eq_zero_iff] at hrun
  have hlo : join16 lo 0 = lo.toUInt16 := UInt16.or_zero
  have hhigh : lo.toUInt16 >>> 8 = 0 := by
    apply UInt16.toNat_inj.mp
    rw [UInt16.toNat_shiftRight, UInt8.toNat_toUInt16]
    exact Nat.shiftRight_eq_zero _ _ lo.toNat_lt
  have ha := forall_byte (P := fun a => Crc.run shift load 0 [a] >>> 8 = 0 → a = 0 ∨ a = 0x89)
    hbyte a
  rw [hrun, hlo] at ha
  rw [hlo] at hrun
  rcases ha hhigh with rfl | rfl
  · exact Or.inl ⟨rfl, (UInt8.toUInt16_inj.mp (hrun.symm.trans (by decide)))⟩
  · exact Or.inr ⟨rfl, (UInt8.toUInt16_inj.mp (hrun.symm.trans (by decide)))⟩

/-- The one error within two bytes that goes unseen, in the key sequence number and the checksum. -/
def unseen : List UInt8 := List.replicate 34 0 ++ [0x89, 0xA1, 0]

theorem run_turned_within {error : List UInt8} (herror : error.length = 37)
    (hne : Crc.flips error ≠ []) {i : ℕ} (hwithin : Crc.Within i error) (hseen : error ≠ unseen) :
    Crc.run shift load 0 (turned error) ≠ 0 := by
  have hboth := hwithin.ne hne
  rcases Nat.lt_trichotomy i 34 with hi | rfl | hi
  · -- the checksum is not touched
    have hturned : turned error = error := by
      conv_rhs => rw [split_blob herror]
      rw [turned, hwithin.zero (show 35 ≠ i by omega) (by omega),
        hwithin.zero (show 36 ≠ i by omega) (by omega)]
    have hsplit : error = error.take i ++ [error.getD i 0, error.getD (i + 1) 0] ++
        error.drop (i + 2) := by
      rw [List.append_assoc, ← drop_pair (by omega), List.take_append_drop]
    rw [hturned, ne_eq, linear.run_between hsplit (hwithin.front (Nat.le_refl i))
      (hwithin.back (Nat.le_refl _)), run_pair, and_comm]
    exact hboth
  · have hsplit : turned error = error.take 34 ++ [error.getD 34 0, 0, error.getD 35 0] ++ [] := by
      rw [turned, hwithin.zero (show 36 ≠ 34 by decide) (by decide),
        List.take_succ_eq_append_getElem (by omega), ← List.getD_eq_getElem error 0 (by omega),
        List.append_assoc, List.append_nil]
      rfl
    rw [ne_eq, linear.run_between hsplit (hwithin.front (Nat.le_refl 34)) (by simp)]
    intro hrun
    rcases run_across hrun with hzero | ⟨hsequence, hcrc⟩
    · exact hboth hzero
    · apply hseen
      have hfront : error.take 34 = List.replicate 34 0 :=
        List.eq_replicate_iff.mpr ⟨by rw [List.length_take, herror]; rfl,
          hwithin.front (Nat.le_refl 34)⟩
      rw [split_blob herror, hcrc, hwithin.zero (show 36 ≠ 34 by decide) (by decide),
        List.take_succ_eq_append_getElem (by omega), ← List.getD_eq_getElem error 0 (by omega),
        hsequence, hfront]
      rfl
  · -- the checksum alone is touched
    have hsplit : turned error = error.take 35 ++ [error.getD 36 0, error.getD 35 0] ++ [] :=
      (List.append_nil _).symm
    rw [ne_eq, linear.run_between hsplit (hwithin.front hi) (by simp), run_pair]
    rintro ⟨hlo, hhi⟩
    apply hne
    apply Crc.flips_eq_nil
    intro j
    by_cases hj : j < 35
    · exact hwithin.zero (by omega) (by omega)
    · rcases Nat.lt_trichotomy j 36 with hlow | rfl | hhigh
      · rwa [show j = 35 by omega]
      · exact hhi
      · exact List.getD_eq_default _ _ (by omega)

theorem flip_zero (bytes : List UInt8) :
    Crc.flip bytes (List.replicate bytes.length 0) = bytes := by
  induction bytes with
  | nil => rfl
  | cons b bytes ih =>
    rw [List.length_cons, List.replicate_succ, Crc.flip, List.zipWith_cons_cons, UInt8.xor_zero]
    exact congrArg (b :: ·) ih

theorem flip_append {a error : List UInt8} (h : a.length = error.length) (b error' : List UInt8) :
    Crc.flip (a ++ b) (error ++ error') = Crc.flip a error ++ Crc.flip b error' :=
  List.zipWith_append h

/-- What comes back in its place has another key sequence number. -/
theorem deserialize_unseen (s : ZigbeePersistentState) :
    deserialize (Crc.flip (blob s) unseen) =
      some (true, { s with keySequence := s.keySequence ^^^ 0x89 }) := by
  have hfields : Crc.flip (fields s) (List.replicate 34 0 ++ [0x89]) =
      fields { s with keySequence := s.keySequence ^^^ 0x89 } := by
    have hlen := fields_length s
    rw [fields, List.length_append, List.length_singleton] at hlen
    rw [fields, flip_append (by rw [List.length_replicate, Nat.succ.inj hlen])]
    exact congrArg (· ++ [s.keySequence ^^^ 0x89]) (flip_zero _)
  have hblob : Crc.flip (blob s) unseen =
      fields { s with keySequence := s.keySequence ^^^ 0x89 } ++
        Crc.flip (le16 (crc16 (fields s))) [0xA1, 0] := by
    rw [← hfields, ← flip_append (by rw [fields_length]; rfl)]
    rfl
  have hlength : (turned (blob s)).length = (turned unseen).length :=
    (turned_length (blob_length s)).trans (turned_length rfl).symm
  have hcrc : Crc.run shift load 0xFFFF (turned (Crc.flip (blob s) unseen)) = 0 := by
    rw [turned_flip (blob_length s) rfl, linear.run_flip _ hlength,
      (crc_iff (blob s)).mp (blob_valid s).crc, UInt16.zero_xor]
    decide +kernel
  have hlen : (Crc.flip (blob s) unseen).length = kBlobSize :=
    (List.length_zipWith).trans (by rw [blob_length]; rfl)
  have hvalid : Valid (Crc.flip (blob s) unseen) := by
    refine ⟨?_, ?_, (crc_iff _).mpr hcrc⟩
    · rw [hblob, fields_magic]
    · rw [hblob, fields_version]
  rw [deserialize_valid hlen hvalid, hblob, stateOf_fields]

/-! ## Saved and restored -/

/-- At least one bit is flipped: three of them at most, or all within two adjacent bytes. -/
structure Corruption (error : List UInt8) : Prop where
  length : error.length = kBlobSize
  nonempty : Crc.flips error ≠ []
  limited : (Crc.flips error).length ≤ 3 ∨ ∃ i, Crc.Within i error

/-- Saved state comes back, and a corruption of one of the two kinds is rejected unless it is the
one that goes unseen. -/
theorem persisted_state_recovered_or_rejected (s : ZigbeePersistentState) (outMax : UInt8)
    (h : kBlobSize ≤ outMax.toNat) :
    (serialize s outMax).len = kBlobSize ∧
      deserialize (serialize s outMax).bytes = some (true, s) ∧
      ∀ error, Corruption error →
        ((deserialize (Crc.flip (serialize s outMax).bytes error)).map Prod.fst = some false ↔
          error ≠ unseen) := by
  have hserialize : serialize s outMax = .exact (blob s) := if_neg (Nat.not_lt.mpr h)
  rw [hserialize, Built.exact_bytes]
  refine ⟨blob_length s, ?_, fun error hcorrupt => ⟨?_, fun hseen => ?_⟩⟩
  · rw [deserialize_valid (blob_length s) (blob_valid s), blob, stateOf_fields]
  · rintro hrejected rfl
    rw [deserialize_unseen] at hrejected
    cases hrejected
  · have hrun : Crc.run shift load 0 (turned error) ≠ 0 := by
      rcases hcorrupt.limited with hfew | ⟨i, hwithin⟩
      · exact run_turned_few hcorrupt.length hcorrupt.nonempty hfew
      · exact run_turned_within hcorrupt.length hcorrupt.nonempty hwithin hseen
    rw [deserialize_flip s hcorrupt.length hrun]
    rfl

theorem persisted_state_recovered_or_rejected_coordinator :
    let s : ZigbeePersistentState := { panId := 0x1A62, channel := 15, keySequence := 1 }
    (serialize s 64).len = kBlobSize ∧ deserialize (serialize s 64).bytes = some (true, s) ∧
      (deserialize (Crc.flip (serialize s 64).bytes (0x80 :: List.replicate 36 0))).map Prod.fst =
        some false := by
  intro s
  obtain ⟨hlen, hback, hcorrupt⟩ := persisted_state_recovered_or_rejected s 64 (by decide)
  exact ⟨hlen, hback, (hcorrupt _ ⟨rfl, by decide, Or.inl (by decide)⟩).mpr (by decide)⟩

/-- Six bits in the last field and the first byte of the checksum, and the state comes back with
another key sequence number. -/
theorem two_byte_corruption_accepted : ¬ ∀ (s : ZigbeePersistentState) (error : List UInt8),
    Corruption error →
      (deserialize (Crc.flip (serialize s 37).bytes error)).map Prod.fst = some false := by
  intro h
  have hwithin : Crc.Within 34 unseen := by
    have hpositions : ∀ p ∈ Crc.flips unseen, p / 8 = 34 ∨ p / 8 = 35 := by decide
    exact hpositions
  have hrejected := h {} unseen ⟨rfl, by decide, Or.inr ⟨34, hwithin⟩⟩
  have hserialize : (serialize {} 37).bytes = blob {} := Built.exact_bytes _
  rw [hserialize, deserialize_unseen] at hrejected
  cases hrejected

end ZigbeePersistence

end NiusZigbee
