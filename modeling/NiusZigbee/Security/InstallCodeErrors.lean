import NiusZigbee.Security.InstallCode

/-!
# Typing errors in install codes

The checksum runs least significant bit first and is stored least significant byte first, so a code
with its checksum is one run of the register and ends in a fixed remainder. Flipped bits that leave
something in an empty register are noticed.
-/

namespace NiusZigbee.ZigbeeInstallCode

open ByteCodec OutBuffer ZigbeeApsSecurity.Checked

/-! ## The checksum -/

def shift : UInt16 → UInt16 := Crc.feedback (· >>> 1) 1 0x8408

theorem shift_eq_zero {a : UInt16} (h : shift a = 0) : a = 0 := by
  have hmove : (a >>> 1).toNat = a.toNat / 2 := by
    rw [UInt16.toNat_shiftRight]
    exact Nat.shiftRight_eq_div_pow a.toNat 1
  have hlt := a.toNat_lt
  rw [shift, Crc.feedback] at h
  split at h
  · -- the polynomial has its top bit, a shifted word has not
    rw [UInt16.xor_eq_zero_iff.mp h] at hmove
    have htop : (0x8408 : UInt16).toNat = 33800 := rfl
    omega
  · next hclear =>
    have hand := congrArg UInt16.toNat (not_not.mp hclear)
    rw [UInt16.toNat_and, UInt16.toNat_one, Nat.and_one_is_mod, UInt16.toNat_zero] at hand
    rw [h, UInt16.toNat_zero] at hmove
    apply UInt16.toNat_inj.mp
    rw [UInt16.toNat_zero]
    omega

theorem linear : Crc.Linear shift UInt8.toUInt16 where
  shift_xor := Crc.feedback_xor (fun _ _ => UInt16.shiftRight_xor)
    (Crc.and_wordBit (j := 0) (by decide))
  load_xor _ _ := UInt8.toUInt16_xor ..
  shift_eq_zero _ := shift_eq_zero

theorem reflected : Crc.Reflected shift UInt8.toUInt16 where
  load_bit := by decide
  shift_wordBit := by decide +kernel

theorem shift_high (b : UInt8) : b.toUInt16 = shift^[8] (b.toUInt16 <<< 8) := by
  have hhigh : Crc.Linear shift fun b => b.toUInt16 <<< 8 :=
    { linear with load_xor := fun _ _ => by rw [UInt8.toUInt16_xor, UInt16.shiftLeft_xor] }
  exact linear.load_eq hhigh (by decide) b

theorem run_concat_pair (init : UInt16) (bytes : List UInt8) (lo hi : UInt8) :
    Crc.run shift UInt8.toUInt16 init (bytes ++ [lo, hi]) =
      shift^[16] (Crc.run shift UInt8.toUInt16 init bytes ^^^ join16 lo hi) := by
  have hrun : Crc.run shift UInt8.toUInt16 init (bytes ++ [lo, hi]) = shift^[8] (shift^[8]
      (Crc.run shift UInt8.toUInt16 init bytes ^^^ lo.toUInt16) ^^^ hi.toUInt16) := by
    rw [Crc.run, List.foldl_append]
    rfl
  rw [hrun, shift_high hi, ← linear.iterate_xor 8, ← Function.iterate_add_apply, join16_eq_xor,
    UInt16.xor_assoc]

/-- The code and its checksum leave a fixed remainder. -/
theorem crc_iff {code : List UInt8} (hlen : 2 ≤ code.length) :
    crc16 (code.take (code.length - 2)) =
        join16 (code.getD (code.length - 2) 0) (code.getD (code.length - 1) 0) ↔
      Crc.run shift UInt8.toUInt16 0xFFFF code = shift^[16] 0xFFFF := by
  have hsplit : code = code.take (code.length - 2) ++
      [code.getD (code.length - 2) 0, code.getD (code.length - 1) 0] := by
    have hlast := drop_pair (show code.length - 2 + 1 < code.length by omega)
    rw [List.drop_eq_nil_of_le (show code.length ≤ code.length - 2 + 2 by omega), List.append_nil,
      show code.length - 2 + 1 = code.length - 1 by omega] at hlast
    rw [← hlast, List.take_append_drop]
  have hxor : ∀ a b c : UInt16, a ^^^ b = c ↔ a ^^^ c = b := by
    intro a b c
    rw [← @UInt16.xor_eq_zero_iff (a ^^^ b), ← @UInt16.xor_eq_zero_iff (a ^^^ c), UInt16.xor_assoc,
      UInt16.xor_comm b, ← UInt16.xor_assoc]
  conv_rhs => rw [hsplit, run_concat_pair, (linear.injective.iterate 16).eq_iff, hxor]
  rfl

theorem validate_iff (code : List UInt8) : validate code = true ↔
    (code.length = 8 ∨ code.length = 10 ∨ code.length = 14 ∨ code.length = 18) ∧
      Crc.run shift UInt8.toUInt16 0xFFFF code = shift^[16] 0xFFFF := by
  simp only [validate]
  by_cases hlen : code.length = 8 ∨ code.length = 10 ∨ code.length = 14 ∨ code.length = 18
  · rw [if_neg (by omega), beq_iff_eq, crc_iff (by omega)]
    exact (and_iff_right hlen).symm
  · rw [if_pos (by omega)]
    exact iff_of_false Bool.false_ne_true fun h => hlen h.1

/-! ## Errors -/

/-- Of a valid code, the flipped bits alone decide. -/
theorem validate_flip {code error : List UInt8} (h : validate code = true)
    (hlen : error.length = code.length) : validate (Crc.flip code error) = true ↔
      Crc.run shift UInt8.toUInt16 0 error = 0 := by
  obtain ⟨hcode, hrun⟩ := (validate_iff code).mp h
  have hflip : (Crc.flip code error).length = code.length := by
    rw [Crc.flip, List.length_zipWith, hlen, Nat.min_self]
  rw [validate_iff, hflip, and_iff_right hcode, linear.run_flip _ hlen.symm, hrun]
  constructor
  · intro heq
    have hcancel := congrArg (shift^[16] 0xFFFF ^^^ ·) heq
    simpa only [← UInt16.xor_assoc, UInt16.xor_self, UInt16.zero_xor] using hcancel
  · intro hzero
    rw [hzero, UInt16.xor_zero]

theorem syndrome_inj {n p q : ℕ} (hn : n ≤ 18) (hp : p / 8 < n) (hq : q / 8 < n)
    (h : Crc.syndrome shift UInt8.toUInt16 n p = Crc.syndrome shift UInt8.toUInt16 n q) :
    p = q := by
  have horbit : 1 ∉ List.iterate shift (shift 1) 143 := by decide
  rw [reflected.syndrome_eq hp, reflected.syndrome_eq hq] at h
  have hcount := linear.iterate_inj horbit (by omega) (by omega) h
  omega

theorem syndrome_odd {n p : ℕ} (hp : p / 8 < n) :
    Crc.parity (Crc.syndrome shift UInt8.toUInt16 n p) = true := by
  rw [reflected.syndrome_eq hp, linear.parity_iterate (by decide)]
  decide

/-- At least one bit of the code is flipped: three of them at most, or all within 16 consecutive
positions. -/
structure TypingError (code error : List UInt8) : Prop where
  length : error.length = code.length
  nonempty : Crc.flips error ≠ []
  limited : (Crc.flips error).length ≤ 3 ∨ ∃ a, ∀ p ∈ Crc.flips error, a ≤ p ∧ p < a + 16

theorem TypingError.run_ne_zero {code error : List UInt8} (h : TypingError code error)
    (hlen : code.length ≤ 18) : Crc.run shift UInt8.toUInt16 0 error ≠ 0 := by
  have hshort : error.length ≤ 18 := h.length ▸ hlen
  rcases h.limited with hfew | ⟨a, hburst⟩
  · exact linear.run_few_ne_zero h.nonempty hfew (fun p q => syndrome_inj hshort)
      fun p => syndrome_odd
  · exact reflected.run_burst_ne_zero linear h.nonempty hburst

/-- What is built is valid, and with a typing error no longer: there is no link key for it. -/
theorem install_code_protected :
    (∀ (data : List UInt8) (outMax : UInt8),
      (data.length = 6 ∨ data.length = 8 ∨ data.length = 12 ∨ data.length = 16) →
        data.length + 2 ≤ outMax.toNat →
          (build data outMax).len = data.length + 2 ∧
            validate (build data outMax).bytes = true) ∧
      ∀ code error : List UInt8, validate code = true → TypingError code error →
        validate (Crc.flip code error) = false ∧
          ∀ encrypt scratch, deriveLinkKey encrypt scratch (Crc.flip code error) = .ok none := by
  refine ⟨fun data outMax hlen hroom => ⟨?_, build_valid hlen hroom⟩, ?_⟩
  · have hbuild : build data outMax = .exact (data ++ le16 (crc16 data)) := by
      simp only [build]
      rw [if_neg (by omega), if_neg (by omega)]
    rw [hbuild, Built.exact, List.length_append, le16_length]
  · intro code error hvalid herror
    have hrejected : ¬ validate (Crc.flip code error) = true := by
      rw [validate_flip hvalid herror.length]
      exact herror.run_ne_zero (validate_length hvalid)
    refine ⟨Bool.not_eq_true _ ▸ hrejected, fun encrypt scratch => ?_⟩
    rw [deriveLinkKey, if_pos hrejected]

theorem install_code_protected_six_bytes :
    let code := (build [0x83, 0xFE, 0xD3, 0x40, 0x7A, 0x93] 8).bytes
    validate code = true ∧ validate (Crc.flip code [0, 0, 0x80, 1, 0, 0, 0, 4]) = false ∧
      validate (Crc.flip code [0, 0, 0, 0, 0, 0xF0, 0xFF, 0x0F]) = false := by
  intro code
  obtain ⟨hbuild, hreject⟩ := install_code_protected
  obtain ⟨hlen, hvalid⟩ := hbuild [0x83, 0xFE, 0xD3, 0x40, 0x7A, 0x93] 8 (by decide) (by decide)
  have hlength : code.length = 8 :=
    (List.length_map _).trans (List.length_range.trans hlen)
  have hfew : TypingError code [0, 0, 0x80, 1, 0, 0, 0, 4] :=
    ⟨hlength.symm, by decide, Or.inl (by decide)⟩
  have hburst : TypingError code [0, 0, 0, 0, 0, 0xF0, 0xFF, 0x0F] :=
    ⟨hlength.symm, by decide, Or.inr ⟨44, by decide⟩⟩
  exact ⟨hvalid, (hreject code _ hvalid hfew).1, (hreject code _ hvalid hburst).1⟩

end NiusZigbee.ZigbeeInstallCode
