import NiusZigbee.Library.OutBuffer

/-!
# Encoders that compute their size in a byte

An encoder agrees with its decoder on a call when it returns 0, or keeps to the buffer and leaves
bytes that are read back. One that computes the size of a frame modulo 256 does so on the frames
that fit a byte and are read back, and where the wrapped size is refused or is 0.
-/

namespace OutBuffer

/-- Returns 0, or a length inside the buffer with no store outside it, and is read back. Of the
stores of a call that returns 0 it says nothing: that is for `Built.Inside`. -/
def Built.Agrees (o : Built) (outMax : Nat) (recovered : List UInt8 → Prop) : Prop :=
  o.len = 0 ∨ o.Within outMax ∧ recovered o.bytes

/-- A size that fits the byte it is computed in, or that is refused there. -/
def ByteSized (outMax size : Nat) : Prop := size < 256 ∨ outMax < size % 256 ∨ size % 256 = 0

instance (outMax size : Nat) : Decidable (ByteSized outMax size) :=
  inferInstanceAs (Decidable (_ ∨ _ ∨ _))

/-- Whatever is returned, nothing is stored at or past the end of the buffer. -/
def Built.Inside (o : Built) (outMax : Nat) : Prop := ∀ w ∈ o.writes, w.1 < outMax

/-- A size that fits the byte it is computed in, or is more than the buffer takes there too. -/
def ByteChecked (outMax size : Nat) : Prop := size < 256 ∨ outMax < size % 256

variable {o : Built} {bytes : List UInt8} {outMax : Nat} {recovered : List UInt8 → Prop}

@[simp] theorem agrees_fail : Built.fail.Agrees outMax recovered := Or.inl rfl

theorem agrees_exact (hpos : 0 < bytes.length) (hmax : bytes.length ≤ outMax) :
    (Built.exact bytes).Agrees outMax recovered ↔ recovered bytes := by
  rw [Built.Agrees, Built.exact_bytes, Built.exact_len]
  constructor
  · rintro (hzero | ⟨-, h⟩)
    · omega
    · exact h
  · exact fun h => Or.inr ⟨Built.exact_within bytes hpos hmax, h⟩

/-- An encoder that refuses what does not fit agrees on all that is read back. -/
theorem agrees_of_refused (hbuild : o = if outMax < bytes.length then .fail else .exact bytes)
    (hpos : 0 < bytes.length) (hrec : bytes.length ≤ outMax → recovered bytes) :
    o.Agrees outMax recovered := by
  rw [hbuild]
  split
  · exact agrees_fail
  · next hmax => exact (agrees_exact hpos (by omega)).mpr (hrec (by omega))

/-- A length modulo 256: past a byte, the stores reach past what is reported. -/
theorem agrees_wrapped_iff (hpos : 0 < bytes.length)
    (hlen : o.len = if outMax < bytes.length % 256 then 0 else bytes.length % 256)
    (hexact : bytes.length ≤ outMax → o = .exact bytes)
    (hlast : 256 ≤ bytes.length → bytes.length % 256 ≤ outMax → ∃ w ∈ o.writes, 255 ≤ w.1) :
    o.Agrees outMax recovered ↔
      bytes.length < 256 ∧ recovered bytes ∨ outMax < bytes.length % 256 ∨
        bytes.length % 256 = 0 := by
  by_cases hmax : outMax < bytes.length % 256
  · rw [if_pos hmax] at hlen
    exact iff_of_true (Or.inl hlen) (Or.inr (Or.inl hmax))
  rw [if_neg hmax] at hlen
  by_cases hsize : bytes.length < 256
  · have hmod : bytes.length % 256 = bytes.length := Nat.mod_eq_of_lt hsize
    rw [hexact (by omega), agrees_exact hpos (by omega)]
    exact ⟨fun h => Or.inl ⟨hsize, h⟩, fun h => h.elim And.right fun h => by omega⟩
  constructor
  · rintro (hzero | ⟨hwithin, -⟩)
    · exact Or.inr (Or.inr (hlen.symm.trans hzero))
    · obtain ⟨w, hw, hindex⟩ := hlast (by omega) (by omega)
      exact absurd hwithin (Built.not_within_of_write hw (by omega))
  · rintro (⟨h, -⟩ | h | hzero)
    · exact absurd h hsize
    · exact absurd h hmax
    · exact Or.inl (hlen.trans hzero)

section Run

variable (hbuild : o =
  if outMax < bytes.length % 256 then .fail else ⟨bytes.length % 256, emit 0 bytes⟩)

include hbuild

private theorem run_exact (hout : outMax < 256) (hfit : bytes.length ≤ outMax) :
    o = .exact bytes := by
  rw [hbuild, Nat.mod_eq_of_lt (by omega), if_neg (by omega)]
  rfl

private theorem run_last (hover : 256 ≤ bytes.length) (hmax : bytes.length % 256 ≤ outMax) :
    ∃ w ∈ o.writes, 255 ≤ w.1 := by
  rw [hbuild, if_neg (by omega)]
  obtain ⟨b, hb⟩ := @mem_emit 0 (bytes.length - 1) bytes (by omega) (by omega)
  exact ⟨_, hb, by dsimp only; omega⟩

/-- The same for an encoder whose stores are one run. -/
theorem agrees_run_iff (hout : outMax < 256) (hpos : 0 < bytes.length) :
    o.Agrees outMax recovered ↔
      bytes.length < 256 ∧ recovered bytes ∨ outMax < bytes.length % 256 ∨
        bytes.length % 256 = 0 := by
  apply agrees_wrapped_iff hpos _ (run_exact hbuild hout) (run_last hbuild)
  rw [hbuild]
  split <;> rfl

end Run

/-- Where all that fits a byte is read back, it comes down to the size. -/
theorem byteSized_iff (hrec : bytes.length < 256 → recovered bytes) :
    bytes.length < 256 ∧ recovered bytes ∨ outMax < bytes.length % 256 ∨
        bytes.length % 256 = 0 ↔ ByteSized outMax bytes.length :=
  or_congr_left (and_iff_left_of_imp hrec)

/-! ## Stores past the buffer -/

@[simp] theorem inside_fail : Built.fail.Inside outMax := by simp [Built.Inside, Built.fail]

theorem inside_exact (hmax : bytes.length ≤ outMax) : (Built.exact bytes).Inside outMax := by
  intro w hw
  have hindex := emit_index hw
  omega

theorem not_inside_of_write {w : Nat × UInt8} (hw : w ∈ o.writes) (hpast : outMax ≤ w.1) :
    ¬ o.Inside outMax := fun h => Nat.not_lt.mpr hpast (h w hw)

theorem inside_of_refused (hbuild : o = if outMax < bytes.length then .fail else .exact bytes) :
    o.Inside outMax := by
  rw [hbuild]
  split
  · exact inside_fail
  · next hmax => exact inside_exact (Nat.not_lt.mp hmax)

/-- A size that wraps lets the stores run past any buffer. -/
theorem inside_wrapped_iff (hout : outMax < 256)
    (hrefused : outMax < bytes.length % 256 → o = .fail)
    (hexact : bytes.length ≤ outMax → o = .exact bytes)
    (hlast : 256 ≤ bytes.length → bytes.length % 256 ≤ outMax → ∃ w ∈ o.writes, 255 ≤ w.1) :
    o.Inside outMax ↔ ByteChecked outMax bytes.length := by
  by_cases hmax : outMax < bytes.length % 256
  · rw [hrefused hmax]
    exact iff_of_true inside_fail (Or.inr hmax)
  by_cases hsize : bytes.length < 256
  · have hmod : bytes.length % 256 = bytes.length := Nat.mod_eq_of_lt hsize
    rw [hexact (by omega)]
    exact iff_of_true (inside_exact (by omega)) (Or.inl hsize)
  · obtain ⟨w, hw, hindex⟩ := hlast (by omega) (by omega)
    exact iff_of_false (not_inside_of_write hw (by omega)) (not_or.mpr ⟨hsize, hmax⟩)

theorem inside_run_iff (hout : outMax < 256)
    (hbuild : o =
      if outMax < bytes.length % 256 then .fail else ⟨bytes.length % 256, emit 0 bytes⟩) :
    o.Inside outMax ↔ ByteChecked outMax bytes.length := by
  apply inside_wrapped_iff hout _ (run_exact hbuild hout) (run_last hbuild)
  intro hmax
  rw [hbuild, if_pos hmax]

end OutBuffer
