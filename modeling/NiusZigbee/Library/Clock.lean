import Mathlib.Data.UInt

/-!
# A millisecond clock that wraps

A 32-bit counter read at a true time. The difference of two readings is the time between them up to
whole laps of the counter; the order of two readings is the order of their times within one lap
only.
-/

namespace Clock

/-- The times after which the counter starts again. -/
def lap : Nat := 0x100000000

/-- What the counter shows at time `t`. -/
def reading (t : Nat) : UInt32 := UInt32.ofNat t

def SameLap (s t : Nat) : Prop := s / lap = t / lap

instance (s t : Nat) : Decidable (SameLap s t) := inferInstanceAs (Decidable (_ = _))

theorem toNat_reading (t : Nat) : (reading t).toNat = t % lap := UInt32.toNat_ofNat'

theorem reading_add (s t : Nat) : reading (s + t) = reading s + reading t := UInt32.ofNat_add s t

theorem elapsed {s t : Nat} (h : s ≤ t) : (reading t - reading s).toNat = (t - s) % lap := by
  have hsub : reading t - reading s = reading (t - s) := by
    rw [← UInt32.add_left_inj (reading s), UInt32.sub_add_cancel, ← reading_add,
      Nat.sub_add_cancel h]
  rw [hsub, toNat_reading]

theorem reading_lt_iff {s t : Nat} (h : SameLap s t) : reading s < reading t ↔ s < t := by
  rw [UInt32.lt_iff_toNat_lt, toNat_reading, toNat_reading]
  have hs := Nat.div_add_mod s lap
  have ht := Nat.div_add_mod t lap
  rw [show s / lap = t / lap from h] at hs
  omega

/-- Less than a lap later but in another lap, the counter shows less. -/
theorem reading_lt_of_wrap {s t : Nat} (h : s ≤ t) (hlap : t < s + lap) (hwrap : ¬ SameLap s t) :
    reading t < reading s := by
  rw [UInt32.lt_iff_toNat_lt, toNat_reading, toNat_reading]
  unfold SameLap lap at *
  omega

/-- A reading before the cutoff `limit` ago: within the lap that takes longer than `limit`, and
across its end it does not happen. -/
theorem overdue_iff {s t : Nat} (h : s ≤ t) (hlap : t < s + lap) (limit : UInt32) :
    limit ≤ reading t ∧ reading s < reading t - limit ↔ SameLap s t ∧ limit.toNat < t - s := by
  by_cases hsame : SameLap s t
  · have hs := Nat.div_add_mod s lap
    have ht := Nat.div_add_mod t lap
    rw [show s / lap = t / lap from hsame] at hs
    have hcut : limit ≤ reading t → (reading t - limit).toNat = t % lap - limit.toNat := by
      intro hle
      rw [UInt32.toNat_sub_of_le _ _ hle, toNat_reading]
    constructor
    · rintro ⟨hle, hlt⟩
      rw [UInt32.lt_iff_toNat_lt, hcut hle, toNat_reading] at hlt
      exact ⟨hsame, by omega⟩
    · rintro ⟨_, hlimit⟩
      have hle : limit ≤ reading t := by
        rw [UInt32.le_iff_toNat_le, toNat_reading]
        omega
      refine ⟨hle, ?_⟩
      rw [UInt32.lt_iff_toNat_lt, hcut hle, toNat_reading]
      omega
  · refine iff_of_false ?_ fun hboth => hsame hboth.1
    rintro ⟨hle, hlt⟩
    have hwrap := reading_lt_of_wrap h hlap hsame
    rw [UInt32.lt_iff_toNat_lt] at hlt hwrap
    rw [UInt32.toNat_sub_of_le _ _ hle] at hlt
    omega

/-- As a signed number the time still to go to a reading ahead is negative. -/
theorem early {s t : Nat} (h : s < t) (hgap : t ≤ s + 0x80000000) :
    (reading s - reading t).toInt32 < 0 := by
  have hbehind : (reading s - reading t).toBitVec.toNat = lap - (t - s) := by
    rw [UInt32.toNat_toBitVec, UInt32.toNat_sub, toNat_reading, toNat_reading]
    unfold lap
    omega
  have hbits : (reading s - reading t).toInt32.toInt = (reading s - reading t).toBitVec.toInt := rfl
  have hzero : (0 : Int32).toInt = 0 := rfl
  rw [Int32.lt_iff_toInt_lt, hbits, hzero, BitVec.toInt_eq_toNat_cond, hbehind]
  unfold lap
  rw [if_neg (by omega)]
  omega

/-- Less than half a lap apart, the sign of the difference of two readings tells their order. -/
theorem sub_neg_iff {s t : Nat} (h : s < t + 0x80000000) (h' : t < s + 0x80000000) :
    (reading s - reading t).toInt32 < 0 ↔ s < t := by
  by_cases hlt : s < t
  · exact iff_of_true (early hlt (by omega)) hlt
  · have hahead : (reading s - reading t).toBitVec.toNat = s - t := by
      rw [UInt32.toNat_toBitVec, UInt32.toNat_sub, toNat_reading, toNat_reading]
      unfold lap
      omega
    have hbits : (reading s - reading t).toInt32.toInt = (reading s - reading t).toBitVec.toInt :=
      rfl
    have hzero : (0 : Int32).toInt = 0 := rfl
    refine iff_of_false ?_ hlt
    rw [Int32.lt_iff_toInt_lt, hbits, hzero, BitVec.toInt_eq_toNat_cond, hahead,
      if_pos (by omega)]
    omega

theorem toNat_sub_add_half {s t : Nat} (h : s < t + 0x80000000) (h' : t < s + 0x80000000) :
    (reading s - reading t + 0x80000000).toNat = s + 0x80000000 - t := by
  rw [UInt32.toNat_add, UInt32.toNat_sub, toNat_reading, toNat_reading]
  unfold lap
  change (_ + 0x80000000) % _ = _
  omega

end Clock
