import NiusZigbee.Library.MontgomeryLadder
import NiusZigbee.Security.Curve25519Prime
import Mathlib.FieldTheory.Finite.Basic

/-!
# The ladder of X25519

The registers of the source run the Montgomery ladder in the field of `2 ^ 255 - 19` elements.
Clamped scalars are even, so two multiplications commute.
-/

namespace NiusZigbee.ZigbeeCurve25519

open Limbs Montgomery

/-! ## One round -/

/-- The arithmetic between the two swaps. -/
def ladderRound (x : Gfe) (s : Registers) : Registers :=
  let e := add s.a s.c
  let a := sub s.a s.c
  let c := add s.b s.d
  let b := sub s.b s.d
  let d := fsqr e
  let f := fsqr a
  let a := mul c a
  let c := mul b e
  let e := add a c
  let a := sub a c
  let b := fsqr a
  let c := sub d f
  let a := mul c k121665
  let a := add a d
  let c := mul c a
  let a := mul d f
  let d := mul b x
  let b := fsqr e
  ⟨a, b, c, d⟩

def Registers.swap (s : Registers) : Registers := ⟨s.b, s.a, s.d, s.c⟩

theorem ladderStep_zero (x : Gfe) (s : Registers) : ladderStep x s 0 = ladderRound x s := by
  simp only [ladderStep, sel_zero]
  rfl

theorem ladderStep_one (x : Gfe) (s : Registers) :
    ladderStep x s 1 = (ladderRound x s.swap).swap := by
  simp only [ladderStep, sel_one]
  rfl

/-- The registers `a`, `c` hold the first point, `b`, `d` the second. -/
def Registers.points (s : Registers) : Ladder (ZMod prime) :=
  ⟨element s.a, element s.c, element s.b, element s.d⟩

theorem points_swap (s : Registers) : s.swap.points = s.points.swap true := rfl

structure Registers.Small (s : Registers) : Prop where
  a : Within (2 ^ 17) s.a
  b : Within (2 ^ 17) s.b
  c : Within (2 ^ 17) s.c
  d : Within (2 ^ 17) s.d

theorem ladderRound_spec {x : Gfe} {s : Registers} (hx : Within (2 ^ 17) x) (hs : s.Small) :
    (ladderRound x s).Small ∧
      (ladderRound x s).points = s.points.step 121665 (element x) := by
  obtain ⟨he, he'⟩ := add_spec hs.a hs.c
  obtain ⟨ha, ha'⟩ := sub_spec hs.a hs.c
  obtain ⟨hc, hc'⟩ := add_spec hs.b hs.d
  obtain ⟨hb, hb'⟩ := sub_spec hs.b hs.d
  obtain ⟨haa, haa'⟩ := fsqr_spec he
  obtain ⟨hbb, hbb'⟩ := fsqr_spec ha
  obtain ⟨hda, hda'⟩ := mul_spec hc ha
  obtain ⟨hcb, hcb'⟩ := mul_spec hb he
  obtain ⟨hplus, hplus'⟩ := add_spec hda.small hcb.small
  obtain ⟨hminus, hminus'⟩ := sub_spec hda.small hcb.small
  obtain ⟨hsquare, hsquare'⟩ := fsqr_spec hminus
  obtain ⟨hdiff, hdiff'⟩ := sub_spec haa.small hbb.small
  obtain ⟨htimes, htimes'⟩ := mul_spec hdiff k121665_within
  obtain ⟨hsum, hsum'⟩ := add_spec htimes.small haa.small
  obtain ⟨hz₂, hz₂'⟩ := mul_spec hdiff hsum
  obtain ⟨hx₂, hx₂'⟩ := mul_spec haa.wide hbb.wide
  obtain ⟨hz₃, hz₃'⟩ := mul_spec hsquare.wide (hx.mono (by decide))
  obtain ⟨hx₃, hx₃'⟩ := fsqr_spec hplus
  constructor
  · exact ⟨hx₂.small, hx₃.small, hz₂.small, hz₃.small⟩
  · rw [element_k121665] at htimes'
    simp only [Registers.points, ladderRound, Ladder.step]
    rw [hx₂', hx₃', hz₂', hz₃', hsum', htimes', hdiff', hsquare', hminus', hplus', hcb', hda', hbb',
      haa', hb', hc', ha', he']

/-! ## The bits of a scalar -/

theorem scalarBit_cases (z : Vector UInt8 32) (i : Fin 255) :
    scalarBit z i = 0 ∨ scalarBit z i = 1 := by
  have hbit := toInt_ofByte ((z[i.1 / 8] >>> (i.1 % 8).toUInt8) &&& 1)
  rw [UInt8.toNat_and, UInt8.toNat_one, Nat.and_one_is_mod] at hbit
  change (scalarBit z i).toInt = _ at hbit
  rcases Nat.mod_two_eq_zero_or_one (z[i.1 / 8] >>> (i.1 % 8).toUInt8).toNat with h | h
  · rw [h] at hbit
    exact Or.inl (Int64.toInt_inj.mp hbit)
  · rw [h] at hbit
    exact Or.inr (Int64.toInt_inj.mp hbit)

/-- The bits from 254 to 0. -/
def scalarBits (z : Vector UInt8 32) : List Bool :=
  List.ofFn fun i : Fin 255 => decide (scalarBit z i.rev = 1)

theorem scalarBits_clamp (scalar : Vector UInt8 32) :
    ∃ bits, scalarBits (clamp scalar) = bits ++ [false] := by
  have hlast : scalarBit (clamp scalar) 0 = 0 := by
    have hmask : ∀ u : UInt8, ((u &&& 248) >>> 0) &&& 1 = 0 := by
      intro u
      rw [UInt8.shiftRight_zero, UInt8.and_assoc]
      exact UInt8.and_zero
    have hbyte : (clamp scalar)[0] = scalar[0] &&& 248 := by
      simp [clamp]
    rw [scalarBit]
    change ((((clamp scalar)[0] >>> 0) &&& 1).toUInt64.toInt64) = 0
    rw [hbyte, hmask]
    rfl
  refine ⟨List.ofFn fun i : Fin 254 => decide (scalarBit (clamp scalar) i.castSucc.rev = 1), ?_⟩
  rw [scalarBits, List.ofFn_succ_last]
  congr 2
  rw [Fin.rev_last, hlast]
  rfl

theorem ladderStep_spec {x : Gfe} {s : Registers} {r : Int64} (hx : Within (2 ^ 17) x)
    (hs : s.Small) (hr : r = 0 ∨ r = 1) : (ladderStep x s r).Small ∧
      (ladderStep x s r).points = s.points.bit 121665 (element x) (decide (r = 1)) := by
  rcases hr with rfl | rfl
  · rw [ladderStep_zero]
    exact ladderRound_spec hx hs
  · obtain ⟨hsmall, hpoints⟩ := @ladderRound_spec x s.swap hx ⟨hs.b, hs.a, hs.d, hs.c⟩
    rw [ladderStep_one]
    refine ⟨⟨hsmall.b, hsmall.a, hsmall.d, hsmall.c⟩, ?_⟩
    rw [points_swap, hpoints, points_swap]
    rfl

theorem foldl_ladderStep {x : Gfe} (hx : Within (2 ^ 17) x) {n : ℕ} (r : Fin n → Int64)
    (hr : ∀ i, r i = 0 ∨ r i = 1) :
    (Fin.foldl n (fun s i => ladderStep x s (r i)) ⟨one, x, zero, one⟩).Small ∧
      (Fin.foldl n (fun s i => ladderStep x s (r i)) ⟨one, x, zero, one⟩).points =
        Ladder.run 121665 (element x) (List.ofFn fun i => decide (r i = 1)) := by
  induction n with
  | zero =>
    constructor
    · exact ⟨one_within, hx, zero_within, one_within⟩
    · rw [Fin.foldl_zero, Registers.points, element_one, element_zero]
      rfl
  | succ n ih =>
    obtain ⟨hsmall, hpoints⟩ := ih (fun i => r i.castSucc) fun i => hr i.castSucc
    obtain ⟨hsmall', hpoints'⟩ := ladderStep_spec hx hsmall (hr (Fin.last n))
    rw [Fin.foldl_succ_last, List.ofFn_succ_last, Ladder.run_concat, ← hpoints]
    exact ⟨hsmall', hpoints'⟩

/-! ## Scalar multiplication -/

theorem pow_prime_sub_two (z : ZMod prime) : z ^ (prime - 2) = z⁻¹ := by
  have hprime : prime - 1 = prime - 2 + 1 := by decide
  by_cases hz : z = 0
  · rw [hz, inv_zero]
    exact zero_pow (by decide)
  · have hfermat := ZMod.pow_card_sub_one_eq_one hz
    rw [hprime, pow_succ] at hfermat
    exact eq_inv_of_mul_eq_one_left hfermat

theorem natCast_ne_zero {n : ℕ} (hpos : 0 < n) (hlt : n < prime) : (n : ZMod prime) ≠ 0 := by
  rw [Ne, ZMod.natCast_eq_zero_iff]
  exact Nat.not_dvd_of_pos_of_lt hpos hlt

theorem two_ne_zero_prime : (2 : ZMod prime) ≠ 0 := by
  have htwo := @natCast_ne_zero 2 (by decide) (by decide)
  rwa [Nat.cast_ofNat] at htwo

/-- The curve has no double root: `A ^ 2 - 4 ≠ 0`. -/
theorem curve_nonsingular : (4 * 121665 + 2 : ZMod prime) ^ 2 ≠ 4 := by
  have hdisc := @natCast_ne_zero ((4 * 121665 + 2) ^ 2 - 4) (by decide) (by decide)
  intro h
  apply hdisc
  rw [Nat.cast_sub (by decide), sub_eq_zero]
  push_cast
  exact h

/-- The field element that `scalarMult` packs. -/
def product (scalar point : Vector UInt8 32) : Gfe :=
  let s := ladder (clamp scalar) (unpack point)
  mul s.a (inv s.c)

theorem product_spec (scalar point : Vector UInt8 32) :
    Reduced 1 (product scalar point) ∧ element (product scalar point) =
      Ladder.result 121665 (element (unpack point)) (scalarBits (clamp scalar)) := by
  obtain ⟨hsmall, hpoints⟩ := foldl_ladderStep (unpack_within point)
    (fun i : Fin 255 => scalarBit (clamp scalar) i.rev) fun i => scalarBit_cases _ _
  obtain ⟨hinv, hinv'⟩ := inv_spec hsmall.c
  obtain ⟨hmul, hmul'⟩ := mul_spec (hsmall.a.mono (by decide)) (hinv.mono (by decide))
  refine ⟨hmul, hmul'.trans ?_⟩
  rw [hinv', pow_prime_sub_two, Ladder.result, scalarBits, ← hpoints]
  rfl

theorem scalarMult_eq_pack (scalar point : Vector UInt8 32) :
    scalarMult scalar point = pack (product scalar point) := rfl

theorem scalarMult_comm (a b point : Vector UInt8 32) :
    scalarMult a (scalarMult b point) = scalarMult b (scalarMult a point) := by
  obtain ⟨bits, hbits⟩ := scalarBits_clamp a
  obtain ⟨bits', hbits'⟩ := scalarBits_clamp b
  have hread : ∀ s, element (unpack (scalarMult s point)) =
      Ladder.result 121665 (element (unpack point)) (scalarBits (clamp s)) := by
    intro s
    obtain ⟨hreduced, helement⟩ := product_spec s point
    rw [scalarMult_eq_pack, unpack_pack hreduced, helement]
  obtain ⟨hreduced, helement⟩ := product_spec a (scalarMult b point)
  obtain ⟨hreduced', helement'⟩ := product_spec b (scalarMult a point)
  rw [scalarMult_eq_pack a, scalarMult_eq_pack b (scalarMult a point)]
  apply pack_congr hreduced hreduced'
  rw [helement, helement', hread, hread, hbits, hbits']
  exact Ladder.result_comm two_ne_zero_prime curve_nonsingular _ _ _

end NiusZigbee.ZigbeeCurve25519
