import NiusZigbee.Library.Limbs
import Mathlib.Data.ZMod.Basic
import Mathlib.Tactic.LinearCombination

/-!
# X25519

A field element is 16 limbs of 16 bits in `int64_t`, least significant first and not always reduced;
it stands for its value modulo `2 ^ 255 - 19`. Multiplication leaves limbs of 16 bits but for limb
0, which may be off by 38, and every other operation reads its operands from multiplications. No
limb leaves 64 bits, and `pack` writes the one representative below the prime.
-/

namespace NiusZigbee.ZigbeeCurve25519

open Limbs

/-- `gfe`. -/
abbrev Gfe := Vector Int64 16

def zero : Gfe := Vector.replicate 16 0

def one : Gfe := write zero 0 1

def k121665 : Gfe := write (write zero 0 0xDB41) 1 1

/-! ## Field arithmetic -/

/-- A limb keeps its low 16 bits. The rest goes into the next limb, and from the last one 38-fold
into limb 0, which is the limb after 15 in `Fin 16`. -/
def carryLimb (o : Gfe) (i : Fin 16) : Gfe :=
  let next : Fin 16 := i + 1
  let o := write o i (o.get i + ((1 : Int64) <<< (16 : Int64)))
  let c := o.get i >>> (16 : Int64)
  let o := write o next (o.get next + (c - 1 + 37 * (c - 1) * (if i = 15 then 1 else 0)))
  write o i (o.get i - (c <<< (16 : Int64)))

def carry (o : Gfe) : Gfe := Fin.foldl 16 carryLimb o

/-- The limb of `p` and that of `q` under the mask `c`, all ones or zero. -/
def selLimb (c p q : Int64) : Int64 × Int64 :=
  let t := c &&& (p ^^^ q)
  (p ^^^ t, q ^^^ t)

def sel (p q : Gfe) (b : Int64) : Gfe × Gfe :=
  let c := ~~~(b - 1)
  (Vector.ofFn fun i => (selLimb c (p.get i) (q.get i)).1,
    Vector.ofFn fun i => (selLimb c (p.get i) (q.get i)).2)

def add (a b : Gfe) : Gfe := Vector.ofFn fun i => a.get i + b.get i

def sub (a b : Gfe) : Gfe := Vector.ofFn fun i => a.get i - b.get i

/-- The column of a product of limbs. -/
def column (i j : Fin 16) : Fin 31 := ⟨i.1 + j.1, by omega⟩

/-- The 31 columns of the product. -/
def columns (a b : Gfe) : Vector Int64 31 :=
  Fin.foldl 16 (fun t (i : Fin 16) =>
    Fin.foldl 16 (fun t (j : Fin 16) =>
      write t (column i j) (t.get (column i j) + a.get i * b.get j)) t) (Vector.replicate 31 0)

/-- The columns from 16 on come back 38-fold. -/
def foldColumns (t : Vector Int64 31) : Vector Int64 31 :=
  Fin.foldl 15 (fun t (i : Fin 15) =>
    let low : Fin 31 := Fin.castAdd 16 i
    let high : Fin 31 := Fin.natAdd 16 i
    write t low (t.get low + 38 * t.get high)) t

def mul (a b : Gfe) : Gfe :=
  let t := foldColumns (columns a b)
  let o : Gfe := Vector.ofFn fun i => t.get (Fin.castAdd 15 i)
  carry (carry o)

def fsqr (a : Gfe) : Gfe := mul a a

/-- The rounds `a = 253, …, 0` are the rounds `253 - a = 0, …, 253`. -/
def inv (inp : Gfe) : Gfe :=
  Fin.foldl 254 (fun c (i : Fin 254) =>
    let a := 253 - i.1
    let c := fsqr c
    if a ≠ 2 ∧ a ≠ 4 then mul c inp else c) inp

/-! ## Bytes -/

/-- One pass of the loop that subtracts the prime where the result is not negative. -/
def subtractPrime (t : Gfe) : Gfe :=
  let m : Gfe := write zero 0 (t.get 0 - 0xffed)
  let m : Gfe := Fin.foldl 14 (fun (m : Gfe) (k : Fin 14) =>
    -- limb `i = k + 1` and the limb before it
    let i : Fin 16 := k.castSucc.succ
    let prev : Fin 16 := k.castSucc.castSucc
    let m := write m i (t.get i - 0xffff - ((m.get prev >>> (16 : Int64)) &&& (1 : Int64)))
    write m prev (m.get prev &&& 0xffff)) m
  let m := write m 15 (t.get 15 - 0x7fff - ((m.get 14 >>> (16 : Int64)) &&& (1 : Int64)))
  let b := (m.get 15 >>> (16 : Int64)) &&& (1 : Int64)
  let m := write m 14 (m.get 14 &&& 0xffff)
  (sel t m (1 - b)).1

def pack (n : Gfe) : Vector UInt8 32 :=
  let t := carry (carry (carry n))
  let t := subtractPrime (subtractPrime t)
  Vector.ofFn fun k =>
    let i : Fin 16 := ⟨k.1 / 2, by omega⟩
    if k.1 % 2 = 0 then (t.get i &&& 0xff).toUInt64.toUInt8 else (t.get i >>> 8).toUInt64.toUInt8

def unpack (n : Vector UInt8 32) : Gfe :=
  let o : Gfe := Vector.ofFn fun i =>
    n[2 * i.1].toUInt64.toInt64 + (n[2 * i.1 + 1].toUInt64.toInt64 <<< 8)
  write o 15 (o.get 15 &&& 0x7fff)

/-! ## The ladder -/

/-- The four running field elements. -/
structure Registers where
  a : Gfe
  b : Gfe
  c : Gfe
  d : Gfe

/-- The body of the loop for the bit `r`. -/
def ladderStep (x : Gfe) (s : Registers) (r : Int64) : Registers :=
  let (a, b) := sel s.a s.b r
  let (c, d) := sel s.c s.d r
  let e := add a c
  let a := sub a c
  let c := add b d
  let b := sub b d
  let d := fsqr e
  let f := fsqr a
  let a := mul c a
  let c := mul b e
  let e := add a c
  let a := sub a c
  let b := fsqr a
  let c := sub d f
  let a := mul c k121665
  let a := add a d
  let c := mul c a
  let a := mul d f
  let d := mul b x
  let b := fsqr e
  let (a, b) := sel a b r
  let (c, d) := sel c d r
  ⟨a, b, c, d⟩

def clamp (scalar : Vector UInt8 32) : Vector UInt8 32 :=
  let z := scalar.set 31 ((scalar[31] &&& 127) ||| 64)
  z.set 0 (z[0] &&& 248)

/-- Bit `i` of the scalar. -/
def scalarBit (z : Vector UInt8 32) (i : Fin 255) : Int64 :=
  ((z[i.1 / 8] >>> (i.1 % 8).toUInt8) &&& 1).toUInt64.toInt64

/-- The bits 254 to 0, in that order. -/
def ladder (z : Vector UInt8 32) (x : Gfe) : Registers :=
  Fin.foldl 255 (fun s (i : Fin 255) => ladderStep x s (scalarBit z i.rev))
    ⟨one, x, zero, one⟩

def scalarMult (scalar point : Vector UInt8 32) : Vector UInt8 32 :=
  let z := clamp scalar
  let x := unpack point
  let s := ladder z x
  let c := inv s.c
  pack (mul s.a c)

/-! ## Checked arithmetic

The same functions with every sum, difference, product and left shift of limbs checked. -/

def carryLimbChecked (o : Gfe) (i : Fin 16) : Option Gfe := do
  let next : Fin 16 := i + 1
  let o := write o i (← checkedAdd (o.get i) (← checkedShiftLeft 1 16))
  let c := o.get i >>> (16 : Int64)
  let excess ← checkedAdd (← checkedSub c 1)
    (← checkedMul (← checkedMul 37 (← checkedSub c 1)) (if i = 15 then 1 else 0))
  let o := write o next (← checkedAdd (o.get next) excess)
  return write o i (← checkedSub (o.get i) (← checkedShiftLeft c 16))

def carryChecked (o : Gfe) : Option Gfe := Fin.foldlM 16 carryLimbChecked o

def selChecked (p q : Gfe) (b : Int64) : Option (Gfe × Gfe) := do
  let c := ~~~(← checkedSub b 1)
  return (Vector.ofFn fun i => (selLimb c (p.get i) (q.get i)).1,
    Vector.ofFn fun i => (selLimb c (p.get i) (q.get i)).2)

def addChecked (a b : Gfe) : Option Gfe := Vector.ofFnM fun i => checkedAdd (a.get i) (b.get i)

def subChecked (a b : Gfe) : Option Gfe := Vector.ofFnM fun i => checkedSub (a.get i) (b.get i)

def columnsChecked (a b : Gfe) : Option (Vector Int64 31) :=
  Fin.foldlM 16 (fun t (i : Fin 16) =>
    Fin.foldlM 16 (fun t (j : Fin 16) => do
      return write t (column i j)
        (← checkedAdd (t.get (column i j)) (← checkedMul (a.get i) (b.get j)))) t)
    (Vector.replicate 31 0)

def foldColumnsChecked (t : Vector Int64 31) : Option (Vector Int64 31) :=
  Fin.foldlM 15 (fun t (i : Fin 15) => do
    let low : Fin 31 := Fin.castAdd 16 i
    let high : Fin 31 := Fin.natAdd 16 i
    return write t low (← checkedAdd (t.get low) (← checkedMul 38 (t.get high)))) t

def mulChecked (a b : Gfe) : Option Gfe := do
  let t ← foldColumnsChecked (← columnsChecked a b)
  let o : Gfe := Vector.ofFn fun i => t.get (Fin.castAdd 15 i)
  carryChecked (← carryChecked o)

def fsqrChecked (a : Gfe) : Option Gfe := mulChecked a a

def invChecked (inp : Gfe) : Option Gfe :=
  Fin.foldlM 254 (fun c (i : Fin 254) => do
    let a := 253 - i.1
    let c ← fsqrChecked c
    if a ≠ 2 ∧ a ≠ 4 then mulChecked c inp else return c) inp

/-- The loop over the limbs 1 to 14 of `pack`. -/
def borrowLimbChecked (t m : Gfe) (k : Fin 14) : Option Gfe := do
  let i : Fin 16 := k.castSucc.succ
  let prev : Fin 16 := k.castSucc.castSucc
  let m := write m i (← checkedSub (← checkedSub (t.get i) 0xffff)
    ((m.get prev >>> (16 : Int64)) &&& (1 : Int64)))
  return write m prev (m.get prev &&& 0xffff)

/-- The last limb of the difference, and the choice between it and `t`. -/
def selDifferenceChecked (t m : Gfe) : Option Gfe := do
  let m := write m 15 (← checkedSub (← checkedSub (t.get 15) 0x7fff)
    ((m.get 14 >>> (16 : Int64)) &&& (1 : Int64)))
  let b := (m.get 15 >>> (16 : Int64)) &&& (1 : Int64)
  let m := write m 14 (m.get 14 &&& 0xffff)
  return (← selChecked t m (← checkedSub 1 b)).1

/-- The last steps of `subtractPrime`. -/
def selDifference (t m : Gfe) : Gfe :=
  let m := write m 15 (t.get 15 - 0x7fff - ((m.get 14 >>> (16 : Int64)) &&& (1 : Int64)))
  let b := (m.get 15 >>> (16 : Int64)) &&& (1 : Int64)
  let m := write m 14 (m.get 14 &&& 0xffff)
  (sel t m (1 - b)).1

def subtractPrimeChecked (t : Gfe) : Option Gfe := do
  let m : Gfe := write zero 0 (← checkedSub (t.get 0) 0xffed)
  let m ← Fin.foldlM 14 (borrowLimbChecked t) m
  selDifferenceChecked t m

def packChecked (n : Gfe) : Option (Vector UInt8 32) := do
  let t ← carryChecked (← carryChecked (← carryChecked n))
  let t ← subtractPrimeChecked (← subtractPrimeChecked t)
  return Vector.ofFn fun k =>
    let i : Fin 16 := ⟨k.1 / 2, by omega⟩
    if k.1 % 2 = 0 then (t.get i &&& 0xff).toUInt64.toUInt8 else (t.get i >>> 8).toUInt64.toUInt8

def unpackChecked (n : Vector UInt8 32) : Option Gfe := do
  let o : Gfe ← Vector.ofFnM fun i => do
    checkedAdd n[2 * i.1].toUInt64.toInt64 (← checkedShiftLeft n[2 * i.1 + 1].toUInt64.toInt64 8)
  return write o 15 (o.get 15 &&& 0x7fff)

/-- The arithmetic between the two swaps. -/
def ladderRoundChecked (x : Gfe) (s : Registers) : Option Registers := do
  let e ← addChecked s.a s.c
  let a ← subChecked s.a s.c
  let c ← addChecked s.b s.d
  let b ← subChecked s.b s.d
  let d ← fsqrChecked e
  let f ← fsqrChecked a
  let a ← mulChecked c a
  let c ← mulChecked b e
  let e ← addChecked a c
  let a ← subChecked a c
  let b ← fsqrChecked a
  let c ← subChecked d f
  let a ← mulChecked c k121665
  let a ← addChecked a d
  let c ← mulChecked c a
  let a ← mulChecked d f
  let d ← mulChecked b x
  let b ← fsqrChecked e
  return ⟨a, b, c, d⟩

def ladderStepChecked (x : Gfe) (s : Registers) (r : Int64) : Option Registers := do
  let (a, b) ← selChecked s.a s.b r
  let (c, d) ← selChecked s.c s.d r
  let s ← ladderRoundChecked x ⟨a, b, c, d⟩
  let (a, b) ← selChecked s.a s.b r
  let (c, d) ← selChecked s.c s.d r
  return ⟨a, b, c, d⟩

def ladderChecked (z : Vector UInt8 32) (x : Gfe) : Option Registers :=
  Fin.foldlM 255 (fun s (i : Fin 255) => ladderStepChecked x s (scalarBit z i.rev))
    ⟨one, x, zero, one⟩

/-- `scalarMult`, or `none` where a computation on limbs leaves 64 bits. -/
def scalarMultChecked (scalar point : Vector UInt8 32) : Option (Vector UInt8 32) := do
  let z := clamp scalar
  let x ← unpackChecked point
  let s ← ladderChecked z x
  let c ← invChecked s.c
  packChecked (← mulChecked s.a c)

/-! ## Values in the field -/

def prime : ℕ := 2 ^ 255 - 19

/-- The field element that 16 limbs stand for. -/
def element (t : Gfe) : ZMod prime := (value (limb t) : ℤ)

def Within (B : ℤ) (t : Gfe) : Prop := ∀ i, |limb t i| ≤ B

instance (B : ℤ) (t : Gfe) : Decidable (Within B t) :=
  inferInstanceAs (Decidable (∀ i, |limb t i| ≤ B))

/-- Digits, with at most `e` carries from the last limb taken in by limb 0. -/
def Reduced (e : ℤ) (t : Gfe) : Prop :=
  ∃ d q, Digits d ∧ |q| ≤ e ∧ limb t = Function.update d 0 (d 0 + 38 * q)

theorem cast_prime : (prime : ℤ) = 2 ^ 255 - 19 := by
  rw [prime]
  norm_num

theorem two_pow_256 : ((2 ^ 256 : ℤ) : ZMod prime) = 38 := by
  have h : ((2 ^ 256 : ℤ) : ZMod prime) = ((38 : ℤ) : ZMod prime) := by
    rw [ZMod.intCast_eq_intCast_iff_dvd_sub, cast_prime]
    norm_num
  rw [h, Int.cast_ofNat]

theorem Reduced.within {t : Gfe} {e B : ℤ} (h : Reduced e t) (hB : 2 ^ 16 + 38 * e ≤ B) :
    Within B t := by
  obtain ⟨d, q, hd, hq, ht⟩ := h
  have hq' := abs_le.mp hq
  rw [Within, ht]
  refine (Function.forall_update_iff d fun _ x => |x| ≤ B).mpr ⟨?_, fun i _ => ?_⟩
  · have hdigit := hd 0
    exact abs_le.mpr ⟨by omega, by omega⟩
  · have hdigit := hd i
    exact abs_le.mpr ⟨by omega, by omega⟩

theorem Within.mono {t : Gfe} {B B' : ℤ} (h : Within B t) (hB : B ≤ B') : Within B' t :=
  fun i => (h i).trans hB

theorem Reduced.small {t : Gfe} (h : Reduced 1 t) : Within (2 ^ 17) t := h.within (by decide)

theorem Reduced.wide {t : Gfe} (h : Reduced 1 t) : Within (2 ^ 18) t := h.within (by decide)

/-! ## Carry -/

theorem toInt_excess {c : Int64} {q : ℤ} (hc : c.toInt = q + 1) (hq : |q| ≤ 2 ^ 50)
    (last : Prop) [Decidable last] :
    (c - 1 + 37 * (c - 1) * (if last then 1 else 0)).toInt = (if last then 38 else 1) * q := by
  have hle := abs_le.mp hq
  have hpred : (c - 1).toInt = q := by
    have hdiff := toInt_sub hc (by decide : (1 : Int64).toInt = 1) ⟨by omega, by omega⟩
    rwa [add_sub_cancel_right] at hdiff
  have htimes : (37 * (c - 1)).toInt = 37 * q :=
    toInt_mul (by decide) hpred ⟨by omega, by omega⟩
  by_cases h : last
  · rw [if_pos h, if_pos h, Int64.mul_one, toInt_add hpred htimes ⟨by omega, by omega⟩]
    ring
  · rw [if_neg h, if_neg h, Int64.mul_zero, Int64.add_zero, hpred, one_mul]

theorem limb_carryLimb {o : Gfe} {i : Fin 16} (hi : |limb o i| ≤ 2 ^ 60)
    (hnext : |limb o (i + 1)| ≤ 2 ^ 60) :
    limb (carryLimb o i) =
      Function.update (Function.update (limb o) i (limb o i % 2 ^ 16)) (i + 1)
        (limb o (i + 1) + (if i = 15 then 38 else 1) * (limb o i / 2 ^ 16)) := by
  have hne : i ≠ i + 1 := (by decide : ∀ i : Fin 16, i ≠ i + 1) i
  have hlt := abs_le.mp hi
  have hlt' := abs_le.mp hnext
  set q := limb o i / 2 ^ 16 with hq
  have hraise : (o.get i + ((1 : Int64) <<< (16 : Int64))).toInt = limb o i + 2 ^ 16 :=
    toInt_add rfl (by decide) ⟨by omega, by omega⟩
  have hc : ((o.get i + ((1 : Int64) <<< (16 : Int64))) >>> (16 : Int64)).toInt = q + 1 := by
    rw [@toInt_shiftRight _ _ _ 16 hraise (by decide)]
    omega
  have hexcess := toInt_excess hc (abs_le.mpr ⟨by omega, by omega⟩) (i = 15)
  have hle : -2 ^ 60 ≤ (if i = 15 then 38 else 1) * q ∧
      (if i = 15 then 38 else 1) * q ≤ 2 ^ 60 := by
    split <;> constructor <;> omega
  have hlimb := @toInt_add (o.get (i + 1)) _ (limb o (i + 1)) _ rfl hexcess ⟨by omega, by omega⟩
  have hshift := @toInt_shiftLeft _ _ 16 16 hc (by decide) ⟨by omega, by omega⟩
  have hlow : limb o i + 2 ^ 16 - (q + 1) * 2 ^ 16 = limb o i % 2 ^ 16 := by omega
  have hlimb' := toInt_sub hraise hshift ⟨by omega, by omega⟩
  simp only [carryLimb, limb_write, get_write_self, get_write_of_ne _ hne,
    get_write_of_ne _ hne.symm]
  rw [hlimb, hlimb', hlow, Function.update_comm hne.symm, Function.update_idem]

/-- After `k` rounds the limbs below `k` are digits and limb `k` has taken in one carry. -/
def Carried (o : Gfe) (k : ℕ) (t : Gfe) : Prop :=
  value (limb t) = value (limb o) ∧
    Sweep (fun x => 0 ≤ x ∧ x < 2 ^ 16) (|·| ≤ 2 ^ 59) (|·| ≤ 2 ^ 58) k (limb t)

theorem Carried.step {o t : Gfe} (i : Fin 15) (h : Carried o i.1 t) :
    Carried o (i.1 + 1) (carryLimb t i.castSucc) := by
  obtain ⟨hvalue, hlimbs⟩ := h
  have hnext : i.castSucc + 1 = i.succ := Fin.coeSucc_eq_succ
  have hx := (hlimbs i.castSucc).2.1 rfl
  have hy := (hlimbs i.succ).2.2 (Nat.lt_succ_self i.1)
  have hx' := abs_le.mp hx
  have hy' := abs_le.mp hy
  have hlast : i.castSucc ≠ 15 := Fin.castSucc_ne_last i
  rw [Carried, limb_carryLimb (hx.trans (by decide)) (hnext ▸ hy.trans (by decide)), hnext,
    if_neg hlast, one_mul]
  constructor
  · have hkept : limb t i.castSucc % 2 ^ 16 +
        2 ^ 16 * (limb t i.succ + limb t i.castSucc / 2 ^ 16) -
        (limb t i.castSucc + 2 ^ 16 * limb t i.succ) = 0 := by omega
    rw [value_step, hkept, zero_mul, add_zero, hvalue]
  · exact hlimbs.step ⟨by omega, by omega⟩ (abs_le.mpr ⟨by omega, by omega⟩)

/-- The limbs keep digits, and what the last limb hands on comes back 38-fold. -/
theorem carry_spec {o : Gfe} (ho : Within (2 ^ 58) o) :
    ∃ d q, Digits d ∧ value (limb o) = value d + q * 2 ^ 256 ∧
      limb (carry o) = Function.update d 0 (d 0 + 38 * q) := by
  have hcarried : Carried o 15 (Fin.foldl 15 (fun t i => carryLimb t i.castSucc) o) :=
    foldl_invariant (Carried o)
      ⟨rfl, Sweep.init ((ho 0).trans (by decide)) fun j _ => ho j⟩
      fun i t h => h.step i
  rw [carry, Fin.foldl_succ_last]
  generalize Fin.foldl 15 (fun t i => carryLimb t i.castSucc) o = t at hcarried ⊢
  obtain ⟨hvalue, hlimbs⟩ := hcarried
  have hlast := (hlimbs 15).2.1 rfl
  have hfirst := (hlimbs 0).1 (by decide)
  refine ⟨Function.update (limb t) 15 (limb t 15 % 2 ^ 16), limb t 15 / 2 ^ 16, ?_, ?_, ?_⟩
  · exact Digits.update hlimbs.below ⟨by omega, by omega⟩
  · rw [value_update, hvalue]
    have hsplit := Int.emod_add_mul_ediv (limb t 15) (2 ^ 16)
    have hpow : (2 : ℤ) ^ 256 = 2 ^ 16 * 2 ^ (16 * (15 : Fin 16).1) := by norm_num
    rw [hpow]
    linear_combination -2 ^ (16 * (15 : Fin 16).1) * hsplit
  · have hnext : (15 : Fin 16) + 1 = 0 := rfl
    have hbound : |limb t (15 + 1)| ≤ 2 ^ 60 := by
      rw [hnext]
      exact abs_le.mpr ⟨by omega, by omega⟩
    change limb (carryLimb t 15) = _
    rw [limb_carryLimb (hlast.trans (by decide)) hbound, hnext, if_pos rfl,
      Function.update_of_ne (by decide : (0 : Fin 16) ≠ 15)]

theorem Reduced.value {t : Gfe} {e : ℤ} (h : Reduced e t) :
    -38 * e ≤ value (limb t) ∧ value (limb t) < 2 ^ 256 + 38 * e := by
  obtain ⟨d, q, hd, hq, ht⟩ := h
  have hq' := abs_le.mp hq
  have hlt := hd.value_lt
  rw [ht, value_update]
  simp only [Fin.val_zero, Nat.mul_zero, pow_zero, mul_one]
  norm_num at hlt ⊢
  omega

theorem carry_element {o : Gfe} (ho : Within (2 ^ 58) o) : element (carry o) = element o := by
  obtain ⟨d, q, -, hvalue, hlimb⟩ := carry_spec ho
  have hcarry : Limbs.value (limb (carry o)) = Limbs.value d + 38 * q := by
    rw [hlimb, value_update]
    simp
  rw [element, element, hvalue, hcarry, Int.cast_add, Int.cast_add, Int.cast_mul, Int.cast_mul,
    two_pow_256, Int.cast_ofNat, mul_comm]

theorem carry_reduced {o : Gfe} {B : ℤ} (hB : B ≤ 2 ^ 58) (ho : Within B o) :
    Reduced B (carry o) := by
  obtain ⟨d, q, hd, hvalue, hlimb⟩ := carry_spec (ho.mono hB)
  have hlt := hd.value_lt
  have hle := abs_le.mp (abs_value_le ho)
  refine ⟨d, q, hd, ?_, hlimb⟩
  norm_num at hlt hle hvalue
  exact abs_le.mpr ⟨by omega, by omega⟩

theorem Reduced.carry {t : Gfe} {e : ℤ} (he : e ≤ 2 ^ 52) (h : Reduced e t) :
    Reduced 1 (carry t) := by
  obtain ⟨d, q, hd, hvalue, hlimb⟩ := carry_spec (h.within (by omega))
  have hlt := hd.value_lt
  have hrange := h.value
  refine ⟨d, q, hd, ?_, hlimb⟩
  norm_num at hlt hvalue hrange
  exact abs_le.mpr ⟨by omega, by omega⟩

theorem Reduced.digits {t : Gfe} (h : Reduced 1 t) : Digits (limb (ZigbeeCurve25519.carry t)) := by
  obtain ⟨d, q, hd, hvalue, hlimb⟩ := carry_spec (h.within (by decide))
  have hrange := h.value
  have hsplit := value_succ d
  have hrest := @Digits.value_lt 15 (fun i => d i.succ) fun i => hd i.succ
  have hfirst := hd 0
  have hlt := hd.value_lt
  norm_num at hlt hvalue hrange hrest hsplit
  rw [hlimb]
  exact Digits.update (fun i _ => hd i) ⟨by omega, by omega⟩

/-! ## Multiplication -/

theorem product_abs_le {a b : Gfe} (ha : Within (2 ^ 18) a) (hb : Within (2 ^ 18) b)
    (i j : Fin 16) : |limb a i * limb b j| ≤ 2 ^ 36 := by
  rw [abs_mul]
  exact mul_le_mul (ha i) (hb j) (abs_nonneg _) (by decide)

theorem column_step {a b : Gfe} {t : Vector Int64 31} {B : ℤ} (ha : Within (2 ^ 18) a)
    (hb : Within (2 ^ 18) b) (ht : ∀ c, |limb t c| ≤ B) (hB : B ≤ 2 ^ 60) (i j : Fin 16) :
    (∀ c, |limb (write t (column i j) (t.get (column i j) + a.get i * b.get j)) c| ≤ B + 2 ^ 36) ∧
      value (limb (write t (column i j) (t.get (column i j) + a.get i * b.get j))) =
        value (limb t) + limb a i * 2 ^ (16 * i.1) * (limb b j * 2 ^ (16 * j.1)) := by
  have hproduct := product_abs_le ha hb i j
  have hmul : (a.get i * b.get j).toInt = limb a i * limb b j :=
    toInt_mul rfl rfl (fits_of_abs hproduct (by decide))
  have hcolumn := abs_le.mp (ht (column i j))
  have hproduct' := abs_le.mp hproduct
  have hadd : (t.get (column i j) + a.get i * b.get j).toInt =
      limb t (column i j) + limb a i * limb b j :=
    toInt_add rfl hmul ⟨by omega, by omega⟩
  rw [limb_write, hadd]
  constructor
  · exact (Function.forall_update_iff (limb t) fun _ x => |x| ≤ B + 2 ^ 36).mpr
      ⟨abs_le.mpr ⟨by omega, by omega⟩, fun c _ => (ht c).trans (by omega)⟩
  · have hpow : (2 : ℤ) ^ (16 * (column i j).1) = 2 ^ (16 * i.1) * 2 ^ (16 * j.1) := by
      rw [← pow_add, ← Nat.mul_add]
      rfl
    rw [value_update, hpow]
    ring

theorem columns_spec {a b : Gfe} (ha : Within (2 ^ 18) a) (hb : Within (2 ^ 18) b) :
    (∀ c, |limb (columns a b) c| ≤ 2 ^ 44) ∧
      value (limb (columns a b)) = value (limb a) * value (limb b) := by
  have hzero : ∀ c, limb (Vector.replicate 31 (0 : Int64)) c = 0 := by
    intro c
    exact congrArg Int64.toInt (Vector.getElem_replicate _)
  have hrow : ∀ (i : Fin 16) (t : Vector Int64 31),
      (∀ c, |limb t c| ≤ i.1 * 2 ^ 40) →
        let t' := Fin.foldl 16 (fun t (j : Fin 16) =>
          write t (column i j) (t.get (column i j) + a.get i * b.get j)) t
        (∀ c, |limb t' c| ≤ (i.1 + 1 : ℕ) * 2 ^ 40) ∧
          value (limb t') = value (limb t) + limb a i * 2 ^ (16 * i.1) * value (limb b) := by
    intro i t ht
    have hloop := foldl_sum (fun k t => ∀ c, |limb t c| ≤ i.1 * 2 ^ 40 + k * 2 ^ 36)
      (fun t => value (limb t)) (fun j => limb a i * 2 ^ (16 * i.1) * (limb b j * 2 ^ (16 * j.1)))
      (fun c => (ht c).trans (by omega)) fun j t h => by
        obtain ⟨hbound, hvalue⟩ := column_step ha hb h (by omega) i j
        exact ⟨fun c => (hbound c).trans (by push_cast; omega), hvalue⟩
    rw [← Finset.mul_sum] at hloop
    exact ⟨fun c => (hloop.1 c).trans (by push_cast; omega), hloop.2⟩
  have hloop := foldl_sum (fun k t => ∀ c, |limb t c| ≤ k * 2 ^ 40)
    (fun t => value (limb t)) (fun i => limb a i * 2 ^ (16 * i.1) * value (limb b))
    (fun c => by rw [hzero c]; decide) hrow
  rw [← Finset.sum_mul] at hloop
  refine ⟨fun c => (hloop.1 c).trans (by decide), hloop.2.trans ?_⟩
  rw [value, Finset.sum_congr rfl fun c _ => by rw [hzero c, zero_mul], Finset.sum_const_zero,
    zero_add]
  rfl

def Folded (t : Vector Int64 31) (k : ℕ) (s : Vector Int64 31) : Prop :=
  (∀ i : Fin 15, i.1 < k → limb s (Fin.castAdd 16 i) =
    limb t (Fin.castAdd 16 i) + 38 * limb t (Fin.natAdd 16 i)) ∧
  ∀ c : Fin 31, k ≤ c.1 → limb s c = limb t c

theorem Folded.init (t : Vector Int64 31) : Folded t 0 t :=
  ⟨fun _ h => absurd h (Nat.not_lt_zero _), fun _ _ => rfl⟩

theorem Folded.step {t s : Vector Int64 31} (ht : ∀ c, |limb t c| ≤ 2 ^ 44) (i : Fin 15)
    (h : Folded t i.1 s) :
    Folded t (i.1 + 1) (write s (Fin.castAdd 16 i)
      (s.get (Fin.castAdd 16 i) + 38 * s.get (Fin.natAdd 16 i))) := by
  obtain ⟨hbelow, habove⟩ := h
  have hlow := habove (Fin.castAdd 16 i) (Nat.le_refl _)
  have hhigh := habove (Fin.natAdd 16 i) (Nat.le_add_left _ _)
  have hle := abs_le.mp (ht (Fin.castAdd 16 i))
  have hle' := abs_le.mp (ht (Fin.natAdd 16 i))
  have htimes : (38 * s.get (Fin.natAdd 16 i)).toInt = 38 * limb t (Fin.natAdd 16 i) :=
    toInt_mul (by decide) hhigh ⟨by omega, by omega⟩
  have hsum : (s.get (Fin.castAdd 16 i) + 38 * s.get (Fin.natAdd 16 i)).toInt =
      limb t (Fin.castAdd 16 i) + 38 * limb t (Fin.natAdd 16 i) :=
    toInt_add hlow htimes ⟨by omega, by omega⟩
  rw [Folded, limb_write, hsum]
  constructor
  · intro j hj
    by_cases hij : j = i
    · subst hij
      rw [Function.update_self]
    · have hval : j.1 ≠ i.1 := fun h => hij (Fin.ext h)
      have hne : (Fin.castAdd 16 j : Fin 31) ≠ Fin.castAdd 16 i := fun h => hval (Fin.mk.inj h)
      rw [Function.update_of_ne hne]
      exact hbelow j (by omega)
  · intro c hc
    rw [Function.update_of_ne fun h => by rw [h] at hc; exact Nat.not_succ_le_self _ hc]
    exact habove c (by omega)

theorem foldColumns_folded {t : Vector Int64 31} (ht : ∀ c, |limb t c| ≤ 2 ^ 44) :
    Folded t 15 (foldColumns t) :=
  foldl_invariant (Folded t) (Folded.init t) fun i _ h => h.step ht i

/-- The 16 columns that are left have the same value in the field. -/
theorem foldColumns_spec {t : Vector Int64 31} (ht : ∀ c, |limb t c| ≤ 2 ^ 44) :
    let o : Gfe := Vector.ofFn fun i => (foldColumns t).get (Fin.castAdd 15 i)
    Within (2 ^ 50) o ∧ element o = (value (limb t) : ℤ) := by
  obtain ⟨hbelow, habove⟩ := foldColumns_folded ht
  intro o
  have ho : limb o = fun i => limb (foldColumns t) (Fin.castAdd 15 i) := limb_ofFn _
  have hlow : ∀ i : Fin 15, limb o i.castSucc =
      limb t (Fin.castAdd 16 i) + 38 * limb t (Fin.natAdd 16 i) := by
    intro i
    rw [ho]
    exact hbelow i i.2
  have hlast : limb o (Fin.last 15) = limb t 15 := by
    rw [ho]
    exact habove 15 (by decide)
  constructor
  · intro i
    refine Fin.lastCases ?_ (fun i => ?_) i
    · rw [hlast]
      exact (ht 15).trans (by decide)
    · have hle := abs_le.mp (ht (Fin.castAdd 16 i))
      have hle' := abs_le.mp (ht (Fin.natAdd 16 i))
      rw [hlow]
      exact abs_le.mpr ⟨by omega, by omega⟩
  · have hsplit := @value_split 16 15 (limb t)
    have hvalue : value (limb o) = value (fun i : Fin 16 => limb t (Fin.castAdd 15 i)) +
        38 * value (fun i : Fin 15 => limb t (Fin.natAdd 16 i)) := by
      rw [value_castSucc, funext hlow, hlast, value_add, value_mul,
        value_castSucc fun i : Fin 16 => limb t (Fin.castAdd 15 i)]
      exact add_right_comm _ _ _
    rw [element, hvalue, hsplit, Int.cast_add, Int.cast_add, Int.cast_mul, Int.cast_mul,
      two_pow_256, Int.cast_ofNat]

theorem mul_spec {a b : Gfe} (ha : Within (2 ^ 18) a) (hb : Within (2 ^ 18) b) :
    Reduced 1 (mul a b) ∧ element (mul a b) = element a * element b := by
  obtain ⟨hcolumns, hvalue⟩ := columns_spec ha hb
  obtain ⟨hwithin, helement⟩ := foldColumns_spec hcolumns
  have hfirst := carry_reduced (by decide) hwithin
  constructor
  · exact hfirst.carry (by decide)
  · rw [mul, carry_element (hfirst.within (by decide)),
      carry_element (hwithin.mono (by decide)), helement, hvalue, Int.cast_mul]
    rfl

theorem fsqr_spec {a : Gfe} (ha : Within (2 ^ 18) a) :
    Reduced 1 (fsqr a) ∧ element (fsqr a) = element a ^ 2 := by
  rw [sq]
  exact mul_spec ha ha

theorem add_spec {a b : Gfe} (ha : Within (2 ^ 17) a) (hb : Within (2 ^ 17) b) :
    Within (2 ^ 18) (add a b) ∧ element (add a b) = element a + element b := by
  have hlimb : limb (add a b) = fun i => limb a i + limb b i := by
    rw [add, limb_ofFn]
    funext i
    have hle := abs_le.mp (ha i)
    have hle' := abs_le.mp (hb i)
    exact toInt_add rfl rfl ⟨by omega, by omega⟩
  constructor
  · intro i
    rw [hlimb]
    exact (abs_add_le _ _).trans ((add_le_add (ha i) (hb i)).trans (by decide))
  · rw [element, hlimb, value_add, Int.cast_add]
    rfl

theorem sub_spec {a b : Gfe} (ha : Within (2 ^ 17) a) (hb : Within (2 ^ 17) b) :
    Within (2 ^ 18) (sub a b) ∧ element (sub a b) = element a - element b := by
  have hlimb : limb (sub a b) = fun i => limb a i - limb b i := by
    rw [sub, limb_ofFn]
    funext i
    have hle := abs_le.mp (ha i)
    have hle' := abs_le.mp (hb i)
    exact toInt_sub rfl rfl ⟨by omega, by omega⟩
  constructor
  · intro i
    rw [hlimb]
    exact (abs_sub _ _).trans ((add_le_add (ha i) (hb i)).trans (by decide))
  · rw [element, hlimb, value_sub, Int.cast_sub]
    rfl

/-! ## Constants and swaps -/

theorem element_zero : element zero = 0 := by
  have hvalue : value (limb zero) = 0 := by decide
  rw [element, hvalue, Int.cast_zero]

theorem element_one : element one = 1 := by
  have hvalue : value (limb one) = 1 := by decide
  rw [element, hvalue, Int.cast_one]

theorem element_k121665 : element k121665 = 121665 := by
  have hvalue : value (limb k121665) = 121665 := by decide
  rw [element, hvalue, Int.cast_ofNat]

theorem zero_within : Within (2 ^ 17) zero := by decide

theorem one_within : Within (2 ^ 17) one := by decide

theorem k121665_within : Within (2 ^ 18) k121665 := by decide

private theorem vector_ofFn_get (p : Gfe) : Vector.ofFn p.get = p :=
  eq_of_limb (limb_ofFn _)

theorem sel_zero (p q : Gfe) : sel p q 0 = (p, q) := by
  have hlimb : ∀ x y : Int64, selLimb (~~~(0 - 1)) x y = (x, y) := by
    intro x y
    have hmask : ~~~((0 : Int64) - 1) = 0 := by decide
    rw [selLimb, hmask, Int64.zero_and, Int64.xor_zero, Int64.xor_zero]
  simp only [sel, hlimb, vector_ofFn_get]

theorem sel_one (p q : Gfe) : sel p q 1 = (q, p) := by
  have hlimb : ∀ x y : Int64, selLimb (~~~(1 - 1)) x y = (y, x) := by
    intro x y
    have hmask : ~~~((1 : Int64) - 1) = -1 := by decide
    have hback : y ^^^ (x ^^^ y) = x := by
      rw [Int64.xor_comm x y, ← Int64.xor_assoc, Int64.xor_self, Int64.zero_xor]
    rw [selLimb, hmask, Int64.neg_one_and, hback, ← Int64.xor_assoc, Int64.xor_self,
      Int64.zero_xor]
  simp only [sel, hlimb, vector_ofFn_get]

/-! ## Inversion -/

/-- The exponent of the running power after `k` rounds. -/
def inverseExponent (k : ℕ) : ℕ :=
  k.fold (fun i _ e => 2 * e + if 253 - i ≠ 2 ∧ 253 - i ≠ 4 then 1 else 0) 1

theorem inverseExponent_last : inverseExponent 254 = prime - 2 := by
  decide +kernel

theorem inv_spec {x : Gfe} (hx : Within (2 ^ 17) x) :
    Within (2 ^ 17) (inv x) ∧ element (inv x) = element x ^ (prime - 2) := by
  rw [← inverseExponent_last]
  apply foldl_invariant fun k c =>
    Within (2 ^ 17) c ∧ element c = element x ^ inverseExponent k
  · exact ⟨hx, (pow_one _).symm⟩
  intro i c h
  obtain ⟨hwithin, helement⟩ := h
  obtain ⟨hsquare, hsquare'⟩ := fsqr_spec (hwithin.mono (by decide))
  have hsucc : inverseExponent (i.1 + 1) = 2 * inverseExponent i.1 +
      if 253 - i.1 ≠ 2 ∧ 253 - i.1 ≠ 4 then 1 else 0 := Nat.fold_succ ..
  have hpower : element (fsqr c) = element x ^ (2 * inverseExponent i.1) := by
    rw [hsquare', helement, ← pow_mul, mul_comm]
  rw [hsucc]
  by_cases hround : 253 - i.1 ≠ 2 ∧ 253 - i.1 ≠ 4
  · simp only [if_pos hround]
    obtain ⟨hmul, hmul'⟩ := mul_spec hsquare.wide (hx.mono (by decide))
    exact ⟨hmul.small, by rw [hmul', hpower, pow_succ]⟩
  · simp only [if_neg hround]
    exact ⟨hsquare.small, hpower⟩

/-! ## Subtraction of the prime -/

def primeLimb (i : Fin 16) : ℤ :=
  if i = 0 then 0xffed else if i = 15 then 0x7fff else 0xffff

theorem value_primeLimb : value primeLimb = prime := by
  decide +kernel

/-- Limb `k` has been subtracted and still owes its borrow; the limbs above are not yet written. -/
def Borrowed (k : ℕ) (m : Gfe) : Prop :=
  Sweep (fun x => 0 ≤ x ∧ x < 2 ^ 16) (fun x => -2 ^ 16 ≤ x ∧ x < 2 ^ 16) (· = 0) k (limb m)

theorem toInt_borrow {x : Int64} (hx : -2 ^ 16 ≤ x.toInt ∧ x.toInt < 2 ^ 16) :
    ((x >>> (16 : Int64)) &&& (1 : Int64)).toInt = -(x.toInt / 2 ^ 16) := by
  rw [@toInt_and_ones _ _ 1 1 (@toInt_shiftRight _ _ _ 16 rfl (by decide)) (by decide) (by decide)]
  omega

theorem borrow_step {t m : Gfe} {i : Fin 15} {P : Int64} (ht : Digits (limb t))
    (hP : P.toInt = primeLimb i.succ) (h : Borrowed i.1 m) :
    let m₁ := write m i.succ
      (t.get i.succ - P - ((m.get i.castSucc >>> (16 : Int64)) &&& (1 : Int64)))
    let m' := write m₁ i.castSucc (m₁.get i.castSucc &&& 0xffff)
    Borrowed (i.1 + 1) m' ∧ value (limb m') =
      value (limb m) + (limb t i.succ - primeLimb i.succ) * 2 ^ (16 * i.succ.1) := by
  have hx := (h i.castSucc).2.1 rfl
  have hzero := (h i.succ).2.2 (Nat.lt_succ_self i.1)
  have hdigit := ht i.succ
  have hne : i.castSucc ≠ i.succ := i.castSucc_lt_succ.ne
  have hprime : 0 ≤ primeLimb i.succ ∧ primeLimb i.succ < 2 ^ 16 :=
    (by decide : ∀ i, 0 ≤ primeLimb i ∧ primeLimb i < 2 ^ 16) i.succ
  have hborrow : ((m.get i.castSucc >>> (16 : Int64)) &&& (1 : Int64)).toInt =
      -(limb m i.castSucc / 2 ^ 16) := toInt_borrow hx
  have hmask : (m.get i.castSucc &&& (0xffff : Int64)).toInt = limb m i.castSucc % 2 ^ 16 :=
    @toInt_and_ones _ _ 0xffff 16 rfl (by decide) (by decide)
  have hdiff : (t.get i.succ - P).toInt = limb t i.succ - primeLimb i.succ :=
    toInt_sub rfl hP ⟨by omega, by omega⟩
  have hnext := toInt_sub hdiff hborrow ⟨by omega, by omega⟩
  rw [sub_neg_eq_add] at hnext
  intro m₁ m'
  have hlimb : limb m' = Function.update (Function.update (limb m) i.castSucc
      (limb m i.castSucc % 2 ^ 16)) i.succ
      (limb t i.succ - primeLimb i.succ + limb m i.castSucc / 2 ^ 16) := by
    rw [limb_write, limb_write, get_write_of_ne _ hne.symm, hnext, hmask,
      Function.update_comm hne.symm]
  rw [Borrowed, hlimb]
  constructor
  · exact Sweep.step h ⟨by omega, by omega⟩ ⟨by omega, by omega⟩
  · have hkept : limb m i.castSucc % 2 ^ 16 +
        2 ^ 16 * (limb t i.succ - primeLimb i.succ + limb m i.castSucc / 2 ^ 16) -
        (limb m i.castSucc + 2 ^ 16 * limb m i.succ) =
        2 ^ 16 * (limb t i.succ - primeLimb i.succ) := by omega
    rw [value_step, hkept, Fin.val_succ, Nat.mul_succ, pow_add]
    ring

theorem first_borrowed {t : Gfe} (ht : Digits (limb t)) :
    Borrowed 0 (write zero 0 (t.get 0 - 0xffed)) ∧
      value (limb (write zero 0 (t.get 0 - 0xffed))) = limb t 0 - primeLimb 0 := by
  have hzero : ∀ j, limb zero j = 0 := by decide
  have hvalue : value (limb zero) = 0 := by decide
  have hprime : primeLimb 0 = 0xffed := rfl
  have hfirst := ht 0
  have hdiff : (t.get 0 - 0xffed).toInt = limb t 0 - primeLimb 0 :=
    toInt_sub rfl (by decide) ⟨by omega, by omega⟩
  rw [Borrowed, limb_write, hdiff]
  constructor
  · apply Sweep.init
    · rw [Function.update_self, hprime]
      exact ⟨by omega, by omega⟩
    · intro j hj
      rw [Function.update_of_ne hj, hzero]
  · rw [value_update, hvalue, hzero]
    simp

/-- The difference that `subtractPrime` computes before it decides. -/
private theorem subtractPrime_difference {t : Gfe} (ht : Digits (limb t)) :
    ∃ m : Gfe, subtractPrime t =
        (sel t m ((1 : Int64) - ((m.get 15 >>> (16 : Int64)) &&& (1 : Int64)))).1 ∧
      Borrowed 15 m ∧ value (limb m) = value (limb t) - prime := by
  have hmiddle : ∀ k : Fin 14, (0xffff : Int64).toInt = primeLimb k.castSucc.succ := by decide
  obtain ⟨hinit, hstart⟩ := first_borrowed ht
  obtain ⟨hloop, hvalue⟩ := foldl_sum Borrowed (fun m => value (limb m))
    (fun k : Fin 14 => (limb t k.castSucc.succ - primeLimb k.castSucc.succ) *
      2 ^ (16 * k.castSucc.succ.1)) hinit
    fun k m h => @borrow_step t m k.castSucc 0xffff ht (hmiddle k) h
  have hlast := @borrow_step t _ (Fin.last 14) 0x7fff ht (by decide) hloop
  refine ⟨_, ?_, hlast.1, ?_⟩
  · rw [get_write_of_ne _ (by decide : (Fin.last 14).castSucc ≠ 15)]
    rfl
  · have hsum := value_succ_sum fun i => limb t i - primeLimb i
    rw [Fin.sum_univ_castSucc, ← add_assoc] at hsum
    rw [hlast.2, hvalue, hstart, ← value_primeLimb, ← value_sub, hsum]

theorem subtractPrime_spec {t : Gfe} (ht : Digits (limb t)) :
    Digits (limb (subtractPrime t)) ∧ value (limb (subtractPrime t)) =
      if value (limb t) < prime then value (limb t) else value (limb t) - prime := by
  obtain ⟨m, hm, hborrowed, hvalue⟩ := subtractPrime_difference ht
  have hlast := (hborrowed 15).2.1 rfl
  have hborrow : ((m.get 15 >>> (16 : Int64)) &&& (1 : Int64)).toInt = -(limb m 15 / 2 ^ 16) :=
    toInt_borrow hlast
  have hsplit := value_castSucc (limb m)
  have hlow := @Digits.value_lt 15 (fun i => limb m i.castSucc) fun i =>
    hborrowed.below i.castSucc (Fin.castSucc_ne_last i)
  have hsign : value (limb m) < 0 ↔ limb m 15 < 0 := by
    change value (limb m) = _ + limb m 15 * _ at hsplit
    norm_num at hsplit hlow
    omega
  rw [hm]
  by_cases hlt : value (limb t) < prime
  · have hneg := hsign.mp (by omega)
    have hb : (m.get 15 >>> (16 : Int64)) &&& (1 : Int64) = 1 := by
      apply Int64.toInt_inj.mp
      rw [hborrow]
      change -(limb m 15 / 2 ^ 16) = 1
      omega
    rw [hb, if_pos hlt]
    change Digits (limb (sel t m 0).1) ∧ value (limb (sel t m 0).1) = _
    rw [sel_zero]
    exact ⟨ht, rfl⟩
  · have hpos : 0 ≤ limb m 15 := by omega
    have hb : (m.get 15 >>> (16 : Int64)) &&& (1 : Int64) = 0 := by
      apply Int64.toInt_inj.mp
      rw [hborrow]
      change -(limb m 15 / 2 ^ 16) = 0
      omega
    rw [hb, if_neg hlt]
    change Digits (limb (sel t m 1).1) ∧ value (limb (sel t m 1).1) = _
    rw [sel_one]
    refine ⟨Fin.lastCases ⟨hpos, hlast.2⟩ fun j => ?_, hvalue⟩
    exact hborrowed.below j.castSucc (Fin.castSucc_ne_last j)

/-! ## The representative below the prime -/

/-- The limbs that `pack` writes. -/
def canonical (n : Gfe) : Gfe := subtractPrime (subtractPrime (carry (carry (carry n))))

theorem digits_reduced {t : Gfe} (h : Digits (limb t)) : Reduced 1 t := by
  refine ⟨limb t, 0, h, by decide, ?_⟩
  rw [mul_zero, add_zero, Function.update_eq_self]

private theorem subtractPrime_element {t : Gfe} (ht : Digits (limb t)) :
    element (subtractPrime t) = element t := by
  rw [element, (subtractPrime_spec ht).2]
  split
  · rfl
  · rw [Int.cast_sub, Int.cast_natCast, ZMod.natCast_self, sub_zero]
    rfl

theorem canonical_spec {n : Gfe} (hn : Reduced 1 n) :
    Digits (limb (canonical n)) ∧ value (limb (canonical n)) < prime ∧
      element (canonical n) = element n := by
  have hfirst := hn.digits
  have hsecond := (digits_reduced hfirst).digits
  have hthird := (digits_reduced hsecond).digits
  obtain ⟨hpass, hvalue⟩ := subtractPrime_spec hthird
  obtain ⟨hpass', hvalue'⟩ := subtractPrime_spec hpass
  refine ⟨hpass', ?_, ?_⟩
  · have hlt := hthird.value_lt
    have hprime := cast_prime
    norm_num at hlt hprime
    have hpasslt : value (limb (subtractPrime (carry (carry (carry n))))) < 2 * prime := by
      rw [hvalue]
      split
      · omega
      · omega
    rw [canonical, hvalue']
    split
    · assumption
    · omega
  · have hwide : ∀ {t : Gfe}, Reduced 1 t → Within (2 ^ 58) t := fun h => h.within (by decide)
    rw [canonical, subtractPrime_element hpass, subtractPrime_element hthird,
      carry_element (hwide (digits_reduced hsecond)), carry_element (hwide (digits_reduced hfirst)),
      carry_element (hwide hn)]

theorem canonical_eq {m n : Gfe} (hm : Reduced 1 m) (hn : Reduced 1 n)
    (h : element m = element n) : canonical m = canonical n := by
  obtain ⟨hdigits, hlt, helement⟩ := canonical_spec hm
  obtain ⟨hdigits', hlt', helement'⟩ := canonical_spec hn
  rw [← helement, ← helement', element, element, ZMod.intCast_eq_intCast_iff, Int.ModEq,
    Int.emod_eq_of_lt hdigits.value_lt.1 hlt, Int.emod_eq_of_lt hdigits'.value_lt.1 hlt'] at h
  exact eq_of_limb (hdigits.eq hdigits' h)

/-! ## Bytes -/

theorem pack_congr {m n : Gfe} (hm : Reduced 1 m) (hn : Reduced 1 n) (h : element m = element n) :
    pack m = pack n := by
  have hcanonical := canonical_eq hm hn h
  rw [canonical, canonical] at hcanonical
  rw [pack, pack, hcanonical]

/-- The little-endian word `i`. -/
def word (b : Vector UInt8 32) (i : Fin 16) : ℤ := b[2 * i.1].toNat + b[2 * i.1 + 1].toNat * 2 ^ 8

theorem word_digits (b : Vector UInt8 32) : Digits (word b) := by
  intro i
  have hlow := b[2 * i.1].toNat_lt
  have hhigh := b[2 * i.1 + 1].toNat_lt
  rw [word]
  omega

theorem limb_unpack (b : Vector UInt8 32) :
    limb (unpack b) = Function.update (word b) 15 (word b 15 % 2 ^ 15) := by
  have hword : ∀ i : Fin 16, (b[2 * i.1].toUInt64.toInt64 +
      (b[2 * i.1 + 1].toUInt64.toInt64 <<< 8)).toInt = word b i := by
    intro i
    have hlow := b[2 * i.1].toNat_lt
    have hhigh := b[2 * i.1 + 1].toNat_lt
    have hshift := @toInt_shiftLeft _ _ 8 8 (toInt_ofByte b[2 * i.1 + 1]) (by decide)
      ⟨by omega, by omega⟩
    exact toInt_add (toInt_ofByte b[2 * i.1]) hshift ⟨by omega, by omega⟩
  have hmask : ∀ x : Int64, (x &&& 0x7fff).toInt = x.toInt % 2 ^ 15 := fun x =>
    @toInt_and_ones x _ 0x7fff 15 rfl (by decide) (by decide)
  have hlimb := (limb_ofFn fun i : Fin 16 => b[2 * i.1].toUInt64.toInt64 +
    (b[2 * i.1 + 1].toUInt64.toInt64 <<< 8)).trans (funext hword)
  rw [unpack, limb_write, hlimb, hmask]
  exact congrArg (Function.update (word b) 15) (congrArg (· % 2 ^ 15) (congrFun hlimb 15))

theorem unpack_within (b : Vector UInt8 32) : Within (2 ^ 17) (unpack b) := by
  have hdigits : Digits (limb (unpack b)) := by
    rw [limb_unpack]
    exact Digits.update (fun i _ => word_digits b i) ⟨by omega, by omega⟩
  intro i
  have hdigit := hdigits i
  exact abs_le.mpr ⟨by omega, by omega⟩

theorem word_pack {n : Gfe} (hn : Reduced 1 n) : word (pack n) = limb (canonical n) := by
  funext i
  have hdigit := (canonical_spec hn).1 i
  have hlow : (pack n)[2 * i.1] = ((canonical n).get i &&& 0xff).toUInt64.toUInt8 := by
    have hhalf : 2 * i.1 / 2 = i.1 := by omega
    simp only [pack, Vector.getElem_ofFn, Nat.mul_mod_right, if_true, hhalf]
    rfl
  have hhigh : (pack n)[2 * i.1 + 1] = ((canonical n).get i >>> 8).toUInt64.toUInt8 := by
    have hhalf : (2 * i.1 + 1) / 2 = i.1 := by omega
    have hodd : ¬(2 * i.1 + 1) % 2 = 0 := by omega
    simp only [pack, Vector.getElem_ofFn, if_neg hodd, hhalf]
    rfl
  have hmask : ((canonical n).get i &&& 0xff).toInt = limb (canonical n) i % 2 ^ 8 :=
    @toInt_and_ones _ _ 0xff 8 rfl (by decide) (by decide)
  have hshift : ((canonical n).get i >>> 8).toInt = limb (canonical n) i / 2 ^ 8 :=
    @toInt_shiftRight _ _ 8 8 rfl (by decide)
  rw [word, hlow, hhigh, toNat_toByte, toNat_toByte, hmask, hshift]
  · omega
  · rw [hshift]
    omega
  · rw [hshift]
    omega
  · rw [hmask]
    omega
  · rw [hmask]
    omega

theorem unpack_pack {n : Gfe} (hn : Reduced 1 n) : element (unpack (pack n)) = element n := by
  obtain ⟨hdigits, hlt, helement⟩ := canonical_spec hn
  have hlast : limb (canonical n) 15 % 2 ^ 15 = limb (canonical n) 15 := by
    have hsplit := value_castSucc (limb (canonical n))
    have hlow := @Digits.value_lt 15 (fun i => limb (canonical n) i.castSucc) fun i =>
      hdigits i.castSucc
    have hdigit := hdigits 15
    change value (limb (canonical n)) = _ + limb (canonical n) 15 * _ at hsplit
    have hprime := cast_prime
    norm_num at hsplit hlow hprime
    omega
  rw [← helement, element, element, limb_unpack, word_pack hn, hlast, Function.update_eq_self]

end NiusZigbee.ZigbeeCurve25519
