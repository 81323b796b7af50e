import NiusZigbee.Security.Curve25519Ladder

/-!
# X25519 with checked arithmetic

On what `scalarMult` meets no check of a sum, difference, product or left shift of limbs fails, and
the plain functions are exact.
-/

namespace NiusZigbee.ZigbeeCurve25519

open Limbs

/-! ## Carry -/

private theorem excess_checked {c : Int64} {q : ℤ} (hc : c.toInt = q + 1) (hq : |q| ≤ 2 ^ 50)
    (last : Prop) [Decidable last] :
    checkedSub c 1 = some (c - 1) ∧ checkedMul 37 (c - 1) = some (37 * (c - 1)) ∧
      checkedMul (37 * (c - 1)) (if last then 1 else 0) =
        some (37 * (c - 1) * (if last then 1 else 0)) ∧
      checkedAdd (c - 1) (37 * (c - 1) * (if last then 1 else 0)) =
        some (c - 1 + 37 * (c - 1) * (if last then 1 else 0)) := by
  have hle := abs_le.mp hq
  have hone : (1 : Int64).toInt = 1 := by decide
  have hpred : (c - 1).toInt = q + 1 - 1 := toInt_sub hc hone ⟨by omega, by omega⟩
  have hthirty : (37 : Int64).toInt = 37 := by decide
  have htimes : (37 * (c - 1)).toInt = 37 * (q + 1 - 1) :=
    toInt_mul hthirty hpred ⟨by omega, by omega⟩
  have hlast : (if last then 1 else 0 : Int64).toInt = if last then 1 else 0 := by
    split
    · exact hone
    · rfl
  have hfits : Fits (37 * (q + 1 - 1) * if last then 1 else 0) := by
    split
    · exact ⟨by omega, by omega⟩
    · exact ⟨by omega, by omega⟩
  have hproduct := toInt_mul htimes hlast hfits
  refine ⟨checkedSub_eq hc hone ⟨by omega, by omega⟩,
    checkedMul_eq hthirty hpred ⟨by omega, by omega⟩, checkedMul_eq htimes hlast hfits,
    checkedAdd_eq hpred hproduct ?_⟩
  split
  · exact ⟨by omega, by omega⟩
  · exact ⟨by omega, by omega⟩

theorem carryLimbChecked_eq {o : Gfe} {i : Fin 16} (hi : |limb o i| ≤ 2 ^ 60)
    (hnext : |limb o (i + 1)| ≤ 2 ^ 60) : carryLimbChecked o i = some (carryLimb o i) := by
  have hne : i ≠ i + 1 := (by decide : ∀ i : Fin 16, i ≠ i + 1) i
  have hlt := abs_le.mp hi
  have hlt' := abs_le.mp hnext
  set q := limb o i / 2 ^ 16 with hq
  have hunit : ((1 : Int64) <<< (16 : Int64)).toInt = 2 ^ 16 := by decide
  have hfits : Fits (limb o i + 2 ^ 16) := ⟨by omega, by omega⟩
  have hraise : (o.get i + ((1 : Int64) <<< (16 : Int64))).toInt = limb o i + 2 ^ 16 :=
    toInt_add rfl hunit hfits
  let o₁ := write o i (o.get i + ((1 : Int64) <<< (16 : Int64)))
  let c := o₁.get i >>> (16 : Int64)
  let excess := c - 1 + 37 * (c - 1) * (if i = 15 then 1 else 0)
  let o₂ := write o₁ (i + 1) (o₁.get (i + 1) + excess)
  have hself : o₁.get i = o.get i + ((1 : Int64) <<< (16 : Int64)) := get_write_self _ _ _
  have hself' : o₂.get i = o₁.get i := get_write_of_ne _ hne.symm _
  have hother : (o₁.get (i + 1)).toInt = limb o (i + 1) :=
    congrArg Int64.toInt (get_write_of_ne _ hne _)
  rw [← hself] at hraise
  have hc : c.toInt = q + 1 := by
    rw [@toInt_shiftRight _ _ _ 16 hraise (by decide)]
    omega
  have hsmall : |q| ≤ 2 ^ 50 := abs_le.mpr ⟨by omega, by omega⟩
  obtain ⟨hpred, htimes, hproduct, hexcess⟩ := excess_checked hc hsmall (i = 15)
  have hhanded := toInt_excess hc hsmall (i = 15)
  have hle : -2 ^ 60 ≤ (if i = 15 then 38 else 1) * q ∧
      (if i = 15 then 38 else 1) * q ≤ 2 ^ 60 := by
    split <;> constructor <;> omega
  have hshift : Fits ((q + 1) * 2 ^ 16) := ⟨by omega, by omega⟩
  have hshifted := @toInt_shiftLeft _ _ 16 16 hc (by decide) hshift
  refine bind_of_some (checkedShiftLeft_eq rfl rfl ⟨by decide, by decide⟩) ?_
  refine bind_of_some (checkedAdd_eq rfl hunit hfits) ?_
  refine bind_of_some hpred ?_
  refine bind_of_some hpred ?_
  refine bind_of_some htimes ?_
  refine bind_of_some hproduct ?_
  refine bind_of_some hexcess ?_
  refine bind_of_some (checkedAdd_eq hother hhanded ⟨by omega, by omega⟩) ?_
  refine bind_of_some (@checkedShiftLeft_eq _ _ 16 16 hc (by decide) hshift) ?_
  refine bind_of_some (@checkedSub_eq (o₂.get i) _ _ _ (hself'.symm ▸ hraise) hshifted
    ⟨by omega, by omega⟩) ?_
  rfl

theorem carryChecked_eq {o : Gfe} (ho : Within (2 ^ 58) o) : carryChecked o = some (carry o) := by
  have hstart : Carried o 0 o := ⟨rfl, Sweep.init ((ho 0).trans (by decide)) fun j _ => ho j⟩
  obtain ⟨hloop, -, hlimbs⟩ := @foldlM_some _ 15 (Carried o) (fun t i => carryLimb t i.castSucc)
    (fun t i => carryLimbChecked t i.castSucc) o hstart fun i t h => by
      have hnext : i.castSucc + 1 = i.succ := Fin.coeSucc_eq_succ
      have hx := (h.2 i.castSucc).2.1 rfl
      have hy := (h.2 i.succ).2.2 (Nat.lt_succ_self i.1)
      exact ⟨carryLimbChecked_eq (hx.trans (by decide)) (hnext ▸ hy.trans (by decide)), h.step i⟩
  rw [carryChecked, carry, Fin.foldlM_succ_last, Fin.foldl_succ_last]
  generalize Fin.foldl 15 (fun t i => carryLimb t i.castSucc) o = t at hloop hlimbs ⊢
  have hlast := (hlimbs 15).2.1 rfl
  have hfirst := (hlimbs 0).1 (by decide)
  have hnext : |limb t (15 + 1)| ≤ 2 ^ 60 := by
    change |limb t 0| ≤ 2 ^ 60
    exact abs_le.mpr ⟨by omega, by omega⟩
  have hround := carryLimbChecked_eq (hlast.trans (by decide)) hnext
  rw [← show _ = some (carryLimb t (Fin.last 15)) from hround]
  exact congrArg (· >>= (carryLimbChecked · (Fin.last 15))) hloop

/-! ## Sums and products -/

theorem addChecked_eq {a b : Gfe} (ha : Within (2 ^ 17) a) (hb : Within (2 ^ 17) b) :
    addChecked a b = some (add a b) := by
  apply ofFnM_some
  intro i
  have hle := abs_le.mp (ha i)
  have hle' := abs_le.mp (hb i)
  exact @checkedAdd_eq _ _ (limb a i) (limb b i) rfl rfl ⟨by omega, by omega⟩

theorem subChecked_eq {a b : Gfe} (ha : Within (2 ^ 17) a) (hb : Within (2 ^ 17) b) :
    subChecked a b = some (sub a b) := by
  apply ofFnM_some
  intro i
  have hle := abs_le.mp (ha i)
  have hle' := abs_le.mp (hb i)
  exact @checkedSub_eq _ _ (limb a i) (limb b i) rfl rfl ⟨by omega, by omega⟩

private theorem column_fits {a b : Gfe} {t : Vector Int64 31} {B : ℤ} (ha : Within (2 ^ 18) a)
    (hb : Within (2 ^ 18) b) (ht : ∀ c, |limb t c| ≤ B) (hB : B ≤ 2 ^ 60) (i j : Fin 16) :
    checkedMul (a.get i) (b.get j) = some (a.get i * b.get j) ∧
      checkedAdd (t.get (column i j)) (a.get i * b.get j) =
        some (t.get (column i j) + a.get i * b.get j) := by
  have hproduct := product_abs_le ha hb i j
  have hfits := fits_of_abs hproduct (by decide)
  have hproduct' := abs_le.mp hproduct
  have hcolumn := abs_le.mp (ht (column i j))
  have hmul : (a.get i * b.get j).toInt = limb a i * limb b j := toInt_mul rfl rfl hfits
  exact ⟨checkedMul_eq rfl rfl hfits,
    @checkedAdd_eq _ _ (limb t (column i j)) _ rfl hmul ⟨by omega, by omega⟩⟩

/-- No column leaves 64 bits. -/
theorem columnsChecked_eq {a b : Gfe} (ha : Within (2 ^ 18) a) (hb : Within (2 ^ 18) b) :
    columnsChecked a b = some (columns a b) := by
  have hzero : ∀ c, limb (Vector.replicate 31 (0 : Int64)) c = 0 := fun c =>
    congrArg Int64.toInt (Vector.getElem_replicate _)
  refine (foldlM_some (fun k t => ∀ c, |limb t c| ≤ k * 2 ^ 40)
    (fun c => by rw [hzero c]; decide) fun i t ht => ?_).1
  have hrow := @foldlM_some _ 16 (fun k t => ∀ c, |limb t c| ≤ i.1 * 2 ^ 40 + k * 2 ^ 36)
    (fun t j => write t (column i j) (t.get (column i j) + a.get i * b.get j))
    (fun t j => do
      return write t (column i j)
        (← checkedAdd (t.get (column i j)) (← checkedMul (a.get i) (b.get j)))) t
    (fun c => (ht c).trans (by omega)) fun j t h => by
      obtain ⟨hmul, hadd⟩ := column_fits ha hb h (by omega) i j
      refine ⟨?_, fun c => ((column_step ha hb h (by omega) i j).1 c).trans (by push_cast; omega)⟩
      rw [hmul, Option.bind_eq_bind, Option.bind_some, hadd]
      rfl
  exact ⟨hrow.1, fun c => (hrow.2 c).trans (by push_cast; omega)⟩

theorem foldColumnsChecked_eq {t : Vector Int64 31} (ht : ∀ c, |limb t c| ≤ 2 ^ 44) :
    foldColumnsChecked t = some (foldColumns t) := by
  refine (foldlM_some (Folded t) (Folded.init t) fun i s h => ⟨?_, h.step ht i⟩).1
  have hlow := h.2 (Fin.castAdd 16 i) (Nat.le_refl _)
  have hhigh := h.2 (Fin.natAdd 16 i) (Nat.le_add_left _ _)
  have hle := abs_le.mp (ht (Fin.castAdd 16 i))
  have hle' := abs_le.mp (ht (Fin.natAdd 16 i))
  have hfactor : (38 : Int64).toInt = 38 := by decide
  have htimes := toInt_mul hfactor hhigh ⟨by omega, by omega⟩
  have hmul := checkedMul_eq hfactor hhigh ⟨by omega, by omega⟩
  have hadd := checkedAdd_eq hlow htimes ⟨by omega, by omega⟩
  simp only [hmul, hadd, Option.bind_eq_bind, Option.bind_some]
  rfl

theorem mulChecked_eq {a b : Gfe} (ha : Within (2 ^ 18) a) (hb : Within (2 ^ 18) b) :
    mulChecked a b = some (mul a b) := by
  obtain ⟨hcolumns, -⟩ := columns_spec ha hb
  obtain ⟨hwithin, -⟩ := foldColumns_spec hcolumns
  have hfirst := carry_reduced (by decide) hwithin
  refine bind_of_some (columnsChecked_eq ha hb) ?_
  refine bind_of_some (foldColumnsChecked_eq hcolumns) ?_
  refine bind_of_some (carryChecked_eq (hwithin.mono (by decide))) ?_
  exact carryChecked_eq (hfirst.within (by decide))

theorem fsqrChecked_eq {a : Gfe} (ha : Within (2 ^ 18) a) : fsqrChecked a = some (fsqr a) :=
  mulChecked_eq ha ha

theorem invChecked_eq {x : Gfe} (hx : Within (2 ^ 17) x) : invChecked x = some (inv x) := by
  refine (foldlM_some (fun _ c => Within (2 ^ 17) c) hx fun i c hc => ?_).1
  have hsquare := (fsqr_spec (hc.mono (by decide))).1
  simp only [fsqrChecked_eq (hc.mono (by decide : (2 : ℤ) ^ 17 ≤ 2 ^ 18)), Option.bind_eq_bind,
    Option.bind_some]
  by_cases hround : 253 - i.1 ≠ 2 ∧ 253 - i.1 ≠ 4
  · simp only [if_pos hround]
    have hwide := hx.mono (by decide : (2 : ℤ) ^ 17 ≤ 2 ^ 18)
    exact ⟨mulChecked_eq hsquare.wide hwide, (mul_spec hsquare.wide hwide).1.small⟩
  · simp only [if_neg hround]
    exact ⟨rfl, hsquare.small⟩

/-! ## Swaps -/

theorem selChecked_eq {b : Int64} (hb : b = 0 ∨ b = 1) (p q : Gfe) :
    selChecked p q b = some (sel p q b) := by
  have hsub : checkedSub b 1 = some (b - 1) := by
    rcases hb with rfl | rfl
    · decide
    · decide
  rw [selChecked, hsub]
  rfl

/-! ## Subtraction of the prime -/

private theorem choice_checked {x : Int64} (hx : -2 ^ 16 ≤ x.toInt ∧ x.toInt < 2 ^ 16) :
    checkedSub 1 ((x >>> (16 : Int64)) &&& (1 : Int64)) =
        some (1 - ((x >>> (16 : Int64)) &&& (1 : Int64))) ∧
      ((1 : Int64) - ((x >>> (16 : Int64)) &&& (1 : Int64)) = 0 ∨
        (1 : Int64) - ((x >>> (16 : Int64)) &&& (1 : Int64)) = 1) := by
  have hcases : (x >>> (16 : Int64)) &&& (1 : Int64) = 0 ∨
      (x >>> (16 : Int64)) &&& (1 : Int64) = 1 := by
    rw [← Int64.toInt_inj, ← Int64.toInt_inj, toInt_borrow hx]
    change _ = 0 ∨ _ = 1
    omega
  rcases hcases with hb | hb
  · rw [hb]
    decide
  · rw [hb]
    decide

private theorem borrow_checked {t m : Gfe} {i : Fin 15} {P : Int64} (ht : Digits (limb t))
    (hP : P.toInt = primeLimb i.succ) (h : Borrowed i.1 m) :
    checkedSub (t.get i.succ) P = some (t.get i.succ - P) ∧
      checkedSub (t.get i.succ - P) ((m.get i.castSucc >>> (16 : Int64)) &&& (1 : Int64)) =
        some (t.get i.succ - P - ((m.get i.castSucc >>> (16 : Int64)) &&& (1 : Int64))) := by
  have hx := (h i.castSucc).2.1 rfl
  have hdigit := ht i.succ
  have hprime : 0 ≤ primeLimb i.succ ∧ primeLimb i.succ < 2 ^ 16 :=
    (by decide : ∀ i, 0 ≤ primeLimb i ∧ primeLimb i < 2 ^ 16) i.succ
  have hborrow : ((m.get i.castSucc >>> (16 : Int64)) &&& (1 : Int64)).toInt =
      -(limb m i.castSucc / 2 ^ 16) := toInt_borrow hx
  have hfits : Fits (limb t i.succ - primeLimb i.succ) := ⟨by omega, by omega⟩
  have hdiff : (t.get i.succ - P).toInt = limb t i.succ - primeLimb i.succ :=
    toInt_sub rfl hP hfits
  exact ⟨checkedSub_eq rfl hP hfits, checkedSub_eq hdiff hborrow ⟨by omega, by omega⟩⟩

private theorem borrowLimb_checked {t m : Gfe} (ht : Digits (limb t)) (k : Fin 14)
    (h : Borrowed k.1 m) :
    let m₁ := write m k.castSucc.succ (t.get k.castSucc.succ - 0xffff -
      ((m.get k.castSucc.castSucc >>> (16 : Int64)) &&& (1 : Int64)))
    let m' := write m₁ k.castSucc.castSucc (m₁.get k.castSucc.castSucc &&& 0xffff)
    borrowLimbChecked t m k = some m' ∧ Borrowed (k.1 + 1) m' := by
  have hP : (0xffff : Int64).toInt = primeLimb k.castSucc.succ :=
    (by decide : ∀ k : Fin 14, (0xffff : Int64).toInt = primeLimb k.castSucc.succ) k
  obtain ⟨hsub, hsub'⟩ := @borrow_checked t m k.castSucc 0xffff ht hP h
  refine ⟨?_, (@borrow_step t m k.castSucc 0xffff ht hP h).1⟩
  simp only [borrowLimbChecked, hsub, hsub', Option.bind_eq_bind, Option.bind_some]
  rfl

private theorem selDifference_checked {t m : Gfe} (ht : Digits (limb t)) (hm : Borrowed 14 m) :
    selDifferenceChecked t m = some (selDifference t m) := by
  obtain ⟨hsub, hsub'⟩ := @borrow_checked t m (Fin.last 14) 0x7fff ht (by decide) hm
  have hlast := ((@borrow_step t m (Fin.last 14) 0x7fff ht (by decide) hm).1 15).2.1 rfl
  have htop : (Fin.last 14).succ = (15 : Fin 16) := rfl
  have hbelow : (Fin.last 14).castSucc = (14 : Fin 16) := rfl
  have hne : (14 : Fin 16) ≠ 15 := by decide
  rw [limb, htop, hbelow, get_write_of_ne _ hne] at hlast
  rw [htop, hbelow] at hsub'
  rw [htop] at hsub
  obtain ⟨hchoice, hbit⟩ := choice_checked hlast
  simp only [selDifferenceChecked, selDifference, hsub, hsub', hchoice, selChecked_eq hbit,
    Option.bind_eq_bind, Option.bind_some]
  rfl

theorem subtractPrimeChecked_eq {t : Gfe} (ht : Digits (limb t)) :
    subtractPrimeChecked t = some (subtractPrime t) := by
  have hfirst := ht 0
  have hstart : checkedSub (t.get 0) 0xffed = some (t.get 0 - 0xffed) :=
    @checkedSub_eq _ _ (limb t 0) 0xffed rfl (by decide) ⟨by omega, by omega⟩
  obtain ⟨hloop, hborrowed⟩ := foldlM_some Borrowed (first_borrowed ht).1 fun k m h =>
    borrowLimb_checked ht k h
  rw [subtractPrimeChecked, hstart, Option.bind_eq_bind, Option.bind_some]
  exact (congrArg (· >>= selDifferenceChecked t) hloop).trans (selDifference_checked ht hborrowed)

/-! ## Bytes -/

theorem packChecked_eq {n : Gfe} (hn : Reduced 1 n) : packChecked n = some (pack n) := by
  have hwide : ∀ {t : Gfe}, Reduced 1 t → Within (2 ^ 58) t := fun h => h.within (by decide)
  have hfirst := digits_reduced hn.digits
  have hsecond := digits_reduced hfirst.digits
  have hthird := hsecond.digits
  simp only [packChecked, carryChecked_eq (hwide hn), carryChecked_eq (hwide hfirst),
    carryChecked_eq (hwide hsecond), subtractPrimeChecked_eq hthird,
    subtractPrimeChecked_eq (subtractPrime_spec hthird).1, Option.bind_eq_bind, Option.bind_some]
  rfl

theorem unpackChecked_eq (b : Vector UInt8 32) : unpackChecked b = some (unpack b) := by
  have hlimbs := @ofFnM_some _ 16
    (fun i => b[2 * i.1].toUInt64.toInt64 + (b[2 * i.1 + 1].toUInt64.toInt64 <<< 8))
    (fun i => do
      checkedAdd b[2 * i.1].toUInt64.toInt64
        (← checkedShiftLeft b[2 * i.1 + 1].toUInt64.toInt64 8)) fun i => by
      have hlow := b[2 * i.1].toNat_lt
      have hhigh := b[2 * i.1 + 1].toNat_lt
      have hbyte := toInt_ofByte b[2 * i.1 + 1]
      have hfits : Fits (b[2 * i.1 + 1].toNat * 2 ^ 8) := ⟨by omega, by omega⟩
      rw [checkedShiftLeft_eq hbyte (by decide) hfits, Option.bind_eq_bind, Option.bind_some]
      exact checkedAdd_eq (toInt_ofByte _) (toInt_shiftLeft hbyte (by decide) hfits)
        ⟨by omega, by omega⟩
  rw [unpackChecked, hlimbs]
  rfl

/-! ## The ladder -/

theorem ladderRoundChecked_eq {x : Gfe} {s : Registers} (hx : Within (2 ^ 17) x) (hs : s.Small) :
    ladderRoundChecked x s = some (ladderRound x s) := by
  have he := (add_spec hs.a hs.c).1
  have ha := (sub_spec hs.a hs.c).1
  have hc := (add_spec hs.b hs.d).1
  have hb := (sub_spec hs.b hs.d).1
  have haa := (fsqr_spec he).1
  have hbb := (fsqr_spec ha).1
  have hda := (mul_spec hc ha).1
  have hcb := (mul_spec hb he).1
  have hplus := (add_spec hda.small hcb.small).1
  have hminus := (sub_spec hda.small hcb.small).1
  have hsquare := (fsqr_spec hminus).1
  have hdiff := (sub_spec haa.small hbb.small).1
  have htimes := (mul_spec hdiff k121665_within).1
  have hsum := (add_spec htimes.small haa.small).1
  refine bind_of_some (addChecked_eq hs.a hs.c) ?_
  refine bind_of_some (subChecked_eq hs.a hs.c) ?_
  refine bind_of_some (addChecked_eq hs.b hs.d) ?_
  refine bind_of_some (subChecked_eq hs.b hs.d) ?_
  refine bind_of_some (fsqrChecked_eq he) ?_
  refine bind_of_some (fsqrChecked_eq ha) ?_
  refine bind_of_some (mulChecked_eq hc ha) ?_
  refine bind_of_some (mulChecked_eq hb he) ?_
  refine bind_of_some (addChecked_eq hda.small hcb.small) ?_
  refine bind_of_some (subChecked_eq hda.small hcb.small) ?_
  refine bind_of_some (fsqrChecked_eq hminus) ?_
  refine bind_of_some (subChecked_eq haa.small hbb.small) ?_
  refine bind_of_some (mulChecked_eq hdiff k121665_within) ?_
  refine bind_of_some (addChecked_eq htimes.small haa.small) ?_
  refine bind_of_some (mulChecked_eq hdiff hsum) ?_
  refine bind_of_some (mulChecked_eq haa.wide hbb.wide) ?_
  refine bind_of_some (mulChecked_eq hsquare.wide (hx.mono (by decide))) ?_
  exact bind_of_some (fsqrChecked_eq hplus) rfl

theorem ladderStepChecked_eq {x : Gfe} {s : Registers} {r : Int64} (hx : Within (2 ^ 17) x)
    (hs : s.Small) (hr : r = 0 ∨ r = 1) :
    ladderStepChecked x s r = some (ladderStep x s r) := by
  have hsel := selChecked_eq hr
  rcases hr with rfl | rfl
  · rw [ladderStep_zero]
    simp only [ladderStepChecked, hsel, sel_zero, Option.bind_eq_bind, Option.bind_some]
    exact bind_of_some (ladderRoundChecked_eq hx hs) rfl
  · rw [ladderStep_one]
    simp only [ladderStepChecked, hsel, sel_one, Option.bind_eq_bind, Option.bind_some]
    exact bind_of_some (ladderRoundChecked_eq hx ⟨hs.b, hs.a, hs.d, hs.c⟩) rfl

theorem ladderChecked_eq {z : Vector UInt8 32} {x : Gfe} (hx : Within (2 ^ 17) x) :
    ladderChecked z x = some (ladder z x) := by
  refine (foldlM_some (fun _ s => s.Small) ⟨one_within, hx, zero_within, one_within⟩
    fun i s hs => ?_).1
  have hbit := scalarBit_cases z i.rev
  exact ⟨ladderStepChecked_eq hx hs hbit, (ladderStep_spec hx hs hbit).1⟩

theorem scalarMultChecked_eq (scalar point : Vector UInt8 32) :
    scalarMultChecked scalar point = some (scalarMult scalar point) := by
  have hx := unpack_within point
  have hsmall : (ladder (clamp scalar) (unpack point)).Small :=
    (foldl_ladderStep hx (fun i : Fin 255 => scalarBit (clamp scalar) i.rev)
      fun i => scalarBit_cases _ _).1
  refine bind_of_some (unpackChecked_eq point) ?_
  refine bind_of_some (ladderChecked_eq hx) ?_
  refine bind_of_some (invChecked_eq hsmall.c) ?_
  refine bind_of_some (mulChecked_eq (hsmall.a.mono (by decide))
    ((inv_spec hsmall.c).1.mono (by decide))) ?_
  exact packChecked_eq (product_spec scalar point).1

end NiusZigbee.ZigbeeCurve25519
