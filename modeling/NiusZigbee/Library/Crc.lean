import Mathlib.Data.List.Iterate
import Mathlib.Data.List.Nodup
import Mathlib.Data.Nat.Bitwise
import Mathlib.Logic.Function.Iterate

/-!
# Checksums by a shift register

A byte is loaded into a register of 16 bits, which is then shifted eight times; the bit that falls
out feeds a polynomial back. All of it is linear in exclusive or, so what flipped bits do to the
checksum does not depend on the message.
-/

namespace Crc

/-- One shift: `move`, and the polynomial if the bit at `mask` falls out. -/
def feedback (move : UInt16 → UInt16) (mask poly crc : UInt16) : UInt16 :=
  if crc &&& mask ≠ 0 then move crc ^^^ poly else move crc

def run (shift : UInt16 → UInt16) (load : UInt8 → UInt16) (init : UInt16) (bytes : List UInt8) :
    UInt16 :=
  bytes.foldl (fun crc b => shift^[8] (crc ^^^ load b)) init

/-- The bits of `error` flipped in `bytes`. -/
def flip (bytes error : List UInt8) : List UInt8 := List.zipWith (· ^^^ ·) bytes error

/-- The byte with bit `k` alone. -/
def bit (k : ℕ) : UInt8 := (1 : UInt8) <<< k.toUInt8

def bitsOf (b : UInt8) : List ℕ := (List.range 8).filter fun k => b.toNat.testBit k

/-- The positions of the bits to flip: byte by byte, the least significant bit first. -/
def flips : List UInt8 → List ℕ
  | [] => []
  | b :: error => bitsOf b ++ (flips error).map (· + 8)

def xorSum (ws : List UInt16) : UInt16 := ws.foldr (· ^^^ ·) 0

/-- What bit `p` of `n` bytes leaves in the register. -/
def syndrome (shift : UInt16 → UInt16) (load : UInt8 → UInt16) (n p : ℕ) : UInt16 :=
  shift^[8 * (n - p / 8)] (load (bit (p % 8)))

/-- Exclusive or passes through, and no bit is lost. -/
structure Linear (shift : UInt16 → UInt16) (load : UInt8 → UInt16) : Prop where
  shift_xor : ∀ a b, shift (a ^^^ b) = shift a ^^^ shift b
  load_xor : ∀ a b, load (a ^^^ b) = load a ^^^ load b
  shift_eq_zero : ∀ a, shift a = 0 → a = 0

/-- The word with bit `j` alone. -/
def wordBit (j : ℕ) : UInt16 := (1 : UInt16) <<< j.toUInt16

theorem toNat_wordBit {j : ℕ} (hj : j < 16) : (wordBit j).toNat = 2 ^ j :=
  (by decide : ∀ j < 16, (wordBit j).toNat = 2 ^ j) j hj

theorem and_wordBit {j : ℕ} (hj : j < 16) (a : UInt16) :
    a &&& wordBit j = 0 ∨ a &&& wordBit j = wordBit j := by
  have hand : (a &&& wordBit j).toNat = (a.toNat.testBit j).toNat * 2 ^ j := by
    rw [UInt16.toNat_and, toNat_wordBit hj]
    exact Nat.and_two_pow a.toNat j
  rw [← UInt16.toNat_inj, ← UInt16.toNat_inj, hand, toNat_wordBit hj]
  cases a.toNat.testBit j
  · exact Or.inl (Nat.zero_mul _)
  · exact Or.inr (Nat.one_mul _)

theorem feedback_xor {move : UInt16 → UInt16} {mask poly : UInt16}
    (hmove : ∀ a b, move (a ^^^ b) = move a ^^^ move b)
    (hmask : ∀ a, a &&& mask = 0 ∨ a &&& mask = mask) (a b : UInt16) :
    feedback move mask poly (a ^^^ b) =
      feedback move mask poly a ^^^ feedback move mask poly b := by
  have hand : (a ^^^ b) &&& mask = (a &&& mask) ^^^ (b &&& mask) := by
    apply UInt16.toNat_inj.mp
    simp only [UInt16.toNat_and, UInt16.toNat_xor, Nat.and_xor_distrib_right]
  have hcancel : ∀ x y : UInt16, (x ^^^ poly) ^^^ (y ^^^ poly) = x ^^^ y := by
    intro x y
    rw [UInt16.xor_comm y, ← UInt16.xor_assoc, UInt16.xor_assoc x, UInt16.xor_self,
      UInt16.xor_zero]
  simp only [feedback, hand, hmove]
  rcases hmask a with ha | ha <;> rcases hmask b with hb | hb <;> rw [ha, hb]
  · simp
  · by_cases h : mask = 0
    · simp [h]
    · simp [h, UInt16.xor_assoc]
  · by_cases h : mask = 0
    · simp [h]
    · simp only [UInt16.xor_zero, ne_eq, h, not_false_eq_true, if_true, not_true_eq_false, if_false]
      rw [UInt16.xor_assoc, UInt16.xor_comm (move b), ← UInt16.xor_assoc]
  · by_cases h : mask = 0
    · simp [h]
    · simp [h, hcancel]

theorem xorSum_append (vs ws : List UInt16) : xorSum (vs ++ ws) = xorSum vs ^^^ xorSum ws := by
  induction vs with
  | nil => exact UInt16.zero_xor.symm
  | cons v vs ih =>
    change v ^^^ xorSum (vs ++ ws) = (v ^^^ xorSum vs) ^^^ xorSum ws
    rw [ih, UInt16.xor_assoc]

namespace Linear

variable {shift : UInt16 → UInt16} {load : UInt8 → UInt16} (h : Linear shift load)

include h

theorem shift_zero : shift 0 = 0 := by
  have hzero := h.shift_xor 0 0
  rwa [UInt16.xor_self, UInt16.xor_self] at hzero

theorem load_zero : load 0 = 0 := by
  have hzero := h.load_xor 0 0
  rwa [UInt16.xor_self, UInt8.xor_self] at hzero

theorem iterate_xor (n : ℕ) (a b : UInt16) : shift^[n] (a ^^^ b) = shift^[n] a ^^^ shift^[n] b := by
  induction n generalizing a b with
  | zero => rfl
  | succ n ih => rw [Function.iterate_succ_apply, h.shift_xor, ih]; rfl

theorem injective : Function.Injective shift := by
  intro a b hab
  apply UInt16.xor_eq_zero_iff.mp
  apply h.shift_eq_zero
  rw [h.shift_xor, hab, UInt16.xor_self]

theorem iterate_eq_zero {n : ℕ} {a : UInt16} : shift^[n] a = 0 ↔ a = 0 := by
  have hzero : shift^[n] 0 = 0 := Function.iterate_fixed h.shift_zero n
  constructor
  · intro ha
    exact h.injective.iterate n (ha.trans hzero.symm)
  · rintro rfl
    exact hzero

/-! ## Runs -/

theorem run_xor (init error : UInt16) (bytes : List UInt8) :
    run shift load (init ^^^ error) bytes =
      run shift load init bytes ^^^ shift^[8 * bytes.length] error := by
  induction bytes generalizing init error with
  | nil => rfl
  | cons b bytes ih =>
    have hload : init ^^^ error ^^^ load b = (init ^^^ load b) ^^^ error := by
      rw [UInt16.xor_assoc, UInt16.xor_comm error, ← UInt16.xor_assoc]
    have hlength : 8 * (b :: bytes).length = 8 * bytes.length + 8 := by
      rw [List.length_cons]
      omega
    rw [run, List.foldl_cons, hload, h.iterate_xor, hlength, Function.iterate_add_apply]
    exact ih _ _

theorem run_flip_from (init init' : UInt16) {bytes error : List UInt8}
    (hlength : bytes.length = error.length) :
    run shift load (init ^^^ init') (flip bytes error) =
      run shift load init bytes ^^^ run shift load init' error := by
  induction bytes generalizing init init' error with
  | nil =>
    cases error with
    | nil => rfl
    | cons e error => cases hlength
  | cons b bytes ih =>
    cases error with
    | nil => cases hlength
    | cons e error =>
      have hload :
          init ^^^ init' ^^^ load (b ^^^ e) = (init ^^^ load b) ^^^ (init' ^^^ load e) := by
        rw [h.load_xor, UInt16.xor_assoc, UInt16.xor_assoc, ← UInt16.xor_assoc init',
          UInt16.xor_comm init', UInt16.xor_assoc (load b)]
      change run shift load (shift^[8] (init ^^^ init' ^^^ load (b ^^^ e))) (flip bytes error) = _
      rw [hload, h.iterate_xor]
      exact ih _ _ (Nat.succ.inj hlength)

/-- Flipped bits change the checksum by what they leave in an empty register. -/
theorem run_flip (init : UInt16) {bytes error : List UInt8}
    (hlength : bytes.length = error.length) :
    run shift load init (flip bytes error) =
      run shift load init bytes ^^^ run shift load 0 error := by
  rw [← h.run_flip_from init 0 hlength, UInt16.xor_zero]

theorem run_cons (e : UInt8) (error : List UInt8) :
    run shift load 0 (e :: error) =
      shift^[8 * (error.length + 1)] (load e) ^^^ run shift load 0 error := by
  have hrest := h.run_xor 0 (shift^[8] (load e)) error
  rw [UInt16.zero_xor, UInt16.xor_comm] at hrest
  change run shift load (shift^[8] (0 ^^^ load e)) error = _
  rw [UInt16.zero_xor, hrest, Nat.mul_succ, Function.iterate_add_apply]

/-! ## Bits -/

theorem load_bits (b : UInt8) :
    load b = xorSum ((bitsOf b).map fun k => load (bit k)) := by
  have hbyte : ∀ n : Fin 256, UInt8.ofNat n.1 =
      (bitsOf (UInt8.ofNat n.1)).foldr (fun k acc => bit k ^^^ acc) 0 := by
    decide +kernel
  have hsum : ∀ ks : List ℕ, load (ks.foldr (fun k acc => bit k ^^^ acc) 0) =
      xorSum (ks.map fun k => load (bit k)) := by
    intro ks
    induction ks with
    | nil => exact h.load_zero
    | cons k ks ih => rw [List.foldr_cons, h.load_xor, ih]; rfl
  have hb := hbyte ⟨b.toNat, b.toNat_lt⟩
  rw [UInt8.ofNat_toNat] at hb
  rw [← hsum, ← hb]

theorem iterate_xorSum (n : ℕ) (ws : List UInt16) :
    shift^[n] (xorSum ws) = xorSum (ws.map shift^[n]) := by
  induction ws with
  | nil => exact Function.iterate_fixed h.shift_zero n
  | cons w ws ih =>
    have hcons := h.iterate_xor n w (xorSum ws)
    rw [ih] at hcons
    exact hcons

/-- Two ways to load a byte agree, up to shifts, when they do on each bit. -/
theorem load_eq {load' : UInt8 → UInt16} (h' : Linear shift load') {n : ℕ}
    (hbits : ∀ k < 8, load (bit k) = shift^[n] (load' (bit k))) (b : UInt8) :
    load b = shift^[n] (load' b) := by
  rw [h.load_bits, h'.load_bits, h.iterate_xorSum, List.map_map]
  congr 1
  apply List.map_congr_left
  intro k hk
  exact hbits k (List.mem_range.mp (List.mem_filter.mp hk).1)

/-- What an error leaves in the register is the sum of what its bits leave. -/
theorem run_eq_xorSum (error : List UInt8) : run shift load 0 error =
    xorSum ((flips error).map (syndrome shift load error.length)) := by
  induction error with
  | nil => rfl
  | cons e error ih =>
    have hlater : ∀ p, syndrome shift load (error.length + 1) (p + 8) =
        syndrome shift load error.length p := by
      intro p
      rw [syndrome, syndrome, Nat.add_div_right p (by decide), Nat.add_mod_right,
        Nat.add_sub_add_right]
    have hfirst : ∀ k ∈ bitsOf e, shift^[8 * (error.length + 1)] (load (bit k)) =
        syndrome shift load (error.length + 1) k := by
      intro k hk
      have hlt : k < 8 := List.mem_range.mp (List.mem_filter.mp hk).1
      rw [syndrome, Nat.div_eq_of_lt hlt, Nat.mod_eq_of_lt hlt, Nat.sub_zero]
    rw [h.run_cons, h.load_bits, h.iterate_xorSum, List.map_map, ih, flips, List.map_append,
      List.map_map, xorSum_append, List.length_cons]
    congr 2
    · exact List.map_congr_left hfirst
    · exact List.map_congr_left fun p _ => (hlater p).symm

end Linear

/-! ## Words by their bits -/

theorem testBit_wordBit {j : ℕ} (hj : j < 16) (k : ℕ) :
    (wordBit j).toNat.testBit k = decide (k = j) := by
  rw [toNat_wordBit hj, Nat.testBit_two_pow]
  exact decide_eq_decide.mpr eq_comm

theorem testBit_xorSum {ks : List ℕ} (hnodup : ks.Nodup) (hlt : ∀ k ∈ ks, k < 16) (j : ℕ) :
    (xorSum (ks.map wordBit)).toNat.testBit j = decide (j ∈ ks) := by
  induction ks with
  | nil =>
    rw [List.map_nil, xorSum, List.foldr_nil, UInt16.toNat_zero, Nat.zero_testBit]
    rfl
  | cons k ks ih =>
    obtain ⟨hnew, hnodup⟩ := List.nodup_cons.mp hnodup
    obtain ⟨hk, hlt⟩ := List.forall_mem_cons.mp hlt
    change (wordBit k ^^^ xorSum (ks.map wordBit)).toNat.testBit j = _
    rw [UInt16.toNat_xor, Nat.testBit_xor, testBit_wordBit hk, ih hnodup hlt]
    by_cases hj : j = k
    · subst hj
      simp [hnew]
    · simp [hj]

theorem xorSum_bits (a : UInt16) :
    xorSum (((List.range 16).filter fun k => a.toNat.testBit k).map wordBit) = a := by
  apply UInt16.toNat_inj.mp
  apply Nat.eq_of_testBit_eq
  intro j
  rw [testBit_xorSum (List.nodup_range.filter _) fun k hk =>
    List.mem_range.mp (List.mem_filter.mp hk).1]
  by_cases hj : j < 16
  · simp [hj]
  · have hhigh : a.toNat.testBit j = false := Nat.testBit_lt_two_pow
      (lt_of_lt_of_le a.toNat_lt (Nat.pow_le_pow_right (by decide) (Nat.not_lt.mp hj)))
    simp [hhigh]

/-! ## Few flipped bits -/

/-- Whether the number of ones is odd. -/
def parity (w : UInt16) : Bool :=
  (List.range 16).foldr (fun k acc => w.toNat.testBit k ^^ acc) false

theorem parity_xor (a b : UInt16) : parity (a ^^^ b) = (parity a ^^ parity b) := by
  have hbits : ∀ ks : List ℕ, ks.foldr (fun k acc => (a ^^^ b).toNat.testBit k ^^ acc) false =
      (ks.foldr (fun k acc => a.toNat.testBit k ^^ acc) false ^^
        ks.foldr (fun k acc => b.toNat.testBit k ^^ acc) false) := by
    intro ks
    induction ks with
    | nil => rfl
    | cons k ks ih =>
      rw [List.foldr_cons, List.foldr_cons, List.foldr_cons, ih, UInt16.toNat_xor, Nat.testBit_xor]
      cases a.toNat.testBit k <;> cases b.toNat.testBit k <;> simp
  exact hbits (List.range 16)

/-- A shift that keeps the parity of each bit keeps that of every word. -/
theorem Linear.parity_iterate {shift : UInt16 → UInt16} {load : UInt8 → UInt16}
    (h : Linear shift load)
    (hbits : ∀ j < 16, parity (shift (wordBit j)) = parity (wordBit j)) (n : ℕ) (a : UInt16) :
    parity (shift^[n] a) = parity a := by
  have hsum : ∀ ks : List ℕ, (∀ k ∈ ks, k < 16) →
      parity (shift (xorSum (ks.map wordBit))) = parity (xorSum (ks.map wordBit)) := by
    intro ks hlt
    induction ks with
    | nil => exact congrArg parity h.shift_zero
    | cons k ks ih =>
      obtain ⟨hk, hlt⟩ := List.forall_mem_cons.mp hlt
      change parity (shift (wordBit k ^^^ xorSum (ks.map wordBit))) =
        parity (wordBit k ^^^ xorSum (ks.map wordBit))
      rw [h.shift_xor, parity_xor, parity_xor, hbits k hk, ih hlt]
  have hstep : ∀ a, parity (shift a) = parity a := by
    intro a
    rw [← xorSum_bits a]
    exact hsum _ fun k hk => List.mem_range.mp (List.mem_filter.mp hk).1
  induction n with
  | zero => rfl
  | succ n ih => rw [Function.iterate_succ_apply', hstep, ih]

/-- Up to three different words, each with an odd number of ones, do not cancel out. -/
theorem xorSum_ne_zero {ws : List UInt16} (hne : ws ≠ []) (hlength : ws.length ≤ 3)
    (hnodup : ws.Nodup) (hodd : ∀ w ∈ ws, parity w = true) : xorSum ws ≠ 0 := by
  have hzero : parity 0 = false := by decide
  rcases ws with _ | ⟨u, _ | ⟨v, _ | ⟨w, _ | ⟨x, ws⟩⟩⟩⟩
  · exact absurd rfl hne
  · intro h
    have hu := hodd u List.mem_cons_self
    rw [show u = 0 from UInt16.xor_zero.symm.trans h, hzero] at hu
    cases hu
  · intro h
    have huv : u = v := UInt16.xor_eq_zero_iff.mp (by simpa [xorSum] using h)
    exact (List.nodup_cons.mp hnodup).1 (List.mem_singleton.mpr huv)
  · intro h
    have hsum := congrArg parity h
    simp only [xorSum, List.foldr_cons, List.foldr_nil, UInt16.xor_zero, parity_xor, hzero,
      hodd u (by simp), hodd v (by simp), hodd w (by simp)] at hsum
    cases hsum
  · simp only [List.length_cons] at hlength
    omega

theorem mem_bitsOf {b : UInt8} {k : ℕ} : k ∈ bitsOf b ↔ k < 8 ∧ b.toNat.testBit k = true := by
  simp [bitsOf]

theorem mem_flips {error : List UInt8} {p : ℕ} :
    p ∈ flips error ↔ ∃ b, error[p / 8]? = some b ∧ b.toNat.testBit (p % 8) = true := by
  induction error generalizing p with
  | nil => simp [flips]
  | cons e error ih =>
    rw [flips, List.mem_append, mem_bitsOf, List.mem_map]
    by_cases hp : p < 8
    · rw [Nat.div_eq_of_lt hp, Nat.mod_eq_of_lt hp, List.getElem?_cons_zero]
      constructor
      · rintro (⟨-, hbit⟩ | ⟨q, -, hq⟩)
        · exact ⟨e, rfl, hbit⟩
        · omega
      · rintro ⟨b, hb, hbit⟩
        rw [← Option.some.inj hb] at hbit
        exact Or.inl ⟨hp, hbit⟩
    · obtain ⟨q, rfl⟩ : ∃ q, p = q + 8 := ⟨p - 8, by omega⟩
      rw [Nat.add_div_right q (by decide), Nat.add_mod_right, List.getElem?_cons_succ, ← ih]
      constructor
      · rintro (⟨hlt, -⟩ | ⟨q', hmem, hq⟩)
        · omega
        · rwa [← Nat.add_right_cancel hq]
      · intro hmem
        exact Or.inr ⟨q, hmem, rfl⟩

theorem flips_lt {error : List UInt8} {p : ℕ} (h : p ∈ flips error) : p / 8 < error.length := by
  obtain ⟨b, hb, -⟩ := mem_flips.mp h
  exact (List.getElem?_eq_some_iff.mp hb).1

theorem flips_nodup (error : List UInt8) : (flips error).Nodup := by
  induction error with
  | nil => exact List.nodup_nil
  | cons e error ih =>
    refine List.Nodup.append (List.nodup_range.filter _) (ih.map fun p q h => by omega) ?_
    intro p hp hp'
    obtain ⟨q, -, rfl⟩ := List.mem_map.mp hp'
    have hlt := (mem_bitsOf.mp hp).1
    omega

theorem flips_eq_nil {error : List UInt8} (h : ∀ i, error.getD i 0 = 0) : flips error = [] := by
  apply List.eq_nil_iff_forall_not_mem.mpr
  intro p hp
  obtain ⟨b, hb, hbit⟩ := mem_flips.mp hp
  have hzero := h (p / 8)
  rw [List.getD_eq_getElem?_getD, hb, Option.getD_some] at hzero
  rw [hzero, UInt8.toNat_zero, Nat.zero_testBit] at hbit
  cases hbit

theorem flips_append (a b : List UInt8) :
    flips (a ++ b) = flips a ++ (flips b).map (· + 8 * a.length) := by
  induction a with
  | nil => exact (List.map_id _).symm
  | cons e a ih =>
    rw [List.cons_append, flips, ih, List.map_append, List.map_map, flips, List.append_assoc]
    rfl

theorem getD_eq_zero {error : List UInt8} {i : ℕ} (h : ∀ p ∈ flips error, p / 8 ≠ i) :
    error.getD i 0 = 0 := by
  by_cases hi : i < error.length
  · rw [List.getD_eq_getElem _ _ hi]
    apply UInt8.toNat_inj.mp
    apply Nat.eq_of_testBit_eq
    intro k
    rw [UInt8.toNat_zero, Nat.zero_testBit]
    by_cases hk : k < 8
    · by_contra hbit
      refine h (8 * i + k) (mem_flips.mpr ⟨error[i], ?_, ?_⟩) (by omega)
      · rw [show (8 * i + k) / 8 = i by omega]
        exact List.getElem?_eq_getElem hi
      · rw [show (8 * i + k) % 8 = k by omega]
        exact eq_true_of_ne_false hbit
    · exact Nat.testBit_lt_two_pow (lt_of_lt_of_le (UInt8.toNat_lt _)
        (Nat.pow_le_pow_right (by decide) (Nat.not_lt.mp hk)))
  · exact List.getD_eq_default _ _ (Nat.not_lt.mp hi)

/-- Zero bytes outside of the bytes `i` and `i + 1`. -/
def Within (i : ℕ) (error : List UInt8) : Prop := ∀ p ∈ flips error, p / 8 = i ∨ p / 8 = i + 1

theorem Within.zero {i j : ℕ} {error : List UInt8} (h : Within i error) (hi : j ≠ i)
    (hi' : j ≠ i + 1) : error.getD j 0 = 0 := by
  apply getD_eq_zero
  rintro p hp rfl
  exact (h p hp).elim hi hi'

theorem Within.front {i n : ℕ} {error : List UInt8} (h : Within i error) (hn : n ≤ i) :
    ∀ b ∈ error.take n, b = 0 := by
  intro b hb
  obtain ⟨j, hj, rfl⟩ := List.mem_take_iff_getElem.mp hb
  rw [← h.zero (show j ≠ i by omega) (show j ≠ i + 1 by omega)]
  exact (List.getD_eq_getElem _ _ (by omega)).symm

theorem Within.back {i n : ℕ} {error : List UInt8} (h : Within i error) (hn : i + 2 ≤ n) :
    ∀ b ∈ error.drop n, b = 0 := by
  intro b hb
  obtain ⟨j, hj, rfl⟩ := List.mem_drop_iff_getElem.mp hb
  rw [← h.zero (show n + j ≠ i by omega) (show n + j ≠ i + 1 by omega)]
  exact (List.getD_eq_getElem _ _ (by omega)).symm

theorem Within.ne {i : ℕ} {error : List UInt8} (h : Within i error) (hne : flips error ≠ []) :
    ¬ (error.getD i 0 = 0 ∧ error.getD (i + 1) 0 = 0) := by
  rintro ⟨hzero, hzero'⟩
  apply hne
  apply flips_eq_nil
  intro j
  by_cases hi : j = i
  · rwa [hi]
  · by_cases hi' : j = i + 1
    · rwa [hi']
    · exact h.zero hi hi'

/-! ## Errors that are seen -/

namespace Linear

variable {shift : UInt16 → UInt16} {load : UInt8 → UInt16} (h : Linear shift load)

include h

theorem run_of_zero (init : UInt16) {bytes : List UInt8} (hzero : ∀ b ∈ bytes, b = 0) :
    run shift load init bytes = shift^[8 * bytes.length] init := by
  induction bytes generalizing init with
  | nil => rfl
  | cons b bytes ih =>
    have hb : init ^^^ load b = init := by
      rw [hzero b List.mem_cons_self, h.load_zero, UInt16.xor_zero]
    change run shift load (shift^[8] (init ^^^ load b)) bytes = _
    rw [hb, ih _ fun c hc => hzero c (List.mem_cons_of_mem b hc), List.length_cons, Nat.mul_succ,
      Function.iterate_add_apply]

theorem run_few_ne_zero {error : List UInt8} (hne : flips error ≠ [])
    (hfew : (flips error).length ≤ 3)
    (hinj : ∀ p q, p / 8 < error.length → q / 8 < error.length →
      syndrome shift load error.length p = syndrome shift load error.length q → p = q)
    (hodd : ∀ p, p / 8 < error.length → parity (syndrome shift load error.length p) = true) :
    run shift load 0 error ≠ 0 := by
  rw [h.run_eq_xorSum]
  apply xorSum_ne_zero
  · rwa [ne_eq, List.map_eq_nil_iff]
  · rwa [List.length_map]
  · exact (flips_nodup error).map_on fun p hp q hq => hinj p q (flips_lt hp) (flips_lt hq)
  · intro w hw
    obtain ⟨p, hp, rfl⟩ := List.mem_map.mp hw
    exact hodd p (flips_lt hp)

theorem iterate_inj {w : UInt16} {N : ℕ} (horbit : w ∉ List.iterate shift (shift w) N) {m n : ℕ}
    (hm : m ≤ n + N) (hn : n ≤ m + N) (heq : shift^[m] w = shift^[n] w) : m = n := by
  have hcancel : ∀ m n, m < n → n ≤ m + N → shift^[m] w ≠ shift^[n] w := by
    intro m n hlt hle heq
    obtain ⟨k, rfl⟩ := Nat.exists_eq_add_of_lt hlt
    rw [Nat.add_assoc, Function.iterate_add_apply] at heq
    exact horbit (List.mem_iterate.mpr ⟨k, by omega, h.injective.iterate m heq⟩)
  rcases Nat.lt_trichotomy m n with hlt | heq' | hlt
  · exact absurd heq (hcancel m n hlt hn)
  · exact heq'
  · exact absurd heq.symm (hcancel n m hlt hm)

/-- What bytes between zeros leave is what they leave by themselves. -/
theorem run_between {error front mid back : List UInt8} (herror : error = front ++ mid ++ back)
    (hfront : ∀ b ∈ front, b = 0) (hback : ∀ b ∈ back, b = 0) :
    run shift load 0 error = 0 ↔ run shift load 0 mid = 0 := by
  have hsplit : run shift load 0 error =
      run shift load (run shift load (run shift load 0 front) mid) back := by
    rw [herror, run, List.foldl_append, List.foldl_append]
    rfl
  rw [hsplit, h.run_of_zero 0 hfront, Function.iterate_fixed h.shift_zero, h.run_of_zero _ hback]
  exact h.iterate_eq_zero

end Linear

/-! ## Bursts -/

/-- The least significant bit goes first: a byte is loaded at the low end, and a word with one bit
is shifted down to 1. -/
structure Reflected (shift : UInt16 → UInt16) (load : UInt8 → UInt16) : Prop where
  load_bit : ∀ k < 8, load (bit k) = wordBit k
  shift_wordBit : ∀ j < 16, shift^[j] (wordBit j) = 1

namespace Reflected

variable {shift : UInt16 → UInt16} {load : UInt8 → UInt16} (h : Reflected shift load) {n p : ℕ}

include h

theorem syndrome_eq (hp : p / 8 < n) : syndrome shift load n p = shift^[8 * n - p] 1 := by
  have hlt : p % 8 < 8 := Nat.mod_lt p (by decide)
  rw [syndrome, h.load_bit _ hlt, show 8 * (n - p / 8) = 8 * n - p + p % 8 by omega,
    Function.iterate_add_apply, h.shift_wordBit _ (by omega)]

/-- The bit stands at place `j` of a word that begins `j` positions before it. -/
theorem syndrome_window {j : ℕ} (hp : p / 8 < n) (hj : j < 16) (hle : j ≤ p) :
    syndrome shift load n p = shift^[8 * n - (p - j)] (wordBit j) := by
  rw [h.syndrome_eq hp, show 8 * n - (p - j) = 8 * n - p + j by omega,
    Function.iterate_add_apply, h.shift_wordBit j hj]

theorem run_burst_ne_zero (hlinear : Linear shift load) {error : List UInt8}
    (hne : flips error ≠ []) {a : ℕ} (hburst : ∀ p ∈ flips error, a ≤ p ∧ p < a + 16) :
    run shift load 0 error ≠ 0 := by
  have hplaces : (flips error).map (syndrome shift load error.length) =
      (((flips error).map (· - a)).map wordBit).map shift^[8 * error.length - a] := by
    rw [List.map_map, List.map_map]
    apply List.map_congr_left
    intro p hp
    obtain ⟨hle, hlt⟩ := hburst p hp
    rw [h.syndrome_window (flips_lt hp) (show p - a < 16 by omega) (Nat.sub_le p a),
      Nat.sub_sub_self hle]
    rfl
  rw [hlinear.run_eq_xorSum, hplaces, ← hlinear.iterate_xorSum, ne_eq, hlinear.iterate_eq_zero]
  intro hzero
  obtain ⟨p, hp⟩ := List.exists_mem_of_ne_nil _ hne
  have hnodup : ((flips error).map (· - a)).Nodup := by
    refine (flips_nodup error).map_on fun p hp q hq heq => ?_
    have hle := (hburst p hp).1
    have hle' := (hburst q hq).1
    omega
  have hbit := testBit_xorSum hnodup (by
    intro k hk
    obtain ⟨q, hq, rfl⟩ := List.mem_map.mp hk
    have hlt := (hburst q hq).2
    omega) (p - a)
  rw [hzero, UInt16.toNat_zero, Nat.zero_testBit,
    decide_eq_true (List.mem_map.mpr ⟨p, hp, rfl⟩)] at hbit
  cases hbit

end Reflected

end Crc
