import Mathlib.Data.Nat.Bitwise
import Mathlib.Data.List.Basic

/-!
# Little-endian words in byte lists

Words are taken apart and put together with shifts and masks, byte by byte. Reads are checked:
`none` is a read outside the list.
-/

namespace ByteCodec

def lo8 (v : UInt16) : UInt8 := (v &&& 0xFF).toUInt8

def hi8 (v : UInt16) : UInt8 := (v >>> 8).toUInt8

def le16 (v : UInt16) : List UInt8 := [lo8 v, hi8 v]

def le32 (v : UInt32) : List UInt8 :=
  [(v &&& 0xFF).toUInt8, ((v >>> 8) &&& 0xFF).toUInt8, ((v >>> 16) &&& 0xFF).toUInt8,
    ((v >>> 24) &&& 0xFF).toUInt8]

def le64 (v : UInt64) : List UInt8 :=
  (List.range 8).map fun i => (v >>> (8 * i).toUInt64).toUInt8

def join16 (lo hi : UInt8) : UInt16 := lo.toUInt16 ||| (hi.toUInt16 <<< 8)

def join32 (bs : List UInt8) : UInt32 :=
  (bs.getD 0 0).toUInt32 ||| ((bs.getD 1 0).toUInt32 <<< 8) |||
    ((bs.getD 2 0).toUInt32 <<< 16) ||| ((bs.getD 3 0).toUInt32 <<< 24)

def join64 (bs : List UInt8) : UInt64 :=
  (List.range 8).foldl (fun v i => v ||| ((bs.getD i 0).toUInt64 <<< (8 * i).toUInt64)) 0

def read8 (bs : List UInt8) (i : Nat) : Option UInt8 := bs[i]?

/-- Two bytes at `i`, or `none` when one of them lies outside. -/
def read16 (bs : List UInt8) (i : Nat) : Option UInt16 := do
  let lo ← bs[i]?
  let hi ← bs[i + 1]?
  return join16 lo hi

/-- The words of a list; an odd last byte is left over. -/
def words : List UInt8 → List UInt16
  | lo :: hi :: bs => join16 lo hi :: words bs
  | _ => []

def read64 (bs : List UInt8) (i : Nat) : Option UInt64 :=
  if i + 8 ≤ bs.length then some (join64 ((bs.drop i).take 8)) else none

/-- The `len` bytes at `off`. -/
def slice (bs : List UInt8) (off len : Nat) : List UInt8 := (bs.drop off).take len

/-- The `len` bytes at `off`, or `none` when one of them lies outside. -/
def readBytes (bs : List UInt8) (off len : Nat) : Option (List UInt8) :=
  if off + len ≤ bs.length then some (slice bs off len) else none

/-! ## Words -/

/-- Adding the byte above the low `a` bits gives the low `a + 8` bits. -/
private theorem mod_or_byte (n a w : Nat) (h : a + 8 ≤ w) :
    n % 2 ^ a ||| ((n >>> a % 256) <<< a) % 2 ^ w = n % 2 ^ (a + 8) := by
  apply Nat.eq_of_testBit_eq
  intro i
  rw [show 256 = 2 ^ 8 from rfl]
  simp only [Nat.testBit_lor, Nat.testBit_mod_two_pow, Nat.testBit_shiftLeft,
    Nat.testBit_shiftRight]
  by_cases hlow : i < a
  · simp [hlow, show i < a + 8 by omega, show ¬ a ≤ i by omega]
  · have hi : a + (i - a) = i := by omega
    simp only [hlow, hi, decide_false, Bool.false_and, Bool.false_or, ge_iff_le,
      show a ≤ i by omega, decide_true, Bool.true_and]
    by_cases hhigh : i < a + 8
    · simp [hhigh, show i < w by omega, show i - a < 8 by omega]
    · simp [hhigh, show ¬ i - a < 8 by omega]

private theorem and_low_byte (n : Nat) : n &&& 255 = n % 256 := by
  simpa using Nat.and_two_pow_sub_one_eq_mod n 8

@[simp] theorem join16_bytes (v : UInt16) : join16 (lo8 v) (hi8 v) = v := by
  have h := mod_or_byte v.toNat 8 16 (by decide)
  have hv := Nat.mod_eq_of_lt v.toNat_lt
  simp only [Nat.reducePow, Nat.reduceAdd] at h hv
  apply UInt16.toNat_inj.mp
  simp [join16, lo8, hi8, and_low_byte, h, hv]

theorem join16_eq_xor (lo hi : UInt8) : join16 lo hi = lo.toUInt16 ^^^ (hi.toUInt16 <<< 8) := by
  apply UInt16.toBitVec_inj.mp
  ext i hi'
  by_cases h : i < 8
  · simp [join16, h]
  · have hlo : lo.toBitVec.getLsbD i = false := BitVec.getLsbD_of_ge _ _ (by omega)
    simp [join16, h, hlo]

theorem join16_and_high (lo hi m : UInt8) :
    join16 lo hi &&& (m.toUInt16 <<< 8) = (hi &&& m).toUInt16 <<< 8 := by
  apply UInt16.toBitVec_inj.mp
  ext i hi
  by_cases h : i < 8
  · simp [join16, h]
  · have hlo : lo.toBitVec.getLsbD i = false := BitVec.getLsbD_of_ge _ _ (by omega)
    simp [join16, h, hlo]

@[simp] theorem join32_le32 (v : UInt32) : join32 (le32 v) = v := by
  have h := fun a => mod_or_byte v.toNat a 32
  have h8 := h 8 (by decide)
  have h16 := h 16 (by decide)
  have h24 := h 24 (by decide)
  have hv := Nat.mod_eq_of_lt v.toNat_lt
  simp only [Nat.reducePow, Nat.reduceAdd] at h8 h16 h24 hv
  apply UInt32.toNat_inj.mp
  simp [join32, le32, and_low_byte, h8, h16, h24, hv]

@[simp] theorem join64_le64 (v : UInt64) : join64 (le64 v) = v := by
  have h := fun a => mod_or_byte v.toNat a 64
  have h8 := h 8 (by decide)
  have h16 := h 16 (by decide)
  have h24 := h 24 (by decide)
  have h32 := h 32 (by decide)
  have h40 := h 40 (by decide)
  have h48 := h 48 (by decide)
  have h56 := h 56 (by decide)
  have hv := Nat.mod_eq_of_lt v.toNat_lt
  simp only [Nat.reducePow, Nat.reduceAdd] at h8 h16 h24 h32 h40 h48 h56 hv
  apply UInt64.toNat_inj.mp
  simp [join64, le64, List.range, List.range.loop, h8, h16, h24, h32, h40, h48, h56, hv]

theorem toNat_toUInt8 {n : Nat} (h : n < 256) : n.toUInt8.toNat = n := UInt8.toNat_ofNat_of_lt' h

theorem exists_fin {n : Nat} {b : UInt8} (h : b.toNat < n) : ∃ i : Fin n, b = UInt8.ofNat i.1 :=
  ⟨⟨b.toNat, h⟩, UInt8.toNat_inj.mp (by simp)⟩

theorem forall_byte {P : UInt8 → Prop} (h : ∀ n : Fin 256, P (UInt8.ofNat n.1)) (b : UInt8) :
    P b := by
  have hb := h ⟨b.toNat, b.toNat_lt⟩
  rwa [UInt8.ofNat_toNat] at hb

theorem toNat_succ {i : UInt8} (h : i.toNat < 255) : (i + 1).toNat = i.toNat + 1 := by
  rw [UInt8.toNat_add, UInt8.toNat_one]
  omega

@[simp] theorem le16_length (v : UInt16) : (le16 v).length = 2 := rfl
@[simp] theorem le32_length (v : UInt32) : (le32 v).length = 4 := rfl
@[simp] theorem le64_length (v : UInt64) : (le64 v).length = 8 := by simp [le64]

/-! ## Reads -/

@[simp] theorem read8_eq (bs : List UInt8) (i : Nat) : read8 bs i = bs[i]? := rfl

theorem read16_isSome {bs : List UInt8} {i : Nat} (h : i + 1 < bs.length) :
    ∃ v, read16 bs i = some v := by
  have hlo : bs[i]? = some bs[i] := List.getElem?_eq_getElem (by omega)
  have hhi : bs[i + 1]? = some bs[i + 1] := List.getElem?_eq_getElem h
  exact ⟨join16 bs[i] bs[i + 1], by simp [read16, hlo, hhi]⟩

theorem read16_eq_none {bs : List UInt8} {i : Nat} (h : bs.length ≤ i + 1) :
    read16 bs i = none := by
  have hhi : bs[i + 1]? = none := List.getElem?_eq_none h
  simp [read16, hhi]

theorem read64_isSome {bs : List UInt8} {i : Nat} (h : i + 8 ≤ bs.length) :
    ∃ v, read64 bs i = some v := ⟨_, if_pos h⟩

theorem getElem?_isSome {bs : List UInt8} {i : Nat} (h : i < bs.length) :
    ∃ b, bs[i]? = some b := ⟨_, List.getElem?_eq_getElem h⟩

theorem getElem?_getD {bs : List UInt8} {i : Nat} (h : i < bs.length) :
    bs[i]? = some (bs.getD i 0) := by
  rw [List.getElem?_eq_getElem h, List.getD_eq_getElem _ _ h]

theorem drop_pair {bs : List UInt8} {i : Nat} (h : i + 1 < bs.length) :
    bs.drop i = [bs.getD i 0, bs.getD (i + 1) 0] ++ bs.drop (i + 2) := by
  rw [List.drop_eq_getElem_cons (by omega), List.drop_eq_getElem_cons h,
    List.getD_eq_getElem?_getD, List.getD_eq_getElem?_getD,
    List.getElem?_eq_getElem (show i < bs.length by omega), List.getElem?_eq_getElem h]
  rfl

theorem read16_getD {bs : List UInt8} {i : Nat} (h : i + 1 < bs.length) :
    read16 bs i = some (join16 (bs.getD i 0) (bs.getD (i + 1) 0)) := by
  rw [read16, getElem?_getD (by omega : i < bs.length), getElem?_getD h]
  rfl

@[simp] theorem read16_cons (b : UInt8) (bs : List UInt8) (i : Nat) :
    read16 (b :: bs) (i + 1) = read16 bs i := by simp [read16]

@[simp] theorem read16_le16 (v : UInt16) (bs : List UInt8) :
    read16 (le16 v ++ bs) 0 = some v := by simp [read16, le16]

theorem read16_append_right {pre : List UInt8} (bs : List UInt8) {i : Nat} (h : pre.length ≤ i) :
    read16 (pre ++ bs) i = read16 bs (i - pre.length) := by
  simp only [read16]
  rw [List.getElem?_append_right h, List.getElem?_append_right (by omega),
    show i + 1 - pre.length = i - pre.length + 1 by omega]

@[simp] theorem read64_cons (b : UInt8) (bs : List UInt8) (i : Nat) :
    read64 (b :: bs) (i + 1) = read64 bs i := by
  simp only [read64, List.length_cons, List.drop_succ_cons]
  congr 1
  simp only [eq_iff_iff]
  omega

@[simp] theorem read64_le64 (v : UInt64) (bs : List UInt8) :
    read64 (le64 v ++ bs) 0 = some v := by
  have htake : (le64 v ++ bs).take 8 = le64 v := List.take_left' (le64_length v)
  simp [read64, htake]

theorem read64_append_right {pre : List UInt8} (bs : List UInt8) {i : Nat} (h : pre.length ≤ i) :
    read64 (pre ++ bs) i = read64 bs (i - pre.length) := by
  have hd : (pre ++ bs).drop i = bs.drop (i - pre.length) := by
    rw [List.drop_append, List.drop_eq_nil_of_le h, List.nil_append]
  simp only [read64, hd, List.length_append]
  congr 1
  simp only [eq_iff_iff]
  omega

theorem read16_drop (bs : List UInt8) (n i : Nat) :
    read16 (bs.drop n) i = read16 bs (n + i) := by
  simp only [read16, List.getElem?_drop, Nat.add_assoc]

theorem read64_drop {bs : List UInt8} {n : Nat} (i : Nat) (h : n ≤ bs.length) :
    read64 (bs.drop n) i = read64 bs (n + i) := by
  simp only [read64, List.length_drop, List.drop_drop]
  congr 1
  simp only [eq_iff_iff]
  omega

/-- Records of `s` bytes, and what begins at the `k`th of them. -/
theorem length_records {α : Type} {f : α → List UInt8} {s : Nat} (hf : ∀ a, (f a).length = s)
    (xs : List α) : (xs.flatMap f).length = xs.length * s := by
  induction xs with
  | nil => simp
  | cons x xs ih =>
    simp only [List.flatMap_cons, List.length_append, hf, ih, List.length_cons, Nat.succ_mul]
    omega

theorem drop_records {α : Type} {f : α → List UInt8} {s : Nat} (hf : ∀ a, (f a).length = s)
    {xs : List α} {k : Nat} (hk : k < xs.length) :
    (xs.flatMap f).drop (k * s) = f xs[k] ++ (xs.drop (k + 1)).flatMap f := by
  induction xs generalizing k with
  | nil => simp at hk
  | cons x xs ih =>
    cases k with
    | zero => simp
    | succ k =>
      have hsize : (f x).length + k * s = (k + 1) * s := by rw [hf, Nat.succ_mul, Nat.add_comm]
      rw [List.flatMap_cons, ← hsize, List.drop_length_add_append, ih (by simpa using hk)]
      rfl

theorem length_words (ws : List UInt16) : (ws.flatMap le16).length = ws.length * 2 :=
  length_records le16_length ws

/-- A table in rows of one width is looked up by row and column. -/
theorem getD_rows {rows : List (List UInt8)} {width : Nat}
    (hwidth : ∀ row ∈ rows, row.length = width) (hpos : 0 < width) (i : Nat) :
    rows.flatten.getD i 0 = (rows.getD (i / width) []).getD (i % width) 0 := by
  induction rows generalizing i with
  | nil => rfl
  | cons row rows ih =>
    have hlen := hwidth row List.mem_cons_self
    have hrest := ih fun r hr => hwidth r (List.mem_cons_of_mem _ hr)
    rw [List.flatten_cons]
    by_cases hi : i < width
    · rw [List.getD_append _ _ _ _ (by omega), Nat.div_eq_of_lt hi, Nat.mod_eq_of_lt hi,
        List.getD_cons_zero]
    · obtain ⟨k, rfl⟩ := Nat.exists_eq_add_of_le (Nat.le_of_not_lt hi)
      rw [List.getD_append_right _ _ _ _ (by omega), hlen, Nat.add_sub_cancel_left, hrest,
        Nat.add_div_left _ hpos, Nat.add_mod_left, List.getD_cons_succ]

theorem read16_words (ws : List UInt16) (tail : List UInt8) {i : Nat} (h : i < ws.length) :
    read16 (ws.flatMap le16 ++ tail) (i * 2) = some ws[i] := by
  induction ws generalizing i with
  | nil => simp at h
  | cons w ws ih =>
    cases i with
    | zero => simp [List.append_assoc]
    | succ i =>
      have hi : i < ws.length := by simpa using h
      rw [List.flatMap_cons, List.append_assoc, read16_append_right _ (by rw [le16_length]; omega),
        le16_length, show (i + 1) * 2 - 2 = i * 2 by omega, ih hi, List.getElem_cons_succ]

/-- The words from `i` on start with the one that is read there. -/
theorem words_drop {bs : List UInt8} {i : Nat} {w : UInt16} (h : read16 bs i = some w) :
    words (bs.drop i) = w :: words (bs.drop (i + 2)) := by
  have hi : i + 1 < bs.length := by
    by_contra hnot
    rw [read16_eq_none (Nat.not_lt.mp hnot)] at h
    cases h
  obtain rfl := Option.some.inj ((read16_getD hi).symm.trans h)
  rw [List.drop_eq_getElem_cons (by omega : i < bs.length), List.drop_eq_getElem_cons hi, words,
    List.getD_eq_getElem _ _ (by omega : i < bs.length), List.getD_eq_getElem _ _ hi]

theorem words_drop_end {bs : List UInt8} {i : Nat} (h : bs.length ≤ i + 1) :
    words (bs.drop i) = [] := by
  have hshort : (bs.drop i).length ≤ 1 := by
    rw [List.length_drop]
    omega
  rcases hdrop : bs.drop i with - | ⟨b, - | ⟨c, rest⟩⟩
  · rfl
  · rfl
  · rw [hdrop] at hshort
    simp at hshort

/-! ## Slices -/

theorem take_set {α : Type} {l : List α} {k : Nat} (b : α) (h : k < l.length) :
    (l.set k b).take (k + 1) = l.take k ++ [b] := by
  rw [List.take_succ_eq_append_getElem (by rwa [List.length_set]), List.getElem_set_self,
    List.take_set_of_le (Nat.le_refl k)]

theorem slice_succ {bs : List UInt8} {off len : Nat} (h : off < bs.length) :
    slice bs off (len + 1) = bs[off] :: slice bs (off + 1) len := by
  rw [slice, List.drop_eq_getElem_cons h, List.take_succ_cons]
  rfl

theorem slice_append (pre bs : List UInt8) : slice (pre ++ bs) pre.length bs.length = bs := by
  simp [slice]

theorem slice_of_length {pre bs : List UInt8} {off len : Nat} (hoff : off = pre.length)
    (hlen : len = bs.length) : slice (pre ++ bs) off len = bs := by
  subst hoff hlen
  exact slice_append pre bs

theorem slice_append_left {pre : List UInt8} (post : List UInt8) {off len : Nat}
    (h : off + len ≤ pre.length) : slice (pre ++ post) off len = slice pre off len := by
  rw [slice, slice, List.drop_append_of_le_length (by omega), List.take_append_of_le_length]
  rw [List.length_drop]
  omega

/-- The pieces of a frame, as a reader cuts them out by their lengths. -/
theorem frame_pieces (hdr aux body trailer : List UInt8) :
    let frame := hdr ++ aux ++ body ++ trailer
    frame.take hdr.length = hdr ∧ frame.take (hdr.length + aux.length) = hdr ++ aux ∧
      slice frame hdr.length aux.length = aux ∧
      slice frame (hdr.length + aux.length) body.length = body ∧
      frame.drop (frame.length - trailer.length) = trailer := by
  refine ⟨?_, ?_, ?_, ?_, ?_⟩
  · rw [List.append_assoc, List.append_assoc]
    exact List.take_left
  · rw [List.append_assoc (hdr ++ aux), ← List.length_append]
    exact List.take_left
  · rw [List.append_assoc, slice_append_left _ (by rw [List.length_append])]
    exact slice_append hdr aux
  · rw [slice_append_left _ (by simp only [List.length_append]; omega), ← List.length_append]
    exact slice_append (hdr ++ aux) body
  · apply List.drop_left'
    simp only [List.length_append]
    omega

end ByteCodec
