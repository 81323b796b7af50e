import NiusZigbee.Library.ByteCodec

/-!
# Stores into a caller's buffer

An encoder returns a length and the stores it made, in program order. A store may land anywhere,
so an encoder that writes past the length it returns is seen to do so.
-/

namespace OutBuffer

/-- Consecutive stores of `bs` from index `off` on. -/
def emit (off : Nat) : List UInt8 → List (Nat × UInt8)
  | [] => []
  | b :: bs => (off, b) :: emit (off + 1) bs

/-- The byte the stores leave at index `i`; later stores win, an index never stored to reads 0. -/
def content (writes : List (Nat × UInt8)) (i : Nat) : UInt8 :=
  writes.foldl (fun acc w => if w.1 = i then w.2 else acc) 0

structure Built where
  len : Nat
  writes : List (Nat × UInt8)
deriving DecidableEq, Repr

/-- The early `return 0` before any store. -/
def Built.fail : Built := ⟨0, []⟩

/-- The first `len` bytes of the buffer. -/
def Built.bytes (o : Built) : List UInt8 := (List.range o.len).map (content o.writes)

/-- Exactly the bytes `bs`, from index 0 on. -/
def Built.exact (bs : List UInt8) : Built := ⟨bs.length, emit 0 bs⟩

/-- What is built at the end of what is there already. -/
def Built.append (o p : Built) : Built where
  len := (o.len + p.len) % 256
  writes := o.writes ++ p.writes.map fun w => (o.len + w.1, w.2)

/-- A nonzero length within the buffer, with no store at or past it. -/
def Built.Within (o : Built) (outMax : Nat) : Prop :=
  0 < o.len ∧ o.len ≤ outMax ∧ ∀ w ∈ o.writes, w.1 < o.len

@[simp] theorem emit_nil (off : Nat) : emit off [] = [] := rfl

theorem emit_append (off : Nat) (a b : List UInt8) :
    emit off (a ++ b) = emit off a ++ emit (off + a.length) b := by
  induction a generalizing off with
  | nil => rfl
  | cons x xs ih =>
    simp only [List.cons_append, emit, ih, List.length_cons]
    rw [show off + 1 + xs.length = off + (xs.length + 1) by omega]

/-- Two adjacent runs of stores are one run. -/
theorem emit_glue {off off' : Nat} (a b : List UInt8) (h : off' = off + a.length) :
    emit off a ++ emit off' b = emit off (a ++ b) := by
  rw [emit_append, h]

theorem emit_glue_if {off : Nat} (p : Prop) [Decidable p] (a b : List UInt8)
    (h : off = a.length) :
    emit 0 a ++ (if p then emit off b else []) = emit 0 (a ++ if p then b else []) := by
  split
  · exact emit_glue _ _ (by omega)
  · simp

theorem emit_index {off : Nat} {bs : List UInt8} {w : Nat × UInt8} (h : w ∈ emit off bs) :
    off ≤ w.1 ∧ w.1 < off + bs.length := by
  induction bs generalizing off with
  | nil => simp at h
  | cons b bs ih =>
    simp only [emit, List.mem_cons] at h
    rcases h with rfl | h
    · simp
    · have := ih h
      simp only [List.length_cons]
      omega

theorem mem_emit {off i : Nat} {bs : List UInt8} (hlow : off ≤ i) (hhigh : i < off + bs.length) :
    ∃ b, (i, b) ∈ emit off bs := by
  induction bs generalizing off with
  | nil => simp at hhigh; omega
  | cons b bs ih =>
    by_cases hi : i = off
    · exact ⟨b, by simp [emit, hi]⟩
    · obtain ⟨c, hc⟩ := ih (by omega : off + 1 ≤ i) (by simp at hhigh; omega)
      exact ⟨c, by simp [emit, hc]⟩

theorem emit_map_add (k off : Nat) (bs : List UInt8) :
    (emit off bs).map (fun w => (k + w.1, w.2)) = emit (k + off) bs := by
  induction bs generalizing off with
  | nil => rfl
  | cons b bs ih => rw [emit, List.map_cons, ih, emit, Nat.add_assoc]

/-- Records of `s` bytes stored at stride `s` are one run. -/
theorem emit_records {α : Type} (f : α → List UInt8) (s : Nat) (hf : ∀ a, (f a).length = s)
    (off k : Nat) (xs : List α) :
    (xs.zipIdx k).flatMap (fun p => emit (off + p.2 * s) (f p.1)) =
      emit (off + k * s) (xs.flatMap f) := by
  induction xs generalizing k with
  | nil => rfl
  | cons x xs ih =>
    simp only [List.zipIdx_cons, List.flatMap_cons, ih]
    exact emit_glue _ _ (by rw [hf, Nat.succ_mul]; omega)

private theorem content_foldl (bs : List UInt8) (off i : Nat) (acc : UInt8) :
    (emit off bs).foldl (fun acc w => if w.1 = i then w.2 else acc) acc =
      if off ≤ i then bs.getD (i - off) acc else acc := by
  induction bs generalizing off acc with
  | nil => simp
  | cons b bs ih =>
    simp only [emit, List.foldl_cons, ih]
    by_cases hi : off = i
    · subst hi
      simp
    · by_cases hle : off ≤ i
      · have hlt : off + 1 ≤ i := by omega
        obtain ⟨k, hk⟩ : ∃ k, i - off = k + 1 := ⟨i - off - 1, by omega⟩
        simp [hi, hle, hlt, hk, show i - (off + 1) = k by omega]
      · simp [hi, hle, show ¬ off + 1 ≤ i by omega]

theorem content_emit (bs : List UInt8) (i : Nat) (h : i < bs.length) :
    content (emit 0 bs) i = bs[i] := by
  rw [content, content_foldl]
  simp [List.getElem?_eq_getElem h]

@[simp] theorem Built.fail_len : Built.fail.len = 0 := rfl

@[simp] theorem Built.exact_len (bs : List UInt8) : (Built.exact bs).len = bs.length := rfl

@[simp] theorem Built.exact_bytes (bs : List UInt8) : (Built.exact bs).bytes = bs := by
  apply List.ext_getElem
  · simp [Built.bytes, Built.exact]
  · intro i _ hi
    simp [Built.bytes, Built.exact, content_emit bs i hi]

theorem Built.exact_append {a b : List UInt8} (h : a.length + b.length < 256) :
    (Built.exact a).append (.exact b) = .exact (a ++ b) := by
  simp only [Built.append, Built.exact, emit_map_add, emit_append, List.length_append,
    Nat.mod_eq_of_lt h, Nat.zero_add, Nat.add_zero]

theorem Built.append_fail {o : Built} (h : o.len < 256) : o.append .fail = o := by
  simp only [Built.append, Built.fail, List.map_nil, List.append_nil, Nat.add_zero,
    Nat.mod_eq_of_lt h]

theorem Built.bytes_store (bs : List UInt8) {off : Nat} (b : UInt8) :
    (Built.mk bs.length (emit 0 bs ++ emit off [b])).bytes = bs.set off b := by
  apply List.ext_getElem
  · simp [Built.bytes]
  · intro i _ hi
    have hlt : i < bs.length := by simpa using hi
    have hcontent : content (emit 0 bs) i = bs[i] := content_emit bs i hlt
    simp only [content] at hcontent
    simp [Built.bytes, content, List.getElem_set, emit, hcontent]

theorem Built.exact_within (bs : List UInt8) {outMax : Nat} (hpos : 0 < bs.length)
    (hmax : bs.length ≤ outMax) : (Built.exact bs).Within outMax := by
  refine ⟨hpos, hmax, ?_⟩
  intro w hw
  have := emit_index hw
  simp only [Built.exact]
  omega

theorem Built.not_within_of_write {o : Built} {outMax : Nat} {w : Nat × UInt8}
    (hw : w ∈ o.writes) (hlen : o.len ≤ w.1) : ¬ o.Within outMax := by
  intro h
  exact absurd (h.2.2 w hw) (Nat.not_lt.mpr hlen)

end OutBuffer
