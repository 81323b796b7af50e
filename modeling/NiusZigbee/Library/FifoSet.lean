import Mathlib.Data.List.Nodup

/-!
# Bounded first-in-first-out sets

A set of bounded size that makes room by giving up its oldest element, and the ring of slots that
holds it. The ring is such a set while the slot that it recycles is that of the oldest element.
-/

namespace FifoSet

variable {α : Type}

/-- Slots filled in order, and the one to recycle next. -/
structure RingBuffer (α : Type) where
  slots : List α := []
  next : Nat := 0

namespace RingBuffer

/-- A full ring has to give up a slot for `a`. -/
def Recycles (cap : Nat) (r : RingBuffer α) (a : α) : Prop := a ∉ r.slots ∧ cap ≤ r.slots.length

/-- The ring holds the set `xs`: in the order of its slots, or full and from the next slot on. -/
structure Follows (cap : Nat) (r : RingBuffer α) (xs : List α) : Prop where
  nodup : r.slots.Nodup
  fits : r.slots.length ≤ cap
  next_lt : r.next < cap
  order : xs = r.slots ∨ r.slots.length = cap ∧ xs = r.slots.drop r.next ++ r.slots.take r.next

variable {cap : Nat} {r : RingBuffer α} {xs : List α} {a : α}

theorem Follows.mem_iff (h : Follows cap r xs) : a ∈ r.slots ↔ a ∈ xs := by
  rcases h.order with rfl | ⟨-, rfl⟩
  · rfl
  · rw [List.mem_append, or_comm, ← List.mem_append, List.take_append_drop]

theorem Follows.length_eq (h : Follows cap r xs) : xs.length = r.slots.length := by
  rcases h.order with rfl | ⟨-, rfl⟩
  · rfl
  · simp only [List.length_append, List.length_drop, List.length_take]
    omega

theorem follows_nil {next : Nat} (h : next < cap) : Follows cap (⟨[], next⟩ : RingBuffer α) [] where
  nodup := List.nodup_nil
  fits := Nat.zero_le cap
  next_lt := h
  order := Or.inl rfl

private theorem set_nodup (hnodup : r.slots.Nodup) (hnew : a ∉ r.slots)
    (hnext : r.next < r.slots.length) : (r.slots.set r.next a).Nodup := by
  rw [List.set_eq_take_append_cons_drop, if_pos hnext]
  rw [← List.take_append_drop r.next r.slots, List.drop_eq_getElem_cons hnext] at hnodup hnew
  rw [List.nodup_middle] at hnodup ⊢
  refine List.nodup_cons.mpr ⟨fun hmem => hnew ?_, (List.nodup_cons.mp hnodup).2⟩
  rw [List.mem_append] at hmem
  rw [List.mem_append, List.mem_cons]
  exact hmem.imp_right Or.inr

variable [DecidableEq α]

instance : Decidable (r.Recycles cap a) := inferInstanceAs (Decidable (_ ∧ _))

def insert (cap : Nat) (r : RingBuffer α) (a : α) : RingBuffer α :=
  if a ∈ r.slots then r
  else if r.slots.length < cap then { r with slots := r.slots ++ [a] }
  else { slots := r.slots.set r.next a, next := (r.next + 1) % cap }

end RingBuffer

/-- A member is left where it is; a full set gives up its oldest element. -/
def insert [DecidableEq α] (cap : Nat) (xs : List α) (a : α) : List α :=
  if a ∈ xs then xs else if xs.length < cap then xs ++ [a] else xs.tail ++ [a]

namespace RingBuffer

variable [DecidableEq α] {cap : Nat} {r : RingBuffer α} {xs : List α} {a : α}

private theorem insert_full (h : r.Recycles cap a) :
    r.insert cap a = { slots := r.slots.set r.next a, next := (r.next + 1) % cap } := by
  rw [insert, if_neg h.1, if_neg (Nat.not_lt.mpr h.2)]

/-- A ring keeps on holding the set if it recycles the slot of the oldest element. -/
theorem Follows.insert (h : Follows cap r xs)
    (holdest : r.Recycles cap a → r.slots[r.next]? = xs.head?) :
    Follows cap (r.insert cap a) (FifoSet.insert cap xs a) := by
  have hlength := h.length_eq
  by_cases hmem : a ∈ r.slots
  · rw [RingBuffer.insert, if_pos hmem, FifoSet.insert, if_pos (h.mem_iff.mp hmem)]
    exact h
  have hnew : a ∉ xs := fun hx => hmem (h.mem_iff.mpr hx)
  by_cases hroom : r.slots.length < cap
  · have horder : xs = r.slots := h.order.resolve_right fun hfull => by omega
    rw [RingBuffer.insert, if_neg hmem, if_pos hroom, FifoSet.insert, if_neg hnew,
      if_pos (by omega)]
    refine ⟨?_, by rw [List.length_append]; exact hroom, h.next_lt, Or.inl (by rw [horder])⟩
    exact List.nodup_append.mpr ⟨h.nodup, List.nodup_singleton a, fun b hb c hc hbc => by
      rw [List.mem_singleton] at hc
      exact hmem (hc ▸ hbc ▸ hb)⟩
  have hfull : r.slots.length = cap := Nat.le_antisymm h.fits (Nat.not_lt.mp hroom)
  have hnext : r.next < r.slots.length := hfull ▸ h.next_lt
  have hrecycles : r.Recycles cap a := ⟨hmem, Nat.le_of_eq hfull.symm⟩
  -- the first slot recycled is the first filled, so the order is that of the ring from there on
  have horder : xs = r.slots.drop r.next ++ r.slots.take r.next := by
    rcases h.order with horder | ⟨-, horder⟩
    · have hhead := holdest hrecycles
      rw [horder, List.head?_eq_getElem?] at hhead
      have hzero : r.next = 0 := (List.getElem?_inj hnext h.nodup).mp hhead
      rw [horder, hzero, List.drop_zero, List.take_zero, List.append_nil]
    · exact horder
  rw [insert_full hrecycles, FifoSet.insert, if_neg hnew, if_neg (by omega), horder,
    List.drop_eq_getElem_cons hnext, List.cons_append, List.tail_cons]
  refine ⟨set_nodup h.nodup hmem hnext, by rw [List.length_set]; exact h.fits,
    Nat.mod_lt _ (by omega), Or.inr ⟨by rw [List.length_set]; exact hfull, ?_⟩⟩
  have hset : r.slots.set r.next a =
      r.slots.take r.next ++ [a] ++ r.slots.drop (r.next + 1) := by
    rw [List.set_eq_take_append_cons_drop, if_pos hnext, List.append_cons]
  have hlen : (r.slots.take r.next ++ [a]).length = r.next + 1 := by
    rw [List.length_append, List.length_take, List.length_singleton]
    omega
  dsimp only
  rw [hset]
  by_cases hwrap : r.next + 1 = cap
  · rw [hwrap, Nat.mod_self, List.drop_zero, List.take_zero, List.append_nil,
      List.drop_eq_nil_of_le (by omega), List.nil_append, List.append_nil]
  · have hlt := h.next_lt
    rw [Nat.mod_eq_of_lt (by omega), List.drop_left' hlen, List.take_left' hlen, List.append_assoc]

/-- Otherwise it gives up an element the set still has. -/
theorem Follows.insert_iff (h : Follows cap r xs) :
    Follows cap (r.insert cap a) (FifoSet.insert cap xs a) ↔
      (r.Recycles cap a → r.slots[r.next]? = xs.head?) := by
  refine ⟨fun hnew hrecycles => ?_, h.insert⟩
  obtain ⟨hmem, hfull⟩ := hrecycles
  have hlength := h.length_eq
  have hnext : r.next < r.slots.length := Nat.lt_of_lt_of_le h.next_lt hfull
  have hlost : r.slots[r.next] ∉ (r.insert cap a).slots := by
    rw [insert_full ⟨hmem, hfull⟩]
    intro hin
    obtain ⟨i, hi, hget⟩ := List.mem_iff_getElem.mp hin
    dsimp only at hi hget
    rw [List.length_set] at hi
    rw [List.getElem_set] at hget
    split at hget
    · exact hmem (hget ▸ List.getElem_mem hnext)
    · next hne => exact hne (h.nodup.getElem_inj_iff.mp hget).symm
  have hgone : r.slots[r.next] ∉ xs.tail ++ [a] := by
    have hnot : a ∉ xs := fun hx => hmem (h.mem_iff.mpr hx)
    rw [FifoSet.insert, if_neg hnot, if_neg (by omega)] at hnew
    exact fun hin => hlost (hnew.mem_iff.mpr hin)
  have hin : r.slots[r.next] ∈ xs := h.mem_iff.mp (List.getElem_mem hnext)
  cases xs with
  | nil => cases hin
  | cons x xs =>
    rw [List.getElem?_eq_getElem hnext, List.head?_cons]
    rcases List.mem_cons.mp hin with hhead | htail
    · rw [hhead]
    · exact absurd (List.mem_append_left [a] htail) hgone

end RingBuffer

end FifoSet
