import Mathlib.Data.Finset.Card

/-!
# Bounded sets

A set of at most `n` elements, and the lists that represent it: those that hold each element once.
Removing by moving the last element into the gap represents the removal.
-/

structure BoundedSet (α : Type*) (n : Nat) where
  members : Finset α
  card_le : members.card ≤ n

namespace BoundedSet

variable {α : Type*} {n : Nat}

def empty : BoundedSet α n := ⟨∅, by simp⟩

/-- The last element moved into the place of another one. -/
theorem swap_remove_perm {l : List α} {i : Nat} (hi : i < l.length) (d : α) :
    (l.set i (l.getLastD d)).dropLast.Perm (l.eraseIdx i) := by
  rcases List.eq_nil_or_concat l with rfl | ⟨front, last, rfl⟩
  · simp at hi
  rw [List.concat_eq_append] at hi ⊢
  have hlast : (front ++ [last]).getLastD d = last := by simp
  rw [hlast]
  by_cases hin : i < front.length
  · rw [List.set_append_left _ _ hin, List.dropLast_concat, List.eraseIdx_append_of_lt_length hin,
      List.set_eq_take_append_cons_drop, if_pos hin, List.eraseIdx_eq_take_drop_succ]
    exact List.perm_middle.trans (List.perm_append_singleton _ _).symm
  · have hlength : i = front.length := by
      rw [List.length_append, List.length_singleton] at hi
      omega
    subst hlength
    rw [List.eraseIdx_append_of_length_le (Nat.le_refl _)]
    simp

variable [DecidableEq α]

/-- A new element gets in only while there is room. -/
def insert (s : BoundedSet α n) (a : α) : BoundedSet α n :=
  if h : s.members.card < n then
    ⟨Insert.insert a s.members, (Finset.card_insert_le a s.members).trans h⟩
  else s

def erase (s : BoundedSet α n) (a : α) : BoundedSet α n :=
  ⟨s.members.erase a, (Finset.card_le_card (Finset.erase_subset a s.members)).trans s.card_le⟩

/-- The list holds the elements of the set, each once. -/
def Represents (l : List α) (s : BoundedSet α n) : Prop := l.Nodup ∧ l.toFinset = s.members

theorem represents_empty : Represents [] (empty : BoundedSet α n) := ⟨List.nodup_nil, rfl⟩

section Represents

variable {l : List α} {s : BoundedSet α n} {a : α}

theorem Represents.mem_iff (h : Represents l s) : a ∈ l ↔ a ∈ s.members := by
  rw [← h.2, List.mem_toFinset]

theorem Represents.length_eq (h : Represents l s) : l.length = s.members.card := by
  rw [← h.2, List.toFinset_card_of_nodup h.1]

theorem Represents.length_le (h : Represents l s) : l.length ≤ n := h.length_eq ▸ s.card_le

theorem Represents.insert_member (h : Represents l s) (ha : a ∈ l) : Represents l (s.insert a) := by
  refine ⟨h.1, ?_⟩
  unfold insert
  split
  · exact h.2.trans (Finset.insert_eq_of_mem (h.mem_iff.mp ha)).symm
  · exact h.2

theorem Represents.insert_full (h : Represents l s) (hfull : n ≤ l.length) :
    Represents l (s.insert a) := by
  rw [h.length_eq] at hfull
  rwa [insert, dif_neg (Nat.not_lt.mpr hfull)]

theorem Represents.insert_append (h : Represents l s) (ha : a ∉ l) (hroom : l.length < n) :
    Represents (l ++ [a]) (s.insert a) := by
  have hnodup : (l ++ [a]).Nodup :=
    h.1.append (List.nodup_singleton a) (by simpa using ha)
  refine ⟨hnodup, ?_⟩
  rw [h.length_eq] at hroom
  rw [insert, dif_pos hroom]
  ext b
  simp [← h.2]

theorem Represents.erase_absent (h : Represents l s) (ha : a ∉ l) : Represents l (s.erase a) := by
  refine ⟨h.1, ?_⟩
  rw [h.mem_iff] at ha
  exact h.2.trans (Finset.erase_eq_of_notMem ha).symm

theorem Represents.erase_perm (h : Represents l s) {l' : List α} (hperm : l'.Perm (l.erase a)) :
    Represents l' (s.erase a) := by
  refine ⟨hperm.nodup_iff.mpr (h.1.erase a), ?_⟩
  ext b
  simp [hperm.mem_iff, h.1.mem_erase_iff, erase, ← h.2]

end Represents

/-- Removing the element at `i` so represents the set without it. -/
theorem Represents.erase_swap {l : List α} {s : BoundedSet α n} {a : α} {i : Nat}
    (h : Represents l s) (hi : i < l.length) (ha : l[i] = a) (d : α) :
    Represents (l.set i (l.getLastD d)).dropLast (s.erase a) := by
  apply h.erase_perm
  rw [← ha, h.1.erase_getElem i hi]
  exact swap_remove_perm hi d

theorem Represents.take {l : List α} {s : BoundedSet α n} (h : Represents l s) (k : Nat) :
    (l.take k).Nodup ∧ (l.take k).toFinset ⊆ s.members ∧
      (l.take k).length = min k s.members.card := by
  refine ⟨h.1.sublist (List.take_sublist k l), ?_, ?_⟩
  · intro a ha
    exact h.mem_iff.mp (List.mem_of_mem_take (List.mem_toFinset.mp ha))
  · rw [List.length_take, h.length_eq]

end BoundedSet
