import Mathlib.Data.List.Basic

/-!
# Windows of a list, and a buffer filled window by window

A list is cut into windows of one size, the last one possibly shorter. A buffer into which every
window has been stored at its place holds the list, in whatever order and however often.
-/

namespace Windows

variable {α : Type}

def window (size : Nat) (xs : List α) (k : Nat) : List α := (xs.drop (k * size)).take size

/-- How many windows `len` elements take. -/
def count (size len : Nat) : Nat := (len + size - 1) / size

/-- Storing `ys` from `off` on. -/
def overwrite (buf : List α) (off : Nat) (ys : List α) : List α :=
  buf.take off ++ ys ++ buf.drop (off + ys.length)

/-- The buffer agrees with the list on this window. -/
def Holds (size : Nat) (xs buf : List α) (k : Nat) : Prop :=
  ∀ p, k * size ≤ p → p < (k + 1) * size → p < xs.length → buf[p]? = xs[p]?

variable {size k : Nat} {xs ys buf : List α} {off : Nat}

theorem window_length (size : Nat) (xs : List α) (k : Nat) :
    (window size xs k).length = min size (xs.length - k * size) := by
  rw [window, List.length_take, List.length_drop]

theorem overwrite_length (h : off + ys.length ≤ buf.length) :
    (overwrite buf off ys).length = buf.length := by
  simp only [overwrite, List.length_append, List.length_take, List.length_drop]
  omega

theorem getElem?_overwrite (h : off + ys.length ≤ buf.length) (p : Nat) :
    (overwrite buf off ys)[p]? =
      if off ≤ p ∧ p < off + ys.length then ys[p - off]? else buf[p]? := by
  have htake : (buf.take off).length = off := by
    rw [List.length_take]
    omega
  rw [overwrite, List.append_assoc]
  rcases Nat.lt_or_ge p off with hlow | hlow
  · rw [List.getElem?_append_left (by omega), List.getElem?_take_of_lt hlow, if_neg (by omega)]
  · rw [List.getElem?_append_right (by omega), htake]
    rcases Nat.lt_or_ge p (off + ys.length) with hhigh | hhigh
    · rw [List.getElem?_append_left (by omega), if_pos ⟨hlow, hhigh⟩]
    · rw [List.getElem?_append_right (by omega), List.getElem?_drop, if_neg (by omega)]
      congr 1
      omega

/-- Storing a window changes its own places only, to what the list has there. -/
theorem getElem?_overwrite_window (h : k * size + (window size xs k).length ≤ buf.length)
    (p : Nat) :
    (overwrite buf (k * size) (window size xs k))[p]? =
      if k * size ≤ p ∧ p < (k + 1) * size ∧ p < xs.length then xs[p]? else buf[p]? := by
  rw [getElem?_overwrite h]
  have hlen := window_length size xs k
  have hnext : (k + 1) * size = k * size + size := Nat.succ_mul k size
  by_cases hin : k * size ≤ p ∧ p < (k + 1) * size ∧ p < xs.length
  · rw [if_pos hin, if_pos (by omega), window, List.getElem?_take_of_lt (by omega),
      List.getElem?_drop]
    congr 1
    omega
  · rw [if_neg hin, if_neg (by omega)]

theorem le_count_mul (h : 0 < size) (len : Nat) : len ≤ count size len * size := by
  have hdiv := Nat.div_add_mod (len + size - 1) size
  have hmod := Nat.mod_lt (len + size - 1) h
  rw [Nat.mul_comm] at hdiv
  unfold count
  omega

theorem count_mul_lt (h : 0 < size) (len : Nat) : count size len * size < len + size := by
  have hdiv := Nat.div_mul_le_self (len + size - 1) size
  unfold count
  omega

theorem count_le_iff (h : 0 < size) (len n : Nat) : count size len ≤ n ↔ len ≤ n * size := by
  constructor
  · intro hle
    exact Nat.le_trans (le_count_mul h len) (Nat.mul_le_mul_right size hle)
  · intro hle
    have hlt := count_mul_lt h len
    apply Nat.le_of_lt_succ
    apply Nat.lt_of_mul_lt_mul_right (a := size)
    rw [Nat.succ_mul]
    omega

/-- The windows behind one another give the list as far as they go. -/
theorem flatMap_windows (size : Nat) (xs : List α) (n : Nat) :
    (List.range n).flatMap (window size xs) = xs.take (n * size) := by
  induction n with
  | zero => simp
  | succ n ih =>
    rw [List.range_succ, List.flatMap_append, ih, List.flatMap_singleton, Nat.succ_mul,
      List.take_add, window]

theorem holds_stored (h : k * size + (window size xs k).length ≤ buf.length) :
    Holds size xs (overwrite buf (k * size) (window size xs k)) k := by
  intro p hlow hhigh hp
  rw [getElem?_overwrite_window h, if_pos ⟨hlow, hhigh, hp⟩]

theorem Holds.store {j : Nat} (hj : Holds size xs buf j)
    (h : k * size + (window size xs k).length ≤ buf.length) :
    Holds size xs (overwrite buf (k * size) (window size xs k)) j := by
  intro p hlow hhigh hp
  rw [getElem?_overwrite_window h]
  split
  · rfl
  · exact hj p hlow hhigh hp

theorem take_of_holds {n : Nat} (hsize : 0 < size) (hn : xs.length ≤ n * size)
    (hfit : xs.length ≤ buf.length) (h : ∀ k < n, Holds size xs buf k) :
    buf.take xs.length = xs := by
  apply List.ext_getElem?
  intro p
  rcases Nat.lt_or_ge p xs.length with hp | hp
  · rw [List.getElem?_take_of_lt hp]
    have hk : p / size < n := Nat.div_lt_of_lt_mul (by rw [Nat.mul_comm]; omega)
    exact h _ hk p (Nat.div_mul_le_self p size) (by
      rw [Nat.mul_comm]
      exact Nat.lt_mul_div_succ p hsize) hp
  · rw [List.getElem?_eq_none hp, List.getElem?_eq_none]
    rw [List.length_take]
    omega

end Windows
