import Mathlib.Data.List.Basic

/-!
# Scratch buffers

A buffer of fixed size whose accesses are checked: one that is not inside of it, at either end, is
a fault.
-/

namespace Scratch

inductive Fault where
  | outside
deriving DecidableEq, Repr

variable {α : Type}

/-- The elements of `data` from index `off` on. -/
def write (buf : List α) (off : Int) (data : List α) : Except Fault (List α) :=
  if 0 ≤ off ∧ off + data.length ≤ buf.length then
    .ok (buf.take off.toNat ++ data ++ buf.drop (off.toNat + data.length))
  else .error .outside

/-- The first `n` elements. -/
def read (buf : List α) (n : Nat) : Except Fault (List α) :=
  if n ≤ buf.length then .ok (buf.take n) else .error .outside

theorem write_append {front old data back : List α} (h : old.length = data.length) {off : Int}
    (hoff : off = front.length) :
    write (front ++ old ++ back) off data = .ok (front ++ data ++ back) := by
  subst hoff
  have hin : (0 : Int) ≤ front.length ∧
      (front.length : Int) + data.length ≤ (front ++ old ++ back).length := by
    rw [List.length_append, List.length_append]
    omega
  have hback : (front ++ old ++ back).drop (front.length + data.length) = back := by
    rw [← h, ← List.length_append, List.drop_left]
  rw [write, if_pos hin, Int.toNat_natCast, hback, List.append_assoc front old, List.take_left]

theorem write_outside {buf data : List α} {off : Int} (h : buf.length < off + data.length) :
    write buf off data = .error .outside :=
  if_neg fun hin => absurd hin.2 (by omega)

theorem read_append {front back : List α} {n : Nat} (h : n = front.length) :
    read (front ++ back) n = .ok front := by
  subst h
  rw [read, if_pos (by rw [List.length_append]; exact Nat.le_add_right _ _), List.take_left]

end Scratch
