import Mathlib.Data.List.Flatten

/-!
# Pieces one behind the other

A reader takes one piece off the front of its input and leaves the rest. Run to the end of the
input, it recovers a list of pieces when it recovers each of them in front of anything.
-/

namespace Delimited

variable {α β : Type*}

/-- All the pieces of the input; the fuel bounds their number. -/
def readAll (read : List β → Option (α × List β)) : Nat → List β → Option (List α)
  | _, [] => some []
  | 0, _ :: _ => none
  | fuel + 1, b :: bs => (read (b :: bs)).bind fun p => (readAll read fuel p.2).map (p.1 :: ·)

/-- The piece is written as something, and read back in front of anything. -/
def Recovers (read : List β → Option (α × List β)) (write : α → List β) (a : α) : Prop :=
  write a ≠ [] ∧ ∀ rest, read (write a ++ rest) = some (a, rest)

variable {read : List β → Option (α × List β)} {write : α → List β}

theorem readAll_cons {a : α} (h : Recovers read write a) (fuel : Nat) (rest : List β) :
    readAll read (fuel + 1) (write a ++ rest) = (readAll read fuel rest).map (a :: ·) := by
  obtain ⟨b, bs, hwrite⟩ := List.exists_cons_of_ne_nil h.1
  have hread := h.2 rest
  rw [hwrite, List.cons_append] at hread ⊢
  rw [readAll, hread]
  rfl

theorem readAll_flatMap {as : List α} (h : ∀ a ∈ as, Recovers read write a) {fuel : Nat}
    (hfuel : as.length ≤ fuel) : readAll read fuel (as.flatMap write) = some as := by
  induction as generalizing fuel with
  | nil => rw [List.flatMap_nil, readAll]
  | cons a as ih =>
    obtain ⟨fuel, rfl⟩ := Nat.exists_eq_add_of_lt hfuel
    have hrest := @ih (fun a ha => h a (List.mem_cons_of_mem _ ha)) (as.length + fuel)
      (Nat.le_add_right _ _)
    rw [List.flatMap_cons, readAll_cons (h a List.mem_cons_self), hrest]
    rfl

theorem length_le_flatMap {as : List α} (h : ∀ a ∈ as, write a ≠ []) :
    as.length ≤ (as.flatMap write).length := by
  induction as with
  | nil => exact Nat.le_refl 0
  | cons a as ih =>
    have hrest := ih fun a ha => h a (List.mem_cons_of_mem _ ha)
    have hpos := List.length_pos_iff.mpr (h a List.mem_cons_self)
    rw [List.flatMap_cons, List.length_append, List.length_cons]
    omega

end Delimited
