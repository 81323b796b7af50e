import Mathlib.Logic.Relation
import Mathlib.Data.List.Chain
import Mathlib.Order.Basic

/-!
# Pointers that descend

Nodes point at one another. Where every pointer leads to a node of smaller rank there is no cycle,
and where moreover every node but the root points somewhere, following the pointers ends there.
-/

namespace Descent

variable {α : Type} (hop : α → α → Prop)

theorem acyclic_of_rank (rank : α → Nat) (h : ∀ v u, hop v u → rank u < rank v) (v : α) :
    ¬ Relation.TransGen hop v v := by
  have hlt : ∀ {v u}, Relation.TransGen hop v u → rank u < rank v := by
    intro v u hvu
    induction hvu with
    | single hv => exact h _ _ hv
    | tail _ hstep ih => exact (h _ _ hstep).trans ih
  exact fun hc => lt_irrefl _ (hlt hc)

/-- A walk along the pointers from `v` to `root` that strictly descends, so that it visits no node
twice. -/
structure Walk (rank : α → Nat) (root v : α) (path : List α) : Prop where
  start : path.head? = some v
  finish : path.getLast? = some root
  follows : path.IsChain hop
  descends : path.IsChain fun a b => rank b < rank a
  nodup : path.Nodup

private theorem nodup_of_descends {rank : α → Nat} {path : List α}
    (h : path.IsChain fun a b => rank b < rank a) : path.Nodup := by
  have htrans : IsTrans α fun a b => rank b < rank a := ⟨fun _ _ _ hab hbc => hbc.trans hab⟩
  exact (List.isChain_iff_pairwise.mp h).imp fun hab heq => by simp [heq] at hab

theorem Walk.length_le {rank : α → Nat} {root v : α} {path : List α}
    (h : Walk hop rank root v path) : path.length ≤ rank v + 1 := by
  have hchain : ∀ (path : List α) (v : α), (v :: path).IsChain (fun a b => rank b < rank a) →
      path.length ≤ rank v := by
    intro path
    induction path with
    | nil => exact fun v _ => Nat.zero_le _
    | cons u path ih =>
      intro v hdesc
      obtain ⟨hlt, hrest⟩ := List.isChain_cons_cons.mp hdesc
      exact Nat.lt_of_le_of_lt (ih u hrest) hlt
  cases path with
  | nil => exact Nat.zero_le _
  | cons x path =>
    obtain rfl : x = v := by simpa using h.start
    exact Nat.succ_le_succ (hchain path x h.descends)

theorem exists_walk {rank : α → Nat} {root : α}
    (h : ∀ v, v ≠ root → (∃ u, hop v u) → ∃ u, hop v u ∧ rank u < rank v ∧
      (u = root ∨ ∃ w, hop u w)) :
    ∀ v, (v = root ∨ ∃ u, hop v u) → ∃ path, Walk hop rank root v path := by
  intro v
  induction hr : rank v using Nat.strong_induction_on generalizing v with
  | _ n ih =>
    intro hv
    by_cases hroot : v = root
    · exact ⟨[v], by simp, by simp [hroot], by simp, by simp, by simp⟩
    · obtain ⟨u, hu, hlt, hnext⟩ := h v hroot (hv.resolve_left hroot)
      obtain ⟨path, w⟩ := ih (rank u) (hr ▸ hlt) u rfl hnext
      obtain ⟨rest, rfl⟩ : ∃ rest, path = u :: rest := by
        cases path with
        | nil => simpa using w.start
        | cons x rest =>
          have hx : x = u := by simpa using w.start
          exact ⟨rest, by rw [hx]⟩
      have hdesc : (v :: u :: rest).IsChain fun a b => rank b < rank a :=
        List.isChain_cons_cons.mpr ⟨hlt, w.descends⟩
      exact ⟨v :: u :: rest, by simp, by simpa using w.finish,
        List.isChain_cons_cons.mpr ⟨hu, w.follows⟩, hdesc, nodup_of_descends hdesc⟩

/-- With more than one root: where every other node of `inside` points to one of smaller rank in
there, a walk leads from each to a root. -/
theorem exists_walk_to {rank : α → Nat} {inside root : α → Prop}
    (h : ∀ v, inside v → ¬ root v → ∃ u, hop v u ∧ rank u < rank v ∧ inside u) :
    ∀ v, inside v → ∃ u path, root u ∧ inside u ∧ Walk hop rank u v path := by
  intro v
  induction hr : rank v using Nat.strong_induction_on generalizing v with
  | _ n ih =>
    intro hv
    by_cases hroot : root v
    · exact ⟨v, [v], hroot, hv, by simp, by simp, by simp, by simp, by simp⟩
    · obtain ⟨w, hw, hlt, hin⟩ := h v hv hroot
      obtain ⟨u, path, hu, huin, hwalk⟩ := ih (rank w) (hr ▸ hlt) w rfl hin
      obtain ⟨rest, rfl⟩ : ∃ rest, path = w :: rest := by
        cases path with
        | nil => simpa using hwalk.start
        | cons x rest =>
          have hx : x = w := by simpa using hwalk.start
          exact ⟨rest, by rw [hx]⟩
      have hdesc : (v :: w :: rest).IsChain fun a b => rank b < rank a :=
        List.isChain_cons_cons.mpr ⟨hlt, hwalk.descends⟩
      exact ⟨u, v :: w :: rest, hu, huin, by simp, by simpa using hwalk.finish,
        List.isChain_cons_cons.mpr ⟨hw, hwalk.follows⟩, hdesc, nodup_of_descends hdesc⟩

end Descent
