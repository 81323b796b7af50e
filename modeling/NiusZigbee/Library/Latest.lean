import Mathlib.Data.List.Induction

/-!
# The latest event of a history

In a history of actions, oldest first, an action may set a value, or clear what was set; which it
does may depend on the history before it. The latest value is the one that was set and neither set
again nor cleared since.
-/

namespace Latest

variable {α β : Type} (sets : List α → α → β → Prop) (clears : List α → α → Prop)

/-- An action that leaves the value alone. -/
def Idle (past : List α) (a : α) : Prop := ¬ clears past a ∧ ∀ b, ¬ sets past a b

/-- `b` was set in the history, and every action since left it alone. -/
def LatestValue (history : List α) (b : β) : Prop :=
  ∃ past a since, history = past ++ a :: since ∧ sets past a b ∧
    ∀ mid a' rest, since = mid ++ a' :: rest → Idle sets clears (past ++ a :: mid) a'

variable {sets clears}

theorem not_latestValue_nil (b : β) : ¬ LatestValue sets clears [] b := by
  rintro ⟨past, a, since, h, -⟩
  exact absurd h.symm (by simp)

theorem latestValue_concat {history : List α} {a : α} {b : β} :
    LatestValue sets clears (history ++ [a]) b ↔
      sets history a b ∨ Idle sets clears history a ∧ LatestValue sets clears history b := by
  constructor
  · rintro ⟨past, a', since, h, hset, hsince⟩
    rcases List.eq_nil_or_concat since with rfl | ⟨mid, x, rfl⟩
    · obtain ⟨rfl, hx⟩ := List.append_inj' h rfl
      obtain rfl := List.singleton_inj.mp hx
      exact Or.inl hset
    · rw [List.concat_eq_append] at h hsince
      rw [← List.cons_append, ← List.append_assoc] at h
      obtain ⟨rfl, hx⟩ := List.append_inj' h rfl
      obtain rfl := List.singleton_inj.mp hx
      refine Or.inr ⟨hsince mid a [] rfl, past, a', mid, rfl, hset, ?_⟩
      intro mid' x rest hmid
      exact hsince mid' x (rest ++ [a]) (by rw [hmid, List.append_assoc, List.cons_append])
  · rintro (hset | ⟨hidle, past, a', since, rfl, hset, hsince⟩)
    · refine ⟨history, a, [], rfl, hset, ?_⟩
      intro mid x rest h
      exact absurd h.symm (by simp)
    · refine ⟨past, a', since ++ [a], by rw [List.append_assoc, List.cons_append], hset, ?_⟩
      intro mid x rest h
      rcases List.eq_nil_or_concat rest with rfl | ⟨rest', y, rfl⟩
      · obtain ⟨rfl, hx⟩ := List.append_inj' h rfl
        obtain rfl := List.singleton_inj.mp hx
        exact hidle
      · rw [List.concat_eq_append, ← List.cons_append, ← List.append_assoc] at h
        exact hsince mid x rest' (List.append_inj' h rfl).1

/-- A value that follows every action holds the latest one. -/
theorem eq_some_iff {f : List α → Option β} (hnil : f [] = none)
    (hset : ∀ past a b, sets past a b → f (past ++ [a]) = some b)
    (hclear : ∀ past a, clears past a → f (past ++ [a]) = none)
    (hidle : ∀ past a, Idle sets clears past a → f (past ++ [a]) = f past) (history : List α)
    (b : β) : f history = some b ↔ LatestValue sets clears history b := by
  induction history using List.reverseRecOn with
  | nil => exact iff_of_false (by rw [hnil]; simp) (not_latestValue_nil b)
  | append_singleton history a ih =>
    rw [latestValue_concat, ← ih]
    constructor
    · intro h
      by_cases ha : Idle sets clears history a
      · exact Or.inr ⟨ha, (hidle history a ha).symm.trans h⟩
      · left
        rcases not_and_or.mp ha with hc | hs
        · rw [hclear history a (not_not.mp hc)] at h
          cases h
        · obtain ⟨b', hb'⟩ := not_forall.mp hs
          rw [hset history a b' (not_not.mp hb')] at h
          rw [← Option.some.inj h]
          exact not_not.mp hb'
    · rintro (hs | ⟨ha, h⟩)
      · exact hset history a b hs
      · exact (hidle history a ha).trans h

end Latest
