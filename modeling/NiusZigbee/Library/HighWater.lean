import Mathlib.Logic.Function.Basic
import Mathlib.Order.Lattice

/-!
# High-water marks

A monitor keeps the largest value accepted so far under each key and accepts only larger ones.
-/

namespace HighWater

variable {κ ν : Type} [DecidableEq κ] [LinearOrder ν]

/-- `c` lies above the mark of `k`, if there is one. -/
def Fresh (m : κ → Option ν) (k : κ) (c : ν) : Prop := ∀ v, m k = some v → v < c

def raise (m : κ → Option ν) (k : κ) (c : ν) : κ → Option ν := Function.update m k (some c)

/-- The observations a monitor starting from `m` accepts, one after the other. -/
def Accepted (m : κ → Option ν) : List (κ × ν) → Prop
  | [] => True
  | (k, c) :: rest => Fresh m k c ∧ Accepted (raise m k c) rest

theorem fresh_raise_self {m : κ → Option ν} {k : κ} {c d : ν} :
    Fresh (raise m k c) k d ↔ c < d := by
  simp [Fresh, raise]

theorem fresh_raise_other {m : κ → Option ν} {k k' : κ} {c d : ν} (h : k' ≠ k) :
    Fresh (raise m k c) k' d ↔ Fresh m k' d := by
  simp [Fresh, raise, Function.update_of_ne h]

theorem not_fresh_raise {m : κ → Option ν} {k k' : κ} {c d : ν} (hstale : ¬ Fresh m k d)
    (hfresh : Fresh m k' c) : ¬ Fresh (raise m k' c) k d := by
  by_cases hk : k = k'
  · subst hk
    rw [fresh_raise_self, not_lt]
    simp only [Fresh, not_forall, not_lt] at hstale
    obtain ⟨v, hv, hle⟩ := hstale
    exact le_trans hle (le_of_lt (hfresh v hv))
  · rwa [fresh_raise_other hk]

/-- Whatever is accepted later under a key lies above its present mark. -/
theorem Accepted.fresh {m : κ → Option ν} {l : List (κ × ν)} (h : Accepted m l) :
    ∀ p ∈ l, Fresh m p.1 p.2 := by
  induction l generalizing m with
  | nil => simp
  | cons p l ih =>
    obtain ⟨k, c⟩ := p
    obtain ⟨hfresh, hrest⟩ := h
    intro q hq
    rcases List.mem_cons.mp hq with rfl | hq
    · exact hfresh
    · have hlater := ih hrest q hq
      by_cases hk : q.1 = k
      · rw [hk] at hlater ⊢
        intro v hv
        exact lt_trans (hfresh v hv) (fresh_raise_self.mp hlater)
      · exact (fresh_raise_other hk).mp hlater

theorem Accepted.increasing {m : κ → Option ν} {l : List (κ × ν)} (h : Accepted m l) :
    l.Pairwise fun p q => p.1 = q.1 → p.2 < q.2 := by
  induction l generalizing m with
  | nil => exact List.Pairwise.nil
  | cons p l ih =>
    obtain ⟨k, c⟩ := p
    refine List.pairwise_cons.mpr ⟨?_, ih h.2⟩
    rintro ⟨k', d⟩ hq rfl
    exact fresh_raise_self.mp (h.2.fresh _ hq)

/-! ## Marks taken back -/

/-- No mark for the keys that `p` picks. -/
def forget (m : κ → Option ν) (p : κ → Bool) : κ → Option ν := fun k => if p k then none else m k

omit [DecidableEq κ] in
theorem fresh_forget {m : κ → Option ν} {p : κ → Bool} {k : κ} {d : ν} :
    Fresh (forget m p) k d ↔ p k = true ∨ Fresh m k d := by
  by_cases hp : p k = true
  · simp [Fresh, forget, hp]
  · simp [Fresh, forget, hp]

variable (κ ν) in
/-- An observation the monitor accepts, or marks that are taken back. -/
inductive Event where
  | accepted (k : κ) (c : ν)
  | forgotten (p : κ → Bool)

/-- What a monitor that starts from `m` accepts between the times marks are taken back. -/
def Log (m : κ → Option ν) : List (Event κ ν) → Prop
  | [] => True
  | .accepted k c :: rest => Fresh m k c ∧ Log (raise m k c) rest
  | .forgotten p :: rest => Log (forget m p) rest

/-- No mark of `k` is taken back. -/
def Remembers (k : κ) (l : List (Event κ ν)) : Prop := ∀ p, Event.forgotten p ∈ l → p k = false

theorem Log.fresh {m : κ → Option ν} {mid post : List (Event κ ν)} {k : κ} {d : ν}
    (h : Log m (mid ++ .accepted k d :: post)) (hmid : Remembers k mid) : Fresh m k d := by
  induction mid generalizing m with
  | nil => exact h.1
  | cons e mid ih =>
    have hrest : Remembers k mid := fun p hp => hmid p (List.mem_cons_of_mem e hp)
    cases e with
    | accepted k' c =>
      have hlater := ih h.2 hrest
      by_cases hk : k = k'
      · subst hk
        intro v hv
        exact lt_trans (h.1 v hv) (fresh_raise_self.mp hlater)
      · exact (fresh_raise_other hk).mp hlater
    | forgotten p =>
      rcases fresh_forget.mp (ih h hrest) with hp | hfresh
      · rw [hmid p List.mem_cons_self] at hp
        cases hp
      · exact hfresh

/-- As long as no mark of a key is taken back, the values accepted under it strictly increase. -/
theorem Log.increasing {m : κ → Option ν} {pre mid post : List (Event κ ν)} {k : κ} {c d : ν}
    (h : Log m (pre ++ .accepted k c :: (mid ++ .accepted k d :: post)))
    (hmid : Remembers k mid) : c < d := by
  induction pre generalizing m with
  | nil => exact fresh_raise_self.mp (h.2.fresh hmid)
  | cons e pre ih =>
    cases e with
    | accepted k' c' => exact ih h.2
    | forgotten p => exact ih h

end HighWater
