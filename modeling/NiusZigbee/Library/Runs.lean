import Mathlib.Logic.Basic

/-!
# Runs of a step function

A run is a list of actions folded over a step function. A condition asked of every step is a
predicate on the state before it and the action.
-/

namespace Runs

variable {σ α : Type} (step : σ → α → σ)

/-- Every step of the run from `s` meets `P`. -/
def Along (P : σ → α → Prop) : σ → List α → Prop
  | _, [] => True
  | s, a :: as => P s a ∧ Along P (step s a) as

variable {step} {P : σ → α → Prop}

theorem invariant {I : σ → Prop} (hstep : ∀ s a, I s → I (step s a)) {s : σ} (hs : I s)
    (as : List α) : I (as.foldl step s) := by
  induction as generalizing s with
  | nil => exact hs
  | cons a as ih => exact ih (hstep s a hs)

theorem along_append {s : σ} {as bs : List α} :
    Along step P s (as ++ bs) ↔ Along step P s as ∧ Along step P (as.foldl step s) bs := by
  induction as generalizing s with
  | nil => simp [Along]
  | cons a as ih =>
    rw [List.cons_append, Along, ih, Along, List.foldl_cons, and_assoc]

theorem along_of_forall {as : List α} (h : ∀ a ∈ as, ∀ s, P s a) (s : σ) : Along step P s as := by
  induction as generalizing s with
  | nil => trivial
  | cons a as ih =>
    exact ⟨h a List.mem_cons_self s, ih (fun b hb => h b (List.mem_cons_of_mem a hb)) _⟩

theorem along_congr {Q : σ → α → Prop} (h : ∀ s a, P s a ↔ Q s a) {s : σ} {as : List α} :
    Along step P s as ↔ Along step Q s as := by
  induction as generalizing s with
  | nil => exact Iff.rfl
  | cons a as ih => exact and_congr (h s a) ih

theorem Along.invariant {I : σ → Prop} (hstep : ∀ s a, I s → P s a → I (step s a)) {s : σ}
    (hs : I s) {as : List α} (h : Along step P s as) : I (as.foldl step s) := by
  induction as generalizing s with
  | nil => exact hs
  | cons a as ih => exact ih (hstep s a hs h.1) h.2

/-- Where an action that occurs keeps `I` just when it meets `P`, a run meets `P` throughout just
when `I` holds after every part of it. -/
theorem along_iff_of {I : σ → Prop} {as : List α}
    (hstep : ∀ s, ∀ a ∈ as, I s → (I (step s a) ↔ P s a)) {s : σ} (hs : I s) :
    Along step P s as ↔ ∀ n, I ((as.take n).foldl step s) := by
  induction as generalizing s with
  | nil => simp [Along, hs]
  | cons a as ih =>
    have hrest : ∀ s, ∀ a ∈ as, I s → (I (step s a) ↔ P s a) :=
      fun s b hb => hstep s b (List.mem_cons_of_mem a hb)
    constructor
    · rintro ⟨ha, has⟩ n
      cases n with
      | zero => exact hs
      | succ n =>
        rw [List.take_succ_cons, List.foldl_cons]
        exact (ih hrest ((hstep s a List.mem_cons_self hs).mpr ha)).mp has n
    · intro h
      have hnext : I (step s a) := by simpa using h 1
      refine ⟨(hstep s a List.mem_cons_self hs).mp hnext, (ih hrest hnext).mpr fun n => ?_⟩
      have hn := h (n + 1)
      rwa [List.take_succ_cons, List.foldl_cons] at hn

theorem along_iff {I : σ → Prop} (hstep : ∀ s a, I s → (I (step s a) ↔ P s a)) {s : σ} (hs : I s)
    (as : List α) : Along step P s as ↔ ∀ n, I ((as.take n).foldl step s) :=
  along_iff_of (fun s a _ => hstep s a) hs

/-- A step that may fail, and a step of the states it stands for: where every step succeeds and
keeps to what it stands for, so does a run. -/
theorem refines {τ : Type} {stepM : σ → α → Option σ} {abstract : τ → α → τ} {R : σ → τ → Prop}
    (hstep : ∀ s t a, R s t → ∃ s', stepM s a = some s' ∧ R s' (abstract t a)) {s : σ} {t : τ}
    (h : R s t) (as : List α) :
    ∃ s', as.foldlM stepM s = some s' ∧ R s' (as.foldl abstract t) := by
  induction as generalizing s t with
  | nil => exact ⟨s, rfl, h⟩
  | cons a as ih =>
    obtain ⟨next, hnext, hkept⟩ := hstep s t a h
    obtain ⟨s', hrun, hs'⟩ := ih hkept
    refine ⟨s', ?_, hs'⟩
    rw [List.foldlM_cons, hnext]
    exact hrun

instance Along.decidable [hP : ∀ s a, Decidable (P s a)] :
    ∀ (s : σ) (as : List α), Decidable (Along step P s as)
  | _, [] => isTrue trivial
  | s, a :: as =>
    have := Along.decidable (step s a) as
    inferInstanceAs (Decidable (P s a ∧ Along step P (step s a) as))

end Runs
