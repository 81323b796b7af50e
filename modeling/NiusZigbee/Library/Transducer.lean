import Mathlib.Data.List.Basic

/-!
# Machines that read symbols and report

A step takes a state and a symbol to a state and what it reports, or faults. Reading a word strings
the steps together; a fault anywhere is a fault of the whole.
-/

namespace Transducer

variable {σ ι ω : Type} (step : σ → ι → Option (σ × List ω))

def run (s : σ) : List ι → Option (σ × List ω)
  | [] => some (s, [])
  | i :: is => do
    let (s, now) ← step s i
    let (s, later) ← run s is
    return (s, now ++ later)

variable {step}

theorem run_cons {s s' t : σ} {i : ι} {is : List ι} {now later : List ω}
    (hstep : step s i = some (s', now)) (hread : run step s' is = some (t, later)) :
    run step s (i :: is) = some (t, now ++ later) := by
  simp [run, hstep, hread]

theorem run_append {s s' t : σ} {is js : List ι} {out out' : List ω}
    (his : run step s is = some (s', out)) (hjs : run step s' js = some (t, out')) :
    run step s (is ++ js) = some (t, out ++ out') := by
  induction is generalizing s out with
  | nil =>
    simp only [run, Option.some.injEq, Prod.mk.injEq] at his
    obtain ⟨rfl, rfl⟩ := his
    exact hjs
  | cons i is ih =>
    simp only [run, Option.bind_eq_bind, Option.bind_eq_some_iff] at his
    obtain ⟨⟨m, now⟩, hstep, ⟨u, later⟩, hrest, hout⟩ := his
    simp only [Option.pure_def, Option.some.injEq, Prod.mk.injEq] at hout
    obtain ⟨rfl, rfl⟩ := hout
    rw [List.cons_append, List.append_assoc]
    exact run_cons hstep (ih hrest)

/-- Where every step from an invariant succeeds and keeps it, so does every word. -/
theorem run_invariant {I : σ → Prop}
    (hstep : ∀ s i, I s → ∃ s' out, step s i = some (s', out) ∧ I s') {s : σ} (hs : I s)
    (is : List ι) : ∃ s' out, run step s is = some (s', out) ∧ I s' := by
  induction is generalizing s with
  | nil => exact ⟨s, [], rfl, hs⟩
  | cons i is ih =>
    obtain ⟨m, now, hnow, hm⟩ := hstep s i hs
    obtain ⟨t, later, hlater, ht⟩ := ih hm
    exact ⟨t, now ++ later, run_cons hnow hlater, ht⟩

/-- Where a symbol brings the rank down from every state of an invariant, enough of them bring it to
zero. -/
theorem run_replicate_rank {I : σ → Prop} {rank : σ → Nat} {i : ι}
    (hstep : ∀ s, I s → ∃ s' out, step s i = some (s', out) ∧ I s' ∧ rank s' ≤ rank s - 1) {s : σ}
    (hs : I s) {n : Nat} (hn : rank s ≤ n) :
    ∃ s' out, run step s (List.replicate n i) = some (s', out) ∧ I s' ∧ rank s' = 0 := by
  induction n generalizing s with
  | zero => exact ⟨s, [], rfl, hs, by omega⟩
  | succ n ih =>
    obtain ⟨m, now, hnow, hm, hrank⟩ := hstep s hs
    obtain ⟨t, later, hlater, ht, hzero⟩ := ih hm (by omega)
    exact ⟨t, now ++ later, run_cons hnow hlater, ht, hzero⟩

end Transducer
