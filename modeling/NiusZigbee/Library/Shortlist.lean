import Mathlib.Data.List.Induction
import Mathlib.Order.Basic

/-!
# A table of the best offers

Offers compete for the slots of a table, and the best acceptable entry is picked in the end. Nothing
is missed while the table covers the offers: each acceptable one is matched by an acceptable entry
at least as strong.
-/

namespace Shortlist

variable {α β : Type} [Preorder β] (ok : α → Bool) (strength : α → β)

def Covers (t offers : List α) : Prop :=
  ∀ x ∈ offers, ok x = true → ∃ e ∈ t, ok e = true ∧ strength x ≤ strength e

/-- The scan for the best acceptable entry: the one found so far gives way to better ones. -/
def pick (better : α → α → Bool) (t : List α) : Option α :=
  t.foldl (fun best e => if !ok e then best else if best.all (better e) then some e else best) none

/-- If any offer was acceptable, the entry is acceptable and no acceptable offer was stronger. -/
def Best (offers : List α) (picked : Option α) : Prop :=
  (∃ x ∈ offers, ok x = true) →
    ∃ p ∈ picked, ok p = true ∧ ∀ x ∈ offers, ok x = true → strength x ≤ strength p

variable {ok strength} {better : α → α → Bool} {t offers : List α} {x old weakest : α} {i : Nat}

/-! ## The pick -/

private theorem pick_cases (hbetter : ∀ a b, better a b = true → strength b ≤ strength a)
    (hworse : ∀ a b, better a b = false → strength a ≤ strength b) (t : List α) :
    (pick ok better t = none ∧ ∀ e ∈ t, ok e = false) ∨
    ∃ p ∈ t, pick ok better t = some p ∧ ok p = true ∧
      ∀ e ∈ t, ok e = true → strength e ≤ strength p := by
  induction t using List.reverseRecOn with
  | nil => exact .inl ⟨rfl, by simp⟩
  | append_singleton t e ih =>
    have hstep : pick ok better (t ++ [e]) =
        if !ok e then pick ok better t
        else if (pick ok better t).all (better e) then some e else pick ok better t := by
      simp [pick]
    rw [hstep]
    cases hok : ok e with
    | false =>
      rw [if_pos (by rfl)]
      rcases ih with ⟨hnone, hall⟩ | ⟨p, hp, hsome, hpok, hmax⟩
      · refine .inl ⟨hnone, fun b hb => ?_⟩
        rcases List.mem_append.mp hb with hb | hb
        · exact hall b hb
        · rw [List.mem_singleton.mp hb, hok]
      · refine .inr ⟨p, List.mem_append_left _ hp, hsome, hpok, fun b hb hbok => ?_⟩
        rcases List.mem_append.mp hb with hb | hb
        · exact hmax b hb hbok
        · rw [List.mem_singleton.mp hb, hok] at hbok
          cases hbok
    | true =>
      rw [if_neg (by simp)]
      rcases ih with ⟨hnone, hall⟩ | ⟨p, hp, hsome, hpok, hmax⟩
      · rw [hnone, if_pos (by rfl)]
        refine .inr ⟨e, by simp, rfl, hok, fun b hb hbok => ?_⟩
        rcases List.mem_append.mp hb with hb | hb
        · rw [hall b hb] at hbok
          cases hbok
        · exact (congrArg strength (List.mem_singleton.mp hb)).le
      · rw [hsome, Option.all_some]
        cases hwins : better e p with
        | true =>
          rw [if_pos rfl]
          refine .inr ⟨e, by simp, rfl, hok, fun b hb hbok => ?_⟩
          rcases List.mem_append.mp hb with hb | hb
          · exact (hmax b hb hbok).trans (hbetter e p hwins)
          · exact (congrArg strength (List.mem_singleton.mp hb)).le
        | false =>
          rw [if_neg Bool.false_ne_true]
          refine .inr ⟨p, List.mem_append_left _ hp, rfl, hpok, fun b hb hbok => ?_⟩
          rcases List.mem_append.mp hb with hb | hb
          · exact hmax b hb hbok
          · rw [List.mem_singleton.mp hb]
            exact hworse e p hwins

/-- The pick is the best offer just when the table covers the offers. -/
theorem best_pick_iff (hbetter : ∀ a b, better a b = true → strength b ≤ strength a)
    (hworse : ∀ a b, better a b = false → strength a ≤ strength b) :
    Best ok strength offers (pick ok better t) ↔ Covers ok strength t offers := by
  rcases pick_cases hbetter hworse t with ⟨hnone, hall⟩ | ⟨p, hp, hsome, hpok, hmax⟩
  · rw [hnone]
    constructor
    · intro hbest x hx hok
      obtain ⟨p, hp, _⟩ := hbest ⟨x, hx, hok⟩
      cases hp
    · rintro hcovers ⟨x, hx, hok⟩
      obtain ⟨e, he, heok, _⟩ := hcovers x hx hok
      rw [hall e he] at heok
      cases heok
  · rw [hsome]
    constructor
    · intro hbest x hx hok
      obtain ⟨p', hp', hpok', hbeats⟩ := hbest ⟨x, hx, hok⟩
      obtain rfl := Option.some.inj hp'
      exact ⟨p, hp, hpok', hbeats x hx hok⟩
    · intro hcovers _
      refine ⟨p, rfl, hpok, fun x hx hok => ?_⟩
      obtain ⟨e, he, heok, hle⟩ := hcovers x hx hok
      exact hle.trans (hmax e he heok)

/-! ## One more offer -/

theorem Covers.cons (h : Covers ok strength t offers)
    (hx : ok x = true → ∃ e ∈ t, ok e = true ∧ strength x ≤ strength e) :
    Covers ok strength t (x :: offers) := by
  intro y hy hok
  rcases List.mem_cons.mp hy with rfl | hy
  · exact hx hok
  · exact h y hy hok

theorem Covers.set (h : Covers ok strength t offers) (hi : t[i]? = some old)
    (hold : ok old = true → ok x = true ∧ strength old ≤ strength x) :
    Covers ok strength (t.set i x) (x :: offers) := by
  have hmem : x ∈ t.set i x :=
    List.mem_of_getElem? (List.getElem?_set_self (List.getElem?_eq_some_iff.mp hi).1)
  refine Covers.cons (fun y hy hok => ?_) fun hok => ⟨x, hmem, hok, le_rfl⟩
  obtain ⟨e, he, heok, hle⟩ := h y hy hok
  obtain ⟨j, hj⟩ := List.mem_iff_getElem?.mp he
  by_cases hij : i = j
  · subst hij
    obtain rfl : old = e := Option.some.inj (hi.symm.trans hj)
    exact ⟨x, hmem, (hold heok).1, hle.trans (hold heok).2⟩
  · exact ⟨e, List.mem_of_getElem? ((List.getElem?_set_ne hij).trans hj), heok, hle⟩

/-- An offer no stronger than any entry may be turned away if any entry is acceptable. -/
theorem Covers.refuse_iff (h : Covers ok strength t offers)
    (hweak : ∀ e ∈ t, strength x ≤ strength e) :
    Covers ok strength t (x :: offers) ↔ (ok x = true → ∃ e ∈ t, ok e = true) := by
  constructor
  · intro hcovers hok
    obtain ⟨e, he, heok, _⟩ := hcovers x List.mem_cons_self hok
    exact ⟨e, he, heok⟩
  · intro hsome
    refine h.cons fun hok => ?_
    obtain ⟨e, he, heok⟩ := hsome hok
    exact ⟨e, he, heok, hweak e he⟩

/-- The weakest entry may be given up to a stronger offer if an acceptable entry remains. -/
theorem Covers.replace_iff (h : Covers ok strength t offers) (hi : t[i]? = some weakest)
    (hweak : ∀ e ∈ t, strength weakest ≤ strength e) (hx : strength weakest ≤ strength x)
    (hoffered : ok weakest = true → ∃ y ∈ offers, ok y = true) :
    Covers ok strength (t.set i x) (x :: offers) ↔
      (ok weakest = true → ∃ e ∈ t.set i x, ok e = true) := by
  constructor
  · intro hcovers hok
    obtain ⟨y, hy, hyok⟩ := hoffered hok
    obtain ⟨e, he, heok, _⟩ := hcovers y (List.mem_cons_of_mem x hy) hyok
    exact ⟨e, he, heok⟩
  · intro hsome y hy hok
    have hlt : i < t.length := (List.getElem?_eq_some_iff.mp hi).1
    rcases List.mem_cons.mp hy with rfl | hy
    · exact ⟨y, List.mem_of_getElem? (List.getElem?_set_self hlt), hok, le_rfl⟩
    obtain ⟨e, he, heok, hle⟩ := h y hy hok
    obtain ⟨j, hj⟩ := List.mem_iff_getElem?.mp he
    by_cases hij : i = j
    · -- the entry that covered the offer is the one given up, and every other is as strong
      subst hij
      obtain rfl : weakest = e := Option.some.inj (hi.symm.trans hj)
      obtain ⟨e', he', heok'⟩ := hsome heok
      refine ⟨e', he', heok', hle.trans ?_⟩
      rcases List.mem_or_eq_of_mem_set he' with he' | rfl
      · exact hweak e' he'
      · exact hx
    · exact ⟨e, List.mem_of_getElem? ((List.getElem?_set_ne hij).trans hj), heok, hle⟩

end Shortlist
