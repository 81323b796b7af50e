import Mathlib.Data.List.Sort
import Mathlib.Data.List.TakeWhile
import Mathlib.Order.WithBot

/-!
# Records of a list

The elements of a list that exceed everything before them, as kept by a consumer that only accepts
what is above its high-water mark. They come out ascending, so of a list that repeats and reorders
its elements a consumer sees the elements that are ahead of everything above them.
-/

namespace Records

variable {α : Type} [LinearOrder α]

/-- What a consumer accepts whose mark starts at `floor`. -/
def records (floor : WithBot α) : List α → List α
  | [] => []
  | x :: xs => if floor < x then x :: records x xs else records floor xs

/-- Everything before the first `x` is below it. -/
def Ahead (xs : List α) (x : α) : Prop := ∀ y ∈ xs.takeWhile (· ≠ x), y < x

instance (xs : List α) (x : α) : Decidable (Ahead xs x) :=
  inferInstanceAs (Decidable (∀ y ∈ xs.takeWhile (· ≠ x), y < x))

theorem mem_records {floor : WithBot α} {xs : List α} {x : α} :
    x ∈ records floor xs ↔ x ∈ xs ∧ floor < x ∧ Ahead xs x := by
  induction xs generalizing floor with
  | nil => simp [records]
  | cons y xs ih =>
    by_cases hxy : y = x
    · subst hxy
      have hahead : Ahead (y :: xs) y := by simp [Ahead]
      by_cases hy : floor < (y : WithBot α)
      · simp [records, hy, hahead]
      · simp [records, hy, ih]
    · have hahead : Ahead (y :: xs) x ↔ y < x ∧ Ahead xs x := by simp [Ahead, hxy]
      have hmem : x ∈ y :: xs ↔ x ∈ xs := by simp [Ne.symm hxy]
      rw [hahead, hmem]
      by_cases hy : floor < (y : WithBot α)
      · simp only [records, hy, if_true, List.mem_cons, Ne.symm hxy, false_or, ih,
          WithBot.coe_lt_coe]
        constructor
        · rintro ⟨hx, hlt, hrest⟩
          exact ⟨hx, hy.trans (WithBot.coe_lt_coe.mpr hlt), hlt, hrest⟩
        · rintro ⟨hx, -, hlt, hrest⟩
          exact ⟨hx, hlt, hrest⟩
      · simp only [records, hy, if_false, ih]
        constructor
        · rintro ⟨hx, hfloor, hrest⟩
          have hlt : y < x := WithBot.coe_lt_coe.mp ((not_lt.mp hy).trans_lt hfloor)
          exact ⟨hx, hfloor, hlt, hrest⟩
        · rintro ⟨hx, hfloor, -, hrest⟩
          exact ⟨hx, hfloor, hrest⟩

theorem records_sortedLT (floor : WithBot α) (xs : List α) : (records floor xs).SortedLT := by
  induction xs generalizing floor with
  | nil => exact List.Pairwise.sortedLT List.Pairwise.nil
  | cons x xs ih =>
    simp only [records]
    split
    · refine List.Pairwise.sortedLT (List.pairwise_cons.mpr ⟨?_, (ih x).pairwise⟩)
      intro y hy
      exact WithBot.coe_lt_coe.mp (mem_records.mp hy).2.1
    · exact ih floor

/-- From the lowest mark on, the records are those of the elements, in order, that are ahead. -/
theorem records_eq_filter {all xs : List α} (hall : all.SortedLT) (hcover : ∀ x, x ∈ xs ↔ x ∈ all) :
    records ⊥ xs = all.filter (Ahead xs ·) := by
  have hfilter : (all.filter (Ahead xs ·)).SortedLT :=
    List.Pairwise.sortedLT (hall.pairwise.filter _)
  refine (records_sortedLT ⊥ xs).eq_of_mem_iff hfilter ?_
  intro x
  rw [mem_records, List.mem_filter, hcover x]
  simp [WithBot.bot_lt_coe]

end Records
