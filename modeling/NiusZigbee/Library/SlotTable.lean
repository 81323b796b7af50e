import Mathlib.Data.List.Nodup
import Mathlib.Data.Finset.Card
import Mathlib.Data.Fintype.Card

/-!
# Fixed tables of keyed slots

A table is a list of slots of fixed length. `key` gives the key a slot holds, `none` for an unused
slot. A store to a key goes to the first slot that holds it, else to the first unused slot, else
to a victim.
-/

namespace SlotTable

set_option linter.unusedSectionVars false

variable {α κ : Type} [DecidableEq κ] (key : α → Option κ)

/-- Index of the first slot that holds `k`. -/
def find (t : List α) (k : κ) : Option Nat := t.findIdx? fun e => key e = some k

/-- Index of the first unused slot. -/
def firstFree (t : List α) : Option Nat := t.findIdx? fun e => key e = none

/-- The first slot that holds `k`. -/
def lookup (t : List α) (k : κ) : Option α := t.find? fun e => key e = some k

/-- Where a store to `k` goes. -/
def slotFor (victim : List α → Option Nat) (t : List α) (k : κ) : Option Nat :=
  match find key t k with
  | some i => some i
  | none =>
    match firstFree key t with
    | some i => some i
    | none => victim t

/-- A store to `k` recycles no slot. -/
def HasRoom (t : List α) (k : κ) : Prop :=
  (find key t k).isSome ∨ (firstFree key t).isSome

instance (t : List α) (k : κ) : Decidable (HasRoom key t k) :=
  inferInstanceAs (Decidable (_ ∨ _))

/-- The keys in use, in slot order. -/
def keys (t : List α) : List κ := t.filterMap key

/-- The scan for a least used slot: the first one found is replaced by strictly smaller ones. -/
def leastScan (lt : α → α → Bool) : List α → Nat → Option (Nat × α) → Option Nat
  | [], _, best => best.map Prod.fst
  | e :: t, i, best =>
    if (key e).isNone then leastScan lt t (i + 1) best
    else match best with
      | none => leastScan lt t (i + 1) (some (i, e))
      | some (j, b) => leastScan lt t (i + 1) (if lt e b then some (i, e) else some (j, b))

def least (lt : α → α → Bool) (t : List α) : Option Nat := leastScan key lt t 0 none

variable {key}

theorem find_eq_some {t : List α} {k : κ} {i : Nat} (h : find key t k = some i) :
    ∃ hi : i < t.length, key t[i] = some k ∧ ∀ j (hj : j < i), key t[j] ≠ some k := by
  obtain ⟨hi, hk, hlt⟩ := List.findIdx?_eq_some_iff_getElem.mp h
  exact ⟨hi, by simpa using hk, fun j hj => by simpa using hlt j hj⟩

theorem find_eq_none {t : List α} {k : κ} (h : find key t k = none) :
    ∀ e ∈ t, key e ≠ some k := by
  intro e he
  simpa using List.findIdx?_eq_none_iff.mp h e he

theorem firstFree_eq_some {t : List α} {i : Nat} (h : firstFree key t = some i) :
    ∃ hi : i < t.length, key t[i] = none := by
  obtain ⟨hi, hk, _⟩ := List.findIdx?_eq_some_iff_getElem.mp h
  exact ⟨hi, by simpa using hk⟩

theorem firstFree_eq_none {t : List α} (h : firstFree key t = none) :
    ∀ e ∈ t, key e ≠ none := by
  intro e he
  simpa using List.findIdx?_eq_none_iff.mp h e he

theorem lookup_key {t : List α} {k : κ} {e : α} (h : lookup key t k = some e) :
    key e = some k := by
  simpa using List.find?_some h

theorem lookup_mem {t : List α} {k : κ} {e : α} (h : lookup key t k = some e) : e ∈ t :=
  List.mem_of_find?_eq_some h

theorem lookup_eq_none {t : List α} {k : κ} :
    lookup key t k = none ↔ ∀ e ∈ t, key e ≠ some k := by
  simp [lookup]

theorem lookup_of_find {t : List α} {k : κ} {i : Nat} (h : find key t k = some i) :
    lookup key t k = t[i]? := by
  obtain ⟨hi, hk, hlt⟩ := find_eq_some h
  rw [List.getElem?_eq_getElem hi]
  apply List.find?_eq_some_iff_getElem.mpr
  exact ⟨by simpa using hk, i, hi, rfl, fun j hj => by simpa using hlt j hj⟩

theorem lookup_of_find_none {t : List α} {k : κ} (h : find key t k = none) :
    lookup key t k = none := lookup_eq_none.mpr (find_eq_none h)

/-! ## Storing into a slot -/

theorem lookup_set_other {t : List α} {k : κ} {i : Nat} {e : α}
    (hold : ∀ hi : i < t.length, key t[i] ≠ some k) (hnew : key e ≠ some k) :
    lookup key (t.set i e) k = lookup key t k := by
  induction t generalizing i with
  | nil => rfl
  | cons x xs ih =>
    cases i with
    | zero =>
      have hx : key x ≠ some k := hold (by simp)
      simp [lookup, hx, hnew]
    | succ i =>
      have h := ih (i := i) (fun hi => hold (by simpa using hi))
      simp only [lookup, List.set_cons_succ, List.find?_cons] at h ⊢
      rw [h]

theorem lookup_set_self {t : List α} {k : κ} {i : Nat} {e : α} (hi : i < t.length)
    (hlt : ∀ j (hj : j < i), key t[j] ≠ some k) (hnew : key e = some k) :
    lookup key (t.set i e) k = some e := by
  induction t generalizing i with
  | nil => simp at hi
  | cons x xs ih =>
    cases i with
    | zero => simp [lookup, hnew]
    | succ i =>
      have hx : key x ≠ some k := hlt 0 (by omega)
      have h := ih (i := i) (by simpa using hi) (fun j hj => hlt (j + 1) (by omega))
      simp only [lookup, List.set_cons_succ] at h ⊢
      rw [List.find?_cons_of_neg (by simpa using hx), h]

theorem lookup_map_of_mem {t : List α} {k : κ} {f : α → α}
    (hsame : ∀ e ∈ t, key e = some k → f e = e)
    (hkey : ∀ e ∈ t, key (f e) = some k → key e = some k) :
    lookup key (t.map f) k = lookup key t k := by
  induction t with
  | nil => rfl
  | cons x xs ih =>
    have hx := hsame x List.mem_cons_self
    have hx' := hkey x List.mem_cons_self
    have hrest := ih (fun e he => hsame e (List.mem_cons_of_mem x he))
      fun e he => hkey e (List.mem_cons_of_mem x he)
    simp only [lookup] at hrest
    by_cases h : key x = some k
    · simp [lookup, hx h, h]
    · have hfx : key (f x) ≠ some k := fun h' => h (hx' h')
      simp [lookup, h, hfx, hrest]

theorem lookup_map {t : List α} {k : κ} {f : α → α} (hsame : ∀ e, key e = some k → f e = e)
    (hkey : ∀ e, key (f e) = some k → key e = some k) :
    lookup key (t.map f) k = lookup key t k :=
  lookup_map_of_mem (fun e _ => hsame e) fun e _ => hkey e

section Slot

variable {victim : List α → Option Nat} {t : List α} {k : κ} {i : Nat}

theorem slotFor_of_room (h : HasRoom key t k) (hs : slotFor key victim t k = some i) :
    ∃ hi : i < t.length, key t[i] = some k ∨ key t[i] = none ∧ find key t k = none := by
  unfold slotFor at hs
  cases hf : find key t k with
  | some j =>
    simp only [hf, Option.some.injEq] at hs
    subst hs
    obtain ⟨hi, hk, _⟩ := find_eq_some hf
    exact ⟨hi, .inl hk⟩
  | none =>
    cases hfree : firstFree key t with
    | some j =>
      simp only [hf, hfree, Option.some.injEq] at hs
      subst hs
      obtain ⟨hi, hk⟩ := firstFree_eq_some hfree
      exact ⟨hi, .inr ⟨hk, rfl⟩⟩
    | none => simp [HasRoom, hf, hfree] at h

/-- Without a victim, whatever is chosen has room. -/
theorem hasRoom_of_slotFor (h : slotFor key (fun _ => none) t k = some i) : HasRoom key t k := by
  by_contra hfull
  simp only [HasRoom, not_or, Option.not_isSome_iff_eq_none] at hfull
  simp [slotFor, hfull.1, hfull.2] at h

theorem slotFor_isSome (victim : List α → Option Nat) (h : HasRoom key t k) :
    ∃ i, slotFor key victim t k = some i := by
  unfold slotFor
  cases hf : find key t k with
  | some j => exact ⟨j, rfl⟩
  | none =>
    cases hfree : firstFree key t with
    | some j => exact ⟨j, rfl⟩
    | none => simp [HasRoom, hf, hfree] at h

/-- The slot chosen for `k` precedes every slot that holds `k`, recycled or not. -/
theorem slotFor_before (hs : slotFor key victim t k = some i) (hi : i < t.length) :
    ∀ j (hj : j < i), key t[j] ≠ some k := by
  intro j hj
  cases hf : find key t k with
  | some j' =>
    simp only [slotFor, hf, Option.some.injEq] at hs
    subst hs
    obtain ⟨_, _, hlt⟩ := find_eq_some hf
    exact hlt j hj
  | none => exact find_eq_none hf _ (List.getElem_mem _)

theorem lookup_store_self {e : α} (hs : slotFor key victim t k = some i) (hi : i < t.length)
    (hnew : key e = some k) : lookup key (t.set i e) k = some e :=
  lookup_set_self hi (slotFor_before hs hi) hnew

theorem lookup_store_other {e : α} {k' : κ} (h : HasRoom key t k)
    (hs : slotFor key victim t k = some i) (hnew : key e = some k) (hne : k' ≠ k) :
    lookup key (t.set i e) k' = lookup key t k' := by
  obtain ⟨hi, hslot⟩ := slotFor_of_room h hs
  apply lookup_set_other
  · intro _
    rcases hslot with hk | ⟨hk, _⟩
    · simpa [hk] using fun h => hne h.symm
    · simp [hk]
  · simpa [hnew] using fun h => hne h.symm

end Slot

/-! ## Keys in use -/

theorem mem_keys {t : List α} {k : κ} : k ∈ keys key t ↔ (lookup key t k).isSome := by
  simp [keys, lookup]

theorem keys_set_used {t : List α} {i : Nat} {e : α} {k : κ} (hi : i < t.length)
    (hold : key t[i] = some k) (hnew : key e = some k) : keys key (t.set i e) = keys key t := by
  induction t generalizing i with
  | nil => simp at hi
  | cons x xs ih =>
    cases i with
    | zero =>
      simp only [List.getElem_cons_zero] at hold
      simp [keys, hold, hnew]
    | succ i =>
      have h := ih (i := i) (by simpa using hi) (by simpa using hold)
      simp only [keys] at h
      simp only [keys, List.set_cons_succ, List.filterMap_cons, h]

theorem keys_set_free {t : List α} {i : Nat} {e : α} {k : κ} (hi : i < t.length)
    (hold : key t[i] = none) (hnew : key e = some k) :
    (keys key (t.set i e)).Perm (k :: keys key t) := by
  induction t generalizing i with
  | nil => simp at hi
  | cons x xs ih =>
    cases i with
    | zero =>
      simp only [List.getElem_cons_zero] at hold
      simp [keys, hold, hnew]
    | succ i =>
      have h := ih (i := i) (by simpa using hi) (by simpa using hold)
      simp only [keys] at h
      simp only [keys, List.set_cons_succ, List.filterMap_cons]
      cases key x with
      | none => exact h
      | some k' => exact (h.cons k').trans (List.Perm.swap k k' _)

theorem keys_length_of_full {t : List α} (h : firstFree key t = none) :
    (keys key t).length = t.length := by
  have hfull := firstFree_eq_none h
  clear h
  induction t with
  | nil => rfl
  | cons x xs ih =>
    have h := ih (fun e he => hfull e (List.mem_cons_of_mem x he))
    have hx := hfull x List.mem_cons_self
    cases hkey : key x with
    | none => exact absurd hkey hx
    | some k =>
      simp only [keys] at h
      simp [keys, hkey, h]

/-- Distinct keys out of a set no larger than the table always leave room for a key of the set. -/
theorem hasRoom_of_card {t : List α} {s : Finset κ} {k : κ} (hnd : (keys key t).Nodup)
    (hsub : ∀ k' ∈ keys key t, k' ∈ s) (hcard : s.card ≤ t.length) (hk : k ∈ s) :
    HasRoom key t k := by
  by_contra hroom
  simp only [HasRoom, not_or, Option.not_isSome_iff_eq_none] at hroom
  have hnot : k ∉ keys key t := by
    rw [mem_keys, lookup_of_find_none hroom.1]
    simp
  have hlen := keys_length_of_full hroom.2
  have hle : (k :: keys key t).toFinset ⊆ s := by
    intro k' hk'
    rcases List.mem_cons.mp (List.mem_toFinset.mp hk') with rfl | h
    · exact hk
    · exact hsub k' h
  have hc := Finset.card_le_card hle
  rw [List.toFinset_card_of_nodup (List.nodup_cons.mpr ⟨hnot, hnd⟩), List.length_cons] at hc
  omega

theorem keys_store {victim : List α → Option Nat} {t : List α} {k : κ} {i : Nat} {e : α}
    (h : HasRoom key t k) (hs : slotFor key victim t k = some i) (hnew : key e = some k)
    (hnd : (keys key t).Nodup) :
    (keys key (t.set i e)).Nodup ∧ ∀ k', k' ∈ keys key (t.set i e) → k' = k ∨ k' ∈ keys key t := by
  obtain ⟨hi, hslot⟩ := slotFor_of_room h hs
  rcases hslot with hold | ⟨hold, hnone⟩
  · rw [keys_set_used hi hold hnew]
    exact ⟨hnd, fun k' hk' => .inr hk'⟩
  · have hperm := keys_set_free hi hold hnew
    have hnot : k ∉ keys key t := by
      rw [mem_keys, lookup_of_find_none hnone]
      simp
    refine ⟨hperm.nodup_iff.mpr (List.nodup_cons.mpr ⟨hnot, hnd⟩), ?_⟩
    intro k' hk'
    exact List.mem_cons.mp (hperm.mem_iff.mp hk')

/-! ## No key held twice -/

variable (key) in
/-- No two slots hold the same key. -/
def Distinct (t : List α) : Prop :=
  ∀ ⦃i j : Nat⦄ ⦃a b : α⦄ ⦃k : κ⦄, t[i]? = some a → t[j]? = some b → key a = some k →
    key b = some k → i = j

theorem Distinct.eq {t : List α} (h : Distinct key t) {a b : α} {k : κ} (ha : a ∈ t) (hb : b ∈ t)
    (hka : key a = some k) (hkb : key b = some k) : a = b := by
  obtain ⟨i, hi⟩ := List.mem_iff_getElem?.mp ha
  obtain ⟨j, hj⟩ := List.mem_iff_getElem?.mp hb
  have hij := h hi hj hka hkb
  rw [hij, hj] at hi
  exact (Option.some.inj hi).symm

theorem Distinct.set {t : List α} (h : Distinct key t) {i : Nat} {e : α}
    (hfree : ∀ j b k, j ≠ i → t[j]? = some b → key e = some k → key b ≠ some k) :
    Distinct key (t.set i e) := by
  intro j j' a b k ha hb hka hkb
  have hread : ∀ n x, (t.set i e)[n]? = some x → (n = i ∧ x = e) ∨ (n ≠ i ∧ t[n]? = some x) := by
    intro n x hx
    by_cases hn : n = i
    · subst hn
      rw [List.getElem?_set_self'] at hx
      obtain ⟨_, _, rfl⟩ := Option.map_eq_some_iff.mp hx
      exact .inl ⟨rfl, rfl⟩
    · rw [List.getElem?_set_ne (Ne.symm hn)] at hx
      exact .inr ⟨hn, hx⟩
  rcases hread j a ha with ⟨hj, hae⟩ | ⟨hj, ha'⟩ <;>
    rcases hread j' b hb with ⟨hj', hbe⟩ | ⟨hj', hb'⟩
  · exact hj.trans hj'.symm
  · exact absurd hkb (hfree j' b k hj' hb' (hae ▸ hka))
  · exact absurd hka (hfree j a k hj ha' (hbe ▸ hkb))
  · exact h ha' hb' hka hkb

theorem Distinct.map {t : List α} (h : Distinct key t) {f : α → α}
    (hf : ∀ a, key (f a) = none ∨ key (f a) = key a) : Distinct key (t.map f) := by
  intro i j a b k ha hb hka hkb
  rw [List.getElem?_map] at ha hb
  obtain ⟨a', ha', rfl⟩ := Option.map_eq_some_iff.mp ha
  obtain ⟨b', hb', rfl⟩ := Option.map_eq_some_iff.mp hb
  have hkeep : ∀ x, key (f x) = some k → key x = some k := by
    intro x hx
    rcases hf x with hnone | hsame
    · rw [hnone] at hx
      cases hx
    · rwa [← hsame]
  exact h ha' hb' (hkeep a' hka) (hkeep b' hkb)

theorem Distinct.of_find {t : List α} (h : Distinct key t) {k : κ} {i j : Nat} {b : α}
    (hi : find key t k = some i) (hj : t[j]? = some b) (hb : key b = some k) : j = i := by
  obtain ⟨hlt, hk, _⟩ := find_eq_some hi
  exact h hj (List.getElem?_eq_getElem hlt) hb hk

/-- A key goes to no second slot, recycled or not. -/
theorem Distinct.store {victim : List α → Option Nat} {t : List α} (h : Distinct key t) {k : κ}
    {i : Nat} {e : α} (hs : slotFor key victim t k = some i) (hnew : key e = some k) :
    Distinct key (t.set i e) := by
  apply h.set
  intro j b k' hj hb hk' hkb
  obtain rfl := Option.some.inj (hnew.symm.trans hk')
  cases hf : find key t k with
  | none => exact find_eq_none hf b (List.mem_of_getElem? hb) hkb
  | some i' =>
    simp only [slotFor, hf, Option.some.injEq] at hs
    exact hj (hs ▸ h.of_find hf hb hkb)

theorem Distinct.lookup_of_getElem? {t : List α} (h : Distinct key t) {k : κ} {i : Nat} {e : α}
    (hi : t[i]? = some e) (hk : key e = some k) : lookup key t k = some e := by
  cases hlookup : lookup key t k with
  | none => exact absurd hk (lookup_eq_none.mp hlookup e (List.mem_of_getElem? hi))
  | some b =>
    rw [h.eq (lookup_mem hlookup) (List.mem_of_getElem? hi) (lookup_key hlookup) hk]

theorem Distinct.lookup_rewrite {t : List α} (h : Distinct key t) {k : κ} {i : Nat} {old e : α}
    (hi : t[i]? = some old) (hk : key old = some k) (hnew : key e = some k) (k' : κ) :
    lookup key (t.set i e) k' = if k' = k then some e else lookup key t k' := by
  have hlt := (List.getElem?_eq_some_iff.mp hi).1
  by_cases hk' : k' = k
  · subst hk'
    rw [if_pos rfl]
    apply lookup_set_self hlt _ hnew
    intro j hj hkey
    have hji := h (List.getElem?_eq_getElem (hj.trans hlt)) hi hkey hk
    omega
  · rw [if_neg hk']
    apply lookup_set_other
    · intro hi' hkey
      rw [List.getElem?_eq_getElem hi'] at hi
      rw [Option.some.inj hi, hk] at hkey
      exact hk' (Option.some.inj hkey).symm
    · rw [hnew]
      exact fun heq => hk' (Option.some.inj heq).symm

theorem Distinct.rewrite {t : List α} (h : Distinct key t) {k : κ} {i : Nat} {old e : α}
    (hi : t[i]? = some old) (hk : key old = some k) (hnew : key e = some k) :
    Distinct key (t.set i e) := by
  apply h.set
  intro j b k' hj hb hk' hkb
  obtain rfl := Option.some.inj (hnew.symm.trans hk')
  exact hj (h hb hi hkb hk)

theorem Distinct.lookup_reclaim {t : List α} (h : Distinct key t) {p : α → Bool} {cleared : α}
    (hclear : key cleared = none) (k : κ) :
    lookup key (t.map fun e => if p e then cleared else e) k =
      (lookup key t k).filter fun e => !p e := by
  have hfree : ∀ e, p e = true → key (if p e then cleared else e) ≠ some k := by
    intro e he
    rw [if_pos he, hclear]
    exact (Option.some_ne_none k).symm
  have hkept : ∀ e, p e = false → (if p e then cleared else e) = e :=
    fun e he => if_neg (by rw [he]; decide)
  cases hlookup : lookup key t k with
  | none =>
    rw [Option.filter_none, lookup_eq_none]
    intro e he hkey
    obtain ⟨old, hold, rfl⟩ := List.mem_map.mp he
    cases hp : p old with
    | true => exact hfree old hp hkey
    | false => exact lookup_eq_none.mp hlookup old hold (hkept old hp ▸ hkey)
  | some e =>
    have hsame : ∀ x ∈ t, key x = some k → x = e := fun x hx hkey =>
      h.eq hx (lookup_mem hlookup) hkey (lookup_key hlookup)
    cases hp : p e with
    | true =>
      rw [Option.filter_some, hp]
      rw [if_neg (by decide), lookup_eq_none]
      intro x hx hkey
      obtain ⟨old, hold, rfl⟩ := List.mem_map.mp hx
      cases hpold : p old with
      | true => exact hfree old hpold hkey
      | false =>
        rw [hkept old hpold] at hkey
        rw [hsame old hold hkey, hp] at hpold
        cases hpold
    | false =>
      rw [Option.filter_some, hp, if_pos (by decide), ← hlookup]
      apply lookup_map_of_mem
      · intro x hx hkey
        rw [hsame x hx hkey]
        exact hkept e hp
      · intro x hx hkey
        cases hpx : p x with
        | true => exact absurd hkey (hfree x hpx)
        | false => rwa [hkept x hpx] at hkey

/-- Giving the slot of a key to another key, or to none, leaves no other slot with it. -/
theorem Distinct.lookup_overwrite {t : List α} (h : Distinct key t) {k : κ} {i : Nat} {old e : α}
    (hi : t[i]? = some old) (hk : key old = some k) (hnew : key e ≠ some k) :
    lookup key (t.set i e) k = none := by
  rw [lookup_eq_none]
  intro b hb hkb
  obtain ⟨j, hj⟩ := List.mem_iff_getElem?.mp hb
  by_cases hij : i = j
  · subst hij
    rw [List.getElem?_set_self (List.getElem?_eq_some_iff.mp hi).1] at hj
    obtain rfl := Option.some.inj hj
    exact hnew hkb
  · rw [List.getElem?_set_ne hij] at hj
    exact hij (h hi hj hk hkb)

theorem Distinct.lookup_clear {t : List α} (h : Distinct key t) {k : κ} {i : Nat} {e : α}
    (hi : find key t k = some i) (hnew : key e = none) : lookup key (t.set i e) k = none := by
  obtain ⟨hlt, hk, -⟩ := find_eq_some hi
  exact h.lookup_overwrite (List.getElem?_eq_getElem hlt) hk (by simp [hnew])

theorem lookup_clear_other {t : List α} {k k' : κ} {i : Nat} {e : α} (hi : find key t k = some i)
    (hnew : key e = none) (hne : k' ≠ k) : lookup key (t.set i e) k' = lookup key t k' := by
  obtain ⟨hlt, hk, -⟩ := find_eq_some hi
  apply lookup_set_other
  · intro _ hk'
    exact hne (Option.some.inj (hk'.symm.trans hk))
  · simp [hnew]

theorem Distinct.clear {t : List α} (h : Distinct key t) {i : Nat} {e : α} (hnew : key e = none) :
    Distinct key (t.set i e) := by
  apply h.set
  intro j b k _ _ hk
  rw [hnew] at hk
  cases hk

theorem Distinct.keys_nodup {t : List α} (h : Distinct key t) : (keys key t).Nodup := by
  induction t with
  | nil => exact List.nodup_nil
  | cons x xs ih =>
    have hrest : Distinct key xs := by
      intro i j a b k ha hb hka hkb
      have hij := @h (i + 1) (j + 1) a b k ha hb hka hkb
      omega
    cases hx : key x with
    | none =>
      simp only [keys, List.filterMap_cons, hx]
      exact ih hrest
    | some k =>
      simp only [keys, List.filterMap_cons, hx]
      refine List.nodup_cons.mpr ⟨fun hk => ?_, ih hrest⟩
      obtain ⟨e, he, hek⟩ := List.mem_filterMap.mp hk
      obtain ⟨j, hj⟩ := List.mem_iff_getElem?.mp he
      have hij := @h 0 (j + 1) x e k rfl hj hx hek
      omega

theorem distinct_of_keys_nodup {t : List α} (h : (keys key t).Nodup) : Distinct key t := by
  induction t with
  | nil =>
    intro i j a b k ha
    cases ha
  | cons x xs ih =>
    have hout : ∀ {j : Nat} {b : α} {k : κ}, xs[j]? = some b → key b = some k → key x ≠ some k := by
      intro j b k hb hkb hkx
      simp only [keys, List.filterMap_cons, hkx] at h
      exact (List.nodup_cons.mp h).1 (List.mem_filterMap.mpr ⟨b, List.mem_of_getElem? hb, hkb⟩)
    have hrest : (keys key xs).Nodup := by
      simp only [keys, List.filterMap_cons] at h
      split at h
      · exact h
      · exact (List.nodup_cons.mp h).2
    intro i j a b k ha hb hka hkb
    cases i with
    | zero =>
      cases j with
      | zero => rfl
      | succ j =>
        obtain rfl : x = a := Option.some.inj ha
        exact absurd hka (hout hb hkb)
    | succ i =>
      cases j with
      | zero =>
        obtain rfl : x = b := Option.some.inj hb
        exact absurd hkb (hout ha hka)
      | succ j => exact congrArg (· + 1) (ih hrest ha hb hka hkb)

theorem keys_reclaim {t : List α} {p : α → Bool} {cleared : α} (hclear : key cleared = none) :
    (keys key (t.map fun e => if p e then cleared else e)).Sublist (keys key t) := by
  induction t with
  | nil => exact List.Sublist.refl _
  | cons x xs ih =>
    simp only [keys, List.map_cons, List.filterMap_cons] at ih ⊢
    cases hp : p x with
    | true =>
      simp only [if_true, hclear]
      cases key x with
      | none => exact ih
      | some k => exact ih.cons k
    | false =>
      simp only [Bool.false_eq_true, if_false]
      cases key x with
      | none => exact ih
      | some k => exact ih.cons_cons k

theorem distinct_of_unused {t : List α} (h : ∀ e ∈ t, key e = none) : Distinct key t := by
  intro i j a b k ha _ hka _
  rw [h a (List.mem_of_getElem? ha)] at hka
  cases hka

/-! ## Eviction -/

variable (key) in
/-- A store to `k` goes to the slot of `k'`, which no slot is left for. -/
def Evicts (victim : List α → Option Nat) (t : List α) (k k' : κ) : Prop :=
  ¬ HasRoom key t k ∧ ((victim t).bind (t[·]?)).bind key = some k'

instance (victim : List α → Option Nat) (t : List α) (k k' : κ) :
    Decidable (Evicts key victim t k k') := inferInstanceAs (Decidable (_ ∧ _))

section Evicts

variable {victim : List α → Option Nat} {t : List α} {k k' : κ} {i : Nat} {e : α}

theorem slotFor_of_full (victim : List α → Option Nat) (h : ¬ HasRoom key t k) :
    slotFor key victim t k = victim t := by
  simp only [HasRoom, not_or, Option.not_isSome_iff_eq_none] at h
  simp only [slotFor, h.1, h.2]

theorem used_of_full (h : ¬ HasRoom key t k) : ∀ e ∈ t, key e ≠ none := by
  simp only [HasRoom, not_or, Option.not_isSome_iff_eq_none] at h
  exact firstFree_eq_none h.2

/-- The slot in use that is given up is that of a key the table holds, and `k` is new. -/
theorem Evicts.held (hev : Evicts key victim t k k') :
    ∃ i e, victim t = some i ∧ t[i]? = some e ∧ key e = some k' := by
  obtain ⟨e, he, hkey⟩ := Option.bind_eq_some_iff.mp hev.2
  obtain ⟨i, hi, hget⟩ := Option.bind_eq_some_iff.mp he
  exact ⟨i, e, hi, hget, hkey⟩

theorem Evicts.new (hev : Evicts key victim t k k') : lookup key t k = none := by
  have hfull := hev.1
  simp only [HasRoom, not_or, Option.not_isSome_iff_eq_none] at hfull
  exact lookup_of_find_none hfull.1

theorem Evicts.ne (hev : Evicts key victim t k k') : k' ≠ k := by
  rintro rfl
  obtain ⟨i, e, -, hget, hkey⟩ := hev.held
  exact lookup_eq_none.mp hev.new e (List.mem_of_getElem? hget) hkey

theorem Distinct.lookup_evicted (h : Distinct key t) (hev : Evicts key victim t k k')
    (hs : slotFor key victim t k = some i) (hnew : key e = some k) (hne : k' ≠ k) :
    lookup key (t.set i e) k' = none := by
  obtain ⟨hfull, hslot⟩ := hev
  rw [← slotFor_of_full victim hfull, hs] at hslot
  obtain ⟨old, hold, hk⟩ := Option.bind_eq_some_iff.mp hslot
  exact h.lookup_overwrite hold hk (by simpa [hnew] using Ne.symm hne)

theorem lookup_not_evicted (hev : ¬ Evicts key victim t k k')
    (hs : slotFor key victim t k = some i) (hnew : key e = some k) (hne : k' ≠ k) :
    lookup key (t.set i e) k' = lookup key t k' := by
  by_cases hroom : HasRoom key t k
  · exact lookup_store_other hroom hs hnew hne
  · apply lookup_set_other
    · intro hi hk
      refine hev ⟨hroom, ?_⟩
      rw [← slotFor_of_full victim hroom, hs, Option.bind_some, List.getElem?_eq_getElem hi,
        Option.bind_some, hk]
    · simpa [hnew] using Ne.symm hne

end Evicts

/-! ## The least slot -/

private theorem leastScan_lt (lt : α → α → Bool) (t : List α) (i : Nat) (best : Option (Nat × α))
    (n : Nat) (hn : i + t.length ≤ n) (hb : ∀ p, best = some p → p.1 < n) (j : Nat)
    (h : leastScan key lt t i best = some j) : j < n := by
  induction t generalizing i best with
  | nil =>
    cases best with
    | none => simp [leastScan] at h
    | some p =>
      simp only [leastScan, Option.map_some, Option.some.injEq] at h
      exact h ▸ hb p rfl
  | cons e t ih =>
    simp only [List.length_cons] at hn
    have hlt : i < n := by omega
    simp only [leastScan] at h
    split at h
    · exact ih (i + 1) best (by omega) hb h
    · cases best with
      | none => exact ih (i + 1) _ (by omega) (by rintro p ⟨⟩; exact hlt) h
      | some p =>
        refine ih (i + 1) _ (by omega) ?_ h
        intro q hq
        split at hq <;> cases hq
        · exact hlt
        · exact hb p rfl

theorem least_lt {lt : α → α → Bool} {t : List α} {j : Nat} (h : least key lt t = some j) :
    j < t.length := leastScan_lt lt t 0 none t.length (by omega) (by simp) j h

private theorem leastScan_isSome (lt : α → α → Bool) (t : List α) (i : Nat)
    (best : Option (Nat × α)) (h : best.isSome ∨ ∃ e ∈ t, key e ≠ none) :
    ∃ j, leastScan key lt t i best = some j := by
  induction t generalizing i best with
  | nil =>
    obtain ⟨p, rfl⟩ := Option.isSome_iff_exists.mp (by simpa using h)
    exact ⟨p.1, rfl⟩
  | cons e t ih =>
    simp only [leastScan]
    split
    · next hfree =>
      refine ih (i + 1) best (h.imp_right ?_)
      rintro ⟨x, hx, hkey⟩
      rcases List.mem_cons.mp hx with rfl | hx
      · exact absurd (Option.isNone_iff_eq_none.mp hfree) hkey
      · exact ⟨x, hx, hkey⟩
    · cases best with
      | none => exact ih (i + 1) _ (.inl rfl)
      | some p => exact ih (i + 1) _ (.inl (by split <;> rfl))

theorem least_isSome {lt : α → α → Bool} {t : List α} (h : t ≠ [])
    (hfull : ∀ e ∈ t, key e ≠ none) : ∃ j, least key lt t = some j := by
  obtain ⟨e, he⟩ := List.exists_mem_of_ne_nil t h
  exact leastScan_isSome lt t 0 none (.inr ⟨e, he, hfull e he⟩)

variable (key) in
/-- What a scan has found in the slots `u`: nothing in use, or one with the least `f`. -/
private def Scanned (f : α → Nat) (u : List α) : Option (Nat × α) → Prop
  | none => ∀ b ∈ u, key b = none
  | some p => u[p.1]? = some p.2 ∧ key p.2 ≠ none ∧ ∀ b ∈ u, key b ≠ none → f p.2 ≤ f b

private theorem Scanned.kept {f : α → Nat} {u : List α} {best : Option (Nat × α)} {e : α}
    (h : Scanned key f u best) (hold : ∀ p, best = some p → key e ≠ none → f p.2 ≤ f e)
    (hnone : best = none → key e = none) : Scanned key f (u ++ [e]) best := by
  cases best with
  | none =>
    intro b hb
    rcases List.mem_append.mp hb with hb | hb
    · exact h b hb
    · rw [List.mem_singleton.mp hb]
      exact hnone rfl
  | some p =>
    obtain ⟨hp, hkey, hle⟩ := h
    refine ⟨?_, hkey, fun b hb hbkey => ?_⟩
    · rw [List.getElem?_append_left (List.getElem?_eq_some_iff.mp hp).1, hp]
    · rcases List.mem_append.mp hb with hb | hb
      · exact hle b hb hbkey
      · obtain rfl := List.mem_singleton.mp hb
        exact hold p rfl hbkey

private theorem Scanned.replaced {f : α → Nat} {u : List α} {best : Option (Nat × α)} {e : α}
    (h : Scanned key f u best) (hkey : key e ≠ none) (hless : ∀ p, best = some p → f e ≤ f p.2) :
    Scanned key f (u ++ [e]) (some (u.length, e)) := by
  refine ⟨by simp, hkey, fun b hb hbkey => ?_⟩
  rcases List.mem_append.mp hb with hb | hb
  · cases best with
    | none => exact absurd (h b hb) hbkey
    | some p => exact (hless p rfl).trans (h.2.2 b hb hbkey)
  · rw [List.mem_singleton.mp hb]

private theorem leastScan_le {lt : α → α → Bool} {f : α → Nat}
    (t u : List α) (hlt : ∀ a ∈ u ++ t, ∀ b ∈ u ++ t, key a ≠ none → key b ≠ none →
      (lt a b = true ↔ f a < f b)) (best : Option (Nat × α)) (hbest : Scanned key f u best)
    (j : Nat) (h : leastScan key lt t u.length best = some j) :
    ∃ e, (u ++ t)[j]? = some e ∧ key e ≠ none ∧ ∀ b ∈ u ++ t, key b ≠ none → f e ≤ f b := by
  induction t generalizing u best with
  | nil =>
    cases best with
    | none => simp [leastScan] at h
    | some p =>
      simp only [leastScan, Option.map_some, Option.some.injEq] at h
      rw [List.append_nil, ← h]
      exact ⟨p.2, hbest⟩
  | cons e t ih =>
    have hlength : (u ++ [e]).length = u.length + 1 := by simp
    have he : e ∈ u ++ e :: t := List.mem_append_right _ List.mem_cons_self
    have hbefore : ∀ p, best = some p → p.2 ∈ u ++ e :: t ∧ key p.2 ≠ none := by
      rintro p rfl
      exact ⟨List.mem_append_left _ (List.mem_of_getElem? hbest.1), hbest.2.1⟩
    have hless : ∀ p, best = some p → key e ≠ none → (lt e p.2 = true ↔ f e < f p.2) :=
      fun p hp hkey => hlt e he p.2 (hbefore p hp).1 hkey (hbefore p hp).2
    rw [show u ++ e :: t = (u ++ [e]) ++ t by simp] at hlt ⊢
    simp only [leastScan, ← hlength] at h
    split at h
    · next hfree =>
      have hfree' := Option.isNone_iff_eq_none.mp hfree
      exact ih (u ++ [e]) hlt best
        (hbest.kept (fun _ _ hkey => absurd hfree' hkey) fun _ => hfree') h
    · next hused =>
      have hkey : key e ≠ none := fun hnone => hused (Option.isNone_iff_eq_none.mpr hnone)
      cases best with
      | none => exact ih (u ++ [e]) hlt _ (hbest.replaced hkey (by simp)) h
      | some p =>
        dsimp only at h
        by_cases hbetter : lt e p.2 = true
        · rw [if_pos hbetter] at h
          have hle := Nat.le_of_lt ((hless p rfl hkey).mp hbetter)
          exact ih (u ++ [e]) hlt _ (hbest.replaced hkey (by rintro _ ⟨⟩; exact hle)) h
        · rw [if_neg hbetter] at h
          have hle := Nat.not_lt.mp (mt (hless p rfl hkey).mpr hbetter)
          exact ih (u ++ [e]) hlt _ (hbest.kept (by rintro _ ⟨⟩ _; exact hle) (by simp)) h

/-- Where the slots in use are ordered by `f`, none of them is below the least one. -/
theorem least_le_of_used {lt : α → α → Bool} {f : α → Nat} {t : List α}
    (hlt : ∀ a ∈ t, ∀ b ∈ t, key a ≠ none → key b ≠ none → (lt a b = true ↔ f a < f b)) {j : Nat}
    (h : least key lt t = some j) :
    ∃ e, t[j]? = some e ∧ key e ≠ none ∧ ∀ b ∈ t, key b ≠ none → f e ≤ f b :=
  leastScan_le t [] hlt none (by intro b hb; cases hb) j h

theorem least_le {lt : α → α → Bool} {f : α → Nat} (hlt : ∀ a b, lt a b = true ↔ f a < f b)
    {t : List α} {j : Nat} (h : least key lt t = some j) :
    ∃ e, t[j]? = some e ∧ key e ≠ none ∧ ∀ b ∈ t, key b ≠ none → f e ≤ f b :=
  least_le_of_used (fun a _ b _ _ _ => hlt a b) h

theorem slotFor_least_isSome {lt : α → α → Bool} {t : List α} (h : t ≠ []) (k : κ) :
    ∃ i, slotFor key (least key lt) t k = some i := by
  by_cases hroom : HasRoom key t k
  · exact slotFor_isSome _ hroom
  · simp only [HasRoom, not_or, Option.not_isSome_iff_eq_none] at hroom
    obtain ⟨i, hi⟩ : ∃ i, least key lt t = some i := least_isSome h (firstFree_eq_none hroom.2)
    exact ⟨i, by simp only [slotFor, hroom.1, hroom.2, hi]⟩

theorem slotFor_least_lt {lt : α → α → Bool} {t : List α} {k : κ} {i : Nat}
    (h : slotFor key (least key lt) t k = some i) : i < t.length := by
  unfold slotFor at h
  cases hf : find key t k with
  | some j =>
    simp only [hf, Option.some.injEq] at h
    exact h ▸ (find_eq_some hf).1
  | none =>
    cases hfree : firstFree key t with
    | some j =>
      simp only [hf, hfree, Option.some.injEq] at h
      exact h ▸ (firstFree_eq_some hfree).1
    | none =>
      simp only [hf, hfree] at h
      exact least_lt h

end SlotTable
