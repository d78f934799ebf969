import Mathlib.Data.List.Nodup
import Mathlib.Order.Lattice

/-!
# Lists put in order

`SortedBy key xs ys`: `ys` is `xs` put in ascending order of a key, where equal
keys keep the order they have in `xs`. The elements carry their positions, so
none is lost and none occurs twice, and `xs` and `key` leave only one such list
(`SortedBy.unique`). A merge sort gives it (`sortedBy_of_le`).
-/

namespace AgentPlans

/-- `ys` is `xs` in ascending order of `key`; of equal keys the one in front stays in front. -/
def SortedBy {α κ : Type} [LT κ] (key : α → κ) (xs ys : List α) : Prop :=
  ∃ order : List (α × Nat), order.Perm xs.zipIdx ∧ order.map Prod.fst = ys ∧
    order.Pairwise fun a b => key a.1 < key b.1 ∨ key a.1 = key b.1 ∧ a.2 < b.2

variable {α β κ ν : Type} {key : α → κ} {xs ys zs : List α}

-- ---------------------------------------------------------------------------
-- Positions
-- ---------------------------------------------------------------------------

theorem nodup_positions (xs : List α) : (xs.zipIdx.map Prod.snd).Nodup := by
  rw [List.zipIdx_map_snd]
  exact List.nodup_range'

theorem mem_of_position {a : α × Nat} (h : a ∈ xs.zipIdx) : a.1 ∈ xs :=
  (List.zipIdx_map_fst 0 xs) ▸ List.mem_map_of_mem h

-- ---------------------------------------------------------------------------
-- What such an order is
-- ---------------------------------------------------------------------------

section Order

variable [LinearOrder κ]

theorem SortedBy.perm (h : SortedBy key xs ys) : ys.Perm xs := by
  obtain ⟨order, hperm, rfl, -⟩ := h
  have := hperm.map Prod.fst
  rwa [List.zipIdx_map_fst] at this

theorem SortedBy.mem_iff (h : SortedBy key xs ys) {a : α} : a ∈ ys ↔ a ∈ xs := h.perm.mem_iff

theorem SortedBy.sorted (h : SortedBy key xs ys) :
    ys.Pairwise fun a b => key a ≤ key b := by
  obtain ⟨order, -, rfl, hsorted⟩ := h
  refine List.pairwise_map.mpr (hsorted.imp ?_)
  rintro a b (hlt | ⟨heq, -⟩)
  · exact le_of_lt hlt
  · exact le_of_eq heq

theorem SortedBy.unique (hy : SortedBy key xs ys) (hz : SortedBy key xs zs) : ys = zs := by
  obtain ⟨order, hperm, rfl, hsorted⟩ := hy
  obtain ⟨order', hperm', rfl, hsorted'⟩ := hz
  have hsame : order.Perm order' := hperm.trans hperm'.symm
  rw [hsame.eq_of_pairwise ?_ hsorted hsorted']
  rintro a b - - (hab | ⟨hab, hpos⟩) (hba | ⟨hba, hpos'⟩)
  · exact absurd hab (lt_asymm hba)
  · exact absurd hab (hba ▸ lt_irrefl _)
  · exact absurd hba (hab ▸ lt_irrefl _)
  · exact absurd hpos (Nat.lt_asymm hpos')

/-- Only the order of the keys that occur counts. -/
theorem SortedBy.congr_key [LinearOrder ν] {key' : α → ν} (h : SortedBy key xs ys)
    (hkey : ∀ a ∈ xs, ∀ b ∈ xs, key a < key b ↔ key' a < key' b) : SortedBy key' xs ys := by
  obtain ⟨order, hperm, hmap, hsorted⟩ := h
  have heq : ∀ a ∈ xs, ∀ b ∈ xs, key a = key b → key' a = key' b := by
    intro a ha b hb hab
    refine le_antisymm (not_lt.mp ?_) (not_lt.mp ?_)
    · rw [← hkey b hb a ha, hab]
      exact lt_irrefl _
    · rw [← hkey a ha b hb, hab]
      exact lt_irrefl _
  refine ⟨order, hperm, hmap, hsorted.imp_of_mem ?_⟩
  intro a b ha hb hab
  have ha' := mem_of_position (hperm.mem_iff.mp ha)
  have hb' := mem_of_position (hperm.mem_iff.mp hb)
  rcases hab with hlt | ⟨hab, hpos⟩
  · exact .inl ((hkey _ ha' _ hb').mp hlt)
  · exact .inr ⟨heq _ ha' _ hb' hab, hpos⟩

theorem SortedBy.map {f : α → β} {key' : β → κ} (h : SortedBy key xs ys)
    (hkey : ∀ a, key' (f a) = key a) : SortedBy key' (xs.map f) (ys.map f) := by
  obtain ⟨order, hperm, rfl, hsorted⟩ := h
  refine ⟨order.map (Prod.map f id), ?_, ?_, ?_⟩
  · rw [List.zipIdx_map]
    exact hperm.map _
  · simp [List.map_map, Function.comp_def]
  · refine List.pairwise_map.mpr (hsorted.imp ?_)
    intro a b hab
    simpa [hkey] using hab

theorem SortedBy.take_le (h : SortedBy key xs ys) {n : Nat} {a b : α} (ha : a ∈ ys.take n)
    (hb : b ∈ ys.drop n) : key a ≤ key b := by
  have hsorted := h.sorted
  rw [← List.take_append_drop n ys, List.pairwise_append] at hsorted
  exact hsorted.2.2 a ha b hb

end Order

-- ---------------------------------------------------------------------------
-- Sorting
-- ---------------------------------------------------------------------------

theorem sortedBy_of_le [LinearOrder κ] {le : α → α → Bool}
    (trans : ∀ a b c, le a b = true → le b c = true → le a c = true)
    (total : ∀ a b, (le a b || le b a) = true)
    (hle : ∀ a ∈ xs, ∀ b ∈ xs, le a b = true ↔ key a ≤ key b) :
    SortedBy key xs (xs.mergeSort le) := by
  -- The sort is stable: it is the sort of the elements with their positions, by element and then by
  -- position, and there no two are equal.
  let order := xs.zipIdx.mergeSort (List.zipIdxLE le)
  have hperm : order.Perm xs.zipIdx := List.mergeSort_perm _ _
  refine ⟨order, hperm, List.mergeSort_zipIdx, ?_⟩
  have hsorted : order.Pairwise fun a b => List.zipIdxLE le a b = true :=
    List.pairwise_mergeSort (List.zipIdxLE_trans trans) (List.zipIdxLE_total total) _
  have hdistinct : order.Pairwise fun a b => a.2 ≠ b.2 :=
    List.pairwise_map.mp ((hperm.map Prod.snd).nodup_iff.mpr (nodup_positions xs))
  refine (hsorted.and hdistinct).imp_of_mem ?_
  rintro a b ha hb ⟨hab, hne⟩
  have ha' := mem_of_position (hperm.mem_iff.mp ha)
  have hb' := mem_of_position (hperm.mem_iff.mp hb)
  unfold List.zipIdxLE at hab
  split at hab
  · next hle' =>
    have hkeys := (hle _ ha' _ hb').mp hle'
    split at hab
    · next hge =>
      exact .inr ⟨le_antisymm hkeys ((hle _ hb' _ ha').mp hge),
        Nat.lt_of_le_of_ne (of_decide_eq_true hab) hne⟩
    · next hge =>
      refine .inl (lt_of_le_of_ne hkeys fun heq => hge ?_)
      exact (hle _ hb' _ ha').mpr (le_of_eq heq.symm)
  · cases hab

theorem sortedBy_mergeSort [LinearOrder κ] (key : α → κ) (xs : List α) :
    SortedBy key xs (xs.mergeSort fun a b => decide (key a ≤ key b)) := by
  refine sortedBy_of_le ?_ ?_ ?_
  · intro a b c hab hbc
    exact decide_eq_true (le_trans (of_decide_eq_true hab) (of_decide_eq_true hbc))
  · intro a b
    rcases le_total (key a) (key b) with h | h <;> simp [h]
  · intro a _ b _
    exact decide_eq_true_iff

end AgentPlans
