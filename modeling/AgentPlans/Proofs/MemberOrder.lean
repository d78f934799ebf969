import AgentPlans.Proofs.Members
import AgentPlans.Proofs.Text.Digits
import Mathlib.Data.List.Nodup
import Mathlib.Data.List.TakeWhile

/-!
# Members that were set one after another

`Ordered` members have distinct names, array indices in ascending order in front
and the other names behind them. Setting names in any order, again and again,
gives ordered members (`ordered_ofList`), and ordered members are settled
(`Ordered.settled`): whoever reads them and sets them again has the same members.
-/

namespace AgentPlans.Members

variable {α : Type} {members before pairs : Members α} {name other : String} {value : α}
  {i j : Nat} {m : String × α}

-- ---------------------------------------------------------------------------
-- Names that are indices
-- ---------------------------------------------------------------------------

theorem toList_of_index? (h : index? name = some i) : name.toList = Nat.toDigits 10 i := by
  unfold index? at h
  split at h
  · cases h
  · next hzero =>
    obtain rfl := Option.some.inj h
    exact hzero
  · cases h
  · next hne hzero hhead =>
    dsimp only at h
    split at h
    · next hdigits =>
      split at h
      · have hvalue : Number.ofDigits name.toList = i := Option.some.inj h
        rw [← hvalue, Text.toDigits_ofDigits hne (List.all_eq_true.mp hdigits.1)]
        intro hz
        obtain ⟨tail, htail⟩ := List.head?_eq_some_iff.mp hz
        exact hhead tail htail
      · cases h
    · cases h

theorem index?_injective (h : index? name = some i) (h' : index? other = some i) : name = other :=
  String.toList_inj.mp ((toList_of_index? h).trans (toList_of_index? h').symm)

theorem precedesIndex_eq_true :
    precedesIndex i name = true ↔ ∃ j, index? name = some j ∧ j < i := by
  unfold precedesIndex
  split <;> simp_all

-- ---------------------------------------------------------------------------
-- The order of names
-- ---------------------------------------------------------------------------

/-- A name that may stand in front of another: only a lesser index stands in front of an index. -/
def InFront (name other : String) : Prop :=
  ∀ j, index? other = some j → ∃ i, index? name = some i ∧ i < j

theorem inFront_of_no_index (h : index? other = none) : InFront name other := by
  intro j hj
  rw [h] at hj
  cases hj

theorem InFront.trans {last : String} (h : InFront name other) (h' : InFront other last) :
    InFront name last := by
  intro k hk
  obtain ⟨j, hj, hjk⟩ := h' k hk
  obtain ⟨i, hi, hij⟩ := h j hj
  exact ⟨i, hi, by omega⟩

structure Ordered (members : Members α) : Prop where
  nodup : (members.map Prod.fst).Nodup
  sorted : (members.map Prod.fst).Pairwise InFront

theorem ordered_nil : Ordered ([] : Members α) := ⟨.nil, .nil⟩

theorem Ordered.of_names (h : Ordered before) (hn : members.map Prod.fst = before.map Prod.fst) :
    Ordered members :=
  ⟨hn ▸ h.nodup, hn ▸ h.sorted⟩

theorem ordered_of_no_index (hi : ∀ m ∈ members, index? m.1 = none)
    (hn : (members.map Prod.fst).Nodup) : Ordered members := by
  refine ⟨hn, List.pairwise_map.mpr ?_⟩
  exact List.pairwise_of_forall_mem_list fun _ _ m hm => inFront_of_no_index (hi m hm)

theorem names_replace (members : Members α) (name : String) (value : α) :
    (members.map fun m => if m.1 == name then (name, value) else m).map Prod.fst =
      members.map Prod.fst := by
  rw [List.map_map]
  apply List.map_congr_left
  intro m _
  by_cases h : m.1 = name <;> simp [h]

theorem inFront_of_mem_dropWhile (h : Ordered members) (hi : index? name = some i)
    (hn : name ∉ members.map Prod.fst)
    (hm : m ∈ members.dropWhile fun m => precedesIndex i m.1) : InFront name m.1 := by
  induction members with
  | nil => simp at hm
  | cons first members ih =>
    obtain ⟨hfirst, hrest⟩ := List.pairwise_cons.mp h.sorted
    rw [List.dropWhile_cons] at hm
    split at hm
    · exact ih ⟨(List.nodup_cons.mp h.nodup).2, hrest⟩
        (fun hmem => hn (List.mem_cons_of_mem _ hmem)) hm
    · next hlate =>
      -- The first name that is no lesser index; the names behind it do not come before it.
      have hhead : InFront name first.1 := by
        intro j hj
        refine ⟨i, hi, ?_⟩
        rcases Nat.lt_trichotomy i j with hlt | rfl | hgt
        · exact hlt
        · exact absurd (index?_injective hj hi ▸ List.mem_cons_self) hn
        · exact absurd (precedesIndex_eq_true.mpr ⟨j, hj, hgt⟩) hlate
      rcases List.mem_cons.mp hm with rfl | hm
      · exact hhead
      · exact hhead.trans (hfirst m.1 (List.mem_map_of_mem hm))

theorem names_place (hi : index? name = some i) :
    (place name value members).map Prod.fst =
      (members.takeWhile fun m => precedesIndex i m.1).map Prod.fst ++
        name :: (members.dropWhile fun m => precedesIndex i m.1).map Prod.fst := by
  simp [place, hi]

theorem place_perm (name : String) (value : α) (members : Members α) :
    (place name value members).Perm ((name, value) :: members) := by
  unfold place
  split
  · exact List.perm_append_singleton _ _
  · next i _ =>
    refine List.perm_middle.trans (.cons _ ?_)
    rw [List.takeWhile_append_dropWhile]

theorem Ordered.place (h : Ordered members) (hn : name ∉ members.map Prod.fst) :
    Ordered (place name value members) := by
  refine ⟨?_, ?_⟩
  · rw [((place_perm name value members).map Prod.fst).nodup_iff]
    exact List.nodup_cons.mpr ⟨hn, h.nodup⟩
  cases hi : index? name with
  | none =>
    have hplace : Members.place name value members = members ++ [(name, value)] := by
      simp [Members.place, hi]
    rw [hplace, List.map_append, List.pairwise_append]
    refine ⟨h.sorted, by simp, ?_⟩
    intro other _ last hlast
    obtain rfl : last = name := by simpa using hlast
    exact inFront_of_no_index hi
  | some i =>
    -- The new name goes between the lesser indices and the rest.
    have hsplit : members.map Prod.fst =
        (members.takeWhile fun m => precedesIndex i m.1).map Prod.fst ++
          (members.dropWhile fun m => precedesIndex i m.1).map Prod.fst := by
      rw [← List.map_append, List.takeWhile_append_dropWhile]
    have hsorted := h.sorted
    rw [hsplit, List.pairwise_append] at hsorted
    obtain ⟨htaken, hleft, hacross⟩ := hsorted
    have hbehind : ∀ other ∈ (members.dropWhile fun m => precedesIndex i m.1).map Prod.fst,
        InFront name other := by
      intro other hother
      obtain ⟨m, hm, rfl⟩ := List.mem_map.mp hother
      exact inFront_of_mem_dropWhile h hi hn hm
    rw [names_place hi, List.pairwise_append]
    refine ⟨htaken, List.pairwise_cons.mpr ⟨hbehind, hleft⟩, ?_⟩
    intro other hother last hlast
    rcases List.mem_cons.mp hlast with rfl | hlast
    · obtain ⟨m, hm, rfl⟩ := List.mem_map.mp hother
      intro j hj
      obtain rfl : i = j := Option.some.inj (hi.symm.trans hj)
      have hlesser := List.all_eq_true.mp (List.all_takeWhile (l := members)) m hm
      exact precedesIndex_eq_true.mp hlesser
    · exact hacross other hother last hlast

theorem Ordered.insert (h : Ordered members) (name : String) (value : α) :
    Ordered (members.insert name value) := by
  unfold Members.insert
  split
  · exact h.of_names (names_replace members name value)
  · next hnew => exact h.place (contains_eq_false.mp (eq_false_of_ne_true hnew))

theorem mem_insert (h : m ∈ members.insert name value) : m ∈ members ∨ m = (name, value) := by
  unfold Members.insert at h
  split at h
  · obtain ⟨m', hm', rfl⟩ := List.mem_map.mp h
    by_cases heq : m'.1 = name <;> simp [heq, hm']
  · exact (List.mem_cons.mp ((place_perm name value members).mem_iff.mp h)).symm

/-- Members that were set in turn are ordered, whatever was set. -/
theorem ordered_ofList (pairs : Members α) : Ordered (ofList pairs) := by
  have hfold : ∀ before : Members α, Ordered before →
      Ordered (pairs.foldl (fun ms p => Members.insert ms p.1 p.2) before) := by
    induction pairs with
    | nil => exact fun _ h => h
    | cons p pairs ih => exact fun before h => ih _ (h.insert p.1 p.2)
  exact hfold [] ordered_nil

theorem insert_last (h : ∀ m ∈ members, InFront m.1 name) (hn : name ∉ members.map Prod.fst) :
    members.insert name value = members ++ [(name, value)] := by
  rw [Members.insert, contains_eq_false.mpr hn]
  simp only [Bool.false_eq_true, if_false, Members.place]
  split
  · rfl
  · next i hi =>
    have hall : ∀ m ∈ members, precedesIndex i m.1 = true := fun m hm =>
      precedesIndex_eq_true.mpr (h m hm i hi)
    rw [List.takeWhile_eq_self_iff.mpr hall, List.dropWhile_eq_nil_iff.mpr hall]

theorem foldl_insert_ordered (h : Ordered (before ++ pairs)) :
    pairs.foldl (fun ms p => Members.insert ms p.1 p.2) before = before ++ pairs := by
  induction pairs generalizing before with
  | nil => simp
  | cons p pairs ih =>
    have hnodup := h.nodup
    have hsorted := h.sorted
    rw [List.map_append, List.map_cons] at hnodup hsorted
    have hnew : p.1 ∉ before.map Prod.fst := fun hmem =>
      (List.nodup_append.mp hnodup).2.2 _ hmem _ List.mem_cons_self rfl
    have hfront : ∀ m ∈ before, InFront m.1 p.1 := fun m hm =>
      (List.pairwise_append.mp hsorted).2.2 m.1 (List.mem_map_of_mem hm) p.1 List.mem_cons_self
    have hsplit : before ++ p :: pairs = (before ++ [p]) ++ pairs := by simp
    rw [hsplit] at h ⊢
    rw [List.foldl_cons, insert_last hfront hnew, ih h]

/-- Setting ordered members again, from none, changes nothing. -/
theorem Ordered.settled (h : Ordered members) : members.Settled := by
  rw [Settled, ofList, foldl_insert_ordered (by simpa using h), List.nil_append]

theorem Settled.ordered (h : members.Settled) : Ordered members := by
  rw [← show ofList members = members from h]
  exact ordered_ofList members

theorem Settled.insert (h : members.Settled) (name : String) (value : α) :
    (members.insert name value).Settled :=
  (h.ordered.insert name value).settled

theorem settled_of_nodup (hi : ∀ m ∈ members, index? m.1 = none)
    (hn : (members.map Prod.fst).Nodup) : members.Settled :=
  (ordered_of_no_index hi hn).settled

theorem settled_ofList (pairs : Members α) : (ofList pairs).Settled :=
  (ordered_ofList pairs).settled

end AgentPlans.Members
