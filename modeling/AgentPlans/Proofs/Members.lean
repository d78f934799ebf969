import AgentPlans.Json.Members

/-!
# The order of named values

`Settled` members stand in the order that setting them one after another gives
them, so setting them again changes nothing. Values that are changed name by
name stay settled, because only names decide where a value stands. Setting a name
changes what is found under it and under no other (`get?_insert`).
-/

namespace AgentPlans.Members

variable {α β : Type} {members : Members α} {name : String} {value : α}

/-- Setting the members in turn, from none, gives the same members. -/
def Settled (members : Members α) : Prop := ofList members = members

theorem contains_eq_true : members.contains name = true ↔ name ∈ members.map Prod.fst := by
  simp [contains]

theorem contains_eq_false : members.contains name = false ↔ name ∉ members.map Prod.fst := by
  rw [← contains_eq_true, Bool.not_eq_true]

-- ---------------------------------------------------------------------------
-- What is found under a name
-- ---------------------------------------------------------------------------

section Found

variable {front back : Members α}

theorem get?_cons (m : String × α) (members : Members α) (other : String) :
    get? (m :: members) other = if m.1 = other then some m.2 else members.get? other := by
  by_cases h : m.1 = other <;> simp [get?, h]

theorem get?_append (front back : Members α) (other : String) :
    get? (front ++ back) other = (front.get? other).or (back.get? other) := by
  simp only [get?, List.find?_append]
  cases front.find? (·.1 == other) <;> rfl

theorem get?_eq_none (h : name ∉ members.map Prod.fst) : members.get? name = none := by
  induction members with
  | nil => rfl
  | cons m members ih =>
    obtain ⟨hne, hrest⟩ := List.ne_and_not_mem_of_not_mem_cons h
    rw [get?_cons, if_neg (Ne.symm hne), ih hrest]

theorem get?_between (h : name ∉ (front ++ back).map Prod.fst) (other : String) :
    get? (front ++ (name, value) :: back) other =
      if name = other then some value else get? (front ++ back) other := by
  rw [get?_append, get?_cons]
  split
  · next heq =>
    rw [List.map_append, List.mem_append, not_or] at h
    rw [← heq, get?_eq_none h.1, Option.none_or]
  · rw [get?_append]

theorem get?_replace_self (h : name ∈ members.map Prod.fst) :
    get? (members.map fun m => if m.1 == name then (name, value) else m) name = some value := by
  induction members with
  | nil => simp at h
  | cons m members ih =>
    rw [List.map_cons, get?_cons]
    by_cases hm : m.1 = name
    · simp [hm]
    · have hrest : name ∈ members.map Prod.fst := by
        simpa [Ne.symm hm] using h
      simpa [hm] using ih hrest

theorem get?_replace_of_ne {other : String} (h : name ≠ other) :
    get? (members.map fun m => if m.1 == name then (name, value) else m) other =
      members.get? other := by
  induction members with
  | nil => rfl
  | cons m members ih =>
    rw [List.map_cons, get?_cons, get?_cons, ih]
    by_cases hm : m.1 = name <;> simp [hm, h]

theorem get?_place (h : name ∉ members.map Prod.fst) (other : String) :
    (place name value members).get? other =
      if name = other then some value else members.get? other := by
  unfold place
  split
  · rw [get?_between (by simpa using h), List.append_nil]
  · rw [get?_between] <;> rw [List.takeWhile_append_dropWhile]
    exact h

/-- A name that is set has the value, and all other names keep theirs. -/
theorem get?_insert (members : Members α) (name : String) (value : α) (other : String) :
    (members.insert name value).get? other =
      if name = other then some value else members.get? other := by
  unfold insert
  split
  · next hthere =>
    by_cases h : name = other
    · rw [if_pos h, ← h, get?_replace_self (contains_eq_true.mp hthere)]
    · rw [if_neg h, get?_replace_of_ne h]
  · next hnew => exact get?_place (contains_eq_false.mp (eq_false_of_ne_true hnew)) other

end Found

-- ---------------------------------------------------------------------------
-- Values changed name by name
-- ---------------------------------------------------------------------------

variable (g : String → α → β)

theorem get?_mapValues (members : Members α) (name : String) :
    get? (members.map fun m => (m.1, g m.1 m.2)) name = (members.get? name).map (g name) := by
  induction members with
  | nil => rfl
  | cons m members ih =>
    rw [List.map_cons, get?_cons, get?_cons, ih]
    by_cases h : m.1 = name <;> simp [h]

theorem contains_mapValues :
    contains (members.map fun m => (m.1, g m.1 m.2)) name = members.contains name := by
  simp [contains, Function.comp_def]

theorem takeWhile_mapValues (p : String → Bool) :
    (members.map fun m => (m.1, g m.1 m.2)).takeWhile (fun m => p m.1) =
      (members.takeWhile fun m => p m.1).map fun m => (m.1, g m.1 m.2) := by
  rw [List.takeWhile_map]
  rfl

theorem dropWhile_mapValues (p : String → Bool) :
    (members.map fun m => (m.1, g m.1 m.2)).dropWhile (fun m => p m.1) =
      (members.dropWhile fun m => p m.1).map fun m => (m.1, g m.1 m.2) := by
  rw [List.dropWhile_map]
  rfl

theorem insert_mapValues :
    insert (members.map fun m => (m.1, g m.1 m.2)) name (g name value) =
      (members.insert name value).map fun m => (m.1, g m.1 m.2) := by
  unfold insert
  rw [contains_mapValues]
  split
  · rw [List.map_map, List.map_map]
    apply List.map_congr_left
    intro m _
    by_cases hm : m.1 = name <;> simp [hm]
  · unfold place
    split
    · simp
    · rw [takeWhile_mapValues, dropWhile_mapValues]
      simp

theorem ofList_mapValues :
    ofList (members.map fun m => (m.1, g m.1 m.2)) =
      (ofList members).map fun m => (m.1, g m.1 m.2) := by
  have hfold : ∀ before : Members α,
      (members.map fun m => (m.1, g m.1 m.2)).foldl (fun ms p => Members.insert ms p.1 p.2)
          (before.map fun m => (m.1, g m.1 m.2)) =
        (members.foldl (fun ms p => Members.insert ms p.1 p.2) before).map
          fun m => (m.1, g m.1 m.2) := by
    induction members with
    | nil => intro before; rfl
    | cons m members ih =>
      intro before
      rw [List.map_cons, List.foldl_cons, List.foldl_cons, insert_mapValues, ih]
  exact hfold []

theorem Settled.mapValues (h : members.Settled) :
    Settled (members.map fun m => (m.1, g m.1 m.2)) := by
  rw [Settled, ofList_mapValues, h]

end AgentPlans.Members
