import AgentPlans.Proofs.Service.Creation
import AgentPlans.Proofs.Store.Table

/-!
# What the service stores and reads

While a store holds plans, reading one or listing them gives those plans back,
and making a plan adds at most the plan that was built. So what the service
shows is a matter of the plans that its store holds.
-/

namespace AgentPlans

namespace Service

variable {s t : Service} {plans shown : List Plan} {p q : Plan} {id : String} {limit : Number}
  {around : Surroundings} {ref : String} {task : Utf16} {result : Except Failure Plan}

-- ---------------------------------------------------------------------------
-- Plans and listings
-- ---------------------------------------------------------------------------

theorem readRow_row (h : p.Storable) : readRow p.row = .ok p := by
  rw [readRow, Plan.row_plan h]

theorem find?_holds (h : s.store.Holds plans) :
    s.find? id = .ok (plans.find? (·.planId == some id)) := by
  rw [find?, h.fetch]
  cases hfind : plans.find? (·.planId == some id) with
  | none => rfl
  | some p =>
    simp only [Option.map_some, readRow_row (h.storable p (List.mem_of_find?_eq_some hfind))]
    rfl

theorem get_holds (h : s.store.Holds plans) :
    s.get id = .ok p ↔ p ∈ plans ∧ p.planId = some id := by
  rw [get, find?_holds h]
  constructor
  · intro hget
    cases hfind : plans.find? (·.planId == some id) with
    | none => simp [hfind, bind, Except.bind] at hget
    | some q =>
      simp only [hfind, bind, Except.bind, Except.ok.injEq] at hget
      subst hget
      exact ⟨List.mem_of_find?_eq_some hfind, by simpa using List.find?_some hfind⟩
  · rintro ⟨hp, hid⟩
    rw [h.find?_eq hp hid]
    rfl

theorem recent_holds (h : s.store.Holds plans) :
    s.recent limit =
      match limit.toInt64? with
      | none => .error (.store .limitMismatch)
      | some n =>
        .ok (if n < 0 then Plan.latestFirst plans else (Plan.latestFirst plans).take n.toNat) := by
  rw [recent, h.recent]
  cases limit.toInt64? with
  | none => rfl
  | some n =>
    dsimp only
    rw [List.mapM_map, mapM_ok (g := id), List.map_id]
    intro p hp
    refine readRow_row (h.storable p (Plan.mem_latestFirst.mp ?_))
    split at hp
    · exact hp
    · exact List.mem_of_mem_take hp

theorem list_sublist (h : s.store.Holds plans) (hl : s.list limit = .ok shown) :
    shown.Sublist (Plan.latestFirst plans) := by
  rw [list, recent_holds h] at hl
  split at hl
  · simp at hl
  · obtain rfl := Except.ok.inj hl
    split
    · exact .refl _
    · exact List.take_sublist _ _

theorem list_mem (h : s.store.Holds plans) (hl : s.list limit = .ok shown) (hp : p ∈ shown) :
    p ∈ plans :=
  Plan.mem_latestFirst.mp ((list_sublist h hl).subset hp)

/-- Making a plan adds what is kept of the plan that was built, or nothing; what is kept of a plan
that is returned was added. -/
theorem Creation.holds (h : Creation s around ref task t result) (hs : s.store.Holds plans)
    (hstorable : task.isBlank = false → ∀ agent ∈ s.registry.agents, ∀ p,
      Plan.build agent task around.source s.nextId around.clock = .ok p → p.kept.Storable) :
    ∃ more, t.store.Holds (plans ++ more) ∧
      (∀ q ∈ more, task.isBlank = false ∧ ∃ agent ∈ s.registry.agents, ∃ p,
        Plan.build agent task around.source s.nextId around.clock = .ok p ∧ q = p.kept) ∧
      ∀ p, result = .ok p → p.kept ∈ more := by
  rcases h.store with ⟨hkept, f, rfl⟩ | ⟨agent, plan, hresolved, hgiven, hbuilt, hstored, hresult⟩
  · exact ⟨[], by simpa [hkept] using hs, by simp, by simp⟩
  · have hagent := Registry.resolve_mem hresolved
    rw [← plan.draft_kept] at hstored
    have hinserted := hs.insert (hstorable hgiven agent hagent plan hbuilt)
      (Plan.build_ok hbuilt).planId hstored
    refine ⟨[plan.kept], hinserted, ?_, ?_⟩
    · intro q hq
      exact ⟨hgiven, agent, hagent, plan, hbuilt, List.mem_singleton.mp hq⟩
    · intro p hp
      rcases hresult with rfl | ⟨e, _, rfl⟩
      · rw [Except.ok.inj hp]
        exact List.mem_singleton_self _
      · cases hp

end Service

end AgentPlans
