import AgentPlans.Proofs.Audit.Line
import AgentPlans.Proofs.Service.Chronology
import AgentPlans.Proofs.Time.DateText

/-!
# Plans that are asked for independently

Clients that ask for plans at different instants, and are handed different ids,
do not get in each other's way. Each call is answered as if it had come alone to
the service without plans (`Akin.step`), and the rows that the calls leave are
the same in every order (`Akin.run`). Two rows never show the same creation
time, so neither a listing nor a search can tell which of them was first
(`creations_independent`).
-/

namespace AgentPlans

/-- The id of the plan that a call asks for, if the unique text is handed out with the call. -/
def Call.planId? (c : Call) : Option String := c.unique.map Plan.idOf

namespace Service

/-- A call that asks for a plan and is handed a unique text of its own. -/
structure Asks (c : Call) : Prop where
  asked : c.operation.creation?.isSome = true
  given : c.unique.isSome = true

def rowsOf (s : Service) (c : Call) : List Row := (s.step c).1.store.table.getD []

/-- `t` decides on a plan as `s` does, as far as its rows let it. -/
structure Akin (s t : Service) : Prop where
  registry : t.registry = s.registry
  log : s.log.Agrees t.log

variable {s t u : Service} {around : Surroundings} {ref unique : String} {task : Utf16} {c : Call}
  {calls order : List Call} {rows : List Row} {result : Except Failure Plan}

-- ---------------------------------------------------------------------------
-- One call
-- ---------------------------------------------------------------------------

/-- Where no row has the id, making a plan comes to what it comes to where there are no rows. -/
theorem Creation.replay (h : Creation s around ref task u result) (hakin : Akin s t)
    (hid : t.nextId = s.nextId) (hs : s.store.table = some []) (ht : t.store.table = some rows)
    (hnew : some s.nextId ∉ rows.map Row.planId) :
    ∃ v, Creation t around ref task v result ∧ Akin s v ∧
      v.store.table = some (rows ++ u.store.table.getD []) := by
  obtain ⟨hregistry, hlog⟩ := hakin
  have htable : t.store.table = some (rows ++ s.store.table.getD []) := by simp [ht, hs]
  rw [← hid] at hnew
  cases h with
  | unnamed resolved =>
    rw [← hregistry] at resolved
    exact ⟨t, .unnamed resolved, ⟨hregistry, hlog⟩, htable⟩
  | unknown resolved =>
    rw [← hregistry] at resolved
    exact ⟨t, .unknown resolved, ⟨hregistry, hlog⟩, htable⟩
  | blankUndated resolved blank clock =>
    rw [← hregistry] at resolved
    exact ⟨_, .blankUndated resolved blank clock, ⟨hregistry, hlog⟩, htable⟩
  | blankUnlogged resolved blank clock logged =>
    rw [← hregistry] at resolved
    rw [← hlog, ← hid] at logged
    exact ⟨_, .blankUnlogged resolved blank clock logged, ⟨hregistry, hlog⟩, htable⟩
  | blank resolved blank clock logged =>
    rw [← hregistry] at resolved
    rw [← hid] at logged
    obtain ⟨after, hafter⟩ := hlog.append logged
    exact ⟨_, .blank resolved blank clock hafter,
      ⟨hregistry, hlog.trans (Audit.Log.agrees_of_append hafter)⟩, htable⟩
  | unbuilt resolved given built =>
    rw [← hregistry] at resolved
    rw [← hid] at built
    exact ⟨_, .unbuilt resolved given built, ⟨hregistry, hlog⟩, htable⟩
  | unstored resolved given built stored =>
    -- Nothing stands in the way of the first row.
    rw [Store.insert_new hs (Plan.build_ok built).planId (by simp)] at stored
    cases stored
  | unlogged resolved given built stored logged =>
    rw [Store.insert_new hs (Plan.build_ok built).planId (by simp)] at stored
    obtain rfl := Except.ok.inj stored
    rw [← hregistry] at resolved
    rw [← hid] at built
    rw [← hlog, ← hid] at logged
    have hstored := Store.insert_new ht (Plan.build_ok built).planId hnew
    exact ⟨_, .unlogged resolved given built hstored logged, ⟨hregistry, hlog⟩, rfl⟩
  | made resolved given built stored logged =>
    rw [Store.insert_new hs (Plan.build_ok built).planId (by simp)] at stored
    obtain rfl := Except.ok.inj stored
    rw [← hregistry] at resolved
    rw [← hid] at built logged
    have hstored := Store.insert_new ht (Plan.build_ok built).planId hnew
    obtain ⟨after, hafter⟩ := hlog.append logged
    exact ⟨_, .made resolved given built hstored hafter,
      ⟨hregistry, hlog.trans (Audit.Log.agrees_of_append hafter)⟩, rfl⟩

theorem nextId_handed (s : Service) : (s.handed (some unique)).nextId = Plan.idOf unique := rfl

/-- A call whose id is new is answered as if it had come alone, and leaves the same rows. -/
theorem Akin.step (h : Akin s t) (hs : s.store.table = some []) (ht : t.store.table = some rows)
    (hc : Asks c) (hnew : c.planId? ∉ rows.map Row.planId) :
    (t.step c).2 = (s.step c).2 ∧ Akin s (t.step c).1 ∧
      (t.step c).1.store.table = some (rows ++ s.rowsOf c) := by
  obtain ⟨⟨ref, task⟩, hasked⟩ := Option.isSome_iff_exists.mp hc.asked
  obtain ⟨unique, hunique⟩ := Option.isSome_iff_exists.mp hc.given
  have hcreation := create_creation (s.handed c.unique) c.around ref task
  have hid : (t.handed c.unique).nextId = (s.handed c.unique).nextId := by
    rw [hunique, nextId_handed, nextId_handed]
  rw [Call.planId?, hunique, Option.map_some, ← nextId_handed s, ← hunique] at hnew
  obtain ⟨v, hv, hakin, htable⟩ :=
    hcreation.replay (t := t.handed c.unique) ⟨h.registry, h.log⟩ hid hs ht hnew
  have hcreate := hv.eq
  rw [rowsOf, Service.step, Service.step, perform_asking hasked, perform_asking hasked, hcreate]
  exact ⟨perform_asking_congr hasked (by rw [hcreate]), ⟨hakin.registry, hakin.log⟩, htable⟩

-- ---------------------------------------------------------------------------
-- The rows that calls leave
-- ---------------------------------------------------------------------------

theorem rowsOf_cases (hs : s.store.table = some []) (c : Call) :
    s.rowsOf c = [] ∨ ∃ row now, s.rowsOf c = [row] ∧
      row.planId = some (s.handed c.unique).nextId ∧ c.around.clock = some now ∧
      row.createdAt = now.iso := by
  obtain ⟨made, hmade⟩ := exists_makes s c
  have hrows : s.rowsOf c = made.map (·.plan.row) := by
    rw [rowsOf, hmade.table hs]
    rfl
  cases hmade with
  | nothing kept => exact .inl hrows
  | @stored _ _ _ plan now asked resolved clock built after =>
    obtain ⟨now', hclock, hcreated⟩ := (Plan.build_ok built).createdAt
    obtain rfl : now = now' := Option.some.inj (clock.symm.trans hclock)
    exact .inr ⟨plan.row, now, hrows, (Plan.build_ok built).planId, clock, hcreated⟩

theorem planId_rowsOf (hs : s.store.table = some []) (hc : Asks c) :
    s.rowsOf c = [] ∨ ∃ row, s.rowsOf c = [row] ∧ row.planId = c.planId? := by
  obtain ⟨unique, hunique⟩ := Option.isSome_iff_exists.mp hc.given
  rcases rowsOf_cases hs c with hnone | ⟨row, _, hrow, hid, _⟩
  · exact .inl hnone
  · refine .inr ⟨row, hrow, ?_⟩
    rw [hid, Call.planId?, hunique]
    rfl

theorem createdAt_rowsOf (hs : s.store.table = some []) (c : Call) :
    s.rowsOf c = [] ∨ ∃ row, s.rowsOf c = [row] ∧
      some row.createdAt = c.around.clock.map Time.Instant.iso := by
  rcases rowsOf_cases hs c with hnone | ⟨row, now, hrow, _, hclock, hiso⟩
  · exact .inl hnone
  · refine .inr ⟨row, hrow, ?_⟩
    rw [hclock, hiso]
    rfl

theorem keys_sublist {β : Type} {key : Row → β} {tag : Call → β}
    (h : ∀ c ∈ calls, s.rowsOf c = [] ∨ ∃ row, s.rowsOf c = [row] ∧ key row = tag c) :
    ((calls.flatMap s.rowsOf).map key).Sublist (calls.map tag) := by
  induction calls with
  | nil => exact .slnil
  | cons c calls ih =>
    have hrest := ih fun c' hc' => h c' (List.mem_cons_of_mem _ hc')
    rcases h c List.mem_cons_self with hnone | ⟨row, hrow, hkey⟩
    · rw [List.flatMap_cons, hnone]
      exact hrest.cons _
    · rw [List.flatMap_cons, hrow, List.singleton_append, List.map_cons, List.map_cons, hkey]
      exact hrest.cons_cons _

-- ---------------------------------------------------------------------------
-- Calls in a row
-- ---------------------------------------------------------------------------

theorem Akin.run (h : Akin s t) (hs : s.store.table = some []) (ht : t.store.table = some rows)
    (hasks : ∀ c ∈ calls, Asks c)
    (hids : (rows.map Row.planId ++ calls.map Call.planId?).Nodup) :
    (t.run calls).2 = calls.map (fun c => (s.step c).2) ∧
      (t.run calls).1.store.table = some (rows ++ calls.flatMap s.rowsOf) := by
  induction calls generalizing t rows with
  | nil => simpa [Service.run] using ht
  | cons c calls ih =>
    have hc := hasks c List.mem_cons_self
    have hnew : c.planId? ∉ rows.map Row.planId := by
      intro hmem
      exact (List.nodup_append.mp hids).2.2 _ hmem _ List.mem_cons_self rfl
    obtain ⟨hanswer, hakin, htable⟩ := h.step hs ht hc hnew
    -- The ids taken afterwards are among those taken before and the call's own.
    have hlater : ((rows ++ s.rowsOf c).map Row.planId ++ calls.map Call.planId?).Nodup := by
      refine hids.sublist ?_
      rw [List.map_append, List.append_assoc, List.map_cons, ← List.singleton_append]
      refine (List.Sublist.refl _).append (List.Sublist.append ?_ (List.Sublist.refl _))
      rcases planId_rowsOf hs hc with hnone | ⟨row, hrow, hid⟩
      · simp [hnone]
      · simp [hrow, hid]
    obtain ⟨hanswers, hrows⟩ := ih hakin htable
      (fun c' hc' => hasks c' (List.mem_cons_of_mem _ hc')) hlater
    rw [run_cons, hanswer, hanswers, hrows, List.flatMap_cons, List.append_assoc]
    exact ⟨rfl, rfl⟩

/-- Calls that ask for plans at different instants, with different ids, from an initialised store
without plans: in every order each is answered as if it had come alone, and afterwards every id
leads to the same plan and every listing shows the same plans. -/
theorem creations_independent (s : Service) (calls order : List Call)
    (new : s.store.table = some []) (asks : ∀ c ∈ calls, Asks c)
    (ids : (calls.map Call.planId?).Nodup) (clocks : (calls.map (·.around.clock)).Nodup)
    (reordered : order.Perm calls) :
    (s.run calls).2 = calls.map (fun c => (s.step c).2) ∧
      (s.run order).2 = order.map (fun c => (s.step c).2) ∧
      (∀ id, (s.run order).1.get id = (s.run calls).1.get id) ∧
      ∀ limit, (s.run order).1.list limit = (s.run calls).1.list limit := by
  have hself : Akin s s := ⟨rfl, fun _ _ => Iff.rfl⟩
  obtain ⟨hanswers, htable⟩ := hself.run new new asks (by simpa using ids)
  obtain ⟨hanswers', htable'⟩ := hself.run new new
    (fun c hc => asks c (reordered.mem_iff.mp hc))
    (by simpa using (reordered.map Call.planId?).nodup_iff.mpr ids)
  rw [List.nil_append] at htable htable'
  have hrows : (order.flatMap s.rowsOf).Perm (calls.flatMap s.rowsOf) :=
    reordered.flatMap_right _
  have hdistinct : ((order.flatMap s.rowsOf).map Row.planId).Nodup := by
    refine (hrows.map _).nodup_iff.mpr (ids.sublist ?_)
    exact keys_sublist fun c hc => planId_rowsOf new (asks c hc)
  have hdated : ((order.flatMap s.rowsOf).map Row.createdAt).Nodup := by
    have htexts := clocks.map (Option.map_injective Time.Instant.iso_injective)
    rw [List.map_map] at htexts
    refine (hrows.map _).nodup_iff.mpr (List.Nodup.of_map some ?_)
    rw [List.map_map]
    exact htexts.sublist (keys_sublist fun c _ => createdAt_rowsOf new c)
  refine ⟨hanswers, hanswers', ?_, ?_⟩
  · intro id
    simp only [get, find?, Store.fetch, Store.rows, htable, htable', bind, Except.bind, pure,
      Except.pure, Store.find?_congr hrows hdistinct]
  · intro limit
    rw [list, list, safeLimit, safeLimit, run_maxListLimit, run_maxListLimit]
    simp only [recent, Store.recent, Store.rows, htable, htable', bind, Except.bind,
      Store.latestFirst_congr hrows hdated]

def clients : List Call := [
  ⟨.create "amazon-q-cli" "mend it", ⟨Time.Instant.ofMillis? 1, fun _ => none⟩, some "a"⟩,
  ⟨.create "nobody" "mend it", ⟨Time.Instant.ofMillis? 3, fun _ => none⟩, some "b"⟩,
  ⟨.create "amazon-q-cli" " ", ⟨Time.Instant.ofMillis? 2, fun _ => none⟩, some "c"⟩,
  ⟨.request (.createPlan "Amazon Q CLI" (some (.object [("task_description", .string "try it")]))),
    ⟨Time.Instant.ofMillis? (-1), fun _ => none⟩, some "d"⟩]

theorem creations_independent_clients :
    started.store.table = some [] ∧ (∀ c ∈ clients, Asks c) ∧
      (clients.map Call.planId?).Nodup ∧ (clients.map (·.around.clock)).Nodup ∧
      clients.reverse.Perm clients ∧
      (started.run clients).2 = clients.map (fun c => (started.step c).2) ∧
      (started.run clients.reverse).2 = clients.reverse.map (fun c => (started.step c).2) ∧
      (∀ id, (started.run clients.reverse).1.get id = (started.run clients).1.get id) ∧
      ∀ limit, (started.run clients.reverse).1.list limit = (started.run clients).1.list limit := by
  have hasks : ∀ c ∈ clients, Asks c := by
    intro c hc
    simp only [clients, List.mem_cons, List.not_mem_nil, or_false] at hc
    rcases hc with rfl | rfl | rfl | rfl <;> exact ⟨rfl, rfl⟩
  have hids : (clients.map Call.planId?).Nodup := by decide +kernel
  have hclocks : (clients.map (·.around.clock)).Nodup := by decide +kernel
  have hreordered := List.reverse_perm clients
  exact ⟨rfl, hasks, hids, hclocks, hreordered,
    creations_independent started clients clients.reverse rfl hasks hids hclocks hreordered⟩

end Service

end AgentPlans
