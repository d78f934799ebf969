import AgentPlans.Proofs.Results
import AgentPlans.Proofs.Service.Run

/-!
# Making one plan

`create_creation` says once everything that making a plan can come to: which
step went wrong, if one did, what the service found before it, and what the
service is afterwards. What holds of every creation is read off its cases.
-/

namespace AgentPlans

-- ---------------------------------------------------------------------------
-- Agents and plans
-- ---------------------------------------------------------------------------

theorem Registry.firstNamed_mem {key : String} {agents : List Agent} {a : Agent}
    (h : firstNamed key agents = .ok (some a)) : a ∈ agents := by
  induction agents with
  | nil => simp [firstNamed] at h
  | cons b agents ih =>
    obtain ⟨name, _, h⟩ := bind_ok.mp h
    split at h
    · obtain rfl : b = a := Option.some.inj (Except.ok.inj h)
      exact List.mem_cons_self
    · exact List.mem_cons_of_mem _ (ih h)

theorem Registry.resolve_mem {r : Registry} {ref : String} {a : Agent}
    (h : r.resolve ref = .ok (some a)) : a ∈ r.agents := by
  unfold resolve at h
  dsimp only at h
  split at h
  · simp at h
  · split at h
    · next hfind =>
      obtain rfl := Option.some.inj (Except.ok.inj h)
      exact List.mem_of_find?_eq_some hfind
    · exact firstNamed_mem h

theorem Plan.idOf_ne_empty (unique : String) : Plan.idOf unique ≠ "" := by
  simp [Plan.idOf]

variable {agent : Agent} {task : Utf16} {planId : String} {source : Source}
  {clock : Option Time.Instant} {p : Plan}

structure Plan.BuiltOf (agent : Agent) (task : Utf16) (source : Source) (planId : String)
    (clock : Option Time.Instant) (p : Plan) : Prop where
  planId : p.planId = some planId
  agentId : p.agentId = agent.id
  agentName : agent.name = .ok p.agentName
  taskDescription : p.taskDescription = task
  installScript : agent.installScript = .ok p.installScriptPath
  env : ∃ env, agent.environment source = .ok env ∧ p.env = env.redact agent.secretKeys
  commands : agent.commands task = .ok p.commands
  createdAt : ∃ now, clock = some now ∧ p.createdAt = now.iso

theorem Plan.build_ok (h : Plan.build agent task source planId clock = .ok p) :
    p.BuiltOf agent task source planId clock := by
  simp only [Plan.build, bind_ok, mapError_ok, elim_ok, pure_ok] at h
  obtain ⟨name, hname, script, hscript, env, henv, commands, hcommands, now, hnow, rfl⟩ := h
  exact ⟨rfl, rfl, hname, rfl, hscript, ⟨env, henv, rfl⟩, hcommands, ⟨now, hnow, rfl⟩⟩

namespace Service

-- ---------------------------------------------------------------------------
-- Creations
-- ---------------------------------------------------------------------------

def counted (s : Service) : Service := { s with ids := s.ids.next.2 }

def nextId (s : Service) : String := Plan.idOf s.ids.next.1

/-- What making a plan comes to: the service that it leaves, and its result. -/
inductive Creation (s : Service) (around : Surroundings) (ref : String) (task : Utf16) :
    Service → Except Failure Plan → Prop
  /-- An agent cannot tell its name while the reference is looked up. -/
  | unnamed {f : Fault} (resolved : s.registry.resolve ref = .error f) :
    Creation s around ref task s (.error (.fault f))
  | unknown (resolved : s.registry.resolve ref = .ok none) :
    Creation s around ref task s (.error (.refused (.agentNotFound ref)))
  /-- The task is blank, and the clock shows no instant at which that could be logged. -/
  | blankUndated {agent : Agent} (resolved : s.registry.resolve ref = .ok (some agent))
    (blank : task.isBlank = true) (clock : around.clock = none) :
    Creation s around ref task s.counted (.error .noInstant)
  | blankUnlogged {agent : Agent} {now : Time.Instant} {e : Audit.LogError}
    (resolved : s.registry.resolve ref = .ok (some agent)) (blank : task.isBlank = true)
    (clock : around.clock = some now)
    (logged : s.log.append (rejection now s.nextId agent.id).record = .error e) :
    Creation s around ref task s.counted (.error (.log e))
  | blank {agent : Agent} {now : Time.Instant} {log : Audit.Log}
    (resolved : s.registry.resolve ref = .ok (some agent)) (blank : task.isBlank = true)
    (clock : around.clock = some now)
    (logged : s.log.append (rejection now s.nextId agent.id).record = .ok log) :
    Creation s around ref task { s.counted with log := log } (.error (.refused .emptyTask))
  | unbuilt {agent : Agent} {e : BuildError} (resolved : s.registry.resolve ref = .ok (some agent))
    (given : task.isBlank = false)
    (built : Plan.build agent task around.source s.nextId around.clock = .error e) :
    Creation s around ref task s.counted (.error e.failure)
  | unstored {agent : Agent} {plan : Plan} {e : StoreError}
    (resolved : s.registry.resolve ref = .ok (some agent)) (given : task.isBlank = false)
    (built : Plan.build agent task around.source s.nextId around.clock = .ok plan)
    (stored : s.store.insert plan.draft = .error e) :
    Creation s around ref task s.counted (.error (.store e))
  /-- The plan is stored, but the log does not take the decision. -/
  | unlogged {agent : Agent} {plan : Plan} {store : Store} {e : Audit.LogError}
    (resolved : s.registry.resolve ref = .ok (some agent)) (given : task.isBlank = false)
    (built : Plan.build agent task around.source s.nextId around.clock = .ok plan)
    (stored : s.store.insert plan.draft = .ok store)
    (logged : s.log.append (acceptance s.nextId plan).record = .error e) :
    Creation s around ref task { s.counted with store := store } (.error (.log e))
  | made {agent : Agent} {plan : Plan} {store : Store} {log : Audit.Log}
    (resolved : s.registry.resolve ref = .ok (some agent)) (given : task.isBlank = false)
    (built : Plan.build agent task around.source s.nextId around.clock = .ok plan)
    (stored : s.store.insert plan.draft = .ok store)
    (logged : s.log.append (acceptance s.nextId plan).record = .ok log) :
    Creation s around ref task { s.counted with store := store, log := log } (.ok plan)

variable {s t : Service} {around : Surroundings} {ref : String} {result : Except Failure Plan}

theorem reject_creation (hr : s.registry.resolve ref = .ok (some agent))
    (hb : task.isBlank = true) :
    Creation s around ref task (s.counted.reject around agent s.nextId).1
      (s.counted.reject around agent s.nextId).2 := by
  unfold reject
  cases hclock : around.clock with
  | none => exact .blankUndated hr hb hclock
  | some now =>
    cases hlog : s.log.append (rejection now s.nextId agent.id).record with
    | error e =>
      simp only [record, counted, hlog]
      exact .blankUnlogged hr hb hclock hlog
    | ok log =>
      simp only [record, counted, hlog]
      exact .blank hr hb hclock hlog

theorem accept_creation (hr : s.registry.resolve ref = .ok (some agent))
    (hb : task.isBlank = false) :
    Creation s around ref task (s.counted.accept around agent task s.nextId).1
      (s.counted.accept around agent task s.nextId).2 := by
  unfold accept
  cases hbuild : Plan.build agent task around.source s.nextId around.clock with
  | error e => exact .unbuilt hr hb hbuild
  | ok plan =>
    cases hstore : s.store.insert plan.draft with
    | error e =>
      simp only [counted, hstore]
      exact .unstored hr hb hbuild hstore
    | ok store =>
      cases hlog : s.log.append (acceptance s.nextId plan).record with
      | error e =>
        simp only [record, counted, hstore, hlog]
        exact .unlogged hr hb hbuild hstore hlog
      | ok log =>
        simp only [record, counted, hstore, hlog]
        exact .made hr hb hbuild hstore hlog

theorem create_found (hr : s.registry.resolve ref = .ok (some agent)) :
    s.create around ref task =
      if task.isBlank then s.counted.reject around agent s.nextId
      else s.counted.accept around agent task s.nextId := by
  simp only [create, hr]
  rfl

/-- Every creation is one of the cases. -/
theorem create_creation (s : Service) (around : Surroundings) (ref : String) (task : Utf16) :
    Creation s around ref task (s.create around ref task).1 (s.create around ref task).2 := by
  cases hr : s.registry.resolve ref with
  | error f =>
    simp only [create, hr]
    exact .unnamed hr
  | ok found =>
    cases found with
    | none =>
      simp only [create, hr]
      exact .unknown hr
    | some agent =>
      rw [create_found hr]
      split
      · next hb => exact reject_creation hr hb
      · next hb => exact accept_creation hr (eq_false_of_ne_true hb)

theorem Creation.eq (h : Creation s around ref task t result) :
    s.create around ref task = (t, result) := by
  cases h with
  | unnamed resolved => simp only [create, resolved]
  | unknown resolved => simp only [create, resolved]
  | blankUndated resolved blank clock =>
    rw [create_found resolved, if_pos blank]
    simp only [reject, clock]
  | blankUnlogged resolved blank clock logged =>
    rw [create_found resolved, if_pos blank]
    simp only [reject, clock, record, counted, logged]
  | blank resolved blank clock logged =>
    rw [create_found resolved, if_pos blank]
    simp only [reject, clock, record, counted, logged]
  | unbuilt resolved given built =>
    rw [create_found resolved, given]
    simp [accept, built]
  | unstored resolved given built stored =>
    rw [create_found resolved, given]
    simp [accept, built, counted, stored]
  | unlogged resolved given built stored logged =>
    rw [create_found resolved, given]
    simp [accept, built, counted, stored, record, logged]
  | made resolved given built stored logged =>
    rw [create_found resolved, given]
    simp [accept, built, counted, stored, record, logged]

theorem create_unknown (h : s.registry.resolve ref = .ok none) :
    (s.create around ref task).2 = .error (.refused (.agentNotFound ref)) := by
  rw [(Creation.unknown h).eq]

-- ---------------------------------------------------------------------------
-- What becomes of the rows
-- ---------------------------------------------------------------------------

/-- The rows are kept and nothing is returned, or a plan that was built is stored; it is returned
unless the log does not take the decision. -/
theorem Creation.store (h : Creation s around ref task t result) :
    (t.store = s.store ∧ ∃ f, result = .error f) ∨
    ∃ agent plan, s.registry.resolve ref = .ok (some agent) ∧ task.isBlank = false ∧
      Plan.build agent task around.source s.nextId around.clock = .ok plan ∧
      s.store.insert plan.draft = .ok t.store ∧
      (result = .ok plan ∨ ∃ e, s.log.append (acceptance s.nextId plan).record = .error e ∧
        result = .error (.log e)) := by
  cases h with
  | made resolved given built stored logged =>
    exact .inr ⟨_, _, resolved, given, built, stored, .inl rfl⟩
  | unlogged resolved given built stored logged =>
    exact .inr ⟨_, _, resolved, given, built, stored, .inr ⟨_, logged, rfl⟩⟩
  | unnamed => exact .inl ⟨rfl, _, rfl⟩
  | unknown => exact .inl ⟨rfl, _, rfl⟩
  | blankUndated => exact .inl ⟨rfl, _, rfl⟩
  | blankUnlogged => exact .inl ⟨rfl, _, rfl⟩
  | blank => exact .inl ⟨rfl, _, rfl⟩
  | unbuilt => exact .inl ⟨rfl, _, rfl⟩
  | unstored => exact .inl ⟨rfl, _, rfl⟩

theorem create_ok (h : (s.create around ref task).2 = .ok p) :
    ∃ agent, s.registry.resolve ref = .ok (some agent) ∧ task.isBlank = false ∧
      Plan.build agent task around.source s.nextId around.clock = .ok p := by
  rcases (create_creation s around ref task).store with
    ⟨-, f, hf⟩ | ⟨agent, plan, hresolved, hgiven, hbuilt, -, hplan | ⟨e, -, he⟩⟩
  · cases h.symm.trans hf
  · obtain rfl := Except.ok.inj (h.symm.trans hplan)
    exact ⟨agent, hresolved, hgiven, hbuilt⟩
  · cases h.symm.trans he

-- ---------------------------------------------------------------------------
-- What stays
-- ---------------------------------------------------------------------------

theorem Creation.registry (h : Creation s around ref task t result) : t.registry = s.registry := by
  cases h <;> rfl

theorem Creation.maxListLimit (h : Creation s around ref task t result) :
    t.maxListLimit = s.maxListLimit := by
  cases h <;> rfl

theorem Creation.log (h : Creation s around ref task t result) :
    t.log = s.log ∨ ∃ r, s.log.append r = .ok t.log := by
  cases h with
  | blank resolved blank clock logged => exact .inr ⟨_, logged⟩
  | made resolved given built stored logged => exact .inr ⟨_, logged⟩
  | _ => exact .inl rfl

theorem step_registry {c : Call} : (s.step c).1.registry = s.registry := by
  rw [step]
  cases hasked : c.operation.creation? with
  | none => exact (perform_reading hasked).1
  | some asked =>
    obtain ⟨ref, task⟩ := asked
    rw [perform_asking hasked]
    exact (create_creation _ _ _ _).registry

theorem step_maxListLimit {c : Call} : (s.step c).1.maxListLimit = s.maxListLimit := by
  rw [step]
  cases hasked : c.operation.creation? with
  | none => exact (perform_reading hasked).2.2
  | some asked =>
    obtain ⟨ref, task⟩ := asked
    rw [perform_asking hasked]
    exact (create_creation _ _ _ _).maxListLimit

theorem run_registry {calls : List Call} : (s.run calls).1.registry = s.registry := by
  induction calls generalizing s with
  | nil => rfl
  | cons c calls ih => rw [run_cons, ih, step_registry]

theorem run_maxListLimit {calls : List Call} :
    (s.run calls).1.maxListLimit = s.maxListLimit := by
  induction calls generalizing s with
  | nil => rfl
  | cons c calls ih => rw [run_cons, ih, step_maxListLimit]

end Service

end AgentPlans
