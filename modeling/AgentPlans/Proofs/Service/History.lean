import AgentPlans.Proofs.Audit.Line
import AgentPlans.Proofs.Service.Answers
import AgentPlans.Proofs.Service.Creation
import AgentPlans.Proofs.Service.Trace
import AgentPlans.Proofs.Store.Table
import AgentPlans.Proofs.Time.DateText

/-!
# The log as the history of decisions

A call decides on a plan when it makes one, or when it turns down a blank task
of an agent that is known. `Writes` ties a call to the entries that it leaves in
the log, one or none, and `History` ties a run to the entries of its calls.
`log_is_history`: while the log can be written, agents have ids and the clock
shows instants, the log grows by the lines of the history and by nothing else.

The log cannot refuse such an entry: whatever instant the clock shows, the date
reader accepts its text.
-/

namespace AgentPlans

open Audit (Entry)

-- ---------------------------------------------------------------------------
-- Decisions
-- ---------------------------------------------------------------------------

/-- The entry says that the plan was made. -/
structure Audit.Entry.Accepts (e : Entry) (p : Plan) : Prop where
  event : e.event = .planCreated
  planId : p.planId = some e.planId
  agentId : e.agentId = p.agentId
  timestamp : e.timestamp = p.createdAt
  errorCode : e.errorCode = none
  message : ∃ rest, e.message = Text.decimal p.commands.length ++ " command(s)" ++ rest

structure Audit.Entry.Rejects (e : Entry) (agent : Agent) (planId : String) : Prop where
  event : e.event = .planRejected
  planId : e.planId = planId
  agentId : e.agentId = agent.id
  errorCode : e.errorCode = some "VALIDATION_ERROR"
  message : e.message = "task description is empty"

def Answer.FailsWith (status : Nat) : Answer → Prop
  | .created result => ∃ f, result = .error f ∧ f.status = status
  | .response r => r.status = status
  | _ => False

namespace Service

/-- What a call decides. -/
inductive Decides (s : Service) (c : Call) : List Entry → Prop
  | made {p : Plan} {e : Entry} (created : (s.step c).2.Creates p) (entry : e.Accepts p) :
    Decides s c [e]
  | blank {ref : String} {task : Utf16} {agent : Agent} {e : Entry}
    (asked : c.operation.creation? = some (ref, task))
    (resolved : s.registry.resolve ref = .ok (some agent)) (blank : task.isBlank = true)
    (failed : (s.step c).2.FailsWith 400)
    (entry : e.Rejects agent (s.handed c.unique).nextId) : Decides s c [e]
  /-- No plan was made, and no agent was asked to work on a blank task. -/
  | nothing (uncreated : ∀ p, ¬ (s.step c).2.Creates p)
    (given : ∀ ref task agent, c.operation.creation? = some (ref, task) →
      s.registry.resolve ref = .ok (some agent) → task.isBlank = false) : Decides s c []

/-- What a call leaves in the log. -/
structure Writes (s : Service) (c : Call) (entries : List Entry) : Prop where
  decides : Decides s c entries
  dated : ∀ e ∈ entries, ∃ now, c.around.clock = some now ∧ e.timestamp = now.iso
  appended : (s.step c).1.log.content = s.log.content ++ String.join (entries.map Entry.line)
  /-- The log refuses nothing. -/
  passes : ∀ e ∈ entries, e.record.withVersion.check = .ok ()
  taken : ∀ ref task e, c.operation.creation? = some (ref, task) →
    ((s.handed c.unique).create c.around ref task).2 ≠ .error (.log e)

abbrev History : Service → List Call → List Entry → Prop := Trace Writes

/-- Calls under which the log is a history: the clock shows an instant to those that ask for a plan,
and nothing else is put at the log's path. -/
structure Orderly (c : Call) : Prop where
  clock : c.operation.creation?.isSome = true → c.around.clock.isSome = true
  kept : ∀ place, c.operation ≠ .relocate place

variable {s t : Service} {around : Surroundings} {o : Operation} {c : Call} {p : Plan}
  {ref : String} {task : Utf16} {agent : Agent} {calls : List Call} {entries : List Entry}

-- ---------------------------------------------------------------------------
-- Answers
-- ---------------------------------------------------------------------------

theorem perform_reading_eq (h : o.creation? = none) (hkept : ∀ place, o ≠ .relocate place) :
    (s.perform around o).1 = s := by
  cases o with
  | create ref task => simp [Operation.creation?] at h
  | get id => rfl
  | list limit => rfl
  | agents => rfl
  | relocate place => exact absurd rfl (hkept place)
  | request r =>
    rw [perform_request]
    cases r with
    | createPlan ref body =>
      obtain ⟨e, htask⟩ := Operation.untasked h
      rw [respond_createPlan_untasked htask]
    | listAgents => rfl
    | showPlan id => rfl
    | listPlans limit =>
      simp only [respond]
      cases limitOf limit <;> rfl

theorem perform_fails {f : Failure} (h : o.creation? = some (ref, task))
    (hf : (s.create around ref task).2 = .error f) :
    (s.perform around o).2.FailsWith f.status := by
  rcases Operation.asking h with rfl | ⟨body, htask, rfl⟩
  · rw [perform_create]
    exact ⟨f, hf, rfl⟩
  · rw [perform_request, respond_createPlan htask, hf]
    rfl

-- ---------------------------------------------------------------------------
-- The service's own entries
-- ---------------------------------------------------------------------------

theorem iso_ne_empty (now : Time.Instant) : now.iso ≠ "" := by
  intro h
  have := congrArg String.toList h
  simp [Time.Instant.iso, Time.Instant.isoChars_eq, Time.monthDayChars] at this

theorem check_dated {e : Entry} {now : Time.Instant} (ht : e.timestamp = now.iso)
    (hp : e.planId ≠ "") (ha : e.agentId ≠ "") : e.record.withVersion.check = .ok () := by
  refine Entry.check_record ?_ ?_ hp ha
  · rw [ht, Time.Instant.ofText?_iso]
    rfl
  · rw [ht]
    exact iso_ne_empty now

theorem check_rejection (h : agent.id ≠ "") (now : Time.Instant) (unique : String) :
    (rejection now (Plan.idOf unique) agent.id).record.withVersion.check = .ok () :=
  check_dated rfl (Plan.idOf_ne_empty unique) h

theorem check_acceptance (h : agent.id ≠ "") {source : Source} {clock : Option Time.Instant}
    {unique : String} (hb : Plan.build agent task source (Plan.idOf unique) clock = .ok p) :
    (∃ now, clock = some now ∧ (acceptance (Plan.idOf unique) p).timestamp = now.iso) ∧
      (acceptance (Plan.idOf unique) p).record.withVersion.check = .ok () := by
  obtain ⟨now, hclock, hcreated⟩ := (Plan.build_ok hb).createdAt
  have hagent : (acceptance (Plan.idOf unique) p).agentId ≠ "" := by
    rwa [acceptance, (Plan.build_ok hb).agentId]
  exact ⟨⟨now, hclock, hcreated⟩, check_dated hcreated (Plan.idOf_ne_empty unique) hagent⟩

theorem create_blank {now : Time.Instant} (hr : s.registry.resolve ref = .ok (some agent))
    (ha : agent.id ≠ "") (hb : task.isBlank = true) (hopen : s.log.Open)
    (hclock : around.clock = some now) :
    (s.create around ref task).2 = .error (.refused .emptyTask) := by
  obtain ⟨after, hafter⟩ := hopen.append (check_rejection ha now s.ids.next.1)
  rw [(Creation.blank hr hb hclock hafter).eq]

/-- A plan that is built is made, as long as its id is new and the log takes lines. -/
theorem create_made (around : Surroundings) {rows : List Row}
    (hr : s.registry.resolve ref = .ok (some agent)) (ha : agent.id ≠ "")
    (hg : task.isBlank = false) (hs : s.store.table = some rows)
    (hnew : some s.nextId ∉ rows.map Row.planId) (hopen : s.log.Open)
    (hb : Plan.build agent task around.source s.nextId around.clock = .ok p) :
    ∃ log, s.create around ref task =
      ({ s.counted with store := ⟨some (rows ++ [p.row])⟩, log := log }, .ok p) := by
  have hstored := Store.insert_new hs (Plan.build_ok hb).planId hnew
  obtain ⟨log, hlog⟩ := hopen.append (check_acceptance ha hb).2
  exact ⟨log, (Creation.made hr hg hb hstored hlog).eq⟩

theorem rejection_rejects (now : Time.Instant) (planId : String) (agent : Agent) :
    (rejection now planId agent.id).Rejects agent planId :=
  ⟨rfl, rfl, rfl, rfl, rfl⟩

theorem commandsMessage_eq (commands : List Command) :
    ∃ rest, commandsMessage commands = Text.decimal commands.length ++ " command(s)" ++ rest := by
  have hwords : " command(s), timeout " = " command(s)" ++ ", timeout " := by rfl
  simp only [commandsMessage, hwords, String.append_assoc]
  exact ⟨_, rfl⟩

theorem acceptance_accepts {planId : String} (h : p.planId = some planId) :
    (acceptance planId p).Accepts p where
  event := rfl
  planId := h
  agentId := rfl
  timestamp := rfl
  errorCode := rfl
  message := commandsMessage_eq p.commands

-- ---------------------------------------------------------------------------
-- One call
-- ---------------------------------------------------------------------------

/-- The agents have ids, and the log can be written. -/
structure Ready (s : Service) : Prop where
  named : ∀ agent ∈ s.registry.agents, agent.id ≠ ""
  writable : s.log.Writable

theorem Ready.check_rejection (h : s.Ready) (hr : s.registry.resolve ref = .ok (some agent))
    (now : Time.Instant) (unique : String) :
    (rejection now (Plan.idOf unique) agent.id).record.withVersion.check = .ok () :=
  Service.check_rejection (h.named agent (Registry.resolve_mem hr)) now unique

theorem Ready.check_acceptance (h : s.Ready) (hr : s.registry.resolve ref = .ok (some agent))
    {source : Source} {clock : Option Time.Instant} {unique : String}
    (hb : Plan.build agent task source (Plan.idOf unique) clock = .ok p) :
    (∃ now, clock = some now ∧ (acceptance (Plan.idOf unique) p).timestamp = now.iso) ∧
      (acceptance (Plan.idOf unique) p).record.withVersion.check = .ok () :=
  Service.check_acceptance (h.named agent (Registry.resolve_mem hr)) hb

theorem writes_nothing {f : Failure} (hasked : c.operation.creation? = some (ref, task))
    (hcreate : (s.handed c.unique).create c.around ref task = (t, .error f))
    (hlog : t.log = s.log) (hf : ∀ e, f ≠ .log e)
    (hgiven : ∀ agent, s.registry.resolve ref = .ok (some agent) →
      task.isBlank = false) : Writes s c [] where
  decides := by
    refine .nothing ?_ ?_
    · intro p hp
      obtain ⟨ref', task', hasked', hmade⟩ := perform_creates.mp hp
      obtain ⟨rfl, rfl⟩ := Operation.asked_once hasked hasked'
      rw [hcreate] at hmade
      cases hmade
    · intro ref' task' agent hasked' hr
      obtain ⟨rfl, rfl⟩ := Operation.asked_once hasked hasked'
      exact hgiven agent hr
  dated := by simp
  appended := by
    rw [step, perform_asking hasked, hcreate, hlog]
    simp
  passes := by simp
  taken := by
    intro ref' task' e hasked'
    obtain ⟨rfl, rfl⟩ := Operation.asked_once hasked hasked'
    rw [hcreate]
    exact fun h => hf e (Except.error.inj h)

theorem writes_entry {result : Except Failure Plan} {e : Entry} {now : Time.Instant}
    (hs : s.log.Writable) (hasked : c.operation.creation? = some (ref, task))
    (hcreate : (s.handed c.unique).create c.around ref task = (t, result))
    (hlog : s.log.append e.record = .ok t.log) (hresult : ∀ e, result ≠ .error (.log e))
    (hclock : c.around.clock = some now) (hdated : e.timestamp = now.iso)
    (hcheck : e.record.withVersion.check = .ok ()) (hdecides : Decides s c [e]) :
    Writes s c [e] ∧ t.log.Writable := by
  obtain ⟨log, hlog', hwritable, hcontent⟩ := hs.append hcheck
  obtain rfl : log = t.log := Except.ok.inj (hlog'.symm.trans hlog)
  refine ⟨⟨hdecides, ?_, ?_, ?_, ?_⟩, hwritable⟩
  · intro e' he'
    rw [List.mem_singleton.mp he']
    exact ⟨now, hclock, hdated⟩
  · rw [step, perform_asking hasked, hcreate, hcontent]
    simp
  · intro e' he'
    rw [List.mem_singleton.mp he']
    exact hcheck
  · intro ref' task' e' hasked'
    obtain ⟨rfl, rfl⟩ := Operation.asked_once hasked hasked'
    rw [hcreate]
    exact hresult e'

theorem Creation.writes {result : Except Failure Plan}
    (h : Creation (s.handed c.unique) c.around ref task t result) (hs : s.Ready)
    (hc : c.around.clock.isSome = true) (hasked : c.operation.creation? = some (ref, task))
    (hcreate : (s.handed c.unique).create c.around ref task = (t, result)) :
    ∃ entries, Writes s c entries ∧ t.log.Writable := by
  cases h with
  | unnamed resolved =>
    refine ⟨[], writes_nothing hasked hcreate rfl (by simp) ?_, hs.writable⟩
    intro agent hr
    cases resolved.symm.trans hr
  | unknown resolved =>
    refine ⟨[], writes_nothing hasked hcreate rfl (by simp) ?_, hs.writable⟩
    intro agent hr
    cases resolved.symm.trans hr
  | blankUndated resolved blank clock => simp [clock] at hc
  | blankUnlogged resolved blank clock logged =>
    obtain ⟨log, hlog, _⟩ := hs.writable.append (hs.check_rejection resolved _ _)
    cases hlog.symm.trans logged
  | blank resolved blank clock logged =>
    refine ⟨_, writes_entry hs.writable hasked hcreate logged (by simp) clock rfl
      (hs.check_rejection resolved _ _) ?_⟩
    refine .blank hasked resolved blank ?_ (rejection_rejects _ _ _)
    exact perform_fails hasked (congrArg Prod.snd hcreate)
  | unbuilt resolved given built =>
    refine ⟨[], writes_nothing hasked hcreate rfl ?_ fun _ _ => given, hs.writable⟩
    intro e
    rename_i reason
    cases reason <;> simp [BuildError.failure]
  | unstored resolved given built stored =>
    exact ⟨[], writes_nothing hasked hcreate rfl (by simp) fun _ _ => given, hs.writable⟩
  | unlogged resolved given built stored logged =>
    obtain ⟨log, hlog, _⟩ := hs.writable.append (hs.check_acceptance resolved built).2
    cases hlog.symm.trans logged
  | made resolved given built stored logged =>
    obtain ⟨⟨now, hclock, hdated⟩, hcheck⟩ := hs.check_acceptance resolved built
    refine ⟨_, writes_entry hs.writable hasked hcreate logged (by simp) hclock hdated hcheck ?_⟩
    refine .made ?_ (acceptance_accepts (Plan.build_ok built).planId)
    exact perform_creates.mpr ⟨ref, task, hasked, congrArg Prod.snd hcreate⟩

theorem Decides.asked (h : Decides s c entries) {e : Entry} (he : e ∈ entries) :
    c.operation.creation?.isSome = true := by
  cases h with
  | made created entry =>
    obtain ⟨ref, task, hasked, -⟩ := perform_creates.mp created
    rw [hasked]
    rfl
  | blank asked resolved blank failed entry =>
    rw [asked]
    rfl
  | nothing => cases he

/-- Every call leaves at most one entry, and the log can be written afterwards. -/
theorem Ready.writes (hs : s.Ready) (hc : Orderly c) :
    ∃ entries, Writes s c entries ∧ (s.step c).1.Ready := by
  have hnamed : ∀ agent ∈ (s.step c).1.registry.agents, agent.id ≠ "" := by
    rw [step_registry]
    exact hs.named
  cases hasked : c.operation.creation? with
  | none =>
    have hkept : (s.step c).1 = s.handed c.unique := perform_reading_eq hasked hc.kept
    refine ⟨[], ⟨.nothing ?_ (by simp [hasked]), by simp, ?_, by simp, by simp [hasked]⟩,
      hnamed, ?_⟩
    · intro p hp
      obtain ⟨ref, task, hasked', _⟩ := perform_creates.mp hp
      cases hasked.symm.trans hasked'
    · rw [hkept]
      simp [handed]
    · rw [hkept]
      exact hs.writable
  | some asked =>
    obtain ⟨ref, task⟩ := asked
    have hcreation := create_creation (s.handed c.unique) c.around ref task
    have hafter : (s.step c).1 = ((s.handed c.unique).create c.around ref task).1 :=
      perform_asking hasked
    rw [hafter] at hnamed ⊢
    generalize hcreate : (s.handed c.unique).create c.around ref task = after at *
    obtain ⟨t, result⟩ := after
    have hclock := hc.clock (by rw [hasked]; rfl)
    obtain ⟨entries, hwrites, hwritable⟩ := hcreation.writes hs hclock hasked hcreate
    exact ⟨entries, hwrites, hnamed, hwritable⟩

-- ---------------------------------------------------------------------------
-- Whole runs
-- ---------------------------------------------------------------------------

theorem Ready.history (hs : s.Ready) (hc : ∀ c ∈ calls, Orderly c) :
    (∃ entries, History s calls entries) ∧ (s.run calls).1.Ready :=
  Trace.exists Ready (fun _ c hmem hready => hready.writes (hc c hmem)) hs

theorem step_log (hc : Orderly c) : (s.step c).1.log = s.log ∨
    (s.step c).1.log.place ≠ .nothing ∧ (s.step c).1.log.place ≠ .file "" := by
  rw [step]
  cases hasked : c.operation.creation? with
  | none =>
    rw [perform_reading_eq hasked hc.kept]
    exact .inl rfl
  | some asked =>
    obtain ⟨ref, task⟩ := asked
    rw [perform_asking hasked]
    rcases (create_creation (s.handed c.unique) c.around ref task).log with hkept | ⟨r, hlog⟩
    · exact .inl hkept
    · exact .inr (Audit.Log.place_of_append hlog)

/-- A log that no call has written is as it was; one that was written is there and not empty. -/
theorem run_log (hc : ∀ c ∈ calls, Orderly c) : (s.run calls).1.log = s.log ∨
    (s.run calls).1.log.place ≠ .nothing ∧ (s.run calls).1.log.place ≠ .file "" := by
  induction calls generalizing s with
  | nil => exact .inl rfl
  | cons c calls ih =>
    rw [run_cons]
    rcases ih (s := (s.step c).1) fun c' hc' => hc c' (List.mem_cons_of_mem _ hc') with
      hkept | hwritten
    · rw [hkept]
      exact step_log (hc c List.mem_cons_self)
    · exact .inr hwritten

theorem History.content (h : History s calls entries) :
    (s.run calls).1.log.content = s.log.content ++ String.join (entries.map Entry.line) := by
  induction h with
  | nil => simp [run]
  | cons first _ ih =>
    rw [run_cons, ih, first.appended]
    simp [String.append_assoc]

theorem History.passes (h : History s calls entries) :
    ∀ e ∈ entries, e.record.withVersion.check = .ok () :=
  h.forall_mem fun _ _ _ _ hwrites => hwrites.passes

/-- While agents have ids, the log can be written and the clock shows instants, the log grows by the
lines of the calls' decisions, in the order of the calls, and by nothing else. Every line is one
record that passed the check, with a line feed at its end and no other. -/
theorem log_is_history (s : Service) (calls : List Call)
    (named : ∀ agent ∈ s.registry.agents, agent.id ≠ "") (writable : s.log.Writable)
    (orderly : ∀ c ∈ calls, Orderly c) :
    ∃ entries, History s calls entries ∧
      (s.run calls).1.log.content = s.log.content ++ String.join (entries.map Entry.line) ∧
      ∀ e ∈ entries, e.record.withVersion.check = .ok () ∧ e.line = e.json.render ++ "\n" ∧
        '\n' ∉ e.json.render.toList ∧
        Json.parse e.json.render = some (.object (e.fields.map fun m => (m.1, .string m.2))) := by
  have hready : s.Ready := ⟨named, writable⟩
  obtain ⟨⟨entries, hhistory⟩, -⟩ := hready.history orderly
  refine ⟨entries, hhistory, hhistory.content, ?_⟩
  intro e he
  refine ⟨hhistory.passes e he, e.line_eq, e.newline_notMem_render, ?_⟩
  rw [← Entry.json_eq]
  exact e.parse_render_json

def dawn : Surroundings := ⟨some ⟨-8640000000000000, by decide⟩, fun _ => none⟩

def morning : List Call := [
  ⟨.create "amazon-q-cli" "fix\nit", dawn, none⟩,
  ⟨.request (.createPlan "Amazon Q CLI" (some (.object [("task_description", .string " ")]))), dawn,
    some "0"⟩,
  ⟨.create "nobody" "fix it", dawn, none⟩]

theorem log_is_history_morning :
    (∀ agent ∈ started.registry.agents, agent.id ≠ "") ∧ started.log.Writable ∧
      (∀ c ∈ morning, Orderly c) ∧
      ∃ entries, History started morning entries ∧
        (started.run morning).1.log.content =
          started.log.content ++ String.join (entries.map Entry.line) ∧
        ∀ e ∈ entries, e.record.withVersion.check = .ok () ∧ e.line = e.json.render ++ "\n" ∧
          '\n' ∉ e.json.render.toList ∧
          Json.parse e.json.render =
            some (.object (e.fields.map fun m => (m.1, .string m.2))) := by
  have hnamed : ∀ agent ∈ started.registry.agents, agent.id ≠ "" :=
    List.forall_mem_singleton.mpr (by decide)
  have horderly : ∀ c ∈ morning, Orderly c := by
    intro c hc
    simp only [morning, List.mem_cons, List.not_mem_nil, or_false] at hc
    rcases hc with rfl | rfl | rfl <;> exact ⟨fun _ => rfl, by simp⟩
  exact ⟨hnamed, .inl rfl, horderly,
    log_is_history started morning hnamed (.inl rfl) horderly⟩

end Service

end AgentPlans
