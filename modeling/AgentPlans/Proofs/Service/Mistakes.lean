import AgentPlans.Proofs.Audit.Line
import AgentPlans.Proofs.Registry
import AgentPlans.Proofs.Service.Atomicity
import AgentPlans.Proofs.Service.History

/-!
# Requests that are turned down

What is wrong with a request for a plan is looked for in a fixed order: the task
is missing, it is not a text, the agent is not known, the task is blank.
`mistakes_answered`: the first of these that applies is what the answer says,
whatever was stored or logged before. Only the answer to a blank task depends on
more than the request, because the decision is logged first: where the log
cannot be written, or the clock shows no instant to log it at, that failure is
answered instead (`mistakes_answered_unlogged`).
-/

namespace AgentPlans

namespace Service

variable {s t : Service} {around : Surroundings} {ref : String} {task : Utf16} {body : Option Json}
  {agent : Agent} {f : Failure} {now : Time.Instant} {v : Json}

-- ---------------------------------------------------------------------------
-- Failures
-- ---------------------------------------------------------------------------

def Internal (f : Failure) : Prop := f.status = 500 ∧ f.code = "UNKNOWN"

theorem Internal.response (h : Internal f) :
    ∃ message, f.response = ⟨500, errorBody message "UNKNOWN"⟩ :=
  ⟨f.message, by rw [failure_response, h.1, h.2]⟩

theorem Creation.internal (h : Creation s around ref task t (.error f))
    (hknown : s.registry.resolve ref ≠ .ok none) (hgiven : task.isBlank = false) :
    Internal f := by
  cases h with
  | unnamed => exact ⟨rfl, rfl⟩
  | unknown resolved => exact absurd resolved hknown
  | blankUndated _ blank => cases hgiven.symm.trans blank
  | blankUnlogged _ blank => cases hgiven.symm.trans blank
  | blank _ blank => cases hgiven.symm.trans blank
  | @unbuilt _ e => cases e <;> exact ⟨rfl, rfl⟩
  | unstored => exact ⟨rfl, rfl⟩
  | unlogged => exact ⟨rfl, rfl⟩

-- ---------------------------------------------------------------------------
-- Tasks
-- ---------------------------------------------------------------------------

theorem taskOf_untold (h : body.bind (·.get? "task_description") = none) :
    taskOf body = .error (.refused .taskMissing) := by
  simp only [taskOf, h]

theorem taskOf_text (h : body.bind (·.get? "task_description") = some (.string task)) :
    taskOf body = .ok task := by
  simp only [taskOf, h]

theorem taskOf_other (h : body.bind (·.get? "task_description") = some v)
    (hv : ∀ task, v ≠ .string task) : taskOf body = .error (.refused .taskNotText) := by
  cases v with
  | string task => exact absurd rfl (hv task)
  | _ => simp only [taskOf, h]

-- ---------------------------------------------------------------------------
-- Blank tasks
-- ---------------------------------------------------------------------------

theorem create_blank_unlogged (hr : s.registry.resolve ref = .ok (some agent))
    (hb : task.isBlank = true) (h : ¬ (s.log.Open ∧ around.clock.isSome = true)) :
    ∃ f, (s.create around ref task).2 = .error f ∧ Internal f := by
  cases hclock : around.clock with
  | none => exact ⟨.noInstant, by rw [(Creation.blankUndated hr hb hclock).eq], rfl, rfl⟩
  | some now =>
    have hshut : ¬ s.log.Open := fun hopen => h ⟨hopen, by rw [hclock]; rfl⟩
    obtain ⟨e, he⟩ := Audit.Log.append_of_not_open hshut (rejection now s.nextId agent.id).record
    exact ⟨.log e, by rw [(Creation.blankUnlogged hr hb hclock he).eq], rfl, rfl⟩

-- ---------------------------------------------------------------------------
-- Answers
-- ---------------------------------------------------------------------------

def told (body : Option Json) : Option Json := body.bind (·.get? "task_description")

theorem respond_untold (h : told body = none) :
    (s.respond around (.createPlan ref body)).2 =
      ⟨400, errorBody "task_description is required" "VALIDATION_ERROR"⟩ := by
  rw [respond_createPlan_untasked (taskOf_untold h)]
  rfl

theorem respond_other (h : told body = some v) (hv : ∀ task, v ≠ .string task) :
    (s.respond around (.createPlan ref body)).2 =
      ⟨400, errorBody "task_description must be a string" "VALIDATION_ERROR"⟩ := by
  rw [respond_createPlan_untasked (taskOf_other h hv)]
  rfl

theorem respond_unknown (h : told body = some (.string task))
    (hr : s.registry.resolve ref = .ok none) :
    (s.respond around (.createPlan ref body)).2 =
      ⟨404, errorBody ("Agent not found: " ++ ref) "AGENT_NOT_FOUND"⟩ := by
  rw [respond_createPlan (taskOf_text h), create_unknown hr]
  rfl

theorem respond_blank (h : told body = some (.string task))
    (hr : s.registry.resolve ref = .ok (some agent)) (ha : agent.id ≠ "")
    (hb : task.isBlank = true) (hopen : s.log.Open) (hclock : around.clock.isSome = true) :
    (s.respond around (.createPlan ref body)).2 =
      ⟨400, errorBody "task_description must not be empty" "VALIDATION_ERROR"⟩ := by
  obtain ⟨now, hnow⟩ := Option.isSome_iff_exists.mp hclock
  rw [respond_createPlan (taskOf_text h), create_blank hr ha hb hopen hnow]
  rfl

theorem respond_blank_unlogged (h : told body = some (.string task))
    (hr : s.registry.resolve ref = .ok (some agent)) (hb : task.isBlank = true)
    (hshut : ¬ (s.log.Open ∧ around.clock.isSome = true)) :
    ∃ message, (s.respond around (.createPlan ref body)).2 =
      ⟨500, errorBody message "UNKNOWN"⟩ := by
  obtain ⟨f, hf, hinternal⟩ := create_blank_unlogged hr hb hshut
  rw [respond_createPlan (taskOf_text h), hf]
  exact hinternal.response

/-- A request without a mistake is answered with a plan, or with a failure that is nobody's mistake. -/
theorem respond_given (h : told body = some (.string task))
    (hr : s.registry.resolve ref ≠ .ok none) (hb : task.isBlank = false) :
    (∃ p, (s.respond around (.createPlan ref body)).2 = ⟨201, planBody p⟩) ∨
      ∃ message, (s.respond around (.createPlan ref body)).2 =
        ⟨500, errorBody message "UNKNOWN"⟩ := by
  rw [respond_createPlan (taskOf_text h)]
  have hcreation := create_creation s around ref task
  cases hresult : (s.create around ref task).2 with
  | ok p => exact .inl ⟨p, rfl⟩
  | error f =>
    rw [hresult] at hcreation
    exact .inr (hcreation.internal hr hb).response

def Loggable (s : Service) (around : Surroundings) : Prop :=
  s.log.Open ∧ around.clock.isSome = true

/-- With the registry that a program starts with, in every state that a run leads to, a request for a
plan is turned down with what is wrong with it. An internal error is answered only where nothing is
wrong, or where a blank task cannot be logged. -/
theorem mistakes_answered (root : String) (store : Store) (log : Audit.Log) (maxListLimit : Number)
    (ids : IdSupply) (calls : List Call) (around : Surroundings) (ref : String)
    (body : Option Json) :
    let start : Service := ⟨Registry.default root, store, log, maxListLimit, ids⟩
    let s := (start.run calls).1
    let reply := (s.respond around (.createPlan ref body)).2
    (told body = none →
      reply = ⟨400, errorBody "task_description is required" "VALIDATION_ERROR"⟩) ∧
    (∀ v, told body = some v → (∀ task, v ≠ .string task) →
      reply = ⟨400, errorBody "task_description must be a string" "VALIDATION_ERROR"⟩) ∧
    (∀ task, told body = some (.string task) →
      (s.registry.resolve ref = .ok none →
        reply = ⟨404, errorBody ("Agent not found: " ++ ref) "AGENT_NOT_FOUND"⟩) ∧
      (s.registry.resolve ref ≠ .ok none →
        (Text.trim task.repaired = "" → s.Loggable around →
          reply = ⟨400, errorBody "task_description must not be empty" "VALIDATION_ERROR"⟩) ∧
        (Text.trim task.repaired = "" → ¬ s.Loggable around →
          ∃ message, reply = ⟨500, errorBody message "UNKNOWN"⟩) ∧
        (Text.trim task.repaired ≠ "" → (∃ p, reply = ⟨201, planBody p⟩) ∨
          ∃ message, reply = ⟨500, errorBody message "UNKNOWN"⟩))) ∧
    (reply.status = 500 → ∃ task, told body = some (.string task) ∧
      s.registry.resolve ref ≠ .ok none ∧
        (Text.trim task.repaired = "" → ¬ s.Loggable around)) := by
  intro start s reply
  have hregistry : s.registry = Registry.default root := run_registry
  have hresolve : s.registry.resolve ref ≠ .ok none →
      s.registry.resolve ref = .ok (some (Agent.amazonQ root)) := by
    rw [hregistry, Registry.resolve_default]
    split
    · exact fun _ => rfl
    · exact fun h => absurd rfl h
  refine ⟨respond_untold, fun v => respond_other, fun task htask =>
    ⟨respond_unknown htask, fun hknown => ⟨?_, ?_, ?_⟩⟩, ?_⟩
  · rintro hblank ⟨hopen, hclock⟩
    exact respond_blank htask (hresolve hknown) (Agent.amazonQ_id_ne_empty root)
      (Utf16.isBlank_iff.mpr hblank) hopen hclock
  · intro hblank hshut
    exact respond_blank_unlogged htask (hresolve hknown) (Utf16.isBlank_iff.mpr hblank)
      hshut
  · intro hgiven
    rw [Ne, ← Utf16.isBlank_iff, Bool.not_eq_true] at hgiven
    exact respond_given htask hknown hgiven
  · intro hstatus
    obtain ⟨task, htask⟩ : ∃ task, told body = some (.string task) := by
      cases htold : told body with
      | none => simp [reply, respond_untold htold] at hstatus
      | some v =>
        by_contra hnone
        have hother : ∀ task, v ≠ .string task := by
          rintro task rfl
          exact hnone ⟨task, rfl⟩
        simp [reply, respond_other htold hother] at hstatus
    have hknown : s.registry.resolve ref ≠ .ok none := by
      intro hunknown
      simp [reply, respond_unknown htask hunknown] at hstatus
    refine ⟨task, htask, hknown, ?_⟩
    rintro hblank ⟨hopen, hclock⟩
    simp [reply, respond_blank htask (hresolve hknown) (Agent.amazonQ_id_ne_empty root)
      (Utf16.isBlank_iff.mpr hblank) hopen hclock] at hstatus

/-- A blank task, and a directory at the log's path. -/
theorem mistakes_answered_unlogged :
    let body := Json.object [("task_description", .string " ")]
    told (some body) = some (.string " ") ∧ Text.trim " " = "" ∧
      shut.registry.resolve "amazon-q-cli" = .ok (some (Agent.amazonQ "/srv")) ∧
      (shut.respond newYear (.createPlan "amazon-q-cli" (some body))).2 =
        ⟨500, errorBody "EISDIR: illegal operation on a directory, open '/var/audit'" "UNKNOWN"⟩ := by
  intro body
  have htold : told (some body) = some (.string " ") := rfl
  have hr : shut.registry.resolve "amazon-q-cli" = .ok (some (Agent.amazonQ "/srv")) := by rfl
  have hcheck : (rejection ⟨1767225600000, by decide⟩ shut.nextId
      (Agent.amazonQ "/srv").id).record.withVersion.check = .ok () :=
    check_rejection (Agent.amazonQ_id_ne_empty "/srv") _ _
  have hlog : shut.log.append (rejection ⟨1767225600000, by decide⟩ shut.nextId
      (Agent.amazonQ "/srv").id).record = .error (.file (.isDirectory "/var/audit")) := by
    rw [Audit.Log.append_record hcheck]
    rfl
  have hcreation : Creation shut newYear "amazon-q-cli" " " shut.counted
      (.error (.log (.file (.isDirectory "/var/audit")))) := .blankUnlogged hr rfl rfl hlog
  refine ⟨htold, rfl, hr, ?_⟩
  rw [respond_createPlan (taskOf_text htold), hcreation.eq]
  rfl

end Service

end AgentPlans
