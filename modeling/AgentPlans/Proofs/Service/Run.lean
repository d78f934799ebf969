import AgentPlans.Routes

/-!
# Runs of the service

A call asks the service for one thing: a plan to be made, found or listed, the
agents, or the answer to a request. What the clock shows, where variables are
looked up and which unique text is handed out belongs to the call. Between calls
something else may put another thing at the log's path; that is a call too, one
that gets no answer.

A run makes its calls one after another, each in the state that the one before
it left, whether that one succeeded or not.
-/

namespace AgentPlans

inductive Operation where
  | create (ref : String) (task : Utf16)
  | get (id : String)
  | list (limit : Option Number)
  | agents
  | request (request : Request)
  /-- From now on this stands at the log's path. -/
  | relocate (place : Audit.Place)

structure Call where
  operation : Operation
  around : Surroundings
  /-- The unique text handed out during the call, if it is not a numbered one. -/
  unique : Option String

inductive Answer where
  | created (result : Except Failure Plan)
  | found (result : Except Failure Plan)
  | listed (result : Except Failure (List Plan))
  | agents (result : Except Failure (List AgentSummary))
  | response (response : Response)
  | nothing

/-- The agent and the task that an operation asks a plan for. -/
def Operation.creation? : Operation → Option (String × Utf16)
  | .create ref task => some (ref, task)
  | .request (.createPlan ref body) => (Service.taskOf body).toOption.map fun task => (ref, task)
  | _ => none

namespace Operation

theorem asking {o : Operation} {ref : String} {task : Utf16} (h : o.creation? = some (ref, task)) :
    o = .create ref task ∨
      ∃ body, Service.taskOf body = .ok task ∧ o = .request (.createPlan ref body) := by
  cases o with
  | create ref' task' =>
    obtain ⟨rfl, rfl⟩ : ref' = ref ∧ task' = task := by simpa [creation?] using h
    exact .inl rfl
  | request r =>
    cases r with
    | createPlan ref' body =>
      cases htask : Service.taskOf body with
      | error e => simp [creation?, htask, Except.toOption] at h
      | ok task' =>
        obtain ⟨rfl, rfl⟩ : ref' = ref ∧ task' = task := by
          simpa [creation?, htask, Except.toOption] using h
        exact .inr ⟨body, htask, rfl⟩
    | _ => simp [creation?] at h
  | _ => simp [creation?] at h

theorem asked_once {o : Operation} {ref ref' : String} {task task' : Utf16}
    (h : o.creation? = some (ref, task)) (h' : o.creation? = some (ref', task')) :
    ref = ref' ∧ task = task' := by
  simpa using h.symm.trans h'

theorem creation?_createPlan {ref : String} {task : Utf16} {body : Option Json}
    (h : Service.taskOf body = .ok task) :
    creation? (.request (.createPlan ref body)) = some (ref, task) := by
  simp [creation?, h, Except.toOption]

theorem untasked {ref : String} {body : Option Json}
    (h : creation? (.request (.createPlan ref body)) = none) :
    ∃ e, Service.taskOf body = .error e := by
  cases htask : Service.taskOf body with
  | error e => exact ⟨e, rfl⟩
  | ok task => simp [creation?_createPlan htask] at h

end Operation

namespace Call

def under (c : Call) (source : Source) : Call :=
  { c with around := { c.around with source := source } }

def task? (c : Call) : Option Utf16 := c.operation.creation?.map Prod.snd

end Call

namespace Service

def perform (s : Service) (around : Surroundings) : Operation → Service × Answer
  | .create ref task =>
    let (s, result) := s.create around ref task
    (s, .created result)
  | .get id => (s, .found (s.get id))
  | .list limit => (s, .listed (s.list (limit.getD defaultListLimit)))
  | .agents => (s, .agents s.agents)
  | .request request =>
    let (s, response) := s.respond around request
    (s, .response response)
  | .relocate place => ({ s with log := { s.log with place := place } }, .nothing)

def handed (s : Service) (unique : Option String) : Service :=
  { s with ids := { s.ids with given := unique } }

def step (s : Service) (c : Call) : Service × Answer :=
  (s.handed c.unique).perform c.around c.operation

def run (s : Service) : List Call → Service × List Answer
  | [] => (s, [])
  | c :: calls =>
    let (s, answer) := s.step c
    let (s, answers) := s.run calls
    (s, answer :: answers)

def start (root : String) (log : Audit.Log) (maxListLimit : Number) (ids : IdSupply) : Service :=
  ⟨Registry.default root, Store.empty.initialise, log, maxListLimit, ids⟩

def opened (log : Audit.Log) : Service := start "/srv" log 100 ⟨0, none⟩

def started : Service := opened ⟨"/srv/audit.jsonl", .nothing⟩

variable {s : Service} {around : Surroundings} {c : Call} {calls more : List Call}

-- ---------------------------------------------------------------------------
-- One call
-- ---------------------------------------------------------------------------

theorem perform_create (ref : String) (task : Utf16) : s.perform around (.create ref task) =
    ((s.create around ref task).1, .created (s.create around ref task).2) := by
  simp only [perform]

theorem perform_request (r : Request) : s.perform around (.request r) =
    ((s.respond around r).1, .response (s.respond around r).2) := by
  simp only [perform]

theorem respond_createPlan {ref : String} {task : Utf16} {body : Option Json}
    (h : taskOf body = .ok task) : s.respond around (.createPlan ref body) =
      ((s.create around ref task).1, answer 201 planBody (s.create around ref task).2) := by
  simp only [respond, h]

theorem respond_createPlan_untasked {ref : String} {body : Option Json} {e : Failure}
    (h : taskOf body = .error e) : s.respond around (.createPlan ref body) = (s, e.response) := by
  simp only [respond, h]

theorem perform_asking {o : Operation} {ref : String} {task : Utf16}
    (h : o.creation? = some (ref, task)) :
    (s.perform around o).1 = (s.create around ref task).1 := by
  rcases Operation.asking h with rfl | ⟨body, htask, rfl⟩
  · rw [perform_create]
  · rw [perform_request, respond_createPlan htask]

theorem perform_asking_congr {t : Service} {o : Operation} {ref : String} {task : Utf16}
    (ho : o.creation? = some (ref, task))
    (h : (t.create around ref task).2 = (s.create around ref task).2) :
    (t.perform around o).2 = (s.perform around o).2 := by
  rcases Operation.asking ho with rfl | ⟨body, htask, rfl⟩
  · rw [perform_create, perform_create, h]
  · rw [perform_request, perform_request, respond_createPlan htask, respond_createPlan htask, h]

/-- An operation that asks for no plan changes nothing that is registered or stored, and not the
limit. -/
theorem perform_reading {o : Operation} (h : o.creation? = none) :
    (s.perform around o).1.registry = s.registry ∧ (s.perform around o).1.store = s.store ∧
      (s.perform around o).1.maxListLimit = s.maxListLimit := by
  cases o with
  | create ref task => simp [Operation.creation?] at h
  | request r =>
    rw [perform_request]
    cases r with
    | createPlan ref body =>
      obtain ⟨e, htask⟩ := Operation.untasked h
      rw [respond_createPlan_untasked htask]
      exact ⟨rfl, rfl, rfl⟩
    | listPlans limit =>
      simp only [respond]
      split <;> exact ⟨rfl, rfl, rfl⟩
    | listAgents => exact ⟨rfl, rfl, rfl⟩
    | showPlan id => exact ⟨rfl, rfl, rfl⟩
  | get id => exact ⟨rfl, rfl, rfl⟩
  | list limit => exact ⟨rfl, rfl, rfl⟩
  | agents => exact ⟨rfl, rfl, rfl⟩
  | relocate place => exact ⟨rfl, rfl, rfl⟩

theorem perform_reading_congr {t : Service} {around' : Surroundings} {o : Operation}
    (h : o.creation? = none) (hr : t.registry = s.registry) (hs : t.store = s.store)
    (hm : t.maxListLimit = s.maxListLimit) :
    (t.perform around o).2 = (s.perform around' o).2 := by
  have hagents : t.agents = s.agents := by rw [agents, agents, hr]
  have hget : ∀ id, t.get id = s.get id := by
    intro id
    rw [get, get, find?, find?, hs]
  have hlist : ∀ limit, t.list limit = s.list limit := by
    intro limit
    rw [list, list, recent, recent, safeLimit, safeLimit, hs, hm]
  cases o with
  | create ref task => simp [Operation.creation?] at h
  | get id => exact congrArg Answer.found (hget id)
  | list limit => exact congrArg Answer.listed (hlist _)
  | agents => exact congrArg Answer.agents hagents
  | relocate place => rfl
  | request r =>
    rw [perform_request, perform_request]
    cases r with
    | createPlan ref body =>
      obtain ⟨e, htask⟩ := Operation.untasked h
      rw [respond_createPlan_untasked htask, respond_createPlan_untasked htask]
    | listAgents => simp only [respond, hagents]
    | showPlan id => simp only [respond, hget]
    | listPlans limit =>
      simp only [respond]
      cases limitOf limit with
      | error e => rfl
      | ok n => simp only [hlist]

-- ---------------------------------------------------------------------------
-- Calls in a row
-- ---------------------------------------------------------------------------

theorem run_cons : s.run (c :: calls) =
    (((s.step c).1.run calls).1, (s.step c).2 :: ((s.step c).1.run calls).2) := rfl

theorem run_append : s.run (calls ++ more) =
    (((s.run calls).1.run more).1, (s.run calls).2 ++ ((s.run calls).1.run more).2) := by
  induction calls generalizing s with
  | nil => rfl
  | cons c calls ih => rw [List.cons_append, run_cons, ih, run_cons, List.cons_append]

theorem run_snoc : s.run (calls ++ [c]) =
    (((s.run calls).1.step c).1, (s.run calls).2 ++ [((s.run calls).1.step c).2]) := run_append

end Service

end AgentPlans
