import AgentPlans.Failure
import AgentPlans.Registry

/-!
# The plan service

Plans are made for registered agents, kept in a store, and every decision on one is written to the
audit log. A plan is stored before its decision is logged: if the log cannot be written, the call
fails and the plan stays. Whatever happens, the service goes on from the state that the call left.
-/

namespace AgentPlans

structure Service where
  registry : Registry
  store : Store
  log : Audit.Log
  maxListLimit : Number
  ids : IdSupply

/-- What a call finds around it: what the clock shows, if that is an instant, and where variables
are looked up. -/
structure Surroundings where
  clock : Option Time.Instant
  source : Source

namespace Service

def defaultListLimit : Number := 20

def rejection (now : Time.Instant) (planId agentId : String) : Audit.Entry where
  timestamp := now.iso
  planId := planId
  agentId := agentId
  event := .planRejected
  errorCode := some "VALIDATION_ERROR"
  message := "task description is empty"

def commandsMessage (commands : List Command) : String :=
  let timeout : Number := match commands with
    | c :: _ => c.maxTimeoutSec
    | [] => 0
  Text.decimal commands.length ++ " command(s), timeout " ++ timeout.text ++ "s"

def acceptance (planId : String) (plan : Plan) : Audit.Entry where
  timestamp := plan.createdAt
  planId := planId
  agentId := plan.agentId
  event := .planCreated
  errorCode := none
  message := commandsMessage plan.commands

def record (s : Service) (entry : Audit.Entry) : Service × Except Failure Unit :=
  match s.log.append entry.record with
  | .error e => (s, .error (.log e))
  | .ok log => ({ s with log := log }, .ok ())

def reject (s : Service) (around : Surroundings) (agent : Agent) (planId : String) :
    Service × Except Failure Plan :=
  match around.clock with
  | none => (s, .error .noInstant)
  | some now =>
    match s.record (rejection now planId agent.id) with
    | (s, .error e) => (s, .error e)
    | (s, .ok ()) => (s, .error (.refused .emptyTask))

def accept (s : Service) (around : Surroundings) (agent : Agent) (task : Utf16) (planId : String) :
    Service × Except Failure Plan :=
  match Plan.build agent task around.source planId around.clock with
  | .error e => (s, .error e.failure)
  | .ok plan =>
    match s.store.insert plan.draft with
    | .error e => (s, .error (.store e))
    | .ok store =>
      match { s with store := store }.record (acceptance planId plan) with
      | (s, .error e) => (s, .error e)
      | (s, .ok ()) => (s, .ok plan)

def create (s : Service) (around : Surroundings) (ref : String) (task : Utf16) :
    Service × Except Failure Plan :=
  match s.registry.resolve ref with
  | .error f => (s, .error (.fault f))
  | .ok none => (s, .error (.refused (.agentNotFound ref)))
  | .ok (some agent) =>
    let (unique, ids) := s.ids.next
    let s := { s with ids := ids }
    if task.isBlank then s.reject around agent (Plan.idOf unique)
    else s.accept around agent task (Plan.idOf unique)

def readRow (row : Row) : Except Failure Plan :=
  match row.plan with
  | .ok plan => .ok plan
  | .error e => .error (.row e)

def find? (s : Service) (id : String) : Except Failure (Option Plan) :=
  match s.store.fetch id with
  | .error e => .error (.store e)
  | .ok none => .ok none
  | .ok (some row) => some <$> readRow row

def get (s : Service) (id : String) : Except Failure Plan := do
  match ← s.find? id with
  | some plan => .ok plan
  | none => .error (.refused (.planNotFound id))

def recent (s : Service) (limit : Number) : Except Failure (List Plan) :=
  match s.store.recent limit with
  | .error e => .error (.store e)
  | .ok rows => rows.mapM readRow

/-- A limit is rounded down and kept between one and the service's own limit. -/
def safeLimit (s : Service) (limit : Number) : Number :=
  Number.max 1 (Number.min s.maxListLimit limit.floor)

def list (s : Service) (limit : Number) : Except Failure (List Plan) :=
  s.recent (s.safeLimit limit)

def agents (s : Service) : Except Failure (List AgentSummary) :=
  match s.registry.list with
  | .ok agents => .ok agents
  | .error f => .error (.fault f)

end Service

end AgentPlans
