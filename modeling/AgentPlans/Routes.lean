import AgentPlans.Service

/-!
# Requests to the service

The four requests that the service answers, and the status and body of each answer. A refusal is the
client's mistake and has a status of its own; any other failure is answered with 500.
-/

namespace AgentPlans

inductive Request where
  | listAgents
  | createPlan (agentRef : String) (body : Option Json)
  | showPlan (planId : String)
  | listPlans (limit : Option Json)

structure Response where
  status : Nat
  body : Json

namespace Failure

def status : Failure → Nat
  | .refused reason => reason.status
  | _ => 500

def code : Failure → String
  | .refused reason => reason.code
  | _ => "UNKNOWN"

def response (e : Failure) : Response :=
  ⟨e.status, .object [("error", .string e.message), ("error_code", .string e.code)]⟩

end Failure

namespace Service

def agentsBody (agents : List AgentSummary) : Json :=
  .object [("agents", .array (agents.map AgentSummary.toJson))]

def planBody (plan : Plan) : Json := .object [("plan", plan.toJson)]

def plansBody (plans : List Plan) : Json :=
  .object [("plans", .array (plans.map Plan.toJson))]

def answer {α : Type} (status : Nat) (body : α → Json) : Except Failure α → Response
  | .ok a => ⟨status, body a⟩
  | .error e => e.response

def taskOf (body : Option Json) : Except Failure Utf16 :=
  match body.bind (·.get? "task_description") with
  | none => .error (.refused .taskMissing)
  | some (.string task) => .ok task
  | some _ => .error (.refused .taskNotText)

/-- The text of a limit; an absent or null one stands for the default. -/
def limitText : Option Json → Except Failure String
  | none | some .null => .ok "20"
  | some v =>
    match v.phraseText? with
    | some text => .ok text
    | none => .error .noPhrase

def limitOf (limit : Option Json) : Except Failure Number := do
  let text ← limitText limit
  let n := Number.ofText text
  if Text.isBlankText text || !n.isFinite then .error (.refused .limitNotNumber) else .ok n

def respond (s : Service) (around : Surroundings) : Request → Service × Response
  | .listAgents => (s, answer 200 agentsBody s.agents)
  | .createPlan ref body =>
    match taskOf body with
    | .error e => (s, e.response)
    | .ok task =>
      let (s, result) := s.create around ref task
      (s, answer 201 planBody result)
  | .showPlan id => (s, answer 200 planBody (s.get id))
  | .listPlans limit =>
    match limitOf limit with
    | .error e => (s, e.response)
    | .ok n => (s, answer 200 plansBody (s.list n))

end Service

end AgentPlans
