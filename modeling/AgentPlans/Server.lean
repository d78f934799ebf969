import AgentPlans.Config
import AgentPlans.Health
import AgentPlans.Http.Body
import AgentPlans.Http.EntityTag
import AgentPlans.Query
import AgentPlans.Routes
import AgentPlans.Workspace

/-!
# The server

The server reads its configuration, opens and initialises its store, makes sure that the default
agent is known, and answers requests. Paths match without regard to case and with an optional slash
at the end; a parameter is one step of the path with its escapes undone. A path that matches but
does not allow the method is not found, except that `HEAD` is answered like `GET` without a body,
and `OPTIONS` is answered on every path that matches.
-/

namespace AgentPlans

inductive Location where
  | health
  | healthDetails
  | agents
  | agentPlans (agentRef : String)
  | plan (planId : String)
  | plans

inductive LocationError where
  | unknown
  | badEscape

namespace Location

def isWord (word : String) (step : List Char) : Bool :=
  step.map Char.toLower == word.toList

def parameter (step : List Char) (location : String → Location) : Except LocationError Location :=
  if step = [] then .error .unknown
  else
    match Text.percentDecode? step with
    | some cs => .ok (location (String.ofList cs))
    | none => .error .badEscape

def ofServiceSteps : List (List Char) → Except LocationError Location
  | [[], a] | [[], a, []] =>
    if isWord "agents" a then .ok .agents
    else if isWord "plans" a then .ok .plans
    else .error .unknown
  | [[], a, b] | [[], a, b, []] =>
    if isWord "plans" a then parameter b .plan else .error .unknown
  | [[], a, b, c] | [[], a, b, c, []] =>
    if isWord "agents" a && isWord "plans" c then parameter b .agentPlans else .error .unknown
  | _ => .error .unknown

/-- What stands below the service's own path. It is read like a target by itself, without the path
in front of it; an empty step that comes first is taken for the slash at the end of that path. -/
def ofServiceTarget (target : List Char) (rest : List (List Char)) :
    Except LocationError Location :=
  let length := if rest.head? = some [] then 8 else 7
  match Http.Target.read? (Http.Target.below target length) with
  | none => .error .unknown
  | some inner => ofServiceSteps (Text.split '/' inner.path)

def ofPath (target path : List Char) : Except LocationError Location :=
  match Text.split '/' path with
  | [[], a] | [[], a, []] => if isWord "healthz" a then .ok .health else .error .unknown
  | [] :: a :: b :: rest =>
    if isWord "api" a && isWord "v1" b then
      match rest with
      | [c, d] | [c, d, []] =>
        if isWord "health" c && isWord "details" d then .ok .healthDetails
        else ofServiceTarget target rest
      | _ => ofServiceTarget target rest
    else .error .unknown
  | _ => .error .unknown

def method : Location → String
  | .agentPlans _ => "POST"
  | _ => "GET"

end Location

structure Server where
  config : Config
  service : Service
  runtimeVersion : String

namespace Server

/-- What the server says about itself, if the clock shows an instant and every agent has a name. -/
def report? (s : Server) (clock : Option Time.Instant) : Option Json := do
  let agents ← s.service.agents.toOption
  let now ← clock
  return Health.toJson ⟨s.runtimeVersion, now, agents, s.config.defaultAgent⟩

/-- Answers a request at a place that allows its method; `none` if that fails. -/
def respondAt (s : Server) (around : Surroundings) (location : Location) (query body : Json) :
    Server × Option Response :=
  let ask (request : Request) : Server × Option Response :=
    let (service, response) := s.service.respond around request
    ({ s with service := service }, some response)
  match location with
  | .health => (s, some ⟨200, .object [("ok", .bool true)]⟩)
  | .healthDetails => (s, (s.report? around.clock).map (⟨200, ·⟩))
  | .agents => ask .listAgents
  | .agentPlans ref => ask (.createPlan ref (some body))
  | .plan id => ask (.showPlan id)
  | .plans => ask (.listPlans (query.get? "limit"))

/-- Sends an answer. To a client that holds its body already only that is said. -/
def send (r : Http.Request) (response : Response) : Http.Response :=
  if 200 ≤ response.status ∧ response.status < 300 ∧ (r.verb = "GET" ∨ r.verb = "HEAD") ∧
      r.holds response.body then .other 304
  else .json response.status (if r.verb = "HEAD" then none else some response.body)

def route (s : Server) (around : Surroundings) (r : Http.Request) (target : Http.Target)
    (body : Json) : Server × Http.Response :=
  match Location.ofPath r.target.toList target.path with
  | .error .unknown => (s, .other 404)
  | .error .badEscape => (s, .other 400)
  | .ok location =>
    if r.verb = "OPTIONS" then (s, .other 200)
    else if r.verb = location.method ∨ (r.verb = "HEAD" ∧ location.method = "GET") then
      let query := Query.parse (String.ofList target.query)
      let (s, response?) := s.respondAt around location query body
      (s, response?.elim (.other 500) (send r))
    else (s, .other 404)

/-- Answers a request. Its body is read before it is known where its path leads. -/
def handle (s : Server) (around : Surroundings) (r : Http.Request) : Server × Http.Response :=
  match r.refusal? with
  | some status => (s, .other status)
  | none =>
    match Http.Target.read? r.target.toList with
    | none => (s, .other 404)
    | some target =>
      match r.readBody with
      | .error status => (s, .other status)
      | .ok body => s.route around r target body

end Server

inductive StartError where
  | config (e : ConfigError)
  | open (e : OpenError)
  | fault (f : Fault)
  | unknownAgent (ref : String)

namespace StartError

def description : StartError → String × String
  | .config e => ("Error", e.message)
  | .open .noDirectory =>
    ("TypeError", "Cannot open database because the directory does not exist")
  | .open (.store e) => ("SqliteError", e.message)
  | .fault f => ("Error", f.message)
  | .unknownAgent ref => ("Error", "DEFAULT_AGENT is not a known agent: " ++ ref)

end StartError

structure Startup where
  workspace : Workspace
  process : Variables
  registry : Registry
  ids : IdSupply
  runtimeVersion : String

namespace Startup

def vars (start : Startup) : Variables :=
  Settings.extend start.process (start.workspace.text? (start.workspace.path ".env"))

/-- The store is opened and initialised before the default agent is looked up, so it is there even
if the server does not start. -/
def run (start : Startup) : Workspace × Except StartError Server :=
  let w := start.workspace
  match Config.read start.vars with
  | .error e => (w, .error (.config e))
  | .ok config =>
    match w.openStore config.dbPath with
    | (w, .error e) => (w, .error (.open e))
    | (w, .ok store) =>
      let store := store.initialise
      let w := w.putStore config.dbPath store
      match start.registry.resolve config.defaultAgent with
      | .error f => (w, .error (.fault f))
      | .ok none => (w, .error (.unknownAgent config.defaultAgent))
      | .ok (some _) =>
        let service : Service :=
          ⟨start.registry, store, w.log config.auditLogPath, config.maxPlanListLimit, start.ids⟩
        (w, .ok ⟨config, service, start.runtimeVersion⟩)

def greeting (config : Config) : String :=
  Health.serviceName ++ " running at :" ++ config.port.text ++ " (default agent: " ++
    config.defaultAgent ++ ")\n"

end Startup

def Server.workspace (s : Server) (w : Workspace) : Workspace :=
  (w.putStore s.config.dbPath s.service.store).putLog s.config.auditLogPath s.service.log

end AgentPlans
