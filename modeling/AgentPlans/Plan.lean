import AgentPlans.Agent
import AgentPlans.Json.Basic
import AgentPlans.Text.Units
import AgentPlans.Time.Instant

/-!
# Run plans

A plan records how an agent is to be run on a task: the installation script, the environment with
its secrets masked, and the commands.
-/

namespace AgentPlans

structure Plan where
  /-- Only a plan read from a row without an id has none. -/
  planId : Option String
  agentId : String
  agentName : String
  taskDescription : Utf16
  installScriptPath : String
  env : Environment
  commands : List Command
  createdAt : String

/-- The id made from a unique text: its first sixteen units, dashes left out. -/
def Plan.idOf (unique : String) : String :=
  "plan_" ++ String.ofList (Text.takeUnits 16 (unique.toList.filter (· != '-')))

structure IdSupply where
  used : Nat
  given : Option String

namespace IdSupply

def hex (width n : Nat) : String :=
  String.ofList ((Nat.toDigits 16 n).leftpad width '0')

def numbered (n : Nat) : String := hex 8 n ++ "-0000-4000-8000-000000000000"

/-- Takes a text. A given one does not use up a number. -/
def next (ids : IdSupply) : String × IdSupply :=
  match ids.given with
  | some s => (s, ids)
  | none => (numbered (ids.used + 1), { ids with used := ids.used + 1 })

end IdSupply

inductive BuildError where
  | fault (f : Fault)
  /-- The clock shows no instant. -/
  | noInstant

/-- Asks the agent for its name, its installation script, its environment and its commands, in this
order, and then looks at the clock. -/
def Plan.build (agent : Agent) (task : Utf16) (source : Source) (planId : String)
    (clock : Option Time.Instant) : Except BuildError Plan := do
  let name ← agent.name.mapError .fault
  let script ← agent.installScript.mapError .fault
  let env ← (agent.environment source).mapError .fault
  let commands ← (agent.commands task).mapError .fault
  let now ← clock.elim (.error .noInstant) .ok
  return {
    planId := some planId
    agentId := agent.id
    agentName := name
    taskDescription := task
    installScriptPath := script
    env := env.redact agent.secretKeys
    commands := commands
    createdAt := now.iso }

namespace Environment

def toJson (env : Environment) : Json :=
  .object (env.map fun (name, value) => (name, .string value))

end Environment

def Command.toJson (c : Command) : Json :=
  .object [("command", .string c.command), ("maxTimeoutSec", .number c.maxTimeoutSec),
    ("block", .bool c.block)]

def Command.listToJson (commands : List Command) : Json :=
  .array (commands.map Command.toJson)

def Plan.toJson (p : Plan) : Json :=
  .object [
    ("planId", match p.planId with
      | some id => .string id
      | none => .null),
    ("agentId", .string p.agentId),
    ("agentName", .string p.agentName),
    ("taskDescription", .string p.taskDescription),
    ("installScriptPath", .string p.installScriptPath),
    ("env", p.env.toJson),
    ("commands", Command.listToJson p.commands),
    ("createdAt", .string p.createdAt)]

def AgentSummary.toJson (a : AgentSummary) : Json :=
  .object [("id", .string a.id), ("name", .string a.name)]

end AgentPlans
