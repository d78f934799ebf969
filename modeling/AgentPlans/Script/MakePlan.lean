import AgentPlans.Config
import AgentPlans.Json.Printer
import AgentPlans.Plan
import AgentPlans.Registry
import AgentPlans.Script.Outcome

/-!
# Printing a plan

Builds the plan of a task for the default agent and writes it out as indented data. Nothing is
stored and nothing is logged. A blank task is reported before an unknown agent.
-/

namespace AgentPlans.Script

structure PlanCall where
  registry : Registry
  args : List String
  vars : Variables
  /-- What the clock shows, if that is an instant. -/
  clock : Option Time.Instant
  unique : String

def planUsage : String := "Usage: npm run plan -- <task description>\n"

def printPlan (call : PlanCall) (task : String) (agent : Agent) :
    Except BuildError String := do
  let plan ← Plan.build agent task call.vars.source (Plan.idOf call.unique) call.clock
  return plan.toJson.renderIndented ++ "\n"

def makePlan (call : PlanCall) : Outcome :=
  let task := " ".intercalate call.args
  if Text.isBlankText task then .exited 1 "" planUsage
  else
    let ref := defaultAgentOf call.vars
    match call.registry.resolve ref with
    | .error f => .crashed (.fault f) "" ""
    | .ok none => .exited 1 "" ("unknown agent: " ++ ref ++ "\n")
    | .ok (some agent) =>
      match printPlan call task agent with
      | .error e => .crashed (.ofBuildError e) "" ""
      | .ok text => .exited 0 text ""

end AgentPlans.Script
