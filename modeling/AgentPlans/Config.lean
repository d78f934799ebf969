import AgentPlans.Number.Literal
import AgentPlans.Settings

/-!
# Configuration

What the server reads from its variables, with defaults for those that are not set.
-/

namespace AgentPlans

def defaultAgentOf (vars : Variables) : String :=
  Text.trim ((vars "DEFAULT_AGENT").getD "amazon-q-cli")

def auditLogPathOf (vars : Variables) : String :=
  (vars "AUDIT_LOG_PATH").getD "./audit.jsonl"

structure Config where
  port : Number
  dbPath : String
  auditLogPath : String
  defaultAgent : String
  maxPlanListLimit : Number

structure ConfigError where
  name : String
  raw : String

def ConfigError.message (e : ConfigError) : String :=
  "Invalid " ++ e.name ++ ": " ++ e.raw ++ ". Expected a positive integer."

namespace Config

def positive (vars : Variables) (name fallback : String) : Except ConfigError Number :=
  let raw := (vars name).getD fallback
  let value := Number.ofText raw
  match value.toInt? with
  | some n => if 0 < n then .ok value else .error ⟨name, raw⟩
  | none => .error ⟨name, raw⟩

def read (vars : Variables) : Except ConfigError Config := do
  let port ← positive vars "PORT" "3000"
  return {
    port := port
    dbPath := (vars "DATABASE_PATH").getD "./qbench.db"
    auditLogPath := auditLogPathOf vars
    defaultAgent := defaultAgentOf vars
    maxPlanListLimit := 100 }

end Config

end AgentPlans
