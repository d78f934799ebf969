import AgentPlans.Config
import AgentPlans.Health
import AgentPlans.Registry
import AgentPlans.Script.Outcome
import AgentPlans.Text.Decimal

/-!
# Preflight

Checks what a benchmark run needs: a known default agent with its installation script, credentials,
optional variables, and two programs on the host. No check shows the value of a variable it looks
at. Only a failed check makes the verdict bad; a warning does not.
-/

namespace AgentPlans.Script

inductive Level where
  | pass
  | warn
  | fail
  deriving DecidableEq

def Level.text : Level → String
  | .pass => "PASS"
  | .warn => "WARN"
  | .fail => "FAIL"

structure Check where
  name : String
  level : Level
  message : String

structure Finished where
  status : Nat
  stdout : String
  stderr : String

inductive ScriptFile where
  | missing
  | plain
  | executable
  deriving DecidableEq

/-- What the checks find on the host. A program that cannot be run has no end. -/
structure Host where
  run : String → List String → Option Finished
  scriptFile : String → ScriptFile

def isFilled (value : Option String) : Bool :=
  match value with
  | none => false
  | some s => !Text.isBlankText s

def holdsPart (part : List Char) : List Char → Bool
  | [] => part.isEmpty
  | c :: cs => part.isPrefixOf (c :: cs) || holdsPart part cs

def placeholder : String := "replace_me"

def checkRequired (vars : Variables) (name : String) : Check :=
  let value := vars name
  if !isFilled value then ⟨name, .fail, "missing"⟩
  else if holdsPart placeholder.toList (value.getD "").toList then
    ⟨name, .fail, "placeholder value detected"⟩
  else ⟨name, .pass, "configured"⟩

def checkOptional (vars : Variables) (name hint : String) : Check :=
  if isFilled (vars name) then ⟨name, .pass, "configured"⟩
  else ⟨name, .warn, "empty (" ++ hint ++ ")"⟩

/-- The first line of what a program wrote, to its standard output if it wrote there. -/
def firstLine (f : Finished) : String :=
  let written := if f.stdout = "" then f.stderr else f.stdout
  String.ofList ((Text.trimChars written.toList).takeWhile (· != '\n'))

def checkProgram (host : Host) (program : String) (args : List String) (hint : String) : Check :=
  match host.run program args with
  | some f =>
    if f.status = 0 then ⟨program, .pass, firstLine f⟩
    else ⟨program, .warn, "unavailable on this host (" ++ hint ++ ")"⟩
  | none => ⟨program, .warn, "unavailable on this host (" ++ hint ++ ")"⟩

def checkScript (host : Host) (path : String) : Check :=
  match host.scriptFile path with
  | .missing => ⟨"install script", .fail, "missing: " ++ path⟩
  | .plain => ⟨"install script", .warn, "not executable: " ++ path⟩
  | .executable => ⟨"install script", .pass, path⟩

/-- An agent that cannot tell its installation script fails the check. -/
def checkInstallation (host : Host) (agent : Agent) : Check :=
  match agent.installScript with
  | .ok path => checkScript host path
  | .error f => ⟨"install script", .fail, f.message⟩

def agentChecks (registry : Registry) (host : Host) (vars : Variables) :
    Except Fault (List Check) := do
  let ref := defaultAgentOf vars
  match ← registry.resolve ref with
  | none => return [⟨"DEFAULT_AGENT", .fail, "unknown agent '" ++ ref ++ "'"⟩]
  | some agent =>
    let name ← agent.name
    return [⟨"DEFAULT_AGENT", .pass, agent.id ++ " (" ++ name ++ ")"⟩,
      checkInstallation host agent]

def hostChecks (host : Host) (vars : Variables) : List Check := [
  checkRequired vars "AWS_ACCESS_KEY_ID",
  checkRequired vars "AWS_SECRET_ACCESS_KEY",
  checkOptional vars "AWS_SESSION_TOKEN" "long-lived keys only",
  checkOptional vars "GIT_HASH" "install script falls back to latest",
  checkOptional vars "CHAT_DOWNLOAD_ROLE_ARN" "build download will fail",
  checkOptional vars "CHAT_BUILD_BUCKET_NAME" "build download will fail",
  checkProgram host "aws" ["--version"] "only needed inside the task container",
  checkProgram host "tb" ["--help"] "needed to launch benchmark runs"]

def Check.line (c : Check) : String :=
  "[" ++ c.level.text ++ "] " ++ c.name ++ ": " ++ c.message ++ "\n"

def countLevel (level : Level) (checks : List Check) : Nat :=
  (checks.filter (·.level == level)).length

def summaryLine (checks : List Check) : String :=
  "Summary: " ++ Text.decimal checks.length ++ " checks, " ++
    Text.decimal (countLevel .fail checks) ++ " failed, " ++
    Text.decimal (countLevel .warn checks) ++ " warning(s)\n"

def report (checks : List Check) : String :=
  Health.serviceName ++ " preflight\n" ++ String.join (checks.map Check.line) ++ "\n" ++
    summaryLine checks

def verdict (checks : List Check) : Nat :=
  if checks.any (·.level == .fail) then 1 else 0

def preflight (registry : Registry) (host : Host) (vars : Variables) : Outcome :=
  match agentChecks registry host vars with
  | .error f => .crashed (.fault f) "" ""
  | .ok checks =>
    let checks := checks ++ hostChecks host vars
    .exited (verdict checks) (report checks) ""

end AgentPlans.Script
