import Std.Time.DateTime.Timestamp
import AgentPlans.Script.MakePlan
import AgentPlans.Script.Preflight
import AgentPlans.Script.Timeline

/-!
# The command line

`plan`, `audit` and `preflight`, each with its own arguments. Variables come from the process and
from the settings file in the working directory, under which the installation script is looked for,
too. No program is run from here, so preflight takes the programs of the host to be unavailable, and
an installation script that is there to be executable.
-/

namespace AgentPlans.CommandLine

open Script

/-- The variables that the commands look at. -/
def variableNames : List String :=
  ["DEFAULT_AGENT", "AUDIT_LOG_PATH"] ++ (amazonQDescription "").forwarded

def idText (octets : List UInt8) : String :=
  String.join <| octets.zipIdx.map fun (octet, i) =>
    let n := octet.toNat
    IdSupply.hex 2 (if i = 6 then 0x40 + n % 0x10 else if i = 8 then 0x80 + n % 0x40 else n)

def readItem? (path : String) : IO (Option Item) := do
  try
    return some (.text (← IO.FS.readFile path))
  catch e =>
    match e with
    | .inappropriateType _ 21 _ => return some .directory
    | _ => return none

def processVariables : IO (Members String) :=
  variableNames.filterMapM fun name => do
    return (← IO.getEnv name).map (name, ·)

def finish (o : Outcome) : IO UInt32 := do
  (← IO.getStdout).putStr o.stdout
  (← IO.getStderr).putStr o.stderr
  if let .error crash := o.ending then
    (← IO.getStderr).putStr (crash.kind ++ ": " ++ crash.message ++ "\n")
  return UInt32.ofNat o.status

def plan (root : String) (vars : Variables) (args : List String) : IO UInt32 := do
  let now ← Std.Time.Timestamp.now
  let octets ← IO.getRandomBytes 16
  finish <| makePlan {
    registry := .default root
    args := args
    vars := vars
    clock := Time.Instant.ofMillis? now.toMillisecondsSinceUnixEpoch.toInt
    unique := idText octets.toList }

def audit (directory : String) (vars : Variables) (args : List String) : IO UInt32 := do
  let path := Path.resolve directory (auditLogPathOf vars)
  let found ← readItem? path.text
  finish (timeline ⟨directory, (found.map (path, ·)).toList⟩ args vars)

def checks (root : String) (vars : Variables) : IO UInt32 := do
  let script ← readItem? (amazonQDescription root).installScript
  let host : Host := {
    run := fun _ _ => none
    scriptFile := fun _ => if script.isSome then .executable else .missing }
  finish (preflight (.default root) host vars)

def usage : String := "Usage: plan <task description> | audit <plan_id> | preflight\n"

def run (args : List String) : IO UInt32 := do
  let directory := (← IO.getEnv "PWD").getD "/"
  let process ← processVariables
  let settings := match ← readItem? (Path.resolve directory ".env").text with
    | some (.text s) => some s
    | _ => none
  let vars := Settings.extend process.get? settings
  match args with
  | "plan" :: words => plan directory vars words
  | "audit" :: rest => audit directory vars rest
  | "preflight" :: _ => checks directory vars
  | _ =>
    (← IO.getStderr).putStr usage
    return 2

end AgentPlans.CommandLine

def main (args : List String) : IO UInt32 := AgentPlans.CommandLine.run args
