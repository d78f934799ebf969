import AgentPlans.Environment
import AgentPlans.Number.Basic
import AgentPlans.Shell.Quote

/-!
# Agents

An agent is a program that a benchmark harness installs into a task's environment and runs there. It
tells the harness how: which variables it needs, which of them are secret, what installs it, and
which shell commands run it on a task. Asking an agent may fail.

Most agents are described by data: fixed variables, variables forwarded from a source, and a command
line that ends in the task.
-/

namespace AgentPlans

/-- A shell command for the harness, which kills it after `maxTimeoutSec`; `block` tells whether the
harness waits for it. -/
structure Command where
  command : Utf16
  maxTimeoutSec : Number
  block : Bool

inductive Fault where
  | error (message : String)
  | text (message : String)

def Fault.message : Fault → String
  | .error message | .text message => message

structure Agent where
  id : String
  /-- Variables whose values must not be shown. -/
  secretKeys : List String
  name : Except Fault String
  installScript : Except Fault String
  environment : Source → Except Fault Environment
  commands : Utf16 → Except Fault (List Command)

structure AgentSummary where
  id : String
  name : String
  deriving DecidableEq

structure AgentDescription where
  id : String
  name : String
  secretKeys : List String
  installScript : String
  fixed : Environment
  forwarded : List String
  /-- The command line, to which the task is added. -/
  words : List Utf16
  maxTimeoutSec : Number
  block : Bool

namespace AgentDescription

/-- The fixed variables, then the forwarded ones. A variable that the source lacks is empty. -/
def environment (d : AgentDescription) (source : Source) : Environment :=
  d.forwarded.foldl (fun env key => env.insert key ((source key).getD "")) d.fixed

def command (d : AgentDescription) (task : Utf16) : Command :=
  ⟨Shell.join (d.words ++ [task]), d.maxTimeoutSec, d.block⟩

def agent (d : AgentDescription) : Agent where
  id := d.id
  secretKeys := d.secretKeys
  name := .ok d.name
  installScript := .ok d.installScript
  environment source := .ok (d.environment source)
  commands task := .ok [d.command task]

end AgentDescription

def amazonQDescription (root : String) : AgentDescription where
  id := "amazon-q-cli"
  name := "Amazon Q CLI"
  secretKeys := ["AWS_ACCESS_KEY_ID", "AWS_SECRET_ACCESS_KEY", "AWS_SESSION_TOKEN"]
  installScript := root ++ "/install/setup_amazon_q.sh"
  fixed := [("AMAZON_Q_SIGV4", "1")]
  forwarded := ["AWS_ACCESS_KEY_ID", "AWS_SECRET_ACCESS_KEY", "AWS_SESSION_TOKEN", "GIT_HASH",
    "CHAT_DOWNLOAD_ROLE_ARN", "CHAT_BUILD_BUCKET_NAME"]
  words := ["qchat", "chat", "--no-interactive", "--trust-all-tools"]
  maxTimeoutSec := 1800
  block := true

def Agent.amazonQ (root : String) : Agent := (amazonQDescription root).agent

end AgentPlans
