import AgentPlans.Audit.Log
import AgentPlans.Store.Table

/-!
# Failures

The ways in which a request to the service can fail, and the words for each.
-/

namespace AgentPlans

inductive Refusal where
  | agentNotFound (ref : String)
  | planNotFound (id : String)
  | emptyTask
  | taskMissing
  | taskNotText
  | limitNotNumber
  deriving DecidableEq

namespace Refusal

def message : Refusal → String
  | .agentNotFound ref => "Agent not found: " ++ ref
  | .planNotFound id => "Plan not found: " ++ id
  | .emptyTask => "task_description must not be empty"
  | .taskMissing => "task_description is required"
  | .taskNotText => "task_description must be a string"
  | .limitNotNumber => "limit must be a number"

def code : Refusal → String
  | .agentNotFound _ => "AGENT_NOT_FOUND"
  | .planNotFound _ => "PLAN_NOT_FOUND"
  | .emptyTask | .taskMissing | .taskNotText | .limitNotNumber => "VALIDATION_ERROR"

def status : Refusal → Nat
  | .agentNotFound _ | .planNotFound _ => 404
  | .emptyTask | .taskMissing | .taskNotText | .limitNotNumber => 400

end Refusal

namespace RowError

/-- The engine's words. For an unreadable column they vary with its text; these are the words for
one that breaks off. -/
def message : RowError → String
  | .unreadable => "Unexpected end of JSON input"
  | .noMembers => "Cannot convert undefined or null to object"

end RowError

namespace Audit.RecordError

def message : RecordError → String
  | .badTimestamp => "timestamp must be a valid ISO datetime"
  | .noPlan => "planId is required"
  | .noAgent => "agentId is required"
  | .badEvent phrase => "eventType is invalid: " ++ phrase
  | .noPhrase => Json.noPhraseMessage

end Audit.RecordError

inductive Failure where
  | refused (reason : Refusal)
  | fault (f : Fault)
  | store (e : StoreError)
  | row (e : RowError)
  | log (e : Audit.LogError)
  /-- A value of a request that has to be read as text has none. -/
  | noPhrase
  /-- The clock shows no instant. -/
  | noInstant

/-- The words for a failure. A bare text that an agent raised is not repeated. -/
def Failure.message : Failure → String
  | .refused reason => reason.message
  | .fault (.error message) => message
  | .fault (.text _) => "Unknown error"
  | .store e => e.message
  | .row e => e.message
  | .log (.record e) => e.message
  | .log (.file e) => e.message
  | .noPhrase => Json.noPhraseMessage
  | .noInstant => Time.Instant.absentMessage

def BuildError.failure : BuildError → Failure
  | .fault f => .fault f
  | .noInstant => .noInstant

end AgentPlans
