import AgentPlans.Json.Printer
import AgentPlans.Time.DateText

/-!
# Audit records

A record is an object. Before it is written its version is filled in, and it is checked: it needs a
timestamp that names an instant, a plan, an agent, and one of the two kinds of event.
-/

namespace AgentPlans.Audit

abbrev Record := Members Json

inductive RecordError where
  | badTimestamp
  | noPlan
  | noAgent
  | badEvent (phrase : String)
  /-- A value that has to be read as text has none. -/
  | noPhrase
  deriving DecidableEq

def version : String := "1.0"

inductive Event where
  | planCreated
  | planRejected
  deriving DecidableEq

def Event.name : Event → String
  | .planCreated => "PLAN_CREATED"
  | .planRejected => "PLAN_REJECTED"

namespace Record

def withVersion (r : Record) : Record :=
  match r.get? "auditVersion" with
  | none | some .null => r.insert "auditVersion" (.string version)
  | some _ => r

def has (r : Record) (field : String) : Bool :=
  match r.get? field with
  | some v => v.truthy
  | none => false

/-- The text of a field; a field that is missing is undefined. -/
def phrase (r : Record) (field : String) : Except RecordError String :=
  match r.get? field with
  | none => .ok "undefined"
  | some v =>
    match v.phraseText? with
    | some s => .ok s
    | none => .error .noPhrase

def isEvent : Option Json → Bool
  | some (.string s) => s == Event.planCreated.name || s == Event.planRejected.name
  | _ => false

def checkTimestamp (r : Record) : Except RecordError Unit :=
  if r.has "timestamp" then do
    let text ← r.phrase "timestamp"
    if (Time.Instant.ofText? text).isSome then .ok () else .error .badTimestamp
  else .error .badTimestamp

def checkEvent (r : Record) : Except RecordError Unit :=
  if isEvent (r.get? "eventType") then .ok ()
  else do
    let text ← r.phrase "eventType"
    .error (.badEvent text)

/-- The timestamp is checked first, then plan, agent and event. -/
def check (r : Record) : Except RecordError Unit := do
  r.checkTimestamp
  if !r.has "planId" then .error .noPlan
  else if !r.has "agentId" then .error .noAgent
  else r.checkEvent

def line (r : Record) : String :=
  String.ofList ((Json.object r).chars ++ ['\n'])

end Record

structure Entry where
  timestamp : String
  planId : String
  agentId : String
  event : Event
  errorCode : Option String
  message : String

def Entry.record (e : Entry) : Record :=
  [("timestamp", .string e.timestamp), ("planId", .string e.planId), ("agentId", .string e.agentId),
    ("eventType", .string e.event.name)] ++
  (match e.errorCode with
    | some code => [("errorCode", .string code)]
    | none => []) ++
  [("message", .string e.message)]

end AgentPlans.Audit
