import AgentPlans.Config
import AgentPlans.Script.Outcome
import AgentPlans.Text.Collation
import AgentPlans.Text.Decimal
import AgentPlans.Workspace

/-!
# The timeline of a plan

Reads the audit log and writes the records of one plan in the order of their timestamps, compared as
texts in alphabetical order; records with equal timestamps keep the order of the log. Lines that are
not data, or null, are counted and skipped. Records of other plans are passed over.
-/

namespace AgentPlans.Script

def logLines (text : String) : List String :=
  ((Text.split '\n' text.toList).map fun cs => String.ofList (Text.trimChars cs)).filter
    (· != "")

/-- What a line holds; a line that is not data, or null, is malformed. -/
def record? (line : String) : Option Json :=
  (Json.parse line).filter (!·.isNull)

def malformed (lines : List String) : Nat :=
  (lines.filter fun line => (record? line).isNone).length

def concerns (planId : String) (record : Json) : Bool :=
  match record.get? "planId" with
  | some (.string id) => id == planId
  | _ => false

def recordsOf (planId : String) (lines : List String) : List Json :=
  (lines.filterMap record?).filter (concerns planId)

def fieldOf? (record : Json) (name : String) : Option Json :=
  (record.get? name).filter (!·.isNull)

/-- The text of a field, or what stands for a missing one. `none` if the field has no text. -/
def fieldText? (record : Json) (name missing : String) : Option String :=
  match fieldOf? record name with
  | none => some missing
  | some v => v.phraseText?

/-- The records in the order of their timestamps; `none` if one of several has no text. -/
def inOrder? (records : List Json) : Option (List Json) :=
  match records with
  | [] | [_] => some records
  | _ => do
    let keyed ← records.mapM fun r => do
      let timestamp ← fieldText? r "timestamp" ""
      return (Text.collationKey timestamp, r)
    return (keyed.mergeSort fun a b => a.1.le b.1).map (·.2)

def extra? (record : Json) (name label : String) : Option (List String) :=
  match fieldOf? record name with
  | none => some []
  | some v =>
    if v.truthy then do
      let text ← v.phraseText?
      return [label ++ text]
    else some []

def recordLine? (record : Json) : Option String := do
  let timestamp ← fieldText? record "timestamp" "unknown-time"
  let event ← fieldText? record "eventType" "UNKNOWN"
  let agent ← fieldText? record "agentId" "?"
  let code ← extra? record "errorCode" "code="
  let message ← extra? record "message" "msg="
  let parts := [timestamp, event, "agent=" ++ agent] ++ code ++ message
  return "- " ++ " | ".intercalate parts ++ "\n"

def heading (planId : String) (count : Nat) : String :=
  "Plan " ++ planId ++ " audit timeline (" ++ Text.decimal count ++ " event" ++
    (if 1 < count then "s" else "") ++ ")\n"

def printLines (written stderr : String) : List Json → Outcome
  | [] => .exited 0 written stderr
  | r :: rest =>
    match recordLine? r with
    | some line => printLines (written ++ line) stderr rest
    | none => .crashed .noPhrase written stderr

def printTimeline (planId path text : String) : Outcome :=
  let lines := logLines text
  let bad := malformed lines
  let stderr :=
    if bad = 0 then ""
    else "skipped " ++ Text.decimal bad ++ " malformed line(s) in " ++ path ++ "\n"
  let records := recordsOf planId lines
  if records.isEmpty then .exited 0 ("no audit records found for plan: " ++ planId ++ "\n") stderr
  else
    match inOrder? records with
    | none => .crashed .noPhrase "" stderr
    | some records => printLines (heading planId records.length) stderr records

def timelineUsage : String := "Usage: npm run audit:plan -- <plan_id>\n"

def timeline (w : Workspace) (args : List String) (vars : Variables) : Outcome :=
  let planId := args.headD ""
  if planId = "" then .exited 1 "" timelineUsage
  else
    let path := w.path (auditLogPathOf vars)
    match w.item? path with
    | none => .exited 1 "" ("audit log not found: " ++ path.text ++ "\n")
    | some .directory => .crashed .readsDirectory "" ""
    | some (.text text) => printTimeline planId path.text text
    | some (.store _) | some .sink => printTimeline planId path.text ""

end AgentPlans.Script
