import AgentPlans.Json.Printer
import AgentPlans.Json.Reader
import AgentPlans.Plan

/-!
# Stored rows

A plan is kept as a row of eight texts, written as octets; its environment and commands are data
texts. Reading a row back keeps of the environment the members that are texts, and of the commands
the elements that have all three fields of the right kind.
-/

namespace AgentPlans

/-- A row on its way in; a column may lack its value. -/
structure Draft where
  planId : Option String
  agentId : Option String
  agentName : Option String
  taskDescription : Option String
  installScriptPath : Option String
  envText : Option String
  commandsText : Option String
  createdAt : Option String

/-- A row of the table. Only the id may lack a value. -/
structure Row where
  planId : Option String
  agentId : String
  agentName : String
  taskDescription : String
  installScriptPath : String
  envText : String
  commandsText : String
  createdAt : String
  deriving DecidableEq

def Plan.draft (p : Plan) : Draft where
  planId := p.planId
  agentId := some p.agentId
  agentName := some p.agentName
  taskDescription := some p.taskDescription.repaired
  installScriptPath := some p.installScriptPath
  envText := some p.env.toJson.render
  commandsText := some (Command.listToJson p.commands).render
  createdAt := some p.createdAt

inductive RowError where
  /-- A column does not hold data text. -/
  | unreadable
  /-- The environment is null, which has no members. -/
  | noMembers
  deriving DecidableEq

namespace Row

def numbered {α : Type} (values : List α) : Members α :=
  values.zipIdx.map fun (v, i) => (Text.decimal i, v)

/-- The named values inside a value: an object's members, an array's elements and a text's units by
position; other values hold none. -/
def entries : Json → Members Json
  | .object members => members
  | .array items => numbered items
  | .string s => numbered (s.units.map fun unit => .string ⟨[unit]⟩)
  | _ => []

def textEntry? (entry : String × Json) : Option (String × Utf16) :=
  if entry.1 = Members.reserved then none
  else entry.2.string?.map fun value => (entry.1, value)

def decodeEnvironment (text : String) : Except RowError Environment :=
  match Json.parse text with
  | none => .error .unreadable
  | some .null => .error .noMembers
  | some v => .ok ((entries v).filterMap textEntry?)

def command? (v : Json) : Option Command := do
  let command ← (← v.get? "command").string?
  let maxTimeoutSec ← (← v.get? "maxTimeoutSec").number?
  let block ← (← v.get? "block").bool?
  return ⟨command, maxTimeoutSec, block⟩

def decodeCommands (text : String) : Except RowError (List Command) :=
  match Json.parse text with
  | none => .error .unreadable
  | some (.array items) => .ok (items.filterMap command?)
  | some _ => .ok []

/-- The plan that a row holds. The environment is read first. -/
def plan (row : Row) : Except RowError Plan := do
  let env ← decodeEnvironment row.envText
  let commands ← decodeCommands row.commandsText
  return {
    planId := row.planId
    agentId := row.agentId
    agentName := row.agentName
    taskDescription := row.taskDescription
    installScriptPath := row.installScriptPath
    env := env
    commands := commands
    createdAt := row.createdAt }

end Row

end AgentPlans
