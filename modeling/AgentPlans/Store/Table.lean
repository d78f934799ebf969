import AgentPlans.Store.Row

/-!
# The plan store

A table of rows in the order in which they were inserted, which is the order of their row numbers.
The table does not exist before the store is initialised; initialising again keeps the rows. Ids are
unique, and no column but the id may lack a value. The latest rows come first in a listing: by
creation time as text, character by character, and among equals the row inserted last.
-/

namespace AgentPlans

inductive StoreError where
  | noTable
  | missingValue (column : String)
  | duplicateId
  | limitMismatch
  | notADatabase
  | cannotOpen
  | notReadable
  deriving DecidableEq

namespace StoreError

def tableName : String := "run_plans"

def message : StoreError → String
  | .noTable => "no such table: " ++ tableName
  | .missingValue column => "NOT NULL constraint failed: " ++ tableName ++ "." ++ column
  | .duplicateId => "UNIQUE constraint failed: " ++ tableName ++ ".plan_id"
  | .limitMismatch => "datatype mismatch"
  | .notADatabase => "file is not a database"
  | .cannotOpen => "unable to open database file"
  | .notReadable => "disk I/O error"

def code : StoreError → String
  | .noTable => "SQLITE_ERROR"
  | .missingValue _ => "SQLITE_CONSTRAINT_NOTNULL"
  | .duplicateId => "SQLITE_CONSTRAINT_PRIMARYKEY"
  | .limitMismatch => "SQLITE_MISMATCH"
  | .notADatabase => "SQLITE_NOTADB"
  | .cannotOpen => "SQLITE_CANTOPEN"
  | .notReadable => "SQLITE_IOERR"

end StoreError

def Draft.require (column : String) : Option String → Except StoreError String
  | some value => .ok value
  | none => .error (.missingValue column)

/-- The row, unless a column lacks its value; the first such column is reported. -/
def Draft.row (d : Draft) : Except StoreError Row := do
  let agentId ← require "agent_id" d.agentId
  let agentName ← require "agent_name" d.agentName
  let taskDescription ← require "task_description" d.taskDescription
  let installScriptPath ← require "install_script_path" d.installScriptPath
  let envText ← require "env_json" d.envText
  let commandsText ← require "commands_json" d.commandsText
  let createdAt ← require "created_at" d.createdAt
  return ⟨d.planId, agentId, agentName, taskDescription, installScriptPath, envText, commandsText,
    createdAt⟩

/-- A store; `table` is `none` before it is initialised. -/
structure Store where
  table : Option (List Row)

namespace Store

def empty : Store := ⟨none⟩

def initialise (s : Store) : Store := ⟨some (s.table.getD [])⟩

def rows (s : Store) : Except StoreError (List Row) :=
  match s.table with
  | none => .error .noTable
  | some rows => .ok rows

def holdsId (rows : List Row) (id : Option String) : Bool :=
  id.isSome && rows.any (·.planId == id)

def insert (s : Store) (d : Draft) : Except StoreError Store := do
  let rows ← s.rows
  let row ← d.row
  if holdsId rows row.planId then .error .duplicateId
  else .ok ⟨some (rows ++ [row])⟩

def fetch (s : Store) (id : String) : Except StoreError (Option Row) := do
  let rows ← s.rows
  return rows.find? (·.planId == some id)

def latestFirst (rows : List Row) : List Row :=
  rows.reverse.mergeSort fun a b => decide (b.createdAt ≤ a.createdAt)

/-- The latest rows. A negative limit is none; a limit that is no 64-bit whole number is an error.
-/
def recent (s : Store) (limit : Number) : Except StoreError (List Row) := do
  let rows ← s.rows
  match limit.toInt64? with
  | none => .error .limitMismatch
  | some n => return if n < 0 then latestFirst rows else (latestFirst rows).take n.toNat

end Store

end AgentPlans
