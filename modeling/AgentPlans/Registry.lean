import AgentPlans.Agent
import AgentPlans.Text.Blank
import AgentPlans.Text.LowerCase

/-!
# The agent registry

Agents in the order in which they were accepted. No two have the same id, letter case aside. A
reference names an agent by its id or else by its display name, without regard to case and to white
space around the reference; an id wins over every name, and among names the earliest agent.
-/

namespace AgentPlans

structure Registry where
  agents : List Agent

inductive RegistryError where
  | alreadyRegistered (id : String)

def RegistryError.message : RegistryError → String
  | .alreadyRegistered id => "Agent already registered: " ++ id

namespace Registry

def empty : Registry := ⟨[]⟩

def key (s : String) : String := Text.lowerCase s

def referenceKey (ref : String) : String := key (Text.trim ref)

def findId? (r : Registry) (key : String) : Option Agent :=
  r.agents.find? fun a => Registry.key a.id == key

def register (r : Registry) (a : Agent) : Except RegistryError Registry :=
  match r.findId? (key a.id) with
  | some _ => .error (.alreadyRegistered a.id)
  | none => .ok ⟨r.agents ++ [a]⟩

/-- The first agent with this name. An agent that cannot tell its name ends the search. -/
def firstNamed (key : String) : List Agent → Except Fault (Option Agent)
  | [] => .ok none
  | a :: rest => do
    let name ← a.name
    if Registry.key name == key then return some a else firstNamed key rest

def resolve (r : Registry) (ref : String) : Except Fault (Option Agent) :=
  let key := referenceKey ref
  if key = "" then .ok none
  else
    match r.findId? key with
    | some a => .ok (some a)
    | none => firstNamed key r.agents

def list (r : Registry) : Except Fault (List AgentSummary) :=
  r.agents.mapM fun a => do return ⟨a.id, ← a.name⟩

def default (root : String) : Registry := ⟨[Agent.amazonQ root]⟩

end Registry

end AgentPlans
