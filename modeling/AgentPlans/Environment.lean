import AgentPlans.Json.Members
import AgentPlans.Text.Utf16

/-!
# Environments

The variables of a process, and those that an agent is given. A variable of a process has a name
without `=` that is not empty, and a NUL ends its name and its value. Before an environment is shown
or stored, its secrets are masked: a secret with a value shows only that it has one, and a secret
without a value shows that it has none.
-/

namespace AgentPlans

/-- Where variables are looked up; an unset variable has no value. -/
abbrev Source := String → Option Utf16

abbrev Variables := String → Option String

def Variables.source (vars : Variables) : Source := fun name => (vars name).map Utf16.ofString

def untilNul (s : String) : String := String.ofList (s.toList.takeWhile (·.toNat != 0))

def Variables.ofProcess (given : Members String) : Variables :=
  let named := given.map fun (name, value) => (untilNul name, untilNul value)
  (Members.ofList (named.filter fun (name, _) => name != "" && !name.toList.contains '=')).get?

abbrev Environment := Members Utf16

namespace Environment

def mask : Utf16 := "***"

def shown (secrets : List String) (name : String) (value : Utf16) : Utf16 :=
  if secrets.contains name && value != "" then mask else value

/-- Masks the secrets that have a value. Names keep their order; the reserved name is left out. -/
def redact (env : Environment) (secrets : List String) : Environment :=
  (env.filter (·.1 != Members.reserved)).map fun (name, value) => (name, shown secrets name value)

end Environment

end AgentPlans
