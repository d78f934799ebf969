/-!
# Members

Named values in the order in which an object shows them. A name that is an array index, a numeral
without leading zeros below `2^32 - 1`, comes before all other names, indices ascending; other names
keep the order of their first insertion. A name occurs once.
-/

namespace AgentPlans

abbrev Members (α : Type) := List (String × α)

namespace Members

variable {α : Type}

/-- A reserved name. Setting it by hand has no effect. -/
def reserved : String := "__proto__"

def index? (name : String) : Option Nat :=
  match name.toList with
  | [] => none
  | ['0'] => some 0
  | '0' :: _ => none
  | digits =>
    if digits.all (fun c => '0' ≤ c && c ≤ '9') ∧ digits.length ≤ 10 then
      let n := digits.foldl (fun n c => 10 * n + (c.toNat - '0'.toNat)) 0
      if n < 4294967295 then some n else none
    else none

def precedesIndex (i : Nat) (name : String) : Bool :=
  match index? name with
  | some j => j < i
  | none => false

def place (name : String) (value : α) (members : Members α) : Members α :=
  match index? name with
  | none => members ++ [(name, value)]
  | some i =>
    members.takeWhile (fun m => precedesIndex i m.1) ++
      (name, value) :: members.dropWhile (fun m => precedesIndex i m.1)

def contains (members : Members α) (name : String) : Bool :=
  members.any (·.1 == name)

/-- Sets a name's value. A name that is there keeps its place. -/
def insert (members : Members α) (name : String) (value : α) : Members α :=
  if members.contains name then
    members.map fun m => if m.1 == name then (name, value) else m
  else
    place name value members

def get? (members : Members α) (name : String) : Option α :=
  (members.find? (·.1 == name)).map (·.2)

def ofList (pairs : List (String × α)) : Members α :=
  pairs.foldl (fun members p => members.insert p.1 p.2) []

end Members

end AgentPlans
