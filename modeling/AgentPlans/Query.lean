import AgentPlans.Query.Value
import AgentPlans.Text.Percent
import AgentPlans.Text.Split

/-!
# Query strings

Pairs of names and values, separated by `&`. Brackets in a name nest the value: `a[b]=1` is a member
`b` of `a`, `a[]=1` an element of `a`, and `a[2]=1` the element at a position below a thousand.
Values of one name are collected into an array. At most a thousand pairs are read, and brackets nest
five deep.
-/

namespace AgentPlans.Query

open Text

/-- Undoes escapes; a plus sign is a space. Text with a bad escape is left as it is. -/
def decode (cs : List Char) : List Char :=
  let spaced := cs.map fun c => if c = '+' then ' ' else c
  (percentDecode? spaced).getD spaced

def plainBrackets : List Char → List Char
  | [] => []
  | '%' :: '5' :: c :: rest =>
    if c = 'B' ∨ c = 'b' then '[' :: plainBrackets rest
    else if c = 'D' ∨ c = 'd' then ']' :: plainBrackets rest
    else '%' :: '5' :: plainBrackets (c :: rest)
  | c :: rest => c :: plainBrackets rest

/-- Splits a pair behind its first `]=`, and without one at its first `=`. -/
def splitAtBracket : List Char → Option (List Char × List Char)
  | [] => none
  | ']' :: '=' :: rest => some ([']'], rest)
  | c :: rest => (splitAtBracket rest).map fun (name, value) => (c :: name, value)

def splitPair (cs : List Char) : List Char × List Char :=
  match splitAtBracket cs with
  | some found => found
  | none => (cs.takeWhile (· != '='), (cs.dropWhile (· != '=')).drop 1)

def collect (cs : List Char) : Members Value :=
  ((split '&' (plainBrackets cs)).take 1000).foldl (fun found piece =>
    let (name, value) := splitPair piece
    let name := String.ofList (decode name)
    let value := Value.text (String.ofList (decode value))
    match found.get? name with
    | some before => found.insert name (before.append value)
    | none => found.insert name value) []

inductive Step where
  | push
  | position (i : Nat)
  | member (name : String)

def stepOf (inner : List Char) : Step :=
  if inner = [] then .push
  else
    match Value.position? inner with
    | some i => .position i
    | none => .member (String.ofList inner)

/-- What stands before the bracket that closes `depth` open ones, and what follows it; `none` if
they are not all closed. -/
def closing? : Nat → List Char → Option (List Char × List Char)
  | _, [] => none
  | depth, c :: rest =>
    if c = ']' ∧ depth ≤ 1 then some ([], rest)
    else
      let depth := if c = '[' then depth + 1 else if c = ']' then depth - 1 else depth
      (closing? depth rest).map fun (inner, after) => (c :: inner, after)

/-- The steps in the brackets of a name; brackets within brackets belong to a step's name. What
stands between the steps is passed over. After `limit` steps, or from a bracket on that is not
closed, the rest of the name is one step. -/
def bracketSteps (limit : Nat) (cs : List Char) : List Step :=
  match cs.dropWhile (· != '[') with
  | [] => []
  | opening :: rest =>
    match limit, closing? 1 rest with
    | limit + 1, some (inner, after) => stepOf inner :: bracketSteps limit after
    | _, _ => [stepOf (opening :: rest)]

def nameSteps (cs : List Char) : List Step :=
  let parent := cs.takeWhile (· != '[')
  (if parent = [] then [] else [.member (String.ofList parent)]) ++ bracketSteps 5 cs

/-- The value that holds only `v`, a step deep. -/
def Step.wrap (step : Step) (v : Value) : Value :=
  match step, v with
  | .push, .object _ (some _) => v
  | .push, _ => .ofItems v.items
  | .position i, _ =>
    if i < Value.maxItems then .array (List.replicate i none ++ [some v])
    else .object [(decimal i, v)] (some i)
  | .member name, _ => .object (if name = Members.reserved then [] else [(name, v)]) none

def parse (s : String) : Json :=
  if s = "" then .object []
  else
    ((collect s.toList).foldl (fun query (named : String × Value) =>
      match nameSteps named.1.toList with
      | [] => query
      | steps => (steps.foldr Step.wrap named.2).mergeInto query) (.object [] none)).toJson

end AgentPlans.Query
