import AgentPlans.Json.Basic
import AgentPlans.Text.Decimal

/-!
# Values of a query

What a query says of one name: a text, an array in which positions may be open, or named members. An
array that would grow beyond a thousand elements becomes an object whose members are named by
position; it remembers the greatest position, and what is added to it goes behind that.
-/

namespace AgentPlans.Query

inductive Value where
  | text (s : String)
  /-- `none` is an open position. -/
  | array (items : List (Option Value))
  /-- `last` is the greatest position of an array that has grown too long. -/
  | object (members : List (String × Value)) (last : Option Nat)

namespace Value

def maxItems : Nat := 1000

def membersFrom (i : Nat) : List (Option Value) → Members Value
  | [] => []
  | none :: rest => membersFrom (i + 1) rest
  | some v :: rest => (Text.decimal i, v) :: membersFrom (i + 1) rest

def ofItems (items : List (Option Value)) : Value :=
  if items.length ≤ maxItems then .array items
  else .object (membersFrom 0 items) (some (items.length - 1))

def items : Value → List (Option Value)
  | .array items => items
  | v => [some v]

def addLast (members : Members Value) (last : Nat) (v : Value) : Value :=
  .object (members.insert (Text.decimal (last + 1)) v) (some (last + 1))

def append (a b : Value) : Value :=
  match a with
  | .object members (some last) => addLast members last b
  | _ => ofItems (a.items ++ b.items)

def fill (into : List (Option Value)) (i : Nat) (v : Value) : List (Option Value) :=
  if i < into.length then into.set i (some v)
  else into ++ List.replicate (i - into.length) none ++ [some v]

def isCompound : Value → Bool
  | .text _ => false
  | _ => true

def position? (name : List Char) : Option Nat :=
  match name with
  | [] => none
  | ['0'] => some 0
  | '0' :: _ => none
  | digits =>
    if digits.all Char.isDigit then
      some (digits.foldl (fun n c => 10 * n + (c.toNat - '0'.toNat)) 0)
    else none

/-- The greatest position after a member of this name has been set; `added` is that of the value
which the member comes from. -/
def lastAfter (name : String) (last added : Option Nat) : Option Nat :=
  match last <|> added, position? name.toList with
  | some n, some i => some (Nat.max n i)
  | known, _ => known

/-- Adds a text to what is there. The empty text adds nothing. -/
def addText (s : String) : Value → Value
  | target@(.text _) => .array [some target, some (.text s)]
  | .array items => ofItems (items ++ [some (.text s)])
  | .object members (some last) => addLast members last (.text s)
  | target@(.object _ none) => .array [some target, some (.text s)]

def shift (s : String) (members : Members Value) (last : Nat) : Value :=
  let moved := members.map fun (name, v) =>
    match position? name.toList with
    | some i => (Text.decimal (i + 1), v)
    | none => ("NaN", v)
  .object (Members.ofList (("0", .text s) :: moved)) (some (last + 1))

mutual
def mergeInto : Value → Value → Value
  | .text s, target => if s = "" then target else addText s target
  | .array added, target =>
    match target with
    | .text s => ofItems (some (.text s) :: added)
    | .array items => .array (mergeItems 0 added items)
    | .object members last =>
      let (members, last) := mergeNumbered 0 added (members, last)
      .object members last
  | .object added addedLast, target =>
    match target, addedLast with
    | .text s, some last => shift s added last
    | .text s, none => .array [some (.text s), some (.object added none)]
    | .array items, _ =>
      let (members, last) := mergeMembers addedLast added (membersFrom 0 items, none)
      .object members last
    | .object members last, _ =>
      let (members, last) := mergeMembers addedLast added (members, last)
      .object members last
/-- Adds elements, the first at position `i`. Two compound values at one position are merged; else
an element whose position is taken goes to the end. -/
def mergeItems (i : Nat) : List (Option Value) → List (Option Value) → List (Option Value)
  | [], into => into
  | none :: rest, into => mergeItems (i + 1) rest into
  | some v :: rest, into =>
    match into[i]? with
    | none | some none => mergeItems (i + 1) rest (fill into i v)
    | some (some before) =>
      if before.isCompound && v.isCompound then
        mergeItems (i + 1) rest (into.set i (some (mergeInto v before)))
      else mergeItems (i + 1) rest (into ++ [some v])
def mergeNumbered (i : Nat) :
    List (Option Value) → Members Value × Option Nat → Members Value × Option Nat
  | [], into => into
  | none :: rest, into => mergeNumbered (i + 1) rest into
  | some v :: rest, (members, last) =>
    let v := match members.get? (Text.decimal i) with
      | some before => mergeInto v before
      | none => v
    mergeNumbered (i + 1) rest
      (members.insert (Text.decimal i) v, lastAfter (Text.decimal i) last none)
def mergeMembers (addedLast : Option Nat) :
    List (String × Value) → Members Value × Option Nat → Members Value × Option Nat
  | [], into => into
  | (name, v) :: rest, (members, last) =>
    let v := match members.get? name with
      | some before => mergeInto v before
      | none => v
    mergeMembers addedLast rest (members.insert name v, lastAfter name last addedLast)
end

mutual
def toJson : Value → Json
  | .text s => .string s
  | .array items => .array (itemsToJson items)
  | .object members _ => .object (membersToJson members)
def itemsToJson : List (Option Value) → List Json
  | [] => []
  | none :: rest => itemsToJson rest
  | some v :: rest => toJson v :: itemsToJson rest
def membersToJson : List (String × Value) → List (String × Json)
  | [] => []
  | (name, v) :: rest => (name, toJson v) :: membersToJson rest
end

end Value

end AgentPlans.Query
