import AgentPlans.Json.Members
import AgentPlans.Number.Shortest
import AgentPlans.Text.Utf16

/-!
# Data values

The values of the data format, and the text that a value takes when it is put into a sentence: an
array's elements are joined by commas, an absent one empty, and an object shows only that it is one.
An object with a member `toString` has no such text. Half of a character is replaced there.
-/

namespace AgentPlans

inductive Json where
  | null
  | bool (value : Bool)
  | number (value : Number)
  | string (value : Utf16)
  | array (items : List Json)
  | object (members : List (String × Json))

namespace Json

instance : Inhabited Json := ⟨.null⟩

def get? : Json → String → Option Json
  | .object members, name => Members.get? members name
  | _, _ => none

def string? : Json → Option Utf16
  | .string s => some s
  | _ => none

def number? : Json → Option Number
  | .number n => some n
  | _ => none

def bool? : Json → Option Bool
  | .bool b => some b
  | _ => none

def isNull : Json → Bool
  | .null => true
  | _ => false

def truthy : Json → Bool
  | .null => false
  | .bool b => b
  | .number n => !(n == 0 || n == .negZero || n == .nan)
  | .string s => s != ("" : String)
  | .array _ | .object _ => true

def nullWord : List Char := ['n', 'u', 'l', 'l']

def trueWord : List Char := ['t', 'r', 'u', 'e']

def falseWord : List Char := ['f', 'a', 'l', 's', 'e']

mutual
/-- The text of a value within a sentence; `none` where it has none. -/
def phrase? : Json → Option (List Char)
  | .null => some nullWord
  | .bool b => some (if b then trueWord else falseWord)
  | .number n => some n.chars
  | .string s => some s.repaired.toList
  | .array items => joined? items
  | .object members =>
    if Members.contains members "toString" then none else some "[object Object]".toList
def joined? : List Json → Option (List Char)
  | [] => some []
  | .null :: rest => commaJoined? rest
  | item :: rest => do
    let first ← item.phrase?
    let others ← commaJoined? rest
    return first ++ others
def commaJoined? : List Json → Option (List Char)
  | [] => some []
  | .null :: rest => (',' :: ·) <$> commaJoined? rest
  | item :: rest => do
    let first ← item.phrase?
    let others ← commaJoined? rest
    return ',' :: first ++ others
end

def phraseText? (v : Json) : Option String := String.ofList <$> v.phrase?

def noPhraseMessage : String := "Cannot convert object to primitive value"

end Json

end AgentPlans
