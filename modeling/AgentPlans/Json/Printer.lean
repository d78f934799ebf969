import AgentPlans.Json.Basic

/-!
# Writing data values

The compact form has no white space. The indented form puts every item and member on a line of its
own, two spaces deeper than what holds it. A number without a finite value is written as null, and
half of a character as its code.
-/

namespace AgentPlans.Json

def hexDigitChar (n : Nat) : Char :=
  if n < 10 then Char.ofNat ('0'.toNat + n) else Char.ofNat ('a'.toNat + (n - 10))

def escapeUnit (unit : UInt16) : List Char :=
  let n := unit.toNat
  ['\\', 'u', hexDigitChar (n / 0x1000), hexDigitChar (n / 0x100 % 16), hexDigitChar (n / 16 % 16),
    hexDigitChar (n % 16)]

def escapeChar (c : Char) : List Char :=
  if c = '"' then ['\\', '"']
  else if c = '\\' then ['\\', '\\']
  else if c.toNat < 0x20 then
    if c = '\n' then ['\\', 'n']
    else if c = '\r' then ['\\', 'r']
    else if c = '\t' then ['\\', 't']
    else if c.toNat = 0x08 then ['\\', 'b']
    else if c.toNat = 0x0C then ['\\', 'f']
    else escapeUnit (.ofNat c.toNat)
  else [c]

def escapeSign : Sign → List Char
  | .char c => escapeChar c
  | .half unit => escapeUnit unit

def quoted (t : Utf16) : List Char :=
  '"' :: (t.signs.flatMap escapeSign ++ ['"'])

def numberChars (n : Number) : List Char :=
  if n.isFinite then n.chars else nullWord

mutual
def chars : Json → List Char
  | .null => nullWord
  | .bool b => if b then trueWord else falseWord
  | .number n => numberChars n
  | .string s => quoted s
  | .array [] => ['[', ']']
  | .array (item :: items) => '[' :: (item.chars ++ itemChars items)
  | .object [] => ['{', '}']
  | .object (m :: members) => '{' :: (memberChars m ++ membersChars members)
/-- The items after the first, up to the closing bracket. -/
def itemChars : List Json → List Char
  | [] => [']']
  | item :: items => ',' :: (item.chars ++ itemChars items)
def memberChars : String × Json → List Char
  | (name, value) => quoted name ++ ':' :: value.chars
def membersChars : List (String × Json) → List Char
  | [] => ['}']
  | m :: members => ',' :: (memberChars m ++ membersChars members)
end

def render (v : Json) : String := String.ofList v.chars

def newLine (depth : Nat) : List Char := '\n' :: List.replicate (2 * depth) ' '

mutual
def indentedChars (depth : Nat) : Json → List Char
  | .array (item :: items) =>
    '[' :: (newLine (depth + 1) ++ indentedChars (depth + 1) item ++ indentedItems depth items)
  | .object (m :: members) =>
    '{' :: (newLine (depth + 1) ++ indentedMember depth m ++ indentedMembers depth members)
  | .array [] => ['[', ']']
  | .object [] => ['{', '}']
  | .null => nullWord
  | .bool b => if b then trueWord else falseWord
  | .number n => numberChars n
  | .string s => quoted s
def indentedItems (depth : Nat) : List Json → List Char
  | [] => newLine depth ++ [']']
  | item :: items =>
    ',' :: (newLine (depth + 1) ++ indentedChars (depth + 1) item ++ indentedItems depth items)
def indentedMember (depth : Nat) : String × Json → List Char
  | (name, value) => quoted name ++ ':' :: ' ' :: indentedChars (depth + 1) value
def indentedMembers (depth : Nat) : List (String × Json) → List Char
  | [] => newLine depth ++ ['}']
  | m :: members =>
    ',' :: (newLine (depth + 1) ++ indentedMember depth m ++ indentedMembers depth members)
end

def renderIndented (v : Json) : String := String.ofList (indentedChars 0 v)

end AgentPlans.Json
