import AgentPlans.Json.Basic
import AgentPlans.Number.Literal
import AgentPlans.Text.Percent

/-!
# Reading data values

The strict grammar: space, tab, line feed and carriage return between tokens, no comments, no
trailing commas, no leading zeros. Of equal member names the last value counts. An escape may stand
for half of a character; a text keeps it, a member name is read with a replacement character.

The reader is given as much fuel as there are characters, which it cannot use up.
-/

namespace AgentPlans.Json

def isSpace (c : Char) : Bool :=
  c == ' ' || c == '\n' || c == '\r' || c == '\t'

def skipSpace (cs : List Char) : List Char := cs.dropWhile isSpace

def shortEscape? (c : Char) : Option Char :=
  if c = '"' ∨ c = '\\' ∨ c = '/' then some c
  else if c = 'n' then some '\n'
  else if c = 'r' then some '\r'
  else if c = 't' then some '\t'
  else if c = 'b' then some (Char.ofNat 0x08)
  else if c = 'f' then some (Char.ofNat 0x0C)
  else none

def unit? (a b c d : Char) : Option UInt16 := do
  let a ← Text.hexDigit? a
  let b ← Text.hexDigit? b
  let c ← Text.hexDigit? c
  let d ← Text.hexDigit? d
  return .ofNat (((a * 16 + b) * 16 + c) * 16 + d)

/-- Reads up to the closing quote; `before` holds the units so far, last first. -/
def readText (before : List UInt16) : List Char → Option (Utf16 × List Char)
  | [] => none
  | '"' :: rest => some (⟨before.reverse⟩, rest)
  | '\\' :: 'u' :: a :: b :: c :: d :: rest =>
    match unit? a b c d with
    | some unit => readText (unit :: before) rest
    | none => none
  | '\\' :: c :: rest =>
    match shortEscape? c with
    | some image => readText ((Text.units image).reverse ++ before) rest
    | none => none
  | c :: rest =>
    if c.toNat < 0x20 ∨ c = '\\' then none else readText ((Text.units c).reverse ++ before) rest

def readMagnitude (negative : Bool) (cs : List Char) : Option (Json × List Char) :=
  let (whole, afterWhole) := match cs with
    | '0' :: rest => (['0'], rest)
    | _ => (cs.takeWhile Number.isDigit, cs.dropWhile Number.isDigit)
  if whole = [] then none
  else
    let (fraction, afterFraction) := match afterWhole with
      | '.' :: rest =>
        match rest.takeWhile Number.isDigit with
        | [] => ([], afterWhole)
        | digits => (digits, rest.dropWhile Number.isDigit)
      | rest => ([], rest)
    let (e, rest) := Number.takeExponent afterFraction
    some (.number (Number.ofDecimal negative (whole ++ fraction) (e - fraction.length)), rest)

def readNumber : List Char → Option (Json × List Char)
  | '-' :: rest => readMagnitude true rest
  | cs => readMagnitude false cs

mutual
def readValue : Nat → List Char → Option (Json × List Char)
  | 0, _ => none
  | fuel + 1, cs =>
    match skipSpace cs with
    | 'n' :: 'u' :: 'l' :: 'l' :: rest => some (.null, rest)
    | 't' :: 'r' :: 'u' :: 'e' :: rest => some (.bool true, rest)
    | 'f' :: 'a' :: 'l' :: 's' :: 'e' :: rest => some (.bool false, rest)
    | '"' :: rest =>
      match readText [] rest with
      | some (s, rest) => some (.string s, rest)
      | none => none
    | '[' :: rest =>
      match skipSpace rest with
      | ']' :: rest => some (.array [], rest)
      | rest => readItems fuel [] rest
    | '{' :: rest =>
      match skipSpace rest with
      | '}' :: rest => some (.object [], rest)
      | rest => readMembers fuel [] rest
    | rest => readNumber rest
def readItems : Nat → List Json → List Char → Option (Json × List Char)
  | 0, _, _ => none
  | fuel + 1, before, cs =>
    match readValue fuel cs with
    | none => none
    | some (item, rest) =>
      match skipSpace rest with
      | ',' :: rest => readItems fuel (item :: before) rest
      | ']' :: rest => some (.array (item :: before).reverse, rest)
      | _ => none
def readMembers : Nat → Members Json → List Char → Option (Json × List Char)
  | 0, _, _ => none
  | fuel + 1, members, cs =>
    match skipSpace cs with
    | '"' :: rest =>
      match readText [] rest with
      | none => none
      | some (name, rest) =>
        match skipSpace rest with
        | ':' :: rest =>
          match readValue fuel rest with
          | none => none
          | some (value, rest) =>
            match skipSpace rest with
            | ',' :: rest => readMembers fuel (members.insert name.repaired value) rest
            | '}' :: rest => some (.object (members.insert name.repaired value), rest)
            | _ => none
        | _ => none
    | _ => none
end

def parseChars (cs : List Char) : Option Json :=
  match readValue (2 * cs.length + 2) cs with
  | some (v, rest) => if skipSpace rest = [] then some v else none
  | none => none

def parse (s : String) : Option Json := parseChars s.toList

end AgentPlans.Json
