import AgentPlans.Text.LowerCase

/-!
# Media types

The type that a header gives to a body: its name, and parameters behind semicolons. Only spaces may
stand around its parts. A parameter's value is a word, or text between quotes in which a backslash
makes the next character part of the text.
-/

namespace AgentPlans.Http

structure MediaType where
  /-- In lower case. -/
  name : String
  parameters : List (String × List Char)

namespace MediaType

def isTokenChar (c : Char) : Bool :=
  c.isAlphanum ||
    ['!', '#', '$', '%', '&', '\'', '*', '+', '-', '.', '^', '_', '|', '~'].contains c ||
    c.toNat == 0x60

def skipSpaces (cs : List Char) : List Char := cs.dropWhile (· == ' ')

def isQuotedChar (c : Char) : Bool :=
  (0x20 ≤ c.toNat && c.toNat ≤ 0x7E && c != '"' && c != '\\') ||
    (0x80 ≤ c.toNat && c.toNat ≤ 0xFF)

def quotedValue? : List Char → Option (List Char × List Char)
  | [] => none
  | '"' :: rest => some ([], rest)
  | '\\' :: c :: rest =>
    if 0x20 ≤ c.toNat ∧ c.toNat ≤ 0x7E then
      (quotedValue? rest).map fun (value, after) => (c :: value, after)
    else none
  | c :: rest =>
    if isQuotedChar c then (quotedValue? rest).map fun (value, after) => (c :: value, after)
    else none

def token? (cs : List Char) : Option (List Char × List Char) :=
  match cs.takeWhile isTokenChar with
  | [] => none
  | word => some (word, cs.dropWhile isTokenChar)

def value? : List Char → Option (List Char × List Char)
  | '"' :: rest => quotedValue? rest
  | cs => token? cs

def parameters? : Nat → List Char → Option (List (String × List Char))
  | _, [] => some []
  | fuel + 1, ';' :: rest => do
    let (name, rest) ← token? (skipSpaces rest)
    match skipSpaces rest with
    | '=' :: rest =>
      let (value, rest) ← value? (skipSpaces rest)
      let others ← parameters? fuel (skipSpaces rest)
      return (Text.lowerCase (String.ofList name), value) :: others
    | _ => none
  | _, _ => none

def ofText? (s : String) : Option MediaType := do
  let cs := s.toList
  let name := (skipSpaces (cs.takeWhile (· != ';'))).reverse
  let parameters ← parameters? cs.length (cs.dropWhile (· != ';'))
  return ⟨Text.lowerCase (String.ofList (skipSpaces name).reverse), parameters⟩

/-- A parameter's value; of equal names the last counts. -/
def parameter? (m : MediaType) (name : String) : Option (List Char) :=
  m.parameters.reverse.lookup name

def json : String := "application/json"

end MediaType

end AgentPlans.Http
