import AgentPlans.Text.Blank
import AgentPlans.Text.Percent

/-!
# Targets of requests

The path and the query that a request's target names. Most targets are a path that begins with a
slash, and a query behind a question mark. Any other target is read as an address: a scheme and a
host may stand in front, backslashes in the path are slashes, a fragment behind `#` is passed over,
and characters that an address may not hold are escaped. Some addresses name no path.
-/

namespace AgentPlans.Http

structure Target where
  path : List Char
  query : List Char

namespace Target

def ofParts? (cs : List Char) : Option Target :=
  let whole := cs.takeWhile (· != '#')
  match whole.takeWhile (· != '?') with
  | [] => none
  | path => some ⟨path, (whole.dropWhile (· != '?')).drop 1⟩

def marksAddress (c : Char) : Bool :=
  ['\t', '\n', '\x0c', '\r', ' ', '#'].contains c || c.toNat == 0xA0 || c.toNat == 0xFEFF

def isMargin (c : Char) : Bool := c.toNat < 33 || c.toNat == 0xA0 || c.toNat == 0xFEFF

def trimAddress (cs : List Char) : List Char :=
  ((cs.dropWhile isMargin).reverse.dropWhile isMargin).reverse

def endsPath (c : Char) : Bool := c == '?' || c == '#'

def unifySlashes (cs : List Char) : List Char :=
  (cs.takeWhile (!endsPath ·)).map (fun c => if c = '\\' then '/' else c) ++
    cs.dropWhile (!endsPath ·)

/-- Whether an address is a path, one or two slashes in front, with or without a query. -/
def isPlain (cs : List Char) : Bool :=
  let slashes := (cs.takeWhile (· == '/')).length
  (slashes == 1 || slashes == 2) && !cs.any Text.isBlank

def isSchemeChar (c : Char) : Bool := c.isAlphanum || c == '.' || c == '+' || c == '-'

def takeScheme (cs : List Char) : Option String × List Char :=
  match cs.takeWhile isSchemeChar, cs.dropWhile isSchemeChar with
  | c :: scheme, ':' :: rest => (some (String.ofList ((c :: scheme).map Char.toLower)), rest)
  | _, _ => (none, cs)

/-- Schemes whose addresses have a host only behind two slashes. -/
def slashedSchemes : List String := ["http", "https", "ftp", "gopher", "file", "ws", "wss"]

def programScheme : String := "javascript"

def namesUser (cs : List Char) : Bool :=
  match cs with
  | '/' :: '/' :: rest =>
    let isPart (c : Char) : Bool := c != '@' && c != '/'
    match rest.takeWhile isPart, rest.dropWhile isPart with
    | _ :: _, '@' :: c :: _ => isPart c
    | _, _ => false
  | _ => false

def endsHost (c : Char) : Bool :=
  ['\t', '\n', '\r', ' ', '"', '%', '\'', ';', '<', '>', '\\', '^', '\x7b', '|', '\x7d'].contains c
    || c.toNat == 0x60

def isForbidden (c : Char) : Bool := c == '[' || c == ']' || c == '@' || c.toNat == 0

def dropPort (host : List Char) : List Char :=
  match host.reverse.dropWhile Char.isDigit with
  | ':' :: rest => rest.reverse
  | _ => host

def isBracketed (host : List Char) : Bool :=
  host.head? == some '[' && host.getLast? == some ']'

def maxHostLength : Nat := 255

/-- Whether a host is named, and what follows it; `none` if the address is refused. The host ends
with the path, the query or the fragment, and the last `@` in front of that parts a user from it. -/
def takeHost? (cs : List Char) : Option (Bool × List Char) := do
  let isOutside (c : Char) : Bool := c == '/' || endsPath c
  let authority := cs.takeWhile (!isOutside ·)
  let after := cs.dropWhile (!isOutside ·)
  let host := (authority.reverse.takeWhile (· != '@')).reverse
  let user := authority.take (authority.length - host.length - 1)
  let _ ← Text.percentDecode? user
  let after := host.dropWhile (!endsHost ·) ++ after
  let name := dropPort (host.takeWhile (!endsHost ·))
  if isBracketed name then
    return (name.length ≤ maxHostLength, if after.head? = some '/' then after else '/' :: after)
  else
    let after := match name.dropWhile (· != ':') with
      | [] => after
      | port => '/' :: port ++ after
    let name := name.takeWhile (· != ':')
    if maxHostLength < name.length then return (false, after)
    else if name.any isForbidden then none
    else return (name != [], after)

def escape (cs : List Char) : List Char :=
  cs.flatMap fun c =>
    if ['\t', '\n', '\r', ' ', '"', '\'', '<', '>', '\\', '^', '\x7b', '|', '\x7d'].contains c ∨
      c.toNat = 0x60 then
      '%' :: ((Nat.toDigits 16 c.toNat).map Char.toUpper).leftpad 2 '0'
    else [c]

def ofAddress? (raw : List Char) : Option Target :=
  let cs := unifySlashes (trimAddress raw)
  if isPlain cs && !raw.contains '#' && !(raw.takeWhile (!endsPath ·)).contains '@' then
    ofParts? cs
  else
    let (scheme, rest) := takeScheme cs
    let isSlashed := scheme.any slashedSchemes.contains
    let slashes := (scheme.isSome || namesUser rest) && ['/', '/'].isPrefixOf rest
    if scheme = some programScheme then none
    else if slashes || (scheme.isSome && !isSlashed) then
      match takeHost? (if slashes then rest.drop 2 else rest) with
      | none => none
      | some (named, rest) =>
        let rest := escape rest
        match ofParts? rest with
        | none => if named && isSlashed then ofParts? ('/' :: rest) else none
        | some target => some target
    else ofParts? (escape rest)

def read? (raw : List Char) : Option Target :=
  match raw with
  | '/' :: rest => if rest.any marksAddress then ofAddress? raw else ofParts? raw
  | _ => ofAddress? raw

def beforeMark? : List Char → Option (List Char)
  | [] => none
  | ':' :: '/' :: '/' :: _ => some []
  | c :: rest => (beforeMark? rest).map (c :: ·)

def origin (raw : List Char) : List Char :=
  if raw.head? = some '/' then []
  else
    match beforeMark? (raw.takeWhile (· != '?')) with
    | none => []
    | some scheme =>
      let start := scheme.length + 3
      let host := (raw.drop start).takeWhile (· != '/')
      if start + host.length < raw.length then raw.take (start + host.length) else []

def below (raw : List Char) (length : Nat) : List Char :=
  let origin := origin raw
  let rest := raw.drop (origin.length + length)
  if origin = [] ∧ rest.head? ≠ some '/' then '/' :: rest else origin ++ rest

/-- Whether a target has the form of one: a path, a star, or a scheme of letters with a host. -/
def isWellFormed (raw : List Char) : Bool :=
  let isVisible (c : Char) : Bool := 0x20 < c.toNat && c.toNat != 0x7F
  raw.all isVisible &&
    match raw with
    | '/' :: _ | '*' :: _ => true
    | _ =>
      match raw.takeWhile Char.isAlpha, raw.dropWhile Char.isAlpha with
      | _ :: _, ':' :: '/' :: '/' :: rest =>
        let authority := rest.takeWhile fun c => c != '/' && c != '?'
        (authority.all fun c => c.isAlphanum ||
          "-_.!~*'()%;:&=+$,[]@".toList.contains c) && authority.count '@' ≤ 1
      | _, _ => false

end Target

end AgentPlans.Http
