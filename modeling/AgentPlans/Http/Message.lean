import AgentPlans.Http.Target
import AgentPlans.Json.Basic
import AgentPlans.Text.LowerCase

/-!
# Requests and answers on the wire

What a client sends and what it gets back. The letter case of a method and of a header's name does
not matter, and a header's value is taken without the spaces and tabs around it.
-/

namespace AgentPlans.Http

structure Request where
  method : String
  target : String
  headers : List (String × String)
  body : Option String

inductive Response where
  | json (status : Nat) (body : Option Json)
  /-- An answer that holds no data: a page for people, or nothing. -/
  | other (status : Nat)

namespace Request

def verb (r : Request) : String := r.method.map Char.toUpper

/-- The value of a header. Of several with one name the last counts. -/
def header? (r : Request) (name : String) : Option String :=
  let isSpace (c : Char) : Bool := c == ' ' || c == '\t'
  (r.headers.reverse.find? fun h => Text.lowerCase h.1 == name).map fun h =>
    String.ofList ((h.2.toList.dropWhile isSpace).reverse.dropWhile isSpace).reverse

def verbs : List String := [
  "ACL", "BIND", "CHECKOUT", "CONNECT", "COPY", "DELETE", "GET", "HEAD", "LINK", "LOCK",
  "M-SEARCH", "MERGE", "MKACTIVITY", "MKCALENDAR", "MKCOL", "MOVE", "NOTIFY", "OPTIONS", "PATCH",
  "POST", "PROPFIND", "PROPPATCH", "PURGE", "PUT", "QUERY", "REBIND", "REPORT", "SEARCH", "SOURCE",
  "SUBSCRIBE", "TRACE", "UNBIND", "UNLINK", "UNLOCK", "UNSUBSCRIBE"]

def maxHeadBytes : Nat := 16384

/-- The octets of the headers that every client adds: the host, and that the connection is kept. -/
def addedHeadBytes : Nat := 39

def headBytes (r : Request) : Nat :=
  r.headers.foldl (fun n h => n + h.1.utf8ByteSize + h.2.utf8ByteSize)
    (r.target.utf8ByteSize + addedHeadBytes)

/-- Whether a word stands in a text, in any letter case and apart from letters, digits and the low
line. `before` is what precedes the text. -/
def holdsWord (word : List Char) (before : Option Char) : List Char → Bool
  | [] => false
  | c :: cs =>
    let isWordChar (c : Char) : Bool := c.isAlphanum || c == '_'
    let rest := (c :: cs).drop word.length
    (((c :: cs).take word.length).map Char.toLower == word && !before.any isWordChar &&
      !rest.head?.any isWordChar) || holdsWord word (some c) cs

def continueWord : List Char := "100-continue".toList

/-- Whether the headers tell where the body ends: its length in digits, or that it comes in chunks
which tell. No more than the announced length may follow. -/
def isFramed (r : Request) : Bool :=
  match r.header? "content-length", r.header? "transfer-encoding" with
  | none, none => true
  | some length, none =>
    length != "" && length.toList.all Char.isDigit &&
      (r.body.getD "").utf8ByteSize ≤ length.toList.foldl (fun n c => 10 * n + (c.toNat - 48)) 0
  | none, some codings => "chunked".toList.reverse.isPrefixOf (codings.toLower.toList.reverse)
  | some _, some _ => false

def refusal? (r : Request) : Option Nat :=
  if !verbs.contains r.verb || !Target.isWellFormed r.target.toList || !r.isFramed then some 400
  else if maxHeadBytes ≤ r.headBytes then some 431
  else
    match r.header? "expect" with
    | some expected => if holdsWord continueWord none expected.toList then none else some 417
    | none => none

end Request

end AgentPlans.Http
