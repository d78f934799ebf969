import AgentPlans.Http.MediaType
import AgentPlans.Http.Message
import AgentPlans.Json.Reader
import AgentPlans.Text.CharacterSet

/-!
# Reading bodies

The data in the body of a request. Only a body of type `application/json` is read. It has to be text
of a known character set, sent as it is, of at most one mebibyte, and its outermost value has to be
an array or an object. A body that is absent, empty or not read is an empty object.
-/

namespace AgentPlans.Http

def maxBodyBytes : Nat := 1048576

inductive Encoding where
  | identity
  /-- Compressed. No text is a compressed text. -/
  | compressed
  | unknown

def Encoding.ofName (name : String) : Encoding :=
  if name = "" ∨ name = "identity" then .identity
  else if name = "gzip" ∨ name = "deflate" then .compressed
  else .unknown

def readText? (cs : List Char) : Option Json :=
  if cs = [] then some (.object [])
  else
    match Json.skipSpace cs with
    | '[' :: _ | '\x7b' :: _ => Json.parseChars cs
    | _ => none

namespace Request

def bodilessVerbs : List String := ["GET", "HEAD", "DELETE", "OPTIONS", "TRACE", "CONNECT"]

def content? (r : Request) : Option ByteArray :=
  let octets := (r.body.getD "").toUTF8
  if octets.isEmpty && bodilessVerbs.contains r.verb && (r.header? "content-length").isNone &&
    (r.header? "transfer-encoding").isNone then none
  else some octets

/-- The type of the body. A body whose type is not given is taken for data. -/
def mediaType? (r : Request) : Option MediaType :=
  match r.header? "content-type", r.body with
  | some s, _ => MediaType.ofText? s
  | none, some _ => some ⟨MediaType.json, []⟩
  | none, none => none

def encoding (r : Request) : Encoding :=
  .ofName (Text.lowerCase ((r.header? "content-encoding").getD ""))

def charsetOf (m : MediaType) : List Char :=
  match (Text.lowerCase (String.ofList ((m.parameter? "charset").getD []))).toList with
  | [] => ['u', 't', 'f', '-', '8']
  | name => name

/-- Reads data, or gives the status that refuses it. The name of a character set that is no form of
Unicode is refused first, then the way the body is sent, its length, and a form that is not
known. -/
def readContent (r : Request) (m : MediaType) (octets : ByteArray) : Except Nat Json :=
  let charset := charsetOf m
  if charset.take 4 ≠ ['u', 't', 'f', '-'] then .error 415
  else
    match r.encoding, Text.CharacterSet.ofName? charset with
    | .unknown, _ | .compressed, none => .error 415
    | .compressed, some _ => .error 400
    | .identity, set? =>
      if maxBodyBytes < octets.size then .error 413
      else
        match set? with
        | none => .error 415
        | some set =>
          match (set.decode? octets).bind readText? with
          | some v => .ok v
          | none => .error 400

def readBody (r : Request) : Except Nat Json :=
  match r.content?, r.mediaType? with
  | some octets, some m =>
    if m.name = MediaType.json then r.readContent m octets else .ok (.object [])
  | _, _ => .ok (.object [])

end Request

end AgentPlans.Http
