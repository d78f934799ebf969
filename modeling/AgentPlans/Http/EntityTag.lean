import AgentPlans.Digest.Sha1
import AgentPlans.Http.Message
import AgentPlans.Json.Printer
import AgentPlans.Text.Base64
import AgentPlans.Text.Blank
import AgentPlans.Text.Split

/-!
# Entity tags

An answer's body is tagged by its length and its hash. A client that shows the tag of what it holds
is told that nothing has changed instead of being sent the same body again.
-/

namespace AgentPlans.Http

def entityTag (body : Json) : List Char :=
  let octets := body.render.toUTF8.data.toList.map (·.toNat)
  "W/\"".toList ++ Nat.toDigits 16 octets.length ++ '-' :: Text.base64 (Digest.Sha1.hash octets) ++
    ['"']

/-- Whether a tag that is held is this one. Strong and weak tags are not told apart. -/
def matchesTag (tag held : List Char) : Bool :=
  held == tag || held == 'W' :: '/' :: tag || 'W' :: '/' :: held == tag

def trimSpaces (cs : List Char) : List Char :=
  ((cs.dropWhile (· == ' ')).reverse.dropWhile (· == ' ')).reverse

namespace Request

def refusesStored (r : Request) : Bool :=
  (Text.split ',' ((r.header? "cache-control").getD "").toList).any fun item =>
    Text.trimChars item == "no-cache".toList

/-- Whether the client holds this body already. A date that it holds it from tells nothing. -/
def holds (r : Request) (body : Json) : Bool :=
  let held := ((r.header? "if-none-match").getD "").toList
  let date := (r.header? "if-modified-since").getD ""
  held != [] && date == "" && !r.refusesStored &&
    (held == ['*'] ||
      (Text.split ',' held).any fun item => matchesTag (entityTag body) (trimSpaces item))

end Request

end AgentPlans.Http
