/-!
# Percent escapes

Reading text in which `%` and two hexadecimal digits stand for an octet of UTF-8. The reader is
strict: a stray `%`, and octets that are not the shortest UTF-8 form of a character, are refused.
-/

namespace AgentPlans.Text

def hexDigit? (c : Char) : Option Nat :=
  if '0' ≤ c ∧ c ≤ '9' then some (c.toNat - '0'.toNat)
  else if 'a' ≤ c ∧ c ≤ 'f' then some (c.toNat - 'a'.toNat + 10)
  else if 'A' ≤ c ∧ c ≤ 'F' then some (c.toNat - 'A'.toNat + 10)
  else none

inductive EscapePiece where
  | char (c : Char)
  | octet (value : Nat)

def escapePieces : List Char → Option (List EscapePiece)
  | [] => some []
  | '%' :: high :: low :: rest => do
    let h ← hexDigit? high
    let l ← hexDigit? low
    let pieces ← escapePieces rest
    return .octet (16 * h + l) :: pieces
  | '%' :: _ => none
  | c :: rest => do
    let pieces ← escapePieces rest
    return .char c :: pieces

def scalar? (code : Nat) : Option Char :=
  if code < 0xD800 ∨ (0xE000 ≤ code ∧ code ≤ 0x10FFFF) then some (Char.ofNat code) else none

/-- A character some of whose octets have been read: how many are missing, the bits so far, and the
least code point that takes this many octets. -/
structure PartialChar where
  missing : Nat
  code : Nat
  least : Nat

def PartialChar.ofLead? (octet : Nat) : Option PartialChar :=
  if octet < 0x80 then some ⟨0, octet, 0⟩
  else if octet < 0xC0 then none
  else if octet < 0xE0 then some ⟨1, octet - 0xC0, 0x80⟩
  else if octet < 0xF0 then some ⟨2, octet - 0xE0, 0x800⟩
  else if octet < 0xF8 then some ⟨3, octet - 0xF0, 0x10000⟩
  else none

def PartialChar.push? (p : PartialChar) (octet : Nat) : Option PartialChar :=
  if 0x80 ≤ octet ∧ octet < 0xC0 then some ⟨p.missing - 1, p.code * 0x40 + (octet - 0x80), p.least⟩
  else none

def PartialChar.finish? (p : PartialChar) : Option Char :=
  if p.code < p.least then none else scalar? p.code

/-- Puts octets together; `open?` is the character in the middle of which the text stands. -/
def joinOctets (open? : Option PartialChar) : List EscapePiece → Option (List Char)
  | [] => if open?.isSome then none else some []
  | .char c :: rest => if open?.isSome then none else (c :: ·) <$> joinOctets none rest
  | .octet o :: rest => do
    let next ← match open? with
      | none => PartialChar.ofLead? o
      | some p => p.push? o
    if next.missing = 0 then
      let c ← next.finish?
      (c :: ·) <$> joinOctets none rest
    else
      joinOctets (some next) rest

def percentDecode? (cs : List Char) : Option (List Char) := do
  let pieces ← escapePieces cs
  joinOctets none pieces

end AgentPlans.Text
