/-!
# Sixteen-bit units

Text cut by UTF-16 code units, of which a character beyond the basic plane has two.
-/

namespace AgentPlans.Text

def unitsOf (c : Char) : Nat :=
  if c.toNat < 0x10000 then 1 else 2

def replacement : Char := Char.ofNat 0xFFFD

/-- The first `n` units. A character that the cut goes through leaves a replacement character. -/
def takeUnits : Nat → List Char → List Char
  | 0, _ => []
  | _, [] => []
  | n + 1, c :: cs =>
    if unitsOf c = 1 then c :: takeUnits n cs
    else match n with
      | 0 => [replacement]
      | m + 1 => c :: takeUnits m cs

def units (c : Char) : List UInt16 :=
  if unitsOf c = 1 then [.ofNat c.toNat]
  else
    let offset := c.toNat - 0x10000
    [.ofNat (0xD800 + offset / 0x400), .ofNat (0xDC00 + offset % 0x400)]

def precedes : List UInt16 → List UInt16 → Bool
  | [], _ => true
  | _ :: _, [] => false
  | a :: as, b :: bs => a < b || (a == b && precedes as bs)

def unitsLe (a b : List Char) : Bool := precedes (a.flatMap units) (b.flatMap units)

end AgentPlans.Text
