import AgentPlans.Text.Blank
import AgentPlans.Text.Units

/-!
# Texts of units

A text that is any row of sixteen-bit units. Two halves of a character form it where they meet in
the right order. A half that stands alone is kept, but it is no character: as octets the text can
only be written with a replacement character in its place.
-/

namespace AgentPlans

structure Utf16 where
  units : List UInt16
  deriving DecidableEq

/-- What units form: a character, or a half without the other. -/
inductive Sign where
  | char (c : Char)
  | half (unit : UInt16)
  deriving DecidableEq

namespace Sign

def units : Sign → List UInt16
  | .char c => Text.units c
  | .half unit => [unit]

def repaired : Sign → Char
  | .char c => c
  | .half _ => Text.replacement

end Sign

namespace Utf16

def ofString (s : String) : Utf16 := ⟨s.toList.flatMap Text.units⟩

instance : Coe String Utf16 := ⟨ofString⟩

def isHigh (unit : UInt16) : Bool := 0xD800 ≤ unit && unit < 0xDC00

def isLow (unit : UInt16) : Bool := 0xDC00 ≤ unit && unit < 0xE000

def join (high low : UInt16) : Char :=
  Char.ofNat (0x10000 + (high.toNat - 0xD800) * 0x400 + (low.toNat - 0xDC00))

def alone (unit : UInt16) : Sign :=
  if isHigh unit || isLow unit then .half unit else .char (Char.ofNat unit.toNat)

def signsOf : List UInt16 → List Sign
  | [] => []
  | [unit] => [alone unit]
  | first :: second :: rest =>
    if isHigh first && isLow second then .char (join first second) :: signsOf rest
    else alone first :: signsOf (second :: rest)

def signs (t : Utf16) : List Sign := signsOf t.units

def isAscii (kind : Char → Bool) (unit : UInt16) : Bool :=
  unit < 0x80 && kind (Char.ofNat unit.toNat)

def ascii (c : Char) : UInt16 := .ofNat c.toNat

/-- The text with a replacement character for every half that stands alone. -/
def repaired (t : Utf16) : String := String.ofList (t.signs.map Sign.repaired)

/-- Whether the text is white space. A half is none, and nor is what replaces it. -/
def isBlank (t : Utf16) : Bool := Text.isBlankText t.repaired

end Utf16

end AgentPlans
