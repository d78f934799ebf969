/-!
# Decimal numerals

Natural numbers in base ten, without leading zeros or padded to a width.
-/

namespace AgentPlans.Text

def decimalChars (n : Nat) : List Char := Nat.toDigits 10 n

def decimal (n : Nat) : String := String.ofList (decimalChars n)

def padded (width n : Nat) : List Char := (decimalChars n).leftpad width '0'

end AgentPlans.Text
