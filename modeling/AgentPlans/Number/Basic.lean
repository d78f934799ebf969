/-!
# Numbers

The numbers of the data format: the rationals that a binary64 word holds, negative zero, the two
infinities and the value that is not a number. Values are exact; rounding happens where text is
read.
-/

namespace AgentPlans

inductive Number where
  /-- A finite value. Zero is positive here. -/
  | finite (value : Rat)
  | negZero
  | infinity (negative : Bool)
  | nan
  deriving DecidableEq

namespace Number

def ofInt (n : Int) : Number := .finite n

instance (n : Nat) : OfNat Number n := ⟨.ofInt n⟩

def isFinite : Number → Bool
  | .finite _ | .negZero => true
  | _ => false

def isNan : Number → Bool
  | .nan => true
  | _ => false

def value? : Number → Option Rat
  | .finite q => some q
  | .negZero => some 0
  | _ => none

/-- Order on numbers; nothing is below or above the value that is not a number. -/
def lt : Number → Number → Bool
  | .nan, _ | _, .nan => false
  | .infinity negative, b => negative && b != .infinity true
  | a, .infinity negative => !negative && a != .infinity false
  | .finite a, .finite b => a < b
  | .finite a, .negZero => a < 0
  | .negZero, .finite b => 0 < b
  | .negZero, .negZero => false

/-- The lesser of two; not a number if either is not; negative zero is below zero. -/
def min (a b : Number) : Number :=
  if a.isNan || b.isNan then .nan
  else if a.lt b then a
  else if b.lt a then b
  else if a = .negZero then a
  else b

def max (a b : Number) : Number :=
  if a.isNan || b.isNan then .nan
  else if a.lt b then b
  else if b.lt a then a
  else if a = .negZero then b
  else a

def floor : Number → Number
  | .finite q => .ofInt q.floor
  | a => a

def toInt? (a : Number) : Option Int := do
  let q ← a.value?
  if q.den = 1 then some q.num else none

/-- The value, when it is a whole number strictly between the two ends of the signed 64-bit range.
-/
def toInt64? (a : Number) : Option Int := do
  let n ← a.toInt?
  if -9223372036854775808 < n ∧ n < 9223372036854775808 then some n else none

end Number

end AgentPlans
