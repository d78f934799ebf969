import AgentPlans.Number.Basic

/-!
# Rounding to binary64

The nearest binary64 value of a rational, a half going to the even neighbour. A value at or beyond
the end of the range is infinite.
-/

namespace AgentPlans.Number

def roundHalfEven (num den : Nat) : Nat :=
  let quotient := num / den
  let twice := 2 * (num % den)
  if twice < den then quotient
  else if den < twice then quotient + 1
  else quotient + quotient % 2

def scaled (base num den : Nat) (e : Int) : Nat × Nat :=
  if 0 ≤ e then (num * Nat.pow base e.toNat, den) else (num, den * Nat.pow base (-e).toNat)

/-- The exponent `k` with `2^k ≤ num / den < 2^(k+1)`, for positive `num` and `den`. -/
def binaryExponent (num den : Nat) : Int :=
  let k : Int := (num.log2 : Int) - den.log2
  let (power, bound) := scaled 2 den num k
  if power ≤ bound then k else k - 1

def lastPlace (num den : Nat) : Int :=
  let e := binaryExponent num den - 52
  if e < -1074 then -1074 else e

def inUnits (num den : Nat) (e : Int) : Nat × Nat := scaled 2 num den (-e)

/-- The nearest binary64 magnitude; `none` when it is beyond the range. -/
def nearestMagnitude (num den : Nat) : Option Rat :=
  if num = 0 then some 0
  else
    let e := lastPlace num den
    let (n, d) := inUnits num den e
    let (top, bottom) := scaled 2 (roundHalfEven n d) 1 e
    if Nat.pow 2 1024 * bottom ≤ top then none else some (mkRat top bottom)

/-- Up to `2^53`, whole numbers are binary64 values. -/
def wholeLimit : Nat := 9007199254740992

def nearest (negative : Bool) (num den : Nat) : Number :=
  if num = 0 then (if negative then .negZero else 0)
  else if den = 1 ∧ num ≤ wholeLimit then .ofInt (if negative then -(num : Int) else num)
  else
    match nearestMagnitude num den with
    | none => .infinity negative
    | some q =>
      if q = 0 then (if negative then .negZero else 0)
      else .finite (if negative then -q else q)

end AgentPlans.Number
