/-!
# Calendar

The proleptic Gregorian calendar with a year zero. Days are counted from the first of January of
year zero, in both directions.
-/

namespace AgentPlans.Time

structure Date where
  year : Int
  month : Nat
  day : Nat
  deriving DecidableEq

def isLeap (year : Int) : Bool :=
  year % 4 == 0 && (year % 100 != 0 || year % 400 == 0)

def daysBeforeYear (year : Int) : Int :=
  365 * year + (year + 3) / 4 - (year + 99) / 100 + (year + 399) / 400

def monthLengths (leap : Bool) : List Nat :=
  [31, if leap then 29 else 28, 31, 30, 31, 30, 31, 31, 30, 31, 30, 31]

def daysBeforeMonth (leap : Bool) (month : Nat) : Nat :=
  ((monthLengths leap).take (month - 1)).foldr (· + ·) 0

/-- A date's day number. A day beyond the month's end runs on into the next. -/
def Date.dayNumber (d : Date) : Int :=
  daysBeforeYear d.year + daysBeforeMonth (isLeap d.year) d.month + ((d.day : Int) - 1)

/-- The year that holds a day. The mean length of a year is close enough to be wrong by one at
most. -/
def yearOfDay (n : Int) : Int :=
  let guess := 400 * n / 146097
  if n < daysBeforeYear guess then guess - 1
  else if daysBeforeYear (guess + 1) ≤ n then guess + 1
  else guess

/-- The month, counted from `month`, and the day in it, of the day that stands `days` after the
first of `month`. -/
def monthAndDay (month : Nat) : List Nat → Nat → Nat × Nat
  | [], days => (month, days + 1)
  | length :: rest, days =>
    if days < length then (month, days + 1) else monthAndDay (month + 1) rest (days - length)

def Date.ofDayNumber (n : Int) : Date :=
  let year := yearOfDay n
  let (month, day) := monthAndDay 1 (monthLengths (isLeap year)) (n - daysBeforeYear year).toNat
  ⟨year, month, day⟩

end AgentPlans.Time
