import AgentPlans.Text.Decimal
import AgentPlans.Time.Calendar

/-!
# Instants

A moment in whole milliseconds from the start of 1970, and its text in coordinated universal time:
four digits for the years 0 to 9999, a sign and six digits for the others. Instants reach a hundred
million days in both directions.
-/

namespace AgentPlans.Time

def Instant.range : Int := 8640000000000000

structure Instant where
  millis : Int
  inRange : -Instant.range ≤ millis ∧ millis ≤ Instant.range := by decide
  deriving DecidableEq

namespace Instant

open Text (padded)

/-- The instant so many milliseconds from the epoch, if instants reach as far. -/
def ofMillis? (millis : Int) : Option Instant :=
  if h : -range ≤ millis ∧ millis ≤ range then some ⟨millis, h⟩ else none

def absentMessage : String := "Invalid time value"

def epochDay : Int := 719528

def millisPerDay : Int := 86400000

def date (t : Instant) : Date :=
  .ofDayNumber (t.millis / millisPerDay + epochDay)

def timeOfDay (t : Instant) : Nat :=
  (t.millis % millisPerDay).toNat

def yearChars (year : Int) : List Char :=
  if 0 ≤ year ∧ year ≤ 9999 then padded 4 year.toNat
  else (if year < 0 then '-' else '+') :: padded 6 year.natAbs

def isoChars (t : Instant) : List Char :=
  let d := t.date
  let ms := t.timeOfDay
  yearChars d.year ++ '-' :: padded 2 d.month ++ '-' :: padded 2 d.day ++
    'T' :: padded 2 (ms / 3600000) ++ ':' :: padded 2 (ms / 60000 % 60) ++
    ':' :: padded 2 (ms / 1000 % 60) ++ '.' :: padded 3 (ms % 1000) ++ ['Z']

def iso (t : Instant) : String := String.ofList t.isoChars

end Instant

end AgentPlans.Time
