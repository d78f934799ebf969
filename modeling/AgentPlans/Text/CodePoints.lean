import AgentPlans.Text.Percent
import AgentPlans.Text.Split

/-!
# Tables of code points

Tables are written as words between white space. A code point is a hexadecimal number; `first-last`
is a run of code points, and with a step behind a slash only every so many of them belong to it.
-/

namespace AgentPlans.Text

def tableWords (table : String) : List (List Char) :=
  (split ' ' (table.toList.map fun c => if c = '\n' then ' ' else c)).filter (· != [])

def splitFirst (c : Char) (cs : List Char) : List Char × List Char :=
  (cs.takeWhile (· != c), (cs.dropWhile (· != c)).drop 1)

def hexNumber (cs : List Char) : Nat :=
  cs.foldl (fun n c => 16 * n + (hexDigit? c).getD 0) 0

def codeSequence (cs : List Char) : List Nat := (split ':' cs).map hexNumber

structure CodeRun where
  first : Nat
  last : Nat
  step : Nat

namespace CodeRun

def ofText (cs : List Char) : CodeRun :=
  let (range, step) := splitFirst '/' cs
  let (first, last) := splitFirst '-' range
  let start := hexNumber first
  ⟨start, if last = [] then start else hexNumber last, if step = [] then 1 else hexNumber step⟩

def offset? (run : CodeRun) (code : Nat) : Option Nat :=
  if run.first ≤ code ∧ code ≤ run.last ∧ (code - run.first) % run.step = 0 then
    some (code - run.first)
  else none

def contains (run : CodeRun) (code : Nat) : Bool := (run.offset? code).isSome

end CodeRun

end AgentPlans.Text
