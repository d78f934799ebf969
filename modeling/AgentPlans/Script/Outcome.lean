import AgentPlans.Plan

/-!
# Outcomes of scripts

What a script writes and how it ends: with an exit status, or with an error that it did not catch.
-/

namespace AgentPlans.Script

inductive Crash where
  | fault (f : Fault)
  /-- A directory was to be read as a file. -/
  | readsDirectory
  /-- A value that has to be read as text has none. -/
  | noPhrase
  | noInstant

namespace Crash

def kind : Crash → String
  | .noPhrase => "TypeError"
  | .noInstant => "RangeError"
  | .fault _ | .readsDirectory => "Error"

def message : Crash → String
  | .fault f => f.message
  | .readsDirectory => "EISDIR: illegal operation on a directory, read"
  | .noPhrase => Json.noPhraseMessage
  | .noInstant => Time.Instant.absentMessage

def ofBuildError : BuildError → Crash
  | .fault f => .fault f
  | .noInstant => .noInstant

end Crash

structure Outcome where
  stdout : String
  stderr : String
  ending : Except Crash Nat

namespace Outcome

def exited (status : Nat) (stdout stderr : String) : Outcome := ⟨stdout, stderr, .ok status⟩

def crashed (crash : Crash) (stdout stderr : String) : Outcome := ⟨stdout, stderr, .error crash⟩

/-- The exit status; an error that is not caught gives one. -/
def status (o : Outcome) : Nat :=
  match o.ending with
  | .ok n => n
  | .error _ => 1

end Outcome

end AgentPlans.Script
