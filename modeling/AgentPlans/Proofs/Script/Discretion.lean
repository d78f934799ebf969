import AgentPlans.Proofs.Script.Checks

/-!
# A preflight reveals no values

The preflight looks at variables that are secret. `preflight_discreet`: two runs
on the same host write the same and end in the same way, as long as the same
variables are filled and the same required ones hold the placeholder. So the texts
of these variables cannot be told from anything that the preflight shows.
-/

namespace AgentPlans.Script

/-- Both are unfilled, or both hold the placeholder, or both are filled and do not hold it. -/
def SameStanding (value value' : Option String) : Prop :=
  (Unfilled value ↔ Unfilled value') ∧
    (¬ Unfilled value → (HoldsPlaceholder value ↔ HoldsPlaceholder value'))

instance (value value' : Option String) : Decidable (SameStanding value value') :=
  inferInstanceAs (Decidable (_ ∧ _))

variable {root : String} {host host' : Host} {vars vars' : Variables} {name : String}

theorem checkRequired_congr (h : SameStanding (vars name) (vars' name)) :
    checkRequired vars name = checkRequired vars' name := by
  obtain ⟨hunfilled, hplaceholder⟩ := h
  rw [checkRequired_eq, checkRequired_eq]
  by_cases hu : Unfilled (vars name)
  · rw [if_pos hu, if_pos (hunfilled.mp hu)]
  · rw [if_neg hu, if_neg (fun hu' => hu (hunfilled.mpr hu'))]
    simp only [hplaceholder hu]

theorem checkOptional_congr (h : Unfilled (vars name) ↔ Unfilled (vars' name)) (hint : String) :
    checkOptional vars name hint = checkOptional vars' name hint := by
  rw [checkOptional_eq, checkOptional_eq]
  simp only [h]

theorem checkProgram_congr {program : String} {args : List String}
    (h : host.run program args = host'.run program args) (hint : String) :
    checkProgram host program args hint = checkProgram host' program args hint := by
  rw [checkProgram, checkProgram, h]

theorem hostChecks_congr
    (required : ∀ name ∈ requiredNames, SameStanding (vars name) (vars' name))
    (optional : ∀ name ∈ optionalNames, (Unfilled (vars name) ↔ Unfilled (vars' name)))
    (aws : host.run "aws" ["--version"] = host'.run "aws" ["--version"])
    (tb : host.run "tb" ["--help"] = host'.run "tb" ["--help"]) :
    hostChecks host vars = hostChecks host' vars' := by
  obtain ⟨key, secret, -⟩ := by simpa only [requiredNames, List.forall_mem_cons] using required
  obtain ⟨token, hash, role, bucket, -⟩ := by
    simpa only [optionalNames, List.forall_mem_cons] using optional
  rw [hostChecks, hostChecks, checkRequired_congr key, checkRequired_congr secret,
    checkOptional_congr token, checkOptional_congr hash, checkOptional_congr role,
    checkOptional_congr bucket, checkProgram_congr aws, checkProgram_congr tb]

theorem defaultAgentChecks_congr {ref : String}
    (script : host.scriptFile (amazonQDescription root).installScript =
      host'.scriptFile (amazonQDescription root).installScript) :
    defaultAgentChecks root host ref = defaultAgentChecks root host' ref := by
  rw [defaultAgentChecks, defaultAgentChecks, checkScript, checkScript, script]

/-- With the same default agent on hosts that are alike in what is checked, two preflights are the
same in what they write and in how they end, if the variables that they check are alike in whether
they are filled and, the required ones, in whether they hold the placeholder. -/
theorem preflight_discreet (root : String) (host host' : Host) (vars vars' : Variables)
    (agent : vars "DEFAULT_AGENT" = vars' "DEFAULT_AGENT")
    (required : ∀ name ∈ requiredNames, SameStanding (vars name) (vars' name))
    (optional : ∀ name ∈ optionalNames, (Unfilled (vars name) ↔ Unfilled (vars' name)))
    (script : host.scriptFile (amazonQDescription root).installScript =
      host'.scriptFile (amazonQDescription root).installScript)
    (aws : host.run "aws" ["--version"] = host'.run "aws" ["--version"])
    (tb : host.run "tb" ["--help"] = host'.run "tb" ["--help"]) :
    let outcome := preflight (Registry.default root) host vars
    let outcome' := preflight (Registry.default root) host' vars'
    outcome.stdout = outcome'.stdout ∧ outcome.stderr = outcome'.stderr ∧
      outcome.ending = outcome'.ending ∧ outcome.status = outcome'.status := by
  intro outcome outcome'
  have hagent : defaultAgentOf vars = defaultAgentOf vars' := by
    rw [defaultAgentOf, defaultAgentOf, agent]
  have hchecks : checksOf root host vars = checksOf root host' vars' := by
    rw [checksOf, checksOf, hagent, defaultAgentChecks_congr script,
      hostChecks_congr required optional aws tb]
  have hsame : outcome = outcome' := by
    simp only [outcome, outcome', preflight_eq, hchecks]
  rw [hsame]
  exact ⟨rfl, rfl, rfl, rfl⟩

def workbench : Host where
  run program _ := if program = "aws" then some ⟨0, "aws-cli/2.15\n", ""⟩ else none
  scriptFile _ := .plain

def begun : Variables := Variables.ofProcess [("AWS_ACCESS_KEY_ID", "AKIA1"),
  ("AWS_SECRET_ACCESS_KEY", "replace_me"), ("GIT_HASH", "0badc0de"), ("HOME", "/root")]

def altered : Variables := Variables.ofProcess [("AWS_ACCESS_KEY_ID", " AKIA2\n"),
  ("AWS_SECRET_ACCESS_KEY", "<replace_me>"), ("AWS_SESSION_TOKEN", " \t"), ("GIT_HASH", "latest")]

theorem preflight_discreet_altered :
    (∀ name ∈ requiredNames, SameStanding (begun name) (altered name)) ∧
      (∀ name ∈ optionalNames, (Unfilled (begun name) ↔ Unfilled (altered name))) ∧
      begun "AWS_ACCESS_KEY_ID" ≠ altered "AWS_ACCESS_KEY_ID" ∧
      (preflight (Registry.default "/srv") workbench begun).stdout =
        (preflight (Registry.default "/srv") workbench altered).stdout := by
  have hrequired : ∀ name ∈ requiredNames, SameStanding (begun name) (altered name) := by
    decide +kernel
  have hoptional : ∀ name ∈ optionalNames, (Unfilled (begun name) ↔ Unfilled (altered name)) := by
    decide +kernel
  obtain ⟨hstdout, -⟩ := preflight_discreet "/srv" workbench workbench begun altered
    (by decide +kernel) hrequired hoptional rfl rfl rfl
  exact ⟨hrequired, hoptional, by decide +kernel, hstdout⟩

end AgentPlans.Script
