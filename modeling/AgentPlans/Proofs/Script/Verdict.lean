import AgentPlans.Proofs.Script.DefaultAgent

/-!
# The verdict of a preflight

What is printed of the checks, what is counted at the end, and the exit status are
three readings of one list of checks. `preflight_judged`: they agree, and the
verdict is bad in exactly three cases (`Unready`). What makes a warning changes
neither the verdict nor any number but that of the warnings.

`faults` lists the checks that fail by what they look at; the rest follows from
`level_checksOf`, which says that these are the checks whose level is a failure.
-/

namespace AgentPlans.Script

/-- A run cannot go well: the default agent is not known, or its installation script is not there,
or a required variable is unset, blank or still holds the placeholder. -/
def Unready (root : String) (host : Host) (vars : Variables) : Prop :=
  let found := (Registry.default root).resolve
    (Text.trim ((vars "DEFAULT_AGENT").getD "amazon-q-cli"))
  found = .ok none ∨
    (∃ agent path, found = .ok (some agent) ∧ agent.installScript = .ok path ∧
      host.scriptFile path = .missing) ∨
    ∃ name ∈ requiredNames, Unfilled (vars name) ∨ HoldsPlaceholder (vars name)

/-- The runs may differ in the optional variables, in whether a script that is there can be
executed, and in the programs of the host, but in nothing that spoils a verdict. -/
structure SameNeeds (root : String) (host host' : Host) (vars vars' : Variables) : Prop where
  agent : vars "DEFAULT_AGENT" = vars' "DEFAULT_AGENT"
  required : ∀ name ∈ requiredNames, vars name = vars' name
  script : host.scriptFile (amazonQDescription root).installScript = .missing ↔
    host'.scriptFile (amazonQDescription root).installScript = .missing

def checkNames (vars : Variables) : List String :=
  "DEFAULT_AGENT" ::
    (if Registry.IsDefault (defaultAgentOf vars) then ["install script"] else []) ++
    requiredNames ++ optionalNames ++ ["aws", "tb"]

/-- The piece is about the check of this name, and shows its level. -/
def Marked (piece name : String) : Prop :=
  ∃ level : Level, Begins ("[" ++ level.text ++ "] " ++ name ++ ": ") piece

/-- The text has one piece for each of the named checks, and closes with the number of pieces, and
with how many of them show a failure and how many a warning. -/
structure Reports (text : String) (names pieces : List String) (failed warned : Nat) : Prop where
  text_eq : text = "q-bench-adapter preflight\n" ++ String.join pieces ++ "\nSummary: " ++
    Text.decimal pieces.length ++ " checks, " ++ Text.decimal failed ++ " failed, " ++
    Text.decimal warned ++ " warning(s)\n"
  marked : List.Forall₂ Marked pieces names
  failed_eq : failed = pieces.countP (Begins "[FAIL] " ·)
  warned_eq : warned = pieces.countP (Begins "[WARN] " ·)

variable {root : String} {host host' : Host} {vars vars' : Variables}

-- ---------------------------------------------------------------------------
-- Single checks
-- ---------------------------------------------------------------------------

theorem checkRequired_spec (vars : Variables) (name : String) :
    (checkRequired vars name).name = name ∧
      ((checkRequired vars name).level == .fail) =
        decide (Unfilled (vars name) ∨ HoldsPlaceholder (vars name)) := by
  rw [checkRequired_eq]
  by_cases hu : Unfilled (vars name)
  · simp [hu]
  · by_cases hp : HoldsPlaceholder (vars name) <;> simp [hu, hp]

theorem checkOptional_spec (vars : Variables) (name hint : String) :
    (checkOptional vars name hint).name = name ∧
      ((checkOptional vars name hint).level == .fail) = false := by
  rw [checkOptional_eq]
  by_cases hu : Unfilled (vars name) <;> simp [hu]

theorem checkProgram_spec (host : Host) (program : String) (args : List String) (hint : String) :
    (checkProgram host program args hint).name = program ∧
      ((checkProgram host program args hint).level == .fail) = false := by
  rw [checkProgram]
  cases host.run program args with
  | none => exact ⟨rfl, rfl⟩
  | some f => by_cases hf : f.status = 0 <;> simp [hf]

theorem checkScript_spec (host : Host) (path : String) :
    (checkScript host path).name = "install script" ∧
      ((checkScript host path).level == .fail) = decide (host.scriptFile path = .missing) := by
  rw [checkScript]
  cases host.scriptFile path <;> exact ⟨rfl, rfl⟩

-- ---------------------------------------------------------------------------
-- The checks that fail
-- ---------------------------------------------------------------------------

theorem names_checksOf : (checksOf root host vars).map Check.name = checkNames vars := by
  simp only [checksOf, defaultAgentChecks, hostChecks, checkNames, requiredNames, optionalNames,
    List.map_append, List.map_cons, List.map_nil, checkRequired_spec, checkOptional_spec,
    checkProgram_spec]
  split
  · simp only [List.map_cons, List.map_nil, checkScript_spec]
    rfl
  · rfl

/-- For each check in turn, whether it fails. Only the agent, its script and the required variables
matter. -/
def faults (root : String) (host : Host) (vars : Variables) : List Bool :=
  (if Registry.IsDefault (defaultAgentOf vars) then
    [false, decide (host.scriptFile (amazonQDescription root).installScript = .missing)]
    else [true]) ++
    requiredNames.map (fun name => decide (Unfilled (vars name) ∨ HoldsPlaceholder (vars name))) ++
    List.replicate 6 false

theorem level_checksOf :
    (checksOf root host vars).map (·.level == .fail) = faults root host vars := by
  simp only [checksOf, defaultAgentChecks, hostChecks, faults, requiredNames, List.map_append,
    List.map_cons, List.map_nil, checkRequired_spec, checkOptional_spec, checkProgram_spec]
  split
  · simp only [List.map_cons, List.map_nil, checkScript_spec]
    rfl
  · rfl

theorem mem_faults_iff : true ∈ faults root host vars ↔ Unready root host vars := by
  have hagent : defaultAgentOf vars =
      Text.trim ((vars "DEFAULT_AGENT").getD "amazon-q-cli") := rfl
  rw [Unready, ← hagent, faults]
  by_cases hk : Registry.IsDefault (defaultAgentOf vars)
  · simp [Registry.resolve_of_default root hk, hk, amazonQ_installScript, eq_comm (a := true)]
  · simp [Registry.resolve_of_not_default root hk, hk]

theorem faults_congr (h : SameNeeds root host host' vars vars') :
    faults root host vars = faults root host' vars' := by
  have hagent : defaultAgentOf vars = defaultAgentOf vars' := by
    rw [defaultAgentOf, defaultAgentOf, h.agent]
  have hrequired : requiredNames.map (fun name =>
        decide (Unfilled (vars name) ∨ HoldsPlaceholder (vars name))) =
      requiredNames.map fun name =>
        decide (Unfilled (vars' name) ∨ HoldsPlaceholder (vars' name)) :=
    List.map_congr_left fun name hname => by simp only [h.required name hname]
  simp only [faults, hagent, h.script, hrequired]

-- ---------------------------------------------------------------------------
-- Counting and printing
-- ---------------------------------------------------------------------------

theorem countLevel_checksOf :
    countLevel .fail (checksOf root host vars) = (faults root host vars).count true := by
  rw [countLevel, ← List.countP_eq_length_filter, ← level_checksOf, List.count_eq_countP,
    List.countP_map]
  simp [Function.comp_def]

theorem verdict_checksOf :
    verdict (checksOf root host vars) = if true ∈ faults root host vars then 1 else 0 := by
  have hany : (checksOf root host vars).any (·.level == .fail) = true ↔
      true ∈ faults root host vars := by
    rw [← level_checksOf]
    simp
  rw [verdict]
  simp only [hany]

theorem begins_line (c : Check) (level : Level) :
    Begins ("[" ++ level.text ++ "] ") c.line ↔ c.level = level := by
  have hline : c.line = "[" ++ c.level.text ++ "] " ++ (c.name ++ ": " ++ c.message ++ "\n") := by
    simp only [Check.line, String.append_assoc]
  rw [hline]
  by_cases h : c.level = level
  · rw [h]
    exact iff_of_true (begins_append _ _) rfl
  · refine iff_of_false ?_ h
    cases hc : c.level <;> cases level <;> simp_all [Begins, Level.text]

theorem marked_line (c : Check) : Marked c.line c.name := by
  have hline : c.line =
      "[" ++ c.level.text ++ "] " ++ c.name ++ ": " ++ (c.message ++ "\n") := String.append_assoc
  refine ⟨c.level, ?_⟩
  rw [hline]
  exact begins_append _ _

theorem countP_line (level : Level) (checks : List Check) :
    (checks.map Check.line).countP (Begins ("[" ++ level.text ++ "] ") ·) =
      countLevel level checks := by
  rw [List.countP_map, countLevel, ← List.countP_eq_length_filter]
  refine List.countP_congr fun c _ => ?_
  simp [begins_line]

theorem reports_report (checks : List Check) :
    Reports (report checks) (checks.map Check.name) (checks.map Check.line)
      (countLevel .fail checks) (countLevel .warn checks) where
  text_eq := by
    have htitle : Health.serviceName ++ " preflight\n" = "q-bench-adapter preflight\n" := by decide
    have hsummary : "\n" ++ "Summary: " = "\nSummary: " := by decide
    unfold report summaryLine
    rw [htitle, List.length_map, ← hsummary]
    simp only [String.append_assoc]
  marked := by
    rw [List.forall₂_map_left_iff, List.forall₂_map_right_iff, List.forall₂_same]
    exact fun c _ => marked_line c
  failed_eq := (countP_line .fail checks).symm
  warned_eq := (countP_line .warn checks).symm

-- ---------------------------------------------------------------------------
-- The preflight
-- ---------------------------------------------------------------------------

theorem ending_preflight :
    (preflight (Registry.default root) host vars).ending =
      .ok (if true ∈ faults root host vars then 1 else 0) := by
  rw [preflight_eq, verdict_checksOf]
  rfl

theorem ending_preflight_iff :
    ((preflight (Registry.default root) host vars).ending = .ok 1 ↔
        true ∈ faults root host vars) ∧
      ((preflight (Registry.default root) host vars).ending = .ok 0 ↔
        true ∉ faults root host vars) := by
  rw [ending_preflight]
  by_cases h : true ∈ faults root host vars <;> simp [h]

theorem reports_preflight :
    Reports (preflight (Registry.default root) host vars).stdout (checkNames vars)
      ((checksOf root host vars).map Check.line) ((faults root host vars).count true)
      (countLevel .warn (checksOf root host vars)) := by
  rw [preflight_eq, ← names_checksOf, ← countLevel_checksOf]
  exact reports_report (checksOf root host vars)

theorem length_lines :
    ((checksOf root host vars).map Check.line).length = (faults root host vars).length := by
  rw [← level_checksOf, List.length_map, List.length_map]

/-- The preflight ends with status 1 if something is wanting and with 0 if nothing is. It prints all
checks and how many of them there are, fail and warn, and its status is 1 exactly if the printed
number of failures is positive. Its status, the number of checks and the number of failures are
those of every run with the same needs. -/
theorem preflight_judged (root : String) (host : Host) (process : Variables)
    (file : Option String) :
    let vars := Settings.extend process file
    let outcome := preflight (Registry.default root) host vars
    (outcome.ending = .ok 1 ↔ Unready root host vars) ∧
      (outcome.ending = .ok 0 ↔ ¬ Unready root host vars) ∧
      ∃ pieces failed warned,
        Reports outcome.stdout (checkNames vars) pieces failed warned ∧
        (outcome.ending = .ok 1 ↔ 0 < failed) ∧
        ∀ host' vars', SameNeeds root host host' vars vars' →
          let outcome' := preflight (Registry.default root) host' vars'
          outcome'.ending = outcome.ending ∧
            ∃ pieces' warned', pieces'.length = pieces.length ∧
              Reports outcome'.stdout (checkNames vars') pieces' failed warned' := by
  intro vars outcome
  obtain ⟨hone, hzero⟩ : (outcome.ending = .ok 1 ↔ true ∈ faults root host vars) ∧
      (outcome.ending = .ok 0 ↔ true ∉ faults root host vars) := ending_preflight_iff
  refine ⟨hone.trans mem_faults_iff, hzero.trans (not_congr mem_faults_iff),
    (checksOf root host vars).map Check.line, (faults root host vars).count true,
    countLevel .warn (checksOf root host vars), reports_preflight,
    hone.trans List.count_pos_iff.symm, ?_⟩
  intro host' vars' hsame outcome'
  have hfaults : faults root host vars = faults root host' vars' := faults_congr hsame
  have hending : outcome'.ending = outcome.ending := by
    simp only [outcome', outcome, ending_preflight, hfaults]
  refine ⟨hending, (checksOf root host' vars').map Check.line,
    countLevel .warn (checksOf root host' vars'), ?_, ?_⟩
  · rw [length_lines, length_lines, hfaults]
  · rw [hfaults]
    exact reports_preflight

def equipped : Host := ⟨fun _ _ => some ⟨0, "", ""⟩, fun _ => .executable⟩

def unfinished : Variables := Settings.extend (Variables.ofProcess [("AWS_ACCESS_KEY_ID", "AKIA1")])
  (some "AWS_SECRET_ACCESS_KEY='replace_me'\n")

theorem preflight_judged_unfinished :
    Unready "/srv" bare unfinished ∧ SameNeeds "/srv" bare equipped unfinished unfinished ∧
      (preflight (Registry.default "/srv") bare unfinished).ending = .ok 1 ∧
      (preflight (Registry.default "/srv") equipped unfinished).ending = .ok 1 := by
  have hunready : Unready "/srv" bare unfinished :=
    .inr (.inr ⟨"AWS_SECRET_ACCESS_KEY", by decide, .inr (by decide +kernel)⟩)
  have hsame : SameNeeds "/srv" bare equipped unfinished unfinished :=
    ⟨rfl, fun _ _ => rfl, by decide⟩
  obtain ⟨hbad, -, _, _, _, -, -, hothers⟩ := preflight_judged "/srv" bare
    (Variables.ofProcess [("AWS_ACCESS_KEY_ID", "AKIA1")])
    (some "AWS_SECRET_ACCESS_KEY='replace_me'\n")
  have hending := hbad.mpr hunready
  exact ⟨hunready, hsame, hending, (hothers equipped unfinished hsame).1.trans hending⟩

end AgentPlans.Script
