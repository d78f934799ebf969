import AgentPlans.Proofs.Results
import AgentPlans.Proofs.Script.Checks
import AgentPlans.Proofs.Script.MakePlan
import AgentPlans.Proofs.Text.Lines
import AgentPlans.Server

/-!
# Which default agent is valid

The preflight, the script that prints a plan and the server each look up the
variable that names the default agent. `default_agent_agreed`: they take the
same texts, and these are the id and the name of the agent that is there from
the start, the case of ASCII letters and white space around them aside.

What the programs say is told by how their output begins. A text of the variable
may hold line ends, so a line of the output need not be a program's own.
-/

namespace AgentPlans

def Begins (start text : String) : Prop := start.toList <+: text.toList

instance (start text : String) : Decidable (Begins start text) :=
  inferInstanceAs (Decidable (_ <+: _))

/-- The variable that names the default agent is unset, or it names the one that is known. -/
def ValidDefault (vars : Variables) : Prop :=
  ∀ text, vars "DEFAULT_AGENT" = some text →
    (Text.trim text).toLower = "amazon-q-cli" ∨ (Text.trim text).toLower = "amazon q cli"

variable {vars : Variables} {start rest : String}

theorem begins_append (start rest : String) : Begins start (start ++ rest) := by
  rw [Begins, String.toList_append]
  exact List.prefix_append _ _

theorem begins_append_left {before : String} :
    Begins (before ++ start) (before ++ rest) ↔ Begins start rest := by
  rw [Begins, Begins, String.toList_append, String.toList_append, List.prefix_append_right_inj]

theorem isDefault_defaultAgentOf : Registry.IsDefault (defaultAgentOf vars) ↔ ValidDefault vars := by
  rw [Registry.isDefault_iff, defaultAgentOf, Text.trim_trim, ValidDefault]
  cases vars "DEFAULT_AGENT" with
  | none =>
    have hfallback : (Text.trim "amazon-q-cli").toLower = "amazon-q-cli" := by decide +kernel
    simp [hfallback]
  | some text => simp

theorem Config.read_defaultAgent {config : Config} (h : Config.read vars = .ok config) :
    config.defaultAgent = defaultAgentOf vars := by
  obtain ⟨port, _, hconfig⟩ := bind_ok.mp h
  obtain rfl := pure_ok.mp hconfig
  rfl

-- ---------------------------------------------------------------------------
-- The preflight
-- ---------------------------------------------------------------------------

namespace Script

variable {checks : List Check} {c : Check} {host : Host} {root : String}

theorem report_cons (c : Check) (checks : List Check) :
    ∃ rest, report (c :: checks) =
      "q-bench-adapter preflight\n[" ++ (c.level.text ++ ("] " ++ c.name ++ ": " ++ rest)) := by
  refine ⟨c.message ++ "\n" ++ (String.join (checks.map Check.line) ++ "\n" ++
    summaryLine (c :: checks)), ?_⟩
  have htitle : Health.serviceName ++ " preflight\n" ++ "[" = "q-bench-adapter preflight\n[" := by
    decide
  rw [report, List.map_cons, String.join_cons, Check.line, ← htitle]
  simp only [String.append_assoc]

theorem begins_report (hname : c.name = "DEFAULT_AGENT") :
    Begins "q-bench-adapter preflight\n[PASS] DEFAULT_AGENT: " (report (c :: checks)) ↔
      c.level = .pass := by
  obtain ⟨rest, hrest⟩ := report_cons c checks
  have hstart : "q-bench-adapter preflight\n[PASS] DEFAULT_AGENT: " =
      "q-bench-adapter preflight\n[" ++ ("PASS" ++ "] DEFAULT_AGENT: ") := by decide
  have hmark : "] " ++ "DEFAULT_AGENT" ++ ": " = "] DEFAULT_AGENT: " := by decide
  rw [hrest, hname, hmark, hstart, begins_append_left]
  cases c.level with
  | pass => exact iff_of_true (begins_append_left.mpr (begins_append _ _)) rfl
  | warn => exact iff_of_false (by simp [Begins, Level.text]) (by simp)
  | fail => exact iff_of_false (by simp [Begins, Level.text]) (by simp)

theorem preflight_default :
    Begins "q-bench-adapter preflight\n[PASS] DEFAULT_AGENT: "
        (preflight (Registry.default root) host vars).stdout ↔
      Registry.IsDefault (defaultAgentOf vars) := by
  rw [preflight_eq, Outcome.exited, checksOf, defaultAgentChecks]
  by_cases hk : Registry.IsDefault (defaultAgentOf vars)
  · rw [if_pos hk, List.cons_append]
    exact iff_of_true ((begins_report rfl).mpr rfl) hk
  · rw [if_neg hk, List.cons_append]
    refine iff_of_false ?_ hk
    intro h
    cases (begins_report rfl).mp h

-- ---------------------------------------------------------------------------
-- The script that prints a plan
-- ---------------------------------------------------------------------------

theorem makePlan_default {call : PlanCall} (hr : call.registry = Registry.default root)
    (hg : Text.isBlankText (" ".intercalate call.args) = false) :
    Begins "unknown agent: " (makePlan call).stderr ↔
      ¬ Registry.IsDefault (defaultAgentOf call.vars) := by
  by_cases hk : Registry.IsDefault (defaultAgentOf call.vars)
  · have hquiet : (makePlan call).stderr = "" := by
      simp only [makePlan, hg, Bool.false_eq_true, if_false, hr, Registry.resolve_of_default root hk]
      cases printPlan call (" ".intercalate call.args) (Agent.amazonQ root) <;> rfl
    rw [hquiet]
    exact iff_of_false (by simp [Begins]) (not_not.mpr hk)
  · rw [makePlan_unknown hg (hr ▸ Registry.resolve_of_not_default root hk)]
    refine iff_of_true ?_ hk
    rw [Outcome.exited, String.append_assoc]
    exact begins_append _ _

end Script

-- ---------------------------------------------------------------------------
-- The server
-- ---------------------------------------------------------------------------

theorem Startup.run_default {setup : Startup} {root : String} {config : Config} {w : Workspace}
    {store : Store} (hr : setup.registry = Registry.default root)
    (hc : Config.read setup.vars = .ok config)
    (ho : setup.workspace.openStore config.dbPath = (w, .ok store)) :
    (∃ e, setup.run.2 = .error e ∧
        Begins "DEFAULT_AGENT is not a known agent: " e.description.2) ↔
      ¬ Registry.IsDefault (defaultAgentOf setup.vars) := by
  have hagent := Config.read_defaultAgent hc
  by_cases hk : Registry.IsDefault (defaultAgentOf setup.vars)
  · have hresolve := Registry.resolve_of_default root hk
    rw [← hr, ← hagent] at hresolve
    refine iff_of_false ?_ (not_not.mpr hk)
    rintro ⟨e, he, -⟩
    simp [run, hc, ho, hresolve] at he
  · have hresolve := Registry.resolve_of_not_default root hk
    rw [← hr, ← hagent] at hresolve
    refine iff_of_true ⟨.unknownAgent config.defaultAgent, ?_, begins_append _ _⟩ hk
    simp [run, hc, ho, hresolve]

/-- With a port that can be read and a store that can be opened, the preflight passes the default
agent, the script does not call it unknown, and the server does not refuse to start for it, in the
same cases, and these are the valid ones. -/
theorem default_agent_agreed (setup : Startup) (root : String) (host : Script.Host)
    (args : List String) (clock : Option Time.Instant) (unique : String) (config : Config)
    (w : Workspace) (store : Store) (registered : setup.registry = Registry.default root)
    (configured : Config.read setup.vars = .ok config)
    (opened : setup.workspace.openStore config.dbPath = (w, .ok store))
    (given : Text.isBlankText (" ".intercalate args) = false) :
    let passes := Begins "q-bench-adapter preflight\n[PASS] DEFAULT_AGENT: "
      (Script.preflight (Registry.default root) host setup.vars).stdout
    let unknown := Begins "unknown agent: "
      (Script.makePlan ⟨Registry.default root, args, setup.vars, clock, unique⟩).stderr
    let refused := ∃ e, setup.run.2 = .error e ∧
      Begins "DEFAULT_AGENT is not a known agent: " e.description.2
    (passes ↔ ¬ unknown) ∧ (passes ↔ ¬ refused) ∧ (passes ↔ ValidDefault setup.vars) := by
  intro passes unknown refused
  have hpasses : passes ↔ Registry.IsDefault (defaultAgentOf setup.vars) := Script.preflight_default
  have hunknown : unknown ↔ ¬ Registry.IsDefault (defaultAgentOf setup.vars) :=
    Script.makePlan_default rfl given
  have hrefused : refused ↔ ¬ Registry.IsDefault (defaultAgentOf setup.vars) :=
    Startup.run_default registered configured opened
  rw [hpasses, hunknown, hrefused, not_not]
  exact ⟨Iff.rfl, Iff.rfl, isDefault_defaultAgentOf⟩

def setUp : Startup where
  workspace := ⟨"/srv", [(⟨"", ["srv", ".env"]⟩, .text "DEFAULT_AGENT=\"\\n AMAZON-q-Cli \"\n")]⟩
  process := Variables.ofProcess [("PORT", "0x1F90"), ("DATABASE_PATH", ":memory:")]
  registry := Registry.default "/srv"
  ids := ⟨0, none⟩
  runtimeVersion := "v22.0.0"

def bare : Script.Host := ⟨fun _ _ => none, fun _ => .plain⟩

theorem default_agent_agreed_setUp :
    ∃ config, Config.read setUp.vars = .ok config ∧
      setUp.workspace.openStore config.dbPath = (setUp.workspace, .ok .empty) ∧
      ValidDefault setUp.vars ∧
      Begins "q-bench-adapter preflight\n[PASS] DEFAULT_AGENT: "
        (Script.preflight (Registry.default "/srv") bare setUp.vars).stdout := by
  obtain ⟨config, hconfig⟩ : ∃ config, Config.read setUp.vars = .ok config := ⟨_, rfl⟩
  have hpath : config.dbPath = ":memory:" := by
    obtain rfl := Except.ok.inj hconfig
    rfl
  have hopened : setUp.workspace.openStore config.dbPath = (setUp.workspace, .ok .empty) := by
    rw [hpath]
    rfl
  obtain ⟨-, -, hvalid⟩ := default_agent_agreed setUp "/srv" bare ["mend", "it"] none "7" config
    setUp.workspace .empty rfl hconfig hopened (by decide)
  have hset : ValidDefault setUp.vars := by
    intro text htext
    obtain rfl := Option.some.inj htext
    exact .inl (by decide +kernel)
  exact ⟨config, hconfig, hopened, hset, hvalid.mpr hset⟩

end AgentPlans
