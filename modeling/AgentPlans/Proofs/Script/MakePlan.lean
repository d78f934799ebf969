import AgentPlans.Proofs.Registry
import AgentPlans.Proofs.Service.DefaultPlans
import AgentPlans.Proofs.Service.History
import AgentPlans.Script.MakePlan

/-!
# The printed plan is the service's plan

The script and the service each look for the agent and for a task, the script
for the task first. `makePlan_agrees`: in the end they accept the same calls,
and what the script prints reads as the plan that the service returns. While its
log takes lines, a service without plans turns nothing down but an unknown agent
and a blank task (`create_first`, `create_first_unknown`, `create_first_blank`).
-/

namespace AgentPlans

/-- While the clock shows an instant, nothing keeps the plan from being built. -/
theorem Plan.exists_build_amazonQ {task : Utf16} (root unique : String) (source : Source)
    (now : Time.Instant) (h : task.isBlank = false) :
    ∃ p, Plan.build (Agent.amazonQ root) task source (Plan.idOf unique) (some now) = .ok p ∧
      p.MadeFor root ⟨some now, source⟩ task := by
  obtain ⟨p, hp⟩ : ∃ p, Plan.build (Agent.amazonQ root) task source (Plan.idOf unique) (some now) =
      .ok p := ⟨_, rfl⟩
  have hagent : Agent.amazonQ root ∈ (Registry.default root).agents := List.mem_singleton_self _
  exact ⟨p, hp, Plan.build_madeFor hagent h hp⟩

-- ---------------------------------------------------------------------------
-- The first plan of a service
-- ---------------------------------------------------------------------------

namespace Service

variable {s : Service} {root ref unique : String} {task : Utf16} {source : Source}
  {now : Time.Instant} {p : Plan}

theorem nextId_given (h : s.ids.given = some unique) : s.nextId = Plan.idOf unique := by
  rw [nextId, IdSupply.next, h]

theorem create_first_unknown (h : s.registry = Registry.default root)
    (hk : ¬ Registry.IsDefault ref) :
    (s.create ⟨some now, source⟩ ref task).2 = .error (.refused (.agentNotFound ref)) :=
  create_unknown (h ▸ Registry.resolve_of_not_default root hk)

theorem create_first_blank (h : s.registry = Registry.default root) (hk : Registry.IsDefault ref)
    (hl : s.log.Open) (hb : task.isBlank = true) :
    (s.create ⟨some now, source⟩ ref task).2 = .error (.refused .emptyTask) := by
  have hresolve := Registry.resolve_of_default root hk
  rw [← h] at hresolve
  exact create_blank hresolve (Agent.amazonQ_id_ne_empty root) hb hl rfl

theorem create_first (h : s.registry = Registry.default root) (hk : Registry.IsDefault ref)
    (hs : s.store.table = some []) (hl : s.log.Open) (hg : task.isBlank = false)
    (hb : Plan.build (Agent.amazonQ root) task source s.nextId (some now) = .ok p) :
    (s.create ⟨some now, source⟩ ref task).2 = .ok p := by
  have hresolve := Registry.resolve_of_default root hk
  rw [← h] at hresolve
  obtain ⟨log, hcreate⟩ := create_made ⟨some now, source⟩ hresolve
    (Agent.amazonQ_id_ne_empty root) hg hs (by simp) hl hb
  rw [hcreate]

end Service

-- ---------------------------------------------------------------------------
-- The script
-- ---------------------------------------------------------------------------

namespace Script

/-- How a script that prints a plan ends, beside what the service's call comes to. -/
structure Agrees (script : Outcome) (created : Except Failure Plan) : Prop where
  accepts : script.ending = .ok 0 ↔ ∃ p, created = .ok p
  prints : ∀ p, created = .ok p → Json.parse script.stdout = some p.toJson
  refuses : (∀ p, created ≠ .ok p) → script.ending = .ok 1 ∧ script.stdout = "" ∧
    ∃ reason, created = .error (.refused reason) ∧
      ((reason.status = 404 ∧ reason.code = "AGENT_NOT_FOUND") ∨
        (reason.status = 400 ∧ reason.code = "VALIDATION_ERROR"))

variable {call : PlanCall} {agent : Agent} {p : Plan} {stderr : String} {reason : Refusal}

theorem agrees_refused (h : (reason.status = 404 ∧ reason.code = "AGENT_NOT_FOUND") ∨
    (reason.status = 400 ∧ reason.code = "VALIDATION_ERROR")) :
    Agrees (.exited 1 "" stderr) (.error (.refused reason)) where
  accepts := by simp [Outcome.exited]
  prints := by simp
  refuses _ := ⟨rfl, rfl, reason, rfl, h⟩

theorem agrees_made (h : p.Storable) :
    Agrees (.exited 0 (p.toJson.renderIndented ++ "\n") "") (.ok p) where
  accepts := by simp [Outcome.exited]
  prints := by
    rintro q ⟨⟩
    exact Json.parse_renderIndented (Plan.faithful_toJson h)
  refuses hnone := absurd rfl (hnone p)

theorem makePlan_blank (h : Text.isBlankText (" ".intercalate call.args) = true) :
    makePlan call = .exited 1 "" planUsage := by
  simp only [makePlan, h, if_true]

theorem makePlan_unknown (h : Text.isBlankText (" ".intercalate call.args) = false)
    (hr : call.registry.resolve (defaultAgentOf call.vars) = .ok none) :
    makePlan call = .exited 1 "" ("unknown agent: " ++ defaultAgentOf call.vars ++ "\n") := by
  simp only [makePlan, h, Bool.false_eq_true, if_false, hr]

theorem makePlan_built (h : Text.isBlankText (" ".intercalate call.args) = false)
    (hr : call.registry.resolve (defaultAgentOf call.vars) = .ok (some agent))
    (hb : Plan.build agent (" ".intercalate call.args) call.vars.source (Plan.idOf call.unique)
      call.clock = .ok p) :
    makePlan call = .exited 0 (p.toJson.renderIndented ++ "\n") "" := by
  have hprint : printPlan call (" ".intercalate call.args) agent =
      .ok (p.toJson.renderIndented ++ "\n") := by
    rw [printPlan, hb]
    rfl
  simp only [makePlan, h, Bool.false_eq_true, if_false, hr, hprint]

/-- For the same words, variables, instant and unique text, the script exits well exactly when a
service without plans, whose log takes lines, makes a plan, and then it prints that plan. Otherwise
it prints nothing, and the service turned down the agent or the task. -/
theorem makePlan_agrees (root : String) (args : List String) (process : Variables)
    (file : Option String) (now : Time.Instant) (unique : String) (log : Audit.Log)
    (maxListLimit : Number) (used : Nat) (writable : log.Open) :
    let vars := Settings.extend process file
    let script := makePlan ⟨Registry.default root, args, vars, some now, unique⟩
    let service : Service := .start root log maxListLimit ⟨used, some unique⟩
    let created := (service.create ⟨some now, vars.source⟩
      (Text.trim ((vars "DEFAULT_AGENT").getD "amazon-q-cli")) (" ".intercalate args)).2
    Agrees script created := by
  intro vars script service created
  by_cases hk : Registry.IsDefault (defaultAgentOf vars)
  · have hresolve := Registry.resolve_of_default root hk
    cases hblank : Text.isBlankText (" ".intercalate args) with
    | true =>
      have hscript : script = .exited 1 "" planUsage := makePlan_blank hblank
      have hcreated : created = .error (.refused .emptyTask) :=
        Service.create_first_blank rfl hk writable ((Utf16.isBlank_ofString _).trans hblank)
      rw [hscript, hcreated]
      exact agrees_refused (.inr ⟨rfl, rfl⟩)
    | false =>
      have hgiven : (Utf16.ofString (" ".intercalate args)).isBlank = false :=
        (Utf16.isBlank_ofString _).trans hblank
      obtain ⟨p, hbuilt, hmade⟩ := Plan.exists_build_amazonQ root unique vars.source now hgiven
      have hid : service.nextId = Plan.idOf unique := Service.nextId_given rfl
      have hscript : script = .exited 0 (p.toJson.renderIndented ++ "\n") "" :=
        makePlan_built hblank hresolve hbuilt
      have hcreated : created = .ok p :=
        Service.create_first rfl hk rfl writable hgiven (hid ▸ hbuilt)
      rw [hscript, hcreated]
      exact agrees_made hmade.storable
  · have hcreated : created = .error (.refused (.agentNotFound (defaultAgentOf vars))) :=
      Service.create_first_unknown rfl hk
    rw [hcreated]
    -- The script looks at the task first, so what it says differs; how it ends does not.
    cases hblank : Text.isBlankText (" ".intercalate args) with
    | true =>
      have hscript : script = .exited 1 "" planUsage := makePlan_blank hblank
      rw [hscript]
      exact agrees_refused (.inl ⟨rfl, rfl⟩)
    | false =>
      have hscript : script = .exited 1 "" ("unknown agent: " ++ defaultAgentOf vars ++ "\n") :=
        makePlan_unknown hblank (Registry.resolve_of_not_default root hk)
      rw [hscript]
      exact agrees_refused (.inl ⟨rfl, rfl⟩)

/-- The settings file names the agent in its own way; the process names none. -/
def namedInFile : PlanCall where
  registry := Registry.default "/srv"
  args := ["mend", "it's broken"]
  vars := Settings.extend (fun _ => none) (some "DEFAULT_AGENT=' Amazon Q cli '\n")
  clock := some ⟨0, by decide⟩
  unique := "6f9619ff-8b86"

def withoutPlans : Service :=
  .start "/srv" ⟨"./audit.jsonl", .nothing⟩ 100 ⟨0, some "6f9619ff-8b86"⟩

theorem makePlan_agrees_named :
    withoutPlans.log.Open ∧ (makePlan namedInFile).ending = .ok 0 ∧
      ∃ p, (withoutPlans.create ⟨namedInFile.clock, namedInFile.vars.source⟩ "Amazon Q cli"
          "mend it's broken").2 = .ok p ∧
        Json.parse (makePlan namedInFile).stdout = some p.toJson := by
  have hopen : withoutPlans.log.Open := fun _ => ⟨_, rfl⟩
  have hagrees := makePlan_agrees "/srv" ["mend", "it's broken"] (fun _ => none)
    (some "DEFAULT_AGENT=' Amazon Q cli '\n") ⟨0, by decide⟩ "6f9619ff-8b86"
    ⟨"./audit.jsonl", .nothing⟩ 100 0 hopen
  have hexit : (makePlan namedInFile).ending = .ok 0 := by rfl
  obtain ⟨p, hp⟩ := hagrees.accepts.mp hexit
  exact ⟨hopen, hexit, p, hp, hagrees.prints p hp⟩

end Script

end AgentPlans
