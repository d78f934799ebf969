import AgentPlans.Proofs.Environment
import AgentPlans.Proofs.Service.Creation

/-!
# Secrets are not seen

What the service answers, stores and logs does not depend on the values of
secret variables, only on which of them are set. The statement is about two runs
of the same calls: where every registered agent gives alike environments, or
fails with the same fault, the answers are equal and so is all that is left.

Names and commands do not depend on where variables are looked up, so nothing is
claimed of an agent that puts a secret of its own there.
-/

namespace AgentPlans

def Agent.Alike (agent : Agent) (source₁ source₂ : Source) : Prop :=
  match agent.environment source₁, agent.environment source₂ with
  | .ok env₁, .ok env₂ => Environment.Alike agent.secretKeys env₁ env₂
  | .error f₁, .error f₂ => f₁ = f₂
  | _, _ => False

def Registry.Alike (r : Registry) (source₁ source₂ : Source) : Prop :=
  ∀ agent ∈ r.agents, agent.Alike source₁ source₂

variable {source₁ source₂ : Source}

-- ---------------------------------------------------------------------------
-- One plan
-- ---------------------------------------------------------------------------

theorem Plan.build_alike {agent : Agent} {task : Utf16} {planId : String}
    {clock : Option Time.Instant} (h : agent.Alike source₁ source₂) :
    Plan.build agent task source₁ planId clock = Plan.build agent task source₂ planId clock := by
  unfold Plan.build
  cases agent.name with
  | error f => rfl
  | ok name =>
    unfold Agent.Alike at h
    cases h₁ : agent.environment source₁ with
    | error f₁ =>
      cases h₂ : agent.environment source₂ with
      | error f₂ =>
        obtain rfl : f₁ = f₂ := by simpa [h₁, h₂] using h
        rfl
      | ok env₂ => simp [h₁, h₂] at h
    | ok env₁ =>
      cases h₂ : agent.environment source₂ with
      | error f₂ => simp [h₁, h₂] at h
      | ok env₂ =>
        have hredact := Environment.redact_alike (by simpa [h₁, h₂] using h)
        simp only [mapError_of_ok, bind, Except.bind, hredact]

namespace Service

variable {s : Service} {around : Surroundings} {calls : List Call}

theorem create_alike (h : s.registry.Alike source₁ source₂) (ref : String) (task : Utf16) :
    s.create { around with source := source₁ } ref task =
      s.create { around with source := source₂ } ref task := by
  cases hr : s.registry.resolve ref with
  | error f => simp only [create, hr]
  | ok found =>
    cases found with
    | none => simp only [create, hr]
    | some agent =>
      rw [create_found hr, create_found hr, reject, reject, accept, accept,
        Plan.build_alike (h agent (Registry.resolve_mem hr))]

theorem perform_alike (h : s.registry.Alike source₁ source₂) (o : Operation) :
    s.perform { around with source := source₁ } o =
      s.perform { around with source := source₂ } o := by
  cases o with
  | create ref task => rw [perform_create, perform_create, create_alike h]
  | request r =>
    rw [perform_request, perform_request]
    cases r with
    | createPlan ref body =>
      cases htask : taskOf body with
      | error e => rw [respond_createPlan_untasked htask, respond_createPlan_untasked htask]
      | ok task => rw [respond_createPlan htask, respond_createPlan htask, create_alike h]
    | listAgents => rfl
    | showPlan id => rfl
    | listPlans limit => rfl
  | get id => rfl
  | list limit => rfl
  | agents => rfl
  | relocate place => rfl

-- ---------------------------------------------------------------------------
-- Two runs
-- ---------------------------------------------------------------------------

theorem run_alike (h : s.registry.Alike source₁ source₂) :
    s.run (calls.map (·.under source₁)) = s.run (calls.map (·.under source₂)) := by
  induction calls generalizing s with
  | nil => rfl
  | cons c calls ih =>
    have hstep : s.step (c.under source₁) = s.step (c.under source₂) :=
      perform_alike (s := s.handed c.unique) h c.operation
    rw [List.map_cons, List.map_cons, run_cons, run_cons, hstep,
      ih (by rwa [step_registry])]

end Service

-- ---------------------------------------------------------------------------
-- The agent that is there from the start
-- ---------------------------------------------------------------------------

/-- The two places agree on a variable; one that is not set counts as empty. -/
def AgreeOn (source₁ source₂ : Source) (name : String) : Prop :=
  (source₁ name).getD "" = (source₂ name).getD ""

/-- A variable is set to some text in both places, or in neither. -/
def AgreeOnSet (source₁ source₂ : Source) (name : String) : Prop :=
  (source₁ name).getD "" = "" ↔ (source₂ name).getD "" = ""

theorem amazonQ_alike (root : String) (hopen : ∀ name ∈ amazonQOpen, AgreeOn source₁ source₂ name)
    (hset : ∀ name ∈ amazonQCredentials, AgreeOnSet source₁ source₂ name) :
    (Agent.amazonQ root).Alike source₁ source₂ := by
  have hforwarded : ∀ name ∈ amazonQCredentials ++ amazonQOpen,
      ValuesAlike (name ∈ amazonQCredentials) ((source₁ name).getD "")
        ((source₂ name).getD "") := by
    intro name hname
    refine ⟨fun hopenName => ?_, fun hsecret => hset name hsecret⟩
    rcases List.mem_append.mp hname with hsecret | hname
    · exact absurd hsecret hopenName
    · exact hopen name hname
  show Environment.Alike amazonQCredentials ((amazonQDescription root).environment source₁)
    ((amazonQDescription root).environment source₂)
  rw [amazonQ_environment, amazonQ_environment]
  refine .cons ⟨rfl, fun _ => rfl, fun _ => Iff.rfl⟩ ?_
  rw [List.forall₂_map_left_iff, List.forall₂_map_right_iff, List.forall₂_same]
  exact fun name hname => ⟨rfl, hforwarded name hname⟩

theorem default_alike (root : String) (hopen : ∀ name ∈ amazonQOpen, AgreeOn source₁ source₂ name)
    (hset : ∀ name ∈ amazonQCredentials, AgreeOnSet source₁ source₂ name) :
    (Registry.default root).Alike source₁ source₂ := by
  intro agent hagent
  obtain rfl := List.mem_singleton.mp hagent
  exact amazonQ_alike root hopen hset

/-- Two runs of the same calls whose places differ in secrets only, and set the same ones, give the
same answers and leave the same service: its rows, its log and all. With the registry that a program
starts with, places that agree on the open variables differ in secrets only. -/
theorem secrets_unseen (s : Service) (calls : List Call) (source₁ source₂ : Source) :
    (s.registry.Alike source₁ source₂ →
      s.run (calls.map (·.under source₁)) = s.run (calls.map (·.under source₂))) ∧
    (∀ root, s.registry = Registry.default root →
      (∀ name ∈ amazonQOpen, AgreeOn source₁ source₂ name) →
      (∀ name ∈ amazonQCredentials, AgreeOnSet source₁ source₂ name) →
      s.run (calls.map (·.under source₁)) = s.run (calls.map (·.under source₂))) := by
  refine ⟨Service.run_alike, ?_⟩
  intro root hr hopen hset
  exact Service.run_alike (hr ▸ default_alike root hopen hset)

def sourceWithKey (key : String) : Source := fun name =>
  if name = "AWS_SECRET_ACCESS_KEY" then some key else none

/-- The sources differ, their environments are alike, and the runs are equal. -/
theorem secrets_unseen_keys :
    let s : Service := .started
    let calls (source : Source) : List Call :=
      let around : Surroundings := ⟨some ⟨1767225600000, by decide⟩, source⟩
      [⟨.create "amazon-q-cli" "fix it", around, none⟩, ⟨.list none, around, none⟩]
    sourceWithKey "one" ≠ sourceWithKey "two" ∧
      (∀ name ∈ amazonQOpen, AgreeOn (sourceWithKey "one") (sourceWithKey "two") name) ∧
      (∀ name ∈ amazonQCredentials, AgreeOnSet (sourceWithKey "one") (sourceWithKey "two") name) ∧
      s.registry.Alike (sourceWithKey "one") (sourceWithKey "two") ∧
      s.run (calls (sourceWithKey "one")) = s.run (calls (sourceWithKey "two")) := by
  intro s calls
  have hopen : ∀ name ∈ amazonQOpen, AgreeOn (sourceWithKey "one") (sourceWithKey "two") name := by
    simp [amazonQOpen, AgreeOn, sourceWithKey]
  have hset : ∀ name ∈ amazonQCredentials,
      AgreeOnSet (sourceWithKey "one") (sourceWithKey "two") name := by
    simp [amazonQCredentials, AgreeOnSet, sourceWithKey]
  have halike : s.registry.Alike (sourceWithKey "one") (sourceWithKey "two") :=
    default_alike "/srv" hopen hset
  refine ⟨?_, hopen, hset, halike, ?_⟩
  · intro h
    have := congrFun h "AWS_SECRET_ACCESS_KEY"
    simp [sourceWithKey] at this
  · exact (secrets_unseen s (calls (sourceWithKey "one")) _ _).1 halike

end AgentPlans
