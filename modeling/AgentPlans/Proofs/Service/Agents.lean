import AgentPlans.Proofs.Registration
import AgentPlans.Proofs.Service.History

/-!
# Agents that are listed

`listed_reached`: which ids of a listing of the agents lead back to the agents
that they were listed for, and for whom plans are made then. All ids do that have
no white space around them. For the others it is not claimed: a listing may show
two ids that differ in nothing but such white space, and both lead to the agent
without it (`listed_misled`).
-/

namespace AgentPlans.Service

variable {s : Service} {around : Surroundings} {o : Operation} {ref : String} {task : Utf16}
  {p : Plan} {entries : List AgentSummary} {agent : Agent}

theorem agentId_of_creates (hr : s.registry.resolve ref = .ok (some agent))
    (ho : o.creation? = some (ref, task)) (h : (s.perform around o).2.Creates p) :
    p.agentId = agent.id := by
  obtain ⟨ref', task', ho', hcreated⟩ := perform_creates.mp h
  obtain ⟨rfl, rfl⟩ := Operation.asked_once ho ho'
  obtain ⟨agent', hr', -, hbuilt⟩ := create_ok hcreated
  obtain rfl := Option.some.inj (Except.ok.inj (hr.symm.trans hr'))
  exact (Plan.build_ok hbuilt).agentId

theorem agents_ok : s.agents = .ok entries ↔ s.registry.list = .ok entries := by
  rw [agents]
  cases s.registry.list <;> simp

theorem listed_agents (h : s.agents = .ok entries) :
    List.Forall₂ (fun a e => a.id = e.id ∧ a.name = .ok e.name) s.registry.agents entries := by
  refine (forall₂_of_mapM_ok (agents_ok.mp h)).imp fun a e he => ?_
  obtain ⟨name, hname, he⟩ := bind_ok.mp he
  obtain rfl := pure_ok.mp he
  exact ⟨rfl, hname⟩

/-- However agents with ids that are not blank were registered, an id in a listing leads to the agent
that it stands for if there is no white space around it, and else only by the agent's name. Where it
does, a plan that is made for the listed id carries that id. -/
theorem listed_reached (s : Service) (agents : List Agent)
    (registered : s.registry = Registry.empty.registerAll agents)
    (given : ∀ a ∈ agents, Text.isBlankText a.id = false) (entries : List AgentSummary)
    (listed : s.agents = .ok entries) :
    (∀ around, (s.respond around .listAgents).2 = ⟨200, agentsBody entries⟩) ∧
      List.Forall₂ (fun a e => a.id = e.id ∧ a.name = .ok e.name ∧
          (s.registry.resolve e.id = .ok (some a) ↔
            Text.trim e.id = e.id ∨ Registry.referenceKey e.id ∉ s.registry.keys ∧
              Registry.firstNamed (Registry.referenceKey e.id) s.registry.agents =
                .ok (some a)) ∧
          (s.registry.resolve e.id = .ok (some a) → ∀ around o task p,
            o.creation? = some (e.id, task) → (s.perform around o).2.Creates p →
              p.agentId = e.id))
        s.registry.agents entries := by
  refine ⟨fun around => by simp only [respond, listed, answer], ?_⟩
  have hdistinct : s.registry.Distinct := registered ▸ Registry.distinct_registerAll agents
  have hgiven : ∀ a ∈ s.registry.agents, Text.isBlankText a.id = false := by
    intro a ha
    rw [registered] at ha
    rcases Registry.mem_registerAll ha with ha | ha
    · cases ha
    · exact given a ha
  have hentries := (List.forall₂_and_left (p := (· ∈ s.registry.agents)) _ _).mpr
    ⟨fun _ ha => ha, listed_agents listed⟩
  refine hentries.imp ?_
  rintro a e ⟨ha, hid, hname⟩
  rw [← hid]
  refine ⟨rfl, hname, hdistinct.resolve_id_iff ha (hgiven a ha), ?_⟩
  intro hresolved around o task p ho hcreated
  exact agentId_of_creates hresolved ho hcreated

def plain (id name : String) : Agent :=
  AgentDescription.agent ⟨id, name, [], "/opt/install.sh", [], [], [id], 60, false⟩

/-- Two agents whose ids differ in white space around them, and one that is turned down. -/
def neighbours : List Agent := [plain "q" "Quiet", plain "Q" "Loud", plain " q " "Padded"]

def neighbouring : Service := { started with registry := Registry.empty.registerAll neighbours }

theorem registerAll_neighbours :
    Registry.empty.registerAll neighbours = ⟨[plain "q" "Quiet", plain " q " "Padded"]⟩ := by
  have hq : Registry.key "q" = "q" := by decide +kernel
  have hloud : Registry.key "Q" = "q" := by decide +kernel
  have hpadded : Registry.key " q " = " q " := by decide +kernel
  simp [neighbours, Registry.registerAll, Registry.register, Registry.findId?, Registry.empty,
    plain, AgentDescription.agent, hq, hloud, hpadded]

theorem agents_neighbouring :
    neighbouring.agents = .ok [⟨"q", "Quiet"⟩, ⟨" q ", "Padded"⟩] := by
  rw [agents_ok, neighbouring, registerAll_neighbours]
  rfl

theorem given_neighbours : ∀ a ∈ neighbours, Text.isBlankText a.id = false := by
  simp only [neighbours, List.forall_mem_cons]
  exact ⟨by decide, by decide, by decide, by simp⟩

theorem listed_reached_neighbours :
    neighbouring.registry = Registry.empty.registerAll neighbours ∧
      (∀ a ∈ neighbours, Text.isBlankText a.id = false) ∧
      neighbouring.agents = .ok [⟨"q", "Quiet"⟩, ⟨" q ", "Padded"⟩] ∧
      neighbouring.registry.resolve "q" = .ok (some (plain "q" "Quiet")) ∧
      ∀ around task p, (neighbouring.create around "q" task).2 = .ok p → p.agentId = "q" := by
  refine ⟨rfl, given_neighbours, agents_neighbouring, ?_⟩
  obtain ⟨-, hentries⟩ := listed_reached neighbouring neighbours rfl given_neighbours _
    agents_neighbouring
  have hagents : neighbouring.registry.agents = [plain "q" "Quiet", plain " q " "Padded"] := by
    rw [neighbouring, registerAll_neighbours]
  rw [hagents] at hentries
  cases hentries with
  | cons hquiet _ =>
    obtain ⟨-, -, hreached, hplans⟩ := hquiet
    have hresolved := hreached.mpr (.inl (by decide))
    refine ⟨hresolved, fun around task p hp => ?_⟩
    exact hplans hresolved around (.create "q" task) task p rfl (perform_creates.mpr ⟨_, _, rfl, hp⟩)

/-- The id of the second entry leads to the agent of the first. -/
theorem listed_misled :
    neighbouring.registry = Registry.empty.registerAll neighbours ∧
      (∀ a ∈ neighbours, Text.isBlankText a.id = false) ∧
      neighbouring.agents = .ok [⟨"q", "Quiet"⟩, ⟨" q ", "Padded"⟩] ∧
      neighbouring.registry.resolve " q " = .ok (some (plain "q" "Quiet")) ∧
      (plain "q" "Quiet").id ≠ " q " := by
  refine ⟨rfl, given_neighbours, agents_neighbouring, ?_, by decide⟩
  refine Registry.resolve_of_id (by decide) ?_
  have hreference : Registry.referenceKey " q " = "q" := by decide +kernel
  have hq : Registry.key "q" = "q" := by decide +kernel
  rw [neighbouring, registerAll_neighbours, hreference]
  simp [Registry.findId?, plain, AgentDescription.agent, hq]

end AgentPlans.Service
