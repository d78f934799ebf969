import AgentPlans.Proofs.Json.RoundTrip
import AgentPlans.Proofs.MemberOrder
import AgentPlans.Store.Row

/-!
# Rows read back as plans

`row_plan`: the row of a plan that can be stored reads back as the plan, all
eight fields. What can be stored is a description without halves of characters,
and every other text; an environment that could have been set name by name,
without the reserved name; and time limits that are whole numbers below `2^53`.
Of any description, the row keeps the characters (`Plan.kept`).

A plan with another time limit is not claimed to come back.
-/

namespace AgentPlans

open Json (Faithful)

def Plan.row (p : Plan) : Row where
  planId := p.planId
  agentId := p.agentId
  agentName := p.agentName
  taskDescription := p.taskDescription.repaired
  installScriptPath := p.installScriptPath
  envText := p.env.toJson.render
  commandsText := (Command.listToJson p.commands).render
  createdAt := p.createdAt

@[simp]
theorem Plan.planId_row (p : Plan) : p.row.planId = p.planId := rfl

/-- The plan with what the row keeps of its description. -/
def Plan.kept (p : Plan) : Plan := { p with taskDescription := p.taskDescription.repaired }

@[simp]
theorem Plan.row_kept (p : Plan) : p.kept.row = p.row := by
  simp [kept, row]

@[simp]
theorem Plan.draft_kept (p : Plan) : p.kept.draft = p.draft := by
  simp [kept, draft]

@[simp]
theorem Plan.planId_kept (p : Plan) : p.kept.planId = p.planId := rfl

def Command.Storable (c : Command) : Prop :=
  ∃ n : Int, c.maxTimeoutSec = .ofInt n ∧ n.natAbs < Number.wholeLimit

structure Plan.Storable (p : Plan) : Prop where
  task_whole : p.taskDescription.Whole
  env_settled : Members.Settled p.env
  env_unreserved : Members.reserved ∉ p.env.map Prod.fst
  commands : ∀ c ∈ p.commands, c.Storable

variable {env : Environment} {commands : List Command} {c : Command} {p : Plan}

-- ---------------------------------------------------------------------------
-- Environments
-- ---------------------------------------------------------------------------

theorem Environment.faithful_toJson (h : Members.Settled env) : Faithful env.toJson := by
  refine .object (h.mapValues fun _ value => Json.string value) ?_
  intro m hm
  obtain ⟨x, _, rfl⟩ := List.mem_map.mp hm
  exact .string x.2

theorem Row.filterMap_textEntry? (env : Environment) :
    (env.map fun (name, value) => (name, Json.string value)).filterMap Row.textEntry? =
      env.filter fun x => x.1 ≠ Members.reserved := by
  induction env with
  | nil => rfl
  | cons x env ih =>
    rw [List.map_cons]
    by_cases hx : x.1 = Members.reserved
    · rw [List.filterMap_cons_none (by simp [Row.textEntry?, hx]), ih]
      simp [hx]
    · rw [List.filterMap_cons_some (b := x) (by simp [Row.textEntry?, hx, Json.string?]), ih]
      simp [hx]

theorem Row.decodeEnvironment_render (hs : Members.Settled env)
    (hr : Members.reserved ∉ env.map Prod.fst) :
    Row.decodeEnvironment env.toJson.render = .ok env := by
  have hkept : env.filter (fun x => x.1 ≠ Members.reserved) = env := by
    refine List.filter_eq_self.mpr fun x hx => ?_
    have hne : x.1 ≠ Members.reserved := fun h => hr (h ▸ List.mem_map_of_mem hx)
    simpa using hne
  rw [Row.decodeEnvironment, Json.parse_render (env.faithful_toJson hs)]
  exact congrArg Except.ok ((Row.filterMap_textEntry? env).trans hkept)

-- ---------------------------------------------------------------------------
-- Commands
-- ---------------------------------------------------------------------------

theorem Command.faithful_toJson (h : c.Storable) : Faithful c.toJson := by
  obtain ⟨n, hn, hlt⟩ := h
  refine .object (Members.settled_of_nodup (by simp; decide) (by simp)) ?_
  intro m hm
  simp only [List.mem_cons, List.not_mem_nil, or_false] at hm
  rcases hm with rfl | rfl | rfl
  · exact .string _
  · rw [hn]
    exact .whole hlt
  · exact .bool _

theorem Command.faithful_listToJson (h : ∀ c ∈ commands, c.Storable) :
    Faithful (Command.listToJson commands) := by
  refine .array fun v hv => ?_
  obtain ⟨c, hc, rfl⟩ := List.mem_map.mp hv
  exact Command.faithful_toJson (h c hc)

theorem Row.command?_toJson (c : Command) : Row.command? c.toJson = some c := rfl

theorem Row.decodeCommands_render (h : ∀ c ∈ commands, c.Storable) :
    Row.decodeCommands (Command.listToJson commands).render = .ok commands := by
  rw [Row.decodeCommands, Json.parse_render (Command.faithful_listToJson h)]
  simp [Command.listToJson, List.filterMap_map, Function.comp_def, Row.command?_toJson]

-- ---------------------------------------------------------------------------
-- Plans
-- ---------------------------------------------------------------------------

theorem Plan.faithful_toJson (h : p.Storable) : Faithful p.toJson := by
  refine .object (Members.settled_of_nodup (by simp; decide) (by simp)) ?_
  simp only [List.forall_mem_cons, List.not_mem_nil, false_implies, implies_true, and_true]
  refine ⟨?_, .string _, .string _, .string _, .string _, p.env.faithful_toJson h.env_settled,
    Command.faithful_listToJson h.commands, .string _⟩
  cases p.planId with
  | none => exact .null
  | some id => exact .string id

/-- A stored plan reads back unchanged. -/
theorem Plan.row_plan (h : p.Storable) : p.row.plan = .ok p := by
  rw [Row.plan, Plan.row, Row.decodeEnvironment_render h.env_settled h.env_unreserved,
    Row.decodeCommands_render h.commands, Utf16.whole_iff.mp h.task_whole]
  rfl

/-- Nothing is lost of a description without halves. -/
theorem Plan.kept_eq (h : p.taskDescription.Whole) : p.kept = p := by
  rw [kept, Utf16.whole_iff.mp h]

end AgentPlans
