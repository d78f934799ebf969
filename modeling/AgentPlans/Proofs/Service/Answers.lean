import AgentPlans.Proofs.Service.Run
import AgentPlans.Proofs.Text.Utf16
import Mathlib.Data.List.Basic

/-!
# What an answer shows

`Answer.Shows` is that a plan stands in an answer, `Answer.Creates` that the
answer says the plan was made. The body of a response is data, and two bodies
are equal only if the plans in them are, so it is the same plan that the service
made, got or listed.
-/

namespace AgentPlans

-- ---------------------------------------------------------------------------
-- Plans as data
-- ---------------------------------------------------------------------------

theorem Environment.toJson_injective : Function.Injective Environment.toJson := by
  intro env₁ env₂ h
  refine List.map_injective_iff.mpr ?_ (Json.object.inj h)
  rintro ⟨name₁, value₁⟩ ⟨name₂, value₂⟩ hm
  simpa using hm

theorem Command.toJson_injective : Function.Injective Command.toJson := by
  rintro ⟨command₁, timeout₁, block₁⟩ ⟨command₂, timeout₂, block₂⟩ h
  simpa [Command.toJson] using h

theorem Command.listToJson_injective : Function.Injective Command.listToJson := by
  intro commands₁ commands₂ h
  exact List.map_injective_iff.mpr Command.toJson_injective (Json.array.inj h)

theorem Plan.toJson_injective : Function.Injective Plan.toJson := by
  rintro ⟨id₁, _, _, _, _, env₁, commands₁, _⟩ ⟨id₂, _, _, _, _, env₂, commands₂, _⟩ h
  simp only [Plan.toJson, Json.object.injEq, List.cons.injEq, Prod.mk.injEq, Json.string.injEq,
    Utf16.ofString_inj, true_and, and_true] at h
  obtain ⟨hid, rfl, rfl, rfl, rfl, henv, hcommands, rfl⟩ := h
  obtain rfl := Environment.toJson_injective henv
  obtain rfl := Command.listToJson_injective hcommands
  cases id₁ <;> cases id₂ <;> simp_all

namespace Service

theorem planBody_injective : Function.Injective planBody := by
  intro p q h
  simp only [planBody, Json.object.injEq, List.cons.injEq, Prod.mk.injEq, true_and, and_true] at h
  exact Plan.toJson_injective h

theorem plansBody_injective : Function.Injective plansBody := by
  intro plans₁ plans₂ h
  simp only [plansBody, Json.object.injEq, List.cons.injEq, Prod.mk.injEq, true_and, and_true,
    Json.array.injEq] at h
  exact List.map_injective_iff.mpr Plan.toJson_injective h

end Service

-- ---------------------------------------------------------------------------
-- Plans in answers
-- ---------------------------------------------------------------------------

open Service (planBody plansBody)

/-- The answer says that the plan was made. -/
def Answer.Creates (p : Plan) : Answer → Prop
  | .created result => result = .ok p
  | .response r => r.status = 201 ∧ r.body = planBody p
  | _ => False

def Answer.Shows (p : Plan) : Answer → Prop
  | .created result | .found result => result = .ok p
  | .listed result => ∃ plans, result = .ok plans ∧ p ∈ plans
  | .response r => r.body = planBody p ∨ ∃ plans, r.body = plansBody plans ∧ p ∈ plans
  | .agents _ | .nothing => False

theorem Answer.Creates.shows {a : Answer} {p : Plan} (h : a.Creates p) : a.Shows p := by
  cases a with
  | created result => exact h
  | response r => exact .inl h.2
  | found result => exact h.elim
  | listed result => exact h.elim
  | agents result => exact h.elim
  | nothing => exact h.elim

namespace Service

variable {s : Service} {around : Surroundings} {o : Operation} {r : Request} {p : Plan}
  {plans : List Plan} {e : Failure} {status : Nat}

def errorBody (message code : String) : Json :=
  .object [("error", .string message), ("error_code", .string code)]

theorem failure_response (e : Failure) : e.response = ⟨e.status, errorBody e.message e.code⟩ := rfl

@[simp] theorem response_body_ne_planBody : e.response.body ≠ planBody p := by
  simp [Failure.response, planBody]

@[simp] theorem response_body_ne_plansBody : e.response.body ≠ plansBody plans := by
  simp [Failure.response, plansBody]

@[simp] theorem planBody_ne_plansBody : planBody p ≠ plansBody plans := by
  simp [planBody, plansBody]

theorem answer_planBody {result : Except Failure Plan} :
    (answer status planBody result).body = planBody p ↔ result = .ok p := by
  cases result with
  | error e => simp [answer]
  | ok q => simp [answer, planBody_injective.eq_iff]

theorem answer_plansBody {result : Except Failure (List Plan)} :
    (answer status plansBody result).body = plansBody plans ↔ result = .ok plans := by
  cases result with
  | error e => simp [answer]
  | ok shown => simp [answer, plansBody_injective.eq_iff]

@[simp] theorem answer_planBody_ne {result : Except Failure Plan} :
    (answer status planBody result).body ≠ plansBody plans := by
  cases result <;> simp [answer]

@[simp] theorem answer_plansBody_ne {result : Except Failure (List Plan)} :
    (answer status plansBody result).body ≠ planBody p := by
  cases result with
  | error e => simp [answer]
  | ok shown => exact Ne.symm planBody_ne_plansBody

theorem failure_status (e : Failure) : e.status ≠ 201 := by
  cases e with
  | refused reason => cases reason <;> simp [Failure.status, Refusal.status]
  | _ => simp [Failure.status]

theorem answer_status_ne {α : Type} {body : α → Json} {result : Except Failure α} :
    (answer 200 body result).status ≠ 201 := by
  cases result with
  | ok a => simp [answer]
  | error e => exact failure_status e

theorem answer_creates {result : Except Failure Plan} :
    (Answer.response (answer 201 planBody result)).Creates p ↔ result = .ok p := by
  cases result with
  | ok q => simp [Answer.Creates, answer, planBody_injective.eq_iff]
  | error e =>
    simp only [Answer.Creates, answer, reduceCtorEq, iff_false, not_and]
    exact fun h => absurd h (failure_status e)

theorem perform_creates :
    (s.perform around o).2.Creates p ↔
      ∃ ref task, o.creation? = some (ref, task) ∧ (s.create around ref task).2 = .ok p := by
  cases o with
  | create ref task =>
    rw [perform_create]
    simp [Answer.Creates, Operation.creation?]
  | get id => simp [perform, Answer.Creates, Operation.creation?]
  | list limit => simp [perform, Answer.Creates, Operation.creation?]
  | agents => simp [perform, Answer.Creates, Operation.creation?]
  | relocate place => simp [perform, Answer.Creates, Operation.creation?]
  | request r =>
    rw [perform_request]
    cases r with
    | createPlan ref body =>
      cases htask : taskOf body with
      | ok task =>
        rw [respond_createPlan htask, answer_creates, Operation.creation?_createPlan htask]
        simp
      | error e =>
        rw [respond_createPlan_untasked htask]
        simp [Answer.Creates, Operation.creation?, htask, Except.toOption]
    | listAgents => simp [respond, Answer.Creates, answer_status_ne, Operation.creation?]
    | showPlan id => simp [respond, Answer.Creates, answer_status_ne, Operation.creation?]
    | listPlans limit =>
      simp only [respond]
      cases limitOf limit with
      | error e => simp [Answer.Creates, Operation.creation?]
      | ok n => simp [Answer.Creates, answer_status_ne, Operation.creation?]

inductive Origin (s : Service) (around : Surroundings) (o : Operation) (p : Plan) : Prop
  | made {ref : String} {task : Utf16} (asked : o.creation? = some (ref, task))
    (made : (s.create around ref task).2 = .ok p)
  | got {id : String} (got : s.get id = .ok p)
  | listed {limit : Number} {plans : List Plan} (listed : s.list limit = .ok plans)
    (mem : p ∈ plans)

theorem respond_shows (h : (Answer.response (s.respond around r).2).Shows p) :
    Origin s around (.request r) p := by
  cases r with
  | listAgents =>
    simp only [Answer.Shows, respond] at h
    cases hagents : s.agents with
    | error e => simp [hagents, answer] at h
    | ok agents => simp [hagents, answer, agentsBody, planBody, plansBody] at h
  | createPlan ref body =>
    cases htask : taskOf body with
    | error e => simp [respond_createPlan_untasked htask, Answer.Shows] at h
    | ok task =>
      simp only [respond_createPlan htask, Answer.Shows, answer_planBody] at h
      rcases h with h | ⟨plans, h, _⟩
      · exact .made (Operation.creation?_createPlan htask) h
      · exact absurd h answer_planBody_ne
  | showPlan id =>
    simp only [Answer.Shows, respond, answer_planBody] at h
    rcases h with h | ⟨plans, h, _⟩
    · exact .got h
    · exact absurd h answer_planBody_ne
  | listPlans limit =>
    simp only [Answer.Shows, respond] at h
    cases hlimit : limitOf limit with
    | error e => simp [hlimit] at h
    | ok n =>
      simp only [hlimit, answer_plansBody] at h
      rcases h with h | ⟨plans, h, hp⟩
      · exact absurd h answer_plansBody_ne
      · exact .listed h hp

/-- A plan in the answer to an operation was made by it, or got or listed from the store. -/
theorem perform_shows (h : (s.perform around o).2.Shows p) : Origin s around o p := by
  cases o with
  | create ref task =>
    rw [perform_create] at h
    exact .made rfl h
  | get id => exact .got h
  | list limit =>
    obtain ⟨plans, hl, hp⟩ := h
    exact .listed hl hp
  | agents => exact h.elim
  | request r =>
    rw [perform_request] at h
    exact respond_shows h
  | relocate place => exact h.elim

end Service

end AgentPlans
