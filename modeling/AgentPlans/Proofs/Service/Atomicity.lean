import AgentPlans.Proofs.Audit.Record
import AgentPlans.Proofs.Service.Answers
import AgentPlans.Proofs.Service.Creation
import AgentPlans.Proofs.Store.Table

/-!
# Plans that were not made

A plan is stored before its decision is logged, and nothing is taken back. So
making a plan may fail with the plan stored, in one way only: the log does not
take the decision, `Unlogged`. Whatever else goes wrong, the rows stay as they
were, and no later answer can tell that a plan was asked for.
-/

namespace AgentPlans.Service

/-- The plan can be stored, but the log does not take the decision. -/
structure Unlogged (s : Service) (around : Surroundings) (ref : String) (task : Utf16) (plan : Plan)
    (e : Audit.LogError) : Prop where
  resolved : ∃ agent, s.registry.resolve ref = .ok (some agent) ∧
    Plan.build agent task around.source s.nextId around.clock = .ok plan
  given : task.isBlank = false
  storable : ∃ store, s.store.insert plan.draft = .ok store
  unlogged : s.log.append (acceptance s.nextId plan).record = .error e

variable {s t : Service} {around : Surroundings} {ref : String} {task : Utf16} {agent : Agent}
  {plan : Plan} {result : Except Failure Plan} {f : Failure} {e : Audit.LogError}

-- ---------------------------------------------------------------------------
-- Rows
-- ---------------------------------------------------------------------------

theorem Creation.failed_rows (h : Creation s around ref task t (.error f)) :
    t.store = s.store ∨ ∃ plan e, f = .log e ∧ Unlogged s around ref task plan e ∧
      s.store.insert plan.draft = .ok t.store := by
  rcases h.store with ⟨hkept, _⟩ | ⟨agent, plan, hresolved, hgiven, hbuilt, hstored, hresult⟩
  · exact .inl hkept
  · rcases hresult with hok | ⟨e, hlogged, he⟩
    · cases hok
    · exact .inr ⟨plan, e, Except.error.inj he,
        ⟨⟨agent, hresolved, hbuilt⟩, hgiven, ⟨t.store, hstored⟩, hlogged⟩, hstored⟩

theorem insert_plan_rows {store store' : Store} (h : store.insert plan.draft = .ok store') :
    ∃ rows, store.table = some rows ∧ store'.table = some (rows ++ [plan.row]) := by
  obtain ⟨rows, row, hrows, hrow, _, rfl⟩ := Store.insert_ok h
  obtain rfl : plan.row = row := Except.ok.inj hrow
  exact ⟨rows, hrows, rfl⟩

theorem create_unlogged {store : Store} (h : Unlogged s around ref task plan e)
    (hstore : s.store.insert plan.draft = .ok store) :
    s.create around ref task = ({ s.counted with store := store }, .error (.log e)) := by
  obtain ⟨⟨agent, resolved, built⟩, given, _, logged⟩ := h
  exact (Creation.unlogged resolved given built hstore logged).eq

-- ---------------------------------------------------------------------------
-- Answers
-- ---------------------------------------------------------------------------

/-- A creation that kept the rows is seen by no operation that asks for no plan. -/
theorem Creation.unseen {around₁ around₂ : Surroundings} {o : Operation}
    (h : Creation s around ref task t result) (hs : t.store = s.store) (ho : o.creation? = none) :
    (t.perform around₁ o).2 = (s.perform around₂ o).2 :=
  perform_reading_congr ho h.registry hs h.maxListLimit

/-- Making a plan that fails keeps the rows, except when the log does not take the decision on a
plan that is stored already: then that plan's row was added. A request for a plan that is not
answered as a success changes no answer to an operation that asks for no plan, with the same
exception, which is answered as a failure of the log. -/
theorem failed_creation (s : Service) (around : Surroundings) (ref : String) :
    (∀ task f, (s.create around ref task).2 = .error f →
      ((¬ ∃ plan e, Unlogged s around ref task plan e) →
        (s.create around ref task).1.store = s.store) ∧
      ∀ plan e, Unlogged s around ref task plan e →
        f = .log e ∧ ∃ rows, s.store.table = some rows ∧
          (s.create around ref task).1.store.table = some (rows ++ [plan.row])) ∧
    (∀ body, (s.respond around (.createPlan ref body)).2.status ≠ 201 →
      ((¬ ∃ task plan e, taskOf body = .ok task ∧ Unlogged s around ref task plan e) →
        ∀ around' o, o.creation? = none →
          ((s.respond around (.createPlan ref body)).1.perform around' o).2 =
            (s.perform around' o).2) ∧
      ∀ task plan e, taskOf body = .ok task → Unlogged s around ref task plan e →
        (s.respond around (.createPlan ref body)).2 =
          ⟨500, .object [("error", .string (Failure.log e).message),
            ("error_code", .string "UNKNOWN")]⟩) := by
  refine ⟨?_, ?_⟩
  · intro task f hf
    refine ⟨?_, ?_⟩
    · intro hlogged
      rcases (hf ▸ create_creation s around ref task).failed_rows with hkept | ⟨plan, e, _, hu, _⟩
      · exact hkept
      · exact absurd ⟨plan, e, hu⟩ hlogged
    · intro plan e hu
      obtain ⟨store, hstored⟩ := hu.storable
      rw [create_unlogged hu hstored] at hf ⊢
      exact ⟨(Except.error.inj hf).symm, insert_plan_rows hstored⟩
  · intro body hstatus
    refine ⟨?_, ?_⟩
    · intro hlogged around' o ho
      cases htask : taskOf body with
      | error f =>
        rw [respond_createPlan_untasked htask]
      | ok task =>
        simp only [respond_createPlan htask] at hstatus ⊢
        have hc := create_creation s around ref task
        cases hresult : (s.create around ref task).2 with
        | ok p => simp [hresult, answer] at hstatus
        | error f =>
          rw [hresult] at hc
          rcases hc.failed_rows with hkept | ⟨plan, e, _, hu, _⟩
          · exact hc.unseen hkept ho
          · exact absurd ⟨task, plan, e, htask, hu⟩ hlogged
    · intro task plan e htask hu
      obtain ⟨store, hstored⟩ := hu.storable
      rw [respond_createPlan htask, create_unlogged hu hstored]
      rfl

-- ---------------------------------------------------------------------------
-- A log that cannot be written
-- ---------------------------------------------------------------------------

def shut : Service := opened ⟨"/var/audit", .directory⟩

def newYear : Surroundings := ⟨some ⟨1767225600000, by decide⟩, fun _ => none⟩

def straggler : Plan where
  planId := some "plan_0000000100004000"
  agentId := "amazon-q-cli"
  agentName := "Amazon Q CLI"
  taskDescription := "fix it"
  installScriptPath := "/srv/install/setup_amazon_q.sh"
  env := [("AMAZON_Q_SIGV4", "1"), ("AWS_ACCESS_KEY_ID", ""), ("AWS_SECRET_ACCESS_KEY", ""),
    ("AWS_SESSION_TOKEN", ""), ("GIT_HASH", ""), ("CHAT_DOWNLOAD_ROLE_ARN", ""),
    ("CHAT_BUILD_BUCKET_NAME", "")]
  commands := [⟨"qchat chat --no-interactive --trust-all-tools 'fix it'", 1800, true⟩]
  createdAt := "2026-01-01T00:00:00.000Z"

theorem shut_stores : shut.store.insert straggler.draft = .ok ⟨some [straggler.row]⟩ := by
  simp only [Store.insert, Store.draft_row]
  rfl

theorem shut_unlogged : Unlogged shut newYear "amazon-q-cli" "fix it" straggler
    (.file (.isDirectory "/var/audit")) := by
  have hid : shut.nextId = "plan_0000000100004000" := by decide +kernel
  refine ⟨⟨Agent.amazonQ "/srv", by rfl, by rw [hid]; rfl⟩, rfl, ⟨_, shut_stores⟩, ?_⟩
  have hcheck : (acceptance shut.nextId straggler).record.withVersion.check = .ok () := by
    refine Audit.Entry.check_record ?_ ?_ (Plan.idOf_ne_empty _) ?_
    · simp only [acceptance, straggler]
      decide +kernel
    · simp [acceptance, straggler]
    · simp [acceptance, straggler]
  rw [Audit.Log.append_record hcheck]
  simp [Audit.Log.write, shut, opened, start]

/-- Making a plan fails, and the plan's row is there. -/
theorem failed_creation_stores :
    (shut.create newYear "amazon-q-cli" "fix it").2 =
        .error (.log (.file (.isDirectory "/var/audit"))) ∧
      shut.store.table = some [] ∧
      (shut.create newYear "amazon-q-cli" "fix it").1.store.table = some [straggler.row] := by
  have hcreate := create_unlogged shut_unlogged shut_stores
  simp only [hcreate]
  exact ⟨trivial, rfl, trivial⟩

/-- An agent that nobody knows: the rows stay, and the plans that can be listed stay. -/
theorem failed_creation_unknown :
    let body := Json.object [("task_description", .string "fix it")]
    (shut.create newYear "nobody" "fix it").2 = .error (.refused (.agentNotFound "nobody")) ∧
      (shut.respond newYear (.createPlan "nobody" (some body))).2.status = 404 ∧
      (shut.create newYear "nobody" "fix it").1.store = shut.store ∧
      (((shut.respond newYear (.createPlan "nobody" (some body))).1.perform newYear
          (.list none)).2 = (shut.perform newYear (.list none)).2) := by
  intro body
  have hr : shut.registry.resolve "nobody" = .ok none := by rfl
  have hfailed : (shut.create newYear "nobody" "fix it").2 =
      .error (.refused (.agentNotFound "nobody")) := by
    simp only [create, hr]
  have htask : taskOf (some body) = .ok "fix it" := by rfl
  have hstatus : (shut.respond newYear (.createPlan "nobody" (some body))).2.status = 404 := by
    rw [respond_createPlan htask, hfailed]
    rfl
  have hall := failed_creation shut newYear "nobody"
  have hnobody : ∀ task plan e, ¬ Unlogged shut newYear "nobody" task plan e := by
    intro task plan e hu
    obtain ⟨agent, hagent, _⟩ := hu.resolved
    simp [hr] at hagent
  refine ⟨hfailed, hstatus, ?_, ?_⟩
  · refine (hall.1 "fix it" _ hfailed).1 ?_
    rintro ⟨plan, e, hu⟩
    exact hnobody _ plan e hu
  · refine (hall.2 (some body) (by simp [hstatus])).1 ?_ newYear (.list none) rfl
    rintro ⟨task, plan, e, _, hu⟩
    exact hnobody task plan e hu

end AgentPlans.Service
