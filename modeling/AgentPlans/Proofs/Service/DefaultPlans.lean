import AgentPlans.Proofs.Environment
import AgentPlans.Proofs.Registry
import AgentPlans.Proofs.Service.History
import AgentPlans.Proofs.Service.Stored
import Mathlib.Data.List.Induction

/-!
# Plans for the agent that is there from the start

With the registry that a program starts with, every plan is for one agent, and
what stands in it is known: `Plan.MadeFor`. Over a whole run from an empty
store, whatever is asked in whatever order, and whether or not the log can be
written, what is kept of a plan that was returned is got unchanged from then on,
no listing shows an id twice, and every plan that is shown was made for the task
of a call up to then, or is kept of such a plan.

The store keeps a description without its halves of characters, so a description
with halves comes back repaired (`default_run_halved`); the command was made of
the description as it was given, and comes back as it is. A plan whose creation
failed because the log did not take the decision may be shown too; it is one of
these plans as well.
-/

namespace AgentPlans

/-- What stands in a plan that was made of a task for the agent that is there from the start. -/
structure Plan.MadeFor (root : String) (around : Surroundings) (task : Utf16) (p : Plan) :
    Prop where
  id : ∃ unique, p.planId = some (Plan.idOf unique)
  given : Text.trim p.taskDescription.repaired ≠ ""
  taskDescription : p.taskDescription = task
  agentId : p.agentId = "amazon-q-cli"
  agentName : p.agentName = "Amazon Q CLI"
  installScriptPath : p.installScriptPath = root ++ "/install/setup_amazon_q.sh"
  env : p.env = amazonQShown around.source
  commands : p.commands =
    [⟨Shell.join ["qchat", "chat", "--no-interactive", "--trust-all-tools", task], 1800, true⟩]
  createdAt : ∃ now, around.clock = some now ∧ p.createdAt = now.iso

variable {root : String} {around : Surroundings} {agent : Agent} {task : Utf16} {unique : String}
  {p : Plan}

-- ---------------------------------------------------------------------------
-- One plan
-- ---------------------------------------------------------------------------

theorem amazonQShown_names (source : Source) :
    (amazonQShown source).map Prod.fst =
      "AMAZON_Q_SIGV4" :: amazonQCredentials ++ amazonQOpen := by
  simp [amazonQShown, Function.comp_def]

theorem Plan.MadeFor.storable_kept (h : p.MadeFor root around task) : p.kept.Storable := by
  have hnames : p.kept.env.map Prod.fst = (amazonQShown around.source).map Prod.fst :=
    congrArg (List.map Prod.fst) h.env
  rw [amazonQShown_names] at hnames
  constructor
  · exact Utf16.whole_ofString _
  · refine Members.settled_of_nodup ?_ (by rw [hnames]; decide)
    have hindex : ∀ name ∈ p.kept.env.map Prod.fst, Members.index? name = none := by
      rw [hnames]
      decide
    exact fun x hx => hindex x.1 (List.mem_map_of_mem hx)
  · rw [hnames]
    decide
  · intro c hc
    have hcommands : p.kept.commands = [⟨_, 1800, true⟩] := h.commands
    rw [hcommands, List.mem_singleton] at hc
    rw [hc]
    exact ⟨1800, rfl, by decide⟩

/-- Made of a task without halves, the plan is kept whole. -/
theorem Plan.MadeFor.storable {task : String} (h : p.MadeFor root around task) : p.Storable := by
  have hwhole : p.taskDescription.Whole := h.taskDescription ▸ Utf16.whole_ofString task
  rw [← Plan.kept_eq hwhole]
  exact h.storable_kept

theorem Plan.build_madeFor (ha : agent ∈ (Registry.default root).agents)
    (ht : task.isBlank = false)
    (h : Plan.build agent task around.source (Plan.idOf unique) around.clock = .ok p) :
    p.MadeFor root around task := by
  obtain rfl := List.mem_singleton.mp ha
  have hbuilt := build_ok h
  obtain ⟨env, henv, hshown⟩ := hbuilt.env
  have henv : (amazonQDescription root).environment around.source = env := Except.ok.inj henv
  exact {
    id := ⟨unique, hbuilt.planId⟩
    given := by
      rw [hbuilt.taskDescription, Ne, ← Utf16.isBlank_iff, ht]
      exact Bool.false_ne_true
    taskDescription := hbuilt.taskDescription
    agentId := hbuilt.agentId
    agentName := (Except.ok.inj hbuilt.agentName).symm
    installScriptPath := (Except.ok.inj hbuilt.installScript).symm
    env := by
      rw [hshown, ← amazonQ_redact root around.source, henv]
      rfl
    commands := (Except.ok.inj hbuilt.commands).symm
    createdAt := hbuilt.createdAt }

namespace Service

variable {s t : Service} {c : Call} {calls : List Call} {a : Answer} {answers : List Answer}
  {plans more : List Plan}

-- ---------------------------------------------------------------------------
-- What a run keeps
-- ---------------------------------------------------------------------------

/-- One of the calls asked for the plan's task, and the plan was made of what it found around it. -/
def Asked (root : String) (calls : List Call) (p : Plan) : Prop :=
  ∃ c ∈ calls, ∃ task, c.task? = some task ∧ p.MadeFor root c.around task

/-- In the answer stands what is kept of a plan that was asked for, or that plan as it was made. -/
def Accounted (root : String) (calls : List Call) (a : Answer) (q : Plan) : Prop :=
  ∃ p, Asked root calls p ∧ (q = p.kept ∨ q = p ∧ a.Creates q)

/-- What holds after these calls got these answers, while the store holds these plans. -/
structure Keeps (root : String) (calls : List Call) (answers : List Answer) (s : Service)
    (plans : List Plan) : Prop where
  registry : s.registry = Registry.default root
  holds : s.store.Holds plans
  asked : ∀ q ∈ plans, ∃ p, q = p.kept ∧ Asked root calls p
  created : ∀ a ∈ answers, ∀ p, a.Creates p → p.kept ∈ plans
  answered : answers.length = calls.length
  shown : ∀ i a q, answers[i]? = some a → a.Shows q → Accounted root (calls.take (i + 1)) a q

theorem Asked.append {before after : List Call} (h : Asked root before p) :
    Asked root (before ++ after) p := by
  obtain ⟨c, hc, hp⟩ := h
  exact ⟨c, List.mem_append_left after hc, hp⟩

theorem Keeps.snoc (h : Keeps root calls answers s plans) (hr : t.registry = s.registry)
    (hs : t.store.Holds (plans ++ more))
    (hmore : ∀ q ∈ more, ∃ p, q = p.kept ∧ Asked root (calls ++ [c]) p)
    (hmade : ∀ p, a.Creates p → p.kept ∈ plans ++ more)
    (ha : ∀ q, a.Shows q → Accounted root (calls ++ [c]) a q) :
    Keeps root (calls ++ [c]) (answers ++ [a]) t (plans ++ more) := by
  refine ⟨hr.trans h.registry, hs, ?_, ?_, by simp [h.answered], ?_⟩
  · intro q hq
    rcases List.mem_append.mp hq with hq | hq
    · obtain ⟨p, hkept, hp⟩ := h.asked q hq
      exact ⟨p, hkept, hp.append⟩
    · exact hmore q hq
  · intro b hb p hp
    rcases List.mem_append.mp hb with hb | hb
    · exact List.mem_append_left more (h.created b hb p hp)
    · rw [List.mem_singleton.mp hb] at hp
      exact hmade p hp
  · intro i b q hb hq
    have hlength := h.answered
    rcases Nat.lt_or_ge i answers.length with hi | hi
    · rw [List.getElem?_append_left hi] at hb
      rw [List.take_append_of_le_length (by omega)]
      exact h.shown i b q hb hq
    · -- The last answer: its call is among all the calls there are.
      rw [List.getElem?_append_right hi, List.getElem?_singleton] at hb
      split at hb
      · obtain rfl := Option.some.inj hb
        rw [List.take_of_length_le (by simp; omega)]
        exact ha q hq
      · cases hb

/-- A plan that a call shows is held by the store, or the call made it. -/
theorem Origin.held {o : Operation} (h : Origin s around o p) (hs : s.store.Holds plans) :
    p ∈ plans ∨
      ∃ ref task, o.creation? = some (ref, task) ∧ (s.create around ref task).2 = .ok p := by
  cases h with
  | made asked made => exact .inr ⟨_, _, asked, made⟩
  | got got => exact .inl ((get_holds hs).mp got).1
  | listed listed mem => exact .inl (list_mem hs listed mem)

theorem Keeps.made (h : Keeps root calls answers s plans) {ref : String}
    (hasked : c.operation.creation? = some (ref, task)) (hgiven : task.isBlank = false)
    (ha : agent ∈ s.registry.agents) (hp : Plan.build agent task c.around.source
      (s.handed c.unique).nextId c.around.clock = .ok p) :
    p.kept.Storable ∧ Asked root (calls ++ [c]) p := by
  rw [h.registry] at ha
  have hmade := Plan.build_madeFor ha hgiven hp
  have htask : c.task? = some task := by rw [Call.task?, hasked]; rfl
  exact ⟨hmade.storable_kept, c, by simp, task, htask, hmade⟩

/-- What the store holds is kept of plans that were asked for. -/
theorem Keeps.shows (h : Keeps root calls answers s plans) {q : Plan} (hq : q ∈ plans) :
    Accounted root (calls ++ [c]) a q := by
  obtain ⟨p, hkept, hp⟩ := h.asked q hq
  exact ⟨p, hp.append, .inl hkept⟩

theorem Keeps.next (h : Keeps root calls answers s plans) (c : Call) :
    ∃ more, Keeps root (calls ++ [c]) (answers ++ [(s.step c).2]) (s.step c).1 (plans ++ more) := by
  have hs : (s.handed c.unique).store.Holds plans := h.holds
  cases hasked : c.operation.creation? with
  | none =>
    have hkept : (s.step c).1.store = s.store := (perform_reading hasked).2.1
    refine ⟨[], h.snoc step_registry ?_ (by simp) ?_ ?_⟩
    · rw [hkept, List.append_nil]
      exact hs
    · intro p hp
      obtain ⟨ref, task, hasked', -⟩ := perform_creates.mp hp
      cases hasked.symm.trans hasked'
    · intro q hq
      rcases (perform_shows hq).held hs with hheld | ⟨ref, task, hasked', -⟩
      · exact h.shows hheld
      · cases hasked.symm.trans hasked'
  | some asked =>
    obtain ⟨ref, task⟩ := asked
    have hc := create_creation (s.handed c.unique) c.around ref task
    obtain ⟨more, hholds, hmore, hmade⟩ := hc.holds hs fun hgiven agent hagent p hp =>
      (h.made hasked hgiven hagent hp).1
    refine ⟨more, h.snoc step_registry ?_ ?_ ?_ ?_⟩
    · rw [step, perform_asking hasked]
      exact hholds
    · intro q hq
      obtain ⟨hgiven, agent, hagent, p, hp, rfl⟩ := hmore q hq
      exact ⟨p, rfl, (h.made hasked hgiven hagent hp).2⟩
    · intro p hp
      obtain ⟨ref', task', hasked', hcreated⟩ := perform_creates.mp hp
      obtain ⟨rfl, rfl⟩ := Operation.asked_once hasked hasked'
      exact List.mem_append_right plans (hmade p hcreated)
    · intro p hp
      rcases (perform_shows hp).held hs with hheld | ⟨ref', task', hasked', hcreated⟩
      · exact h.shows hheld
      · obtain ⟨rfl, rfl⟩ := Operation.asked_once hasked hasked'
        obtain ⟨agent, hresolved, hgiven, hp⟩ := create_ok hcreated
        exact ⟨p, (h.made hasked hgiven (Registry.resolve_mem hresolved) hp).2,
          .inr ⟨rfl, perform_creates.mpr ⟨ref, task, hasked, hcreated⟩⟩⟩

theorem Keeps.run (h : Keeps root [] [] s []) (calls : List Call) :
    ∃ plans, Keeps root calls (s.run calls).2 (s.run calls).1 plans := by
  induction calls using List.reverseRecOn with
  | nil => exact ⟨[], h⟩
  | append_singleton calls c ih =>
    obtain ⟨plans, hplans⟩ := ih
    obtain ⟨more, hmore⟩ := hplans.next c
    rw [run_snoc]
    exact ⟨plans ++ more, hmore⟩

end Service

end AgentPlans
