import AgentPlans.Proofs.Service.Agents
import AgentPlans.Proofs.Service.Listing

/-!
# Plans that were returned are recalled

A plan that was returned is found under its id from then on, and it stands once
among the plans that listings show the front of (`commands_recalled`). All of it
is recalled but commands without a finite time limit: the data format has no
such number, the row holds a null in its place, and reading the row drops the
command. So no command is lost exactly if all time limits are finite.
-/

namespace AgentPlans

theorem Plan.Recalls.texts {p q : Plan} (h : p.Recalls q) :
    q.commands.map Command.command =
      (p.commands.filter (·.maxTimeoutSec.isFinite)).map Command.command := by
  have htexts := congrArg (List.map Prod.fst) h.commands
  simpa [Function.comp_def] using htexts

theorem Plan.Recalls.length_iff {p q : Plan} (h : p.Recalls q) :
    q.commands.length = p.commands.length ↔
      ∀ c ∈ p.commands, c.maxTimeoutSec.isFinite = true := by
  have hlength := congrArg List.length h.texts
  rw [List.length_map, List.length_map] at hlength
  rw [hlength, List.length_filter_eq_length_iff]

namespace Service

variable {s : Service} {c : Call} {calls : List Call} {made : List Making} {p q : Plan}
  {rows : List Row} {id : String}

theorem step_distinct (h : s.store.Distinct) : (s.step c).1.store.Distinct := by
  rw [step]
  have hhanded : (s.handed c.unique).store.Distinct := h
  cases hasked : c.operation.creation? with
  | none =>
    rw [(perform_reading hasked).2.1]
    exact hhanded
  | some asked =>
    obtain ⟨ref, task⟩ := asked
    rw [perform_asking hasked]
    rcases (create_creation (s.handed c.unique) c.around ref task).store with
      ⟨hkept, -⟩ | ⟨agent, plan, -, -, hbuilt, hinsert, -⟩
    · rw [hkept]
      exact hhanded
    · exact hhanded.insert (Plan.build_ok hbuilt).planId hinsert

theorem run_distinct (h : s.store.Distinct) : (s.run calls).1.store.Distinct := by
  induction calls generalizing s with
  | nil => exact h
  | cons c calls ih =>
    rw [run_cons]
    exact ih (step_distinct h)

-- ---------------------------------------------------------------------------
-- Plans that are stored
-- ---------------------------------------------------------------------------

theorem Makings.named (h : Makings s calls made) : ∀ m ∈ made, ∃ id, m.plan.planId = some id := by
  refine h.forall_mem ?_
  intro s c now _ hmakes m hm
  cases hmakes with
  | nothing => cases hm
  | stored asked resolved clock built rows =>
    obtain rfl := List.mem_singleton.mp hm
    exact ⟨_, (Plan.build_ok built).planId⟩

theorem Makes.created (h : Makes s c made) (hp : (s.step c).2.Creates p) :
    ∃ m ∈ made, m.plan = p := by
  obtain ⟨ref, task, hasked, hcreated⟩ := perform_creates.mp hp
  rcases (create_creation (s.handed c.unique) c.around ref task).store with
    ⟨-, f, hf⟩ | ⟨agent, plan, hresolved, -, hbuilt, hinsert, hresult⟩
  · cases hcreated.symm.trans hf
  obtain rfl : p = plan := by
    rcases hresult with hok | ⟨e, -, he⟩
    · exact Except.ok.inj (hcreated.symm.trans hok)
    · cases hcreated.symm.trans he
  cases h with
  | @stored ref' task' agent' plan' now asked resolved clock built after =>
    obtain ⟨rfl, rfl⟩ := Operation.asked_once hasked asked
    obtain rfl := Option.some.inj (Except.ok.inj (hresolved.symm.trans resolved))
    exact ⟨_, List.mem_singleton_self _, Except.ok.inj (built.symm.trans hbuilt)⟩
  | nothing kept =>
    -- The row that was inserted would be missing.
    obtain ⟨rows', row, hrows', -, -, hafter⟩ := Store.insert_ok hinsert
    have hstep : (s.step c).1.store = ⟨some (rows' ++ [row])⟩ := by
      rw [step, perform_asking hasked, hafter]
    have hsame : s.store.table = some rows' := hrows'
    rw [kept] at hstep
    rw [hstep] at hsame
    simp at hsame

theorem Makings.created (h : Makings s calls made) :
    ∀ a ∈ (s.run calls).2, ∀ p, a.Creates p → ∃ m ∈ made, m.plan = p := by
  induction h with
  | nil => simp [run]
  | @cons s c calls now later first _ ih =>
    intro a ha p hp
    rw [run_cons] at ha
    rcases List.mem_cons.mp ha with rfl | ha
    · obtain ⟨m, hm, rfl⟩ := first.created hp
      exact ⟨m, List.mem_append_left later hm, rfl⟩
    · obtain ⟨m, hm, rfl⟩ := ih a ha p hp
      exact ⟨m, List.mem_append_right now hm, rfl⟩

theorem get_row (h : s.store.Distinct) (hrows : s.store.table = some rows) (hp : p.row ∈ rows)
    (hid : p.planId = some id) (hread : readRow p.row = .ok q) : s.get id = .ok q := by
  rw [get, find?, h.fetch hrows hp hid]
  simp only [hread]
  rfl

-- ---------------------------------------------------------------------------
-- Plans that are listed
-- ---------------------------------------------------------------------------

/-- Listings show the front of these plans, as much of it as the limits allow. -/
def Lists (s : Service) (all : List Plan) : Prop :=
  ∀ (bound : Int) (limit : Number) (value : Rat), s.maxListLimit = .ofInt bound → 0 < bound →
    limit.value? = some value → allowed bound value < 9223372036854775808 →
      s.list limit = .ok (all.take (allowed bound value).toNat)

theorem lists_of_rows {all : List Plan} (hrows : s.store.table = some rows)
    (hall : (Store.latestFirst rows).mapM readRow = .ok all) : s.Lists all := by
  intro bound limit value hbound hpos hvalue hlt
  have hcount : max 1 (min bound value.floor) = allowed bound value := rfl
  rw [list_rows hrows hbound hpos hvalue rfl, hcount, if_pos hlt, mapM_take hall]

theorem planId_of_readRow {row : Row} (h : readRow row = .ok q) : q.planId = row.planId := by
  cases hplan : row.plan with
  | error e => simp [readRow, hplan] at h
  | ok plan =>
    obtain rfl : plan = q := by simpa [readRow, hplan] using h
    obtain ⟨_, -, h⟩ := bind_ok.mp hplan
    obtain ⟨_, -, h⟩ := bind_ok.mp h
    obtain rfl := pure_ok.mp h
    rfl

theorem nodup_listed {all : List Plan} (h : s.store.Distinct) (hrows : s.store.table = some rows)
    (hall : (Store.latestFirst rows).mapM readRow = .ok all) : (all.map Plan.planId).Nodup := by
  have hids : (Store.latestFirst rows).map Row.planId = all.map Plan.planId := by
    rw [← List.forall₂_eq_eq_eq, List.forall₂_map_left_iff, List.forall₂_map_right_iff]
    exact (forall₂_of_mapM_ok hall).imp fun row plan hread => (planId_of_readRow hread).symm
  rw [← hids]
  exact ((Store.latestFirst_perm rows).map Row.planId).nodup_iff.mpr (h rows hrows)

/-- From an initialised store without plans, a plan that a call returned is got under its id in the
end, and it stands once among the plans that are listed. It has the commands whose time limits are
finite, with their texts and in their order, and so as many commands as were returned exactly if all
the limits are finite. -/
theorem commands_recalled (s : Service) (calls : List Call) (new : s.store.table = some [])
    (numbered : ∀ agent ∈ s.registry.agents, agent.Numbered) :
    ∃ all, (s.run calls).1.Lists all ∧ (all.map Plan.planId).Nodup ∧
      ∀ a ∈ (s.run calls).2, ∀ p, a.Creates p →
        ∃ id q, p.planId = some id ∧ (s.run calls).1.get id = .ok q ∧ q ∈ all ∧ p.Recalls q ∧
          q.commands.map Command.command =
            (p.commands.filter (·.maxTimeoutSec.isFinite)).map Command.command ∧
          (q.commands.length = p.commands.length ↔
            ∀ c ∈ p.commands, c.maxTimeoutSec.isFinite = true) := by
  obtain ⟨made, hmade⟩ := exists_makings s calls
  have htable := hmade.table new
  rw [List.nil_append] at htable
  have hnew : s.store.Distinct := by
    intro rows hrows
    obtain rfl : [] = rows := Option.some.inj (new.symm.trans hrows)
    exact List.nodup_nil
  have hdistinct : (s.run calls).1.store.Distinct := run_distinct hnew
  have hread : ∀ m ∈ made, ∃ q, readRow m.plan.row = .ok q ∧ m.plan.Recalls q :=
    fun m hm => readRow_recalls (hmade.numbers numbered m hm)
  obtain ⟨all, hall, hrows⟩ : ∃ all,
      (Store.latestFirst (made.map (·.plan.row))).mapM readRow = .ok all ∧
        List.Forall₂ (fun row q => readRow row = .ok q)
          (Store.latestFirst (made.map (·.plan.row))) all := by
    refine exists_mapM_ok fun row hrow => ?_
    obtain ⟨m, hm, rfl⟩ := List.mem_map.mp ((Store.latestFirst_perm _).mem_iff.mp hrow)
    obtain ⟨q, hq, -⟩ := hread m hm
    exact ⟨q, hq, hq⟩
  refine ⟨all, lists_of_rows htable hall, nodup_listed hdistinct htable hall, ?_⟩
  intro a ha p hp
  obtain ⟨m, hm, rfl⟩ := hmade.created a ha p hp
  obtain ⟨q, hq, hrecalls⟩ := hread m hm
  have hrow : m.plan.row ∈ made.map (·.plan.row) := List.mem_map_of_mem hm
  have hlisted : q ∈ all := by
    obtain ⟨q', hq', hsame⟩ :=
      exists_mem_of_forall₂ hrows ((Store.latestFirst_perm _).mem_iff.mpr hrow)
    rwa [Except.ok.inj (hq.symm.trans hsame)]
  obtain ⟨id, hid⟩ := hmade.named m hm
  exact ⟨id, q, hid, get_row hdistinct htable hrow hid hq, hlisted, hrecalls, hrecalls.texts,
    hrecalls.length_iff⟩

/-- An agent whose first command may run for ever. -/
def patient : Agent :=
  { plain "long" "Long" with
    commands := fun _ => .ok [⟨"first", .infinity false, true⟩, ⟨"second", 60, false⟩] }

def waiting : Service := { started with registry := ⟨[patient]⟩ }

def asking : Call := ⟨.create "long" "fix it", dawn, none⟩

theorem numbered_waiting : ∀ agent ∈ waiting.registry.agents, agent.Numbered := by
  intro agent hagent
  obtain rfl : agent = patient := List.mem_singleton.mp hagent
  rintro task commands ⟨⟩ c hc
  simp only [List.mem_cons, List.not_mem_nil, or_false] at hc
  rcases hc with rfl | rfl
  · trivial
  · exact Number.isBinary64_ofInt (n := 60) (by decide)

theorem step_waiting : ∃ id p, p.planId = some id ∧
    p.commands = [⟨"first", .infinity false, true⟩, ⟨"second", 60, false⟩] ∧
    (waiting.step asking).2 = .created (.ok p) ∧
    (waiting.step asking).1.store.table = some [p.row] := by
  have hresolved : (waiting.handed none).registry.resolve "long" = .ok (some patient) := by
    refine Registry.resolve_of_id (by decide) ?_
    have hreference : Registry.referenceKey "long" = "long" := by decide +kernel
    have hid : Registry.key patient.id = "long" := by decide +kernel
    rw [Registry.findId?, hreference]
    exact List.find?_cons_of_pos (beq_iff_eq.mpr hid)
  have hgiven : (Utf16.ofString "fix it").isBlank = false := by decide
  have hnew : (waiting.handed none).store.table = some [] := rfl
  obtain ⟨p, hbuilt, hcommands⟩ : ∃ p,
      Plan.build patient "fix it" dawn.source (waiting.handed none).nextId dawn.clock = .ok p ∧
        p.commands = [⟨"first", .infinity false, true⟩, ⟨"second", 60, false⟩] := ⟨_, rfl, rfl⟩
  obtain ⟨log, hcreate⟩ := create_made dawn hresolved (by decide) hgiven hnew (by simp)
    (fun _ => ⟨_, rfl⟩) hbuilt
  refine ⟨_, p, (Plan.build_ok hbuilt).planId, hcommands, ?_, ?_⟩
  · rw [step, asking, perform_create, hcreate]
  · rw [step, asking, perform_create, hcreate]
    rfl

theorem commands_recalled_waiting :
    waiting.store.table = some [] ∧ (∀ agent ∈ waiting.registry.agents, agent.Numbered) ∧
      ∃ all, (waiting.run [asking]).1.Lists all ∧ (all.map Plan.planId).Nodup ∧
        ∃ p q, (waiting.run [asking]).2 = [.created (.ok p)] ∧ p.Recalls q ∧ q ∈ all ∧
          q.commands.map Command.command = ["second"] := by
  obtain ⟨all, hlists, hids, hplans⟩ := commands_recalled waiting [asking] rfl numbered_waiting
  obtain ⟨_, p, -, hcommands, hanswer, -⟩ := step_waiting
  have hanswers : (waiting.run [asking]).2 = [.created (.ok p)] := by
    rw [run_cons, hanswer]
    rfl
  rw [hanswers] at hplans
  obtain ⟨_, q, -, -, hlisted, hrecalls, htexts, -⟩ := hplans _ (List.mem_singleton_self _) p rfl
  rw [hcommands] at htexts
  exact ⟨rfl, numbered_waiting, all, hlists, hids, p, q, hanswers, hrecalls, hlisted, htexts⟩

/-- A plan with two commands is returned, and what is got under its id afterwards has one. -/
theorem commands_recalled_dropped :
    (∀ agent ∈ waiting.registry.agents, agent.Numbered) ∧
      ∃ id p q, (waiting.run [asking]).2 = [.created (.ok p)] ∧ p.planId = some id ∧
        (waiting.run [asking]).1.get id = .ok q ∧
        p.commands.map Command.command = ["first", "second"] ∧
        q.commands.map Command.command = ["second"] := by
  obtain ⟨id, p, hid, hcommands, hanswer, htable⟩ := step_waiting
  have hnumbered : ∀ c ∈ p.commands, c.maxTimeoutSec.IsBinary64 := by
    rw [hcommands]
    simp only [List.forall_mem_cons]
    exact ⟨trivial, Number.isBinary64_ofInt (n := 60) (by decide), by simp⟩
  obtain ⟨q, hq, hrecalls⟩ := readRow_recalls hnumbered
  have hdistinct : (waiting.step asking).1.store.Distinct := by
    intro rows hrows
    obtain rfl : [p.row] = rows := Option.some.inj (htable.symm.trans hrows)
    exact List.nodup_singleton _
  have htexts := hrecalls.texts
  rw [hcommands] at htexts
  refine ⟨numbered_waiting, id, p, q, ?_, hid, ?_, by rw [hcommands]; rfl, htexts⟩
  · rw [run_cons, hanswer]
    rfl
  · exact get_row hdistinct htable (List.mem_singleton_self _) hid hq

end Service

end AgentPlans
