import AgentPlans.Proofs.Results
import AgentPlans.Proofs.Store.Row
import Mathlib.Tactic.Choose

/-!
# What a stored plan is recalled as

`Plan.recalls`: the row of every plan reads as a plan, as long as its numbers are
binary64 numbers. All the texts come back. The environment comes back as setting
its names one by one gives it, without the reserved name. Of the commands, those
come back whose time limit is finite, with their texts.
-/

namespace AgentPlans

open Json (Reads)

/-- The plan `q` is what is recalled of the stored plan `p`. -/
structure Plan.Recalls (p q : Plan) : Prop where
  planId : q.planId = p.planId
  agentId : q.agentId = p.agentId
  agentName : q.agentName = p.agentName
  taskDescription : q.taskDescription = p.taskDescription.repaired
  installScriptPath : q.installScriptPath = p.installScriptPath
  env : q.env = (Members.ofList p.env).filter fun x => x.1 ≠ Members.reserved
  commands : q.commands.map (fun c => (c.command, c.block)) =
    (p.commands.filter (·.maxTimeoutSec.isFinite)).map fun c => (c.command, c.block)
  createdAt : q.createdAt = p.createdAt

variable {env : Environment} {c : Command} {commands : List Command} {p : Plan}

theorem Environment.reads_toJson (env : Environment) :
    Reads env.toJson (.object ((Members.ofList env).map fun x => (x.1, .string x.2))) := by
  have hreads : Reads
      (.object ((env.map fun x => (x.1, Json.string x.2, Json.string x.2)).map
        fun m => (m.1, m.2.1)))
      (.object (Members.ofList
        ((env.map fun x => (x.1, Json.string x.2, Json.string x.2)).map fun m => (m.1, m.2.2)))) := by
    refine .object fun m hm => ?_
    obtain ⟨x, -, rfl⟩ := List.mem_map.mp hm
    exact .string x.2
  have hset : Members.ofList (env.map fun x => (x.1, Json.string x.2)) =
      (Members.ofList env).map fun x => (x.1, Json.string x.2) :=
    Members.ofList_mapValues fun _ value => Json.string value
  rw [List.map_map, List.map_map] at hreads
  rw [← hset]
  exact hreads

theorem Row.decodeEnvironment_recalls (env : Environment) :
    Row.decodeEnvironment env.toJson.render =
      .ok ((Members.ofList env).filter fun x => x.1 ≠ Members.reserved) := by
  rw [Row.decodeEnvironment, Json.parse_render_reads env.reads_toJson]
  exact congrArg Except.ok (Row.filterMap_textEntry? _)

/-- A command is recalled with its texts if its time limit is finite, and not at all if not. -/
theorem Command.reads_toJson (h : c.maxTimeoutSec.IsBinary64) :
    ∃ w, Reads c.toJson w ∧ (Row.command? w).map (fun c => (c.command, c.block)) =
      if c.maxTimeoutSec.isFinite then some (c.command, c.block) else none := by
  have hobject : ∀ v, Reads (.number c.maxTimeoutSec) v → Reads c.toJson
      (.object [("command", .string c.command), ("maxTimeoutSec", v), ("block", .bool c.block)]) := by
    intro v hv
    have hset : Members.Settled
        [("command", Json.string c.command), ("maxTimeoutSec", v), ("block", .bool c.block)] :=
      Members.settled_of_nodup (by simp; decide) (by simp)
    have hfields : ∀ m ∈ [("command", Json.string c.command, Json.string c.command),
        ("maxTimeoutSec", .number c.maxTimeoutSec, v), ("block", .bool c.block, .bool c.block)],
        Reads m.2.1 m.2.2 := by
      intro m hm
      simp only [List.mem_cons, List.not_mem_nil, or_false] at hm
      rcases hm with rfl | rfl | rfl
      · exact .string _
      · exact hv
      · exact .bool _
    rw [← hset]
    exact .object hfields
  by_cases hf : c.maxTimeoutSec.isFinite = true
  · obtain ⟨m, hm⟩ := Json.exists_readsAsNumber h hf
    exact ⟨_, hobject _ (.number hm), by rw [if_pos hf]; rfl⟩
  · rw [Bool.not_eq_true] at hf
    exact ⟨_, hobject _ (.unlimited hf), by rw [hf]; rfl⟩

theorem Row.decodeCommands_recalls (h : ∀ c ∈ commands, c.maxTimeoutSec.IsBinary64) :
    ∃ shown, Row.decodeCommands (Command.listToJson commands).render = .ok shown ∧
      shown.map (fun c => (c.command, c.block)) =
        (commands.filter (·.maxTimeoutSec.isFinite)).map fun c => (c.command, c.block) := by
  choose! w hreads hcommand using fun (c : Command) => c.reads_toJson
  have harray : Reads (.array ((commands.map fun c => (c.toJson, w c)).map Prod.fst))
      (.array ((commands.map fun c => (c.toJson, w c)).map Prod.snd)) := by
    refine .array fun p hp => ?_
    obtain ⟨c, hc, rfl⟩ := List.mem_map.mp hp
    exact hreads c (h c hc)
  rw [List.map_map, List.map_map] at harray
  have hparse : Json.parse (Command.listToJson commands).render = some (.array (commands.map w)) :=
    Json.parse_render_reads harray
  refine ⟨(commands.map w).filterMap Row.command?, ?_, ?_⟩
  · rw [Row.decodeCommands, hparse]
  · rw [List.map_filterMap, List.filterMap_map]
    exact filterMap_eq_map_filter fun c hc => hcommand c (h c hc)

theorem Plan.recalls (h : ∀ c ∈ p.commands, c.maxTimeoutSec.IsBinary64) :
    ∃ q, p.row.plan = .ok q ∧ p.Recalls q := by
  obtain ⟨shown, hshown, hcommands⟩ := Row.decodeCommands_recalls h
  refine ⟨⟨p.planId, p.agentId, p.agentName, p.taskDescription.repaired, p.installScriptPath,
    (Members.ofList p.env).filter fun x => x.1 ≠ Members.reserved, shown, p.createdAt⟩, ?_, ?_⟩
  · rw [Row.plan, Plan.row, Row.decodeEnvironment_recalls, hshown]
    rfl
  · exact ⟨rfl, rfl, rfl, rfl, rfl, rfl, hcommands, rfl⟩

end AgentPlans
