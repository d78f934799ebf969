import AgentPlans.Plan

/-!
# Health report

What the service says about itself.
-/

namespace AgentPlans

structure Health where
  runtimeVersion : String
  clock : Time.Instant
  agents : List AgentSummary
  defaultAgent : String

namespace Health

def serviceName : String := "q-bench-adapter"

def toJson (h : Health) : Json :=
  .object [
    ("service", .string serviceName),
    ("status", .string "ok"),
    ("nodeVersion", .string h.runtimeVersion),
    ("timestamp", .string h.clock.iso),
    ("contracts", .object [("installedAgent", .string "v1"), ("planApi", .string "v1"),
      ("auditLog", .string "v1.0")]),
    ("agents", .array (h.agents.map AgentSummary.toJson)),
    ("defaultAgent", .string h.defaultAgent)]

end Health

end AgentPlans
