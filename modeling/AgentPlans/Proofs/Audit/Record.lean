import AgentPlans.Audit.Log
import AgentPlans.Proofs.Text.Utf16

/-!
# The service's own records

A decision on a plan becomes a record whose fields the log can find again. So
the check of such a record comes down to its timestamp, its plan and its agent;
its event is always one of the two.
-/

namespace AgentPlans

theorem Json.phraseText?_string (text : String) : (Json.string text).phraseText? = some text := by
  simp [phraseText?, phrase?]

namespace Audit

variable {e : Entry} {log : Log}

theorem Entry.withVersion_record :
    e.record.withVersion = e.record ++ [("auditVersion", .string version)] := by
  cases hcode : e.errorCode <;>
    simp [Entry.record, hcode, Record.withVersion, Members.get?, Members.insert, Members.contains,
      Members.place, Members.index?]

theorem Entry.get?_timestamp :
    e.record.withVersion.get? "timestamp" = some (.string e.timestamp) := by
  rw [withVersion_record]
  rfl

theorem Entry.get?_planId : e.record.withVersion.get? "planId" = some (.string e.planId) := by
  rw [withVersion_record]
  rfl

theorem Entry.get?_agentId : e.record.withVersion.get? "agentId" = some (.string e.agentId) := by
  rw [withVersion_record]
  rfl

theorem Entry.get?_eventType :
    e.record.withVersion.get? "eventType" = some (.string e.event.name) := by
  rw [withVersion_record]
  rfl

theorem Record.phrase_string {r : Record} {field text : String}
    (h : r.get? field = some (.string text)) : r.phrase field = .ok text := by
  simp [Record.phrase, h, Json.phraseText?_string]

theorem Entry.check_record (ht : (Time.Instant.ofText? e.timestamp).isSome = true)
    (ht' : e.timestamp ≠ "") (hp : e.planId ≠ "") (ha : e.agentId ≠ "") :
    e.record.withVersion.check = .ok () := by
  have hevent : Record.isEvent (some (.string e.event.name)) = true := by
    cases e.event <;> rfl
  simp [Record.check, Record.checkTimestamp, Record.checkEvent, Record.has, get?_timestamp,
    get?_planId, get?_agentId, get?_eventType, Json.truthy, Record.phrase_string get?_timestamp,
    ht, ht', hp, ha, hevent, bind, Except.bind]

theorem Log.append_record (h : e.record.withVersion.check = .ok ()) :
    log.append e.record =
      match log.write e.record.withVersion.line with
      | .error f => .error (.file f)
      | .ok log => .ok log := by
  cases hw : log.write e.record.withVersion.line <;> simp only [Log.append, h, hw]

end Audit

end AgentPlans
