import AgentPlans.Proofs.Audit.Record
import AgentPlans.Proofs.Json.OneLine
import AgentPlans.Proofs.Json.RoundTrip
import AgentPlans.Proofs.MemberOrder

/-!
# The lines of the log

A decision is written as one line of data, and that line reads back as the
record. A log that can be written takes every decision that passes the check: its
text grows by the line and nothing else.
-/

namespace AgentPlans.Audit

variable {e : Entry} {log : Log}

def Entry.json (e : Entry) : Json := .object e.record.withVersion

def Entry.line (e : Entry) : String := e.record.withVersion.line

def Entry.fields (e : Entry) : Members String :=
  [("timestamp", e.timestamp), ("planId", e.planId), ("agentId", e.agentId),
    ("eventType", e.event.name)] ++
  (match e.errorCode with
    | some code => [("errorCode", code)]
    | none => []) ++
  [("message", e.message), ("auditVersion", version)]

theorem Entry.json_eq (e : Entry) :
    e.json = .object (e.fields.map fun m => (m.1, Json.string m.2)) := by
  rw [json, withVersion_record]
  cases hcode : e.errorCode <;> simp [record, fields, hcode]

theorem Entry.settled_fields (e : Entry) : e.fields.Settled := by
  refine Members.settled_of_nodup ?_ ?_
  · cases hcode : e.errorCode <;> simp [fields, hcode] <;> decide
  · cases hcode : e.errorCode <;> simp [fields, hcode]

theorem Entry.faithful_json (e : Entry) : Json.Faithful e.json := by
  rw [json_eq]
  refine .object (e.settled_fields.mapValues fun _ (value : String) => Json.string value) ?_
  intro m hm
  obtain ⟨field, -, rfl⟩ := List.mem_map.mp hm
  exact .string field.2

theorem Entry.parse_render_json (e : Entry) : Json.parse e.json.render = some e.json :=
  Json.parse_render e.faithful_json

theorem Entry.line_eq (e : Entry) : e.line = e.json.render ++ "\n" := by
  rw [line, json, Record.line, String.ofList_append]
  rfl

theorem Entry.newline_notMem_render (e : Entry) : '\n' ∉ e.json.render.toList := by
  rw [Json.render, String.toList_ofList]
  exact e.json.newline_notMem_chars

-- ---------------------------------------------------------------------------
-- Logs that can be written
-- ---------------------------------------------------------------------------

/-- The log's file can be written, whether or not it is there yet. -/
def Log.Writable (log : Log) : Prop := log.place = .nothing ∨ ∃ text, log.place = .file text

def Log.content (log : Log) : String := log.text?.getD ""

theorem Log.Writable.write (h : log.Writable) (line : String) :
    ∃ log', log.write line = .ok log' ∧ log'.Writable ∧ log'.content = log.content ++ line := by
  rcases h with h | ⟨text, h⟩
  · refine ⟨_, by rw [Log.write, h], .inr ⟨line, rfl⟩, ?_⟩
    simp [content, text?, h]
  · refine ⟨_, by rw [Log.write, h], .inr ⟨_, rfl⟩, ?_⟩
    simp [content, text?, h]

theorem Log.Writable.append (h : log.Writable) (hcheck : e.record.withVersion.check = .ok ()) :
    ∃ log', log.append e.record = .ok log' ∧ log'.Writable ∧
      log'.content = log.content ++ e.line := by
  obtain ⟨log', hwrite, hwritable, hcontent⟩ := h.write e.line
  refine ⟨log', ?_, hwritable, hcontent⟩
  rw [Log.append_record hcheck]
  rw [Entry.line] at hwrite
  simp only [hwrite]

theorem Record.line_ne_empty (r : Record) : r.line ≠ "" := by
  simp [Record.line]

theorem Log.place_of_write {log' : Log} {line : String} (hline : line ≠ "")
    (h : log.write line = .ok log') : log'.place ≠ .nothing ∧ log'.place ≠ .file "" := by
  unfold Log.write at h
  split at h <;> cases h
  · simpa using hline
  · simp [hline]
  · next hsink => simp [hsink]

/-- After a record there is something at the log's path, and it is not an empty file. -/
theorem Log.place_of_append {log' : Log} {r : Record} (h : log.append r = .ok log') :
    log'.place ≠ .nothing ∧ log'.place ≠ .file "" := by
  simp only [Log.append] at h
  split at h
  · cases h
  · split at h
    · cases h
    · next hwrite =>
      obtain rfl := Except.ok.inj h
      exact place_of_write r.withVersion.line_ne_empty hwrite

-- ---------------------------------------------------------------------------
-- Logs that say the same
-- ---------------------------------------------------------------------------

section Agreement

variable {log' log'' : Log} {r : Record} {line : String} {f : LogError}

/-- The log takes every line. -/
def Log.Open (log : Log) : Prop := ∀ line, ∃ after, log.write line = .ok after

/-- Two logs that refuse the same records, and say the same of each. -/
def Log.Agrees (log log' : Log) : Prop := ∀ r f, log'.append r = .error f ↔ log.append r = .error f

/-- A log that took a line takes every line, before and afterwards. -/
theorem Log.open_of_write (h : log.write line = .ok log') : log.Open ∧ log'.Open := by
  unfold write at h
  cases hplace : log.place with
  | nothing =>
    obtain rfl : _ = log' := by simpa [hplace] using h
    exact ⟨fun _ => ⟨_, by rw [write, hplace]⟩, fun _ => ⟨_, rfl⟩⟩
  | file text =>
    obtain rfl : _ = log' := by simpa [hplace] using h
    exact ⟨fun _ => ⟨_, by rw [write, hplace]⟩, fun _ => ⟨_, rfl⟩⟩
  | sink =>
    obtain rfl : log = log' := by simpa [hplace] using h
    exact ⟨fun _ => ⟨_, by rw [write, hplace]⟩, fun _ => ⟨_, by rw [write, hplace]⟩⟩
  | directory => simp [hplace] at h
  | noParent => simp [hplace] at h
  | parentIsFile => simp [hplace] at h
  | nameTooLong => simp [hplace] at h

theorem Log.open_of_append (h : log.append r = .ok log') : log.Open ∧ log'.Open := by
  simp only [append] at h
  split at h
  · cases h
  · split at h
    · cases h
    · next hwrite =>
      obtain rfl := Except.ok.inj h
      exact open_of_write hwrite

theorem Log.append_of_not_open (h : ¬ log.Open) (r : Record) : ∃ f, log.append r = .error f := by
  cases happend : log.append r with
  | error f => exact ⟨f, rfl⟩
  | ok after => exact absurd (open_of_append happend).1 h

theorem Log.Open.append (h : log.Open) (hcheck : e.record.withVersion.check = .ok ()) :
    ∃ after, log.append e.record = .ok after := by
  obtain ⟨after, hafter⟩ := h e.record.withVersion.line
  exact ⟨after, by rw [append_record hcheck, hafter]⟩

theorem Log.Open.append_error (h : log.Open) :
    log.append r = .error f ↔
      ∃ reason, r.withVersion.check = .error reason ∧ f = .record reason := by
  obtain ⟨after, hafter⟩ := h r.withVersion.line
  simp only [Log.append]
  cases hcheck : r.withVersion.check with
  | error reason => simp [eq_comm]
  | ok => simp [hafter]

theorem Log.agrees_of_append (h : log.append r = .ok log') : log.Agrees log' := by
  obtain ⟨hbefore, hafter⟩ := open_of_append h
  intro r f
  rw [hbefore.append_error, hafter.append_error]

theorem Log.Agrees.trans (h : log.Agrees log') (h' : log'.Agrees log'') : log.Agrees log'' :=
  fun r f => (h' r f).trans (h r f)

theorem Log.Agrees.append (h : log.Agrees log') {after : Log} (hr : log.append r = .ok after) :
    ∃ after', log'.append r = .ok after' := by
  cases hr' : log'.append r with
  | ok after' => exact ⟨after', rfl⟩
  | error f => cases hr.symm.trans ((h r f).mp hr')

end Agreement

end AgentPlans.Audit
