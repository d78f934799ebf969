import AgentPlans.Proofs.Service.History
import AgentPlans.Proofs.Sorting
import AgentPlans.Proofs.Text.Collation
import AgentPlans.Proofs.Text.Lines
import AgentPlans.Proofs.Time.IsoText
import AgentPlans.Proofs.Workspace
import AgentPlans.Script.Timeline

/-!
# The timeline of what the service wrote

The script reads a log on its own: it splits the text into lines, trims them,
reads each as data, picks the records of one plan and sorts them by their
timestamps in alphabetical order. On a log that the service wrote this gives the
entries of the history back (`logLines_entries`, `recordsOf_entries`), and within
the years of four digits the alphabetical order of timestamps is the order of
the instants (`collation_le_iff`).

A log that is not there is no empty log to the script, so it matters whether the
service has ever written a record (`History.vacant_iff`).
-/

namespace AgentPlans

open Audit (Entry)

variable {e : Entry} {entries shown : List Entry} {q : String}

-- ---------------------------------------------------------------------------
-- Lines
-- ---------------------------------------------------------------------------

theorem Json.membersChars_last (members : List (String × Json)) :
    ∃ cs, membersChars members = cs ++ ['}'] := by
  induction members with
  | nil => exact ⟨[], rfl⟩
  | cons m members ih =>
    obtain ⟨cs, hcs⟩ := ih
    exact ⟨',' :: (memberChars m ++ cs), by simp [membersChars, hcs]⟩

theorem Json.chars_object (members : List (String × Json)) :
    ∃ cs, (Json.object members).chars = '{' :: (cs ++ ['}']) := by
  cases members with
  | nil => exact ⟨[], by simp [chars]⟩
  | cons m members =>
    obtain ⟨cs, hcs⟩ := membersChars_last members
    exact ⟨memberChars m ++ cs, by simp [chars, hcs]⟩

theorem Audit.Entry.trimChars_chars (e : Entry) : Text.trimChars e.json.chars = e.json.chars := by
  obtain ⟨cs, hcs⟩ := Json.chars_object e.record.withVersion
  rw [Entry.json, hcs]
  refine Text.trimChars_eq_self ?_ ?_
  · rintro c hc
    obtain rfl : '{' = c := Option.some.inj hc
    decide
  · rintro c hc
    rw [← List.cons_append, List.getLast?_concat] at hc
    obtain rfl : '}' = c := Option.some.inj hc
    decide

theorem toList_lines (entries : List Entry) :
    (String.join (entries.map Entry.line)).toList =
      (entries.map fun e => e.json.chars).flatMap (· ++ ['\n']) := by
  simp [String.toList_join, List.flatMap_map, Entry.line_eq, Json.render]

theorem join_lines_eq_empty : String.join (entries.map Entry.line) = "" ↔ entries = [] := by
  cases entries with
  | nil => simp
  | cons e entries => simp [String.join_cons, Entry.line, e.record.withVersion.line_ne_empty]

namespace Script

theorem logLines_entries (entries : List Entry) :
    logLines (String.join (entries.map Entry.line)) = entries.map fun e => e.json.render := by
  have hsplit : Text.split '\n' ((entries.map fun e => e.json.chars).flatMap (· ++ ['\n'])) =
      (entries.map fun e => e.json.chars) ++ [[]] := by
    refine Text.split_lines ?_
    intro line hline
    obtain ⟨e, -, rfl⟩ := List.mem_map.mp hline
    exact e.json.newline_notMem_chars
  have hne : ∀ e : Entry, e.json.render ≠ "" := by
    intro e h
    obtain ⟨cs, hcs⟩ := Json.chars_object e.record.withVersion
    have := congrArg String.toList h
    simp [Json.render, Entry.json, hcs] at this
  have htrim : ((fun cs => String.ofList (Text.trimChars cs)) ∘ fun e : Entry => e.json.chars) =
      fun e => e.json.render := by
    funext e
    simp [e.trimChars_chars, Json.render]
  have hkept : (entries.map fun e => e.json.render).filter (· != "") =
      entries.map fun e => e.json.render := by
    refine List.filter_eq_self.mpr ?_
    intro line hline
    obtain ⟨e, -, rfl⟩ := List.mem_map.mp hline
    simpa using hne e
  rw [logLines, toList_lines, hsplit, List.map_append, List.map_map, List.filter_append, htrim,
    hkept]
  simp [Text.trimChars]

theorem record?_render (e : Entry) : record? e.json.render = some e.json := by
  rw [record?, e.parse_render_json]
  rfl

theorem malformed_entries (entries : List Entry) :
    malformed (entries.map fun e => e.json.render) = 0 := by
  simp [malformed, record?_render]

theorem get?_planId (e : Entry) : e.json.get? "planId" = some (.string e.planId) :=
  e.get?_planId

theorem recordsOf_entries (entries : List Entry) :
    recordsOf q (entries.map fun e => e.json.render) =
      (entries.filter fun e => e.planId == q).map Entry.json := by
  have hconcerns : concerns q ∘ Entry.json = fun e => e.planId == q := by
    funext e
    simp [concerns, get?_planId]
  have hread : (entries.map fun e => e.json.render).filterMap record? = entries.map Entry.json := by
    have hrecord : (record? ∘ fun e : Entry => e.json.render) = some ∘ Entry.json := by
      funext e
      simp only [Function.comp, record?_render]
    rw [List.filterMap_map, hrecord, List.filterMap_eq_map]
  rw [recordsOf, hread, List.filter_map, hconcerns]

-- ---------------------------------------------------------------------------
-- Fields
-- ---------------------------------------------------------------------------

theorem get?_errorCode (e : Entry) :
    e.json.get? "errorCode" = e.errorCode.map Json.string := by
  rw [Entry.json_eq]
  cases hcode : e.errorCode <;> simp [Entry.fields, hcode, Json.get?, Members.get?]

theorem get?_message (e : Entry) : e.json.get? "message" = some (.string e.message) := by
  rw [Entry.json_eq]
  cases hcode : e.errorCode <;> simp [Entry.fields, hcode, Json.get?, Members.get?]

theorem get?_json {name : String} {v : Json} (h : e.record.withVersion.get? name = some v) :
    e.json.get? name = some v := h

theorem fieldOf?_string {record : Json} {name text : String}
    (h : record.get? name = some (.string text)) : fieldOf? record name = some (.string text) := by
  rw [fieldOf?, h]
  rfl

theorem fieldText?_string {record : Json} {name text : String} (missing : String)
    (h : record.get? name = some (.string text)) :
    fieldText? record name missing = some text := by
  rw [fieldText?, fieldOf?_string h]
  exact Json.phraseText?_string text

theorem extra?_string {record : Json} {name text : String} (label : String)
    (h : record.get? name = some (.string text)) (hne : text ≠ "") :
    extra? record name label = some [label ++ text] := by
  have htruthy : (Json.string text).truthy = true := by
    simpa [Json.truthy] using hne
  simp only [extra?, fieldOf?_string h, htruthy, if_true, Json.phraseText?_string]
  rfl

theorem extra?_none {record : Json} {name label : String} (h : record.get? name = none) :
    extra? record name label = some [] := by
  simp [extra?, fieldOf?, h]

end Script

def Audit.Entry.shownLine (e : Entry) : String :=
  "- " ++ " | ".intercalate (
    [e.timestamp, e.event.name, "agent=" ++ e.agentId] ++
      (e.errorCode.map ("code=" ++ ·)).toList ++ ["msg=" ++ e.message]) ++ "\n"

/-- Nothing that the script would leave out of a line is in the entry. -/
structure Audit.Entry.Worded (e : Entry) : Prop where
  code : e.errorCode ≠ some ""
  message : e.message ≠ ""

namespace Script

theorem recordLine?_json (h : e.Worded) : recordLine? e.json = some e.shownLine := by
  have hmessage : extra? e.json "message" "msg=" = some ["msg=" ++ e.message] :=
    extra?_string _ (get?_message e) h.message
  have hcode : extra? e.json "errorCode" "code=" =
      some (e.errorCode.map ("code=" ++ ·)).toList := by
    cases hc : e.errorCode with
    | none => exact extra?_none (by rw [get?_errorCode, hc]; rfl)
    | some code =>
      refine extra?_string _ (by rw [get?_errorCode, hc]; rfl) ?_
      rintro rfl
      exact h.code hc
  rw [recordLine?, fieldText?_string _ (get?_json e.get?_timestamp),
    fieldText?_string _ (get?_json e.get?_eventType),
    fieldText?_string _ (get?_json e.get?_agentId), hcode, hmessage]
  rfl

theorem printLines_entries (h : ∀ e ∈ shown, e.Worded) (written stderr : String) :
    printLines written stderr (shown.map Entry.json) =
      .exited 0 (written ++ String.join (shown.map Entry.shownLine)) stderr := by
  induction shown generalizing written with
  | nil => simp [printLines]
  | cons e shown ih =>
    rw [List.map_cons, printLines, recordLine?_json (h e List.mem_cons_self)]
    dsimp only
    rw [ih fun e' he' => h e' (List.mem_cons_of_mem _ he')]
    simp [String.append_assoc]

end Script

-- ---------------------------------------------------------------------------
-- The order
-- ---------------------------------------------------------------------------

/-- In the years of four digits the alphabetical order of timestamps is that of the instants. -/
theorem collation_le_iff {t u : Time.Instant} (ht : t.FourDigitYear) (hu : u.FourDigitYear) :
    (Text.collationKey t.iso).le (Text.collationKey u.iso) = true ↔ t.millis ≤ u.millis := by
  have hascii : ∀ t : Time.Instant, Text.IsAscii t.isoChars := fun t c hc =>
    (t.isPrintable_isoChars c hc).2
  have hlt : ∀ {t u : Time.Instant}, t.FourDigitYear → u.FourDigitYear → t.millis < u.millis →
      (Text.collationKey t.iso).levels < (Text.collationKey u.iso).levels := fun ht hu h =>
    Text.collationKey_lt (hascii _) (hascii _) (Time.Instant.isoChars_before ht hu h)
  rw [Text.CollationKey.le_iff]
  rcases Int.lt_trichotomy t.millis u.millis with h | h | h
  · exact iff_of_true (le_of_lt (hlt ht hu h)) (by omega)
  · obtain rfl := Time.Instant.eq_of_millis h
    exact iff_of_true le_rfl (by omega)
  · exact iff_of_false (not_le.mpr (hlt hu ht h)) (by omega)

def Audit.Entry.instant (e : Entry) : Int :=
  ((Time.Instant.ofText? e.timestamp).map (·.millis)).getD 0

/-- The timestamp is the text of an instant in a year of four digits. -/
def Audit.Entry.Dated (e : Entry) : Prop :=
  ∃ now : Time.Instant, now.FourDigitYear ∧ e.timestamp = now.iso

theorem Audit.Entry.instant_eq {now : Time.Instant} (h : e.timestamp = now.iso) :
    e.instant = now.millis := by
  rw [instant, h, Time.Instant.ofText?_iso]
  rfl

namespace Script

def timestampLe (a b : Entry) : Bool :=
  (Text.collationKey a.timestamp).le (Text.collationKey b.timestamp)

/-- Entries are sorted by their timestamps also where there is nothing to sort. -/
theorem inOrder?_json (entries : List Entry) :
    inOrder? (entries.map Entry.json) = some ((entries.mergeSort timestampLe).map Entry.json) := by
  match entries with
  | [] => simp [inOrder?]
  | [e] => simp [inOrder?]
  | e :: e' :: rest =>
    -- Two entries or more: the script sorts, and from here on the number does not matter.
    generalize hall : e :: e' :: rest = all
    have hmany : inOrder? (all.map Entry.json) = (do
        let keyed ← (all.map Entry.json).mapM fun r => do
          let timestamp ← fieldText? r "timestamp" ""
          return (Text.collationKey timestamp, r)
        return (keyed.mergeSort fun a b => a.1.le b.1).map (·.2)) := by
      rw [← hall]
      rfl
    have hkeyed : (all.map Entry.json).mapM (fun r => do
        let timestamp ← fieldText? r "timestamp" ""
        return (Text.collationKey timestamp, r)) =
        some (all.map fun e => (Text.collationKey e.timestamp, e.json)) := by
      rw [List.mapM_map]
      refine mapM_some fun e _ => ?_
      rw [Function.comp, fieldText?_string _ (get?_json e.get?_timestamp)]
      rfl
    have hsort : (all.mergeSort timestampLe).map (fun e =>
        (Text.collationKey e.timestamp, e.json)) =
        (all.map fun e => (Text.collationKey e.timestamp, e.json)).mergeSort
          fun a b => a.1.le b.1 :=
      List.map_mergeSort fun _ _ _ _ => rfl
    rw [hmany, hkeyed]
    refine congrArg some ?_
    rw [← hsort, List.map_map]
    rfl

theorem sortedBy_timestampLe (h : ∀ e ∈ entries, e.Dated) :
    SortedBy Entry.instant entries (entries.mergeSort timestampLe) := by
  refine sortedBy_of_le ?_ ?_ ?_
  · intro a b c hab hbc
    exact Text.CollationKey.trans hab hbc
  · intro a b
    exact Text.CollationKey.total _ _
  · intro a ha b hb
    obtain ⟨t, ht, hta⟩ := h a ha
    obtain ⟨u, hu, hub⟩ := h b hb
    rw [Entry.instant_eq hta, Entry.instant_eq hub, timestampLe, hta, hub]
    exact collation_le_iff ht hu

-- ---------------------------------------------------------------------------
-- The whole timeline
-- ---------------------------------------------------------------------------

/-- What the script says about a plan whose entries, in order, are these. -/
def timelineReport (q : String) (shown : List Entry) : String :=
  if shown = [] then "no audit records found for plan: " ++ q ++ "\n"
  else heading q shown.length ++ String.join (shown.map Entry.shownLine)

theorem printTimeline_entries (path : String) (hd : ∀ e ∈ entries, e.Dated)
    (hw : ∀ e ∈ entries, e.Worded) :
    ∃ shown, SortedBy Entry.instant (entries.filter fun e => e.planId == q) shown ∧
      printTimeline q path (String.join (entries.map Entry.line)) =
        .exited 0 (timelineReport q shown) "" := by
  simp only [printTimeline, logLines_entries, malformed_entries, recordsOf_entries, if_true]
  generalize hmine : entries.filter (fun e => e.planId == q) = mine
  have hkept : ∀ e ∈ mine, e ∈ entries := by
    intro e he
    rw [← hmine] at he
    exact (List.mem_filter.mp he).1
  have hsorted := sortedBy_timestampLe fun e he => hd e (hkept e he)
  refine ⟨mine.mergeSort timestampLe, hsorted, ?_⟩
  have hworded : ∀ e ∈ mine.mergeSort timestampLe, e.Worded := fun e he =>
    hw e (hkept e (hsorted.mem_iff.mp he))
  by_cases hnone : mine = []
  · subst hnone
    simp [timelineReport]
  · have hshown : mine.mergeSort timestampLe ≠ [] := by
      intro h
      exact hnone (List.perm_nil.mp (h ▸ hsorted.perm.symm))
    rw [if_neg (by simpa using hnone), inOrder?_json]
    dsimp only
    rw [printLines_entries hworded, timelineReport, if_neg hshown, List.length_map]

end Script

-- ---------------------------------------------------------------------------
-- The log of a run
-- ---------------------------------------------------------------------------

/-- The log holds these records of the service, and nothing else. -/
structure Audit.Log.Holds (log : Audit.Log) (entries : List Entry) : Prop where
  content : log.content = String.join (entries.map Entry.line)
  dated : ∀ e ∈ entries, e.Dated
  worded : ∀ e ∈ entries, e.Worded

namespace Service

variable {s : Service} {c : Call} {calls : List Call} {earlier : List Entry}

theorem Decides.worded (h : Decides s c entries) : ∀ e ∈ entries, e.Worded := by
  cases h with
  | nothing => simp
  | made created entry =>
    intro e he
    rw [List.mem_singleton.mp he]
    refine ⟨by simp [entry.errorCode], ?_⟩
    obtain ⟨rest, hmessage⟩ := entry.message
    rw [hmessage]
    intro h
    have := congrArg String.toList h
    simp at this
  | blank asked resolved blank failed entry =>
    intro e he
    rw [List.mem_singleton.mp he]
    refine ⟨?_, ?_⟩
    · rw [entry.errorCode]
      decide
    · rw [entry.message]
      decide

theorem History.worded (h : History s calls entries) : ∀ e ∈ entries, e.Worded :=
  h.forall_mem fun _ _ _ _ hwrites => hwrites.decides.worded

theorem History.dated (h : History s calls entries)
    (years : ∀ c ∈ calls, c.operation.creation?.isSome = true →
      ∀ now, c.around.clock = some now → Time.Instant.FourDigitYear now) :
    ∀ e ∈ entries, e.Dated := by
  refine h.forall_mem ?_
  intro s c now hc hwrites e he
  obtain ⟨now, hclock, ht⟩ := hwrites.dated e he
  exact ⟨now, years c hc (hwrites.decides.asked he) now hclock, ht⟩

theorem History.holds (h : History s calls entries) (hs : s.log.Holds earlier)
    (years : ∀ c ∈ calls, c.operation.creation?.isSome = true →
      ∀ now, c.around.clock = some now → Time.Instant.FourDigitYear now) :
    (s.run calls).1.log.Holds (earlier ++ entries) where
  content := by rw [h.content, hs.content, List.map_append, String.join_append]
  dated := List.forall_mem_append.mpr ⟨hs.dated, h.dated years⟩
  worded := List.forall_mem_append.mpr ⟨hs.worded, h.worded⟩

/-- After a run no file is there only if none was there before and no call wrote an entry. -/
theorem History.vacant_iff (h : History s calls entries) (hc : ∀ c ∈ calls, Orderly c)
    (hend : (s.run calls).1.log.Writable) :
    (s.run calls).1.log.place = .nothing ↔ s.log.place = .nothing ∧ entries = [] := by
  have hcontent := h.content
  rcases run_log hc with hkept | ⟨hthere, hfilled⟩
  · rw [hkept] at hcontent ⊢
    refine ⟨fun hplace => ⟨hplace, ?_⟩, And.left⟩
    have hempty : s.log.content = "" := by simp [Audit.Log.content, Audit.Log.text?, hplace]
    rw [hempty, String.empty_append] at hcontent
    exact join_lines_eq_empty.mp hcontent.symm
  · refine iff_of_false hthere ?_
    rintro ⟨hplace, rfl⟩
    obtain ⟨text, htext⟩ := hend.resolve_left hthere
    obtain rfl : text = "" := by
      simpa [Audit.Log.content, Audit.Log.text?, htext, hplace] using hcontent
    exact hfilled htext

end Service

namespace Script

variable {w : Workspace} {vars : Variables} {log : Audit.Log}

theorem item?_of_vacant {p : Path} (h : w.logPlace p = .nothing) : w.item? p = none := by
  unfold Workspace.logPlace at h
  split at h <;> simp_all

theorem timeline_putLog {text : String}
    (h : w.item? (w.path (auditLogPathOf vars)) = none ∨
      ∃ t, w.item? (w.path (auditLogPathOf vars)) = some (.text t))
    (htext : log.place = .file text) (hq : q ≠ "") (rest : List String) :
    timeline (w.putLog (auditLogPathOf vars) log) (q :: rest) vars =
      printTimeline q (w.path (auditLogPathOf vars)).text text := by
  simp only [timeline, List.headD_cons, if_neg hq, Workspace.path_putLog,
    Workspace.item?_putLog h htext]

/-- The script does not take a log that is not there for an empty one. -/
theorem timeline_vacant (h : w.item? (w.path (auditLogPathOf vars)) = none)
    (hplace : log.place = .nothing) (hq : q ≠ "") (rest : List String) :
    timeline (w.putLog (auditLogPathOf vars) log) (q :: rest) vars =
      .exited 1 "" ("audit log not found: " ++ (w.path (auditLogPathOf vars)).text ++ "\n") := by
  have hput : w.putLog (auditLogPathOf vars) log = w := by
    unfold Workspace.putLog
    rw [hplace, h]
  simp only [hput, timeline, List.headD_cons, if_neg hq, h]

/-- The script shows what the service wrote. Agents have ids, the clock shows instants in the years
0000 to 9999 to the calls that ask for plans, and the log is not there yet or holds what the service
wrote before. After the run it holds the entries of the run's history too. If it is there, the
script ends with 0 and finds nothing malformed. It shows each entry of the plan once, in the order
of the instants that the timestamps denote, and of equal ones in the order of the log. If it is not
there, because no entry has ever been written, the script ends with 1. -/
theorem timeline_reads_log (w : Workspace) (vars : Variables) (s : Service) (calls : List Call)
    (q : String) (rest : List String) (earlier : List Entry) (asked : q ≠ "")
    (named : ∀ agent ∈ s.registry.agents, agent.id ≠ "")
    (log : s.log = w.log (auditLogPathOf vars))
    (stands : s.log.place = .nothing ∨
      ∃ text, w.item? (w.path (auditLogPathOf vars)) = some (.text text))
    (before : s.log.Holds earlier) (orderly : ∀ c ∈ calls, Service.Orderly c)
    (years : ∀ c ∈ calls, c.operation.creation?.isSome = true →
      ∀ now, c.around.clock = some now → Time.Instant.FourDigitYear now) :
    ∃ entries shown, Service.History s calls entries ∧
      (s.run calls).1.log.Holds (earlier ++ entries) ∧
      SortedBy Entry.instant ((earlier ++ entries).filter fun e => e.planId == q) shown ∧
      timeline (w.putLog (auditLogPathOf vars) (s.run calls).1.log) (q :: rest) vars =
        if s.log.place = .nothing ∧ entries = [] then
          .exited 1 "" ("audit log not found: " ++ (w.path (auditLogPathOf vars)).text ++ "\n")
        else if shown = [] then .exited 0 ("no audit records found for plan: " ++ q ++ "\n") ""
        else .exited 0 (heading q shown.length ++ String.join (shown.map Entry.shownLine)) "" := by
  have hpath : s.log.place = w.logPlace (w.path (auditLogPathOf vars)) := by
    rw [log]
    rfl
  have hvacant : s.log.place = .nothing → w.item? (w.path (auditLogPathOf vars)) = none :=
    fun h => item?_of_vacant (hpath.symm.trans h)
  have hready : s.Ready := by
    refine ⟨named, stands.imp_right ?_⟩
    rintro ⟨text, htext⟩
    exact ⟨text, by simp only [hpath, Workspace.logPlace, htext]⟩
  obtain ⟨⟨entries, hhistory⟩, hend⟩ := hready.history orderly
  have hholds := hhistory.holds before years
  obtain ⟨shown, hsorted, hprint⟩ := printTimeline_entries
    (w.path (auditLogPathOf vars)).text (q := q) hholds.dated hholds.worded
  refine ⟨entries, shown, hhistory, hholds, hsorted, ?_⟩
  have hplace := hhistory.vacant_iff orderly hend.writable
  by_cases hnone : s.log.place = .nothing ∧ entries = []
  · rw [if_pos hnone, timeline_vacant (hvacant hnone.1) (hplace.mpr hnone) asked]
  · obtain ⟨text, hafter⟩ := hend.writable.resolve_left (mt hplace.mp hnone)
    have htext : text = String.join ((earlier ++ entries).map Entry.line) := by
      rw [← hholds.content, Audit.Log.content, Audit.Log.text?, hafter]
      rfl
    rw [if_neg hnone, timeline_putLog (stands.imp_left hvacant) hafter asked, htext, hprint,
      timelineReport]
    split <;> rfl

def desk : Workspace := ⟨"/srv", []⟩

/-- The first and the last instant of the years of four digits, the later one first. -/
def recalled : List Call := [
  ⟨.create "amazon-q-cli" "mend it", ⟨some ⟨253402300799999, by decide⟩, fun _ => none⟩, some "7"⟩,
  ⟨.create "amazon-q-cli" "", ⟨some ⟨-62167219200000, by decide⟩, fun _ => none⟩, some "7"⟩]

def astray : List Call :=
  [⟨.create "goose" "x", ⟨some ⟨-62167219200000, by decide⟩, fun _ => none⟩, some "7"⟩]

theorem named_started : ∀ agent ∈ Service.started.registry.agents, agent.id ≠ "" :=
  List.forall_mem_singleton.mpr (by decide)

/-- The log comes into being with the first of the two records. -/
theorem timeline_reads_log_recalled :
    "plan_7" ≠ "" ∧ (∀ agent ∈ Service.started.registry.agents, agent.id ≠ "") ∧
      Service.started.log = desk.log (auditLogPathOf fun _ => none) ∧
      Service.started.log.place = .nothing ∧ Service.started.log.Holds [] ∧
      (∀ c ∈ recalled, Service.Orderly c) ∧
      (∀ c ∈ recalled, c.operation.creation?.isSome = true →
        ∀ now, c.around.clock = some now → Time.Instant.FourDigitYear now) ∧
      ∃ entries shown, Service.History Service.started recalled entries ∧
        (Service.started.run recalled).1.log.Holds entries ∧
        SortedBy Entry.instant (entries.filter fun e => e.planId == "plan_7") shown ∧
        timeline (desk.putLog (auditLogPathOf fun _ => none) (Service.started.run recalled).1.log)
            ["plan_7"] (fun _ => none) =
          if shown = [] then .exited 0 ("no audit records found for plan: " ++ "plan_7" ++ "\n") ""
          else
            .exited 0 (heading "plan_7" shown.length ++ String.join (shown.map Entry.shownLine))
              "" := by
  have hlog : Service.started.log = desk.log (auditLogPathOf fun _ => none) := by rfl
  have hbefore : Service.started.log.Holds [] := ⟨rfl, by simp, by simp⟩
  have horderly : ∀ c ∈ recalled, Service.Orderly c := by
    intro c hc
    simp only [recalled, List.mem_cons, List.not_mem_nil, or_false] at hc
    rcases hc with rfl | rfl <;> exact ⟨fun _ => rfl, by simp⟩
  have hyears : ∀ c ∈ recalled, c.operation.creation?.isSome = true →
      ∀ now, c.around.clock = some now → Time.Instant.FourDigitYear now := by
    intro c hc _ now hnow
    simp only [recalled, List.mem_cons, List.not_mem_nil, or_false] at hc
    rcases hc with rfl | rfl <;> obtain rfl := Option.some.inj hnow <;> decide
  obtain ⟨entries, shown, hhistory, hholds, hsorted, hprint⟩ :=
    timeline_reads_log desk (fun _ => none) Service.started recalled "plan_7" [] [] (by decide)
      named_started hlog (.inl rfl) hbefore horderly hyears
  have hready : Service.started.Ready := ⟨named_started, .inl rfl⟩
  have hthere : (Service.started.run recalled).1.log.place ≠ .nothing := by decide +kernel
  have hwritten : entries ≠ [] := fun h => hthere <|
    (hhistory.vacant_iff horderly (hready.history horderly).2.writable).mpr ⟨rfl, h⟩
  rw [if_neg fun h => hwritten h.2] at hprint
  exact ⟨by decide, named_started, hlog, rfl, hbefore, horderly, hyears, entries, shown, hhistory,
    hholds, hsorted, hprint⟩

/-- No plan is asked for that can be made, so there is no log for the script to read. -/
theorem timeline_reads_log_missing :
    (∀ agent ∈ Service.started.registry.agents, agent.id ≠ "") ∧
      Service.started.log = desk.log (auditLogPathOf fun _ => none) ∧
      Service.started.log.Writable ∧ (∀ c ∈ astray, Service.Orderly c) ∧
      (∀ c ∈ astray, ∀ now, c.around.clock = some now → Time.Instant.FourDigitYear now) ∧
      (Service.started.run astray).2 = [.created (.error (.refused (.agentNotFound "goose")))] ∧
      timeline (desk.putLog (auditLogPathOf fun _ => none) (Service.started.run astray).1.log)
          ["plan_7"] (fun _ => none) =
        .exited 1 "" "audit log not found: /srv/audit.jsonl\n" := by
  have hresolved : (Service.started.handed (some "7")).registry.resolve "goose" = .ok none := by rfl
  have hrun : Service.started.run astray = (Service.started.handed (some "7"),
      [.created (.error (.refused (.agentNotFound "goose")))]) := by
    rw [astray, Service.run_cons, Service.step, Service.perform_create,
      (Service.Creation.unknown hresolved).eq]
    rfl
  have hmissing : desk.item? (desk.path (auditLogPathOf fun _ => none)) = none := by rfl
  refine ⟨named_started, by rfl, .inl rfl, ?_, ?_, by rw [hrun], ?_⟩
  · intro c hc
    obtain rfl := List.mem_singleton.mp hc
    exact ⟨fun _ => rfl, by simp⟩
  · intro c hc now hnow
    obtain rfl := List.mem_singleton.mp hc
    obtain rfl := Option.some.inj hnow
    decide
  · rw [hrun]
    exact timeline_vacant hmissing rfl (by decide) []

end Script

end AgentPlans
