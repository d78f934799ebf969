import AgentPlans.Proofs.Audit.Line
import AgentPlans.Proofs.Results
import AgentPlans.Proofs.Text.Lines

/-!
# The log decodes to the records it took

Any object can be given to the log as a record. The log takes it if it is
`Acceptable`, and writes it with its version filled in (`Completes`); else it
stays as it is. `decodes`: after any calls on a new file that can be written, the
lines of the file read back as the records of the calls that returned, in the
order of the calls.
-/

namespace AgentPlans

/-- Not null, false, zero or the empty text. -/
def Json.Given (v : Json) : Prop :=
  v ≠ .null ∧ v ≠ .bool false ∧ v ≠ .number 0 ∧ v ≠ .string ""

/-- Of what the format keeps, this is what counts as given. -/
theorem Json.Faithful.truthy_iff {v : Json} (h : v.Faithful) : v.truthy = true ↔ v.Given := by
  cases h with
  | null => simp [truthy, Given]
  | bool b => cases b <;> simp [truthy, Given]
  | whole h => simp [truthy, Given, Number.ofInt]
  | string s => simp [truthy, Given]
  | array h => simp [truthy, Given]
  | object h h' => simp [truthy, Given]

namespace Audit

variable {r m : Record} {log : Log} {records : List Record} {field : String}

-- ---------------------------------------------------------------------------
-- Records that are taken
-- ---------------------------------------------------------------------------

/-- The record names a plan and an agent, its event is one of the two, and its timestamp has a text
that denotes an instant. -/
structure Record.Acceptable (r : Record) : Prop where
  timestamp : ∃ v text now, r.get? "timestamp" = some v ∧ v.Given ∧ v.phraseText? = some text ∧
    text ≠ "" ∧ Time.Instant.ofText? text = some now
  planId : ∃ v, r.get? "planId" = some v ∧ v.Given
  agentId : ∃ v, r.get? "agentId" = some v ∧ v.Given
  eventType : ∃ event : Event, r.get? "eventType" = some (.string event.name)

theorem Record.faithful_of_get? (h : Json.Faithful (.object r)) {v : Json}
    (hv : r.get? field = some v) : v.Faithful := by
  obtain ⟨m, hm, rfl⟩ := Option.map_eq_some_iff.mp hv
  cases h with
  | object _ hmembers => exact hmembers m (List.mem_of_find?_eq_some hm)

theorem Record.has_iff (h : Json.Faithful (.object r)) :
    r.has field = true ↔ ∃ v, r.get? field = some v ∧ v.Given := by
  unfold has
  cases hv : r.get? field with
  | none => simp
  | some v => simp [(faithful_of_get? h hv).truthy_iff]

theorem ofText?_empty : Time.Instant.ofText? "" = none := by decide +kernel

theorem Record.checkTimestamp_iff (h : Json.Faithful (.object r)) :
    r.checkTimestamp = .ok () ↔
      ∃ v text now, r.get? "timestamp" = some v ∧ v.Given ∧ v.phraseText? = some text ∧
        text ≠ "" ∧ Time.Instant.ofText? text = some now := by
  unfold checkTimestamp
  split
  · next hhas =>
    obtain ⟨v, hv, hgiven⟩ := (has_iff h).mp hhas
    simp only [phrase, hv]
    cases htext : v.phraseText? with
    | none => simp [bind, Except.bind, hgiven, htext]
    | some text =>
      cases hnow : Time.Instant.ofText? text with
      | none => simp [bind, Except.bind, htext, hnow]
      | some now =>
        have hne : text ≠ "" := by
          rintro rfl
          rw [ofText?_empty] at hnow
          cases hnow
        simp [bind, Except.bind, htext, hnow, hgiven, hne]
  · next hhas =>
    simp only [reduceCtorEq, false_iff]
    rintro ⟨v, -, -, hv, hgiven, -⟩
    exact hhas ((has_iff h).mpr ⟨v, hv, hgiven⟩)

theorem Record.isEvent_iff {o : Option Json} :
    isEvent o = true ↔ ∃ event : Event, o = some (.string event.name) := by
  constructor
  · intro h
    unfold isEvent at h
    split at h
    · simp only [Bool.or_eq_true, beq_iff_eq] at h
      rcases h with rfl | rfl
      · exact ⟨.planCreated, rfl⟩
      · exact ⟨.planRejected, rfl⟩
    · cases h
  · rintro ⟨event, rfl⟩
    cases event <;> rfl

theorem Record.checkEvent_iff : r.checkEvent = .ok () ↔ isEvent (r.get? "eventType") = true := by
  unfold checkEvent
  split
  · next h => simp [h]
  · next h =>
    simp only [h]
    cases r.phrase "eventType" <;> simp [bind, Except.bind]

/-- The check lets through what is acceptable, and nothing else. -/
theorem Record.check_iff (h : Json.Faithful (.object r)) : r.check = .ok () ↔ r.Acceptable := by
  have hcheck : r.check = .ok () ↔ r.checkTimestamp = .ok () ∧ r.has "planId" = true ∧
      r.has "agentId" = true ∧ r.checkEvent = .ok () := by
    unfold check
    cases r.checkTimestamp <;> cases r.has "planId" <;> cases r.has "agentId" <;>
      simp [bind, Except.bind]
  rw [hcheck, checkTimestamp_iff h, has_iff h, has_iff h, checkEvent_iff, isEvent_iff]
  exact ⟨fun ⟨ht, hp, ha, he⟩ => ⟨ht, hp, ha, he⟩, fun ⟨ht, hp, ha, he⟩ => ⟨ht, hp, ha, he⟩⟩

-- ---------------------------------------------------------------------------
-- Records as they are written
-- ---------------------------------------------------------------------------

/-- `m` is `r` with its version filled in. -/
structure Record.Completes (m r : Record) : Prop where
  distinct : (m.map Prod.fst).Nodup
  fields : ∀ name, name ≠ "auditVersion" → m.get? name = r.get? name
  filled : r.get? "auditVersion" = none ∨ r.get? "auditVersion" = some .null →
    m.get? "auditVersion" = some (.string "1.0")
  kept : ∀ v, v ≠ .null → r.get? "auditVersion" = some v → m.get? "auditVersion" = some v

theorem Record.withVersion_unversioned
    (h : r.get? "auditVersion" = none ∨ r.get? "auditVersion" = some .null) :
    r.withVersion = r.insert "auditVersion" (.string version) := by
  rcases h with h | h <;> simp only [withVersion, h]

theorem Record.withVersion_versioned {v : Json} (hv : v ≠ .null)
    (h : r.get? "auditVersion" = some v) : r.withVersion = r := by
  simp only [withVersion, h]

theorem Record.versioned_cases (r : Record) :
    (r.get? "auditVersion" = none ∨ r.get? "auditVersion" = some .null) ∨
      ∃ v, v ≠ .null ∧ r.get? "auditVersion" = some v := by
  cases h : r.get? "auditVersion" with
  | none => exact .inl (.inl rfl)
  | some v => cases v <;> simp

theorem Record.get?_withVersion {name : String} (h : name ≠ "auditVersion") :
    r.withVersion.get? name = r.get? name := by
  rcases r.versioned_cases with hv | ⟨v, hne, hv⟩
  · rw [withVersion_unversioned hv, Members.get?_insert, if_neg (Ne.symm h)]
  · rw [withVersion_versioned hne hv]

theorem Record.withVersion_completes (h : Members.Settled r) : r.withVersion.Completes r := by
  rcases r.versioned_cases with hv | ⟨v, hne, hv⟩
  · have hinsert := withVersion_unversioned hv
    refine ⟨?_, fun _ hname => get?_withVersion hname, ?_, ?_⟩
    · rw [hinsert]
      exact (h.ordered.insert _ _).nodup
    · intro _
      rw [hinsert, Members.get?_insert, if_pos rfl]
      rfl
    · intro v hne hsome
      rcases hv with hv | hv <;> simp_all
  · refine ⟨?_, fun _ hname => get?_withVersion hname, ?_, ?_⟩
    · rw [withVersion_versioned hne hv]
      exact h.ordered.nodup
    · rintro (hnone | hnull) <;> simp_all
    · rw [withVersion_versioned hne hv]
      exact fun _ _ h => h

theorem Record.faithful_withVersion (h : Json.Faithful (.object r)) :
    Json.Faithful (.object r.withVersion) := by
  rcases r.versioned_cases with hv | ⟨v, hne, hv⟩
  · rw [withVersion_unversioned hv]
    cases h with
    | object hsettled hmembers =>
      refine .object (hsettled.insert _ _) fun m hm => ?_
      rcases Members.mem_insert hm with hm | rfl
      · exact hmembers m hm
      · exact .string _
  · rwa [withVersion_versioned hne hv]

theorem Record.settled_of_faithful (h : Json.Faithful (.object r)) : Members.Settled r := by
  cases h with
  | object hsettled _ => exact hsettled

theorem Record.Completes.acceptable_iff (h : m.Completes r) : m.Acceptable ↔ r.Acceptable := by
  have htimestamp := h.fields "timestamp" (by decide)
  have hplan := h.fields "planId" (by decide)
  have hagent := h.fields "agentId" (by decide)
  have hevent := h.fields "eventType" (by decide)
  constructor
  · rintro ⟨ht, hp, ha, he⟩
    exact ⟨htimestamp ▸ ht, hplan ▸ hp, hagent ▸ ha, hevent ▸ he⟩
  · rintro ⟨ht, hp, ha, he⟩
    exact ⟨htimestamp ▸ ht, hplan ▸ hp, hagent ▸ ha, hevent ▸ he⟩

theorem Record.check_withVersion_iff (h : Json.Faithful (.object r)) :
    r.withVersion.check = .ok () ↔ r.Acceptable :=
  (check_iff (faithful_withVersion h)).trans
    (withVersion_completes (settled_of_faithful h)).acceptable_iff

-- ---------------------------------------------------------------------------
-- Calls
-- ---------------------------------------------------------------------------

def Log.call (log : Log) (r : Record) : Log × Except LogError Unit :=
  match log.append r with
  | .ok after => (after, .ok ())
  | .error e => (log, .error e)

def Log.calls (log : Log) : List Record → Log × List (Except LogError Unit)
  | [] => (log, [])
  | r :: records =>
    let (log, result) := log.call r
    let (log, results) := log.calls records
    (log, result :: results)

/-- The records of the calls that returned. -/
def returned (records : List Record) (results : List (Except LogError Unit)) : List Record :=
  ((records.zip results).filter (·.2.isOk)).map Prod.fst

def Record.chars (r : Record) : List Char := (Json.object r.withVersion).chars

theorem Log.calls_cons (log : Log) (r : Record) (records : List Record) :
    log.calls (r :: records) = (((log.call r).1.calls records).1,
      (log.call r).2 :: ((log.call r).1.calls records).2) := rfl

theorem Log.calls_append (log : Log) (before after : List Record) :
    log.calls (before ++ after) = (((log.calls before).1.calls after).1,
      (log.calls before).2 ++ ((log.calls before).1.calls after).2) := by
  induction before generalizing log with
  | nil => rfl
  | cons r before ih => rw [List.cons_append, calls_cons, calls_cons, ih, List.cons_append]

theorem Log.length_calls (log : Log) (records : List Record) :
    (log.calls records).2.length = records.length := by
  induction records generalizing log with
  | nil => rfl
  | cons r records ih => rw [calls_cons, List.length_cons, List.length_cons, ih]

theorem Log.call_error {e : LogError} (h : (log.call r).2 = .error e) : (log.call r).1 = log := by
  unfold call at h ⊢
  split at h <;> simp_all

theorem Log.call_of_check_error {e : RecordError} (h : r.withVersion.check = .error e) :
    log.call r = (log, .error (.record e)) := by
  simp only [call, append, h]

/-- A call returns if the record is acceptable, and adds its line; else it leaves the log. -/
theorem Log.Writable.call (h : log.Writable) (hr : Json.Faithful (.object r)) :
    (r.Acceptable ∧ (log.call r).2 = .ok () ∧ (log.call r).1.Writable ∧
        (log.call r).1.content.toList = log.content.toList ++ (r.chars ++ ['\n'])) ∨
      (¬ r.Acceptable ∧ (∃ reason, (log.call r).2 = .error (.record reason)) ∧
        (log.call r).1 = log) := by
  by_cases hacceptable : r.Acceptable
  · obtain ⟨after, hwrite, hwritable, hcontent⟩ := h.write r.withVersion.line
    have hcall : log.call r = (after, .ok ()) := by
      simp only [Log.call, Log.append, (Record.check_withVersion_iff hr).mpr hacceptable, hwrite]
    refine .inl ⟨hacceptable, ?_, ?_, ?_⟩ <;> rw [hcall]
    · exact hwritable
    · rw [hcontent, String.toList_append, Record.line, String.toList_ofList, Record.chars]
  · cases hcheck : r.withVersion.check with
    | ok => exact absurd ((Record.check_withVersion_iff hr).mp hcheck) hacceptable
    | error reason =>
      rw [call_of_check_error hcheck]
      exact .inr ⟨hacceptable, ⟨reason, rfl⟩, rfl⟩

/-- After any calls, the log has grown by the lines of the calls that returned. -/
theorem Log.Writable.calls (h : log.Writable) (hr : ∀ r ∈ records, Json.Faithful (.object r)) :
    List.Forall₂ (fun r result => result = .ok () ↔ r.Acceptable) records (log.calls records).2 ∧
      (∀ r ∈ returned records (log.calls records).2, r ∈ records ∧ r.Acceptable) ∧
      (log.calls records).1.content.toList = log.content.toList ++
        (returned records (log.calls records).2).flatMap fun r => r.chars ++ ['\n'] := by
  induction records generalizing log with
  | nil => simp [Log.calls, returned]
  | cons r records ih =>
    have hrest : ∀ r ∈ records, Json.Faithful (.object r) :=
      fun r' hr' => hr r' (List.mem_cons_of_mem r hr')
    rw [calls_cons]
    rcases h.call (hr r List.mem_cons_self) with
      ⟨hacceptable, hresult, hwritable, hcontent⟩ | ⟨hrefused, ⟨reason, hresult⟩, hkept⟩
    · obtain ⟨hresults, hmem, hlines⟩ := ih hwritable hrest
      have hreturned : returned (r :: records) (.ok () :: ((log.call r).1.calls records).2) =
          r :: returned records ((log.call r).1.calls records).2 := rfl
      rw [hresult, hreturned]
      refine ⟨.cons (by simp [hacceptable]) hresults, ?_, ?_⟩
      · intro r' hr'
        rcases List.mem_cons.mp hr' with rfl | hr'
        · exact ⟨List.mem_cons_self, hacceptable⟩
        · exact ⟨List.mem_cons_of_mem _ (hmem r' hr').1, (hmem r' hr').2⟩
      · rw [hlines, hcontent, List.flatMap_cons, List.append_assoc]
    · rw [hkept, hresult]
      obtain ⟨hresults, hmem, hlines⟩ := ih h hrest
      have hreturned : returned (r :: records) (.error (.record reason) :: (log.calls records).2) =
          returned records (log.calls records).2 := rfl
      rw [hreturned]
      refine ⟨.cons (by simp [hrefused]) hresults, ?_, hlines⟩
      intro r' hr'
      exact ⟨List.mem_cons_of_mem _ (hmem r' hr').1, (hmem r' hr').2⟩

-- ---------------------------------------------------------------------------
-- Lines
-- ---------------------------------------------------------------------------

theorem Record.parse_chars (h : Json.Faithful (.object r)) :
    ∃ m : Record, Json.parse (String.ofList r.chars) = some (.object m) ∧ m.Completes r :=
  ⟨r.withVersion, Json.parse_render (faithful_withVersion h),
    withVersion_completes (settled_of_faithful h)⟩

theorem Log.split_content {taken : List Record} (new : log.content.toList =
    taken.flatMap fun r => r.chars ++ ['\n']) :
    Text.split '\n' log.content.toList = taken.map Record.chars ++ [[]] := by
  have hlines : ∀ line ∈ taken.map Record.chars, '\n' ∉ line := by
    simp only [List.mem_map]
    rintro line ⟨r, -, rfl⟩
    exact Json.newline_notMem_chars _
  rw [new, ← Text.split_lines hlines, List.flatMap_map]

/-- After calls of the log on a new file that can be written, with any objects that the format keeps:
a call that did not return left the text as it was, the calls that returned are those whose records
are acceptable, and the text has a line for each of them, in their order, with nothing behind the
last line feed. A line reads back as the record with its version filled in. -/
theorem Log.decodes (log : Log) (records : List Record) (writable : log.Writable)
    (new : log.content = "") (faithful : ∀ r ∈ records, Json.Faithful (.object r)) :
    (∀ before r after e, records = before ++ r :: after →
      (log.calls records).2[before.length]? = some (.error e) →
        (log.calls (before ++ [r])).1.content = (log.calls before).1.content) ∧
      List.Forall₂ (fun r result => result = .ok () ↔ r.Acceptable) records
        (log.calls records).2 ∧
      ∃ lines, Text.split '\n' (log.calls records).1.content.toList = lines ++ [[]] ∧
        List.Forall₂ (fun r line => ∃ m : Record,
            Json.parse (String.ofList line) = some (.object m) ∧ m.Completes r ∧ m.Acceptable)
          (returned records (log.calls records).2) lines := by
  obtain ⟨hresults, hreturned, hcontent⟩ := writable.calls faithful
  rw [new, String.toList_empty, List.nil_append] at hcontent
  refine ⟨?_, hresults, _, split_content hcontent, ?_⟩
  · rintro before r after e rfl herror
    rw [calls_append, ← length_calls log before, List.getElem?_append_right le_rfl, Nat.sub_self,
      calls_cons] at herror
    rw [calls_append, calls_cons]
    exact congrArg content (call_error (Option.some.inj herror))
  · rw [List.forall₂_map_right_iff, List.forall₂_same]
    intro r hr
    obtain ⟨hmem, hacceptable⟩ := hreturned r hr
    obtain ⟨m, hparse, hcompletes⟩ := Record.parse_chars (faithful r hmem)
    exact ⟨m, hparse, hcompletes, hcompletes.acceptable_iff.mpr hacceptable⟩

def fresh : Log := ⟨"/var/audit.jsonl", .nothing⟩

/-- The second record lacks everything, and the others have fields that no record of the service
has. -/
def submitted : List Record := [
  [("timestamp", .string "2026-01-01"), ("planId", .string "p"), ("agentId", .number 7),
    ("eventType", .string "PLAN_CREATED"),
    ("note", .array [.null, .object [("text", .string "two\nlines")]])],
  [],
  [("auditVersion", .null), ("eventType", .string "PLAN_REJECTED"), ("agentId", .array []),
    ("planId", .bool true), ("timestamp", .number 2026)]]

theorem faithful_submitted : ∀ r ∈ submitted, Json.Faithful (.object r) := by
  have hinner : Json.Faithful (.object [("text", .string "two\nlines")]) :=
    .object (Members.settled_of_nodup (by decide) (by decide)) (by simp [Json.Faithful.string])
  have hnote : Json.Faithful (.array [.null, .object [("text", .string "two\nlines")]]) :=
    .array (by simp [Json.Faithful.null, hinner])
  have hnone : Json.Faithful (.array []) := .array (by simp)
  have hseven : Json.Faithful (.number 7) := .whole (n := 7) (by decide)
  have hyear : Json.Faithful (.number 2026) := .whole (n := 2026) (by decide)
  simp only [submitted, List.forall_mem_cons]
  refine ⟨.object ?_ ?_, .object ?_ ?_, .object ?_ ?_, by simp⟩
  · exact Members.settled_of_nodup (by decide) (by decide)
  · simp [Json.Faithful.string, hseven, hnote]
  · rfl
  · simp
  · exact Members.settled_of_nodup (by decide) (by decide)
  · simp [Json.Faithful.null, Json.Faithful.string, Json.Faithful.bool, hnone, hyear]

theorem Log.decodes_submitted :
    fresh.Writable ∧ fresh.content = "" ∧ (∀ r ∈ submitted, Json.Faithful (.object r)) ∧
      (fresh.calls submitted).2.map (·.isOk) = [true, false, true] ∧
      (fresh.calls (submitted.take 2)).1.content = (fresh.calls (submitted.take 1)).1.content ∧
      List.Forall₂ (fun r result => result = .ok () ↔ r.Acceptable) submitted
        (fresh.calls submitted).2 ∧
      ∃ lines, Text.split '\n' (fresh.calls submitted).1.content.toList = lines ++ [[]] ∧
        List.Forall₂ (fun r line => ∃ m : Record,
            Json.parse (String.ofList line) = some (.object m) ∧ m.Completes r ∧ m.Acceptable)
          (returned submitted (fresh.calls submitted).2) lines := by
  have hends : (fresh.calls submitted).2.map (·.isOk) = [true, false, true] := by decide +kernel
  obtain ⟨hkept, hresults, hlines⟩ :=
    decodes fresh submitted (.inl rfl) rfl faithful_submitted
  obtain ⟨e, herror⟩ : ∃ e, (fresh.calls submitted).2[1]? = some (.error e) := by
    have hsecond := congrArg (·[1]?) hends
    simp only [List.getElem?_map] at hsecond
    obtain ⟨result, hresult, hfailed⟩ := Option.map_eq_some_iff.mp hsecond
    cases result with
    | ok => cases hfailed
    | error e => exact ⟨e, hresult⟩
  exact ⟨.inl rfl, rfl, faithful_submitted, hends, hkept (submitted.take 1) _ _ e rfl herror,
    hresults, hlines⟩

end Audit

end AgentPlans
