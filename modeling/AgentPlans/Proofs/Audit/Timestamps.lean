import AgentPlans.Proofs.Audit.Decoding
import AgentPlans.Proofs.Time.DateText

/-!
# The timestamps that the log takes

The log asks of a timestamp that its text denotes an instant, and no more.
`Log.call_timestamp`: a record without such a timestamp is refused for it, and
leaves the log as it was; with it the record is taken, if the rest is there. A
text of the standard form denotes the milliseconds that it counts.

So what is taken need not be a date that the calendar has. The last of February
may be its 31st day, the text may be one that is read loosely, and the timestamp
may be a number (`Log.call_timestamp_unreal`).
-/

namespace AgentPlans.Audit

open Time (Instant StandardText DateToken)

variable {r : Record} {log : Log} {now : Instant} {name : String}

namespace Record

/-- The timestamp is given, and its text denotes the instant. -/
def Denotes (r : Record) (now : Instant) : Prop :=
  ∃ v text, r.get? "timestamp" = some v ∧ v.truthy = true ∧ v.phraseText? = some text ∧
    Instant.ofText? text = some now

/-- The timestamp is given and has no text. -/
def Textless (r : Record) : Prop :=
  ∃ v, r.get? "timestamp" = some v ∧ v.truthy = true ∧ v.phraseText? = none

structure Attributed (r : Record) : Prop where
  planId : r.has "planId" = true
  agentId : r.has "agentId" = true
  event : isEvent (r.get? "eventType") = true

theorem has_withVersion (h : name ≠ "auditVersion") : r.withVersion.has name = r.has name := by
  rw [has, has, get?_withVersion h]

theorem checkTimestamp_withVersion : r.withVersion.checkTimestamp = r.checkTimestamp := by
  have hget : r.withVersion.get? "timestamp" = r.get? "timestamp" := get?_withVersion (by decide)
  rw [checkTimestamp, checkTimestamp, has, has, phrase, phrase, hget]

theorem Denotes.checkTimestamp (h : r.Denotes now) : r.checkTimestamp = .ok () := by
  obtain ⟨v, text, hv, htruthy, htext, hnow⟩ := h
  simp [Record.checkTimestamp, has, phrase, hv, htruthy, htext, hnow, bind, Except.bind]

theorem Textless.checkTimestamp (h : r.Textless) : r.checkTimestamp = .error .noPhrase := by
  obtain ⟨v, hv, htruthy, hnone⟩ := h
  simp [Record.checkTimestamp, has, phrase, hv, htruthy, hnone, bind, Except.bind]

theorem checkTimestamp_bad (htext : ¬ r.Textless) (hnow : ∀ now, ¬ r.Denotes now) :
    r.checkTimestamp = .error .badTimestamp := by
  unfold checkTimestamp has phrase
  unfold Textless at htext
  unfold Denotes at hnow
  cases hv : r.get? "timestamp" with
  | none => rfl
  | some v =>
    cases htruthy : v.truthy with
    | false => simp [htruthy]
    | true =>
      cases hphrase : v.phraseText? with
      | none => exact absurd ⟨v, hv, htruthy, hphrase⟩ htext
      | some text =>
        cases hread : Instant.ofText? text with
        | none => simp [htruthy, hphrase, hread, bind, Except.bind]
        | some now => exact absurd ⟨v, text, hv, htruthy, hphrase, hread⟩ (hnow now)

theorem denotes_standard {f : StandardText} (h : r.get? "timestamp" = some (.string f.text)) :
    r.Denotes now ↔ now.millis = f.millis := by
  rw [← Instant.ofMillis?_eq_some, ← Instant.ofText?_text]
  constructor
  · rintro ⟨v, text, hv, -, htext, hnow⟩
    obtain rfl := Option.some.inj (h.symm.trans hv)
    obtain rfl : f.text = text := Option.some.inj ((Json.phraseText?_string _).symm.trans htext)
    exact hnow
  · intro hnow
    have hne : f.text ≠ "" := by
      intro hempty
      rw [hempty, ofText?_empty] at hnow
      cases hnow
    exact ⟨_, f.text, h, by simpa [Json.truthy] using hne,
      Json.phraseText?_string f.text, hnow⟩

theorem check_of_timestamp_error {e : RecordError} (h : r.checkTimestamp = .error e) :
    r.withVersion.check = .error e := by
  rw [check, checkTimestamp_withVersion, h]
  rfl

theorem check_of_denotes (h : r.Denotes now) : r.withVersion.check = .ok () ↔ r.Attributed := by
  have hplan : r.withVersion.has "planId" = r.has "planId" := has_withVersion (by decide)
  have hagent : r.withVersion.has "agentId" = r.has "agentId" := has_withVersion (by decide)
  have hevent : r.withVersion.get? "eventType" = r.get? "eventType" := get?_withVersion (by decide)
  have hcheck : r.withVersion.check = .ok () ↔
      r.has "planId" = true ∧ r.has "agentId" = true ∧ r.withVersion.checkEvent = .ok () := by
    rw [check, checkTimestamp_withVersion, h.checkTimestamp, hplan, hagent]
    cases r.has "planId" <;> cases r.has "agentId" <;> simp [bind, Except.bind]
  rw [hcheck, checkEvent_iff, hevent]
  constructor
  · rintro ⟨hplan, hagent, hevent⟩
    exact ⟨hplan, hagent, hevent⟩
  · rintro ⟨hplan, hagent, hevent⟩
    exact ⟨hplan, hagent, hevent⟩

theorem check_ok_iff :
    r.withVersion.check = .ok () ↔ (∃ now, r.Denotes now) ∧ r.Attributed := by
  constructor
  · intro hcheck
    by_cases hnow : ∃ now, r.Denotes now
    · exact ⟨hnow, (check_of_denotes hnow.choose_spec).mp hcheck⟩
    by_cases htext : r.Textless
    · cases (check_of_timestamp_error htext.checkTimestamp).symm.trans hcheck
    · have hbad := checkTimestamp_bad htext (not_exists.mp hnow)
      cases (check_of_timestamp_error hbad).symm.trans hcheck
  · rintro ⟨⟨now, hnow⟩, hattributed⟩
    exact (check_of_denotes hnow).mpr hattributed

end Record

theorem Log.Writable.call_ok_iff (h : log.Writable) :
    (log.call r).2 = .ok () ↔ r.withVersion.check = .ok () := by
  cases hcheck : r.withVersion.check with
  | error e => simp [Log.call_of_check_error hcheck]
  | ok =>
    obtain ⟨after, hwrite, -⟩ := h.write r.withVersion.line
    simp only [Log.call, Log.append, hcheck, hwrite]

/-- What the log says to a record, by its timestamp. Without a text, or with a text that denotes no
instant, the record is refused and the log stays as it was; else the rest of the record decides. A
text of the standard form denotes the milliseconds that it counts, if instants reach as far. -/
theorem Log.call_timestamp (log : Log) (r : Record) :
    (r.Textless → log.call r = (log, .error (.record .noPhrase))) ∧
      (¬ r.Textless → (∀ now, ¬ r.Denotes now) →
        log.call r = (log, .error (.record .badTimestamp))) ∧
      (log.Writable → ((log.call r).2 = .ok () ↔ (∃ now, r.Denotes now) ∧ r.Attributed)) ∧
      ∀ f : StandardText, r.get? "timestamp" = some (.string f.text) →
        ∀ now, r.Denotes now ↔ now.millis = f.millis := by
  have hrefused : ∀ e, r.checkTimestamp = .error e → log.call r = (log, .error (.record e)) :=
    fun e h => call_of_check_error (Record.check_of_timestamp_error h)
  refine ⟨?_, ?_, ?_, ?_⟩
  · exact fun htextless => hrefused _ htextless.checkTimestamp
  · exact fun htext hnow => hrefused _ (Record.checkTimestamp_bad htext hnow)
  · exact fun hwritable => hwritable.call_ok_iff.trans Record.check_ok_iff
  · exact fun f h now => Record.denotes_standard h

def dated (v : Json) : Record :=
  [("timestamp", v), ("planId", .string "p"), ("agentId", .string "a"),
    ("eventType", .string "PLAN_CREATED")]

theorem attributed_dated (v : Json) : (dated v).Attributed := ⟨rfl, rfl, rfl⟩

/-- The first moment of the 31st of February. -/
def overflowing : StandardText where
  year := .four 2026 (by decide)
  day := .day 2 31 (by decide) (by decide)
  time := some (.milli 0 0 0 0 (.inl (by decide)), .universal)

/-- The 31st of February is taken for the third of March. -/
theorem Log.call_timestamp_overflowing :
    fresh.Writable ∧ (dated (.string overflowing.text)).Attributed ∧
      overflowing.text = "2026-02-31T00:00:00.000Z" ∧
      (dated (.string overflowing.text)).Denotes ⟨1772496000000, by decide⟩ ∧
      (⟨1772496000000, by decide⟩ : Instant).iso = "2026-03-03T00:00:00.000Z" ∧
      (fresh.call (dated (.string overflowing.text))).2 = .ok () := by
  obtain ⟨-, -, htaken, hstandard⟩ := Log.call_timestamp fresh (dated (.string overflowing.text))
  have hdenotes := (hstandard overflowing rfl ⟨1772496000000, by decide⟩).mpr (by decide +kernel)
  exact ⟨.inl rfl, attributed_dated _, by decide +kernel, hdenotes, by decide +kernel,
    (htaken (.inl rfl)).mpr ⟨⟨_, hdenotes⟩, attributed_dated _⟩⟩

/-- What is taken need not be a text of the standard form with a date that the calendar has. -/
theorem Log.call_timestamp_unreal :
    ((fresh.call (dated (.string "2026-02-31T00:00:00.000Z"))).2 = .ok () ∧
        ∀ f : StandardText, f.text = "2026-02-31T00:00:00.000Z" → ¬ f.date.Valid) ∧
      ((fresh.call (dated (.string "Jan 1, 2026"))).2 = .ok () ∧
        ∀ f : StandardText, f.text ≠ "Jan 1, 2026") ∧
      (fresh.call (dated (.number 2026))).2 = .ok () := by
  have hwritable : fresh.Writable := .inl rfl
  refine ⟨⟨?_, ?_⟩, ⟨?_, ?_⟩, ?_⟩
  · exact hwritable.call_ok_iff.mpr (by decide +kernel)
  -- A text gives one date only, and February is not that long.
  · intro f hf hvalid
    have hsame : f.text = overflowing.text := hf.trans (by decide +kernel)
    have hle := hvalid.day_le
    rw [StandardText.date_unique hsame] at hle
    revert hle
    decide +kernel
  · exact hwritable.call_ok_iff.mpr (by decide +kernel)
  · intro f hf
    have hchars : f.chars = "Jan 1, 2026".toList := by
      rw [← hf, StandardText.text, String.toList_ofList]
    have htokens : DateToken.ofChars "Jan 1, 2026".toList =
        [.word (.month 1) 3, .space, .number 1 1, .other, .space, .number 2026 4] := by
      decide +kernel
    have hread := f.readStandard_chars
    rw [hchars, htokens] at hread
    cases hread
  · exact hwritable.call_ok_iff.mpr (by decide +kernel)

end AgentPlans.Audit
