import AgentPlans.Script.Timeline

/-!
# Lines that a timeline passes over

A log may hold anything: lines that are damaged, blank, or about other plans.
`timeline_unmoved`: what is shown of a plan depends on the lines that concern it
and on no other line. The lines that are not data, or null, are counted, and the
count is all that is said of them.

Lines are taken without the white space around them. As they stand in the log it
would not hold: white space that data does not allow may surround a record of the
plan (`timeline_unmoved_padded`).
-/

namespace AgentPlans.Script

def bareLines (text : String) : List String :=
  (Text.split '\n' text.toList).map fun cs => Text.trim (String.ofList cs)

/-- The line is data, an object whose plan is this one. -/
def Concerns (q line : String) : Prop :=
  ∃ members, Json.parse line = some (.object members) ∧
    Members.get? members "planId" = some (.string q)

/-- The line is not blank, and it is null or no data at all. -/
def Damaged (line : String) : Prop :=
  line ≠ "" ∧ (Json.parse line = none ∨ Json.parse line = some .null)

variable {q line : String} {lines : List String} {records : List Json}

-- ---------------------------------------------------------------------------
-- Single lines
-- ---------------------------------------------------------------------------

theorem concerns_iff {v : Json} : concerns q v = true ↔
    ∃ members, v = .object members ∧ Members.get? members "planId" = some (.string q) := by
  cases v with
  | object members =>
    simp only [concerns, Json.get?, Json.object.injEq, exists_eq_left']
    cases hid : Members.get? members "planId" with
    | none => simp
    | some id => cases id <;> simp
  | _ => simp [concerns, Json.get?]

theorem concerns_parse_iff :
    (Json.parse line).any (concerns q) = true ↔ Concerns q line := by
  cases hv : Json.parse line with
  | none => simp [Concerns, hv]
  | some v => simp [Concerns, hv, concerns_iff]

instance (q line : String) : Decidable (Concerns q line) :=
  decidable_of_iff _ concerns_parse_iff

theorem record?_isNone_iff :
    (record? line).isNone = true ↔ Json.parse line = none ∨ Json.parse line = some .null := by
  rw [record?]
  cases hv : Json.parse line with
  | none => simp
  | some v => cases v <;> simp [Json.isNull, Option.filter]

instance (line : String) : Decidable (Damaged line) :=
  haveI : Decidable (Json.parse line = none ∨ Json.parse line = some .null) :=
    decidable_of_iff _ record?_isNone_iff
  inferInstanceAs (Decidable (_ ∧ _))

theorem not_concerns_empty : ¬ Concerns q "" := by
  rintro ⟨members, hparse, -⟩
  have hnone : Json.parse "" = none := by decide +kernel
  rw [hnone] at hparse
  cases hparse

-- ---------------------------------------------------------------------------
-- The lines of a text
-- ---------------------------------------------------------------------------

theorem logLines_eq (text : String) : logLines text = (bareLines text).filter (· ≠ "") := by
  have htrim : (fun cs => Text.trim (String.ofList cs)) =
      fun cs => String.ofList (Text.trimChars cs) := by
    funext cs
    rw [Text.trim, String.toList_ofList]
  rw [logLines, bareLines, htrim]
  refine List.filter_congr fun line _ => ?_
  simp [bne, Bool.beq_eq_decide_eq]

theorem recordsOf_eq (q : String) (lines : List String) :
    recordsOf q (lines.filter (· ≠ "")) = (lines.filter (Concerns q ·)).filterMap Json.parse := by
  induction lines with
  | nil => rfl
  | cons line lines ih =>
    by_cases hblank : line = ""
    · subst hblank
      rw [List.filter_cons_of_neg (by simp),
        List.filter_cons_of_neg (by simpa using not_concerns_empty), ih]
    rw [List.filter_cons_of_pos (by simpa using hblank)]
    simp only [recordsOf] at ih ⊢
    by_cases hconcerns : Concerns q line
    · obtain ⟨members, hparse, hid⟩ := hconcerns
      have hrecord : record? line = some (.object members) := by
        simp [record?, hparse, Json.isNull, Option.filter]
      have hown : concerns q (.object members) = true := concerns_iff.mpr ⟨members, rfl, hid⟩
      rw [List.filterMap_cons_some hrecord, List.filter_cons_of_pos hown, ih,
        List.filter_cons_of_pos (by simpa using ⟨members, hparse, hid⟩),
        List.filterMap_cons_some hparse]
    · rw [List.filter_cons_of_neg (by simpa using hconcerns)]
      cases hrecord : record? line with
      | none => rw [List.filterMap_cons_none hrecord, ih]
      | some v =>
        have hother : ¬ concerns q v = true := by
          intro hown
          have hparse := Option.eq_some_of_filter_eq_some hrecord
          exact hconcerns (concerns_parse_iff.mp (by simpa [hparse] using hown))
        rw [List.filterMap_cons_some hrecord, List.filter_cons_of_neg hother, ih]

theorem malformed_eq (lines : List String) :
    malformed (lines.filter (· ≠ "")) = (lines.filter (Damaged ·)).length := by
  rw [malformed, List.filter_filter]
  congr 1
  refine List.filter_congr fun line _ => ?_
  rw [Bool.eq_iff_iff, Bool.and_eq_true, record?_isNone_iff, decide_eq_true_iff,
    decide_eq_true_iff, Damaged, and_comm]

-- ---------------------------------------------------------------------------
-- What is shown, and what is said on the side
-- ---------------------------------------------------------------------------

def timelineOf (q : String) (records : List Json) : Outcome :=
  if records.isEmpty then .exited 0 ("no audit records found for plan: " ++ q ++ "\n") ""
  else
    match inOrder? records with
    | none => .crashed .noPhrase "" ""
    | some records => printLines (heading q records.length) "" records

def complaint (path : String) (count : Nat) : String :=
  if count = 0 then ""
  else "skipped " ++ Text.decimal count ++ " malformed line(s) in " ++ path ++ "\n"

theorem printLines_stderr (written stderr : String) (records : List Json) :
    printLines written stderr records =
      { printLines written "" records with stderr := stderr } := by
  induction records generalizing written with
  | nil => rfl
  | cons r records ih =>
    rw [printLines, printLines]
    cases recordLine? r with
    | none => rfl
    | some line => exact ih (written ++ line)

theorem printTimeline_eq (q path text : String) :
    printTimeline q path text =
      { timelineOf q (((bareLines text).filter (Concerns q ·)).filterMap Json.parse) with
        stderr := complaint path ((bareLines text).filter (Damaged ·)).length } := by
  simp only [printTimeline, logLines_eq, recordsOf_eq, malformed_eq, timelineOf, complaint]
  generalize ((bareLines text).filter (Concerns q ·)).filterMap Json.parse = records
  cases hempty : records.isEmpty with
  | true => rfl
  | false =>
    cases inOrder? records with
    | none => rfl
    | some ordered => exact printLines_stderr _ _ _

theorem timeline_text {w : Workspace} {vars : Variables} {text : String} (hq : q ≠ "")
    (h : w.item? (w.path (auditLogPathOf vars)) = some (.text text)) (rest : List String) :
    timeline w (q :: rest) vars = printTimeline q (w.path (auditLogPathOf vars)).text text := by
  simp only [timeline, List.headD_cons, if_neg hq, h]

/-- Two logs with the same lines about a plan, whatever else they hold and wherever they stand: the
same is shown of the plan, and the script ends in the same way. On the side it is said how many
lines of the log are damaged, if any are. -/
theorem timeline_unmoved (w w' : Workspace) (vars vars' : Variables) (q : String)
    (rest rest' : List String) (text text' : String) (asked : q ≠ "")
    (log : w.item? (w.path (auditLogPathOf vars)) = some (.text text))
    (log' : w'.item? (w'.path (auditLogPathOf vars')) = some (.text text'))
    (same : (bareLines text).filter (Concerns q ·) = (bareLines text').filter (Concerns q ·)) :
    (timeline w (q :: rest) vars).stdout = (timeline w' (q :: rest') vars').stdout ∧
      (timeline w (q :: rest) vars).ending = (timeline w' (q :: rest') vars').ending ∧
      (timeline w (q :: rest) vars).status = (timeline w' (q :: rest') vars').status ∧
      (timeline w (q :: rest) vars).stderr =
        if ∀ line ∈ bareLines text, ¬ Damaged line then ""
        else "skipped " ++ Text.decimal ((bareLines text).filter (Damaged ·)).length ++
          " malformed line(s) in " ++ (w.path (auditLogPathOf vars)).text ++ "\n" := by
  rw [timeline_text asked log, timeline_text asked log', printTimeline_eq, printTimeline_eq, same]
  refine ⟨rfl, rfl, by simp only [Outcome.status], ?_⟩
  have hnone : ((bareLines text).filter (Damaged ·)).length = 0 ↔
      ∀ line ∈ bareLines text, ¬ Damaged line := by
    simp
  simp only [complaint, hnone]

def deskWith (text : String) : Workspace := ⟨"/srv", [(⟨"", ["srv", "audit.jsonl"]⟩, .text text)]⟩

def own : String := "\x7b\"planId\":\"p\"\x7d\r\n"

/-- The record among lines that are damaged, blank, null, no object, without a plan, and of another
plan. -/
def littered : String :=
  "\x7b\"planId\":\n \u00a0\r\n" ++ own ++
    "null\n[\"p\"]\n\x7b\x7d\n\x7b\"planId\":\"q\"\x7d"

theorem timeline_unmoved_littered :
    "p" ≠ "" ∧
      (deskWith littered).item? ((deskWith littered).path (auditLogPathOf fun _ => none)) =
        some (.text littered) ∧
      (deskWith own).item? ((deskWith own).path (auditLogPathOf fun _ => none)) =
        some (.text own) ∧
      (bareLines littered).filter (Concerns "p" ·) = (bareLines own).filter (Concerns "p" ·) ∧
      (timeline (deskWith littered) ["p"] fun _ => none).stdout =
        (timeline (deskWith own) ["p"] fun _ => none).stdout ∧
      (timeline (deskWith littered) ["p"] fun _ => none).stderr =
        "skipped 2 malformed line(s) in /srv/audit.jsonl\n" := by
  have hlog : (deskWith littered).item? ((deskWith littered).path (auditLogPathOf fun _ => none)) =
      some (.text littered) := by rfl
  have hlog' : (deskWith own).item? ((deskWith own).path (auditLogPathOf fun _ => none)) =
      some (.text own) := by rfl
  have hsame : (bareLines littered).filter (Concerns "p" ·) =
      (bareLines own).filter (Concerns "p" ·) := by decide +kernel
  have hcount : ((bareLines littered).filter (Damaged ·)).length = 2 := by decide +kernel
  have hdamaged : ¬ ∀ line ∈ bareLines littered, ¬ Damaged line := by
    intro hnone
    rw [List.filter_eq_nil_iff.mpr (by simpa using hnone)] at hcount
    cases hcount
  obtain ⟨hstdout, -, -, hstderr⟩ := timeline_unmoved (deskWith littered) (deskWith own)
    (fun _ => none) (fun _ => none) "p" [] [] littered own (by decide) hlog hlog' hsame
  rw [if_neg hdamaged, hcount] at hstderr
  exact ⟨by decide, hlog, hlog', hsame, hstdout, hstderr⟩

/-- A record of the plan behind a no-break space. As it stands the line is no data, and yet it is
shown, and nothing is said of it. -/
def padded : String := "\u00a0\x7b\"planId\":\"p\"\x7d"

theorem timeline_unmoved_padded :
    (Text.split '\n' padded.toList).map String.ofList = [padded] ∧ Json.parse padded = none ∧
      Text.isBlankText padded = false ∧
      (timeline (deskWith "") ["p"] fun _ => none).stdout =
        "no audit records found for plan: p\n" ∧
      (timeline (deskWith padded) ["p"] fun _ => none).stdout =
        "Plan p audit timeline (1 event)\n- unknown-time | UNKNOWN | agent=?\n" ∧
      (timeline (deskWith padded) ["p"] fun _ => none).stderr = "" := by
  decide +kernel

end AgentPlans.Script
