import AgentPlans.Proofs.Number.Literal
import AgentPlans.Proofs.Time.IsoText
import AgentPlans.Time.DateText
import Mathlib.Data.List.TakeWhile

/-!
# Texts in the standard form

`StandardText` holds the texts of the standard form: a year, month and day as far
as they are given, and a time of day with its zone, if it has them. A month is
one of twelve and a day is one of 31, whether or not the month is that long.

`Instant.ofText?_text`: such a text is read as the milliseconds that it counts,
as far as instants reach. It is cut into tokens, field by field; nothing is left
for the loose reading. `Instant.ofText?_iso`: the text of an instant is one of
them, and names that instant.
-/

namespace AgentPlans.Time

open Text (digits)

variable {width n : Nat} {rest cs : List Char} {t : Instant}

-- ---------------------------------------------------------------------------
-- Tokens
-- ---------------------------------------------------------------------------

namespace DateToken

/-- No more than nine digits are counted, so a numeral of a fixed width is read whole. -/
theorem ofNumeral_digits (hw : width ≤ 9) (hn : n < 10 ^ width) :
    ofNumeral (digits width n) = .number n width := by
  have hlength : ((digits width n).dropWhile (· == '0')).length ≤ 9 := by
    have := (List.dropWhile_sublist (l := digits width n) (· == '0')).length_le
    rw [Text.length_digits] at this
    omega
  rw [ofNumeral, List.take_of_length_le hlength, Text.ofDigits_dropWhile, Text.ofDigits_digits hn,
    Text.length_digits]

theorem scan_digits (hw : 0 < width) (hw9 : width ≤ 9) (hn : n < 10 ^ width)
    (h : ∀ c ∈ rest.head?, Number.isDigit c = false) :
    scan (digits width n ++ rest) = .number n width :: scan rest := by
  obtain ⟨d, hd, tail, hc⟩ := Text.digits_eq_cons hw n
  have hdigit := Text.isDigit_digitChar d hd
  obtain ⟨htake, hdrop⟩ :=
    Number.takeWhile_isDigit (fun _ hc => Text.isDigit_of_mem_digits (n := n) hc) h
  rw [hc, List.cons_append, List.takeWhile_cons, if_pos hdigit] at htake
  rw [hc, List.cons_append, List.dropWhile_cons, if_pos hdigit] at hdrop
  rw [hc, List.cons_append, scan, if_pos hdigit, htake, hdrop, ← hc, ofNumeral_digits hw9 hn]

theorem scan_symbol {c : Char} (hd : Number.isDigit c = false) (hs : isSymbol c = true) :
    scan (c :: rest) = .symbol c :: scan rest := by
  rw [scan, if_neg (by simp [hd]), if_pos hs]

theorem scan_letter {c : Char} (hd : Number.isDigit c = false) (hs : isSymbol c = false)
    (hw : isWordChar c = true) (h : ∀ c ∈ rest.head?, isWordChar c = false) :
    scan (c :: rest) = ofWord [c] :: scan rest := by
  rw [scan, if_neg (by simp [hd]), if_neg (by simp [hs]), if_pos hw]
  cases rest with
  | nil => rfl
  | cons d rest => simp [h d rfl]

theorem isWordChar_digitChar : ∀ d < 10, isWordChar (Nat.digitChar d) = false := by
  decide

theorem isWordChar_head_digits (hw : 0 < width) :
    ∀ c ∈ (digits width n ++ rest).head?, isWordChar c = false := by
  obtain ⟨d, hd, tail, hc⟩ := Text.digits_eq_cons hw n
  rw [hc]
  rintro c ⟨⟩
  exact isWordChar_digitChar d hd

def marks : List Char := ['T', '-', '+', ':', '.']

def ofMark (c : Char) : DateToken := if c = 'T' then .word .separator 1 else .symbol c

theorem mem_marks {c : Char} : c ∈ marks ↔ c = 'T' ∨ c = '-' ∨ c = '+' ∨ c = ':' ∨ c = '.' := by
  simp [marks]

theorem isDigit_mark {c : Char} (hc : c ∈ marks) : Number.isDigit c = false := by
  rcases mem_marks.mp hc with rfl | rfl | rfl | rfl | rfl <;> rfl

theorem isPrintable_mark {c : Char} (hc : c ∈ marks) : 0 < c.toNat ∧ c.toNat < 0x80 := by
  rcases mem_marks.mp hc with rfl | rfl | rfl | rfl | rfl <;> decide

theorem scan_mark {c : Char} (hc : c ∈ marks) (h : ∀ d ∈ rest.head?, isWordChar d = false) :
    scan (c :: rest) = ofMark c :: scan rest := by
  rcases mem_marks.mp hc with rfl | rfl | rfl | rfl | rfl
  · exact scan_letter rfl rfl rfl h
  all_goals exact scan_symbol rfl rfl

end DateToken

structure DateField where
  mark : Char
  width : Nat
  value : Nat
  isMark : mark ∈ DateToken.marks
  width_pos : 0 < width
  width_le : width ≤ 9
  fits : value < 10 ^ width

namespace DateField

variable {fields : List DateField}

def chars (f : DateField) : List Char := f.mark :: digits f.width f.value

def tokens (f : DateField) : List DateToken := [.ofMark f.mark, .number f.value f.width]

def two (mark : Char) (value : Nat) (isMark : mark ∈ DateToken.marks) (fits : value < 100) :
    DateField :=
  ⟨mark, 2, value, isMark, by decide, by decide, fits⟩

theorem isDigit_head_chars (h : ∀ c ∈ rest.head?, Number.isDigit c = false) :
    ∀ c ∈ (fields.flatMap chars ++ rest).head?, Number.isDigit c = false := by
  cases fields with
  | nil => exact h
  | cons f fields =>
    rintro c ⟨⟩
    exact DateToken.isDigit_mark f.isMark

theorem scan_fields (h : ∀ c ∈ rest.head?, Number.isDigit c = false) :
    DateToken.scan (fields.flatMap chars ++ rest) =
      fields.flatMap tokens ++ DateToken.scan rest := by
  induction fields with
  | nil => rfl
  | cons f fields ih =>
    rw [List.flatMap_cons, List.append_assoc, chars, List.cons_append,
      DateToken.scan_mark f.isMark (DateToken.isWordChar_head_digits f.width_pos),
      DateToken.scan_digits f.width_pos f.width_le f.fits (isDigit_head_chars h), ih]
    rfl

theorem isPrintable_chars (fields : List DateField) :
    Instant.IsPrintable (fields.flatMap chars) := by
  intro c hc
  obtain ⟨f, -, hc⟩ := List.mem_flatMap.mp hc
  exact Instant.IsPrintable.cons (DateToken.isPrintable_mark f.isMark)
    (Instant.isPrintable_digits _ _) c hc

end DateField

-- ---------------------------------------------------------------------------
-- The texts of the standard form
-- ---------------------------------------------------------------------------

/-- A time that a clock shows, or the end of the day. -/
def IsClockTime (hour minute second milli : Nat) : Prop :=
  (hour < 24 ∧ minute < 60 ∧ second < 60 ∧ milli < 1000) ∨
    (hour = 24 ∧ minute = 0 ∧ second = 0 ∧ milli = 0)

namespace IsClockTime

variable {h m s ms : Nat}

theorem hour_lt (valid : IsClockTime h m s ms) : h < 100 := by
  unfold IsClockTime at valid
  omega

theorem minute_lt (valid : IsClockTime h m s ms) : m < 100 := by
  unfold IsClockTime at valid
  omega

theorem second_lt (valid : IsClockTime h m s ms) : s < 100 := by
  unfold IsClockTime at valid
  omega

theorem milli_lt (valid : IsClockTime h m s ms) : ms < 1000 := by
  unfold IsClockTime at valid
  omega

theorem minute_stands (valid : IsClockTime h m s ms) : h ≤ 24 ∧ m < 60 ∧ (h = 24 → m = 0) := by
  unfold IsClockTime at valid
  omega

theorem second_stands (valid : IsClockTime h m s ms) : s < 60 ∧ (h = 24 → s = 0) := by
  unfold IsClockTime at valid
  omega

theorem milli_stands (valid : IsClockTime h m s ms) : h = 24 → ms = 0 := by
  unfold IsClockTime at valid
  omega

end IsClockTime

inductive YearText where
  | four (year : Nat) (fits : year < 10000)
  | six (year : Int) (fits : year.natAbs < 1000000)

inductive DayText where
  | none
  | month (month : Nat) (inYear : 1 ≤ month ∧ month ≤ 12)
  | day (month day : Nat) (inYear : 1 ≤ month ∧ month ≤ 12) (inMonth : 1 ≤ day ∧ day ≤ 31)

inductive ClockText where
  | minute (h m : Nat) (valid : IsClockTime h m 0 0)
  | second (h m s : Nat) (valid : IsClockTime h m s 0)
  | milli (h m s ms : Nat) (valid : IsClockTime h m s ms)

inductive ZoneText where
  | none
  | universal
  | offset (west : Bool) (hours minutes : Nat) (valid : hours < 24 ∧ minutes < 60)

structure StandardText where
  year : YearText
  day : DayText
  time : Option (ClockText × ZoneText)

namespace YearText

def value : YearText → Int
  | four year _ => year
  | six year _ => year

def sign (year : Int) : Char := if year < 0 then '-' else '+'

def chars : YearText → List Char
  | four year _ => digits 4 year
  | six year _ => sign year :: digits 6 year.natAbs

def tokens : YearText → List DateToken
  | four year _ => [.number year 4]
  | six year _ => [.symbol (sign year), .number year.natAbs 6]

end YearText

namespace DayText

open DateField (two)

def fields : DayText → List DateField
  | none => []
  | month m inYear => [two '-' m (by decide) (by omega)]
  | day m d inYear inMonth => [two '-' m (by decide) (by omega), two '-' d (by decide) (by omega)]

/-- What is not given is the first. -/
def date (year : Int) : DayText → Date
  | none => ⟨year, 1, 1⟩
  | month m _ => ⟨year, m, 1⟩
  | day m d _ _ => ⟨year, m, d⟩

def numbers (year : Int) : DayText → List Int
  | none => [year]
  | month m _ => [year, m]
  | day m d _ _ => [year, m, d]

end DayText

namespace ClockText

open DateField (two)

def fields : ClockText → List DateField
  | minute h m valid =>
    [two 'T' h (by decide) valid.hour_lt, two ':' m (by decide) valid.minute_lt]
  | second h m s valid =>
    [two 'T' h (by decide) valid.hour_lt, two ':' m (by decide) valid.minute_lt,
      two ':' s (by decide) valid.second_lt]
  | milli h m s ms valid =>
    [two 'T' h (by decide) valid.hour_lt, two ':' m (by decide) valid.minute_lt,
      two ':' s (by decide) valid.second_lt,
      ⟨'.', 3, ms, by decide, by decide, by decide, valid.milli_lt⟩]

def tokens : ClockText → List DateToken
  | minute h m _ => [.number h 2, .symbol ':', .number m 2]
  | second h m s _ => [.number h 2, .symbol ':', .number m 2, .symbol ':', .number s 2]
  | milli h m s ms _ =>
    [.number h 2, .symbol ':', .number m 2, .symbol ':', .number s 2, .symbol '.', .number ms 3]

def numbers : ClockText → List Nat
  | minute h m _ => [h, m]
  | second h m s _ => [h, m, s]
  | milli h m s ms _ => [h, m, s, ms]

def millis : ClockText → Nat
  | minute h m _ => (h * 60 + m) * 60 * 1000
  | second h m s _ => ((h * 60 + m) * 60 + s) * 1000
  | milli h m s ms _ => ((h * 60 + m) * 60 + s) * 1000 + ms

end ClockText

namespace ZoneText

open DateField (two)

def sign (west : Bool) : Char := if west then '-' else '+'

theorem sign_mem_marks (west : Bool) : sign west ∈ DateToken.marks := by
  cases west <;> decide

def fields : ZoneText → List DateField
  | offset west h m valid =>
    [two (sign west) h (sign_mem_marks west) (by omega), two ':' m (by decide) (by omega)]
  | _ => []

def letter : ZoneText → List Char
  | universal => ['Z']
  | _ => []

def tokens : ZoneText → List DateToken
  | none => []
  | universal => [.word (.zone 0) 1]
  | offset west h m _ => [.symbol (sign west), .number h 2, .symbol ':', .number m 2]

def minutesEast : ZoneText → Int
  | none => localMinutes
  | universal => 0
  | offset west h m _ => (if west then -1 else 1) * (h * 60 + m : Nat)

def parts : ZoneText → ZoneParts
  | none => .empty
  | universal => .ofHours 0
  | offset west h m _ => ⟨some (if west then -1 else 1), some h, some m⟩

end ZoneText

namespace StandardText

def fields (f : StandardText) : List DateField :=
  f.day.fields ++ f.time.elim [] fun (clock, zone) => clock.fields ++ zone.fields

def letter (f : StandardText) : List Char := f.time.elim [] fun (_, zone) => zone.letter

def timeTokens (f : StandardText) : List DateToken :=
  f.time.elim [] fun (clock, zone) => .word .separator 1 :: (clock.tokens ++ zone.tokens)

def chars (f : StandardText) : List Char :=
  f.year.chars ++ (f.fields.flatMap DateField.chars ++ f.letter)

def text (f : StandardText) : String := String.ofList f.chars

/-- The date that is given, whether or not the calendar has it. -/
def date (f : StandardText) : Date := f.day.date f.year.value

/-- The milliseconds from the epoch. A day beyond the month's end runs on into the next. -/
def millis (f : StandardText) : Int :=
  (f.date.dayNumber - Instant.epochDay) * Instant.millisPerDay +
    f.time.elim 0 fun (clock, zone) => clock.millis - zone.minutesEast * 60000

def parts (f : StandardText) : DateParts where
  day := f.day.numbers f.year.value
  month := none
  time := f.time.elim [] fun (clock, _) => clock.numbers
  halfDay := none
  zone := f.time.elim (.ofHours 0) fun (_, zone) => zone.parts
  standard := true

end StandardText

-- ---------------------------------------------------------------------------
-- Reading
-- ---------------------------------------------------------------------------

theorem YearText.scan_chars (y : YearText) (h : ∀ c ∈ rest.head?, Number.isDigit c = false) :
    DateToken.scan (y.chars ++ rest) = y.tokens ++ DateToken.scan rest := by
  cases y with
  | four year fits =>
    rw [chars, DateToken.scan_digits (by decide) (by decide) fits h]
    rfl
  | six year fits =>
    have hsign : Number.isDigit (sign year) = false ∧ DateToken.isSymbol (sign year) = true := by
      unfold sign
      split <;> exact ⟨rfl, rfl⟩
    rw [chars, List.cons_append, DateToken.scan_symbol hsign.1 hsign.2,
      DateToken.scan_digits (by decide) (by decide) fits h]
    rfl

theorem YearText.isPrintable_chars (y : YearText) : Instant.IsPrintable y.chars := by
  cases y with
  | four year fits => exact Instant.isPrintable_digits _ _
  | six year fits =>
    refine .cons ?_ (Instant.isPrintable_digits _ _)
    unfold sign
    split <;> decide

theorem ZoneText.scan_letter (z : ZoneText) :
    z.fields.flatMap DateField.tokens ++ DateToken.scan z.letter = z.tokens := by
  have hend : DateToken.scan [] = [] := by rw [DateToken.scan]
  cases z with
  | none => exact hend
  | universal =>
    rw [letter, DateToken.scan_letter rfl rfl rfl (by simp), hend]
    rfl
  | offset west h m valid =>
    change _ ++ DateToken.scan [] = _
    rw [hend]
    cases west <;> rfl

theorem ClockText.tokens_fields (c : ClockText) :
    c.fields.flatMap DateField.tokens = .word .separator 1 :: c.tokens := by
  cases c <;> rfl

namespace StandardText

variable {f : StandardText}

theorem eq_of_mem_letter {c : Char} (h : c ∈ f.letter) : c = 'Z' := by
  unfold letter at h
  cases htime : f.time with
  | none => simp [htime] at h
  | some time =>
    obtain ⟨clock, zone⟩ := time
    cases zone <;> simp_all [ZoneText.letter]

theorem isPrintable_chars (f : StandardText) : Instant.IsPrintable f.chars := by
  have hletter : Instant.IsPrintable f.letter := by
    intro c hc
    rw [eq_of_mem_letter hc]
    decide
  exact f.year.isPrintable_chars.append (.append (DateField.isPrintable_chars _) hletter)

theorem tokens_fields (f : StandardText) :
    f.fields.flatMap DateField.tokens ++ DateToken.scan f.letter =
      f.day.fields.flatMap DateField.tokens ++ f.timeTokens := by
  unfold fields letter timeTokens
  rw [List.flatMap_append, List.append_assoc]
  cases f.time with
  | none =>
    rw [Option.elim_none, Option.elim_none, Option.elim_none, DateToken.scan]
    rfl
  | some time =>
    obtain ⟨clock, zone⟩ := time
    simp only [Option.elim_some]
    rw [List.flatMap_append, List.append_assoc, zone.scan_letter, clock.tokens_fields]
    rfl

theorem ofChars_chars (f : StandardText) : DateToken.ofChars f.chars =
    f.year.tokens ++ (f.day.fields.flatMap DateField.tokens ++ f.timeTokens) := by
  have hprintable : f.chars.takeWhile (·.toNat != 0) = f.chars := by
    rw [List.takeWhile_eq_self_iff]
    intro c hc
    have := (f.isPrintable_chars c hc).1
    simp only [bne_iff_ne, ne_eq]
    omega
  have hletter : ∀ c ∈ f.letter.head?, Number.isDigit c = false := by
    intro c hc
    rw [eq_of_mem_letter (List.mem_of_mem_head? hc)]
    rfl
  rw [DateToken.ofChars, hprintable, chars,
    YearText.scan_chars _ (DateField.isDigit_head_chars hletter), DateField.scan_fields hletter,
    tokens_fields]

end StandardText

theorem readStandard_year (y : YearText) (rest : List DateToken) :
    readStandard (y.tokens ++ rest) = afterStandardYear y.value rest := by
  cases y with
  | four year fits => rfl
  | six year fits =>
    rw [YearText.tokens, YearText.value, YearText.sign, List.cons_append, List.singleton_append]
    split
    · next hneg =>
      have hyear : -((year.natAbs : Nat) : Int) = year := by omega
      rw [readStandard, if_neg (by omega), hyear]
    · next hneg =>
      have hyear : ((year.natAbs : Nat) : Int) = year := by omega
      rw [readStandard, hyear]

theorem isMonth_of_bounds {m : Nat} (h : 1 ≤ m ∧ m ≤ 12) : DateParts.isMonth m = true := by
  simp only [DateParts.isMonth, Bool.and_eq_true, decide_eq_true_eq]
  omega

theorem isDay_of_bounds {d : Nat} (h : 1 ≤ d ∧ d ≤ 31) : DateParts.isDay d = true := by
  simp only [DateParts.isDay, Bool.and_eq_true, decide_eq_true_eq]
  omega

theorem afterStandardYear_day (year : Int) (d : DayText) {rest : List DateToken}
    (h : rest = [] ∨ ∃ tail, rest = .word .separator 1 :: tail) :
    afterStandardYear year (d.fields.flatMap DateField.tokens ++ rest) =
      afterStandardDate { DateParts.empty with day := d.numbers year } rest := by
  cases d with
  | none => rcases h with rfl | ⟨tail, rfl⟩ <;> rfl
  | month m inYear =>
    have hmonth := isMonth_of_bounds inYear
    rcases h with rfl | ⟨tail, rfl⟩ <;> exact if_pos hmonth
  | day m d inYear inMonth =>
    have hmonth := isMonth_of_bounds inYear
    have hday := isDay_of_bounds inMonth
    exact (if_pos hmonth).trans (if_pos hday)

theorem standardZone?_zone (p : DateParts) (z : ZoneText) (h : p.zone = .empty) :
    standardZone? p z.tokens = some { p with zone := z.parts } := by
  cases z with
  | none => exact congrArg some (by cases p; simp_all [ZoneText.parts])
  | universal => rfl
  | offset west h m valid =>
    cases west with
    | true => exact if_pos ⟨.inr rfl, valid⟩
    | false => exact if_pos ⟨.inl rfl, valid⟩

theorem millisOf_three (ms : Nat) : millisOf ms 3 = ms := by simp [millisOf]

theorem standardTime?_clock (p : DateParts) (c : ClockText) (z : ZoneText) (h : p.zone = .empty) :
    standardTime? p (c.tokens ++ z.tokens) =
      some { p with time := c.numbers, zone := z.parts } := by
  rw [← standardZone?_zone { p with time := c.numbers } z h]
  cases c with
  | minute h m valid =>
    -- Nothing that a zone begins with could be taken for seconds.
    cases z with
    | offset west h' m' valid' => cases west <;> exact if_pos valid.minute_stands
    | _ => exact if_pos valid.minute_stands
  | second h m s valid =>
    cases z with
    | offset west h' m' valid' =>
      cases west <;> exact (if_pos valid.minute_stands).trans (if_pos valid.second_stands)
    | _ => exact (if_pos valid.minute_stands).trans (if_pos valid.second_stands)
  | milli h m s ms valid =>
    trans standardZone? { p with time := [h, m, s, millisOf ms 3] } z.tokens
    · exact (if_pos valid.minute_stands).trans
        ((if_pos valid.second_stands).trans (if_pos valid.milli_stands))
    · rw [millisOf_three]
      rfl

namespace StandardText

theorem readStandard_chars (f : StandardText) :
    readStandard (DateToken.ofChars f.chars) = .complete f.parts := by
  rw [f.ofChars_chars, readStandard_year]
  unfold timeTokens parts
  cases f.time with
  | none =>
    rw [Option.elim_none, afterStandardYear_day _ _ (.inl rfl)]
    rfl
  | some time =>
    obtain ⟨clock, zone⟩ := time
    rw [Option.elim_some, afterStandardYear_day _ _ (.inr ⟨_, rfl⟩), afterStandardDate,
      standardTime?_clock _ clock zone rfl]
    rfl

-- ---------------------------------------------------------------------------
-- The instant that is named
-- ---------------------------------------------------------------------------

theorem date?_parts (f : StandardText) : f.parts.date? = some f.date := by
  have hone : DateParts.isMonth 1 = true ∧ DateParts.isDay 1 = true := ⟨rfl, rfl⟩
  obtain ⟨year, day, time⟩ := f
  cases day with
  | none => simp [parts, DateParts.date?, DayText.numbers, date, DayText.date, hone]
  | month m inYear =>
    simp [parts, DateParts.date?, DayText.numbers, date, DayText.date, hone,
      isMonth_of_bounds inYear]
  | day m d inYear inMonth =>
    simp [parts, DateParts.date?, DayText.numbers, date, DayText.date, isMonth_of_bounds inYear,
      isDay_of_bounds inMonth]

theorem timeOfDay?_parts (f : StandardText) :
    f.parts.timeOfDay? = some (f.time.elim 0 fun (clock, _) => clock.millis) := by
  obtain ⟨year, day, time⟩ := f
  cases time with
  | none => simp [parts, DateParts.timeOfDay?]
  | some time =>
    obtain ⟨clock, zone⟩ := time
    cases clock with
    | minute h m valid =>
      have hshown : h < 24 ∧ m < 60 ∨ h = 24 ∧ m = 0 := by
        unfold IsClockTime at valid
        omega
      simp [parts, DateParts.timeOfDay?, ClockText.numbers, ClockText.millis, hshown]
    | second h m s valid =>
      have hshown : h < 24 ∧ m < 60 ∧ s < 60 ∨ h = 24 ∧ m = 0 ∧ s = 0 := by
        unfold IsClockTime at valid
        omega
      simp [parts, DateParts.timeOfDay?, ClockText.numbers, ClockText.millis, hshown]
    | milli h m s ms valid =>
      unfold IsClockTime at valid
      simp [parts, DateParts.timeOfDay?, ClockText.numbers, ClockText.millis, valid]

theorem seconds?_zone (z : ZoneText) : z.parts.seconds? = some (z.minutesEast * 60) := by
  cases z with
  | none => rfl
  | universal => decide
  | offset west h m valid =>
    have hsmall : (h * 3600 + m * 60) % 4294967296 = h * 3600 + m * 60 := by omega
    have hfree : h * 3600 + m * 60 < 2147483648 := by omega
    cases west <;>
      simp [ZoneText.parts, ZoneParts.seconds?, ZoneText.minutesEast, hsmall, hfree] <;> omega

theorem instant?_parts (f : StandardText) : f.parts.instant? = Instant.ofMillis? f.millis := by
  rw [DateParts.instant?, f.date?_parts, f.timeOfDay?_parts]
  unfold millis parts
  cases f.time with
  | none =>
    have hzone : (ZoneParts.ofHours 0).seconds? = some 0 := seconds?_zone .universal
    simp [hzone]
  | some time =>
    obtain ⟨clock, zone⟩ := time
    have hmillis : (f.date.dayNumber - Instant.epochDay) * Instant.millisPerDay + clock.millis -
        zone.minutesEast * 60 * 1000 =
          (f.date.dayNumber - Instant.epochDay) * Instant.millisPerDay +
            (clock.millis - zone.minutesEast * 60000) := by omega
    simp [seconds?_zone, hmillis]

end StandardText

theorem Instant.ofMillis?_eq_some {millis : Int} :
    ofMillis? millis = some t ↔ t.millis = millis := by
  unfold ofMillis?
  split
  · next h =>
    constructor
    · intro hsome
      exact (congrArg Instant.millis (Option.some.inj hsome)).symm
    · rintro rfl
      rfl
  · next h =>
    constructor
    · intro hnone
      cases hnone
    · rintro rfl
      exact absurd t.inRange h

/-- A text gives one date only. -/
theorem StandardText.date_unique {f g : StandardText} (h : f.text = g.text) : f.date = g.date := by
  have hchars : f.chars = g.chars := by
    rw [text, text] at h
    exact String.ofList_inj.mp h
  have hread := f.readStandard_chars
  rw [hchars, g.readStandard_chars] at hread
  have hdate := g.date?_parts
  rw [Standard.complete.inj hread, f.date?_parts] at hdate
  exact Option.some.inj hdate

/-- A text of the standard form names the milliseconds that it counts, as far as instants reach. -/
theorem Instant.ofText?_text (f : StandardText) : ofText? f.text = ofMillis? f.millis := by
  rw [ofText?, StandardText.text, String.toList_ofList, readDate?, f.readStandard_chars]
  exact f.instant?_parts

-- ---------------------------------------------------------------------------
-- The texts of instants
-- ---------------------------------------------------------------------------

namespace Instant

theorem isClockTime_timeOfDay (t : Instant) : IsClockTime (t.timeOfDay / 3600000)
    (t.timeOfDay / 60000 % 60) (t.timeOfDay / 1000 % 60) (t.timeOfDay % 1000) := by
  have htime := t.timeOfDay_lt
  unfold IsClockTime
  omega

def yearText (t : Instant) : YearText :=
  if h : 0 ≤ t.date.year ∧ t.date.year ≤ 9999 then .four t.date.year.toNat (by omega)
  else .six t.date.year t.natAbs_year_lt

def standardText (t : Instant) : StandardText where
  year := t.yearText
  day := .day t.date.month t.date.day ⟨t.date_valid.month_pos, t.date_valid.month_le⟩
    ⟨t.date_valid.day_pos, t.date_valid.day_le_31⟩
  time := some (.milli _ _ _ _ t.isClockTime_timeOfDay, .universal)

theorem value_yearText (t : Instant) : t.yearText.value = t.date.year := by
  unfold yearText
  split
  · exact Int.toNat_of_nonneg (by omega)
  · rfl

theorem chars_yearText (t : Instant) : t.yearText.chars = yearChars t.date.year := by
  unfold yearText yearChars
  split
  · next h => exact (Text.padded_eq_digits (by decide) (by omega)).symm
  · exact congrArg _ (Text.padded_eq_digits (by decide) t.natAbs_year_lt).symm

theorem text_standardText (t : Instant) : t.standardText.text = t.iso := by
  have hyear := t.chars_yearText
  rw [StandardText.text, iso, isoChars_eq, StandardText.chars, standardText, hyear]
  simp [StandardText.fields, StandardText.letter, DayText.fields, ClockText.fields, ZoneText.fields,
    ZoneText.letter, DateField.two, DateField.chars, monthDayChars, timeChars]

theorem millis_standardText (t : Instant) : t.standardText.millis = t.millis := by
  have hdate : t.standardText.date = t.date := by
    rw [StandardText.date, standardText, value_yearText]
    rfl
  have hclock : ((t.timeOfDay / 3600000 * 60 + t.timeOfDay / 60000 % 60) * 60 +
      t.timeOfDay / 1000 % 60) * 1000 + t.timeOfDay % 1000 = t.timeOfDay := by omega
  rw [StandardText.millis, hdate, t.millis_eq]
  simp only [standardText, Option.elim_some, ClockText.millis, ZoneText.minutesEast, hclock]
  omega

/-- The text of an instant names the instant. -/
theorem ofText?_iso (t : Instant) : ofText? t.iso = some t := by
  rw [← t.text_standardText, ofText?_text, t.millis_standardText, ofMillis?, dif_pos t.inRange]

theorem iso_injective : Function.Injective iso := by
  intro t u h
  have hread := ofText?_iso t
  rw [h, ofText?_iso] at hread
  exact (Option.some.inj hread).symm

end Instant

end AgentPlans.Time
