import AgentPlans.Number.Literal
import AgentPlans.Time.Instant

/-!
# Reading dates

A text is first read in the standard form, `YYYY-MM-DDThh:mm:ss.sss` with optional parts and zone or
a signed six-digit year. What is left where that form breaks off is read loosely: numbers separated
by almost anything are month, day and year (or year, month and day), words may name months and
zones, a number before a colon begins a time of day, and text in parentheses is a comment. A day of
1 to 31 is taken in every month and runs on into the next. A time of day without a zone is local
time, of which it is assumed that it is universal (`localMinutes`).
-/

namespace AgentPlans.Time

inductive DateWord where
  | month (number : Nat)
  /-- Hours to add to a time on a twelve-hour clock. -/
  | halfDay (hours : Nat)
  /-- A zone, in hours east of universal time. -/
  | zone (hours : Int)
  | separator
  | unknown
  deriving DecidableEq

inductive DateToken where
  | number (value length : Nat)
  | word (meaning : DateWord) (length : Nat)
  | symbol (c : Char)
  | space
  | other
  deriving DecidableEq

namespace DateToken

def words : List (String × DateWord) := [
  ("jan", .month 1), ("feb", .month 2), ("mar", .month 3), ("apr", .month 4), ("may", .month 5),
  ("jun", .month 6), ("jul", .month 7), ("aug", .month 8), ("sep", .month 9), ("oct", .month 10),
  ("nov", .month 11), ("dec", .month 12), ("am", .halfDay 0), ("pm", .halfDay 12), ("ut", .zone 0),
  ("utc", .zone 0), ("z", .zone 0), ("gmt", .zone 0), ("cdt", .zone (-5)), ("cst", .zone (-6)),
  ("edt", .zone (-4)), ("est", .zone (-5)), ("mdt", .zone (-6)), ("mst", .zone (-7)),
  ("pdt", .zone (-7)), ("pst", .zone (-8)), ("t", .separator)]

def DateWord.isMonth : DateWord → Bool
  | .month _ => true
  | _ => false

/-- Only the name of a month may be longer than three letters. -/
def ofWord (letters : List Char) : DateToken :=
  let key := (letters.take 3).map Char.toLower
  match words.find? fun w =>
    w.1.toList == key && (letters.length ≤ 3 || DateWord.isMonth w.2) with
  | some w => .word w.2 letters.length
  | none => .word .unknown letters.length

/-- Counts no more than nine digits after leading zeros. -/
def ofNumeral (digits : List Char) : DateToken :=
  .number (Number.ofDigits ((digits.dropWhile (· == '0')).take 9)) digits.length

/-- The line and paragraph separators are blank, and yet they are taken into a word. -/
def isWordChar (c : Char) : Bool := 'A' ≤ c && (Text.isLineEnd c || !Text.isBlank c)

def isSymbol (c : Char) : Bool := [':', '-', '+', '.', ')'].contains c

def dropComment : Nat → List Char → List Char
  | _, [] => []
  | depth, c :: rest =>
    if c = '(' then dropComment (depth + 1) rest
    else if c = ')' then (if depth ≤ 1 then rest else dropComment (depth - 1) rest)
    else dropComment depth rest

theorem length_dropComment_le (depth : Nat) (cs : List Char) :
    (dropComment depth cs).length ≤ cs.length := by
  induction cs generalizing depth with
  | nil => simp [dropComment]
  | cons c rest ih =>
    have h1 := ih (depth + 1)
    have h2 := ih (depth - 1)
    have h3 := ih depth
    simp only [dropComment, List.length_cons]
    split
    · omega
    · split
      · split <;> omega
      · omega

def scan : List Char → List DateToken
  | [] => []
  | c :: rest =>
    if Number.isDigit c then
      ofNumeral (c :: rest.takeWhile Number.isDigit) :: scan (rest.dropWhile Number.isDigit)
    else if isSymbol c then .symbol c :: scan rest
    else if isWordChar c then
      ofWord (c :: rest.takeWhile isWordChar) :: scan (rest.dropWhile isWordChar)
    else if Text.isBlank c then .space :: scan rest
    else if c = '(' then .other :: scan (dropComment 1 rest)
    else .other :: scan rest
termination_by cs => cs.length
decreasing_by
  all_goals simp only [List.length_cons]
  all_goals first
    | exact Nat.lt_succ_of_le (List.dropWhile_sublist _).length_le
    | exact Nat.lt_succ_of_le (length_dropComment_le _ _)
    | exact Nat.lt_succ_self _

/-- A text ends at its first NUL. -/
def ofChars (cs : List Char) : List DateToken :=
  scan (cs.takeWhile (·.toNat != 0))

end DateToken

/-- How far local time is ahead of universal time, in minutes, all the year round. -/
def localMinutes : Int := 0

structure ZoneParts where
  sign : Option Int
  hour : Option Nat
  minute : Option Nat

namespace ZoneParts

def empty : ZoneParts := ⟨none, none, none⟩

def ofHours (hours : Int) : ZoneParts :=
  ⟨some (if hours < 0 then -1 else 1), some hours.natAbs, some 0⟩

def isUniversal (z : ZoneParts) : Bool := z.hour == some 0 && z.minute == some 0

/-- After an hour that a colon follows, a number below sixty is the zone's minute. -/
def expects (z : ZoneParts) (n : Nat) : Bool :=
  z.hour.isSome && z.minute.isNone && n < 60

/-- Seconds east of universal time. They are counted in words of 32 bits, and the highest bit has to
be free for the sign. -/
def seconds? (z : ZoneParts) : Option Int :=
  match z.sign with
  | none => some (localMinutes * 60)
  | some sign =>
    let distance := (z.hour.getD 0 * 3600 + z.minute.getD 0 * 60) % 4294967296
    if distance < 2147483648 then some (sign * distance) else none

end ZoneParts

structure DateParts where
  /-- Up to three numbers of the date, in the order read. -/
  day : List Int
  month : Option Nat
  time : List Nat
  halfDay : Option Nat
  zone : ZoneParts
  standard : Bool

namespace DateParts

def empty : DateParts := ⟨[], none, [], none, .empty, false⟩

def addDay? (p : DateParts) (n : Int) : Option DateParts :=
  if p.day.length < 3 then some { p with day := p.day ++ [n] } else none

def addTime? (p : DateParts) (n : Nat) : Option DateParts :=
  if p.time.length < 4 then some { p with time := p.time ++ [n] } else none

def finishTime (p : DateParts) (n : Nat) : DateParts :=
  { p with time := (p.time ++ [n, 0, 0, 0]).take 4 }

def expectsTime (p : DateParts) (n : Nat) : Bool :=
  match p.time.length with
  | 1 | 2 => n < 60
  | 3 => n < 1000
  | _ => false

def isDay (n : Int) : Bool := 1 ≤ n && n ≤ 31

def isMonth (n : Int) : Bool := 1 ≤ n && n ≤ 12

/-- Year, month and day in the numbers read: named month first, standard order, or by size. -/
def date? (p : DateParts) : Option Date := do
  let (first, second, third) ← match p.day with
    | [] => none
    | [a] => some (a, 1, 1)
    | [a, b] => some (a, b, 1)
    | a :: b :: c :: _ => some (a, b, c)
  let (year, month, day) := match p.month with
    | some m =>
      if isDay first then (second, (m : Int), first) else (first, (m : Int), second)
    | none =>
      if p.standard || !isDay first then (first, second, third) else (third, first, second)
  let year :=
    if p.standard then year
    else if 0 ≤ year ∧ year ≤ 49 then year + 2000
    else if 50 ≤ year ∧ year ≤ 99 then year + 1900
    else year
  if isMonth month && isDay day then some ⟨year, month.toNat, day.toNat⟩ else none

/-- Milliseconds since midnight. Hour 24 is allowed when nothing follows it. -/
def timeOfDay? (p : DateParts) : Option Nat := do
  let (h, m, s, ms) := match p.time with
    | [] => (0, 0, 0, 0)
    | [a] => (a, 0, 0, 0)
    | [a, b] => (a, b, 0, 0)
    | [a, b, c] => (a, b, c, 0)
    | a :: b :: c :: d :: _ => (a, b, c, d)
  let h ← match p.halfDay with
    | none => some h
    | some hours => if h ≤ 12 then some (h % 12 + hours) else none
  if (h < 24 ∧ m < 60 ∧ s < 60 ∧ ms < 1000) ∨ (h = 24 ∧ m = 0 ∧ s = 0 ∧ ms = 0) then
    some (((h * 60 + m) * 60 + s) * 1000 + ms)
  else none

def instant? (p : DateParts) : Option Instant := do
  let date ← p.date?
  let time ← p.timeOfDay?
  let zone ← p.zone.seconds?
  Instant.ofMillis? <|
    (date.dayNumber - Instant.epochDay) * Instant.millisPerDay + time - zone * 1000

end DateParts

def millisOf (value length : Nat) : Nat :=
  if length = 1 then value * 100
  else if length = 2 then value * 10
  else value / Nat.pow 10 (Nat.min length 9 - 3)

def skipSymbol (c : Char) : List DateToken → List DateToken
  | .symbol d :: rest => if c = d then rest else .symbol d :: rest
  | rest => rest

def mayFollowTime : List DateToken → Bool
  | [] => true
  | .space :: _ => true
  | .word (.zone _) 1 :: _ => true
  | .symbol c :: _ => c == '+' || c == '-'
  | _ => false

/-- A stage of reading: the parts so far, whether a number has been read, and what is left. -/
abbrev Stage := DateParts × Bool × List DateToken

def takeNumber (p : DateParts) (n : Nat) (rest : List DateToken) : Option Stage :=
  match rest with
  | .symbol ':' :: .symbol ':' :: rest =>
    if p.time = [] then some ({ p with time := [n, 0] }, true, rest) else none
  | .symbol ':' :: rest => do
    let p ← p.addTime? n
    return (p, true, skipSymbol '.' rest)
  | _ =>
    let skipped := skipSymbol '.' rest
    if skipped.length < rest.length && p.expectsTime n then
      match p.addTime? n, skipped with
      | some p, .number f length :: rest => some (p.finishTime (millisOf f length), true, rest)
      | _, _ => none
    else if p.zone.expects n then
      some ({ p with zone := { p.zone with minute := some n } }, true, skipped)
    else if p.expectsTime n then
      if mayFollowTime skipped then some (p.finishTime n, true, skipped) else none
    else do
      let p ← p.addDay? n
      return (p, true, skipSymbol '-' skipped)

/-- A word means nothing out of place. Such a word is ignored before the first number, which it may
not touch, and refused after it. -/
def takeWord (p : DateParts) (seenNumber : Bool) (meaning : DateWord) (rest : List DateToken) :
    Option Stage :=
  match meaning, p.time, seenNumber, rest with
  | .halfDay hours, _ :: _, _, _ => some ({ p with halfDay := some hours }, seenNumber, rest)
  | .month m, _, _, _ => some ({ p with month := some m }, seenNumber, skipSymbol '-' rest)
  | .zone hours, _, true, _ => some ({ p with zone := .ofHours hours }, true, rest)
  | _, _, true, _ => none
  | _, _, false, .number _ _ :: _ => none
  | _, _, false, _ => some (p, false, rest)

def takeZone (p : DateParts) (sign : Int) (rest : List DateToken) : Option Stage :=
  let (n, length, rest) : Nat × Nat × List DateToken := match rest with
    | .number n length :: rest => (n, length, rest)
    | _ => (0, 0, rest)
  let zone? : Option ZoneParts := match rest with
    | .symbol ':' :: _ => some ⟨some sign, some n, none⟩
    | _ =>
      if length = 1 ∨ length = 2 then some ⟨some sign, some n, some 0⟩
      else if length = 3 ∨ length = 4 then some ⟨some sign, some (n / 100), some (n % 100)⟩
      else none
  zone?.map fun zone => ({ p with zone := zone }, true, rest)

/-- A sign begins a zone after a time or after universal time; elsewhere it is refused once a number
has been read, as is a closing parenthesis. -/
def takeSymbol (p : DateParts) (seenNumber : Bool) (c : Char) (rest : List DateToken) :
    Option Stage :=
  if (c = '+' ∨ c = '-') ∧ (p.zone.isUniversal ∨ p.time ≠ []) then
    takeZone p (if c = '-' then -1 else 1) rest
  else if (c = '+' ∨ c = '-' ∨ c = ')') ∧ seenNumber then none
  else some (p, seenNumber, rest)

/-- Reads loosely. Every stage takes a token, so the number of tokens is fuel enough. -/
def readLoosely : Nat → Stage → Option DateParts
  | _, (p, _, []) => some p
  | 0, _ => none
  | fuel + 1, (p, seenNumber, token :: rest) => do
    let stage ← match token with
      | .number n _ => takeNumber p n rest
      | .word meaning _ => takeWord p seenNumber meaning rest
      | .symbol c => takeSymbol p seenNumber c rest
      | .space | .other => some (p, seenNumber, rest)
    readLoosely fuel stage

inductive Standard where
  | refused
  | complete (parts : DateParts)
  /-- The form breaks off: the rest is for the loose reading. -/
  | breaksOff (parts : DateParts) (rest : List DateToken)

def standardZone? (p : DateParts) : List DateToken → Option DateParts
  | [] => some p
  | [.word (.zone _) 1] => some { p with zone := .ofHours 0 }
  | [.symbol c, .number n 4] => signed c (n / 100) (n % 100)
  | [.symbol c, .number h 2, .symbol ':', .number m 2] => signed c h m
  | _ => none
where
  signed (c : Char) (h m : Nat) : Option DateParts :=
    if (c = '+' ∨ c = '-') ∧ h < 24 ∧ m < 60 then
      some { p with zone := ⟨some (if c = '-' then -1 else 1), some h, some m⟩ }
    else none

/-- The time of day after its separator. Hour 24 has nothing but zeros after it. -/
def standardTime? (p : DateParts) : List DateToken → Option DateParts
  | .number h 2 :: .symbol ':' :: .number m 2 :: rest =>
    if h ≤ 24 ∧ m < 60 ∧ (h = 24 → m = 0) then
      match rest with
      | .symbol ':' :: .number s 2 :: rest =>
        if s < 60 ∧ (h = 24 → s = 0) then
          match rest with
          | .symbol '.' :: .number f length :: rest =>
            if h = 24 → f = 0 then
              standardZone? { p with time := [h, m, s, millisOf f length] } rest
            else none
          | _ => standardZone? { p with time := [h, m, s] } rest
        else none
      | _ => standardZone? { p with time := [h, m] } rest
    else none
  | _ => none

def afterStandardDate (p : DateParts) : List DateToken → Standard
  | [] => .complete { p with zone := .ofHours 0, standard := true }
  | .word .separator _ :: rest =>
    match standardTime? p rest with
    | some p => .complete { p with standard := true }
    | none => .refused
  | rest => .breaksOff p rest

def afterStandardYear (year : Int) : List DateToken → Standard
  | .symbol '-' :: .number m 2 :: rest =>
    if DateParts.isMonth m then
      match rest with
      | .symbol '-' :: .number d 2 :: rest =>
        if DateParts.isDay d then
          afterStandardDate { DateParts.empty with day := [year, m, d] } rest
        else .breaksOff { DateParts.empty with day := [year, m] } (.number d 2 :: rest)
      | .symbol '-' :: rest => .breaksOff { DateParts.empty with day := [year, m] } rest
      | rest => afterStandardDate { DateParts.empty with day := [year, m] } rest
    else .breaksOff { DateParts.empty with day := [year] } (.number m 2 :: rest)
  | .symbol '-' :: rest => .breaksOff { DateParts.empty with day := [year] } rest
  | rest => afterStandardDate { DateParts.empty with day := [year] } rest

/-- Reads the standard form. There is no year minus zero. -/
def readStandard : List DateToken → Standard
  | .number y 4 :: rest => afterStandardYear y rest
  | .symbol '+' :: .number y 6 :: rest => afterStandardYear y rest
  | .symbol '-' :: .number y 6 :: rest =>
    if y = 0 then .breaksOff .empty (.symbol '-' :: rest) else afterStandardYear (-y) rest
  | rest => .breaksOff .empty rest

def readDate? (cs : List Char) : Option Instant := do
  let parts ← match readStandard (DateToken.ofChars cs) with
    | .refused => none
    | .complete p => some p
    | .breaksOff p rest => readLoosely rest.length (p, !p.day.isEmpty, rest)
  parts.instant?

def Instant.ofText? (s : String) : Option Instant := readDate? s.toList

end AgentPlans.Time
