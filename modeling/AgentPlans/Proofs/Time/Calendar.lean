import AgentPlans.Time.Calendar
import Mathlib.Data.List.GetD

/-!
# Days and dates

`Date.ofDayNumber_valid` and `Date.dayNumber_ofDayNumber`: every day number is
that of a date which the calendar has, leap years and centuries included, on
both sides of the year zero. `Date.dayNumber_lt`: between such dates the day
number tells which comes first.
-/

namespace AgentPlans.Time

variable {d e : Date} {n year : Int} {leap : Bool} {month days : Nat} {lengths : List Nat}

-- ---------------------------------------------------------------------------
-- Years
-- ---------------------------------------------------------------------------

theorem daysBeforeYear_succ (year : Int) :
    daysBeforeYear (year + 1) = daysBeforeYear year + (if isLeap year then 366 else 365) := by
  have hleap : isLeap year = true ↔ year % 4 = 0 ∧ (year % 100 ≠ 0 ∨ year % 400 = 0) := by
    simp [isLeap]
  unfold daysBeforeYear
  split
  · next h =>
    rw [hleap] at h
    omega
  · next h =>
    rw [hleap] at h
    omega

theorem daysBeforeYear_mono {y z : Int} (h : y ≤ z) : daysBeforeYear y ≤ daysBeforeYear z := by
  unfold daysBeforeYear
  omega

theorem yearOfDay_spec (n : Int) :
    daysBeforeYear (yearOfDay n) ≤ n ∧ n < daysBeforeYear (yearOfDay n + 1) := by
  have hlow : 146097 * (400 * n / 146097) ≤ 400 * n := by omega
  have hhigh : 400 * n < 146097 * (400 * n / 146097 + 1) := by omega
  unfold yearOfDay
  dsimp only
  -- The mean length of a year gives the year or one next to it; the two comparisons settle which.
  generalize 400 * n / 146097 = guess at hlow hhigh
  split
  · next h =>
    rw [Int.sub_add_cancel]
    unfold daysBeforeYear at h ⊢
    omega
  · split
    · next h =>
      unfold daysBeforeYear at h ⊢
      omega
    · omega

-- ---------------------------------------------------------------------------
-- Months
-- ---------------------------------------------------------------------------

def monthLength (leap : Bool) (month : Nat) : Nat := (monthLengths leap).getD (month - 1) 0

theorem monthLength_le (leap : Bool) (month : Nat) : monthLength leap month ≤ 31 := by
  unfold monthLength
  rcases Nat.lt_or_ge (month - 1) 12 with h | h
  · revert leap
    generalize month - 1 = i at h
    revert i
    decide
  · rw [List.getD_eq_default _ _ h]
    omega

theorem daysBeforeMonth_succ (h : 1 ≤ month) (h' : month ≤ 12) :
    daysBeforeMonth leap (month + 1) = daysBeforeMonth leap month + monthLength leap month := by
  obtain ⟨i, rfl⟩ := Nat.exists_eq_add_of_le' h
  have hi : i < 12 := by omega
  clear h h'
  revert leap i
  decide

theorem daysBeforeMonth_mono {m k : Nat} (h : m ≤ k) (h1 : 1 ≤ m) (h12 : k ≤ 13) :
    daysBeforeMonth leap m ≤ daysBeforeMonth leap k := by
  induction h with
  | refl => exact Nat.le_refl _
  | @step k hm ih =>
    have hlast := ih (by omega)
    rw [daysBeforeMonth_succ (Nat.le_trans h1 hm) (by omega)]
    omega

theorem daysBeforeMonth_end (leap : Bool) :
    daysBeforeMonth leap 13 = if leap then 366 else 365 := by
  cases leap <;> rfl

theorem monthAndDay_spec (month : Nat) (h : days < lengths.foldr (· + ·) 0) :
    ∃ i, ∃ hi : i < lengths.length, (monthAndDay month lengths days).1 = month + i ∧
      1 ≤ (monthAndDay month lengths days).2 ∧ (monthAndDay month lengths days).2 ≤ lengths[i] ∧
      (lengths.take i).foldr (· + ·) 0 + (monthAndDay month lengths days).2 = days + 1 := by
  induction lengths generalizing month days with
  | nil => simp at h
  | cons length rest ih =>
    rw [List.foldr_cons] at h
    by_cases hd : days < length
    · rw [monthAndDay, if_pos hd]
      exact ⟨0, by simp, rfl, Nat.succ_pos _, Nat.succ_le_of_lt hd, by simp⟩
    · rw [monthAndDay, if_neg hd]
      have hdays : days - length < rest.foldr (· + ·) 0 := by omega
      obtain ⟨i, hi, hmonth, hpos, hle, hsum⟩ := ih (month + 1) hdays
      refine ⟨i + 1, by simpa using hi, by rw [hmonth]; omega, hpos, by simpa using hle, ?_⟩
      rw [List.take_succ_cons, List.foldr_cons]
      omega

-- ---------------------------------------------------------------------------
-- Dates
-- ---------------------------------------------------------------------------

structure Date.Valid (d : Date) : Prop where
  month_pos : 1 ≤ d.month
  month_le : d.month ≤ 12
  day_pos : 1 ≤ d.day
  day_le : d.day ≤ monthLength (isLeap d.year) d.month

theorem Date.Valid.day_le_31 (h : d.Valid) : d.day ≤ 31 :=
  Nat.le_trans h.day_le (monthLength_le _ _)

theorem Date.ofDayNumber_spec (n : Int) :
    (ofDayNumber n).Valid ∧ (ofDayNumber n).year = yearOfDay n ∧
      daysBeforeMonth (isLeap (yearOfDay n)) (ofDayNumber n).month + (ofDayNumber n).day =
        (n - daysBeforeYear (yearOfDay n)).toNat + 1 := by
  obtain ⟨hfirst, hlast⟩ := yearOfDay_spec n
  rw [daysBeforeYear_succ] at hlast
  have hdays : (n - daysBeforeYear (yearOfDay n)).toNat <
      (monthLengths (isLeap (yearOfDay n))).foldr (· + ·) 0 := by
    have hsum := daysBeforeMonth_end (isLeap (yearOfDay n))
    have htake : daysBeforeMonth (isLeap (yearOfDay n)) 13 =
        (monthLengths (isLeap (yearOfDay n))).foldr (· + ·) 0 := rfl
    rw [← htake, hsum]
    split at hlast <;> simp_all <;> omega
  obtain ⟨i, hi, hmonth, hpos, hle, hsum⟩ := monthAndDay_spec 1 hdays
  have hi12 : i < 12 := hi
  have hm : (ofDayNumber n).month = i + 1 := by
    rw [← Nat.add_comm 1 i]
    exact hmonth
  have hlength : monthLength (isLeap (yearOfDay n)) (i + 1) =
      (monthLengths (isLeap (yearOfDay n)))[i] := by
    rw [monthLength, Nat.add_sub_cancel]
    exact List.getD_eq_getElem _ _ hi
  refine ⟨⟨by omega, by omega, hpos, ?_⟩, rfl, ?_⟩
  · have hyear : (ofDayNumber n).year = yearOfDay n := rfl
    rw [hyear, hm, hlength]
    exact hle
  · rw [hm, daysBeforeMonth, Nat.add_sub_cancel]
    exact hsum

theorem Date.ofDayNumber_valid (n : Int) : (ofDayNumber n).Valid := (ofDayNumber_spec n).1

theorem Date.dayNumber_ofDayNumber (n : Int) : (ofDayNumber n).dayNumber = n := by
  obtain ⟨-, hyear, hdays⟩ := ofDayNumber_spec n
  have hfirst := (yearOfDay_spec n).1
  rw [dayNumber, hyear]
  omega

def Date.Before (d e : Date) : Prop :=
  d.year < e.year ∨ d.year = e.year ∧
    (d.month < e.month ∨ d.month = e.month ∧ d.day < e.day)

theorem Date.before_trichotomy (d e : Date) : d.Before e ∨ d = e ∨ e.Before d := by
  have heq : d.year = e.year → d.month = e.month → d.day = e.day → d = e := by
    cases d
    cases e
    simp_all
  unfold Before
  rcases Int.lt_trichotomy d.year e.year with hy | hy | hy
  · exact .inl (.inl hy)
  · rcases Nat.lt_trichotomy d.month e.month with hm | hm | hm
    · exact .inl (.inr ⟨hy, .inl hm⟩)
    · rcases Nat.lt_trichotomy d.day e.day with hd | hd | hd
      · exact .inl (.inr ⟨hy, .inr ⟨hm, hd⟩⟩)
      · exact .inr (.inl (heq hy hm hd))
      · exact .inr (.inr (.inr ⟨hy.symm, .inr ⟨hm.symm, hd⟩⟩))
    · exact .inr (.inr (.inr ⟨hy.symm, .inl hm⟩))
  · exact .inr (.inr (.inl hy))

theorem Date.Valid.dayNumber_bounds (h : d.Valid) :
    daysBeforeYear d.year ≤ d.dayNumber ∧ d.dayNumber < daysBeforeYear (d.year + 1) := by
  have hmonth := h.month_le
  have hend : daysBeforeMonth (isLeap d.year) (d.month + 1) ≤ daysBeforeMonth (isLeap d.year) 13 :=
    daysBeforeMonth_mono (by omega) (by omega) (by omega)
  rw [daysBeforeMonth_succ h.month_pos h.month_le, daysBeforeMonth_end] at hend
  have hpos := h.day_pos
  have hle := h.day_le
  rw [daysBeforeYear_succ, dayNumber]
  split at hend <;> simp_all <;> omega

theorem Date.Before.dayNumber_lt (h : d.Before e) (hd : d.Valid) (he : e.Valid) :
    d.dayNumber < e.dayNumber := by
  rcases h with hy | ⟨hy, hm | ⟨hm, hday⟩⟩
  · have hmono := daysBeforeYear_mono (y := d.year + 1) (z := e.year) (by omega)
    have hend := hd.dayNumber_bounds.2
    have hstart := he.dayNumber_bounds.1
    omega
  · have hlast := he.month_le
    have hmono : daysBeforeMonth (isLeap d.year) (d.month + 1) ≤
        daysBeforeMonth (isLeap d.year) e.month :=
      daysBeforeMonth_mono (by omega) (by omega) (by omega)
    rw [daysBeforeMonth_succ hd.month_pos hd.month_le] at hmono
    have hle := hd.day_le
    have hpos := he.day_pos
    rw [dayNumber, dayNumber, ← hy]
    omega
  · rw [dayNumber, dayNumber, ← hy, ← hm]
    omega

theorem Date.ofDayNumber_before {m n : Int} (h : m < n) :
    (ofDayNumber m).Before (ofDayNumber n) := by
  -- Dates that were not in order would give the day numbers back in the wrong order.
  rcases before_trichotomy (ofDayNumber m) (ofDayNumber n) with hlt | heq | hgt
  · exact hlt
  · have := congrArg dayNumber heq
    rw [dayNumber_ofDayNumber, dayNumber_ofDayNumber] at this
    omega
  · have := hgt.dayNumber_lt (ofDayNumber_valid n) (ofDayNumber_valid m)
    rw [dayNumber_ofDayNumber, dayNumber_ofDayNumber] at this
    omega

end AgentPlans.Time
