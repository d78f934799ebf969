import AgentPlans.Proofs.Text.Digits
import AgentPlans.Proofs.Time.Calendar
import AgentPlans.Time.Instant
import Mathlib.Data.String.Basic

/-!
# Texts of instants

`isoChars_eq` lays out the text of an instant: fields of fixed widths, each with
the mark that stands in front of it. `Instant.iso_lt_iff`: in the years 0 to 9999
the order of the texts, character by character, is the order of the instants.

Outside these years the texts have signs and two more digits, and their order is
another one.
-/

namespace AgentPlans.Text

variable {width a b : Nat} {cs ds : List Char}

theorem DigitsBefore.cons (c : Char) (h : DigitsBefore cs ds) : DigitsBefore (c :: cs) (c :: ds) :=
  h.append_left [c]

theorem digitsBefore_field (hb : b < 10 ^ width) (h : a < b ∨ a = b ∧ DigitsBefore cs ds) :
    DigitsBefore (digits width a ++ cs) (digits width b ++ ds) := by
  rcases h with hlt | ⟨rfl, h⟩
  · exact (digitsBefore_digits hlt hb).append_right cs ds
  · exact h.append_left _

end AgentPlans.Text

namespace AgentPlans.Time

open Text (digits padded_eq_digits DigitsBefore digitsBefore_field)

variable {t u : Instant} {d e : Date} {a b : Nat}

def timeChars (ms : Nat) : List Char :=
  'T' :: (digits 2 (ms / 3600000) ++ ':' :: (digits 2 (ms / 60000 % 60) ++
    ':' :: (digits 2 (ms / 1000 % 60) ++ '.' :: (digits 3 (ms % 1000) ++ ['Z']))))

def monthDayChars (d : Date) : List Char := '-' :: (digits 2 d.month ++ '-' :: digits 2 d.day)

namespace Instant

theorem timeOfDay_lt (t : Instant) : t.timeOfDay < 86400000 := by
  unfold timeOfDay millisPerDay
  omega

theorem date_valid (t : Instant) : t.date.Valid := Date.ofDayNumber_valid _

theorem millis_eq (t : Instant) :
    t.millis = (t.date.dayNumber - epochDay) * millisPerDay + t.timeOfDay := by
  rw [date, Date.dayNumber_ofDayNumber, timeOfDay, millisPerDay]
  omega

theorem isoChars_eq (t : Instant) :
    t.isoChars = yearChars t.date.year ++ (monthDayChars t.date ++ timeChars t.timeOfDay) := by
  have hmonth := t.date_valid.month_le
  have hday := t.date_valid.day_le_31
  have htime := t.timeOfDay_lt
  unfold isoChars monthDayChars timeChars
  dsimp only
  rw [padded_eq_digits (n := t.date.month) (by decide) (by omega),
    padded_eq_digits (n := t.date.day) (by decide) (by omega),
    padded_eq_digits (n := t.timeOfDay / 3600000) (by decide) (by omega),
    padded_eq_digits (n := t.timeOfDay / 60000 % 60) (by decide) (by omega),
    padded_eq_digits (n := t.timeOfDay / 1000 % 60) (by decide) (by omega),
    padded_eq_digits (n := t.timeOfDay % 1000) (by decide) (by omega)]
  simp

theorem natAbs_year_lt (t : Instant) : t.date.year.natAbs < 1000000 := by
  obtain ⟨hlow, hhigh⟩ := t.inRange
  have hyear : t.date.year = yearOfDay (t.millis / millisPerDay + epochDay) := rfl
  obtain ⟨hfirst, hlast⟩ := yearOfDay_spec (t.millis / millisPerDay + epochDay)
  rw [hyear]
  unfold daysBeforeYear at hfirst hlast
  unfold range at hlow hhigh
  unfold millisPerDay epochDay at *
  omega

/-- A text of digits and of these marks has ASCII characters only, and no NUL. -/
def IsPrintable (cs : List Char) : Prop := ∀ c ∈ cs, 0 < c.toNat ∧ c.toNat < 0x80

theorem isPrintable_digits (width n : Nat) : IsPrintable (digits width n) := by
  intro c hc
  obtain ⟨d, hd, rfl⟩ := Text.mem_digits hc
  rw [Text.toNat_digitChar d hd]
  omega

theorem IsPrintable.cons {c : Char} {cs : List Char} (hc : 0 < c.toNat ∧ c.toNat < 0x80)
    (h : IsPrintable cs) : IsPrintable (c :: cs) := by
  intro d hd
  rcases List.mem_cons.mp hd with rfl | hd
  · exact hc
  · exact h d hd

theorem IsPrintable.append {cs ds : List Char} (h : IsPrintable cs) (h' : IsPrintable ds) :
    IsPrintable (cs ++ ds) := by
  intro c hc
  rcases List.mem_append.mp hc with hc | hc
  · exact h c hc
  · exact h' c hc

theorem isPrintable_isoChars (t : Instant) : IsPrintable t.isoChars := by
  have hyear : IsPrintable (yearChars t.date.year) := by
    unfold yearChars
    split
    · rw [padded_eq_digits (by decide) (by omega)]
      exact isPrintable_digits _ _
    · rw [padded_eq_digits (by decide) t.natAbs_year_lt]
      exact .cons (by split <;> decide) (isPrintable_digits _ _)
  have hz : IsPrintable ['Z'] := by
    intro c hc
    rw [List.mem_singleton.mp hc]
    decide
  rw [isoChars_eq]
  refine hyear.append (.append ?_ ?_)
  · exact .cons (by decide) (.append (isPrintable_digits _ _)
      (.cons (by decide) (isPrintable_digits _ _)))
  · exact .cons (by decide) (.append (isPrintable_digits _ _)
      (.cons (by decide) (.append (isPrintable_digits _ _)
        (.cons (by decide) (.append (isPrintable_digits _ _)
          (.cons (by decide) (.append (isPrintable_digits _ _) hz)))))))

-- ---------------------------------------------------------------------------
-- Order
-- ---------------------------------------------------------------------------

def FourDigitYear (t : Instant) : Prop := 0 ≤ t.date.year ∧ t.date.year ≤ 9999

instance (t : Instant) : Decidable t.FourDigitYear := inferInstanceAs (Decidable (_ ∧ _))

theorem FourDigitYear.yearChars_eq (h : t.FourDigitYear) :
    yearChars t.date.year = digits 4 t.date.year.toNat := by
  obtain ⟨h0, h9⟩ := h
  rw [yearChars, if_pos ⟨h0, h9⟩, padded_eq_digits (by decide) (by omega)]

theorem timeChars_before (h : a < b) (hb : b < 86400000) :
    DigitsBefore (timeChars a) (timeChars b) := by
  refine .cons 'T' (digitsBefore_field (by omega) ?_)
  by_cases hour : a / 3600000 < b / 3600000
  · exact .inl hour
  refine .inr ⟨by omega, .cons ':' (digitsBefore_field (by omega) ?_)⟩
  by_cases minute : a / 60000 % 60 < b / 60000 % 60
  · exact .inl minute
  refine .inr ⟨by omega, .cons ':' (digitsBefore_field (by omega) ?_)⟩
  by_cases second : a / 1000 % 60 < b / 1000 % 60
  · exact .inl second
  exact .inr ⟨by omega, .cons '.' (digitsBefore_field (by omega) (.inl (by omega)))⟩

/-- Of two instants the earlier one has an earlier date, or the same date and less time. -/
theorem before_or_same_date (h : t.millis < u.millis) :
    t.date.Before u.date ∨ t.date = u.date ∧ t.timeOfDay < u.timeOfDay := by
  rcases lt_or_ge (t.millis / millisPerDay) (u.millis / millisPerDay) with hday | hday
  · exact .inl (Date.ofDayNumber_before (by omega))
  · have hsame : t.millis / millisPerDay = u.millis / millisPerDay := by
      unfold millisPerDay at hday ⊢
      omega
    refine .inr ⟨by rw [date, date, hsame], ?_⟩
    unfold timeOfDay millisPerDay at *
    omega

theorem isoChars_before (ht : t.FourDigitYear) (hu : u.FourDigitYear) (h : t.millis < u.millis) :
    DigitsBefore t.isoChars u.isoChars := by
  have hmonth := u.date_valid.month_le
  have hday := u.date_valid.day_le_31
  rw [isoChars_eq, isoChars_eq, ht.yearChars_eq, hu.yearChars_eq]
  obtain ⟨ht0, -⟩ := ht
  obtain ⟨hu0, hu9⟩ := hu
  refine digitsBefore_field (by omega) ?_
  unfold monthDayChars
  simp only [List.cons_append, List.append_assoc]
  rcases before_or_same_date h with (hyear | ⟨hyear, hmonths⟩) | ⟨hdate, htime⟩
  · exact .inl (by omega)
  · refine .inr ⟨by rw [hyear], .cons '-' (digitsBefore_field (by omega) ?_)⟩
    rcases hmonths with hlt | ⟨heq, hlt⟩
    · exact .inl hlt
    · exact .inr ⟨heq, .cons '-' (digitsBefore_field (by omega) (.inl hlt))⟩
  · rw [hdate]
    refine .inr ⟨rfl, .cons '-' (digitsBefore_field (by omega) (.inr ⟨rfl, ?_⟩))⟩
    refine .cons '-' (digitsBefore_field (by omega) (.inr ⟨rfl, ?_⟩))
    exact timeChars_before htime u.timeOfDay_lt

theorem iso_lt (ht : t.FourDigitYear) (hu : u.FourDigitYear) (h : t.millis < u.millis) :
    t.iso < u.iso := by
  rw [String.lt_iff_toList_lt, iso, iso, String.toList_ofList, String.toList_ofList]
  exact (isoChars_before ht hu h).lt

theorem eq_of_millis (h : t.millis = u.millis) : t = u := by
  cases t
  cases u
  simp_all

/-- The text of an instant is the earlier one exactly when the instant is. -/
theorem iso_lt_iff (ht : t.FourDigitYear) (hu : u.FourDigitYear) :
    t.iso < u.iso ↔ t.millis < u.millis := by
  refine ⟨fun hlt => ?_, iso_lt ht hu⟩
  rcases Int.lt_trichotomy t.millis u.millis with h | h | h
  · exact h
  · obtain rfl := eq_of_millis h
    exact absurd hlt (lt_irrefl _)
  · exact absurd hlt (lt_asymm (iso_lt hu ht h))

end Instant

end AgentPlans.Time
