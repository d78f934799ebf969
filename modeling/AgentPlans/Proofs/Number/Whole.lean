import AgentPlans.Number.Basic
import Mathlib.Data.Rat.Cast.Order
import Mathlib.Order.Lattice

/-!
# Whole numbers as limits

The lesser and the greater of two whole numbers, and which of them are 64-bit
whole numbers. Clamping a finite number between one and a bound rounds it down
first; negative zero is clamped to one as well (`max_min_floor`).
-/

namespace AgentPlans.Number

variable {a b : Int}

theorem lt_ofInt : (ofInt a).lt (ofInt b) = decide (a < b) := by
  simp [ofInt, lt]

theorem min_ofInt (a b : Int) : min (ofInt a) (ofInt b) = ofInt (Min.min a b) := by
  have hnan : ∀ n : Int, (ofInt n).isNan = false := fun _ => rfl
  rw [min, hnan, hnan, lt_ofInt, lt_ofInt]
  rcases lt_trichotomy a b with h | rfl | h
  · simp [h, min_eq_left (le_of_lt h)]
  · simp [ofInt]
  · simp [h, not_lt_of_gt h, min_eq_right (le_of_lt h)]

theorem max_ofInt (a b : Int) : max (ofInt a) (ofInt b) = ofInt (Max.max a b) := by
  have hnan : ∀ n : Int, (ofInt n).isNan = false := fun _ => rfl
  rw [max, hnan, hnan, lt_ofInt, lt_ofInt]
  rcases lt_trichotomy a b with h | rfl | h
  · simp [h, max_eq_right (le_of_lt h)]
  · simp [ofInt]
  · simp [h, not_lt_of_gt h, max_eq_left (le_of_lt h)]

theorem max_min_floor {limit : Number} {q : Rat} (h : limit.value? = some q) (hb : 0 < b) :
    max 1 (min (ofInt b) limit.floor) = ofInt (Max.max 1 (Min.min b q.floor)) := by
  cases limit with
  | finite value =>
    obtain rfl : value = q := Option.some.inj h
    rw [floor, min_ofInt]
    exact max_ofInt 1 _
  | negZero =>
    obtain rfl : (0 : Rat) = q := Option.some.inj h
    have hmin : min (ofInt b) negZero = negZero := by
      have hb' : (0 : Rat) < (b : Rat) := by exact_mod_cast hb
      simp [min, isNan, ofInt, lt, hb', not_lt_of_gt hb']
    have hone : Max.max 1 (Min.min b (0 : Rat).floor) = 1 := by
      refine max_eq_left ((min_le_right _ _).trans ?_)
      decide
    have hfloor : negZero.floor = negZero := rfl
    rw [hfloor, hmin, hone]
    rfl
  | infinity negative => cases h
  | nan => cases h

theorem toInt64?_ofInt (ha : 0 < a) :
    (ofInt a).toInt64? = if a < 9223372036854775808 then some a else none := by
  have hrange : (-9223372036854775808 < a ∧ a < 9223372036854775808) ↔
      a < 9223372036854775808 := by omega
  simp [toInt64?, toInt?, value?, ofInt, hrange]

end AgentPlans.Number
