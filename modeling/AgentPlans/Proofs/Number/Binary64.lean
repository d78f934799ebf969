import AgentPlans.Number.Rounding
import Mathlib.Algebra.Order.Field.Power
import Mathlib.Data.Nat.Cast.Order.Field
import Mathlib.Tactic.Linarith
import Mathlib.Tactic.Positivity
import Mathlib.Tactic.Ring

/-!
# Binary64 values

What the helpers of rounding compute, as rational numbers: `scaled` multiplies by
a power, `binaryExponent` finds the power of two below a quotient, and a
quotient that is a binary64 value is a whole number of its last places, with at
most 53 bits (`significand`).
-/

namespace AgentPlans.Number

/-- The number is one that a binary64 word holds: at most 53 bits, in units of a power of two. -/
def IsBinary64 : Number → Prop
  | .finite q => ∃ m e : Int, q = m * 2 ^ e ∧ m.natAbs < 2 ^ 53 ∧ -1074 ≤ e ∧ e ≤ 971
  | _ => True

theorem isBinary64_ofInt {n : Int} (h : n.natAbs < 2 ^ 53) : (ofInt n).IsBinary64 :=
  ⟨n, 0, by simp, h, by decide, by decide⟩

variable {base num den : Nat} {e : Int}

-- ---------------------------------------------------------------------------
-- Quotients
-- ---------------------------------------------------------------------------

theorem scaled_den_pos (hb : 0 < base) (hd : 0 < den) : 0 < (scaled base num den e).2 := by
  unfold scaled
  split
  · exact hd
  · exact Nat.mul_pos hd (Nat.pow_pos hb)

theorem scaled_eq (hb : 0 < base) :
    ((scaled base num den e).1 : ℚ) / (scaled base num den e).2 = num / den * (base : ℚ) ^ e := by
  have hb' : (base : ℚ) ≠ 0 := by exact_mod_cast hb.ne'
  unfold scaled
  split
  · next he =>
    obtain ⟨n, rfl⟩ := Int.eq_ofNat_of_zero_le he
    simp only [Int.toNat_natCast, Nat.pow_eq, Nat.cast_mul, Nat.cast_pow, zpow_natCast]
    ring
  · next he =>
    obtain ⟨n, hn⟩ := Int.eq_ofNat_of_zero_le (a := -e) (by omega)
    obtain rfl : e = -n := by omega
    simp only [neg_neg, Int.toNat_natCast, Nat.pow_eq, Nat.cast_mul, Nat.cast_pow, zpow_neg,
      zpow_natCast]
    rw [div_mul_eq_div_div]
    rfl

theorem two_zpow_pos (e : Int) : (0 : ℚ) < 2 ^ e := zpow_pos (by norm_num) e

-- ---------------------------------------------------------------------------
-- Exponents
-- ---------------------------------------------------------------------------

theorem two_pow_log2_le (h : 0 < num) : (2 : ℚ) ^ (num.log2 : Int) ≤ num := by
  rw [zpow_natCast]
  exact_mod_cast Nat.log2_self_le h.ne'

theorem lt_two_pow_log2 (num : Nat) : (num : ℚ) < 2 ^ (num.log2 + 1 : Int) := by
  have h : (num : ℚ) < 2 ^ (num.log2 + 1) := by exact_mod_cast Nat.lt_log2_self
  exact_mod_cast h

theorem binaryExponent_spec (hn : 0 < num) (hd : 0 < den) :
    (2 : ℚ) ^ binaryExponent num den ≤ num / den ∧
      (num / den : ℚ) < 2 ^ (binaryExponent num den + 1) := by
  have hn' : (0 : ℚ) < num := by exact_mod_cast hn
  have hd' : (0 : ℚ) < den := by exact_mod_cast hd
  -- The lengths of numerator and denominator leave two exponents, and the comparison that the
  -- definition makes decides between them.
  let k : Int := (num.log2 : Int) - den.log2
  have hupper : (num / den : ℚ) < 2 ^ (k + 1) := by
    rw [div_lt_iff₀ hd']
    calc (num : ℚ) < 2 ^ (num.log2 + 1 : Int) := lt_two_pow_log2 num
      _ = 2 ^ (k + 1) * 2 ^ (den.log2 : Int) := by
        rw [← zpow_add₀ (by norm_num)]
        congr 1
        omega
      _ ≤ 2 ^ (k + 1) * den :=
        mul_le_mul_of_nonneg_left (two_pow_log2_le hd) (two_zpow_pos _).le
  have hlower : (2 : ℚ) ^ (k - 1) < num / den := by
    rw [lt_div_iff₀ hd']
    calc (2 : ℚ) ^ (k - 1) * den < 2 ^ (k - 1) * 2 ^ (den.log2 + 1 : Int) :=
        mul_lt_mul_of_pos_left (lt_two_pow_log2 den) (two_zpow_pos _)
      _ = 2 ^ (num.log2 : Int) := by
        rw [← zpow_add₀ (by norm_num)]
        congr 1
        omega
      _ ≤ num := two_pow_log2_le hn
  have hscaled : ((scaled 2 den num k).1 ≤ (scaled 2 den num k).2) ↔ (2 : ℚ) ^ k ≤ num / den := by
    have hpos : (0 : ℚ) < (scaled 2 den num k).2 := by
      exact_mod_cast scaled_den_pos (by decide) hn
    have hvalue : ((scaled 2 den num k).1 : ℚ) / (scaled 2 den num k).2 = den / num * 2 ^ k :=
      scaled_eq (by decide)
    rw [← Nat.cast_le (α := ℚ), ← div_le_one hpos, hvalue, le_div_iff₀ hd', div_mul_eq_mul_div,
      div_le_one hn', mul_comm]
  unfold binaryExponent
  dsimp only
  split
  · next hle => exact ⟨hscaled.mp hle, hupper⟩
  · next hgt =>
    refine ⟨hlower.le, ?_⟩
    rw [sub_add_cancel]
    exact lt_of_not_ge fun h => hgt (hscaled.mpr h)

theorem lastPlace_eq (num den : Nat) :
    lastPlace num den = Max.max (binaryExponent num den - 52) (-1074) := by
  unfold lastPlace
  dsimp only
  split <;> omega

-- ---------------------------------------------------------------------------
-- Significands
-- ---------------------------------------------------------------------------

theorem significand (hn : 0 < num) (hd : 0 < den) {m : Nat} (hm : m < 2 ^ 53) (he : -1074 ≤ e)
    (hvalue : (num / den : ℚ) = m * 2 ^ e) :
    ∃ m : Nat, 0 < m ∧ m < 2 ^ 53 ∧ (num / den : ℚ) = m * 2 ^ lastPlace num den ∧
      (inUnits num den (lastPlace num den)).1 / (inUnits num den (lastPlace num den)).2 = m := by
  obtain ⟨hlower, hupper⟩ := binaryExponent_spec hn hd
  have hquotient : (0 : ℚ) < num / den := by positivity
  have hm' : (m : ℚ) < 2 ^ (53 : Int) := by exact_mod_cast hm
  -- The last place is not above the unit that the value is given in.
  have hplace : lastPlace num den ≤ e := by
    have hexponent : (2 : ℚ) ^ binaryExponent num den < 2 ^ (53 + e) := by
      rw [zpow_add₀ (by norm_num)]
      calc (2 : ℚ) ^ binaryExponent num den ≤ m * 2 ^ e := hvalue ▸ hlower
        _ < 2 ^ (53 : Int) * 2 ^ e := mul_lt_mul_of_pos_right hm' (two_zpow_pos e)
    have := (zpow_lt_zpow_iff_right₀ (by norm_num : (1 : ℚ) < 2)).mp hexponent
    rw [lastPlace_eq]
    omega
  obtain ⟨shift, hshift⟩ := Int.eq_ofNat_of_zero_le (a := e - lastPlace num den) (by omega)
  have hunits : (num / den : ℚ) = (m * 2 ^ shift : Nat) * 2 ^ lastPlace num den := by
    rw [hvalue, Nat.cast_mul, Nat.cast_pow, mul_assoc, Nat.cast_ofNat, ← zpow_natCast,
      ← zpow_add₀ (by norm_num)]
    congr 2
    omega
  -- From here on the value is a number of last places, and `m` and `e` do not matter.
  generalize m * 2 ^ shift = significand at hunits
  refine ⟨significand, ?_, ?_, hunits, ?_⟩
  · rcases Nat.eq_zero_or_pos significand with rfl | h
    · simp [hunits] at hquotient
    · exact h
  · have hbound : (significand : ℚ) * 2 ^ lastPlace num den < 2 ^ 53 * 2 ^ lastPlace num den := by
      rw [← hunits]
      calc (num / den : ℚ) < 2 ^ (binaryExponent num den + 1) := hupper
        _ ≤ 2 ^ (53 + lastPlace num den) := by
          refine zpow_le_zpow_right₀ (by norm_num) ?_
          rw [lastPlace_eq]
          omega
        _ = 2 ^ 53 * 2 ^ lastPlace num den := zpow_add₀ (by norm_num) _ _
    exact_mod_cast lt_of_mul_lt_mul_right hbound (two_zpow_pos _).le
  · have hden : 0 < (inUnits num den (lastPlace num den)).2 := scaled_den_pos (by decide) hd
    have hexact : ((inUnits num den (lastPlace num den)).1 : ℚ) /
        (inUnits num den (lastPlace num den)).2 = significand := by
      rw [inUnits, scaled_eq (by decide), hunits, mul_assoc, Nat.cast_ofNat,
        ← zpow_add₀ (by norm_num), add_neg_cancel, zpow_zero, mul_one]
    have hden' : ((inUnits num den (lastPlace num den)).2 : ℚ) ≠ 0 := by exact_mod_cast hden.ne'
    rw [div_eq_iff hden'] at hexact
    exact Nat.div_eq_of_eq_mul_left hden (by exact_mod_cast hexact)

end AgentPlans.Number
