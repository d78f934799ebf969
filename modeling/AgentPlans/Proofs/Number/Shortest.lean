import AgentPlans.Number.Shortest
import AgentPlans.Proofs.Json.Number
import AgentPlans.Proofs.Number.Binary64
import Mathlib.Data.List.DropRight
import Mathlib.Tactic.NormNum

/-!
# Digits are always found

`shortestDigits_spec`: the search for the shortest digits of a binary64 value
ends with digits, the first of them not zero. Seventeen are enough, because a
step in the seventeenth place is less than the distance to the neighbours:
`candidate?_isSome` says that a neighbourhood that reaches half a step to both
sides has a candidate, and `half_step_lt` that it reaches so far.
-/

namespace AgentPlans.Number

variable {num den f m fuel count : Nat} {e p : Int} {r : Neighbourhood}

theorem ten_zpow_pos (e : Int) : (0 : ℚ) < 10 ^ e := zpow_pos (by norm_num) e

-- ---------------------------------------------------------------------------
-- The place of the first digit
-- ---------------------------------------------------------------------------

theorem digitsOf_pos (h : 0 < f) : digitsOf f = Nat.toDigits 10 f := by
  rw [digitsOf, if_neg h.ne']

theorem length_digitsOf_pos (h : 0 < f) : 0 < (digitsOf f).length := by
  rw [digitsOf_pos h]
  exact List.length_pos_iff.mpr Nat.toDigits_ne_nil

theorem ten_pow_length_le (h : 0 < f) : 10 ^ ((digitsOf f).length - 1) ≤ f := by
  have hlength := length_digitsOf_pos h
  by_cases hone : (digitsOf f).length = 1
  · rw [hone]
    exact h
  · rw [digitsOf_pos h] at hone hlength ⊢
    have hle := Nat.length_toDigits_le_iff (n := f) (b := 10)
      (k := (Nat.toDigits 10 f).length - 1) (by decide) (by omega)
    refine Nat.le_of_not_lt fun hlt => ?_
    have := hle.mpr hlt
    omega

theorem ten_zpow_length_le (hd : 0 < den) (h : den ≤ num) :
    (10 : ℚ) ^ ((digitsOf (num / den)).length - 1 : Int) ≤ num / den := by
  have hq : 0 < num / den := Nat.div_pos h hd
  have hplace : ((digitsOf (num / den)).length : Int) - 1 =
      ((digitsOf (num / den)).length - 1 : Nat) := by
    have := length_digitsOf_pos hq
    omega
  rw [hplace, zpow_natCast]
  calc (10 : ℚ) ^ ((digitsOf (num / den)).length - 1) ≤ (num / den : Nat) := by
        exact_mod_cast ten_pow_length_le hq
    _ ≤ num / den := Nat.cast_div_le

theorem decimalExponent_le (hd : 0 < den) {k : Nat} (h : den ≤ num * 10 ^ k) :
    (10 : ℚ) ^ (decimalExponent num den (k + 1) - 1) ≤ num / den := by
  induction k generalizing num with
  | zero =>
    have hle : den ≤ num := by simpa using h
    rw [decimalExponent, if_pos hle]
    exact ten_zpow_length_le hd hle
  | succ k ih =>
    rw [decimalExponent]
    split
    · next hle => exact ten_zpow_length_le hd hle
    · have hfuel : den ≤ num * 10 * 10 ^ k := by rwa [mul_assoc, ← pow_succ']
      have hrest := ih hfuel
      generalize decimalExponent (num * 10) den (k + 1) = place at hrest ⊢
      calc (10 : ℚ) ^ (place - 1 - 1) = 10 ^ (place - 1) * 10 ^ (-1 : Int) := by
            rw [← zpow_add₀ (by norm_num), ← sub_eq_add_neg]
        _ ≤ (num * 10 : Nat) / den * 10 ^ (-1 : Int) :=
            mul_le_mul_of_nonneg_right hrest (ten_zpow_pos _).le
        _ = num / den := by
            push_cast
            rw [zpow_neg_one]
            ring

-- ---------------------------------------------------------------------------
-- Candidates
-- ---------------------------------------------------------------------------

theorem contains_of_between (hs : 0 < r.scale) (hl : (r.low / r.scale : ℚ) < f * 10 ^ e)
    (hh : (f * 10 ^ e : ℚ) < r.high / r.scale) : r.contains f e = true := by
  have hd : 0 < (scaled 10 f 1 e).2 := scaled_den_pos (by decide) (by decide)
  have hvalue : ((scaled 10 f 1 e).1 : ℚ) / (scaled 10 f 1 e).2 = f * 10 ^ e := by
    rw [scaled_eq (by decide)]
    simp
  have hs' : (0 : ℚ) < r.scale := by exact_mod_cast hs
  have hd' : (0 : ℚ) < (scaled 10 f 1 e).2 := by exact_mod_cast hd
  rw [← hvalue] at hl hh
  rw [div_lt_div_iff₀ hs' hd'] at hl
  rw [div_lt_div_iff₀ hd' hs'] at hh
  have hl' : r.low * (scaled 10 f 1 e).2 < (scaled 10 f 1 e).1 * r.scale := by exact_mod_cast hl
  have hh' : (scaled 10 f 1 e).1 * r.scale < r.high * (scaled 10 f 1 e).2 := by exact_mod_cast hh
  unfold Neighbourhood.contains
  cases r.closed <;> simp [hl', hh', hl'.le, hh'.le]

theorem not_contains_zero (h : 0 < r.low) : r.contains 0 e = false := by
  have hd : 0 < (scaled 10 0 1 e).2 := scaled_den_pos (by decide) (by decide)
  have hn : (scaled 10 0 1 e).1 = 0 := by
    unfold scaled
    split <;> simp
  have hpos : 0 < r.low * (scaled 10 0 1 e).2 := Nat.mul_pos h hd
  unfold Neighbourhood.contains
  cases r.closed <;> simp [hn, hpos.ne']

theorem le_roundHalfEven (num den : Nat) : num / den ≤ roundHalfEven num den := by
  unfold roundHalfEven
  dsimp only
  split
  · exact Nat.le_refl _
  · split
    · exact Nat.le_succ _
    · exact Nat.le_add_right _ _

theorem pos_of_candidate? (h : 0 < r.low) (hf : candidate? r num den e = some f) : 0 < f := by
  have hzero : ∀ k, r.contains k e = true → 0 < k := by
    intro k hk
    refine Nat.pos_of_ne_zero ?_
    rintro rfl
    rw [not_contains_zero h] at hk
    contradiction
  unfold candidate? at hf
  dsimp only at hf
  split at hf
  · next hfloor _ =>
    obtain rfl := Option.some.inj hf
    exact Nat.lt_of_lt_of_le (hzero _ hfloor) (le_roundHalfEven _ _)
  · next hfloor _ =>
    obtain rfl := Option.some.inj hf
    exact hzero _ hfloor
  · next _ hnext =>
    obtain rfl := Option.some.inj hf
    exact hzero _ hnext
  · cases hf

theorem candidate?_isSome (hd : 0 < den) (hs : 0 < r.scale)
    (hl : (r.low / r.scale : ℚ) < num / den - 10 ^ e / 2)
    (hh : (num / den + 10 ^ e / 2 : ℚ) < r.high / r.scale) :
    (candidate? r num den e).isSome = true := by
  have hpos := ten_zpow_pos e
  have hscaled : 0 < (scaled 10 num den (-e)).2 := scaled_den_pos (by decide) hd
  have hvalue : ((scaled 10 num den (-e)).1 : ℚ) / (scaled 10 num den (-e)).2 * 10 ^ e =
      num / den := by
    rw [scaled_eq (by decide), mul_assoc, Nat.cast_ofNat, ← zpow_add₀ (by norm_num),
      neg_add_cancel, zpow_zero, mul_one]
  have hfloor : ((scaled 10 num den (-e)).1 / (scaled 10 num den (-e)).2 : Nat) * (10 : ℚ) ^ e ≤
      num / den := by
    rw [← hvalue]
    exact mul_le_mul_of_nonneg_right Nat.cast_div_le hpos.le
  have hnext : (num / den : ℚ) <
      ((scaled 10 num den (-e)).1 / (scaled 10 num den (-e)).2 + 1 : Nat) * (10 : ℚ) ^ e := by
    rw [← hvalue]
    refine mul_lt_mul_of_pos_right ?_ hpos
    rw [div_lt_iff₀ (by exact_mod_cast hscaled)]
    exact_mod_cast Nat.lt_mul_of_div_lt (Nat.lt_succ_self _) hscaled
  unfold candidate?
  dsimp only
  generalize (scaled 10 num den (-e)).1 / (scaled 10 num den (-e)).2 = k at hfloor hnext ⊢
  have hstep : ((k + 1 : Nat) : ℚ) * 10 ^ e = k * 10 ^ e + 10 ^ e := by
    push_cast
    ring
  -- In the lower half of the step the decimal below is near, in the upper half the one above.
  rcases le_or_gt ((num / den : ℚ) - k * 10 ^ e) (10 ^ e / 2) with hnear | hfar
  · have hcontains : r.contains k e = true :=
      contains_of_between hs (by linarith) (by linarith)
    rw [hcontains]
    cases r.contains (k + 1) e <;> rfl
  · have hcontains : r.contains (k + 1) e = true :=
      contains_of_between hs (by linarith) (by linarith)
    rw [hcontains]
    cases r.contains k e <;> rfl

theorem pos_shortestFrom (hl : 0 < r.low) {i : Nat} (hi : i < fuel)
    (h : (candidate? r num den (p - (count + i : Nat))).isSome = true) :
    0 < (shortestFrom r num den p count fuel).1 := by
  induction fuel generalizing count i with
  | zero => omega
  | succ fuel ih =>
    rw [shortestFrom]
    split
    · next hf => exact pos_of_candidate? hl hf
    · next hnone =>
      cases i with
      | zero => simp [hnone] at h
      | succ i =>
        refine ih (i := i) (by omega) ?_
        rw [Nat.add_assoc, Nat.add_comm 1 i]
        exact h

-- ---------------------------------------------------------------------------
-- The neighbourhood of a value
-- ---------------------------------------------------------------------------

theorem neighbourhood_spec (hm : 0 < m)
    (hunits : (inUnits num den (lastPlace num den)).1 / (inUnits num den (lastPlace num den)).2 = m) :
    ∃ below : Nat, (below = 2 ∨ below = 1 ∧ m = leastSignificand) ∧
      0 < (neighbourhood num den).scale ∧ 0 < (neighbourhood num den).low ∧
      ((neighbourhood num den).low / (neighbourhood num den).scale : ℚ) =
        (4 * m - below) * (2 ^ lastPlace num den / 4) ∧
      ((neighbourhood num den).high / (neighbourhood num den).scale : ℚ) =
        (4 * m + 2) * (2 ^ lastPlace num den / 4) := by
  have hscale : 0 < (scaled 2 1 4 (lastPlace num den)).2 := scaled_den_pos (by decide) (by decide)
  have hvalue : ((scaled 2 1 4 (lastPlace num den)).1 : ℚ) / (scaled 2 1 4 (lastPlace num den)).2 =
      2 ^ lastPlace num den / 4 := by
    rw [scaled_eq (by decide)]
    push_cast
    ring
  have hunit : 0 < (scaled 2 1 4 (lastPlace num den)).1 := by
    refine Nat.pos_of_ne_zero fun h => ?_
    have hpos := two_zpow_pos (lastPlace num den)
    rw [h] at hvalue
    simp only [Nat.cast_zero, zero_div] at hvalue
    linarith
  unfold neighbourhood
  dsimp only
  rw [hunits]
  refine ⟨if m = leastSignificand ∧ -1074 < lastPlace num den then 1 else 2, ?_, hscale, ?_, ?_, ?_⟩
  · split
    · next h => exact .inr ⟨rfl, h.1⟩
    · exact .inl rfl
  · refine Nat.mul_pos ?_ hunit
    split <;> omega
  · rw [Nat.cast_mul, mul_div_assoc, hvalue, Nat.cast_sub (by split <;> omega)]
    push_cast
    rfl
  · rw [Nat.cast_mul, mul_div_assoc, hvalue]
    push_cast
    rfl

/-- Half a step in the seventeenth place is less than the way to the end of the neighbourhood. -/
theorem half_step_lt {x u step : ℚ} {below : Nat} (hu : 0 < u) (hm : m < 2 ^ 53)
    (hbelow : below = 2 ∨ below = 1 ∧ m = leastSignificand) (hx : x = m * u)
    (hstep : step * 10 ^ 16 ≤ x) :
    (4 * m - below) * (u / 4) < x - step / 2 ∧ x + step / 2 < (4 * m + 2) * (u / 4) := by
  have hm' : (m : ℚ) * u < 2 ^ 53 * u := by
    refine mul_lt_mul_of_pos_right ?_ hu
    exact_mod_cast hm
  -- Below the least significand the places are half as wide, but there the value is large enough.
  rcases hbelow with rfl | ⟨rfl, hleast⟩
  · constructor <;> push_cast <;> linarith
  · have hmu : (m : ℚ) * u = 2 ^ 52 * u := by
      rw [hleast, leastSignificand]
      norm_num
    constructor <;> push_cast <;> linarith

theorem two_pow_le_ten_pow {k n : Nat} (h : k ≤ n) : 2 ^ (3 * k) ≤ 10 ^ n := by
  rw [pow_mul]
  calc (2 ^ 3) ^ k ≤ 10 ^ k := Nat.pow_le_pow_left (by decide) k
    _ ≤ 10 ^ n := Nat.pow_le_pow_right (by decide) h

/-- No binary64 value is so small that the fuel for its first digit runs out. -/
theorem den_le_of_lastPlace (hd : 0 < den) (hm : 0 < m)
    (hunits : (num / den : ℚ) = m * 2 ^ lastPlace num den) : den ≤ num * 10 ^ 399 := by
  have hd' : (0 : ℚ) < den := by exact_mod_cast hd
  have hm' : (1 : ℚ) ≤ m := by exact_mod_cast hm
  have hleast : (2 : ℚ) ^ (-1074 : Int) ≤ num / den := by
    calc (2 : ℚ) ^ (-1074 : Int) ≤ 2 ^ lastPlace num den := by
          refine zpow_le_zpow_right₀ (by norm_num) ?_
          rw [lastPlace_eq]
          exact le_max_right _ _
      _ ≤ m * 2 ^ lastPlace num den := le_mul_of_one_le_left (two_zpow_pos _).le hm'
      _ = num / den := hunits.symm
  have hbinary : den ≤ num * 2 ^ 1074 := by
    rw [le_div_iff₀ hd', zpow_neg, inv_mul_le_iff₀ (two_zpow_pos _), mul_comm] at hleast
    exact_mod_cast hleast
  have hpower : 2 ^ 1074 ≤ 10 ^ 399 := by
    have hexponent : 1074 = 3 * 358 := rfl
    have hle : 358 ≤ 399 := by decide
    rw [hexponent]
    exact two_pow_le_ten_pow hle
  exact hbinary.trans (Nat.mul_le_mul_left num hpower)

/-- The search for the digits of a binary64 value finds a number. -/
theorem shortestDigits_found (hn : 0 < num) (hd : 0 < den) (hm : m < 2 ^ 53) (he : -1074 ≤ e)
    (hvalue : (num / den : ℚ) = m * 2 ^ e) :
    0 < (shortestFrom (neighbourhood num den) num den (decimalExponent num den 400) 1 17).1 := by
  obtain ⟨k, hk, hk53, hunits, hwhole⟩ := significand hn hd hm he hvalue
  obtain ⟨below, hbelow, hscale, hlow, hl, hh⟩ := neighbourhood_spec hk hwhole
  have hpos := two_zpow_pos (lastPlace num den)
  have hfuel := den_le_of_lastPlace hd hk hunits
  have hstep : (10 : ℚ) ^ (decimalExponent num den 400 - (1 + 16 : Nat)) * 10 ^ 16 ≤ num / den := by
    have hplace := decimalExponent_le hd hfuel
    generalize decimalExponent num den 400 = p at hplace ⊢
    rw [← zpow_natCast, ← zpow_add₀ (by norm_num)]
    convert hplace using 2
    push_cast
    ring
  -- Seventeen digits suffice: with them a step is too short to leave the neighbourhood.
  obtain ⟨hbefore, hafter⟩ := half_step_lt hpos hk53 hbelow hunits hstep
  refine pos_shortestFrom hlow (i := 16) (by decide) (candidate?_isSome hd hscale ?_ ?_)
  · rw [hl]
    exact hbefore
  · rw [hh]
    exact hafter

-- ---------------------------------------------------------------------------
-- Digits
-- ---------------------------------------------------------------------------

structure Significant (digits : List Char) : Prop where
  isDigit : ∀ c ∈ digits, isDigit c = true
  ne_nil : digits ≠ []
  head : digits.head? ≠ some '0'

theorem significant_toDigits (h : 0 < f) : Significant (Nat.toDigits 10 f) :=
  ⟨fun _ hc => isDigit_of_mem_toDigits hc, Nat.toDigits_ne_nil, head_toDigits h⟩

theorem Significant.of_prefix {front digits : List Char} (h : Significant digits)
    (hf : front <+: digits) (hne : front ≠ []) : Significant front := by
  refine ⟨fun c hc => h.isDigit c (hf.subset hc), hne, ?_⟩
  have hhead := h.head
  obtain ⟨after, rfl⟩ := hf
  rwa [List.head?_append_of_ne_nil _ hne] at hhead

theorem Significant.append {digits more : List Char} (h : Significant digits)
    (hm : ∀ c ∈ more, Number.isDigit c = true) : Significant (digits ++ more) := by
  refine ⟨?_, List.append_ne_nil_of_left_ne_nil h.ne_nil more, ?_⟩
  · intro c hc
    exact (List.mem_append.mp hc).elim (h.isDigit c) (hm c)
  · rw [List.head?_append_of_ne_nil _ h.ne_nil]
    exact h.head

theorem Significant.dropTrailingZeros {digits : List Char} (h : Significant digits) :
    Significant (dropTrailingZeros digits) := by
  refine h.of_prefix (List.rdropWhile_prefix (fun c => c == '0') digits) fun hnil => ?_
  obtain ⟨c, rest, rfl⟩ := List.exists_cons_of_ne_nil h.ne_nil
  have hzero := List.rdropWhile_eq_nil_iff.mp hnil c List.mem_cons_self
  exact h.head (by simpa using hzero)

theorem significant_shortestDigits (hn : 0 < num) (hd : 0 < den) (hm : m < 2 ^ 53)
    (he : -1074 ≤ e) (hvalue : (num / den : ℚ) = m * 2 ^ e) :
    Significant (shortestDigits num den).1 := by
  have hfound := shortestDigits_found hn hd hm he hvalue
  unfold shortestDigits
  dsimp only
  rw [digitsOf_pos hfound]
  exact (significant_toDigits hfound).dropTrailingZeros

end AgentPlans.Number
