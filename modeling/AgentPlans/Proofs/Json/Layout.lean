import AgentPlans.Proofs.Number.Shortest

/-!
# Numbers read as numbers

`readNumber_numberChars`: the text of a finite binary64 value reads as a number,
in each of the four layouts. Which number that is takes rounding to tell, and
nothing is claimed of it here; a whole number below `2^53` is known to read back
as itself (`readNumber_ofInt`).
-/

namespace AgentPlans.Json

open Number (Significant layout)

variable {digits rest : List Char} {point : Int} {n : Number} {q : ℚ}

-- ---------------------------------------------------------------------------
-- Layouts
-- ---------------------------------------------------------------------------

theorem wholePart_of_significant (h : Significant digits) : WholePart digits :=
  ⟨h.isDigit, h.ne_nil, fun hz => absurd hz h.head⟩

theorem isDigit_of_mem_zeros {k : Nat} {c : Char} (h : c ∈ Number.zeros k) :
    Number.isDigit c = true := by
  rw [(List.mem_replicate.mp h).2]
  rfl

theorem takeExponent_signed (negative : Bool) (hne : digits ≠ [])
    (hd : ∀ c ∈ digits, Number.isDigit c = true) (h : EndsNumber rest) :
    Number.takeExponent ('e' :: (if negative then '-' else '+') :: (digits ++ rest)) =
      (if negative then -(Number.ofDigits digits : Int) else Number.ofDigits digits, rest) := by
  have hsign : Number.SignText [if negative then '-' else '+'] negative := by
    cases negative with
    | true => exact .minus
    | false => exact .plus
  obtain ⟨ht, hr⟩ := Number.takeWhile_isDigit hd fun c hc => (h c hc).1
  have hread : Number.takeExponent
      ('e' :: ([if negative then '-' else '+'] ++ (digits ++ rest))) = _ :=
    Number.takeExponent_marked (.inl rfl) hsign (by simp)
  rwa [ht, hr, if_neg hne] at hread

def exponentChars (e : Int) : List Char :=
  'e' :: (if e < 0 then '-' else '+') :: Nat.toDigits 10 e.natAbs

theorem takeExponent_written (e : Int) (h : EndsNumber rest) :
    Number.takeExponent (exponentChars e ++ rest) = (e, rest) := by
  have htake := takeExponent_signed (decide (e < 0)) Nat.toDigits_ne_nil
    (fun _ hc => Number.isDigit_of_mem_toDigits (n := e.natAbs) hc) h
  simp only [decide_eq_true_eq, Number.ofDigits_toDigits] at htake
  refine htake.trans ?_
  rw [Prod.mk.injEq]
  refine ⟨?_, rfl⟩
  split <;> omega

theorem head_exponentChars (e : Int) (rest : List Char) :
    ∀ c ∈ (exponentChars e ++ rest).head?, Number.isDigit c = false ∧ c ≠ '.' := by
  rintro c ⟨⟩
  exact ⟨rfl, by decide⟩

theorem readMagnitude_layout (negative : Bool) (point : Int) (hs : Significant digits) :
    ∃ m, ∀ {rest : List Char}, EndsNumber rest →
      readMagnitude negative (layout digits point ++ rest) = some (.number m, rest) := by
  have hends : ∀ {rest : List Char}, EndsNumber rest → ∀ c ∈ rest.head?, Number.isDigit c = false :=
    fun h c hc => (h c hc).1
  unfold layout
  dsimp only
  split
  · -- The digits, filled up with zeros.
    have hwhole : WholePart (digits ++ Number.zeros (point - digits.length).toNat) :=
      wholePart_of_significant (hs.append fun _ hc => isDigit_of_mem_zeros hc)
    exact ⟨_, fun h => readMagnitude_digits negative hwhole h⟩
  split
  · -- The point stands within the digits.
    have hfront : digits.take point.toNat ≠ [] := by
      rw [ne_eq, List.take_eq_nil_iff, not_or]
      exact ⟨by omega, hs.ne_nil⟩
    have hback : digits.drop point.toNat ≠ [] := by
      rw [ne_eq, List.drop_eq_nil_iff]
      omega
    have hwhole := wholePart_of_significant (hs.of_prefix (List.take_prefix _ _) hfront)
    refine ⟨.ofDecimal negative (digits.take point.toNat ++ digits.drop point.toNat)
      (0 - (digits.drop point.toNat).length), fun h => ?_⟩
    have hread := readMagnitude_fraction negative hwhole
      (fun c hc => hs.isDigit c (List.mem_of_mem_drop hc)) hback (hends h)
    rw [takeExponent_of_ends h] at hread
    rw [List.append_assoc, List.cons_append, hread]
  split
  · -- The digits stand behind the point.
    have hdigits : ∀ c ∈ Number.zeros (-point).toNat ++ digits, Number.isDigit c = true := by
      intro c hc
      exact (List.mem_append.mp hc).elim isDigit_of_mem_zeros (hs.isDigit c)
    refine ⟨.ofDecimal negative (['0'] ++ (Number.zeros (-point).toNat ++ digits))
      (0 - (Number.zeros (-point).toNat ++ digits).length), fun h => ?_⟩
    have hread := readMagnitude_fraction negative wholePart_zero hdigits
      (List.append_ne_nil_of_right_ne_nil _ hs.ne_nil) (hends h)
    rw [takeExponent_of_ends h] at hread
    exact hread
  · -- An exponent stands behind the digits.
    obtain ⟨d, ds, rfl⟩ := List.exists_cons_of_ne_nil hs.ne_nil
    have hone : WholePart [d] := wholePart_of_significant
      (hs.of_prefix (List.cons_prefix_cons.mpr ⟨rfl, List.nil_prefix⟩) (List.cons_ne_nil _ _))
    cases ds with
    | nil =>
      refine ⟨.ofDecimal negative [d] (point - 1), fun {rest} h => ?_⟩
      have hread := readMagnitude_whole negative hone (head_exponentChars (point - 1) rest)
      rw [takeExponent_written (point - 1) h] at hread
      exact hread
    | cons d' ds =>
      refine ⟨.ofDecimal negative ([d] ++ d' :: ds) (point - 1 - (d' :: ds).length),
        fun {rest} h => ?_⟩
      have hread := readMagnitude_fraction negative hone
        (fun c hc => hs.isDigit c (List.mem_cons_of_mem _ hc)) (List.cons_ne_nil d' ds)
        fun c hc => (head_exponentChars (point - 1) rest c hc).1
      rw [takeExponent_written (point - 1) h] at hread
      refine Eq.trans ?_ hread
      simp [exponentChars]

theorem head_layout (hs : Significant digits) (point : Int) :
    ∃ c tail, layout digits point = c :: tail ∧ Number.isDigit c = true := by
  obtain ⟨d, ds, rfl⟩ := List.exists_cons_of_ne_nil hs.ne_nil
  have hd : Number.isDigit d = true := hs.isDigit d List.mem_cons_self
  unfold layout
  dsimp only
  split
  · exact ⟨d, _, rfl, hd⟩
  split
  · next hpoint =>
    obtain ⟨k, hk⟩ := Nat.exists_eq_add_one_of_ne_zero (n := point.toNat) (by omega)
    rw [hk]
    exact ⟨d, _, rfl, hd⟩
  split
  · exact ⟨'0', _, rfl, rfl⟩
  · cases ds <;> exact ⟨d, _, rfl, hd⟩

-- ---------------------------------------------------------------------------
-- Numbers
-- ---------------------------------------------------------------------------

/-- The text of the number begins as a number's does, and it reads as `m`. -/
structure ReadsAsNumber (n m : Number) : Prop where
  head : ∃ c tail, numberChars n = c :: tail ∧ (c = '-' ∨ Number.isDigit c = true)
  read : ∀ {rest : List Char}, EndsNumber rest →
    readNumber (numberChars n ++ rest) = some (.number m, rest)

theorem readsAsNumber_ofInt {k : Int} (h : k.natAbs < Number.wholeLimit) :
    ReadsAsNumber (.ofInt k) (.ofInt k) :=
  ⟨head_numberChars h, readNumber_ofInt h⟩

theorem natAbs_div_den {m e : Int} (hq : q = m * 2 ^ e) :
    (q.num.natAbs / q.den : ℚ) = m.natAbs * 2 ^ e := by
  calc (q.num.natAbs / q.den : ℚ) = |(q.num / q.den : ℚ)| := by
        rw [abs_div, Nat.cast_natAbs, Int.cast_abs, Nat.abs_cast]
    _ = |(m : ℚ) * 2 ^ e| := by rw [Rat.num_div_den, hq]
    _ = m.natAbs * 2 ^ e := by
        rw [abs_mul, Nat.cast_natAbs, Int.cast_abs, abs_of_pos (Number.two_zpow_pos e)]

theorem exists_readsAsNumber_layout (hq : ¬ (q.den = 1 ∧ q.num.natAbs < Number.wholeLimit))
    (hb : (Number.finite q).IsBinary64) : ∃ m, ReadsAsNumber (.finite q) m := by
  obtain ⟨m, e, hvalue, hm, he, -⟩ := hb
  have hn : 0 < q.num.natAbs := by
    refine Nat.pos_of_ne_zero fun h => hq ?_
    obtain rfl : q = 0 := Rat.num_eq_zero.mp (Int.natAbs_eq_zero.mp h)
    exact ⟨rfl, by decide⟩
  have hs : Significant (Number.shortestDigits q.num.natAbs q.den).1 :=
    Number.significant_shortestDigits hn q.den_pos hm he (natAbs_div_den hvalue)
  have hchars : numberChars (.finite q) = (if q.num < 0 then ['-'] else []) ++
      layout (Number.shortestDigits q.num.natAbs q.den).1
        (Number.shortestDigits q.num.natAbs q.den).2 := by
    rw [numberChars, Number.chars, Number.finiteText, if_neg hq]
    rfl
  generalize (Number.shortestDigits q.num.natAbs q.den).1 = digits at hs hchars
  generalize (Number.shortestDigits q.num.natAbs q.den).2 = point at hchars
  obtain ⟨c, tail, hc, hdigit⟩ := head_layout hs point
  obtain ⟨m, hread⟩ := readMagnitude_layout (decide (q.num < 0)) point hs
  refine ⟨m, ?_, fun {rest} h => ?_⟩
  · rw [hchars, hc]
    split
    · exact ⟨'-', c :: tail, rfl, .inl rfl⟩
    · exact ⟨c, tail, rfl, .inr hdigit⟩
  · rw [hchars]
    have hread := hread h
    by_cases hneg : q.num < 0
    · rw [decide_eq_true hneg] at hread
      rw [if_pos hneg, List.append_assoc, List.singleton_append, readNumber, hread]
    · rw [decide_eq_false hneg, hc, List.cons_append] at hread
      rw [if_neg hneg, List.nil_append, hc, List.cons_append, readNumber_of_digit hdigit, hread]

/-- The text of a finite binary64 value reads as a number. -/
theorem exists_readsAsNumber (hb : n.IsBinary64) (hf : n.isFinite = true) :
    ∃ m, ReadsAsNumber n m := by
  cases n with
  | finite q =>
    by_cases hq : q.den = 1 ∧ q.num.natAbs < Number.wholeLimit
    · have hwhole : Number.finite q = .ofInt q.num := by
        rw [Number.ofInt, Rat.coe_int_num_of_den_eq_one hq.1]
      rw [hwhole]
      exact ⟨_, readsAsNumber_ofInt hq.2⟩
    · exact exists_readsAsNumber_layout hq hb
  | negZero =>
    have hzero : numberChars .negZero = numberChars (.ofInt 0) := rfl
    obtain ⟨hhead, hread⟩ := readsAsNumber_ofInt (k := 0) (by decide)
    rw [← hzero] at hhead hread
    exact ⟨.ofInt 0, hhead, hread⟩
  | infinity negative => cases hf
  | nan => cases hf

end AgentPlans.Json
