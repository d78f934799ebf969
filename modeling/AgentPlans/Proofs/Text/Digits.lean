import AgentPlans.Number.Literal
import AgentPlans.Text.Decimal
import Mathlib.Algebra.Group.Nat.Defs
import Mathlib.Data.List.Induction

/-!
# Numerals of a fixed width

`padded_eq_digits`: a number that fits into a width is written with exactly so
many digits. `ofDigits_digits` reads it back, and `digitsBefore_digits` says
that numerals of one width are in the order of their numbers.

`DigitsBefore` is how texts compare that agree up to a digit and have a lesser
digit there on one side. It outlasts whatever is put around both texts.
-/

namespace AgentPlans.Text

variable {width a b n : Nat} {cs ds : List Char} {c : Char}

def digits : Nat → Nat → List Char
  | 0, _ => []
  | width + 1, n => digits width (n / 10) ++ [Nat.digitChar (n % 10)]

theorem digits_zero (width : Nat) : digits width 0 = List.replicate width '0' := by
  induction width with
  | zero => rfl
  | succ width ih =>
    rw [digits, Nat.zero_div, ih, List.replicate_succ']
    rfl

@[simp] theorem length_digits (width n : Nat) : (digits width n).length = width := by
  induction width generalizing n with
  | zero => rfl
  | succ width ih => rw [digits, List.length_append, ih, List.length_singleton]

theorem leftpad_append_singleton :
    (cs ++ [c]).leftpad (width + 1) '0' = cs.leftpad width '0' ++ [c] := by
  simp [List.leftpad]

theorem padded_eq_digits (hw : 0 < width) (h : n < 10 ^ width) :
    padded width n = digits width n := by
  induction width generalizing n with
  | zero => omega
  | succ width ih =>
    unfold padded decimalChars
    by_cases hn : n < 10
    · rw [Nat.toDigits_of_lt_base hn, digits, Nat.div_eq_of_lt hn, Nat.mod_eq_of_lt hn, digits_zero]
      simp [List.leftpad]
    · have hwidth : 0 < width := by
        rcases Nat.eq_zero_or_pos width with rfl | hpos
        · omega
        · exact hpos
      have hquotient : n / 10 < 10 ^ width := by
        rw [Nat.pow_succ] at h
        omega
      rw [Nat.toDigits_of_base_le (by decide) (by omega),
        leftpad_append_singleton, digits, ← ih hwidth hquotient]
      rfl

-- ---------------------------------------------------------------------------
-- Reading
-- ---------------------------------------------------------------------------

theorem isDigit_digitChar : ∀ d < 10, Number.isDigit (Nat.digitChar d) = true := by
  decide

theorem digitValue_digitChar : ∀ d < 10, Number.digitValue (Nat.digitChar d) = d := by
  decide

theorem toNat_digitChar : ∀ d < 10, (Nat.digitChar d).toNat = 48 + d := by
  decide

theorem mem_digits (h : c ∈ digits width n) : ∃ d < 10, c = Nat.digitChar d := by
  induction width generalizing n with
  | zero => simp [digits] at h
  | succ width ih =>
    rcases List.mem_append.mp h with h | h
    · exact ih h
    · exact ⟨n % 10, Nat.mod_lt n (by decide), List.mem_singleton.mp h⟩

theorem isDigit_of_mem_digits (h : c ∈ digits width n) : Number.isDigit c = true := by
  obtain ⟨d, hd, rfl⟩ := mem_digits h
  exact isDigit_digitChar d hd

theorem digits_eq_cons (hw : 0 < width) (n : Nat) :
    ∃ d < 10, ∃ tail, digits width n = Nat.digitChar d :: tail := by
  obtain ⟨c, tail, hc⟩ := List.exists_cons_of_length_pos (l := digits width n) (by simpa using hw)
  have hmem : c ∈ digits width n := hc ▸ List.mem_cons_self
  obtain ⟨d, hd, rfl⟩ := mem_digits hmem
  exact ⟨d, hd, tail, hc⟩

theorem ofDigits_digits (h : n < 10 ^ width) : Number.ofDigits (digits width n) = n := by
  induction width generalizing n with
  | zero =>
    rw [Nat.pow_zero] at h
    simp [digits, Number.ofDigits]
    omega
  | succ width ih =>
    have hquotient : n / 10 < 10 ^ width := by
      rw [Nat.pow_succ] at h
      omega
    have hfold : Number.ofDigits (digits width (n / 10) ++ [Nat.digitChar (n % 10)]) =
        10 * Number.ofDigits (digits width (n / 10)) +
          Number.digitValue (Nat.digitChar (n % 10)) := by
      simp [Number.ofDigits]
    rw [digits, hfold, ih hquotient, digitValue_digitChar _ (Nat.mod_lt n (by decide))]
    omega

theorem exists_digitChar (h : Number.isDigit c = true) : ∃ d < 10, c = Nat.digitChar d := by
  have hbounds : 48 ≤ c.toNat ∧ c.toNat ≤ 57 := by
    simpa [Number.isDigit, Char.le_def, UInt32.le_iff_toNat_le] using h
  refine ⟨c.toNat - 48, by omega, Char.toNat_inj.mp ?_⟩
  rw [toNat_digitChar _ (by omega)]
  omega

theorem toDigits_ofDigits (hne : cs ≠ []) (hd : ∀ c ∈ cs, Number.isDigit c = true)
    (hz : cs.head? ≠ some '0') : Nat.toDigits 10 (Number.ofDigits cs) = cs := by
  induction cs using List.reverseRecOn with
  | nil => exact absurd rfl hne
  | append_singleton cs c ih =>
    obtain ⟨d, hd10, rfl⟩ := exists_digitChar (hd c (by simp))
    have hfold : Number.ofDigits (cs ++ [Nat.digitChar d]) = 10 * Number.ofDigits cs + d := by
      rw [Number.ofDigits, List.foldl_append]
      exact congrArg _ (digitValue_digitChar d hd10)
    rw [hfold]
    cases cs with
    | nil =>
      have hempty : Number.ofDigits [] = 0 := rfl
      rw [hempty, Nat.mul_zero, Nat.zero_add, Nat.toDigits_of_lt_base hd10, List.nil_append]
    | cons first cs =>
      have hz' : (first :: cs).head? ≠ some '0' := hz
      have hinit := ih (List.cons_ne_nil _ _) (fun c hc => hd c (List.mem_append_left _ hc)) hz'
      generalize first :: cs = cs at *
      have hpos : 0 < Number.ofDigits cs := by
        rcases Nat.eq_zero_or_pos (Number.ofDigits cs) with hzero | hpos
        · rw [hzero, Nat.toDigits_zero] at hinit
          rw [← hinit] at hz'
          exact absurd rfl hz'
        · exact hpos
      have hquotient : (10 * Number.ofDigits cs + d) / 10 = Number.ofDigits cs := by omega
      have hremainder : (10 * Number.ofDigits cs + d) % 10 = d := by omega
      rw [Nat.toDigits_of_base_le (by decide) (by omega), hquotient, hremainder, hinit]

theorem ofDigits_dropWhile (cs : List Char) :
    Number.ofDigits (cs.dropWhile (· == '0')) = Number.ofDigits cs := by
  induction cs with
  | nil => rfl
  | cons c cs ih =>
    rw [List.dropWhile_cons]
    split
    · next h =>
      obtain rfl : c = '0' := by simpa using h
      rw [ih]
      rfl
    · rfl

-- ---------------------------------------------------------------------------
-- Order
-- ---------------------------------------------------------------------------

/-- The first difference of the two texts is a digit, and the first text has the lesser one. -/
def DigitsBefore (cs ds : List Char) : Prop :=
  ∃ common a b cs' ds', cs = common ++ Nat.digitChar a :: cs' ∧
    ds = common ++ Nat.digitChar b :: ds' ∧ a < b ∧ b < 10

theorem DigitsBefore.append_left (h : DigitsBefore cs ds) (before : List Char) :
    DigitsBefore (before ++ cs) (before ++ ds) := by
  obtain ⟨common, a, b, cs', ds', rfl, rfl, hab, hb⟩ := h
  exact ⟨before ++ common, a, b, cs', ds', by simp, by simp, hab, hb⟩

theorem DigitsBefore.append_right (h : DigitsBefore cs ds) (cs' ds' : List Char) :
    DigitsBefore (cs ++ cs') (ds ++ ds') := by
  obtain ⟨common, a, b, cs₁, ds₁, rfl, rfl, hab, hb⟩ := h
  exact ⟨common, a, b, cs₁ ++ cs', ds₁ ++ ds', by simp, by simp, hab, hb⟩

theorem digitsBefore_digits (hab : a < b) (hb : b < 10 ^ width) :
    DigitsBefore (digits width a) (digits width b) := by
  induction width generalizing a b with
  | zero =>
    rw [Nat.pow_zero] at hb
    omega
  | succ width ih =>
    rcases Nat.lt_or_ge (a / 10) (b / 10) with hq | hq
    · rw [Nat.pow_succ] at hb
      exact (ih hq (by omega)).append_right _ _
    · have heq : a / 10 = b / 10 := by omega
      rw [digits, digits, heq]
      exact ⟨digits width (b / 10), a % 10, b % 10, [], [], rfl, rfl, by omega, by omega⟩

theorem digitChar_lt : ∀ b < 10, ∀ a < b, Nat.digitChar a < Nat.digitChar b := by
  decide

theorem DigitsBefore.lt (h : DigitsBefore cs ds) : cs < ds := by
  obtain ⟨common, a, b, cs', ds', rfl, rfl, hab, hb⟩ := h
  induction common with
  | nil => exact List.Lex.rel (digitChar_lt b hb a hab)
  | cons c common ih => exact List.Lex.cons ih

end AgentPlans.Text
