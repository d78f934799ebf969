import AgentPlans.Json.Printer
import AgentPlans.Json.Reader
import AgentPlans.Proofs.Number.Literal

/-!
# Whole numbers read back

`readNumber_ofInt`: a whole number below `2^53` in magnitude reads back as
itself in front of anything that cannot go on with it. Nothing is claimed of
fractions or of greater numbers, whose shortest text takes rounding to read.
-/

namespace AgentPlans

namespace Number

variable {n : Nat} {digits : List Char}

theorem ofDigits_toDigits (n : Nat) : ofDigits (Nat.toDigits 10 n) = n :=
  Nat.ofDigitChars_ten_toDigits

theorem isDigit_of_mem_toDigits {c : Char} (h : c ∈ Nat.toDigits 10 n) : isDigit c = true :=
  Nat.isDigit_of_mem_toDigits (by decide) (by decide) h

theorem head_toDigits (h : 0 < n) : (Nat.toDigits 10 n).head? ≠ some '0' := by
  induction n using Nat.strongRecOn with
  | ind n ih =>
    by_cases hn : n < 10
    · rw [Nat.toDigits_of_lt_base hn]
      simp only [List.head?_cons, ne_eq, Option.some.injEq, Nat.digitChar_eq_zero]
      omega
    · rw [Nat.toDigits_of_base_le (by decide) (by omega), List.head?_append]
      have hq : 0 < n / 10 := by omega
      obtain ⟨c, cs, hc⟩ := List.exists_cons_of_ne_nil (Nat.toDigits_ne_nil (n := n / 10) (b := 10))
      have := ih (n / 10) (by omega) hq
      simp_all

theorem dropWhile_toDigits (h : 0 < n) :
    (Nat.toDigits 10 n).dropWhile (· == '0') = Nat.toDigits 10 n := by
  obtain ⟨c, cs, hc⟩ := List.exists_cons_of_ne_nil (Nat.toDigits_ne_nil (n := n) (b := 10))
  have hhead := head_toDigits h
  rw [hc] at hhead ⊢
  rw [List.dropWhile_cons, if_neg (by simpa using hhead)]

theorem nearest_whole (negative : Bool) (hp : 0 < n) (h : n < wholeLimit) :
    nearest negative n 1 = .ofInt (if negative then -(n : Int) else n) := by
  rw [nearest, if_neg (by omega), if_pos ⟨rfl, by omega⟩]

theorem ofDecimal_toDigits (negative : Bool) (hp : 0 < n) (h : n < wholeLimit) :
    ofDecimal negative (Nat.toDigits 10 n) 0 = .ofInt (if negative then -(n : Int) else n) := by
  have hlen : (Nat.toDigits 10 n).length ≤ 16 := by
    rw [Nat.length_toDigits_le_iff (by decide) (by decide)]
    exact Nat.lt_of_lt_of_le h (by decide)
  have hne : Nat.toDigits 10 n ≠ [] := Nat.toDigits_ne_nil
  rw [ofDecimal, dropWhile_toDigits hp]
  rw [if_neg (by simp only [hne, false_or]; omega), if_neg (by omega)]
  simp [scaled, ofDigits_toDigits, nearest_whole negative hp h]

theorem chars_ofInt (n : Int) (h : n.natAbs < wholeLimit) :
    chars (.ofInt n) = (if n < 0 then ['-'] else []) ++ Nat.toDigits 10 n.natAbs := by
  simp [chars, ofInt, finiteText, h]
  rfl

end Number

namespace Json

variable {digits rest : List Char}

def EndsNumber (rest : List Char) : Prop :=
  ∀ c ∈ rest.head?, Number.isDigit c = false ∧ c ≠ '.' ∧ c ≠ 'e' ∧ c ≠ 'E'

theorem takeExponent_of_ends (h : EndsNumber rest) : Number.takeExponent rest = (0, rest) := by
  cases rest with
  | nil => rfl
  | cons c rest =>
    obtain ⟨-, -, he, hE⟩ := h c rfl
    simp [Number.takeExponent, he, hE]

structure WholePart (digits : List Char) : Prop where
  isDigit : ∀ c ∈ digits, Number.isDigit c = true
  ne_nil : digits ≠ []
  head : digits.head? = some '0' → digits = ['0']

theorem WholePart.take (h : WholePart digits) (hr : ∀ c ∈ rest.head?, Number.isDigit c = false) :
    (match digits ++ rest with
      | '0' :: after => (['0'], after)
      | _ => ((digits ++ rest).takeWhile Number.isDigit,
          (digits ++ rest).dropWhile Number.isDigit)) = (digits, rest) := by
  split
  · next after hcs =>
    obtain ⟨c, ds, rfl⟩ := List.exists_cons_of_ne_nil h.ne_nil
    obtain ⟨rfl, hafter⟩ := List.cons.inj hcs
    have hds : ds = [] := by simpa using h.head rfl
    subst hds
    rw [← hafter]
    rfl
  · obtain ⟨ht, hd⟩ := Number.takeWhile_isDigit h.isDigit hr
    rw [ht, hd]

theorem readMagnitude_whole (negative : Bool) (h : WholePart digits)
    (hr : ∀ c ∈ rest.head?, Number.isDigit c = false ∧ c ≠ '.') :
    readMagnitude negative (digits ++ rest) =
      some (.number (Number.ofDecimal negative digits (Number.takeExponent rest).1),
        (Number.takeExponent rest).2) := by
  unfold readMagnitude
  split
  next whole afterWhole heq =>
    have htake := heq.symm.trans (h.take fun c hc => (hr c hc).1)
    obtain ⟨rfl, rfl⟩ := Prod.mk.inj htake
    rw [if_neg h.ne_nil]
    split
    next fraction after heq =>
      split at heq
      · next after => exact absurd rfl (hr '.' rfl).2
      · obtain ⟨rfl, rfl⟩ := Prod.mk.inj heq
        simp

theorem readMagnitude_fraction (negative : Bool) (h : WholePart digits) {fraction : List Char}
    (hf : ∀ c ∈ fraction, Number.isDigit c = true) (hne : fraction ≠ [])
    (hr : ∀ c ∈ rest.head?, Number.isDigit c = false) :
    readMagnitude negative (digits ++ '.' :: (fraction ++ rest)) =
      some (.number (Number.ofDecimal negative (digits ++ fraction)
        ((Number.takeExponent rest).1 - fraction.length)), (Number.takeExponent rest).2) := by
  unfold readMagnitude
  split
  next whole afterWhole heq =>
    have htake := heq.symm.trans (h.take (by rintro c ⟨⟩; rfl))
    obtain ⟨rfl, rfl⟩ := Prod.mk.inj htake
    rw [if_neg h.ne_nil]
    obtain ⟨ht, hd⟩ := Number.takeWhile_isDigit hf hr
    obtain ⟨c, cs, rfl⟩ := List.exists_cons_of_ne_nil hne
    simp only [ht, hd]

theorem readMagnitude_digits (negative : Bool) (hd : WholePart digits) (h : EndsNumber rest) :
    readMagnitude negative (digits ++ rest) =
      some (.number (Number.ofDecimal negative digits 0), rest) := by
  rw [readMagnitude_whole negative hd fun c hc => ⟨(h c hc).1, (h c hc).2.1⟩,
    takeExponent_of_ends h]

theorem wholePart_toDigits {n : Nat} (h : 0 < n) : WholePart (Nat.toDigits 10 n) :=
  ⟨fun _ hc => Number.isDigit_of_mem_toDigits hc, Nat.toDigits_ne_nil,
    fun hz => absurd hz (Number.head_toDigits h)⟩

theorem wholePart_zero : WholePart ['0'] := by
  refine ⟨?_, List.cons_ne_nil _ _, fun _ => rfl⟩
  intro c hc
  rw [List.mem_singleton.mp hc]
  rfl

theorem readNumber_of_digit {c : Char} (h : Number.isDigit c = true) :
    readNumber (c :: rest) = readMagnitude false (c :: rest) := by
  rw [readNumber]
  rintro tail heq
  obtain ⟨rfl, -⟩ := List.cons.inj heq
  exact absurd h (by decide)

theorem readNumber_ofInt {n : Int} (hn : n.natAbs < Number.wholeLimit) (h : EndsNumber rest) :
    readNumber (numberChars (.ofInt n) ++ rest) = some (.number (.ofInt n), rest) := by
  have hchars : numberChars (.ofInt n) =
      (if n < 0 then ['-'] else []) ++ Nat.toDigits 10 n.natAbs := by
    exact Number.chars_ofInt n hn
  have hread : ∀ negative, 0 < n.natAbs →
      readMagnitude negative (Nat.toDigits 10 n.natAbs ++ rest) =
        some (.number (.ofInt (if negative then -(n.natAbs : Int) else n.natAbs)), rest) := by
    intro negative hp
    rw [readMagnitude_digits negative (wholePart_toDigits hp) h,
      Number.ofDecimal_toDigits negative hp hn]
  rw [hchars]
  rcases Int.lt_trichotomy n 0 with hneg | rfl | hpos
  · rw [if_pos hneg, List.append_assoc, List.singleton_append, readNumber,
      hread true (by omega)]
    have hn : -(n.natAbs : Int) = n := by omega
    rw [if_pos rfl, hn]
  · have hzero : readMagnitude false (['0'] ++ rest) =
        some (.number (.ofDecimal false ['0'] 0), rest) :=
      readMagnitude_digits false wholePart_zero h
    exact hzero
  · obtain ⟨c, cs, hc⟩ := List.exists_cons_of_ne_nil
      (Nat.toDigits_ne_nil (n := n.natAbs) (b := 10))
    have hdigit := Number.isDigit_of_mem_toDigits (n := n.natAbs) (hc ▸ List.mem_cons_self)
    have hpositive := hread false (by omega)
    rw [hc, List.cons_append] at hpositive
    have hn : (n.natAbs : Int) = n := by omega
    rw [if_neg (by omega), List.nil_append, hc, List.cons_append, readNumber_of_digit hdigit,
      hpositive, hn, if_neg Bool.false_ne_true]

theorem head_numberChars {n : Int} (h : n.natAbs < Number.wholeLimit) :
    ∃ c tail, numberChars (.ofInt n) = c :: tail ∧ (c = '-' ∨ Number.isDigit c = true) := by
  have hchars : numberChars (.ofInt n) = _ := Number.chars_ofInt n h
  obtain ⟨c, tail, hc⟩ := List.exists_cons_of_ne_nil (Nat.toDigits_ne_nil (n := n.natAbs) (b := 10))
  have hdigit := Number.isDigit_of_mem_toDigits (n := n.natAbs) (hc ▸ List.mem_cons_self)
  rw [hchars, hc]
  by_cases hn : n < 0
  · exact ⟨'-', c :: tail, by simp [hn], .inl rfl⟩
  · exact ⟨c, tail, by simp [hn], .inr hdigit⟩

end Json

end AgentPlans
