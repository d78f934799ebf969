import AgentPlans.Json.Printer
import AgentPlans.Proofs.Text.Digits

/-!
# Data on one line

`newline_notMem_chars`: the compact form of a value holds no line feed, whatever
texts and numbers are in it. So a file of such values has a value a line.
-/

namespace AgentPlans

namespace Number

variable {digits : List Char} {num den n : Nat}

theorem newline_notMem_toDigits (n : Nat) : '\n' ∉ Nat.toDigits 10 n := by
  intro h
  have : Char.isDigit '\n' = true := Nat.isDigit_of_mem_toDigits (by decide) (by decide) h
  contradiction

theorem newline_notMem_digitsOf (n : Nat) : '\n' ∉ digitsOf n := by
  unfold digitsOf
  split
  · simp
  · exact newline_notMem_toDigits n

theorem newline_notMem_dropTrailingZeros (h : '\n' ∉ digits) :
    '\n' ∉ dropTrailingZeros digits := by
  intro hmem
  have := (List.dropWhile_sublist _).subset (List.mem_reverse.mp hmem)
  exact h (List.mem_reverse.mp this)

theorem newline_notMem_zeros (n : Nat) : '\n' ∉ zeros n := by
  simp [zeros]

theorem newline_notMem_layout (h : '\n' ∉ digits) (point : Int) : '\n' ∉ layout digits point := by
  simp only [layout]
  split
  · simp [h, newline_notMem_zeros]
  split
  · have htake : '\n' ∉ digits.take point.toNat := fun hm => h (List.mem_of_mem_take hm)
    have hdrop : '\n' ∉ digits.drop point.toNat := fun hm => h (List.mem_of_mem_drop hm)
    simp [htake, hdrop]
  split
  · simp [h, newline_notMem_zeros]
  · have hexponent : '\n' ∉ (if point - 1 < 0 then '-' else '+') ::
        Nat.toDigits 10 (point - 1).natAbs := by
      split <;> simp [newline_notMem_toDigits]
    cases digits with
    | nil => simp
    | cons d rest =>
      cases rest with
      | nil => simp_all
      | cons d' rest => simp_all

theorem newline_notMem_finiteText (q : Rat) : '\n' ∉ finiteText q := by
  have hsign : '\n' ∉ (if q.num < 0 then ['-'] else []) := by
    split <;> simp
  have hshortest : '\n' ∉ (shortestDigits q.num.natAbs q.den).1 :=
    newline_notMem_dropTrailingZeros (newline_notMem_digitsOf _)
  simp only [finiteText]
  split
  · simp only [List.mem_append, hsign, newline_notMem_toDigits, or_self, not_false_eq_true]
  · simp only [List.mem_append, hsign, newline_notMem_layout hshortest, or_self,
      not_false_eq_true]

theorem newline_notMem_chars (a : Number) : '\n' ∉ a.chars := by
  cases a with
  | finite q => exact newline_notMem_finiteText q
  | negZero => decide
  | infinity negative => cases negative <;> decide
  | nan => decide

end Number

namespace Json

theorem newline_ne_hexDigitChar : ∀ n < 16, '\n' ≠ hexDigitChar n := by
  decide

theorem newline_notMem_escapeUnit (unit : UInt16) : '\n' ∉ escapeUnit unit := by
  have hlt := unit.toNat_lt
  have h1 := newline_ne_hexDigitChar (unit.toNat / 0x1000) (by omega)
  have h2 := newline_ne_hexDigitChar (unit.toNat / 0x100 % 16) (by omega)
  have h3 := newline_ne_hexDigitChar (unit.toNat / 16 % 16) (by omega)
  have h4 := newline_ne_hexDigitChar (unit.toNat % 16) (by omega)
  simp [escapeUnit, h1, h2, h3, h4]

theorem newline_notMem_escapeChar (c : Char) : '\n' ∉ escapeChar c := by
  unfold escapeChar
  split
  · decide
  split
  · decide
  split
  · next hcontrol =>
    split
    · decide
    split
    · decide
    split
    · decide
    split
    · decide
    split
    · decide
    · exact newline_notMem_escapeUnit _
  · next hcontrol =>
    rintro h
    rw [← List.mem_singleton.mp h] at hcontrol
    exact hcontrol (by decide)

theorem newline_notMem_escapeSign (sign : Sign) : '\n' ∉ escapeSign sign := by
  cases sign with
  | char c => exact newline_notMem_escapeChar c
  | half unit => exact newline_notMem_escapeUnit unit

theorem newline_notMem_quoted (t : Utf16) : '\n' ∉ quoted t := by
  simp [quoted, newline_notMem_escapeSign]

theorem newline_notMem_numberChars (n : Number) : '\n' ∉ numberChars n := by
  unfold numberChars
  split
  · exact n.newline_notMem_chars
  · decide

mutual
theorem newline_notMem_chars : (v : Json) → '\n' ∉ v.chars
  | .null => by simp only [chars]; decide
  | .bool b => by cases b <;> simp only [chars] <;> decide
  | .number n => by simpa only [chars] using newline_notMem_numberChars n
  | .string s => by simpa only [chars] using newline_notMem_quoted s
  | .array [] => by simp only [chars]; decide
  | .array (item :: items) => by
    simp [chars, newline_notMem_chars item, newline_notMem_itemChars items]
  | .object [] => by simp only [chars]; decide
  | .object ((name, value) :: members) => by
    simp [chars, memberChars, newline_notMem_quoted, newline_notMem_chars value,
      newline_notMem_membersChars members]
theorem newline_notMem_itemChars : (items : List Json) → '\n' ∉ itemChars items
  | [] => by simp only [itemChars]; decide
  | item :: items => by
    simp [itemChars, newline_notMem_chars item, newline_notMem_itemChars items]
theorem newline_notMem_membersChars : (members : List (String × Json)) →
    '\n' ∉ membersChars members
  | [] => by simp only [membersChars]; decide
  | (name, value) :: members => by
    simp [membersChars, memberChars, newline_notMem_quoted, newline_notMem_chars value,
      newline_notMem_membersChars members]
end

end Json

end AgentPlans
