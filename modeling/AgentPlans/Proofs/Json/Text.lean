import AgentPlans.Json.Printer
import AgentPlans.Json.Reader
import AgentPlans.Proofs.Text.Utf16

/-!
# Texts read back

`readText_quoted`: a text between quotes reads back as itself, whatever it
holds. One lemma reads back one escaped character, another an escaped unit.
-/

namespace AgentPlans.Json

variable {c : Char} {before : List UInt16} {rest : List Char}

theorem hexDigit?_hexDigitChar : ∀ n < 16, Text.hexDigit? (hexDigitChar n) = some n := by
  decide

theorem readText_escapeUnit (unit : UInt16) :
    readText before (escapeUnit unit ++ rest) = readText (unit :: before) rest := by
  have hlt := unit.toNat_lt
  have hdigits : ((unit.toNat / 0x1000 * 16 + unit.toNat / 0x100 % 16) * 16 +
      unit.toNat / 16 % 16) * 16 + unit.toNat % 16 = unit.toNat := by omega
  have hunit : unit? (hexDigitChar (unit.toNat / 0x1000)) (hexDigitChar (unit.toNat / 0x100 % 16))
      (hexDigitChar (unit.toNat / 16 % 16)) (hexDigitChar (unit.toNat % 16)) = some unit := by
    rw [unit?, hexDigit?_hexDigitChar _ (by omega), hexDigit?_hexDigitChar _ (by omega),
      hexDigit?_hexDigitChar _ (by omega), hexDigit?_hexDigitChar _ (by omega)]
    simp only [bind, Option.bind, pure, hdigits, UInt16.ofNat_toNat]
  simp only [escapeUnit, List.cons_append, List.nil_append, readText, hunit]

theorem char_of_toNat {n : Nat} (h : c.toNat = n) : c = Char.ofNat n := by
  rw [← h, Char.ofNat_toNat]

theorem readText_shortEscape {mark : Char} (hu : mark ≠ 'u') (h : shortEscape? mark = some c) :
    readText before ('\\' :: mark :: rest) =
      readText ((Text.units c).reverse ++ before) rest := by
  simp [readText, hu, h]

theorem readText_escapeChar :
    readText before (escapeChar c ++ rest) =
      readText ((Text.units c).reverse ++ before) rest := by
  unfold escapeChar
  split
  · next h =>
    subst h
    exact readText_shortEscape (by decide) rfl
  split
  · next h =>
    subst h
    exact readText_shortEscape (by decide) rfl
  split
  · next hcontrol =>
    -- Of the controls, five have a letter of their own; the others are written as units.
    split
    · next h =>
      subst h
      exact readText_shortEscape (by decide) rfl
    split
    · next h =>
      subst h
      exact readText_shortEscape (by decide) rfl
    split
    · next h =>
      subst h
      exact readText_shortEscape (by decide) rfl
    split
    · next h =>
      rw [char_of_toNat h]
      exact readText_shortEscape (by decide) rfl
    split
    · next h =>
      rw [char_of_toNat h]
      exact readText_shortEscape (by decide) rfl
    · rw [readText_escapeUnit, Text.units_of_lt (by omega)]
      rfl
  · next _ hbackslash hcontrol => simp [readText, hbackslash, hcontrol]

theorem readText_escapeSign (sign : Sign) :
    readText before (escapeSign sign ++ rest) = readText (sign.units.reverse ++ before) rest := by
  cases sign with
  | char c => exact readText_escapeChar
  | half unit => exact readText_escapeUnit unit

theorem readText_escaped (signs : List Sign) :
    readText before (signs.flatMap escapeSign ++ '"' :: rest) =
      some (⟨before.reverse ++ signs.flatMap Sign.units⟩, rest) := by
  induction signs generalizing before with
  | nil => simp [readText]
  | cons sign signs ih =>
    rw [List.flatMap_cons, List.append_assoc, readText_escapeSign, ih]
    simp

/-- A quoted text, past its first quote, reads back as the text. -/
theorem readText_quoted (t : Utf16) :
    readText [] (t.signs.flatMap escapeSign ++ '"' :: rest) = some (t, rest) := by
  rw [readText_escaped, List.reverse_nil, List.nil_append, t.units_signs]

end AgentPlans.Json
