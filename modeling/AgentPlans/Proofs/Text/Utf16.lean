import AgentPlans.Text.Utf16

/-!
# What units form

`Utf16.units_signs`: what the units of a text form has just these units, so no
text loses anything when it is taken apart into characters and halves. The units
of characters form the characters (`signs_ofString`): a text of characters alone
is determined by its units, and there is nothing to replace in it.
-/

namespace AgentPlans

variable {c : Char} {high low unit : UInt16} {rest : List UInt16} {s t : String}

namespace Text

theorem units_of_lt (h : c.toNat < 0x10000) : units c = [.ofNat c.toNat] := by
  simp [units, unitsOf, h]

theorem units_of_le (h : 0x10000 ≤ c.toNat) : units c =
    [.ofNat (0xD800 + (c.toNat - 0x10000) / 0x400),
      .ofNat (0xDC00 + (c.toNat - 0x10000) % 0x400)] := by
  simp [units, unitsOf, Nat.not_lt.mpr h]

end Text

namespace Utf16

/-- No half of a character stands alone. -/
def Whole (u : Utf16) : Prop := ∀ unit, Sign.half unit ∉ u.signs

theorem isHigh_iff : isHigh unit = true ↔ 0xD800 ≤ unit.toNat ∧ unit.toNat < 0xDC00 := by
  simp [isHigh, UInt16.le_iff_toNat_le, UInt16.lt_iff_toNat_lt]

theorem isLow_iff : isLow unit = true ↔ 0xDC00 ≤ unit.toNat ∧ unit.toNat < 0xE000 := by
  simp [isLow, UInt16.le_iff_toNat_le, UInt16.lt_iff_toNat_lt]

theorem toNat_char_valid (c : Char) : c.toNat < 0xD800 ∨ 0xDFFF < c.toNat ∧ c.toNat < 0x110000 :=
  c.valid

theorem toNat_charOfNat {n : Nat} (h : n < 0xD800 ∨ 0xDFFF < n ∧ n < 0x110000) :
    (Char.ofNat n).toNat = n := by
  rw [Char.ofNat, dif_pos h]
  rfl

theorem toNat_unitOfNat {n : Nat} (h : n < 0x10000) : (UInt16.ofNat n).toNat = n :=
  UInt16.toNat_ofNat_of_lt h

-- ---------------------------------------------------------------------------
-- Characters
-- ---------------------------------------------------------------------------

theorem signsOf_units : signsOf (Text.units c ++ rest) = .char c :: signsOf rest := by
  have hvalid := toNat_char_valid c
  rcases Nat.lt_or_ge c.toNat 0x10000 with h | h
  · have hunit : (UInt16.ofNat c.toNat).toNat = c.toNat := toNat_unitOfNat h
    have hhigh : isHigh (.ofNat c.toNat) = false := by
      rw [Bool.eq_false_iff, Ne, isHigh_iff, hunit]
      omega
    have hlow : isLow (.ofNat c.toNat) = false := by
      rw [Bool.eq_false_iff, Ne, isLow_iff, hunit]
      omega
    have halone : alone (.ofNat c.toNat) = .char c := by
      rw [alone, hhigh, hlow, hunit, Char.ofNat_toNat]
      rfl
    rw [Text.units_of_lt h, List.singleton_append]
    cases rest with
    | nil => simp [signsOf, halone]
    | cons next rest => simp [signsOf, halone, hhigh]
  · have hfirst : (UInt16.ofNat (0xD800 + (c.toNat - 0x10000) / 0x400)).toNat =
        0xD800 + (c.toNat - 0x10000) / 0x400 := toNat_unitOfNat (by omega)
    have hsecond : (UInt16.ofNat (0xDC00 + (c.toNat - 0x10000) % 0x400)).toNat =
        0xDC00 + (c.toNat - 0x10000) % 0x400 := toNat_unitOfNat (by omega)
    have hhigh : isHigh (.ofNat (0xD800 + (c.toNat - 0x10000) / 0x400)) = true := by
      rw [isHigh_iff, hfirst]
      omega
    have hlow : isLow (.ofNat (0xDC00 + (c.toNat - 0x10000) % 0x400)) = true := by
      rw [isLow_iff, hsecond]
      omega
    have hjoin : join (.ofNat (0xD800 + (c.toNat - 0x10000) / 0x400))
        (.ofNat (0xDC00 + (c.toNat - 0x10000) % 0x400)) = c := by
      have hcode : 0x10000 + (0xD800 + (c.toNat - 0x10000) / 0x400 - 0xD800) * 0x400 +
          (0xDC00 + (c.toNat - 0x10000) % 0x400 - 0xDC00) = c.toNat := by omega
      rw [join, hfirst, hsecond, hcode, Char.ofNat_toNat]
    rw [Text.units_of_le h, List.cons_append, List.singleton_append, signsOf, hhigh, hlow, hjoin]
    rfl

theorem signs_ofString (s : String) : (ofString s).signs = s.toList.map .char := by
  rw [signs, ofString]
  induction s.toList with
  | nil => rfl
  | cons c cs ih => rw [List.flatMap_cons, signsOf_units, ih, List.map_cons]

@[simp]
theorem repaired_ofString (s : String) : (ofString s).repaired = s := by
  simp [repaired, signs_ofString, Function.comp_def, Sign.repaired]

@[simp]
theorem ofString_inj : ofString s = ofString t ↔ s = t := by
  constructor
  · intro h
    rw [← repaired_ofString s, h, repaired_ofString]
  · rintro rfl
    rfl

@[simp]
theorem isBlank_ofString (s : String) : (ofString s).isBlank = Text.isBlankText s := by
  rw [isBlank, repaired_ofString]

theorem isBlank_iff {u : Utf16} : u.isBlank = true ↔ Text.trim u.repaired = "" :=
  (Text.trim_eq_empty_iff u.repaired).symm

-- ---------------------------------------------------------------------------
-- All units
-- ---------------------------------------------------------------------------

theorem units_alone (unit : UInt16) : (alone unit).units = [unit] := by
  unfold alone
  split
  · rfl
  · next h =>
    simp only [Bool.or_eq_true, isHigh_iff, isLow_iff] at h
    have hlt := unit.toNat_lt
    have hcode : (Char.ofNat unit.toNat).toNat = unit.toNat := toNat_charOfNat (by omega)
    rw [Sign.units, Text.units_of_lt (by omega), hcode, UInt16.ofNat_toNat]

theorem units_join (hhigh : isHigh high = true) (hlow : isLow low = true) :
    Text.units (join high low) = [high, low] := by
  rw [isHigh_iff] at hhigh
  rw [isLow_iff] at hlow
  have hcode : (join high low).toNat =
      0x10000 + (high.toNat - 0xD800) * 0x400 + (low.toNat - 0xDC00) :=
    toNat_charOfNat (by omega)
  have hfirst : 0xD800 + ((join high low).toNat - 0x10000) / 0x400 = high.toNat := by omega
  have hsecond : 0xDC00 + ((join high low).toNat - 0x10000) % 0x400 = low.toNat := by omega
  rw [Text.units_of_le (by omega), hfirst, hsecond, UInt16.ofNat_toNat, UInt16.ofNat_toNat]

theorem units_signs (u : Utf16) : u.signs.flatMap Sign.units = u.units := by
  unfold signs
  induction u.units using signsOf.induct with
  | case1 => rfl
  | case2 unit => simp [signsOf, units_alone]
  | case3 first second rest hpair ih =>
    simp only [Bool.and_eq_true] at hpair
    simp [signsOf, hpair, ih, Sign.units, units_join hpair.1 hpair.2]
  | case4 first second rest hpair ih => simp [signsOf, hpair, ih, units_alone]

/-- A text of characters alone is the text of its characters. -/
theorem whole_iff {u : Utf16} : u.Whole ↔ ofString u.repaired = u := by
  constructor
  · intro h
    have hunits : ∀ sign ∈ u.signs, Text.units sign.repaired = sign.units := by
      intro sign hsign
      cases sign with
      | char c => rfl
      | half unit => exact absurd hsign (h unit)
    have hsame : (u.signs.map Sign.repaired).flatMap Text.units = u.units := by
      rw [← u.units_signs, List.flatMap_map, List.flatMap, List.flatMap,
        List.map_congr_left hunits]
    rw [ofString, repaired, String.toList_ofList, hsame]
  · intro h unit hmem
    rw [← h, signs_ofString] at hmem
    simp at hmem

@[simp]
theorem whole_ofString (s : String) : (ofString s).Whole := by
  rw [whole_iff, repaired_ofString]

end Utf16

end AgentPlans
