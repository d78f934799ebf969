import Mathlib.Data.List.Lex
import Mathlib.Data.String.Basic

/-!
# Texts and their octets in order

Texts compare by their characters, and octets compare the texts in the same way:
`utf8_lt_utf8` says that one text is before another exactly if its octets in
UTF-8 are.
-/

namespace AgentPlans.Text

def utf8 (s : String) : List Nat := s.toUTF8.data.toList.map (·.toNat)

def characterOctets (n : Nat) : List Nat :=
  if n ≤ 127 then [n]
  else if n ≤ 2047 then [192 + n / 64, 128 + n % 64]
  else if n ≤ 65535 then [224 + n / 4096, 128 + n / 64 % 64, 128 + n % 64]
  else [240 + n / 262144, 128 + n / 4096 % 64, 128 + n / 64 % 64, 128 + n % 64]

variable {cs ds : List Char} {s t : String}

theorem toNat_le_max (c : Char) : c.toNat ≤ 1114111 := by
  have hvalid : c.toNat < 55296 ∨ 57343 < c.toNat ∧ c.toNat < 1114112 := c.valid
  omega

theorem map_utf8EncodeChar (c : Char) :
    (String.utf8EncodeChar c).map (·.toNat) = characterOctets c.toNat := by
  have hmax := toNat_le_max c
  have hval : c.val.toNat = c.toNat := rfl
  simp only [String.utf8EncodeChar, characterOctets, hval]
  split
  · simp
    omega
  split
  · simp
    omega
  split
  · simp
    omega
  · simp
    omega

theorem utf8_eq (s : String) : utf8 s = s.toList.flatMap fun c => characterOctets c.toNat := by
  have hencoded : s.toByteArray = (s.toList.flatMap String.utf8EncodeChar).toByteArray := by
    rw [← List.utf8Encode, ← String.toByteArray_ofList, String.ofList_toList]
  rw [utf8, String.toUTF8_eq_toByteArray, hencoded, List.toList_data_toByteArray, List.map_flatMap]
  simp only [map_utf8EncodeChar]

theorem characterOctets_lt {m n : Nat} (h : m < n) (hn : n ≤ 1114111) (xs ys : List Nat) :
    characterOctets m ++ xs < characterOctets n ++ ys := by
  unfold characterOctets
  -- The first octet grows with the number of octets; among as many, the octets are base-64 digits.
  split_ifs <;> simp only [List.cons_append, List.cons_lt_cons_iff] <;> omega

theorem flatMap_characterOctets_lt (h : cs < ds) :
    cs.flatMap (fun c => characterOctets c.toNat) <
      ds.flatMap fun c => characterOctets c.toNat := by
  induction cs generalizing ds with
  | nil =>
    cases ds with
    | nil => exact absurd h (lt_irrefl _)
    | cons d ds =>
      rw [List.flatMap_nil, List.flatMap_cons]
      unfold characterOctets
      split_ifs <;> exact List.nil_lt_cons _ _
  | cons c cs ih =>
    cases ds with
    | nil => exact absurd h (List.not_lt_nil _)
    | cons d ds =>
      rw [List.flatMap_cons, List.flatMap_cons]
      rcases List.cons_lt_cons_iff.mp h with hcd | ⟨rfl, hrest⟩
      · exact characterOctets_lt hcd (toNat_le_max d) _ _
      · exact List.append_left_lt (ih hrest)

/-- Octets are in the order of the texts. -/
theorem utf8_lt_utf8 : utf8 s < utf8 t ↔ s < t := by
  have hmono : StrictMono utf8 := by
    intro s t h
    rw [utf8_eq, utf8_eq]
    exact flatMap_characterOctets_lt (String.lt_iff_toList_lt.mp h)
  exact hmono.lt_iff_lt

end AgentPlans.Text
