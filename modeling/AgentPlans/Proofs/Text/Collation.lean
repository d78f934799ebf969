import AgentPlans.Proofs.Text.Digits
import AgentPlans.Text.Collation
import Mathlib.Data.List.Lex
import Mathlib.Data.Prod.Lex

/-!
# The alphabetical order of ASCII texts

The comparison of collation keys is a linear order on what the keys hold,
`CollationKey.le_iff`. ASCII characters are weighed one by one, and digits in
numeric order. So a text whose first difference from another is a lesser digit
stands before it, `collationKey_lt`, whatever follows.
-/

namespace AgentPlans.Text

variable {as bs common : List Nat} {cs ds : List Char} {codes : List Nat} {a b : CollationKey}

-- ---------------------------------------------------------------------------
-- Keys
-- ---------------------------------------------------------------------------

theorem compareWeights_spec (as bs : List Nat) :
    compareWeights as bs = .lt ∧ as < bs ∨ compareWeights as bs = .eq ∧ as = bs ∨
      compareWeights as bs = .gt ∧ bs < as := by
  induction as generalizing bs with
  | nil =>
    cases bs with
    | nil => exact .inr (.inl ⟨rfl, rfl⟩)
    | cons b bs => exact .inl ⟨rfl, List.nil_lt_cons b bs⟩
  | cons a as ih =>
    cases bs with
    | nil => exact .inr (.inr ⟨rfl, List.nil_lt_cons a as⟩)
    | cons b bs =>
      rcases Nat.lt_trichotomy a b with h | rfl | h
      · refine .inl ⟨?_, List.Lex.rel h⟩
        simp [compareWeights, Nat.compare_eq_lt.mpr h]
      · rcases ih bs with ⟨hc, hlt⟩ | ⟨hc, rfl⟩ | ⟨hc, hlt⟩
        · exact .inl ⟨by simp [compareWeights, hc], List.Lex.cons hlt⟩
        · exact .inr (.inl ⟨by simp [compareWeights, hc], rfl⟩)
        · exact .inr (.inr ⟨by simp [compareWeights, hc], List.Lex.cons hlt⟩)
      · refine .inr (.inr ⟨?_, List.Lex.rel h⟩)
        simp [compareWeights, Nat.compare_eq_gt.mpr h]

theorem compareWeights_then (next : Ordering) : (compareWeights as bs).then next ≠ .gt ↔
    as < bs ∨ as = bs ∧ next ≠ .gt := by
  rcases compareWeights_spec as bs with ⟨hc, h⟩ | ⟨hc, h⟩ | ⟨hc, h⟩
  · simp [hc, h]
  · simp only [hc, Ordering.then]
    simp [h]
  · simp [hc, lt_asymm h, ne_of_gt h]

theorem compareWeights_ne_gt : compareWeights as bs ≠ .gt ↔ as ≤ bs := by
  rcases compareWeights_spec as bs with ⟨hc, h⟩ | ⟨hc, h⟩ | ⟨hc, h⟩
  · simp [hc, le_of_lt h]
  · simp [hc, le_of_eq h]
  · simp [hc, not_le.mpr h]

def CollationKey.levels (k : CollationKey) : List Nat ×ₗ List Nat ×ₗ List Nat :=
  toLex (k.primary, toLex (k.secondary, k.tertiary))

theorem CollationKey.le_iff : a.le b = true ↔ a.levels ≤ b.levels := by
  rw [CollationKey.le, bne_iff_ne, CollationKey.compare, compareWeights_then, compareWeights_then,
    compareWeights_ne_gt]
  simp only [levels, Prod.Lex.toLex_le_toLex]

theorem CollationKey.trans {c : CollationKey} (hab : a.le b = true) (hbc : b.le c = true) :
    a.le c = true :=
  le_iff.mpr (le_trans (le_iff.mp hab) (le_iff.mp hbc))

theorem CollationKey.total (a b : CollationKey) : (a.le b || b.le a) = true := by
  rw [Bool.or_eq_true, le_iff, le_iff]
  exact le_total _ _

-- ---------------------------------------------------------------------------
-- ASCII texts
-- ---------------------------------------------------------------------------

def IsAscii (cs : List Char) : Prop := ∀ c ∈ cs, c.toNat < 0x80

theorem foldl_addOrdered_ascii (h : ∀ code ∈ codes, code < 0x80) (before : List Nat) :
    codes.foldl (fun reversed code => addOrdered code reversed) before =
      codes.reverse ++ before := by
  induction codes generalizing before with
  | nil => rfl
  | cons code codes ih =>
    have hstarter : combiningClass code = 0 := by
      rw [combiningClass, if_pos (h code List.mem_cons_self)]
    have hfirst : addOrdered code before = code :: before := by
      cases before <;> simp [addOrdered, hstarter]
    rw [List.foldl_cons, hfirst, ih fun c hc => h c (List.mem_cons_of_mem _ hc)]
    simp

theorem canonical_ascii (h : IsAscii cs) : canonical cs = cs.map Char.toNat := by
  have hdecompose : cs.flatMap decompose = cs.map Char.toNat := by
    rw [← List.flatMap_singleton' (cs.map Char.toNat), List.flatMap_map]
    apply List.flatMap_congr
    intro c hc
    simp [decompose, h c hc]
  rw [canonical, hdecompose, foldl_addOrdered_ascii (by simpa [IsAscii] using h)]
  simp

/-- ASCII characters are weighed one by one. -/
theorem weigh_ascii {fuel : Nat} (h : ∀ code ∈ codes, code < 0x80) (hf : codes.length ≤ fuel) :
    Collation.weigh fuel codes = codes.flatMap Collation.weightsOf := by
  induction codes generalizing fuel with
  | nil => cases fuel <;> simp [Collation.weigh]
  | cons a codes ih =>
    obtain ⟨fuel, rfl⟩ : ∃ k, fuel = k + 1 := ⟨fuel - 1, by simp at hf; omega⟩
    cases codes with
    | nil => simp [Collation.weigh]
    | cons b codes =>
      rw [Collation.weigh, Collation.takeElement, if_pos (h b (by simp))]
      dsimp only
      rw [ih (fun c hc => h c (List.mem_cons_of_mem _ hc)) (by simpa using hf)]
      exact List.flatMap_cons.symm

def asciiLevel (cs : List Char) : List Nat :=
  ((cs.flatMap fun c => Collation.weightsOf c.toNat).map (·.primary)).filter (· != 0)

theorem primary_ascii (h : IsAscii cs) :
    (collationKey (String.ofList cs)).primary = asciiLevel cs := by
  rw [collationKey, String.toList_ofList, canonical_ascii h]
  dsimp only
  rw [weigh_ascii (by simpa [IsAscii] using h) (by simp), List.flatMap_map]
  rfl

theorem asciiLevel_append (cs ds : List Char) :
    asciiLevel (cs ++ ds) = asciiLevel cs ++ asciiLevel ds := by
  simp [asciiLevel]

theorem asciiPrimaries_digit : ∀ d < 10,
    Collation.asciiPrimaries.lookup (48 + d) = some (8665 + d) := by
  decide

theorem asciiLevel_digit {d : Nat} (h : d < 10) : asciiLevel [Nat.digitChar d] = [8665 + d] := by
  have hweights : Collation.weightsOf (Nat.digitChar d).toNat =
      [⟨8665 + d, Collation.plainSecondary, Collation.plainTertiary⟩] := by
    rw [toNat_digitChar d h, Collation.weightsOf, if_pos (by omega), Collation.asciiWeights,
      if_neg (by omega), asciiPrimaries_digit d h]
  simp [asciiLevel, hweights]

theorem append_lt_append (common : List Nat) (h : as < bs) : common ++ as < common ++ bs := by
  induction common with
  | nil => exact h
  | cons a common ih => exact List.Lex.cons ih

/-- A lesser digit decides. -/
theorem collationKey_lt (hc : IsAscii cs) (hd : IsAscii ds) (h : DigitsBefore cs ds) :
    (collationKey (String.ofList cs)).levels < (collationKey (String.ofList ds)).levels := by
  refine Prod.Lex.toLex_lt_toLex.mpr (.inl ?_)
  dsimp only
  rw [primary_ascii hc, primary_ascii hd]
  obtain ⟨common, a, b, cs', ds', rfl, rfl, hab, hb⟩ := h
  rw [asciiLevel_append, asciiLevel_append]
  refine append_lt_append _ ?_
  rw [← List.singleton_append, ← List.singleton_append (l := ds'), asciiLevel_append,
    asciiLevel_append, asciiLevel_digit (by omega), asciiLevel_digit hb]
  exact List.Lex.rel (by omega)

end AgentPlans.Text
