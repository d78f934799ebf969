import AgentPlans.Shell.Quote
import AgentPlans.Shell.Words

/-!
# The shell undoes the quoting

`words?_join`: a shell that reads joined arguments finds nothing that it would
act on, ends outside quotes, and has exactly those arguments as words. The proof
follows the three ways in which an argument is written; each lemma says where
the reader stands once it has read one piece.

Nothing is claimed about text that was not written by `join`.
-/

namespace AgentPlans.Shell

open Utf16 (ascii isAscii)

variable {unit : UInt16} {units word rest : List UInt16}

/-- A plain unit neither parts words nor quotes, and a shell does not act on it. -/
theorem isPlain_inert (h : isPlain unit = true) :
    separatesWords unit = false ∧ unit ≠ singleQuote ∧ unit ≠ doubleQuote ∧
      isSpecialBare unit = false := by
  have hall : ∀ n < 0x80, isPlain (.ofNat n) = true →
      separatesWords (.ofNat n) = false ∧ .ofNat n ≠ singleQuote ∧ .ofNat n ≠ doubleQuote ∧
        isSpecialBare (.ofNat n) = false := by decide
  have hascii : unit.toNat < 0x80 := by
    simp only [isPlain, isAscii, Bool.and_eq_true, decide_eq_true_eq] at h
    exact UInt16.lt_iff_toNat_lt.mp h.1
  have hinert := hall unit.toNat hascii
  rw [UInt16.ofNat_toNat] at hinert
  exact hinert h

-- ---------------------------------------------------------------------------
-- One piece
-- ---------------------------------------------------------------------------

theorem wordsFrom_plain (h : ∀ unit ∈ units, isPlain unit = true) :
    wordsFrom .bare (some word) (units ++ rest) =
      wordsFrom .bare (some (units.reverse ++ word)) rest := by
  induction units generalizing word with
  | nil => rfl
  | cons unit units ih =>
    obtain ⟨hs, hq, hd, hb⟩ := isPlain_inert (h unit (by simp))
    simp only [List.cons_append, wordsFrom, hs, hq, hd, hb, Bool.false_eq_true, if_false]
    rw [OpenWord.begin, Option.getD_some, ih fun other ho => h other (List.mem_cons_of_mem _ ho)]
    simp

theorem separatesWords_quotes :
    separatesWords singleQuote = false ∧ separatesWords doubleQuote = false := by decide

theorem isSpecialDouble_singleQuote : isSpecialDouble singleQuote = false := by decide

theorem singleQuote_ne_doubleQuote : singleQuote ≠ doubleQuote := by decide

/-- Up to the quote that closes, where a quote inside the text closes and opens again. -/
theorem wordsFrom_quoted :
    wordsFrom .single (some word) (units.flatMap inSingleQuotes ++ singleQuote :: rest) =
      wordsFrom .bare (some (units.reverse ++ word)) rest := by
  induction units generalizing word with
  | nil => simp [wordsFrom]
  | cons unit units ih =>
    by_cases hc : unit = singleQuote
    · subst hc
      simp [inSingleQuotes, wordsFrom, separatesWords_quotes, isSpecialDouble_singleQuote,
        singleQuote_ne_doubleQuote, singleQuote_ne_doubleQuote.symm, OpenWord.begin, ih]
    · simp [inSingleQuotes, hc, wordsFrom, OpenWord.begin, ih]

-- ---------------------------------------------------------------------------
-- One argument, several arguments
-- ---------------------------------------------------------------------------

theorem wordsFrom_quoteUnits (units rest : List UInt16) :
    wordsFrom .bare none (quoteUnits units ++ rest) =
      wordsFrom .bare (some units.reverse) rest := by
  unfold quoteUnits
  split
  · next h =>
    subst h
    simp [wordsFrom, separatesWords_quotes, OpenWord.begin]
  · next hne =>
    split
    · next hplain =>
      -- The first unit begins the word; the others go on with it.
      obtain ⟨unit, units, rfl⟩ := List.exists_cons_of_ne_nil hne
      simp only [List.all_cons, Bool.and_eq_true, List.all_eq_true] at hplain
      obtain ⟨hs, hq, hd, hb⟩ := isPlain_inert hplain.1
      simp only [List.cons_append, wordsFrom, hs, hq, hd, hb, Bool.false_eq_true, if_false]
      rw [OpenWord.begin, Option.getD_none, wordsFrom_plain hplain.2, List.reverse_cons]
    · next hmarked =>
      have hopen : wordsFrom .bare none
          (singleQuote :: (units.flatMap inSingleQuotes ++ singleQuote :: rest)) =
            wordsFrom .single (some []) (units.flatMap inSingleQuotes ++ singleQuote :: rest) := by
        simp [wordsFrom, separatesWords_quotes, OpenWord.begin]
      rw [List.cons_append, List.append_assoc, List.singleton_append, hopen, wordsFrom_quoted,
        List.append_nil]

theorem wordsFrom_space :
    wordsFrom .bare (some word) (ascii ' ' :: rest) =
      (word.reverse :: ·) <$> wordsFrom .bare none rest := by
  have hseparates : separatesWords (ascii ' ') = true := by decide
  simp only [wordsFrom, hseparates, if_true]
  rfl

theorem wordsFrom_intercalate (args : List (List UInt16)) :
    wordsFrom .bare none ([ascii ' '].intercalate (args.map quoteUnits)) = some args := by
  induction args with
  | nil => rfl
  | cons units args ih =>
    cases args with
    | nil =>
      have h := wordsFrom_quoteUnits units []
      rw [List.append_nil] at h
      simp [h, wordsFrom, OpenWord.close]
    | cons next args =>
      simp only [List.map_cons, List.intercalate_cons_cons, List.append_assoc] at ih ⊢
      rw [wordsFrom_quoteUnits, List.singleton_append, wordsFrom_space, ih, List.reverse_reverse]
      rfl

/-- Every list of arguments is read back from its quoted form: as many words as arguments, each
equal to its argument, in order. -/
theorem words?_join (args : List Utf16) : words? (join args) = some args := by
  have hunits : (join args).units =
      [ascii ' '].intercalate ((args.map Utf16.units).map quoteUnits) := by
    simp [join, quote, Function.comp_def]
  rw [words?, hunits, wordsFrom_intercalate]
  simp [Function.comp_def]

example : words? (join ["it's", "", "$HOME\n"]) = some (["it's", "", "$HOME\n"] : List Utf16) := by
  decide

end AgentPlans.Shell
