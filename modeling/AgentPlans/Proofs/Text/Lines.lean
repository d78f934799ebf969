import AgentPlans.Text.Blank
import AgentPlans.Text.Split
import Mathlib.Data.List.Basic

/-!
# Text in lines

`split_lines`: pieces that do not hold the character that parts them come back
as they were, with an empty piece behind the last. Trimming leaves a text alone
that neither begins nor ends with white space.
-/

namespace AgentPlans.Text

variable {c x : Char} {cs rest : List Char} {lines : List (List Char)}

theorem split_cons_self : split c (c :: cs) = [] :: split c cs := by
  simp [split]

theorem split_cons_ne (h : x ≠ c) {piece : List Char} {pieces : List (List Char)}
    (hs : split c cs = piece :: pieces) : split c (x :: cs) = (x :: piece) :: pieces := by
  rw [split, List.foldr_cons, if_neg h]
  rw [split] at hs
  rw [hs]

theorem split_append_cons (h : c ∉ cs) : split c (cs ++ c :: rest) = cs :: split c rest := by
  induction cs with
  | nil => exact split_cons_self
  | cons x cs ih =>
    have hx : x ≠ c := by
      rintro rfl
      exact h List.mem_cons_self
    exact split_cons_ne hx (ih fun hc => h (List.mem_cons_of_mem x hc))

theorem split_lines (h : ∀ line ∈ lines, c ∉ line) :
    split c (lines.flatMap (· ++ [c])) = lines ++ [[]] := by
  induction lines with
  | nil => rfl
  | cons line lines ih =>
    rw [List.flatMap_cons, List.append_assoc, List.singleton_append,
      split_append_cons (h line List.mem_cons_self),
      ih fun l hl => h l (List.mem_cons_of_mem _ hl)]
    rfl

theorem dropWhile_isBlank (h : ∀ c ∈ cs.head?, isBlank c = false) : cs.dropWhile isBlank = cs := by
  cases cs with
  | nil => rfl
  | cons c cs => rw [List.dropWhile_cons, if_neg (by simp [h c rfl])]

theorem trimChars_eq_self (hfirst : ∀ c ∈ cs.head?, isBlank c = false)
    (hlast : ∀ c ∈ cs.getLast?, isBlank c = false) : trimChars cs = cs := by
  rw [trimChars, dropWhile_isBlank hfirst, dropWhile_isBlank (by simpa using hlast),
    List.reverse_reverse]

theorem isBlank_head?_dropWhile (cs : List Char) :
    ∀ c ∈ (cs.dropWhile isBlank).head?, isBlank c = false := by
  intro c hc
  have hnot := List.head?_dropWhile_not isBlank cs
  rw [hc] at hnot
  exact hnot

theorem trimChars_prefix (cs : List Char) : trimChars cs <+: cs.dropWhile isBlank := by
  rw [trimChars, ← List.reverse_suffix, List.reverse_reverse]
  exact List.dropWhile_suffix isBlank

theorem trimChars_sublist (cs : List Char) : (trimChars cs).Sublist cs := by
  have hfront := trimChars_prefix cs
  exact hfront.sublist.trans (List.dropWhile_sublist isBlank)

theorem trimChars_trimChars (cs : List Char) : trimChars (trimChars cs) = trimChars cs := by
  refine trimChars_eq_self ?_ ?_
  · intro c hc
    obtain ⟨rest, hrest⟩ := trimChars_prefix cs
    refine isBlank_head?_dropWhile cs c ?_
    rw [← hrest, List.head?_append, Option.mem_def.mp hc]
    rfl
  · rw [trimChars, List.getLast?_reverse]
    exact isBlank_head?_dropWhile _

theorem trim_trim (s : String) : trim (trim s) = trim s := by
  rw [trim, trim, String.toList_ofList, trimChars_trimChars]

end AgentPlans.Text
