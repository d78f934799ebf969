import AgentPlans.Proofs.Json.Layout
import AgentPlans.Proofs.Json.Text
import Mathlib.Data.List.DropRight

/-!
# Texts that denote values

`Denotes cs v`: the reader takes `cs` for `v`, whatever follows that could not
go on with it. White space in front of a value, of a member's name, of a closing
bracket or brace makes no difference, so one lemma for arrays and one for
objects serve every layout.

The reader counts fuel. One unit for each character is enough, and `Denotes`
carries that bound.
-/

namespace AgentPlans.Json

variable {v item : Json} {before items : List Json} {m : String × Json}
  {members : List (String × Json)} {set : Members Json} {n : Number} {name : String} {fuel : Nat}
  {cs gap tail rest : List Char} {c : Char}

-- ---------------------------------------------------------------------------
-- White space
-- ---------------------------------------------------------------------------

def IsGap (gap : List Char) : Prop := ∀ c ∈ gap, isSpace c = true

theorem isGap_nil : IsGap [] := by simp [IsGap]

theorem skipSpace_cons (h : isSpace c = false) : skipSpace (c :: cs) = c :: cs := by
  simp [skipSpace, h]

theorem skipSpace_gap (h : IsGap gap) : skipSpace (gap ++ cs) = skipSpace cs :=
  List.dropWhile_append_of_pos h

theorem skipSpace_skipSpace : skipSpace (skipSpace cs) = skipSpace cs :=
  List.dropWhile_idempotent _ _

theorem readValue_skipSpace : readValue fuel (skipSpace cs) = readValue fuel cs := by
  cases fuel with
  | zero => rfl
  | succ fuel => rw [readValue, readValue, skipSpace_skipSpace]

theorem readItems_skipSpace : readItems fuel before (skipSpace cs) = readItems fuel before cs := by
  cases fuel with
  | zero => rfl
  | succ fuel => rw [readItems, readItems, readValue_skipSpace]

theorem readMembers_skipSpace : readMembers fuel set (skipSpace cs) = readMembers fuel set cs := by
  cases fuel with
  | zero => rfl
  | succ fuel => rw [readMembers, readMembers, skipSpace_skipSpace]

theorem readValue_gap (h : IsGap gap) : readValue fuel (gap ++ cs) = readValue fuel cs := by
  rw [← readValue_skipSpace, skipSpace_gap h, readValue_skipSpace]

theorem readMembers_gap (h : IsGap gap) :
    readMembers fuel set (gap ++ cs) = readMembers fuel set cs := by
  rw [← readMembers_skipSpace, skipSpace_gap h, readMembers_skipSpace]

theorem endsNumber_of_isSpace (h : isSpace c = true) : EndsNumber (c :: rest) := by
  rintro d ⟨⟩
  simp only [isSpace, Bool.or_eq_true, beq_iff_eq] at h
  rcases h with ((rfl | rfl) | rfl) | rfl <;> decide

theorem endsNumber_gap (h : IsGap gap) (hr : EndsNumber rest) : EndsNumber (gap ++ rest) := by
  cases gap with
  | nil => exact hr
  | cons c gap => exact endsNumber_of_isSpace (h c List.mem_cons_self)

-- ---------------------------------------------------------------------------
-- Values
-- ---------------------------------------------------------------------------

/-- What a value may begin with: after white space, no closing bracket. -/
def StartsValue (cs : List Char) : Prop := ∃ c tail, skipSpace cs = c :: tail ∧ c ≠ ']'

structure Denotes (cs : List Char) (v : Json) : Prop where
  starts : StartsValue cs
  read : ∀ {fuel : Nat} {rest : List Char}, cs.length ≤ fuel → EndsNumber rest →
    readValue fuel (cs ++ rest) = some (v, rest)

theorem startsValue_cons (hs : isSpace c = false) (hc : c ≠ ']') : StartsValue (c :: cs) :=
  ⟨c, cs, skipSpace_cons hs, hc⟩

theorem StartsValue.append (h : StartsValue cs) (rest : List Char) : StartsValue (cs ++ rest) := by
  obtain ⟨c, tail, hc, hclose⟩ := h
  refine ⟨c, tail ++ rest, ?_, hclose⟩
  have hne : ¬ (cs.dropWhile isSpace).isEmpty = true := by
    rw [skipSpace] at hc
    simp [hc]
  rw [skipSpace, List.dropWhile_append, if_neg hne, ← skipSpace, hc, List.cons_append]

theorem Denotes.after_gap (hg : IsGap gap) (h : Denotes cs v) : Denotes (gap ++ cs) v := by
  constructor
  · obtain ⟨c, tail, hc, hclose⟩ := h.starts
    exact ⟨c, tail, by rw [skipSpace_gap hg, hc], hclose⟩
  · intro fuel rest hf hr
    rw [List.length_append] at hf
    rw [List.append_assoc, readValue_gap hg, h.read (by omega) hr]

theorem exists_fuel {n : Nat} (h : 0 < n) : ∃ k, n = k + 1 :=
  Nat.exists_eq_add_one_of_ne_zero h.ne'

theorem denotes_cons (hs : isSpace c = false) (hc : c ≠ ']')
    (h : ∀ {fuel : Nat} {rest : List Char}, cs.length ≤ fuel → EndsNumber rest →
      readValue (fuel + 1) (c :: (cs ++ rest)) = some (v, rest)) : Denotes (c :: cs) v := by
  refine ⟨startsValue_cons hs hc, ?_⟩
  intro fuel rest hf hr
  rw [List.length_cons] at hf
  obtain ⟨fuel, rfl⟩ := exists_fuel (n := fuel) (by omega)
  rw [List.cons_append]
  exact h (by omega) hr

theorem denotes_null : Denotes nullWord .null :=
  denotes_cons rfl (by decide) fun _ _ => rfl

theorem denotes_bool (b : Bool) : Denotes (if b then trueWord else falseWord) (.bool b) := by
  cases b with
  | true => exact denotes_cons rfl (by decide) fun _ _ => rfl
  | false => exact denotes_cons rfl (by decide) fun _ _ => rfl

theorem ne_of_isDigit {d : Char} (h : Number.isDigit c = true) (hd : Number.isDigit d = false) :
    c ≠ d := by
  rintro rfl
  rw [h] at hd
  contradiction

theorem ne_of_startsNumber {d : Char} (h : c = '-' ∨ Number.isDigit c = true)
    (hd : Number.isDigit d = false) (hdash : d ≠ '-') : c ≠ d := by
  rcases h with rfl | h
  · exact hdash.symm
  · exact ne_of_isDigit h hd

theorem isSpace_of_startsNumber (h : c = '-' ∨ Number.isDigit c = true) : isSpace c = false := by
  simp [isSpace, ne_of_startsNumber h (d := ' ') rfl (by decide),
    ne_of_startsNumber h (d := '\n') rfl (by decide),
    ne_of_startsNumber h (d := '\r') rfl (by decide),
    ne_of_startsNumber h (d := '\t') rfl (by decide)]

theorem readValue_number (h : c = '-' ∨ Number.isDigit c = true) :
    readValue (fuel + 1) (c :: cs) = readNumber (c :: cs) := by
  rw [readValue, skipSpace_cons (isSpace_of_startsNumber h)]
  have hne := fun d => ne_of_startsNumber (d := d) h
  split
  · next heq => exact absurd (List.cons.inj heq).1 (hne 'n' rfl (by decide))
  · next heq => exact absurd (List.cons.inj heq).1 (hne 't' rfl (by decide))
  · next heq => exact absurd (List.cons.inj heq).1 (hne 'f' rfl (by decide))
  · next heq => exact absurd (List.cons.inj heq).1 (hne '"' rfl (by decide))
  · next heq => exact absurd (List.cons.inj heq).1 (hne '[' rfl (by decide))
  · next heq => exact absurd (List.cons.inj heq).1 (hne '{' rfl (by decide))
  · rfl

theorem ReadsAsNumber.denotes {k : Number} (h : ReadsAsNumber n k) :
    Denotes (numberChars n) (.number k) := by
  -- The reader chooses by the first character, so it has to be brought to the front.
  obtain ⟨c, tail, hc, hstart⟩ := h.head
  have hread := @h.read
  rw [hc] at hread ⊢
  refine denotes_cons (isSpace_of_startsNumber hstart) ?_ fun {fuel rest} _ hr => ?_
  · exact ne_of_startsNumber hstart rfl (by decide)
  · rw [readValue_number hstart]
    exact hread hr

theorem denotes_string (t : Utf16) : Denotes (quoted t) (.string t) := by
  refine denotes_cons rfl (by decide) fun {fuel rest} _ _ => ?_
  rw [List.append_assoc, List.singleton_append, readValue, skipSpace_cons rfl]
  simp only [readText_quoted]

-- ---------------------------------------------------------------------------
-- Arrays
-- ---------------------------------------------------------------------------

inductive ItemsText : List Char → List Json → Prop
  | close {gap : List Char} (h : IsGap gap) : ItemsText (gap ++ [']']) []
  | item {cs tail : List Char} {v : Json} {items : List Json} (h : Denotes cs v)
    (others : ItemsText tail items) : ItemsText (',' :: (cs ++ tail)) (v :: items)

theorem ItemsText.endsNumber (h : ItemsText tail items) : EndsNumber (tail ++ rest) := by
  cases h with
  | close h =>
    rw [List.append_assoc]
    exact endsNumber_gap h (by rintro c ⟨⟩; decide)
  | item => rintro c ⟨⟩; decide

theorem readItems_item (h : readValue fuel cs = some (item, tail))
    (ht : skipSpace tail = c :: rest) :
    readItems (fuel + 1) before cs =
      if c = ',' then readItems fuel (item :: before) rest
      else if c = ']' then some (.array (item :: before).reverse, rest)
      else none := by
  rw [readItems, h]
  simp only [ht]
  split
  · next heq =>
    obtain ⟨rfl, rfl⟩ := List.cons.inj heq
    rw [if_pos rfl]
  · next heq =>
    obtain ⟨rfl, rfl⟩ := List.cons.inj heq
    rw [if_neg (by decide), if_pos rfl]
  · next hcomma hbracket =>
    rw [if_neg (fun hc => hcomma rest (by rw [hc])), if_neg (fun hc => hbracket rest (by rw [hc]))]

theorem ItemsText.read (ht : ItemsText tail items) (h : Denotes cs v)
    (hf : (cs ++ tail).length ≤ fuel) :
    readItems fuel before (cs ++ (tail ++ rest)) =
      some (.array (before.reverse ++ v :: items), rest) := by
  induction ht generalizing cs v before fuel with
  | @close gap hgap =>
    simp only [List.length_append, List.length_singleton] at hf
    obtain ⟨fuel, rfl⟩ := exists_fuel (n := fuel) (by omega)
    have hitem : readValue fuel (cs ++ (gap ++ [']'] ++ rest)) = some (v, gap ++ [']'] ++ rest) :=
      h.read (by omega) (ItemsText.close hgap).endsNumber
    have hclose : skipSpace (gap ++ [']'] ++ rest) = ']' :: rest := by
      rw [List.append_assoc, skipSpace_gap hgap]
      exact skipSpace_cons rfl
    rw [readItems_item hitem hclose, if_neg (by decide), if_pos rfl, List.reverse_cons]
  | @item cs' tail v' items hnext hothers ih =>
    simp only [List.length_append, List.length_cons] at hf
    obtain ⟨fuel, rfl⟩ := exists_fuel (n := fuel) (by omega)
    have hitem : readValue fuel (cs ++ (',' :: (cs' ++ tail) ++ rest)) =
        some (v, ',' :: (cs' ++ tail) ++ rest) :=
      h.read (by omega) (ItemsText.item hnext hothers).endsNumber
    have hcomma : skipSpace (',' :: (cs' ++ tail) ++ rest) = ',' :: (cs' ++ (tail ++ rest)) := by
      rw [List.cons_append, List.append_assoc, skipSpace_cons rfl]
    rw [readItems_item hitem hcomma, if_pos rfl, ih hnext (by rw [List.length_append]; omega)]
    simp

theorem denotes_noItems : Denotes ['[', ']'] (.array []) :=
  denotes_cons rfl (by decide) fun _ _ => rfl

theorem Denotes.array (h : Denotes cs v) (ht : ItemsText tail items) :
    Denotes ('[' :: (cs ++ tail)) (.array (v :: items)) := by
  refine denotes_cons rfl (by decide) fun {fuel rest} hf _ => ?_
  obtain ⟨c, after, hc, hclose⟩ := h.starts.append (tail ++ rest)
  have hread : readItems fuel [] (cs ++ (tail ++ rest)) = some (.array (v :: items), rest) :=
    ht.read h hf
  rw [← readItems_skipSpace, hc] at hread
  rw [readValue, skipSpace_cons rfl, List.append_assoc]
  simp only [hc]
  split
  · next heq => exact absurd (List.cons.inj heq).1 hclose
  · exact hread

-- ---------------------------------------------------------------------------
-- Objects
-- ---------------------------------------------------------------------------

inductive MemberText : List Char → String × Json → Prop
  | named {gap cs : List Char} {v : Json} (hg : IsGap gap) (name : String) (h : Denotes cs v) :
    MemberText (gap ++ (quoted name ++ ':' :: cs)) (name, v)

inductive MembersText : List Char → List (String × Json) → Prop
  | close {gap : List Char} (h : IsGap gap) : MembersText (gap ++ ['}']) []
  | member {cs tail : List Char} {m : String × Json} {members : List (String × Json)}
    (h : MemberText cs m) (others : MembersText tail members) :
    MembersText (',' :: (cs ++ tail)) (m :: members)

theorem MembersText.endsNumber (h : MembersText tail members) : EndsNumber (tail ++ rest) := by
  cases h with
  | close h =>
    rw [List.append_assoc]
    exact endsNumber_gap h (by rintro c ⟨⟩; decide)
  | member => rintro c ⟨⟩; decide

theorem readMembers_member (h : readValue fuel cs = some (v, tail))
    (ht : skipSpace tail = c :: rest) :
    readMembers (fuel + 1) set (quoted name ++ ':' :: cs) =
      if c = ',' then readMembers fuel (Members.insert set name v) rest
      else if c = '}' then some (.object (Members.insert set name v), rest)
      else none := by
  have hquoted : quoted name ++ ':' :: cs =
      '"' :: ((Utf16.ofString name).signs.flatMap escapeSign ++ '"' :: ':' :: cs) := by
    simp [quoted]
  rw [hquoted, readMembers, skipSpace_cons rfl]
  simp only [readText_quoted, skipSpace_cons (c := ':') rfl, Utf16.repaired_ofString, h, ht]
  split
  · next heq =>
    obtain ⟨rfl, rfl⟩ := List.cons.inj heq
    rw [if_pos rfl]
  · next heq =>
    obtain ⟨rfl, rfl⟩ := List.cons.inj heq
    rw [if_neg (by decide), if_pos rfl]
  · next hcomma hbrace =>
    rw [if_neg (fun hc => hcomma rest (by rw [hc])), if_neg (fun hc => hbrace rest (by rw [hc]))]

theorem MembersText.read (ht : MembersText tail members) (h : MemberText cs m)
    (hf : (cs ++ tail).length ≤ fuel) :
    readMembers fuel set (cs ++ (tail ++ rest)) =
      some (.object ((m :: members).foldl (fun set x => Members.insert set x.1 x.2) set), rest) := by
  induction ht generalizing cs m set fuel with
  | @close gap hgap =>
    obtain @⟨_, cs, v, hlead, name, hv⟩ := h
    simp only [List.length_append, List.length_cons] at hf
    obtain ⟨fuel, rfl⟩ := exists_fuel (n := fuel) (by omega)
    have hvalue : readValue fuel (cs ++ (gap ++ ['}'] ++ rest)) = some (v, gap ++ ['}'] ++ rest) :=
      hv.read (by omega) (MembersText.close hgap).endsNumber
    have hclose : skipSpace (gap ++ ['}'] ++ rest) = '}' :: rest := by
      rw [List.append_assoc, skipSpace_gap hgap]
      exact skipSpace_cons rfl
    rw [List.append_assoc, readMembers_gap hlead, List.append_assoc, List.cons_append,
      readMembers_member hvalue hclose, if_neg (by decide), if_pos rfl]
    rfl
  | @member cs' tail m' members hnext hothers ih =>
    obtain @⟨_, cs, v, hlead, name, hv⟩ := h
    simp only [List.length_append, List.length_cons] at hf
    obtain ⟨fuel, rfl⟩ := exists_fuel (n := fuel) (by omega)
    have hvalue : readValue fuel (cs ++ (',' :: (cs' ++ tail) ++ rest)) =
        some (v, ',' :: (cs' ++ tail) ++ rest) :=
      hv.read (by omega) (MembersText.member hnext hothers).endsNumber
    have hcomma : skipSpace (',' :: (cs' ++ tail) ++ rest) = ',' :: (cs' ++ (tail ++ rest)) := by
      rw [List.cons_append, List.append_assoc, skipSpace_cons rfl]
    rw [List.append_assoc, readMembers_gap hlead, List.append_assoc, List.cons_append,
      readMembers_member hvalue hcomma, if_pos rfl, ih hnext (by rw [List.length_append]; omega)]
    rfl

theorem denotes_noMembers : Denotes ['{', '}'] (.object []) :=
  denotes_cons rfl (by decide) fun _ _ => rfl

theorem MemberText.object (h : MemberText cs m) (ht : MembersText tail members) :
    Denotes ('{' :: (cs ++ tail)) (.object (Members.ofList (m :: members))) := by
  refine denotes_cons rfl (by decide) fun {fuel rest} hf _ => ?_
  have hread : readMembers fuel [] (cs ++ (tail ++ rest)) =
      some (.object (Members.ofList (m :: members)), rest) := ht.read h hf
  obtain ⟨hlead, name, hv⟩ := h
  rw [← readMembers_skipSpace, List.append_assoc, skipSpace_gap hlead] at hread
  rw [readValue, skipSpace_cons rfl, List.append_assoc, List.append_assoc]
  simp only [skipSpace_gap hlead]
  rw [quoted, List.cons_append, List.cons_append, skipSpace_cons rfl] at hread ⊢
  exact hread

-- ---------------------------------------------------------------------------
-- Whole texts
-- ---------------------------------------------------------------------------

/-- White space may follow the text of a value. -/
theorem Denotes.parse_ofList (h : Denotes cs v) (hg : IsGap gap) :
    parse (String.ofList (cs ++ gap)) = some v := by
  have hends : EndsNumber (gap ++ []) := endsNumber_gap hg (by rintro c ⟨⟩)
  rw [List.append_nil] at hends
  have hread : readValue (2 * (cs ++ gap).length + 2) (cs ++ gap) = some (v, gap) :=
    h.read (by rw [List.length_append]; omega) hends
  have hskip : skipSpace gap = [] := List.dropWhile_eq_nil_iff.mpr hg
  rw [parse, String.toList_ofList, parseChars, hread]
  simp only [hskip, if_true]

end AgentPlans.Json
