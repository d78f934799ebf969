import AgentPlans.Number.Literal

/-!
# The grammar of numeric literals

`LiteralText cs n`: `cs` is a numeric literal and denotes `n`, told part by
part, sign, digits, point and exponent, without regard to how a text is read.
`literal?_eq_some`: what is read from a text that is not empty is what it denotes.
Which number is nearest to a decimal is left to rounding.
-/

namespace AgentPlans.Number

def Digits (cs : List Char) : Prop := ∀ c ∈ cs, isDigit c = true

inductive SignText : List Char → Bool → Prop
  | none : SignText [] false
  | plus : SignText ['+'] false
  | minus : SignText ['-'] true

inductive PointText : List Char → List Char → Prop
  | none : PointText [] []
  | point {digits : List Char} (h : Digits digits) : PointText ('.' :: digits) digits

inductive ExponentText : List Char → Int → Prop
  | none : ExponentText [] 0
  | exponent {mark : Char} {sign digits : List Char} {negative : Bool}
    (marked : mark = 'e' ∨ mark = 'E') (signed : SignText sign negative) (given : digits ≠ [])
    (h : Digits digits) :
    ExponentText (mark :: (sign ++ digits))
      (if negative then -(ofDigits digits : Int) else ofDigits digits)

/-- A literal after its sign. There are digits on at least one side of the point. -/
inductive UnsignedText (negative : Bool) : List Char → Number → Prop
  | decimal {whole point fraction exponent : List Char} {e : Int} (h : Digits whole)
    (pointed : PointText point fraction) (given : ¬ (whole = [] ∧ fraction = []))
    (raised : ExponentText exponent e) :
    UnsignedText negative (whole ++ (point ++ exponent))
      (ofDecimal negative (whole ++ fraction) (e - fraction.length))
  | infinity : UnsignedText negative ['I', 'n', 'f', 'i', 'n', 'i', 't', 'y'] (.infinity negative)

def bases : List (Char × Nat) :=
  [('x', 16), ('X', 16), ('o', 8), ('O', 8), ('b', 2), ('B', 2)]

inductive LiteralText : List Char → Number → Prop
  | signed {sign cs : List Char} {negative : Bool} {n : Number} (h : SignText sign negative)
    (unsigned : UnsignedText negative cs n) : LiteralText (sign ++ cs) n
  /-- A literal in another base has no sign. -/
  | based {mark : Char} {base : Nat} {cs : List Char} {digits : List Nat}
    (h : (mark, base) ∈ bases) (given : cs ≠ []) (read : cs.mapM (baseDigit? base) = some digits) :
    LiteralText ('0' :: mark :: cs) (nearest false (digits.foldl (fun n d => base * n + d) 0) 1)

variable {cs body sign digits whole point fraction rest : List Char} {negative : Bool} {e : Int}
  {n : Number} {mark c : Char} {base : Nat}

theorem digits_takeWhile (cs : List Char) : Digits (cs.takeWhile isDigit) :=
  List.all_eq_true.mp List.all_takeWhile

theorem head?_dropWhile_digits (cs : List Char) :
    ∀ c ∈ (cs.dropWhile isDigit).head?, isDigit c = false := by
  intro c hc
  have hnot := List.head?_dropWhile_not isDigit cs
  rw [hc] at hnot
  exact hnot

theorem takeWhile_isDigit (hd : Digits digits)
    (h : ∀ c ∈ rest.head?, isDigit c = false) :
    (digits ++ rest).takeWhile isDigit = digits ∧
      (digits ++ rest).dropWhile isDigit = rest := by
  rw [List.takeWhile_append_of_pos hd, List.dropWhile_append_of_pos hd]
  cases rest with
  | nil => simp
  | cons c rest => simp [h c rfl]

theorem takeWhile_digits_self (h : Digits digits) : digits.takeWhile isDigit = digits := by
  have htake : (digits ++ []).takeWhile isDigit = digits := (takeWhile_isDigit h (by simp)).1
  rwa [List.append_nil] at htake

theorem dropWhile_digits_self (h : Digits digits) : digits.dropWhile isDigit = [] :=
  (Text.dropWhile_eq_nil_iff _ _).mpr h

-- ---------------------------------------------------------------------------
-- Exponents
-- ---------------------------------------------------------------------------

theorem exists_sign (cs : List Char) :
    ∃ sign negative body, SignText sign negative ∧ cs = sign ++ body ∧
      (sign = [] → ∀ c ∈ body.head?, c ≠ '-' ∧ c ≠ '+') := by
  cases cs with
  | nil => exact ⟨[], false, [], .none, rfl, by simp⟩
  | cons c cs =>
    by_cases hminus : c = '-'
    · exact ⟨['-'], true, cs, .minus, by rw [hminus]; rfl, by simp⟩
    by_cases hplus : c = '+'
    · exact ⟨['+'], false, cs, .plus, by rw [hplus]; rfl, by simp⟩
    refine ⟨[], false, c :: cs, .none, rfl, ?_⟩
    rintro - d ⟨⟩
    exact ⟨hminus, hplus⟩

theorem takeExponent_marked (hm : mark = 'e' ∨ mark = 'E') (hs : SignText sign negative)
    (hb : sign = [] → ∀ c ∈ body.head?, c ≠ '-' ∧ c ≠ '+') :
    takeExponent (mark :: (sign ++ body)) =
      if body.takeWhile isDigit = [] then (0, mark :: (sign ++ body))
      else (if negative then -(ofDigits (body.takeWhile isDigit) : Int)
        else ofDigits (body.takeWhile isDigit), body.dropWhile isDigit) := by
  cases hs with
  | none =>
    cases body with
    | nil => simp [takeExponent, hm]
    | cons c body =>
      obtain ⟨hminus, hplus⟩ := hb rfl c rfl
      rw [List.nil_append]
      cases htake : (c :: body).takeWhile isDigit <;>
        simp [takeExponent, hm, hminus, hplus, htake]
  | plus =>
    rw [List.singleton_append]
    cases htake : body.takeWhile isDigit <;> simp [takeExponent, hm, htake]
  | minus =>
    rw [List.singleton_append]
    cases htake : body.takeWhile isDigit <;> simp [takeExponent, hm, htake]

theorem takeExponent_iff : takeExponent cs = (e, []) ↔ ExponentText cs e := by
  constructor
  · intro h
    cases cs with
    | nil =>
      obtain rfl : 0 = e := congrArg Prod.fst h
      exact .none
    | cons mark cs =>
      by_cases hm : mark = 'e' ∨ mark = 'E'
      · obtain ⟨sign, negative, body, hs, rfl, hb⟩ := exists_sign cs
        rw [takeExponent_marked hm hs hb] at h
        split at h
        · cases h
        · next hne =>
          obtain ⟨rfl, hrest⟩ := Prod.mk.inj h
          have hbody : body.takeWhile isDigit = body := by
            have hsplit := List.takeWhile_append_dropWhile (p := isDigit) (l := body)
            rwa [hrest, List.append_nil] at hsplit
          rw [hbody] at hne ⊢
          exact .exponent hm hs hne (hbody ▸ digits_takeWhile body)
      · simp [takeExponent, hm] at h
  · intro h
    cases h with
    | none => rfl
    | @exponent mark sign digits negative hm hs hne hd =>
      have hhead : sign = [] → ∀ c ∈ digits.head?, c ≠ '-' ∧ c ≠ '+' := by
        intro _ c hc
        have hdigit := hd c (List.mem_of_mem_head? hc)
        refine ⟨?_, ?_⟩ <;> rintro rfl <;> cases hdigit
      rw [takeExponent_marked hm hs hhead, takeWhile_digits_self hd, dropWhile_digits_self hd,
        if_neg hne]

-- ---------------------------------------------------------------------------
-- Decimals
-- ---------------------------------------------------------------------------

theorem exists_point (cs : List Char) :
    ∃ whole point fraction rest, Digits whole ∧ PointText point fraction ∧
      cs = whole ++ (point ++ rest) ∧ (∀ c ∈ rest.head?, isDigit c = false) ∧
      (point = [] → ∀ c ∈ rest.head?, c ≠ '.') := by
  have hsplit := List.takeWhile_append_dropWhile (p := isDigit) (l := cs)
  have hhead := head?_dropWhile_digits cs
  cases hafter : cs.dropWhile isDigit with
  | nil =>
    rw [hafter, List.append_nil] at hsplit
    exact ⟨cs, [], [], [], hsplit ▸ digits_takeWhile cs, .none, by simp, by simp, by simp⟩
  | cons c after =>
    rw [hafter] at hsplit hhead
    by_cases hpoint : c = '.'
    · refine ⟨cs.takeWhile isDigit, '.' :: after.takeWhile isDigit, after.takeWhile isDigit,
        after.dropWhile isDigit, digits_takeWhile cs, .point (digits_takeWhile after), ?_,
        head?_dropWhile_digits after, by simp⟩
      rw [List.cons_append, List.takeWhile_append_dropWhile, ← hpoint, hsplit]
    · refine ⟨cs.takeWhile isDigit, [], [], c :: after, digits_takeWhile cs, .none, ?_, hhead, ?_⟩
      · rw [List.nil_append, hsplit]
      · rintro - d ⟨⟩
        exact hpoint

theorem decimal?_parts (hw : Digits whole) (hp : PointText point fraction)
    (hr : ∀ c ∈ rest.head?, isDigit c = false) (hn : point = [] → ∀ c ∈ rest.head?, c ≠ '.') :
    decimal? negative (whole ++ (point ++ rest)) =
      if whole = [] ∧ fraction = [] then none
      else if (takeExponent rest).2 = [] then
        some (ofDecimal negative (whole ++ fraction) ((takeExponent rest).1 - fraction.length))
      else none := by
  have hboundary : ∀ c ∈ (point ++ rest).head?, isDigit c = false := by
    cases hp with
    | none => exact hr
    | point => rintro c ⟨⟩; rfl
  obtain ⟨htake, hdrop⟩ := takeWhile_isDigit hw hboundary
  rcases hread : takeExponent rest with ⟨e, after⟩
  cases hp with
  | none =>
    have hnone : ∀ tail, rest ≠ '.' :: tail := by
      rintro tail rfl
      exact hn rfl '.' rfl rfl
    rw [List.nil_append] at htake hdrop ⊢
    cases after <;> simp [decimal?, htake, hdrop, hread]
  | @point digits hd =>
    obtain ⟨htake', hdrop'⟩ := takeWhile_isDigit hd hr
    rw [List.cons_append] at htake hdrop ⊢
    cases after <;> simp [decimal?, htake, hdrop, htake', hdrop', hread]

theorem ExponentText.head (h : ExponentText cs e) :
    ∀ c ∈ cs.head?, isDigit c = false ∧ c ≠ '.' := by
  cases h with
  | none => simp
  | exponent hm =>
    rintro c ⟨⟩
    rcases hm with rfl | rfl <;> decide

theorem unsigned?_iff : unsigned? negative cs = some n ↔ UnsignedText negative cs n := by
  constructor
  · intro h
    rw [unsigned?] at h
    split at h
    · next hinfinity =>
      obtain rfl := Option.some.inj h
      rw [hinfinity]
      exact .infinity
    · obtain ⟨whole, point, fraction, rest, hw, hp, rfl, hr, hn⟩ := exists_point cs
      rw [decimal?_parts hw hp hr hn] at h
      split at h
      · cases h
      · next hsome =>
        split at h
        · next hend =>
          obtain rfl := Option.some.inj h
          exact .decimal hw hp hsome (takeExponent_iff.mp (Prod.ext rfl hend))
        · cases h
  · intro h
    cases h with
    | infinity => rfl
    | @decimal whole point fraction exponent e hw hp hsome he =>
      have hread : decimal? negative (whole ++ (point ++ exponent)) = _ :=
        decimal?_parts hw hp (fun c hc => (he.head c hc).1) fun _ c hc => (he.head c hc).2
      rw [if_neg hsome, takeExponent_iff.mpr he, if_pos rfl] at hread
      rw [unsigned?, if_neg, hread]
      intro hinfinity
      rw [hinfinity] at hread
      cases hread

-- ---------------------------------------------------------------------------
-- Literals
-- ---------------------------------------------------------------------------

theorem inBase?_iff :
    inBase? base cs = some n ↔ cs ≠ [] ∧ ∃ digits, cs.mapM (baseDigit? base) = some digits ∧
      nearest false (digits.foldl (fun n d => base * n + d) 0) 1 = n := by
  rw [inBase?]
  split
  · next hnil => simp [hnil]
  · next hne => simp [hne, Option.bind_eq_some_iff]

theorem literalText_based (h : (mark, base) ∈ bases) (hread : inBase? base cs = some n) :
    LiteralText ('0' :: mark :: cs) n := by
  obtain ⟨hne, digits, hdigits, rfl⟩ := inBase?_iff.mp hread
  exact .based h hne hdigits

theorem literal?_based (h : (mark, base) ∈ bases) :
    literal? ('0' :: mark :: cs) = inBase? base cs := by
  simp only [bases, List.mem_cons, Prod.mk.injEq, List.not_mem_nil, or_false] at h
  rcases h with ⟨rfl, rfl⟩ | ⟨rfl, rfl⟩ | ⟨rfl, rfl⟩ | ⟨rfl, rfl⟩ | ⟨rfl, rfl⟩ | ⟨rfl, rfl⟩ <;> rfl

theorem literal?_unsigned (h : unsigned? false cs = some n) : literal? cs = some n := by
  unfold literal?
  split
  all_goals first | exact h | cases h

/-- What is read from a text that is not empty is what the text denotes as a literal. -/
theorem literal?_eq_some (hne : cs ≠ []) : literal? cs = some n ↔ LiteralText cs n := by
  constructor
  · intro h
    unfold literal? at h
    split at h
    case h_1 => exact absurd rfl hne
    case h_2 | h_3 | h_4 | h_5 | h_6 | h_7 => exact literalText_based (by decide) h
    case h_8 => exact .signed .minus (unsigned?_iff.mp h)
    case h_9 => exact .signed .plus (unsigned?_iff.mp h)
    case h_10 => exact .signed .none (unsigned?_iff.mp h)
  · intro h
    cases h with
    | signed hs hu =>
      have hread := unsigned?_iff.mpr hu
      cases hs with
      | none => exact literal?_unsigned hread
      | plus => exact hread
      | minus => exact hread
    | based hm hgiven hdigits =>
      rw [literal?_based hm]
      exact inBase?_iff.mpr ⟨hgiven, _, hdigits, rfl⟩

end AgentPlans.Number
