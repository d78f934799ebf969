import AgentPlans.Text.LowerCase

/-!
# Lower case within ASCII

Of the characters outside ASCII, the kelvin sign `U+212A` becomes a k, and
`U+0130` an i with a dot above, which is a character of its own behind the i;
everything else stays outside ASCII. So a text whose lower-case form is in ASCII
and holds no k is in ASCII itself, and only its capitals change
(`lowerCase_eq_iff`).
-/

namespace AgentPlans.Text

/-- No character outside ASCII becomes this one. The NUL is left out because no case run is known
here to give characters only. -/
def FromAscii (d : Char) : Prop := 0 < d.toNat ∧ d.toNat < 0x80 ∧ d ≠ 'k'

instance (d : Char) : Decidable (FromAscii d) :=
  inferInstanceAs (Decidable (0 < d.toNat ∧ d.toNat < 0x80 ∧ d ≠ 'k'))

variable {c d : Char} {cs before target : List Char} {s t : String}

-- ---------------------------------------------------------------------------
-- One character
-- ---------------------------------------------------------------------------

theorem lowerChar_ofNat : ∀ n < 0x80, lowerChar (Char.ofNat n) = (Char.ofNat n).toLower := by
  decide +kernel

theorem lowerChar_ascii (h : c.toNat < 0x80) : lowerChar c = c.toLower := by
  have hlower := lowerChar_ofNat c.toNat h
  rwa [Char.ofNat_toNat] at hlower

theorem toLower_beyond (h : 0x80 ≤ c.toNat) : c.toLower = c := by
  have hupper : ¬ (c.val ≥ 'A'.val ∧ c.val ≤ 'Z'.val) := by
    rintro ⟨-, hz⟩
    have hz : c.toNat ≤ 'Z'.toNat := hz
    have : 'Z'.toNat = 90 := rfl
    omega
  exact dif_neg hupper

/-- Only the run of the kelvin sign leads into ASCII. -/
theorem lowerRuns_beyond : ∀ run ∈ lowerRuns,
    (run.first = 0x212A ∧ run.last = 0x212A) ∨ 0x80 ≤ run.first + run.shift := by
  decide +kernel

theorem lower?_beyond {run : CaseRun} {code image : Nat} (hr : run ∈ lowerRuns)
    (h : run.lower? code = some image) : code = 0x212A ∨ 0x80 ≤ image := by
  rw [CaseRun.lower?] at h
  split at h
  · next hcode =>
    obtain rfl := Option.some.inj h
    rcases lowerRuns_beyond run hr with ⟨hfirst, hlast⟩ | himage
    · exact .inl (by omega)
    · exact .inr (by omega)
  · cases h

theorem ofNat_beyond {n : Nat} (h : 0x80 ≤ n) : ¬ FromAscii (Char.ofNat n) := by
  rintro ⟨hpos, hlt, -⟩
  by_cases hvalid : n.isValidChar
  · have hn : (Char.ofNat n).toNat = n := by
      rw [Char.ofNat, dif_pos hvalid]
      rfl
    omega
  · have hn : (Char.ofNat n).toNat = 0 := by
      rw [Char.ofNat, dif_neg hvalid]
      rfl
    omega

theorem lowerChar_beyond (h : 0x80 ≤ c.toNat) : ¬ FromAscii (lowerChar c) := by
  cases hfound : lowerRuns.findSome? (·.lower? c.toNat) with
  | none =>
    have hkept : lowerChar c = c := by rw [lowerChar, if_neg (by omega), hfound]
    rw [hkept]
    rintro ⟨-, hlt, -⟩
    omega
  | some image =>
    obtain ⟨run, hrun, himage⟩ := List.exists_of_findSome?_eq_some hfound
    rcases lower?_beyond hrun himage with hkelvin | hbeyond
    · rw [← Char.ofNat_toNat c, hkelvin]
      decide +kernel
    · rw [lowerChar, if_neg (by omega), hfound]
      exact ofNat_beyond hbeyond

theorem toLower_fromAscii (hd : FromAscii d) (h : c.toLower = d) : c.toNat < 0x80 := by
  rcases Nat.lt_or_ge c.toNat 0x80 with hc | hc
  · exact hc
  · rw [toLower_beyond hc] at h
    exact h ▸ hd.2.1

theorem lowerChar_eq_iff (hd : FromAscii d) : lowerChar c = d ↔ c.toLower = d := by
  constructor
  · rintro rfl
    rcases Nat.lt_or_ge c.toNat 0x80 with hc | hc
    · exact (lowerChar_ascii hc).symm
    · exact absurd hd (lowerChar_beyond hc)
  · intro h
    rw [lowerChar_ascii (toLower_fromAscii hd h), h]

-- ---------------------------------------------------------------------------
-- Texts
-- ---------------------------------------------------------------------------

theorem ne_target (h : ∀ d ∈ target, FromAscii d) {x : Char} (hx : x ∈ cs)
    (hnot : ¬ FromAscii x) : cs ≠ target := by
  rintro rfl
  exact hnot (h x hx)

theorem lowerFrom_eq_iff (h : ∀ d ∈ target, FromAscii d) :
    lowerFrom before cs = target ↔ cs.map Char.toLower = target := by
  induction cs generalizing before target with
  | nil => rfl
  | cons c cs ih =>
    have hbeyond (hc : 0x80 ≤ c.toNat) : (c :: cs).map Char.toLower ≠ target := by
      refine ne_target h (x := c.toLower) (by simp) fun hlower => ?_
      exact absurd (toLower_fromAscii hlower rfl) (by omega)
    rw [lowerFrom]
    split
    · next hdot =>
      exact iff_of_false (ne_target h (x := Char.ofNat 0x307) (by simp) (by decide))
        (hbeyond (by omega))
    split
    · next hsigma =>
      refine iff_of_false ?_ (hbeyond (by omega))
      split
      · exact ne_target h (x := Char.ofNat 0x3C2) (by simp) (by decide)
      · exact ne_target h (x := Char.ofNat 0x3C3) (by simp) (by decide)
    · cases target with
      | nil => simp
      | cons d target =>
        rw [List.forall_mem_cons] at h
        rw [List.singleton_append, List.map_cons, List.cons.injEq, List.cons.injEq,
          lowerChar_eq_iff h.1, ih h.2]

/-- Lower-casing adds a character to each `U+0130` and changes the others one by one. -/
theorem length_lowerFrom :
    (lowerFrom before cs).length = cs.length + cs.countP (·.toNat = 0x130) := by
  induction cs generalizing before with
  | nil => rfl
  | cons c cs ih =>
    rw [lowerFrom, List.length_append, ih, List.length_cons, List.countP_cons]
    by_cases hdot : c.toNat = 0x130
    · simp only [hdot, if_true, decide_true, List.length_cons, List.length_nil]
      omega
    · have hone : (if c.toNat = 0x3A3 then
          if meetsLetter before && !meetsLetter cs then [Char.ofNat 0x3C2] else [Char.ofNat 0x3C3]
        else [lowerChar c]).length = 1 := by
        split
        · split <;> rfl
        · rfl
      simp only [hone, hdot, decide_false, Bool.false_eq_true, if_false]
      omega

/-- The lower-case form of a text is `t`, which is in ASCII and holds no k, when in ASCII it is. -/
theorem lowerCase_eq_iff (h : ∀ d ∈ t.toList, FromAscii d) :
    lowerCase s = t ↔ s.toLower = t := by
  have hlower : s.toLower.toList = s.toList.map Char.toLower := String.toList_map
  rw [lowerCase, ← String.toList_inj, ← String.toList_inj, String.toList_ofList, hlower]
  exact lowerFrom_eq_iff h

/-- The kelvin sign, for which the k is left out. -/
example : lowerCase "\u212A" = "k" ∧ "\u212A".toLower ≠ "k" := by decide +kernel

end AgentPlans.Text
