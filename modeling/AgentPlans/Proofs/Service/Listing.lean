import AgentPlans.Proofs.Audit.Record
import AgentPlans.Proofs.Number.Literal
import AgentPlans.Proofs.Service.Answers
import AgentPlans.Proofs.Service.Chronology

/-!
# Limits on listings

A limit comes as a value of a query. `LimitValue limit q`: it counts as `q`,
either because it is left out or because its text is a numeric literal; what has
no such value is refused. `listing_sliced`: a listing is the front of all the
plans that are stored, from the latest on, as long as the limit, rounded down
and kept between one and the service's bound, allows. A limit that the store
cannot take, at `2^63` and beyond, is asked for only under a bound as great.
-/

namespace AgentPlans

open OrderDual (toDual)

-- ---------------------------------------------------------------------------
-- Values that have a text
-- ---------------------------------------------------------------------------

namespace Json

/-- Values that can be put into a sentence: no object in them has a `toString` of its own. -/
inductive Readable : Json → Prop
  | null : Readable .null
  | bool (b : Bool) : Readable (.bool b)
  | number (n : Number) : Readable (.number n)
  | string (s : String) : Readable (.string s)
  | array {items : List Json} (h : ∀ v ∈ items, Readable v) : Readable (.array items)
  | object {members : List (String × Json)} (h : Members.contains members "toString" = false) :
    Readable (.object members)

variable {v : Json} {items : List Json} {first others : List Char}

theorem exists_commaJoined (h : ∀ v ∈ items, ∃ cs, v.phrase? = some cs) :
    ∃ cs, commaJoined? items = some cs := by
  induction items with
  | nil => exact ⟨[], rfl⟩
  | cons v items ih =>
    obtain ⟨first, hfirst⟩ := h v List.mem_cons_self
    obtain ⟨others, hothers⟩ := ih fun w hw => h w (List.mem_cons_of_mem v hw)
    cases v <;> simp [commaJoined?, hfirst, hothers]

theorem exists_joined (h : ∀ v ∈ items, ∃ cs, v.phrase? = some cs) :
    ∃ cs, joined? items = some cs := by
  cases items with
  | nil => exact ⟨[], rfl⟩
  | cons v items =>
    obtain ⟨first, hfirst⟩ := h v List.mem_cons_self
    obtain ⟨others, hothers⟩ := exists_commaJoined fun w hw => h w (List.mem_cons_of_mem v hw)
    cases v <;> simp [joined?, hfirst, hothers]

theorem Readable.exists_phrase (h : Readable v) : ∃ cs, v.phrase? = some cs := by
  induction h with
  | null => exact ⟨_, rfl⟩
  | bool b => exact ⟨_, rfl⟩
  | number n => exact ⟨_, rfl⟩
  | string s => exact ⟨_, rfl⟩
  | array _ ih => exact exists_joined ih
  | object h => exact ⟨_, by rw [phrase?, h]; rfl⟩

end Json

-- ---------------------------------------------------------------------------
-- What a limit counts as
-- ---------------------------------------------------------------------------

theorem Number.isFinite_iff {n : Number} : n.isFinite = true ↔ ∃ q, n.value? = some q := by
  cases n <;> simp [isFinite, value?]

theorem Number.ofText_eq {text : String} {n : Number} (hb : Text.isBlankText text = false)
    (hf : n.isFinite = true) : ofText text = n ↔ LiteralText (Text.trimChars text.toList) n := by
  have hne : Text.trimChars text.toList ≠ [] := by
    intro hnil
    have hblank := Text.trim_eq_empty_iff text
    rw [Text.trim, hnil, hb] at hblank
    exact absurd (hblank.mp rfl) (by decide)
  rw [ofText, ← literal?_eq_some hne]
  cases literal? (Text.trimChars text.toList) with
  | some m => simp
  | none =>
    refine iff_of_false ?_ (by simp)
    rintro rfl
    cases hf

namespace Service

/-- The finite number that a limit counts as. -/
inductive LimitValue : Option Json → Rat → Prop
  | absent : LimitValue none 20
  | null : LimitValue (some .null) 20
  | given {v : Json} {text : String} {n : Number} {q : Rat} (given : v ≠ .null)
    (read : v.phraseText? = some text) (filled : Text.isBlankText text = false)
    (literal : Number.LiteralText (Text.trimChars text.toList) n) (finite : n.value? = some q) :
    LimitValue (some v) q

def allowed (bound : Int) (q : Rat) : Int := max 1 (min bound q.floor)

variable {s : Service} {around : Surroundings} {limit : Option Json} {v : Json} {text : String}
  {q a b : Rat} {bound : Int} {rows : List Row} {shown : List Plan}

theorem limitText_given (h : v ≠ .null) (hread : v.phraseText? = some text) :
    limitText (some v) = .ok text := by
  cases v <;> simp_all [limitText]

theorem limitOf_text (h : limitText limit = .ok text) :
    limitOf limit =
      if Text.isBlankText text || !(Number.ofText text).isFinite then
        .error (.refused .limitNotNumber)
      else .ok (Number.ofText text) := by
  rw [limitOf, h]
  rfl

theorem LimitValue.limitOf (h : LimitValue limit q) :
    ∃ n, limitOf limit = .ok n ∧ n.value? = some q := by
  cases h with
  | absent => exact ⟨20, rfl, rfl⟩
  | null => exact ⟨20, rfl, rfl⟩
  | @given v text n q hgiven hread hfilled hliteral hfinite =>
    have hf : n.isFinite = true := Number.isFinite_iff.mpr ⟨q, hfinite⟩
    have hn : Number.ofText text = n := (Number.ofText_eq hfilled hf).mpr hliteral
    refine ⟨n, ?_, hfinite⟩
    rw [limitOf_text (limitText_given hgiven hread), hn, hfilled, hf]
    rfl

theorem limitOf_refused (hread : ∀ v, limit = some v → v.Readable)
    (h : ∀ q, ¬ LimitValue limit q) : limitOf limit = .error (.refused .limitNotNumber) := by
  cases limit with
  | none => exact absurd .absent (h 20)
  | some v =>
    by_cases hnull : v = .null
    · rw [hnull] at h
      exact absurd .null (h 20)
    obtain ⟨cs, hcs⟩ := (hread v rfl).exists_phrase
    have htext : v.phraseText? = some (String.ofList cs) := by rw [Json.phraseText?, hcs]; rfl
    rw [limitOf_text (limitText_given hnull htext)]
    cases hfilled : Text.isBlankText (String.ofList cs) with
    | true => rfl
    | false =>
      cases hf : (Number.ofText (String.ofList cs)).isFinite with
      | false => rfl
      | true =>
        obtain ⟨q, hq⟩ := Number.isFinite_iff.mp hf
        exact absurd (.given hnull htext hfilled ((Number.ofText_eq hfilled hf).mp rfl) hq) (h q)

-- ---------------------------------------------------------------------------
-- Slices
-- ---------------------------------------------------------------------------

theorem one_le_allowed (bound : Int) (q : Rat) : 1 ≤ allowed bound q := le_max_left _ _

theorem allowed_le (h : 0 < bound) : allowed bound q ≤ bound := max_le h (min_le_left _ _)

theorem allowed_mono (h : a ≤ b) : allowed bound a ≤ allowed bound b :=
  max_le_max le_rfl (min_le_min le_rfl (Rat.floor_monotone h))

theorem respond_listPlans_ok {n : Number} (h : limitOf limit = .ok n) :
    (s.respond around (.listPlans limit)).2 = answer 200 plansBody (s.list n) := by
  simp only [respond, h]

theorem respond_listPlans_error {e : Failure} (h : limitOf limit = .error e) :
    (s.respond around (.listPlans limit)).2 = e.response := by
  simp only [respond, h]

theorem respond_listPlans (hrows : s.store.table = some rows)
    (hshown : (Store.latestFirst rows).mapM readRow = .ok shown)
    (hbound : s.maxListLimit = .ofInt bound) (hpos : 0 < bound) (h : LimitValue limit q) :
    (s.respond around (.listPlans limit)).2 =
      if allowed bound q < 9223372036854775808 then
        ⟨200, plansBody (shown.take (allowed bound q).toNat)⟩
      else ⟨500, errorBody "datatype mismatch" "UNKNOWN"⟩ := by
  obtain ⟨n, hlimit, hn⟩ := h.limitOf
  rw [respond_listPlans_ok hlimit, list_rows hrows hbound hpos hn rfl]
  have hcount : max 1 (min bound q.floor) = allowed bound q := rfl
  rw [hcount]
  split
  · rw [mapM_take hshown]
    rfl
  · rfl

theorem respond_listPlans_refused (hread : ∀ v, limit = some v → v.Readable)
    (h : ∀ q, ¬ LimitValue limit q) :
    (s.respond around (.listPlans limit)).2 =
      ⟨400, errorBody "limit must be a number" "VALIDATION_ERROR"⟩ :=
  respond_listPlans_error (limitOf_refused hread h)

/-- From an initialised store without plans, every listing of the plans that were stored shows the
first of them, from the latest creation time on, of equal times the plan stored last in front. As
many are shown as the limit allows, but at least one, and at most the bound. A limit that is no
finite number is refused, and nothing else is, but the store does not take `2^63` and more. -/
theorem listing_sliced (s : Service) (calls : List Call) (new : s.store.table = some [])
    (numbered : ∀ agent ∈ s.registry.agents, agent.Numbered) (bound : Int)
    (bounded : s.maxListLimit = .ofInt bound) (positive : 0 < bound) :
    ∃ made order shown, Makings s calls made ∧
      SortedBy (fun m => toDual m.plan.createdAt) made.reverse order ∧
      List.Forall₂ (fun m p => m.plan.Recalls p) order shown ∧
      ∀ around,
        let reply limit := ((s.run calls).1.respond around (.listPlans limit)).2
        (∀ limit, (∀ v, limit = some v → v.Readable) →
          (reply limit = ⟨400, errorBody "limit must be a number" "VALIDATION_ERROR"⟩ ↔
            ∀ q, ¬ LimitValue limit q)) ∧
        (∀ limit q, LimitValue limit q → 1 ≤ allowed bound q ∧ allowed bound q ≤ bound ∧
          reply limit =
            if allowed bound q < 9223372036854775808 then
              ⟨200, plansBody (shown.take (allowed bound q).toNat)⟩
            else ⟨500, errorBody "datatype mismatch" "UNKNOWN"⟩) ∧
        reply none = answer 200 plansBody ((s.run calls).1.list defaultListLimit) ∧
        reply (some .null) = reply none ∧
        ∀ limit limit' a b, LimitValue limit a → LimitValue limit' b → a ≤ b →
          allowed bound b < 9223372036854775808 →
          ∃ front back, reply limit = ⟨200, plansBody front⟩ ∧
            reply limit' = ⟨200, plansBody back⟩ ∧ front <+: back := by
  obtain ⟨made, hmade⟩ := exists_makings s calls
  have htable := hmade.table new
  rw [List.nil_append] at htable
  obtain ⟨order, hsorted, horder⟩ := latestFirst_texts made
  obtain ⟨shown, hshown, hrecalls⟩ : ∃ shown,
      (order.map (·.plan.row)).mapM readRow = .ok shown ∧
        List.Forall₂ (fun m p => m.plan.Recalls p) order shown := by
    rw [List.mapM_map]
    refine exists_mapM_ok fun m hm => readRow_recalls ?_
    exact hmade.numbers numbered m (List.mem_reverse.mp (hsorted.mem_iff.mp hm))
  rw [← horder] at hshown
  have hbound : (s.run calls).1.maxListLimit = .ofInt bound := run_maxListLimit.trans bounded
  refine ⟨made, order, shown, hmade, hsorted, hrecalls, ?_⟩
  intro around reply
  have hreply : ∀ limit q, LimitValue limit q → reply limit =
      if allowed bound q < 9223372036854775808 then
        ⟨200, plansBody (shown.take (allowed bound q).toNat)⟩
      else ⟨500, errorBody "datatype mismatch" "UNKNOWN"⟩ :=
    fun limit q h => respond_listPlans htable hshown hbound positive h
  refine ⟨?_, ?_, respond_listPlans_ok rfl, rfl, ?_⟩
  · intro limit hread
    refine ⟨?_, respond_listPlans_refused hread⟩
    intro hrefused q hq
    rw [hreply limit q hq] at hrefused
    split at hrefused <;> cases hrefused
  · exact fun limit q h => ⟨one_le_allowed bound q, allowed_le positive, hreply limit q h⟩
  · intro limit limit' a b ha hb hab hlt
    have hle : allowed bound a ≤ allowed bound b := allowed_mono hab
    refine ⟨_, _, (hreply limit a ha).trans (if_pos (lt_of_le_of_lt hle hlt)),
      (hreply limit' b hb).trans (if_pos hlt), ?_⟩
    exact List.take_prefix_take_left (Int.toNat_le_toNat hle)

theorem limitValue_string {text : String} {n : Number} (hb : Text.isBlankText text = false)
    (hn : Number.ofText text = n) (hq : n.value? = some q) : LimitValue (some (.string text)) q := by
  exact .given (by simp) (Json.phraseText?_string text) hb
    ((Number.ofText_eq hb (Number.isFinite_iff.mpr ⟨q, hq⟩)).mp hn) hq

theorem listing_sliced_hexadecimal :
    started.store.table = some [] ∧ (∀ agent ∈ started.registry.agents, agent.Numbered) ∧
      started.maxListLimit = .ofInt 100 ∧ (0 : Int) < 100 ∧
      ∃ made order shown, Makings started turning made ∧
        SortedBy (fun m => toDual m.plan.createdAt) made.reverse order ∧
        List.Forall₂ (fun m p => m.plan.Recalls p) order shown ∧
        ∀ around, ((started.run turning).1.respond around (.listPlans (some (.string " 0x3\n")))).2 =
          ⟨200, plansBody (shown.take 3)⟩ := by
  have hlimit : LimitValue (some (.string " 0x3\n")) 3 :=
    limitValue_string (n := .ofInt 3) (by decide) (by decide +kernel) rfl
  have hallowed : allowed 100 3 = 3 := by decide +kernel
  obtain ⟨made, order, shown, hmade, hsorted, hrecalls, hreply⟩ :=
    listing_sliced started turning rfl numbered_started 100 rfl (by decide)
  refine ⟨rfl, numbered_started, rfl, by decide, made, order, shown, hmade, hsorted, hrecalls, ?_⟩
  intro around
  have hshown := ((hreply around).2.1 _ _ hlimit).2.2
  rw [hallowed] at hshown
  exact hshown

/-- A service whose bound lies beyond what its store takes. -/
def boundless : Service := { started with maxListLimit := .ofInt 9223372036854775808 }

theorem listing_sliced_beyond :
    boundless.store.table = some [] ∧ boundless.maxListLimit = .ofInt 9223372036854775808 ∧
      LimitValue (some (.string "9223372036854775808")) 9223372036854775808 ∧
      ((boundless.run []).1.respond ⟨none, fun _ => none⟩
        (.listPlans (some (.string "9223372036854775808")))).2 =
          ⟨500, errorBody "datatype mismatch" "UNKNOWN"⟩ := by
  have hlimit : LimitValue (some (.string "9223372036854775808")) 9223372036854775808 :=
    limitValue_string (n := .ofInt 9223372036854775808) (by decide) (by decide +kernel) rfl
  have hallowed : ¬ allowed 9223372036854775808 9223372036854775808 < 9223372036854775808 := by
    decide +kernel
  have hnone : (Store.latestFirst []).mapM readRow = .ok [] := by
    rw [Store.latestFirst, List.reverse_nil, List.mergeSort_nil]
    rfl
  refine ⟨rfl, rfl, hlimit, ?_⟩
  rw [respond_listPlans rfl hnone rfl (by decide) hlimit, if_neg hallowed]

end Service

end AgentPlans
