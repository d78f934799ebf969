import AgentPlans.Proofs.Number.Whole
import AgentPlans.Proofs.Service.Stored
import AgentPlans.Proofs.Service.Trace
import AgentPlans.Proofs.Sorting
import AgentPlans.Proofs.Store.Recall
import AgentPlans.Proofs.Time.IsoText
import Mathlib.Order.OrderDual

/-!
# The order of listings

The store puts plans in the order of their creation times as texts. `Makings`
ties a run to the plans that it stored, each with the instant that the clock
showed, and in the years of four digits the order of the texts is the order of
those instants (`latestFirst_makings`). So a listing is newest first in time,
however the clock ran: it may have gone back or stood still.
-/

namespace AgentPlans

open OrderDual (toDual)

/-- A plan that was stored, and the instant that the clock showed then. -/
structure Making where
  plan : Plan
  reading : Time.Instant

def Agent.Numbered (agent : Agent) : Prop :=
  ∀ task commands, agent.commands task = .ok commands →
    ∀ c ∈ commands, c.maxTimeoutSec.IsBinary64

namespace Service

/-- What a call adds to the stored plans. -/
inductive Makes (s : Service) (c : Call) : List Making → Prop
  | stored {ref : String} {task : Utf16} {agent : Agent} {plan : Plan} {now : Time.Instant}
    (asked : c.operation.creation? = some (ref, task))
    (resolved : s.registry.resolve ref = .ok (some agent)) (clock : c.around.clock = some now)
    (built : Plan.build agent task c.around.source (s.handed c.unique).nextId c.around.clock =
      .ok plan)
    (rows : (s.step c).1.store.table = s.store.table.map (· ++ [plan.row])) :
    Makes s c [⟨plan, now⟩]
  | nothing (kept : (s.step c).1.store = s.store) : Makes s c []

abbrev Makings : Service → List Call → List Making → Prop := Trace Makes

variable {s : Service} {c : Call} {calls : List Call} {m : Making} {made order : List Making}
  {limit : Number}

-- ---------------------------------------------------------------------------
-- One call
-- ---------------------------------------------------------------------------

theorem exists_makes (s : Service) (c : Call) : ∃ now, Makes s c now := by
  cases hasked : c.operation.creation? with
  | none => exact ⟨[], .nothing (perform_reading hasked).2.1⟩
  | some asked =>
    obtain ⟨ref, task⟩ := asked
    have hstep : (s.step c).1 = ((s.handed c.unique).create c.around ref task).1 :=
      perform_asking hasked
    rcases (create_creation (s.handed c.unique) c.around ref task).store with
      ⟨hkept, -⟩ | ⟨agent, plan, hresolved, -, hbuilt, hinsert, -⟩
    · exact ⟨[], .nothing (by rw [hstep, hkept]; rfl)⟩
    · obtain ⟨now, hclock, -⟩ := (Plan.build_ok hbuilt).createdAt
      obtain ⟨rows, row, htable, hrow, -, hafter⟩ := Store.insert_ok hinsert
      obtain rfl : plan.row = row := Except.ok.inj hrow
      refine ⟨[⟨plan, now⟩], .stored hasked hresolved hclock hbuilt ?_⟩
      rw [hstep, hafter]
      have htable' : s.store.table = some rows := htable
      rw [htable']
      rfl

theorem Makes.table (h : Makes s c made) {rows : List Row} (hrows : s.store.table = some rows) :
    (s.step c).1.store.table = some (rows ++ made.map (·.plan.row)) := by
  cases h with
  | stored asked resolved clock built after => rw [after, hrows]; rfl
  | nothing kept => rw [kept, hrows, List.map_nil, List.append_nil]

theorem Makes.dated (h : Makes s c made) :
    ∀ m ∈ made, c.operation.creation?.isSome = true ∧ c.around.clock = some m.reading ∧
      m.plan.createdAt = m.reading.iso := by
  cases h with
  | nothing => simp
  | @stored _ _ _ _ now asked resolved clock built rows =>
    intro m hm
    rw [List.mem_singleton.mp hm]
    obtain ⟨now', hclock, hcreated⟩ := (Plan.build_ok built).createdAt
    obtain rfl : now = now' := Option.some.inj (clock.symm.trans hclock)
    exact ⟨by rw [asked]; rfl, clock, hcreated⟩

-- ---------------------------------------------------------------------------
-- Runs
-- ---------------------------------------------------------------------------

theorem exists_makings (s : Service) (calls : List Call) : ∃ made, Makings s calls made :=
  (Trace.exists (fun _ => True)
    (fun s c _ _ => (exists_makes s c).imp fun _ h => ⟨h, trivial⟩) trivial).1

theorem Makings.table (h : Makings s calls made) {rows : List Row}
    (hrows : s.store.table = some rows) :
    (s.run calls).1.store.table = some (rows ++ made.map (·.plan.row)) := by
  induction h generalizing rows with
  | nil => simpa [run] using hrows
  | cons first _ ih =>
    rw [run_cons, ih (first.table hrows)]
    simp

theorem Makings.dated (h : Makings s calls made) :
    ∀ m ∈ made, (∃ c ∈ calls, c.operation.creation?.isSome = true ∧
      c.around.clock = some m.reading) ∧ m.plan.createdAt = m.reading.iso := by
  refine h.forall_mem ?_
  intro s c now hc hmakes m hm
  obtain ⟨hasked, hclock, hiso⟩ := hmakes.dated m hm
  exact ⟨⟨c, hc, hasked, hclock⟩, hiso⟩

theorem Makings.numbers (h : Makings s calls made)
    (hs : ∀ agent ∈ s.registry.agents, agent.Numbered) :
    ∀ m ∈ made, ∀ c ∈ m.plan.commands, c.maxTimeoutSec.IsBinary64 := by
  refine Trace.forall_mem_of (fun t => t.registry = s.registry) ?_ rfl h
  intro t c now _ ht hmakes
  refine ⟨?_, step_registry.trans ht⟩
  cases hmakes with
  | nothing => simp
  | stored asked resolved clock built rows =>
    intro m hm
    rw [List.mem_singleton.mp hm]
    rw [ht] at resolved
    exact hs _ (Registry.resolve_mem resolved) _ _ (Plan.build_ok built).commands

-- ---------------------------------------------------------------------------
-- The order
-- ---------------------------------------------------------------------------

/-- The store puts plans in the order of their creation times as texts. -/
theorem latestFirst_texts (made : List Making) :
    ∃ order, SortedBy (fun m => toDual m.plan.createdAt) made.reverse order ∧
      Store.latestFirst (made.map (·.plan.row)) = order.map (·.plan.row) := by
  let le (a b : Making) : Bool := decide (b.plan.createdAt ≤ a.plan.createdAt)
  refine ⟨made.reverse.mergeSort le, sortedBy_of_le ?_ ?_ ?_, ?_⟩
  · intro a b c hab hbc
    exact decide_eq_true (le_trans (of_decide_eq_true hbc) (of_decide_eq_true hab))
  · intro a b
    rcases le_total a.plan.createdAt b.plan.createdAt with h | h <;> simp [le, h]
  · intro a _ b _
    rw [decide_eq_true_iff, OrderDual.toDual_le_toDual]
  · rw [Store.latestFirst, ← List.map_reverse]
    exact (List.map_mergeSort (f := fun m : Making => m.plan.row)
      (s := fun a b => decide (b.createdAt ≤ a.createdAt)) fun _ _ _ _ => rfl).symm

/-- In the years of four digits that is the order of their instants. -/
theorem latestFirst_makings
    (h : ∀ m ∈ made, m.reading.FourDigitYear ∧ m.plan.createdAt = m.reading.iso) :
    ∃ order, SortedBy (fun m => toDual m.reading.millis) made.reverse order ∧
      Store.latestFirst (made.map (·.plan.row)) = order.map (·.plan.row) := by
  obtain ⟨order, hsorted, hrows⟩ := latestFirst_texts made
  refine ⟨order, hsorted.congr_key ?_, hrows⟩
  intro a ha b hb
  obtain ⟨hayear, hadate⟩ := h a (List.mem_reverse.mp ha)
  obtain ⟨hbyear, hbdate⟩ := h b (List.mem_reverse.mp hb)
  rw [OrderDual.toDual_lt_toDual, OrderDual.toDual_lt_toDual, hadate, hbdate]
  exact Time.Instant.iso_lt_iff hbyear hayear

-- ---------------------------------------------------------------------------
-- Listings
-- ---------------------------------------------------------------------------

theorem list_rows {rows : List Row} {bound count : Int} {q : Rat}
    (hrows : s.store.table = some rows) (hbound : s.maxListLimit = .ofInt bound) (hpos : 0 < bound)
    (hlimit : limit.value? = some q) (hcount : count = max 1 (min bound q.floor)) :
    s.list limit =
      if count < 9223372036854775808 then
        ((Store.latestFirst rows).take count.toNat).mapM readRow
      else .error (.store .limitMismatch) := by
  have hsafe : s.safeLimit limit = .ofInt count := by
    rw [safeLimit, hbound, hcount]
    exact Number.max_min_floor hlimit hpos
  have hone : 0 < count := hcount ▸ lt_of_lt_of_le (by decide) (le_max_left _ _)
  rw [list, hsafe, recent]
  simp only [Store.recent, Store.rows, hrows, bind, Except.bind, pure, Except.pure,
    Number.toInt64?_ofInt hone]
  by_cases hk : count < 9223372036854775808
  · simp only [if_pos hk, if_neg (not_lt_of_gt hone)]
  · simp only [if_neg hk]

theorem readRow_recalls {p : Plan} (h : ∀ c ∈ p.commands, c.maxTimeoutSec.IsBinary64) :
    ∃ q, readRow p.row = .ok q ∧ p.Recalls q := by
  obtain ⟨q, hq, hrecalls⟩ := p.recalls h
  exact ⟨q, by rw [readRow, hq], hrecalls⟩

/-- From an initialised store without plans, while the clock shows instants in the years of four
digits to the calls that ask for plans, a listing is newest first in time: it recalls the first
plans of those that were stored, in the order of the instants that the clock showed, of equal
instants the plan stored last in front. As many are listed as the limits allow, and none that is
left out is later than one that is listed. -/
theorem list_chronological (s : Service) (calls : List Call) (new : s.store.table = some [])
    (numbered : ∀ agent ∈ s.registry.agents, agent.Numbered)
    (years : ∀ c ∈ calls, c.operation.creation?.isSome = true →
      ∀ now, c.around.clock = some now → Time.Instant.FourDigitYear now)
    (bound : Int) (bounded : s.maxListLimit = .ofInt bound) (positive : 0 < bound) (limit : Number)
    (q : Rat) (finite : limit.value? = some q) (count : Int)
    (clamped : count = max 1 (min bound q.floor)) :
    ∃ made order, Makings s calls made ∧
      (s.run calls).1.store.table = some (made.map (·.plan.row)) ∧
      SortedBy (fun m => toDual m.reading.millis) made.reverse order ∧
      (if count < 9223372036854775808 then
        ∃ shown, (s.run calls).1.list limit = .ok shown ∧
          List.Forall₂ (fun m p => m.plan.Recalls p) (order.take count.toNat) shown
      else (s.run calls).1.list limit = .error (.store .limitMismatch)) ∧
      ∀ listed ∈ order.take count.toNat, ∀ left ∈ order.drop count.toNat,
        left.reading.millis ≤ listed.reading.millis := by
  obtain ⟨made, hmade⟩ := exists_makings s calls
  have htable := hmade.table new
  rw [List.nil_append] at htable
  have hdated : ∀ m ∈ made, m.reading.FourDigitYear ∧ m.plan.createdAt = m.reading.iso := by
    intro m hm
    obtain ⟨⟨c, hc, hasked, hclock⟩, hiso⟩ := hmade.dated m hm
    exact ⟨years c hc hasked _ hclock, hiso⟩
  -- The store sorts by text; the years of four digits make that the order of the instants.
  obtain ⟨order, hsorted, horder⟩ := latestFirst_makings hdated
  have hlist := list_rows htable (run_maxListLimit.trans bounded) positive finite clamped
  refine ⟨made, order, hmade, htable, hsorted, ?_, ?_⟩
  · split
    · next hcount =>
      rw [if_pos hcount, horder, ← List.map_take, List.mapM_map] at hlist
      rw [hlist]
      refine exists_mapM_ok fun m hm => readRow_recalls ?_
      have hmem : m ∈ made :=
        List.mem_reverse.mp (hsorted.mem_iff.mp (List.mem_of_mem_take hm))
      exact hmade.numbers numbered m hmem
    · next hcount => rw [hlist, if_neg hcount]
  · intro listed hlisted left hleft
    exact OrderDual.toDual_le_toDual.mp (hsorted.take_le hlisted hleft)

theorem numbered_amazonQ (root : String) : (Agent.amazonQ root).Numbered := by
  intro task commands h c hc
  obtain rfl := Except.ok.inj h
  rw [List.mem_singleton.mp hc]
  exact Number.isBinary64_ofInt (n := 1800) (by decide)

theorem numbered_started : ∀ agent ∈ started.registry.agents, agent.Numbered :=
  List.forall_mem_singleton.mpr (numbered_amazonQ "/srv")

/-- The clock goes back over the epoch and to the year 0, and then it stands still. -/
def turning : List Call := [1, -1, -62167219200000, -62167219200000].map fun millis =>
  ⟨.create "amazon-q-cli" "mend it", ⟨Time.Instant.ofMillis? millis, fun _ => none⟩, none⟩

theorem list_chronological_turning :
    started.store.table = some [] ∧ (∀ agent ∈ started.registry.agents, agent.Numbered) ∧
      (∀ c ∈ turning, c.operation.creation?.isSome = true →
        ∀ now, c.around.clock = some now → Time.Instant.FourDigitYear now) ∧
      started.maxListLimit = .ofInt 100 ∧ (0 : Int) < 100 ∧
      (Number.finite (7 / 2)).value? = some (7 / 2) ∧
      (3 : Int) = max 1 (min 100 (7 / 2 : Rat).floor) ∧
      ∃ made order, Makings started turning made ∧
        (started.run turning).1.store.table = some (made.map (·.plan.row)) ∧
        SortedBy (fun m => toDual m.reading.millis) made.reverse order ∧
        (if (3 : Int) < 9223372036854775808 then
          ∃ shown, (started.run turning).1.list (.finite (7 / 2)) = .ok shown ∧
            List.Forall₂ (fun m p => m.plan.Recalls p) (order.take (3 : Int).toNat) shown
        else
          (started.run turning).1.list (.finite (7 / 2)) = .error (.store .limitMismatch)) ∧
        ∀ listed ∈ order.take (3 : Int).toNat, ∀ left ∈ order.drop (3 : Int).toNat,
          left.reading.millis ≤ listed.reading.millis := by
  have hyears : ∀ c ∈ turning, c.operation.creation?.isSome = true →
      ∀ now, c.around.clock = some now → Time.Instant.FourDigitYear now := by
    intro c hc _ now hnow
    simp only [turning, List.map_cons, List.map_nil, List.mem_cons, List.not_mem_nil,
      or_false] at hc
    rcases hc with rfl | rfl | rfl | rfl <;> obtain rfl := Option.some.inj hnow <;> decide
  have hclamped : (3 : Int) = max 1 (min 100 (7 / 2 : Rat).floor) := by decide +kernel
  exact ⟨rfl, numbered_started, hyears, rfl, by decide, rfl, hclamped,
    list_chronological started turning rfl numbered_started hyears 100 rfl (by decide)
      (.finite (7 / 2)) (7 / 2) rfl 3 hclamped⟩

end Service

end AgentPlans
