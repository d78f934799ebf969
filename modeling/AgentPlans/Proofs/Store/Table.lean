import AgentPlans.Proofs.Results
import AgentPlans.Proofs.Store.Row
import AgentPlans.Store.Table
import Mathlib.Data.List.Nodup
import Mathlib.Data.String.Basic

/-!
# The store holds plans

The ids of the rows are distinct, and stay so (`Store.Distinct`). `Store.Holds`
ties a store to the list of plans that were stored, in their order. Each
operation of the store is then an operation on that list: inserting adds a plan
at the end unless its id is taken, fetching finds the plan with an id, and a
listing is a prefix of the plans from the latest to the earliest.
-/

namespace AgentPlans

def Plan.latestFirst (plans : List Plan) : List Plan :=
  plans.reverse.mergeSort fun a b => decide (b.createdAt ≤ a.createdAt)

namespace Store

def Distinct (s : Store) : Prop := ∀ rows, s.table = some rows → (rows.map Row.planId).Nodup

/-- The store has been initialised and keeps these plans, the one stored first in front. -/
structure Holds (s : Store) (plans : List Plan) : Prop where
  table : s.table = some (plans.map Plan.row)
  storable : ∀ p ∈ plans, p.Storable
  ids_distinct : (plans.map Plan.planId).Nodup

variable {s t : Store} {d : Draft} {p q : Plan} {plans : List Plan} {id : String}

theorem insert_ok (h : s.insert d = .ok t) :
    ∃ rows row, s.table = some rows ∧ d.row = .ok row ∧ holdsId rows row.planId = false ∧
      t = ⟨some (rows ++ [row])⟩ := by
  unfold insert rows at h
  cases htable : s.table with
  | none => simp [htable, bind, Except.bind] at h
  | some rows =>
    cases hrow : d.row with
    | error e => simp [htable, hrow, bind, Except.bind] at h
    | ok row =>
      simp only [htable, hrow, bind, Except.bind] at h
      split at h
      · simp at h
      · next hid => exact ⟨rows, row, rfl, rfl, by simpa using hid, (Except.ok.inj h).symm⟩

theorem draft_row (p : Plan) : p.draft.row = .ok p.row := rfl

theorem holdsId_eq_false {rows : List Row} :
    holdsId rows (some id) = false ↔ some id ∉ rows.map Row.planId := by
  simp [holdsId]

theorem Distinct.insert (h : s.Distinct) (hid : p.planId = some id)
    (ht : s.insert p.draft = .ok t) : t.Distinct := by
  obtain ⟨rows, row, hrows, hrow, hnew, rfl⟩ := insert_ok ht
  obtain rfl : p.row = row := Except.ok.inj hrow
  rw [Plan.planId_row, hid, holdsId_eq_false] at hnew
  rintro rows' ⟨⟩
  rw [List.map_append, List.map_singleton]
  refine List.nodup_append.mpr ⟨h rows hrows, by simp, ?_⟩
  rintro id' hid' _ hrowId rfl
  obtain rfl : id' = p.planId := List.mem_singleton.mp hrowId
  exact hnew (hid ▸ hid')

theorem distinct_iff (h : s.table = some (plans.map Plan.row)) :
    s.Distinct ↔ (plans.map Plan.planId).Nodup := by
  simp [Distinct, h, Function.comp_def]

theorem Holds.insert (h : s.Holds plans) (hp : p.Storable) (hid : p.planId = some id)
    (ht : s.insert p.draft = .ok t) : t.Holds (plans ++ [p]) := by
  have hdistinct := ((distinct_iff h.table).mpr h.ids_distinct).insert hid ht
  obtain ⟨rows, row, hrows, hrow, -, rfl⟩ := insert_ok ht
  obtain rfl : p.row = row := Except.ok.inj hrow
  obtain rfl : plans.map Plan.row = rows := Option.some.inj (h.table.symm.trans hrows)
  have htable : some (plans.map Plan.row ++ [p.row]) = some ((plans ++ [p]).map Plan.row) := by simp
  refine ⟨htable, ?_, (distinct_iff htable).mp hdistinct⟩
  intro q hq
  rcases List.mem_append.mp hq with hq | hq
  · exact h.storable q hq
  · rw [List.mem_singleton.mp hq]
    exact hp

theorem insert_new {rows : List Row} (hs : s.table = some rows) (hid : p.planId = some id)
    (hnew : some id ∉ rows.map Row.planId) : s.insert p.draft = .ok ⟨some (rows ++ [p.row])⟩ := by
  have hheld : holdsId rows p.planId = false := by rw [hid, holdsId_eq_false.mpr hnew]
  simp [Store.insert, Store.rows, hs, draft_row, hheld, bind, Except.bind]

theorem Holds.insert_eq (h : s.Holds plans) (hid : p.planId = some id) :
    s.insert p.draft =
      if p.planId ∈ plans.map Plan.planId then .error .duplicateId
      else .ok ⟨some (plans.map Plan.row ++ [p.row])⟩ := by
  split
  · next htaken =>
    have hheld : holdsId (plans.map Plan.row) p.planId = true := by
      rw [hid, ← Bool.not_eq_false, holdsId_eq_false]
      simpa [hid, Function.comp_def] using htaken
    simp [Store.insert, rows, h.table, draft_row, hheld, bind, Except.bind]
  · next hnew => exact insert_new h.table hid (by simpa [hid, Function.comp_def] using hnew)

theorem Holds.initialise (h : s.Holds plans) : s.initialise.Holds plans :=
  ⟨by simp [Store.initialise, h.table], h.storable, h.ids_distinct⟩

-- ---------------------------------------------------------------------------
-- Reading
-- ---------------------------------------------------------------------------

theorem Holds.fetch (h : s.Holds plans) :
    s.fetch id = .ok ((plans.find? (·.planId == some id)).map Plan.row) := by
  simp only [Store.fetch, rows, h.table, bind, Except.bind, pure, Except.pure, List.find?_map]
  rfl

theorem Distinct.fetch (h : s.Distinct) {rows : List Row} (hrows : s.table = some rows)
    (hp : p.row ∈ rows) (hid : p.planId = some id) : s.fetch id = .ok (some p.row) := by
  have hfind := find?_of_distinct (h rows hrows) hp
  rw [Plan.planId_row, hid] at hfind
  simp only [Store.fetch, Store.rows, hrows, bind, Except.bind, pure, Except.pure, hfind]

theorem map_row_latestFirst (plans : List Plan) :
    latestFirst (plans.map Plan.row) = (Plan.latestFirst plans).map Plan.row := by
  rw [latestFirst, Plan.latestFirst, ← List.map_reverse]
  exact (List.map_mergeSort (f := Plan.row)
    (s := fun a b => decide (b.createdAt ≤ a.createdAt)) fun _ _ _ _ => rfl).symm

theorem Holds.recent (h : s.Holds plans) (limit : Number) :
    s.recent limit =
      match limit.toInt64? with
      | none => .error .limitMismatch
      | some n =>
        .ok ((if n < 0 then Plan.latestFirst plans
          else (Plan.latestFirst plans).take n.toNat).map Plan.row) := by
  simp only [Store.recent, rows, h.table, bind, Except.bind, pure, Except.pure]
  cases limit.toInt64? with
  | none => rfl
  | some n => by_cases hn : n < 0 <;> simp [hn, map_row_latestFirst]

-- ---------------------------------------------------------------------------
-- Rows in another order
-- ---------------------------------------------------------------------------

section Reordered

variable {rows rows' : List Row}

theorem latestFirst_perm (rows : List Row) : (latestFirst rows).Perm rows :=
  (List.mergeSort_perm _ _).trans (List.reverse_perm rows)

theorem latestFirst_pairwise (rows : List Row) :
    (latestFirst rows).Pairwise fun a b => b.createdAt ≤ a.createdAt := by
  have hsorted : (latestFirst rows).Pairwise fun a b => decide (b.createdAt ≤ a.createdAt) = true := by
    refine List.pairwise_mergeSort ?_ ?_ rows.reverse
    · intro a b c hab hbc
      exact decide_eq_true (le_trans (of_decide_eq_true hbc) (of_decide_eq_true hab))
    · intro a b
      rcases le_total a.createdAt b.createdAt with h | h <;> simp [h]
  exact hsorted.imp fun h => of_decide_eq_true h

/-- Where no two creation times are equal, a listing does not tell in which order the rows were
inserted. -/
theorem latestFirst_congr (h : rows.Perm rows') (hd : (rows.map Row.createdAt).Nodup) :
    latestFirst rows = latestFirst rows' := by
  have hperm := (latestFirst_perm rows).trans (h.trans (latestFirst_perm rows').symm)
  refine hperm.eq_of_pairwise ?_ (latestFirst_pairwise rows) (latestFirst_pairwise rows')
  intro a b ha hb hba hab
  have ha' : a ∈ rows := (latestFirst_perm rows).mem_iff.mp ha
  have hb' : b ∈ rows := h.mem_iff.mpr ((latestFirst_perm rows').mem_iff.mp hb)
  exact List.inj_on_of_nodup_map hd ha' hb' (le_antisymm hab hba)

theorem find?_congr (h : rows.Perm rows') (hd : (rows.map Row.planId).Nodup) (id : String) :
    rows.find? (·.planId == some id) = rows'.find? (·.planId == some id) := by
  induction h with
  | nil => rfl
  | cons a _ ih =>
    rw [List.map_cons, List.nodup_cons] at hd
    rw [List.find?_cons, List.find?_cons, ih hd.2]
  | swap a b rows =>
    have hne : a.planId ≠ b.planId := by
      rintro hab
      simp [hab] at hd
    by_cases ha : a.planId = some id
    · have hb : b.planId ≠ some id := fun hb => hne (ha.trans hb.symm)
      simp [ha, hb]
    · by_cases hb : b.planId = some id <;> simp [ha, hb]
  | trans hfirst _ ih ih' => exact (ih hd).trans (ih' ((hfirst.map _).nodup_iff.mp hd))

end Reordered

-- ---------------------------------------------------------------------------
-- Plans that are held
-- ---------------------------------------------------------------------------

theorem Holds.find?_eq (h : s.Holds plans) (hp : p ∈ plans) (hid : p.planId = some id) :
    plans.find? (·.planId == some id) = some p := by
  rw [← hid]
  exact find?_of_distinct h.ids_distinct hp

end Store

theorem Plan.mem_latestFirst {p : Plan} {plans : List Plan} :
    p ∈ Plan.latestFirst plans ↔ p ∈ plans := by
  simp [Plan.latestFirst]

theorem Plan.latestFirst_perm (plans : List Plan) : (Plan.latestFirst plans).Perm plans :=
  (List.mergeSort_perm _ _).trans (List.reverse_perm plans)

end AgentPlans
