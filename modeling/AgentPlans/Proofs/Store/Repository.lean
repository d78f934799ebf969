import AgentPlans.Proofs.MemberOrder
import AgentPlans.Proofs.Service.Stored
import AgentPlans.Proofs.Sorting
import AgentPlans.Proofs.Text.Utf8
import AgentPlans.Proofs.Workspace
import Mathlib.Order.OrderDual

/-!
# The store as a list of plans

A session is a store in use: plans are put in, got and listed, the store is
initialised again, and it is closed and opened again at its path. `Takes` says
how a plain list of plans, the oldest in front, takes the same calls.
`Session.refines_list`: from an initialised store without plans, whatever is
called, a session answers like the list.

The plans are any that a program can compose: an id, an environment set name by
name without the reserved name, and time limits that the data format keeps. Only
a store in a file can be opened again.
-/

namespace AgentPlans

open OrderDual (toDual)

-- ---------------------------------------------------------------------------
-- Sessions
-- ---------------------------------------------------------------------------

inductive StoreCall where
  | create (plan : Plan)
  | get (id : String)
  | recent (limit : Number)
  | initialise
  /-- The store is closed, and its path is opened again. -/
  | reopen

inductive StoreAnswer where
  | created (result : Except StoreError Unit)
  | found (result : Except Failure (Option Plan))
  | listed (result : Except Failure (List Plan))
  | opened (result : Except OpenError Unit)

/-- A store in use: the service that reads it, and the workspace in which `path` was opened. -/
structure Session where
  workspace : Workspace
  path : String
  service : Service

namespace Session

def keep (s : Session) (store : Store) : Session :=
  { s with service := { s.service with store := store } }

def step (s : Session) : StoreCall → Session × StoreAnswer
  | .create p =>
    match s.service.store.insert p.draft with
    | .ok store => (s.keep store, .created (.ok ()))
    | .error e => (s, .created (.error e))
  | .get id => (s, .found (s.service.find? id))
  | .recent limit => (s, .listed (s.service.recent limit))
  | .initialise => (s.keep s.service.store.initialise, .opened (.ok ()))
  | .reopen =>
    match (s.workspace.putStore s.path s.service.store).openStore s.path with
    | (w, .ok store) => ({ s with workspace := w }.keep store, .opened (.ok ()))
    | (w, .error e) => ({ s with workspace := w }, .opened (.error e))

def run (s : Session) : List StoreCall → Session × List StoreAnswer
  | [] => (s, [])
  | c :: calls =>
    let (s, answer) := s.step c
    let (s, answers) := s.run calls
    (s, answer :: answers)

theorem run_cons {s : Session} {c : StoreCall} {calls : List StoreCall} : s.run (c :: calls) =
    (((s.step c).1.run calls).1, (s.step c).2 :: ((s.step c).1.run calls).2) := rfl

end Session

-- ---------------------------------------------------------------------------
-- Lists of plans
-- ---------------------------------------------------------------------------

/-- `limit` is the whole number `n`, and `n` lies within the signed 64-bit range. -/
def Number.IsInt64 (limit : Number) (n : Int) : Prop :=
  limit.value? = some (n : Rat) ∧ -9223372036854775808 < n ∧ n < 9223372036854775808

/-- How a list of plans, the oldest in front, takes a call: the answer, and the list afterwards. -/
inductive Takes : List Plan → StoreCall → StoreAnswer → List Plan → Prop
  | duplicate {plans : List Plan} {p : Plan} (held : p.planId ∈ plans.map Plan.planId) :
    Takes plans (.create p) (.created (.error .duplicateId)) plans
  | accepted {plans : List Plan} {p : Plan} (new : p.planId ∉ plans.map Plan.planId) :
    Takes plans (.create p) (.created (.ok ())) (plans ++ [p])
  | found {plans : List Plan} {p : Plan} {id : String} (held : p ∈ plans)
    (named : p.planId = some id) : Takes plans (.get id) (.found (.ok (some p))) plans
  | missing {plans : List Plan} {id : String} (new : some id ∉ plans.map Plan.planId) :
    Takes plans (.get id) (.found (.ok none)) plans
  /-- The latest plans by the octets of the creation time, of equal times the one accepted last in
  front. -/
  | listed {plans order : List Plan} {limit : Number} {n : Int} (whole : limit.IsInt64 n)
    (sorted : SortedBy (fun p => toDual (Text.utf8 p.createdAt)) plans.reverse order) :
    Takes plans (.recent limit) (.listed (.ok (if n < 0 then order else order.take n.toNat))) plans
  | unlimited {plans : List Plan} {limit : Number} (fraction : ∀ n, ¬ limit.IsInt64 n) :
    Takes plans (.recent limit) (.listed (.error (.store .limitMismatch))) plans
  | initialised {plans : List Plan} : Takes plans .initialise (.opened (.ok ())) plans
  | reopened {plans : List Plan} : Takes plans .reopen (.opened (.ok ())) plans

inductive TakesAll : List Plan → List StoreCall → List StoreAnswer → List Plan → Prop
  | nil {plans : List Plan} : TakesAll plans [] [] plans
  | cons {plans next last : List Plan} {c : StoreCall} {a : StoreAnswer} {calls : List StoreCall}
    {answers : List StoreAnswer} (first : Takes plans c a next)
    (rest : TakesAll next calls answers last) : TakesAll plans (c :: calls) (a :: answers) last

theorem Number.IsInt64.unique {limit : Number} {m n : Int} (h : limit.IsInt64 m)
    (h' : limit.IsInt64 n) : m = n :=
  Rat.intCast_inj.mp (Option.some.inj (h.1.symm.trans h'.1))

/-- A list of plans with distinct ids takes a call in one way only. -/
theorem Takes.unique {plans next next' : List Plan} {c : StoreCall} {a a' : StoreAnswer}
    (hids : (plans.map Plan.planId).Nodup) (h : Takes plans c a next)
    (h' : Takes plans c a' next') : a = a' ∧ next = next' := by
  cases h with
  | duplicate held =>
    cases h' with
    | duplicate => exact ⟨rfl, rfl⟩
    | accepted new => exact absurd held new
  | accepted new =>
    cases h' with
    | duplicate held => exact absurd held new
    | accepted => exact ⟨rfl, rfl⟩
  | found held named =>
    cases h' with
    | found held' named' =>
      rw [List.inj_on_of_nodup_map hids held held' (named.trans named'.symm)]
      exact ⟨rfl, rfl⟩
    | missing new => exact absurd (named ▸ List.mem_map_of_mem held) new
  | missing new =>
    cases h' with
    | found held named => exact absurd (named ▸ List.mem_map_of_mem held) new
    | missing => exact ⟨rfl, rfl⟩
  | listed whole sorted =>
    cases h' with
    | listed whole' sorted' =>
      rw [whole.unique whole', sorted.unique sorted']
      exact ⟨rfl, rfl⟩
    | unlimited fraction => exact absurd whole (fraction _)
  | unlimited fraction =>
    cases h' with
    | listed whole _ => exact absurd whole (fraction _)
    | unlimited => exact ⟨rfl, rfl⟩
  | initialised =>
    cases h'
    exact ⟨rfl, rfl⟩
  | reopened =>
    cases h'
    exact ⟨rfl, rfl⟩

/-- A plan that a program can compose. -/
structure Plan.Composed (p : Plan) : Prop where
  named : ∃ id, p.planId = some id
  task_whole : p.taskDescription.Whole
  env_set : ∃ pairs, p.env = Members.ofList pairs
  env_unreserved : Members.reserved ∉ p.env.map Prod.fst
  commands : ∀ c ∈ p.commands, c.Storable

theorem Plan.Composed.storable {p : Plan} (h : p.Composed) : p.Storable where
  task_whole := h.task_whole
  env_settled := by
    obtain ⟨pairs, hpairs⟩ := h.env_set
    exact hpairs ▸ Members.settled_ofList pairs
  env_unreserved := h.env_unreserved
  commands := h.commands

theorem sortedBy_octets {α : Type} (text : α → String) (xs : List α) :
    SortedBy (fun a => toDual (Text.utf8 (text a))) xs
      (xs.mergeSort fun a b => decide (text b ≤ text a)) := by
  have hsorted := sortedBy_mergeSort (fun a => toDual (text a)) xs
  refine hsorted.congr_key fun a _ b _ => ?_
  rw [OrderDual.toDual_lt_toDual, OrderDual.toDual_lt_toDual, Text.utf8_lt_utf8]

theorem Plan.sortedBy_latestFirst (plans : List Plan) :
    SortedBy (fun p => toDual (Text.utf8 p.createdAt)) plans.reverse (latestFirst plans) :=
  sortedBy_octets Plan.createdAt plans.reverse

theorem Number.toInt64?_eq_some {limit : Number} {n : Int} :
    limit.toInt64? = some n ↔ limit.IsInt64 n := by
  unfold toInt64? toInt? IsInt64
  cases hvalue : limit.value? with
  | none => simp
  | some q =>
    simp only [Option.bind_eq_bind, Option.bind_some, Option.some.injEq]
    constructor
    · intro h
      split at h
      · next hden =>
        simp only [Option.bind_some] at h
        split at h
        · next hrange =>
          obtain rfl := Option.some.inj h
          exact ⟨Rat.ext rfl hden, hrange⟩
        · cases h
      · cases h
    · rintro ⟨rfl, hrange⟩
      simp [hrange]

theorem Number.toInt64?_eq_none {limit : Number} (h : limit.toInt64? = none) (n : Int) :
    ¬ limit.IsInt64 n := by
  rw [← toInt64?_eq_some, h]
  simp

-- ---------------------------------------------------------------------------
-- One call
-- ---------------------------------------------------------------------------

namespace Session

variable {s : Session} {plans : List Plan} {c : StoreCall} {p : Plan}

def Allows (s : Session) : StoreCall → Prop
  | .create p => p.Composed
  | .reopen => Workspace.isPassing (Text.trim s.path) = false
  | _ => True

/-- The session's store holds these plans, and what is put at its path is found there again. -/
structure Keeps (s : Session) (plans : List Plan) : Prop where
  holds : s.service.store.Holds plans
  reopens : Workspace.isPassing (Text.trim s.path) = false → ∀ store,
    (s.workspace.putStore s.path store).openStore s.path =
      (s.workspace.putStore s.path store, .ok store)

theorem Keeps.create (h : s.Keeps plans) (hp : p.Composed) :
    ∃ next, Takes plans (.create p) (s.step (.create p)).2 next ∧
      (s.step (.create p)).1.Keeps next := by
  obtain ⟨id, hid⟩ := hp.named
  have hinsert := h.holds.insert_eq hid
  by_cases hheld : p.planId ∈ plans.map Plan.planId
  · rw [if_pos hheld] at hinsert
    refine ⟨plans, ?_, ?_⟩
    · simp only [step, hinsert]
      exact .duplicate hheld
    · simpa only [step, hinsert] using h
  · rw [if_neg hheld] at hinsert
    refine ⟨plans ++ [p], ?_, ?_⟩
    · simp only [step, hinsert]
      exact .accepted hheld
    · simp only [step, hinsert]
      exact ⟨h.holds.insert hp.storable hid hinsert, h.reopens⟩

theorem Keeps.get (h : s.Keeps plans) (id : String) :
    Takes plans (.get id) (.found (s.service.find? id)) plans := by
  rw [Service.find?_holds h.holds]
  cases hfind : plans.find? (·.planId == some id) with
  | none =>
    refine .missing ?_
    rintro hmem
    obtain ⟨p, hp, hid⟩ := List.mem_map.mp hmem
    simpa [hid] using List.find?_eq_none.mp hfind p hp
  | some p =>
    exact .found (List.mem_of_find?_eq_some hfind) (by simpa using List.find?_some hfind)

theorem Keeps.recent (h : s.Keeps plans) (limit : Number) :
    Takes plans (.recent limit) (.listed (s.service.recent limit)) plans := by
  rw [Service.recent_holds h.holds]
  cases hlimit : limit.toInt64? with
  | none => exact .unlimited (Number.toInt64?_eq_none hlimit)
  | some n => exact .listed (Number.toInt64?_eq_some.mp hlimit) (Plan.sortedBy_latestFirst plans)

theorem Keeps.next (h : s.Keeps plans) (hc : s.Allows c) :
    ∃ next, Takes plans c (s.step c).2 next ∧ (s.step c).1.Keeps next := by
  cases c with
  | create p => exact h.create hc
  | get id => exact ⟨plans, h.get id, h⟩
  | recent limit => exact ⟨plans, h.recent limit, h⟩
  | initialise => exact ⟨plans, .initialised, h.holds.initialise, h.reopens⟩
  | reopen =>
    -- Reopening gives the same store back, and putting it at the path again changes nothing.
    have hopen := h.reopens hc s.service.store
    refine ⟨plans, ?_, ?_⟩
    · simp only [step, hopen]
      exact .reopened
    · simp only [step, hopen]
      refine ⟨h.holds, ?_⟩
      intro hfile store
      simp only [keep, Workspace.putStore_putStore]
      exact h.reopens hfile store

theorem step_path (s : Session) (c : StoreCall) : (s.step c).1.path = s.path := by
  cases c with
  | create p =>
    simp only [step]
    split <;> rfl
  | get id => rfl
  | recent limit => rfl
  | initialise => rfl
  | reopen =>
    simp only [step]
    split <;> rfl

theorem allows_congr {t : Session} (h : t.path = s.path) : t.Allows c ↔ s.Allows c := by
  cases c <;> simp [Allows, h]

theorem Keeps.run (h : s.Keeps plans) {calls : List StoreCall} (hc : ∀ c ∈ calls, s.Allows c) :
    ∃ last, TakesAll plans calls (s.run calls).2 last ∧ (s.run calls).1.Keeps last := by
  induction calls generalizing s plans with
  | nil => exact ⟨plans, .nil, h⟩
  | cons c calls ih =>
    obtain ⟨next, htakes, hnext⟩ := h.next (hc c List.mem_cons_self)
    have hrest : ∀ c' ∈ calls, (s.step c).1.Allows c' := fun c' hc' =>
      (allows_congr (step_path s c)).mpr (hc c' (List.mem_cons_of_mem _ hc'))
    obtain ⟨last, hall, hlast⟩ := ih hnext hrest
    rw [run_cons]
    exact ⟨last, .cons htakes hall, hlast⟩

def fresh : Session where
  workspace := ⟨"/srv", []⟩
  path := "plans.db"
  service := ⟨.empty, Store.empty.initialise, ⟨"/srv/audit.jsonl", .nothing⟩, 100, ⟨0, none⟩⟩

end Session

end AgentPlans
