import AgentPlans.Proofs.Results
import AgentPlans.Proofs.Text.Lines
import AgentPlans.Proofs.Text.LowerCase
import AgentPlans.Registry
import Mathlib.Data.List.Nodup

/-!
# Agents that were registered

`Registry.registerAll` registers agents in turn. No two that were accepted have
the same id, the case of letters aside (`distinct_registerAll`), so an id without
white space around it leads to its own agent. An id is registered with the white
space around it and looked up without: such an id never leads to its agent, which
may still be reached by its name (`resolve_id_iff`).
-/

namespace AgentPlans

namespace Registry

/-- Registers agents in turn; one that is turned down leaves the registry as it was. -/
def registerAll (r : Registry) : List Agent → Registry
  | [] => r
  | a :: agents =>
    match r.register a with
    | .ok r => r.registerAll agents
    | .error _ => r.registerAll agents

def keys (r : Registry) : List String := r.agents.map fun a => key a.id

def Distinct (r : Registry) : Prop := r.keys.Nodup

variable {r r' : Registry} {a b : Agent} {agents : List Agent} {k s : String}

-- ---------------------------------------------------------------------------
-- Looking up ids
-- ---------------------------------------------------------------------------

theorem findId?_mem (h : r.findId? k = some a) : a ∈ r.agents ∧ key a.id = k :=
  ⟨List.mem_of_find?_eq_some h, by simpa using List.find?_some h⟩

theorem findId?_eq_none : r.findId? k = none ↔ k ∉ r.keys := by
  simp [findId?, keys]

theorem Distinct.findId? (h : r.Distinct) (ha : a ∈ r.agents) :
    r.findId? (key a.id) = some a :=
  find?_of_distinct h ha

-- ---------------------------------------------------------------------------
-- Registering
-- ---------------------------------------------------------------------------

theorem register_ok : r.register a = .ok r' ↔ key a.id ∉ r.keys ∧ r' = ⟨r.agents ++ [a]⟩ := by
  rw [← findId?_eq_none, register]
  cases r.findId? (key a.id) with
  | none => simp [eq_comm]
  | some b => simp

theorem Distinct.register (h : r.Distinct) (hr : r.register a = .ok r') : r'.Distinct := by
  obtain ⟨hnew, rfl⟩ := register_ok.mp hr
  simp only [Distinct, keys, List.map_append, List.map_cons, List.map_nil]
  exact List.nodup_append.mpr ⟨h, by simp, by
    rintro k hk k' hk' rfl
    exact hnew (List.mem_singleton.mp hk' ▸ hk)⟩

theorem Distinct.registerAll (h : r.Distinct) (agents : List Agent) :
    (r.registerAll agents).Distinct := by
  induction agents generalizing r with
  | nil => exact h
  | cons a agents ih =>
    rw [Registry.registerAll]
    cases hr : r.register a with
    | ok r' => exact ih (h.register hr)
    | error e => exact ih h

theorem distinct_empty : empty.Distinct := List.nodup_nil

theorem distinct_registerAll (agents : List Agent) : (empty.registerAll agents).Distinct :=
  distinct_empty.registerAll agents

theorem mem_registerAll (h : a ∈ (r.registerAll agents).agents) : a ∈ r.agents ∨ a ∈ agents := by
  induction agents generalizing r with
  | nil => exact .inl h
  | cons b agents ih =>
    rw [registerAll] at h
    cases hr : r.register b with
    | ok r' =>
      obtain ⟨-, rfl⟩ := register_ok.mp hr
      rw [hr] at h
      rcases ih h with h | h
      · rcases List.mem_append.mp h with h | h
        · exact .inl h
        · exact .inr (List.mem_cons.mpr (.inl (List.mem_singleton.mp h)))
      · exact .inr (List.mem_cons_of_mem b h)
    | error e =>
      rw [hr] at h
      exact (ih h).imp_right (List.mem_cons_of_mem b)

-- ---------------------------------------------------------------------------
-- Ids as references
-- ---------------------------------------------------------------------------

theorem key_trim : key (Text.trim s) = key s ↔ Text.trim s = s := by
  refine ⟨fun h => ?_, fun h => by rw [h]⟩
  have hlength := congrArg (fun t => t.toList.length) h
  simp only [key, Text.lowerCase, Text.trim, String.toList_ofList, Text.length_lowerFrom]
    at hlength
  have hsublist := Text.trimChars_sublist s.toList
  have hcount := hsublist.countP_le (p := (·.toNat = 0x130))
  rw [Text.trim, hsublist.eq_of_length_le (by omega), String.ofList_toList]

theorem key_ne_empty (h : s ≠ "") : key s ≠ "" := by
  intro hkey
  have hlength := congrArg (fun t => t.toList.length) hkey
  simp only [key, Text.lowerCase, String.toList_ofList, Text.length_lowerFrom] at hlength
  have hnil : s.toList = [] := List.length_eq_zero_iff.mp (Nat.eq_zero_of_add_eq_zero_right hlength)
  exact h (String.toList_inj.mp hnil)

theorem referenceKey_ne_empty (h : Text.isBlankText s = false) : referenceKey s ≠ "" := by
  refine key_ne_empty ?_
  rw [Ne, Text.trim_eq_empty_iff, h]
  decide

theorem resolve_of_id (h : Text.isBlankText s = false)
    (hfind : r.findId? (referenceKey s) = some a) : r.resolve s = .ok (some a) := by
  simp only [resolve, if_neg (referenceKey_ne_empty h), hfind]

theorem resolve_of_name (h : Text.isBlankText s = false)
    (hfind : r.findId? (referenceKey s) = none) :
    r.resolve s = firstNamed (referenceKey s) r.agents := by
  simp only [resolve, if_neg (referenceKey_ne_empty h), hfind]

/-- An id leads to its agent if there is no white space around it. Otherwise it does so only where
it is not the id of another agent without the white space, and the agent is the first that has the
name. -/
theorem Distinct.resolve_id_iff (h : r.Distinct) (ha : a ∈ r.agents)
    (hgiven : Text.isBlankText a.id = false) :
    r.resolve a.id = .ok (some a) ↔
      Text.trim a.id = a.id ∨
        referenceKey a.id ∉ r.keys ∧ firstNamed (referenceKey a.id) r.agents = .ok (some a) := by
  rw [← findId?_eq_none]
  cases hfind : r.findId? (referenceKey a.id) with
  | some b =>
    obtain ⟨-, hkey⟩ := findId?_mem hfind
    rw [resolve_of_id hgiven hfind]
    simp only [Except.ok.injEq, Option.some.injEq, reduceCtorEq, false_and, or_false]
    constructor
    · rintro rfl
      exact key_trim.mp hkey.symm
    · intro htrim
      rw [referenceKey, htrim, h.findId? ha] at hfind
      exact (Option.some.inj hfind).symm
  | none =>
    have hpadded : Text.trim a.id ≠ a.id := by
      intro htrim
      rw [referenceKey, htrim, h.findId? ha] at hfind
      cases hfind
    rw [resolve_of_name hgiven hfind]
    simp [hpadded]

end Registry

end AgentPlans
