import AgentPlans.Proofs.Environment

/-!
# Masking again and again

`redactions_compose`: masking with some secrets and then with others is masking
with all of them, in whatever order and however often they are listed. Names stay
where they are, names that are array indices included, and an empty value stays
empty, so that a variable that is unset can be told from a masked one however
often it is masked.

The mask is an ordinary text. Nothing tells a masked value from one that was the
mask before, and so masking it again leaves it as it is.
-/

namespace AgentPlans

namespace Environment

variable {secrets more : List String} {env : Environment} {name : String}
  {value : Utf16}

-- ---------------------------------------------------------------------------
-- Values
-- ---------------------------------------------------------------------------

theorem shown_eq_empty_iff : shown secrets name value = "" ↔ value = "" := by
  by_cases h : name ∈ secrets
  · rw [shown_secret h]
    split <;> simp_all [mask]
  · rw [shown_open h]

theorem shown_eq_mask_iff :
    shown secrets name value = mask ↔ name ∈ secrets ∧ value ≠ "" ∨ value = mask := by
  by_cases h : name ∈ secrets
  · rw [shown_secret h]
    by_cases hv : value = ""
    · simp [hv, mask]
    · simp [h, hv]
  · rw [shown_open h]
    simp [h]

theorem shown_shown : shown more name (shown secrets name value) =
    shown (secrets ++ more) name value := by
  by_cases h : name ∈ secrets
  · have hboth : name ∈ secrets ++ more := List.mem_append_left more h
    rw [shown_secret h, shown_secret hboth]
    by_cases hv : value = ""
    · rw [if_pos hv, shown_eq_empty_iff]
    · rw [if_neg hv, shown_eq_mask_iff]
      exact .inr rfl
  · rw [shown_open h]
    by_cases hm : name ∈ more
    · rw [shown_secret hm, shown_secret (List.mem_append_right secrets hm)]
    · have hneither : name ∉ secrets ++ more := by simp [h, hm]
      rw [shown_open hm, shown_open hneither]

theorem shown_congr (h : name ∈ secrets ↔ name ∈ more) :
    shown secrets name value = shown more name value := by
  by_cases hs : name ∈ secrets
  · rw [shown_secret hs, shown_secret (h.mp hs)]
  · rw [shown_open hs, shown_open (fun hm => hs (h.mpr hm))]

-- ---------------------------------------------------------------------------
-- Environments
-- ---------------------------------------------------------------------------

theorem names_redact (h : Members.reserved ∉ env.map Prod.fst) :
    (env.redact secrets).map Prod.fst = env.map Prod.fst := by
  rw [redact_eq h, List.map_map]
  rfl

theorem get?_redact (h : Members.reserved ∉ env.map Prod.fst) (name : String) :
    (env.redact secrets).get? name = (env.get? name).map (shown secrets name) := by
  rw [redact_eq h, Members.get?_mapValues]

theorem redact_redact (h : Members.reserved ∉ env.map Prod.fst) (secrets more : List String) :
    (env.redact secrets).redact more = env.redact (secrets ++ more) := by
  have hmasked : Members.reserved ∉ (env.redact secrets).map Prod.fst := by
    rwa [names_redact h]
  rw [redact_eq hmasked, redact_eq h, redact_eq h, List.map_map]
  exact List.map_congr_left fun m _ => congrArg (Prod.mk m.1) shown_shown

theorem redact_congr (h : ∀ name, name ∈ secrets ↔ name ∈ more) (env : Environment) :
    env.redact secrets = env.redact more := by
  simp only [redact, shown_congr (h _)]

theorem settled_redact (h : env.Settled) (hr : Members.reserved ∉ env.map Prod.fst) :
    (env.redact secrets).Settled := by
  rw [redact_eq hr]
  exact h.mapValues (shown secrets)

end Environment

/-- Masking keeps the names and their order, masks exactly the secrets that have a value, keeps what
is empty and what is not secret, and composes: only the set of all secrets counts, and what was
alike before it is the same after it. -/
theorem redactions_compose (env : Environment) (secrets more : List String)
    (unreserved : Members.reserved ∉ env.map Prod.fst) :
    (env.redact secrets).map Prod.fst = env.map Prod.fst ∧
      (env.Settled → (env.redact secrets).Settled) ∧
      (∀ name, (env.redact secrets).get? name = some Environment.mask ↔
        (name ∈ secrets ∧ ∃ value, env.get? name = some value ∧ value ≠ "") ∨
          env.get? name = some Environment.mask) ∧
      (∀ name, (env.redact secrets).get? name = some "" ↔ env.get? name = some "") ∧
      (∀ name, name ∉ secrets → (env.redact secrets).get? name = env.get? name) ∧
      (env.redact secrets).redact more = env.redact (secrets ++ more) ∧
      env.redact (secrets ++ more) = (env.redact more).redact secrets ∧
      (env.redact secrets).redact secrets = env.redact secrets ∧
      (∀ others, (∀ name, name ∈ secrets ↔ name ∈ others) →
        env.redact secrets = env.redact others) ∧
      ∀ env', Environment.Alike secrets env env' → env.redact secrets = env'.redact secrets := by
  have hcompose := Environment.redact_redact unreserved
  have hfound : ∀ name, (env.redact secrets).get? name =
      (env.get? name).map (Environment.shown secrets name) := Environment.get?_redact unreserved
  refine ⟨Environment.names_redact unreserved,
    fun hsettled => Environment.settled_redact hsettled unreserved, ?_, ?_, ?_,
    hcompose secrets more, ?_, ?_, fun others h => Environment.redact_congr h env,
    fun env' h => Environment.redact_alike h⟩
  · intro name
    rw [hfound]
    cases env.get? name with
    | none => simp
    | some value => simp [Environment.shown_eq_mask_iff]
  · intro name
    rw [hfound]
    cases env.get? name with
    | none => simp
    | some value => simp [Environment.shown_eq_empty_iff]
  · intro name hname
    rw [hfound]
    cases env.get? name with
    | none => rfl
    | some value => rw [Option.map_some, Environment.shown_open hname]
  · rw [hcompose more secrets]
    exact Environment.redact_congr (fun name => by simp [or_comm]) env
  · rw [hcompose secrets secrets]
    exact Environment.redact_congr (fun name => by simp) env

/-- A variable with an index for its name, an empty one, one that is set and one that is the mask. -/
def assorted : Environment := [("7", "seven"), ("TOKEN", ""), ("KEY", "AKIA"), ("OLD", "***")]

theorem redactions_compose_assorted :
    Members.reserved ∉ assorted.map Prod.fst ∧ assorted.Settled ∧
      (assorted.redact ["KEY", "TOKEN", "KEY"]).redact ["7", "ABSENT"] =
        assorted.redact ["KEY", "TOKEN", "KEY", "7", "ABSENT"] ∧
      assorted.redact ["KEY", "TOKEN", "KEY", "7", "ABSENT"] =
        ([("7", "***"), ("TOKEN", ""), ("KEY", "***"), ("OLD", "***")] : Environment) := by
  have hunreserved : Members.reserved ∉ assorted.map Prod.fst := by decide
  obtain ⟨-, -, -, -, -, hcompose, -⟩ :=
    redactions_compose assorted ["KEY", "TOKEN", "KEY"] ["7", "ABSENT"] hunreserved
  have hsettled : assorted.Settled := by
    rw [Members.Settled]
    decide
  exact ⟨hunreserved, hsettled, hcompose, by decide⟩

end AgentPlans
