import AgentPlans.Agent
import AgentPlans.Proofs.MemberOrder
import AgentPlans.Proofs.Text.Utf16
import Mathlib.Data.List.Forall2

/-!
# Environments and their masks

Two environments are alike, given which names are secret, when they differ at
most in the values of secrets that are set in both. The mask makes alike
environments equal, so whatever is done with a masked environment cannot tell
them apart.

An agent that is described by data gives its fixed variables and then the
forwarded ones, each where its description puts it.
-/

namespace AgentPlans

-- ---------------------------------------------------------------------------
-- Masking
-- ---------------------------------------------------------------------------

/-- Two values of a variable that may differ only if the variable is secret and both are set. -/
def ValuesAlike (secret : Prop) (value₁ value₂ : Utf16) : Prop :=
  (¬ secret → value₁ = value₂) ∧ (secret → (value₁ = "" ↔ value₂ = ""))

def Environment.Alike (secrets : List String) : Environment → Environment → Prop :=
  List.Forall₂ fun x y => x.1 = y.1 ∧ ValuesAlike (x.1 ∈ secrets) x.2 y.2

variable {secrets : List String} {env₁ env₂ : Environment} {name : String}
  {value value₁ value₂ : Utf16}

theorem Environment.shown_secret (h : name ∈ secrets) :
    shown secrets name value = if value = "" then ("" : Utf16) else mask := by
  by_cases hv : value = "" <;> simp [shown, h, hv]

theorem Environment.shown_open (h : name ∉ secrets) :
    shown secrets name value = value := by
  simp [shown, h]

theorem Environment.shown_alike (h : ValuesAlike (name ∈ secrets) value₁ value₂) :
    shown secrets name value₁ = shown secrets name value₂ := by
  by_cases hs : name ∈ secrets
  · rw [shown_secret hs, shown_secret hs]
    simp only [h.2 hs]
  · rw [h.1 hs]

/-- Without the reserved name, masking changes values only. -/
theorem Environment.redact_eq {env : Environment} (h : Members.reserved ∉ env.map Prod.fst) :
    env.redact secrets = env.map fun x => (x.1, shown secrets x.1 x.2) := by
  rw [redact, List.filter_eq_self.mpr]
  intro x hx
  exact bne_iff_ne.mpr fun hr => h (hr ▸ List.mem_map_of_mem hx)

theorem Environment.redact_alike (h : Environment.Alike secrets env₁ env₂) :
    env₁.redact secrets = env₂.redact secrets := by
  induction h with
  | nil => rfl
  | @cons x y env₁ env₂ hxy _ ih =>
    obtain ⟨name, value₁⟩ := x
    obtain ⟨name', value₂⟩ := y
    obtain ⟨rfl, hvalues⟩ : name = name' ∧ ValuesAlike (name ∈ secrets) value₁ value₂ := hxy
    simp only [redact] at ih ⊢
    by_cases hr : name = Members.reserved
    · simpa [hr] using ih
    · simp [hr, ih, shown_alike hvalues]

-- ---------------------------------------------------------------------------
-- Agents described by data
-- ---------------------------------------------------------------------------

/-- Names that are all different, and none an index, stand in the order of the description. -/
theorem AgentDescription.environment_eq {d : AgentDescription} {source : Source}
    (hi : ∀ name ∈ d.fixed.map Prod.fst ++ d.forwarded, Members.index? name = none)
    (hn : (d.fixed.map Prod.fst ++ d.forwarded).Nodup) :
    d.environment source =
      d.fixed ++ d.forwarded.map fun name => (name, (source name).getD "") := by
  have hnames : d.fixed.map Prod.fst ++ d.forwarded =
      (d.fixed ++ d.forwarded.map fun name => (name, (source name).getD "")).map Prod.fst := by
    simp [Function.comp_def]
  rw [hnames] at hi hn
  rw [environment, ← Members.foldl_insert_ordered, List.foldl_map]
  exact Members.ordered_of_no_index (fun m hm => hi m.1 (List.mem_map_of_mem hm)) hn

def amazonQCredentials : List String :=
  ["AWS_ACCESS_KEY_ID", "AWS_SECRET_ACCESS_KEY", "AWS_SESSION_TOKEN"]

def amazonQOpen : List String := ["GIT_HASH", "CHAT_DOWNLOAD_ROLE_ARN", "CHAT_BUILD_BUCKET_NAME"]

theorem amazonQ_environment (root : String) (source : Source) :
    (amazonQDescription root).environment source =
      ("AMAZON_Q_SIGV4", ("1" : Utf16)) ::
        (amazonQCredentials ++ amazonQOpen).map fun name => (name, (source name).getD "") := by
  refine AgentDescription.environment_eq ?_ ?_
  · simp only [amazonQDescription]
    decide
  · simp only [amazonQDescription]
    decide

/-- The environment as it is shown: a credential tells only whether it is set. -/
def amazonQShown (source : Source) : Environment :=
  ("AMAZON_Q_SIGV4", ("1" : Utf16)) ::
    (amazonQCredentials.map fun name =>
      (name, if (source name).getD "" = "" then ("" : Utf16) else Environment.mask)) ++
    amazonQOpen.map fun name => (name, (source name).getD "")

theorem amazonQ_redact (root : String) (source : Source) :
    ((amazonQDescription root).environment source).redact amazonQCredentials =
      amazonQShown source := by
  have hcredentials : ∀ name ∈ amazonQCredentials, Environment.shown amazonQCredentials name
      ((source name).getD "") =
        if (source name).getD "" = "" then ("" : Utf16) else Environment.mask :=
    fun name hname => Environment.shown_secret hname
  have hopen : ∀ name ∈ amazonQOpen, Environment.shown amazonQCredentials name
      ((source name).getD "") = (source name).getD "" := by
    have hdisjoint : ∀ name ∈ amazonQOpen, name ∉ amazonQCredentials := by decide
    exact fun name hname => Environment.shown_open (hdisjoint name hname)
  rw [amazonQ_environment, Environment.redact_eq, List.map_append, List.map_cons, List.map_append,
    List.map_map, List.map_map, amazonQShown]
  · refine congrArg₂ List.cons rfl (congrArg₂ List.append ?_ ?_)
    · exact List.map_congr_left fun name hname => congrArg _ (hcredentials name hname)
    · exact List.map_congr_left fun name hname => congrArg _ (hopen name hname)
  · rw [List.map_cons, List.map_map]
    simp only [Function.comp_def, List.map_id']
    decide

end AgentPlans
