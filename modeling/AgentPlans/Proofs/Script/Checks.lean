import AgentPlans.Proofs.Registry
import AgentPlans.Script.Preflight
import Mathlib.Data.List.Infix

/-!
# What the checks look at

A check of a variable sees whether it is filled and, if the variable is required,
whether it still holds the placeholder; it sees no more of the text
(`checkRequired_eq`, `checkOptional_eq`). With the registry that a program starts
with no check is cut short by an agent, so the preflight makes all of its checks
(`preflight_eq`).
-/

namespace AgentPlans.Script

def Unfilled (value : Option String) : Prop :=
  ∀ text, value = some text → Text.isBlankText text = true

def HoldsPlaceholder (value : Option String) : Prop :=
  ∃ text, value = some text ∧ "replace_me".toList <:+: text.toList

def requiredNames : List String := ["AWS_ACCESS_KEY_ID", "AWS_SECRET_ACCESS_KEY"]

def optionalNames : List String :=
  ["AWS_SESSION_TOKEN", "GIT_HASH", "CHAT_DOWNLOAD_ROLE_ARN", "CHAT_BUILD_BUCKET_NAME"]

variable {root : String} {host : Host} {vars : Variables} {value : Option String}

-- ---------------------------------------------------------------------------
-- Variables
-- ---------------------------------------------------------------------------

theorem isFilled_eq_false_iff : isFilled value = false ↔ Unfilled value := by
  cases value <;> simp [isFilled, Unfilled]

instance (value : Option String) : Decidable (Unfilled value) :=
  decidable_of_iff _ isFilled_eq_false_iff

theorem holdsPart_iff {part cs : List Char} : holdsPart part cs = true ↔ part <:+: cs := by
  induction cs with
  | nil => simp [holdsPart]
  | cons c cs ih =>
    rw [holdsPart, Bool.or_eq_true, ih, List.isPrefixOf_iff_prefix, List.infix_cons_iff]

theorem holdsPart_placeholder_iff :
    holdsPart placeholder.toList (value.getD "").toList = true ↔ HoldsPlaceholder value := by
  cases value with
  | none =>
    have hempty : ¬ holdsPart placeholder.toList "".toList = true := by decide
    exact iff_of_false hempty (by simp [HoldsPlaceholder])
  | some text => simp [holdsPart_iff, HoldsPlaceholder, placeholder]

instance (value : Option String) : Decidable (HoldsPlaceholder value) :=
  decidable_of_iff _ holdsPart_placeholder_iff

theorem checkRequired_eq (vars : Variables) (name : String) :
    checkRequired vars name =
      if Unfilled (vars name) then ⟨name, .fail, "missing"⟩
      else if HoldsPlaceholder (vars name) then ⟨name, .fail, "placeholder value detected"⟩
      else ⟨name, .pass, "configured"⟩ := by
  simp only [checkRequired, Bool.not_eq_true', isFilled_eq_false_iff, holdsPart_placeholder_iff]

theorem checkOptional_eq (vars : Variables) (name hint : String) :
    checkOptional vars name hint =
      if Unfilled (vars name) then ⟨name, .warn, "empty (" ++ hint ++ ")"⟩
      else ⟨name, .pass, "configured"⟩ := by
  rw [checkOptional]
  by_cases h : Unfilled (vars name)
  · rw [if_pos h, if_neg (by simp [isFilled_eq_false_iff.mpr h])]
  · have hfilled : isFilled (vars name) = true :=
      eq_true_of_ne_false fun hf => h (isFilled_eq_false_iff.mp hf)
    rw [if_neg h, if_pos hfilled]

-- ---------------------------------------------------------------------------
-- All checks
-- ---------------------------------------------------------------------------

theorem amazonQ_installScript :
    (Agent.amazonQ root).installScript = .ok (amazonQDescription root).installScript := rfl

def defaultAgentChecks (root : String) (host : Host) (ref : String) : List Check :=
  if Registry.IsDefault ref then
    [⟨"DEFAULT_AGENT", .pass, "amazon-q-cli (Amazon Q CLI)"⟩,
      checkScript host (amazonQDescription root).installScript]
  else [⟨"DEFAULT_AGENT", .fail, "unknown agent '" ++ ref ++ "'"⟩]

def checksOf (root : String) (host : Host) (vars : Variables) : List Check :=
  defaultAgentChecks root host (defaultAgentOf vars) ++ hostChecks host vars

theorem agentChecks_default :
    agentChecks (Registry.default root) host vars =
      .ok (defaultAgentChecks root host (defaultAgentOf vars)) := by
  by_cases hk : Registry.IsDefault (defaultAgentOf vars)
  · simp only [agentChecks, Registry.resolve_of_default root hk, defaultAgentChecks, if_pos hk]
    rfl
  · simp only [agentChecks, Registry.resolve_of_not_default root hk, defaultAgentChecks, if_neg hk]
    rfl

theorem preflight_eq :
    preflight (Registry.default root) host vars =
      .exited (verdict (checksOf root host vars)) (report (checksOf root host vars)) "" := by
  unfold preflight
  rw [agentChecks_default]
  rfl

end AgentPlans.Script
