import AgentPlans.Proofs.Text.LowerCase
import AgentPlans.Registry

/-!
# The registry that a program starts with

`resolve_default`: it knows one agent, by its id and by its name. A reference is
one of these when it is so in ASCII, the case of letters and white space around
it aside (`isDefault_iff`).
-/

namespace AgentPlans

theorem Agent.amazonQ_id_ne_empty (root : String) : (Agent.amazonQ root).id ≠ "" := by
  have hid : (Agent.amazonQ root).id = "amazon-q-cli" := rfl
  rw [hid]
  decide

namespace Registry

def IsDefault (ref : String) : Prop :=
  referenceKey ref = "amazon-q-cli" ∨ referenceKey ref = "amazon q cli"

instance (ref : String) : Decidable (IsDefault ref) := inferInstanceAs (Decidable (_ ∨ _))

/-- Lower-casing leads nothing else to the id or the name: there is no k in them. -/
theorem isDefault_iff {ref : String} :
    IsDefault ref ↔
      (Text.trim ref).toLower = "amazon-q-cli" ∨ (Text.trim ref).toLower = "amazon q cli" := by
  have hid : ∀ d ∈ "amazon-q-cli".toList, Text.FromAscii d := by simp [Text.FromAscii]
  have hname : ∀ d ∈ "amazon q cli".toList, Text.FromAscii d := by simp [Text.FromAscii]
  rw [IsDefault, referenceKey, key, Text.lowerCase_eq_iff hid, Text.lowerCase_eq_iff hname]

theorem key_id : key "amazon-q-cli" = "amazon-q-cli" := by decide +kernel

theorem key_name : key "Amazon Q CLI" = "amazon q cli" := by decide +kernel

theorem findId?_default (root k : String) :
    (default root).findId? k = if "amazon-q-cli" = k then some (Agent.amazonQ root) else none := by
  have hid : key (Agent.amazonQ root).id = "amazon-q-cli" := key_id
  rw [findId?, default, List.find?_cons, hid, List.find?_nil]
  by_cases h : "amazon-q-cli" = k
  · rw [if_pos h, beq_iff_eq.mpr h]
  · rw [if_neg h, beq_eq_false_iff_ne.mpr h]

theorem firstNamed_default (root k : String) :
    firstNamed k (default root).agents =
      .ok (if "amazon q cli" = k then some (Agent.amazonQ root) else none) := by
  have hname : (Agent.amazonQ root).name = .ok "Amazon Q CLI" := rfl
  simp only [default, firstNamed, hname, bind, Except.bind, key_name, beq_iff_eq]
  split <;> rfl

theorem resolve_default (root ref : String) :
    (default root).resolve ref =
      .ok (if IsDefault ref then some (Agent.amazonQ root) else none) := by
  simp only [resolve, findId?_default, firstNamed_default]
  by_cases hid : "amazon-q-cli" = referenceKey ref
  · have hdefault : IsDefault ref := .inl hid.symm
    simp [← hid, hdefault]
  · by_cases hname : "amazon q cli" = referenceKey ref
    · have hdefault : IsDefault ref := .inr hname.symm
      simp [← hname, hdefault]
    · have hother : ¬ IsDefault ref := by
        rintro (h | h)
        · exact hid h.symm
        · exact hname h.symm
      simp [hid, hname, hother]

theorem resolve_of_default {ref : String} (root : String) (h : IsDefault ref) :
    (default root).resolve ref = .ok (some (Agent.amazonQ root)) := by
  rw [resolve_default, if_pos h]

theorem resolve_of_not_default {ref : String} (root : String) (h : ¬ IsDefault ref) :
    (default root).resolve ref = .ok none := by
  rw [resolve_default, if_neg h]

end Registry

end AgentPlans
