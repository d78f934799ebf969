import AgentPlans.Proofs.Service.Run

/-!
# What the calls of a run leave

`Trace` ties a run to what its calls leave behind, in the order of the calls,
where a relation says what one call leaves. What holds of every call's share
holds of the whole (`Trace.forall_mem_of`), and a service on which every call leaves
something has a trace of every run (`Trace.exists`).
-/

namespace AgentPlans.Service

variable {α : Type} {Leaves : Service → Call → List α → Prop} {s : Service} {calls : List Call}
  {left : List α}

inductive Trace (Leaves : Service → Call → List α → Prop) : Service → List Call → List α → Prop
  | nil {s : Service} : Trace Leaves s [] []
  | cons {s : Service} {c : Call} {calls : List Call} {now later : List α}
    (first : Leaves s c now) (rest : Trace Leaves (s.step c).1 calls later) :
    Trace Leaves s (c :: calls) (now ++ later)

theorem Trace.exists (Keeps : Service → Prop)
    (step : ∀ s c, c ∈ calls → Keeps s → ∃ now, Leaves s c now ∧ Keeps (s.step c).1)
    (h : Keeps s) : (∃ left, Trace Leaves s calls left) ∧ Keeps (s.run calls).1 := by
  induction calls generalizing s with
  | nil => exact ⟨⟨[], .nil⟩, h⟩
  | cons c calls ih =>
    obtain ⟨now, hnow, hnext⟩ := step s c List.mem_cons_self h
    obtain ⟨⟨later, hlater⟩, hlast⟩ :=
      ih (fun s c hc => step s c (List.mem_cons_of_mem _ hc)) hnext
    exact ⟨⟨now ++ later, .cons hnow hlater⟩, hlast⟩

theorem Trace.forall_mem_of {P : α → Prop} (Keeps : Service → Prop)
    (step : ∀ s c now, c ∈ calls → Keeps s → Leaves s c now →
      (∀ a ∈ now, P a) ∧ Keeps (s.step c).1)
    (hs : Keeps s) (h : Trace Leaves s calls left) : ∀ a ∈ left, P a := by
  -- Along the trace, because it knows which service each call found.
  induction h with
  | nil => simp
  | @cons s c calls now later first _ ih =>
    obtain ⟨hnow, hnext⟩ := step s c now List.mem_cons_self hs first
    intro a ha
    rcases List.mem_append.mp ha with ha | ha
    · exact hnow a ha
    · exact ih (fun s c now hc => step s c now (List.mem_cons_of_mem _ hc)) hnext a ha

theorem Trace.forall_mem {P : α → Prop} (h : Trace Leaves s calls left)
    (hP : ∀ s c now, c ∈ calls → Leaves s c now → ∀ a ∈ now, P a) : ∀ a ∈ left, P a :=
  Trace.forall_mem_of (fun _ => True) (fun s c now hc _ hnow => ⟨hP s c now hc hnow, trivial⟩)
    trivial h

end AgentPlans.Service
