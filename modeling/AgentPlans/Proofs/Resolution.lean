import AgentPlans.Proofs.Registration

/-!
# Registering an agent leaves the others where they are

`LeadsTo` says which agent a reference leads to: the one with that id, else the
first one with that name. `resolve_iff`: this is what looking it up gives, as
long as every agent can tell its name. `registered_apart`: however agents were
registered, one more takes over the references to its id, answers those that led
nowhere before, and changes nothing else.
-/

namespace AgentPlans

def Agent.Named (a : Agent) : Prop := ∃ name, a.name = .ok name

namespace Registry

def Called (k : String) (a : Agent) : Prop := ∃ name, a.name = .ok name ∧ key name = k

/-- The reference is the agent's id or name. A blank reference matches nothing. -/
def Matches (ref : String) (a : Agent) : Prop :=
  referenceKey ref ≠ "" ∧ (key a.id = referenceKey ref ∨ Called (referenceKey ref) a)

/-- The agent that a reference leads to, if it leads to one. An id wins over every name, and of
agents with the same name the first one wins. -/
inductive LeadsTo (agents : List Agent) (ref : String) : Option Agent → Prop
  | byId {a : Agent} (given : referenceKey ref ≠ "") (mem : a ∈ agents)
    (id : key a.id = referenceKey ref) : LeadsTo agents ref (some a)
  | byName {a : Agent} {before after : List Agent} (given : referenceKey ref ≠ "")
    (split : agents = before ++ a :: after) (other : ∀ b ∈ agents, key b.id ≠ referenceKey ref)
    (first : ∀ b ∈ before, ¬ Called (referenceKey ref) b) (called : Called (referenceKey ref) a) :
    LeadsTo agents ref (some a)
  | nowhere (unmatched : ∀ a ∈ agents, ¬ Matches ref a) : LeadsTo agents ref none

def accepted (r : Registry) : List Agent → List Agent
  | [] => []
  | a :: agents =>
    match r.register a with
    | .ok r => a :: r.accepted agents
    | .error _ => r.accepted agents

variable {r r' : Registry} {a b : Agent} {agents more : List Agent} {k ref : String}
  {o : Option Agent}

-- ---------------------------------------------------------------------------
-- Registering in turn
-- ---------------------------------------------------------------------------

theorem agents_registerAll (r : Registry) (agents : List Agent) :
    (r.registerAll agents).agents = r.agents ++ r.accepted agents := by
  induction agents generalizing r with
  | nil => simp [registerAll, accepted]
  | cons a agents ih =>
    rw [registerAll, accepted]
    cases hr : r.register a with
    | ok r' =>
      obtain ⟨-, rfl⟩ := register_ok.mp hr
      simp [ih]
    | error e => exact ih r

theorem agents_empty_registerAll (agents : List Agent) :
    (empty.registerAll agents).agents = empty.accepted agents := by
  rw [agents_registerAll]
  rfl

theorem registerAll_append (r : Registry) (agents more : List Agent) :
    r.registerAll (agents ++ more) = (r.registerAll agents).registerAll more := by
  induction agents generalizing r with
  | nil => rfl
  | cons a agents ih =>
    rw [List.cons_append, registerAll, registerAll]
    cases r.register a with
    | ok r' => exact ih r'
    | error e => exact ih r

theorem mem_accepted (h : a ∈ r.accepted agents) : a ∈ agents := by
  induction agents generalizing r with
  | nil => cases h
  | cons b agents ih =>
    rw [accepted] at h
    split at h
    · rcases List.mem_cons.mp h with rfl | h
      · exact List.mem_cons_self
      · exact List.mem_cons_of_mem b (ih h)
    · exact List.mem_cons_of_mem b (ih h)

theorem mem_keys : k ∈ r.keys ↔ ∃ a ∈ r.agents, key a.id = k := by
  simp [keys]

theorem register_error :
    (∃ e, r.register b = .error e) ↔ ∃ a ∈ r.agents, key a.id = key b.id := by
  rw [← mem_keys, register]
  cases hfind : r.findId? (key b.id) with
  | none => simpa using findId?_eq_none.mp hfind
  | some a =>
    obtain ⟨ha, hkey⟩ := findId?_mem hfind
    simpa [mem_keys] using ⟨a, ha, hkey⟩

-- ---------------------------------------------------------------------------
-- Looking up a reference
-- ---------------------------------------------------------------------------

theorem called_iff {name : String} (h : a.name = .ok name) : Called k a ↔ key name = k := by
  simp [Called, h]

theorem firstNamed_cases (h : ∀ a ∈ agents, a.Named) (k : String) :
    (∃ before a after, agents = before ++ a :: after ∧ (∀ b ∈ before, ¬ Called k b) ∧
        Called k a ∧ firstNamed k agents = .ok (some a)) ∨
      (∀ a ∈ agents, ¬ Called k a) ∧ firstNamed k agents = .ok none := by
  induction agents with
  | nil => exact .inr ⟨by simp, rfl⟩
  | cons a agents ih =>
    obtain ⟨name, hname⟩ := h a List.mem_cons_self
    have hcalled := called_iff (k := k) hname
    by_cases hk : key name = k
    · refine .inl ⟨[], a, agents, rfl, by simp, hcalled.mpr hk, ?_⟩
      simp [firstNamed, hname, hk, bind, Except.bind, pure, Except.pure]
    · have hstep : firstNamed k (a :: agents) = firstNamed k agents := by
        simp [firstNamed, hname, hk, bind, Except.bind]
      have ha : ¬ Called k a := fun hc => hk (hcalled.mp hc)
      rw [hstep]
      rcases ih fun b hb => h b (List.mem_cons_of_mem a hb) with
        ⟨before, c, after, rfl, hbefore, hc, hfound⟩ | ⟨hnone, hfound⟩
      · refine .inl ⟨a :: before, c, after, rfl, ?_, hc, hfound⟩
        exact List.forall_mem_cons.mpr ⟨ha, hbefore⟩
      · exact .inr ⟨List.forall_mem_cons.mpr ⟨ha, hnone⟩, hfound⟩

/-- Looking a reference up ends, and leads where it should. -/
theorem resolve_leadsTo (h : ∀ a ∈ r.agents, a.Named) (ref : String) :
    ∃ o, r.resolve ref = .ok o ∧ LeadsTo r.agents ref o := by
  by_cases hgiven : referenceKey ref = ""
  · refine ⟨none, by simp [resolve, hgiven], .nowhere ?_⟩
    rintro a - ⟨hne, -⟩
    exact hne hgiven
  simp only [resolve, if_neg hgiven]
  cases hfind : r.findId? (referenceKey ref) with
  | some a =>
    obtain ⟨ha, hkey⟩ := findId?_mem hfind
    exact ⟨some a, rfl, .byId hgiven ha hkey⟩
  | none =>
    have hother : ∀ b ∈ r.agents, key b.id ≠ referenceKey ref := fun b hb hkey =>
      findId?_eq_none.mp hfind (mem_keys.mpr ⟨b, hb, hkey⟩)
    rcases firstNamed_cases h (referenceKey ref) with
      ⟨before, a, after, hsplit, hfirst, hcalled, hfound⟩ | ⟨hnone, hfound⟩
    · exact ⟨some a, hfound, .byName hgiven hsplit hother hfirst hcalled⟩
    · refine ⟨none, hfound, .nowhere ?_⟩
      rintro a ha ⟨-, hid | hcalled⟩
      · exact hother a ha hid
      · exact hnone a ha hcalled

theorem LeadsTo.matches (h : LeadsTo agents ref (some a)) : a ∈ agents ∧ Matches ref a := by
  cases h with
  | byId given mem id => exact ⟨mem, given, .inl id⟩
  | byName given split _ _ called => exact ⟨by simp [split], given, .inr called⟩

theorem first_unique {α : Type} {p : α → Prop} {before before' after after' : List α} {x y : α}
    (h : before ++ x :: after = before' ++ y :: after') (hbefore : ∀ z ∈ before, ¬ p z)
    (hbefore' : ∀ z ∈ before', ¬ p z) (hx : p x) (hy : p y) : x = y := by
  induction before generalizing before' with
  | nil =>
    cases before' with
    | nil => exact (List.cons.inj h).1
    | cons z before' =>
      obtain rfl := (List.cons.inj h).1
      exact absurd hx (hbefore' x List.mem_cons_self)
  | cons z before ih =>
    cases before' with
    | nil =>
      obtain rfl := (List.cons.inj h).1
      exact absurd hy (hbefore z List.mem_cons_self)
    | cons z' before' =>
      exact ih (List.cons.inj h).2 (fun w hw => hbefore w (List.mem_cons_of_mem z hw))
        (fun w hw => hbefore' w (List.mem_cons_of_mem z' hw))

theorem LeadsTo.unique {o' : Option Agent} (hd : (agents.map fun a => key a.id).Nodup)
    (h : LeadsTo agents ref o) (h' : LeadsTo agents ref o') : o = o' := by
  cases h with
  | byId given mem id =>
    cases h' with
    | byId _ mem' id' => rw [List.inj_on_of_nodup_map hd mem mem' (id.trans id'.symm)]
    | byName _ _ other => exact absurd id (other _ mem)
    | nowhere unmatched => exact absurd ⟨given, .inl id⟩ (unmatched _ mem)
  | byName given split other first called =>
    cases h' with
    | byId _ mem' id' => exact absurd id' (other _ mem')
    | byName _ split' _ first' called' =>
      rw [first_unique (split.symm.trans split') first first' called called']
    | nowhere unmatched => exact absurd ⟨given, .inr called⟩ (unmatched _ (by simp [split]))
  | nowhere unmatched =>
    cases o' with
    | none => rfl
    | some a => exact absurd h'.matches.2 (unmatched a h'.matches.1)

theorem Distinct.resolve_iff (hd : r.Distinct) (h : ∀ a ∈ r.agents, a.Named) :
    r.resolve ref = .ok o ↔ LeadsTo r.agents ref o := by
  obtain ⟨found, hfound, hleads⟩ := resolve_leadsTo h ref
  rw [hfound]
  constructor
  · intro ho
    exact Except.ok.inj ho ▸ hleads
  · intro ho
    rw [hleads.unique hd ho]

/-- A reference leads to an agent exactly if it matches one. -/
theorem exists_leadsTo (h : ∀ a ∈ r.agents, a.Named) :
    (∃ a, r.resolve ref = .ok (some a)) ↔ ∃ a ∈ r.agents, Matches ref a := by
  obtain ⟨o, hresolved, hleads⟩ := resolve_leadsTo h ref
  constructor
  · rintro ⟨a, ha⟩
    obtain rfl := Except.ok.inj (hresolved.symm.trans ha)
    exact ⟨a, hleads.matches⟩
  · rintro ⟨a, ha, hmatches⟩
    cases hleads with
    | nowhere unmatched => exact absurd hmatches (unmatched a ha)
    | byId => exact ⟨_, hresolved⟩
    | byName => exact ⟨_, hresolved⟩

-- ---------------------------------------------------------------------------
-- One agent more
-- ---------------------------------------------------------------------------

theorem LeadsTo.behind (h : LeadsTo agents ref (some a)) (hb : key b.id ≠ referenceKey ref) :
    LeadsTo (agents ++ [b]) ref (some a) := by
  cases h with
  | byId given mem id => exact .byId given (List.mem_append_left [b] mem) id
  | @byName _ before after given split other first called =>
    have hsplit : agents ++ [b] = before ++ a :: (after ++ [b]) := by simp [split]
    refine .byName given hsplit ?_ first called
    intro c hc
    rcases List.mem_append.mp hc with hc | hc
    · exact other c hc
    · rw [List.mem_singleton.mp hc]
      exact hb

theorem LeadsTo.taken (h : LeadsTo agents ref (some a)) (hb : referenceKey ref = key b.id) :
    LeadsTo (agents ++ [b]) ref (some b) :=
  .byId h.matches.2.1 (List.mem_append_right agents List.mem_cons_self) hb.symm

theorem LeadsTo.answered (h : LeadsTo agents ref none) (hb : Matches ref b) :
    LeadsTo (agents ++ [b]) ref (some b) := by
  cases h with
  | nowhere unmatched =>
    have hmem : b ∈ agents ++ [b] := List.mem_append_right agents List.mem_cons_self
    by_cases hid : key b.id = referenceKey ref
    · exact .byId hb.1 hmem hid
    · have hsplit : agents ++ [b] = agents ++ b :: [] := rfl
      refine .byName hb.1 hsplit ?_ ?_ (hb.2.resolve_left hid)
      · intro c hc
        rcases List.mem_append.mp hc with hc | hc
        · exact fun hkey => unmatched c hc ⟨hb.1, .inl hkey⟩
        · rw [List.mem_singleton.mp hc]
          exact hid
      · exact fun c hc hcalled => unmatched c hc ⟨hb.1, .inr hcalled⟩

theorem LeadsTo.unanswered (h : LeadsTo agents ref none) (hb : ¬ Matches ref b) :
    LeadsTo (agents ++ [b]) ref none := by
  cases h with
  | nowhere unmatched =>
    refine .nowhere fun c hc => ?_
    rcases List.mem_append.mp hc with hc | hc
    · exact unmatched c hc
    · rw [List.mem_singleton.mp hc]
      exact hb

theorem list_named (h : ∀ a ∈ r.agents, a.Named) :
    ∃ entries, r.list = .ok entries ∧
      List.Forall₂ (fun a e => a.id = e.id ∧ a.name = .ok e.name) r.agents entries := by
  refine exists_mapM_ok fun a ha => ?_
  obtain ⟨name, hname⟩ := h a ha
  refine ⟨⟨a.id, name⟩, ?_, rfl, hname⟩
  rw [hname]
  rfl

/-- Agents that can tell their names are registered in turn, some of them in vain. An agent is
turned down exactly if an accepted one has its id, the case of letters aside, and then nothing
changes. The accepted agents have distinct ids, are listed in the order of their acceptance, and a
reference leads to the one with that id, else to the first one with that name. Accepting one more
gives it the references to its id and those that match it and led nowhere; all others stay as they
are. -/
theorem registered_apart (agents : List Agent) (b : Agent)
    (named : ∀ a ∈ b :: agents, ∃ name, a.name = .ok name) (r : Registry)
    (registered : r = empty.registerAll agents) :
    ((∃ e, r.register b = .error e) ↔ ∃ a ∈ empty.accepted agents, key a.id = key b.id) ∧
      (∀ e, r.register b = .error e → empty.registerAll (agents ++ [b]) = r) ∧
      ((empty.accepted agents).map fun a => key a.id).Nodup ∧
      (∃ entries, r.list = .ok entries ∧
        List.Forall₂ (fun a e => a.id = e.id ∧ a.name = .ok e.name) (empty.accepted agents)
          entries) ∧
      (∀ ref, (∃ a, r.resolve ref = .ok (some a)) ↔ ∃ a ∈ empty.accepted agents, Matches ref a) ∧
      (∀ ref o, r.resolve ref = .ok o ↔ LeadsTo (empty.accepted agents) ref o) ∧
      ∀ r', r.register b = .ok r' →
        empty.registerAll (agents ++ [b]) = r' ∧
          empty.accepted (agents ++ [b]) = empty.accepted agents ++ [b] ∧
          ∀ ref,
            (∀ a, r.resolve ref = .ok (some a) →
              r'.resolve ref = .ok (some (if referenceKey ref = key b.id then b else a))) ∧
            (r.resolve ref = .ok none → Matches ref b → r'.resolve ref = .ok (some b)) ∧
            (r.resolve ref = .ok none → ¬ Matches ref b → r'.resolve ref = .ok none) := by
  have hdistinct : r.Distinct := registered ▸ distinct_registerAll agents
  have hagents : empty.accepted agents = r.agents := by
    rw [registered, agents_empty_registerAll]
  have hlast : empty.registerAll (agents ++ [b]) = r.registerAll [b] := by
    rw [registerAll_append, registered]
  have hnamed : ∀ a ∈ r.agents, a.Named := fun a ha =>
    named a (List.mem_cons_of_mem b (mem_accepted (hagents ▸ ha)))
  rw [hagents]
  refine ⟨register_error, ?_, hdistinct, list_named hnamed, fun ref => exists_leadsTo hnamed,
    fun ref o => hdistinct.resolve_iff hnamed, ?_⟩
  · intro e he
    rw [hlast, registerAll, he]
    rfl
  · intro r' hr'
    obtain ⟨-, hbehind⟩ := register_ok.mp hr'
    have hafter : empty.registerAll (agents ++ [b]) = r' := by
      rw [hlast, registerAll, hr']
      rfl
    have hagents' : r'.agents = r.agents ++ [b] := by rw [hbehind]
    have hnamed' : ∀ a ∈ r'.agents, a.Named := by
      intro a ha
      rcases List.mem_append.mp (hagents' ▸ ha) with ha | ha
      · exact hnamed a ha
      · exact named a (List.mem_singleton.mp ha ▸ List.mem_cons_self)
    have hbefore : ∀ {ref o}, r.resolve ref = .ok o ↔ LeadsTo r.agents ref o :=
      hdistinct.resolve_iff hnamed
    have hnow : ∀ {ref o}, r'.resolve ref = .ok o ↔ LeadsTo (r.agents ++ [b]) ref o := by
      intro ref o
      rw [← hagents']
      exact (hdistinct.register hr').resolve_iff hnamed'
    refine ⟨hafter, ?_, fun ref => ⟨?_, ?_, ?_⟩⟩
    · rw [← agents_empty_registerAll, hafter, hagents']
    · intro a ha
      rw [hnow]
      split
      · next hid => exact (hbefore.mp ha).taken hid
      · next hid => exact (hbefore.mp ha).behind (Ne.symm hid)
    · intro hnone hmatches
      exact hnow.mpr ((hbefore.mp hnone).answered hmatches)
    · intro hnone hmatches
      exact hnow.mpr ((hbefore.mp hnone).unanswered hmatches)

def idler (id name : String) : Agent where
  id := id
  secretKeys := []
  name := .ok name
  installScript := .ok "/opt/install.sh"
  environment _ := .ok []
  commands _ := .ok []

def quiet : Agent := idler "q" "Quiet"

/-- It has the id of `quiet`, the case of the letter aside. -/
def loud : Agent := idler "Q" "Loud"

/-- Its id is the name of `quiet`. -/
def shade : Agent := idler "QUIET" "Hush"

theorem registered_apart_shadowed :
    (∀ a ∈ [shade, quiet, loud], ∃ name, a.name = .ok name) ∧
      (⟨[quiet]⟩ : Registry) = empty.registerAll [quiet, loud] ∧
      (⟨[quiet]⟩ : Registry).register shade = .ok ⟨[quiet, shade]⟩ ∧
      (⟨[quiet]⟩ : Registry).resolve " Quiet" = .ok (some quiet) ∧
      (⟨[quiet, shade]⟩ : Registry).resolve " Quiet" = .ok (some shade) := by
  have hquiet : key quiet.id = "q" := by decide +kernel
  have hloud : key loud.id = "q" := by decide +kernel
  have hshade : key shade.id = "quiet" := by decide +kernel
  have hname : key "Quiet" = "quiet" := by decide +kernel
  have hreference : referenceKey " Quiet" = "quiet" := by decide +kernel
  have hnamed : ∀ a ∈ [shade, quiet, loud], ∃ name, a.name = .ok name := by
    simp [shade, quiet, loud, idler]
  have hall : (⟨[quiet]⟩ : Registry) = empty.registerAll [quiet, loud] := by
    simp [registerAll, register, findId?, empty, hquiet, hloud]
  have hregister : (⟨[quiet]⟩ : Registry).register shade = .ok ⟨[quiet, shade]⟩ := by
    simp [register, findId?, hquiet, hshade]
  have hresolve : (⟨[quiet]⟩ : Registry).resolve " Quiet" = .ok (some quiet) := by
    have htold : quiet.name = .ok "Quiet" := rfl
    simp [resolve, findId?, firstNamed, htold, hquiet, hname, hreference, bind, Except.bind, pure,
      Except.pure]
  obtain ⟨-, -, -, -, -, -, hlater⟩ := registered_apart [quiet, loud] shade hnamed _ hall
  obtain ⟨-, -, hmoves⟩ := hlater _ hregister
  have hmoved := (hmoves " Quiet").1 quiet hresolve
  rw [if_pos (hreference.trans hshade.symm)] at hmoved
  exact ⟨hnamed, hall, hregister, hresolve, hmoved⟩

end Registry

end AgentPlans
