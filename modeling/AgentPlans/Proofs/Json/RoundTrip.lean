import AgentPlans.Proofs.Json.Reading
import AgentPlans.Proofs.Members

/-!
# Data values read back

`Reads v w`: where `v` is written, `w` is read. Texts are read as they are, a
number reads as a number if it is finite and as null if not, and an object gets
its members in the order that reading gives them. Both the compact and the
indented form denote `w` (`Reads.denotes_chars`, `Reads.denotes_indentedChars`).
A value that reads as itself is one that the format keeps (`Faithful`), and both
forms of it are read back (`parse_render`, `parse_renderIndented`).
-/

namespace AgentPlans.Json

/-- What is written, and what is read. -/
inductive Reads : Json → Json → Prop
  | null : Reads .null .null
  | bool (b : Bool) : Reads (.bool b) (.bool b)
  | number {n m : Number} (h : ReadsAsNumber n m) : Reads (.number n) (.number m)
  /-- A number without a finite value is written as null. -/
  | unlimited {n : Number} (h : n.isFinite = false) : Reads (.number n) .null
  | string (t : Utf16) : Reads (.string t) (.string t)
  | array {items : List (Json × Json)} (h : ∀ p ∈ items, Reads p.1 p.2) :
    Reads (.array (items.map Prod.fst)) (.array (items.map Prod.snd))
  | object {members : List (String × Json × Json)} (h : ∀ m ∈ members, Reads m.2.1 m.2.2) :
    Reads (.object (members.map fun m => (m.1, m.2.1)))
      (.object (Members.ofList (members.map fun m => (m.1, m.2.2))))

/-- Values that are the same after they are written and read. -/
inductive Faithful : Json → Prop
  | null : Faithful .null
  | bool (b : Bool) : Faithful (.bool b)
  | whole {n : Int} (h : n.natAbs < Number.wholeLimit) : Faithful (.number (.ofInt n))
  | string (t : Utf16) : Faithful (.string t)
  | array {items : List Json} : (∀ v ∈ items, Faithful v) → Faithful (.array items)
  | object {members : List (String × Json)} :
      Members.Settled members → (∀ m ∈ members, Faithful m.2) → Faithful (.object members)

variable {v w : Json} {items : List (Json × Json)} {members : List (String × Json × Json)}

-- ---------------------------------------------------------------------------
-- The compact form
-- ---------------------------------------------------------------------------

theorem itemsText_chars (h : ∀ p ∈ items, Denotes p.1.chars p.2) :
    ItemsText (itemChars (items.map Prod.fst)) (items.map Prod.snd) := by
  induction items with
  | nil => exact .close isGap_nil
  | cons p items ih =>
    rw [List.map_cons, itemChars]
    exact .item (h p List.mem_cons_self) (ih fun q hq => h q (List.mem_cons_of_mem _ hq))

theorem memberText_chars (name : String) (h : Denotes v.chars w) :
    MemberText (memberChars (name, v)) (name, w) :=
  .named isGap_nil name h

theorem membersText_chars (h : ∀ m ∈ members, Denotes m.2.1.chars m.2.2) :
    MembersText (membersChars (members.map fun m => (m.1, m.2.1)))
      (members.map fun m => (m.1, m.2.2)) := by
  induction members with
  | nil => exact .close isGap_nil
  | cons m members ih =>
    rw [List.map_cons, membersChars]
    exact .member (memberText_chars m.1 (h m List.mem_cons_self))
      (ih fun x hx => h x (List.mem_cons_of_mem _ hx))

theorem denotes_unlimited {n : Number} (h : n.isFinite = false) : Denotes (numberChars n) .null := by
  rw [numberChars, h]
  exact denotes_null

theorem Reads.denotes_chars (h : Reads v w) : Denotes v.chars w := by
  induction h with
  | null => exact denotes_null
  | bool b =>
    rw [chars]
    exact denotes_bool b
  | number h => exact h.denotes
  | unlimited h => exact denotes_unlimited h
  | string s => exact denotes_string s
  | @array items _ ih =>
    cases items with
    | nil => exact denotes_noItems
    | cons p items =>
      rw [List.map_cons, chars]
      exact (ih p List.mem_cons_self).array
        (itemsText_chars fun q hq => ih q (List.mem_cons_of_mem _ hq))
  | @object members _ ih =>
    cases members with
    | nil => exact denotes_noMembers
    | cons m members =>
      rw [List.map_cons, chars]
      exact (memberText_chars m.1 (ih m List.mem_cons_self)).object
        (membersText_chars fun x hx => ih x (List.mem_cons_of_mem _ hx))

-- ---------------------------------------------------------------------------
-- The indented form
-- ---------------------------------------------------------------------------

theorem isGap_newLine (depth : Nat) : IsGap (newLine depth) := by
  intro c hc
  rcases List.mem_cons.mp hc with rfl | hc
  · rfl
  · rw [List.eq_of_mem_replicate hc]
    rfl

theorem itemsText_indented {depth : Nat}
    (h : ∀ p ∈ items, Denotes (indentedChars (depth + 1) p.1) p.2) :
    ItemsText (indentedItems depth (items.map Prod.fst)) (items.map Prod.snd) := by
  induction items with
  | nil => exact .close (isGap_newLine depth)
  | cons p items ih =>
    rw [List.map_cons, indentedItems]
    exact .item ((h p List.mem_cons_self).after_gap (isGap_newLine (depth + 1)))
      (ih fun q hq => h q (List.mem_cons_of_mem _ hq))

theorem memberText_indented {depth : Nat} (name : String)
    (h : Denotes (indentedChars (depth + 1) v) w) :
    MemberText (newLine (depth + 1) ++ indentedMember depth (name, v)) (name, w) := by
  have hspace : IsGap [' '] := by simp [IsGap, isSpace]
  exact .named (isGap_newLine (depth + 1)) name (h.after_gap hspace)

theorem membersText_indented {depth : Nat}
    (h : ∀ m ∈ members, Denotes (indentedChars (depth + 1) m.2.1) m.2.2) :
    MembersText (indentedMembers depth (members.map fun m => (m.1, m.2.1)))
      (members.map fun m => (m.1, m.2.2)) := by
  induction members with
  | nil => exact .close (isGap_newLine depth)
  | cons m members ih =>
    rw [List.map_cons, indentedMembers]
    exact .member (memberText_indented m.1 (h m List.mem_cons_self))
      (ih fun x hx => h x (List.mem_cons_of_mem _ hx))

theorem Reads.denotes_indentedChars (h : Reads v w) (depth : Nat) :
    Denotes (indentedChars depth v) w := by
  induction h generalizing depth with
  | null => exact denotes_null
  | bool b =>
    rw [indentedChars]
    exact denotes_bool b
  | number h => exact h.denotes
  | unlimited h => exact denotes_unlimited h
  | string s => exact denotes_string s
  | @array items _ ih =>
    cases items with
    | nil => exact denotes_noItems
    | cons p items =>
      rw [List.map_cons, indentedChars]
      exact ((ih p List.mem_cons_self (depth + 1)).after_gap (isGap_newLine (depth + 1))).array
        (itemsText_indented fun q hq => ih q (List.mem_cons_of_mem _ hq) (depth + 1))
  | @object members _ ih =>
    cases members with
    | nil => exact denotes_noMembers
    | cons m members =>
      rw [List.map_cons, indentedChars]
      exact (memberText_indented m.1 (ih m List.mem_cons_self (depth + 1))).object
        (membersText_indented fun x hx => ih x (List.mem_cons_of_mem _ hx) (depth + 1))

-- ---------------------------------------------------------------------------
-- Whole texts
-- ---------------------------------------------------------------------------

theorem Faithful.reads (h : Faithful v) : Reads v v := by
  induction h with
  | null => exact .null
  | bool b => exact .bool b
  | whole h => exact .number (readsAsNumber_ofInt h)
  | string s => exact .string s
  | @array items _ ih =>
    have hreads : Reads (.array ((items.map fun v => (v, v)).map Prod.fst))
        (.array ((items.map fun v => (v, v)).map Prod.snd)) := by
      refine .array fun p hp => ?_
      obtain ⟨v, hv, rfl⟩ := List.mem_map.mp hp
      exact ih v hv
    simpa [Function.comp_def] using hreads
  | @object members hsettled _ ih =>
    have hreads : Reads (.object ((members.map fun m => (m.1, m.2, m.2)).map fun m => (m.1, m.2.1)))
        (.object (Members.ofList
          ((members.map fun m => (m.1, m.2, m.2)).map fun m => (m.1, m.2.2)))) := by
      refine .object fun x hx => ?_
      obtain ⟨m, hm, rfl⟩ := List.mem_map.mp hx
      exact ih m hm
    have hset : Members.ofList members = members := hsettled
    simpa [Function.comp_def, hset] using hreads

theorem parse_render_reads (h : Reads v w) : parse v.render = some w := by
  have hread := h.denotes_chars.parse_ofList isGap_nil
  rwa [List.append_nil] at hread

/-- The compact form of a value that the format keeps is read back as the value. -/
theorem parse_render (h : Faithful v) : parse v.render = some v :=
  parse_render_reads h.reads

theorem parse_renderIndented (h : Faithful v) : parse (v.renderIndented ++ "\n") = some v := by
  have hlineFeed : IsGap ['\n'] := by simp [IsGap, isSpace]
  have hread := (h.reads.denotes_indentedChars 0).parse_ofList hlineFeed
  rwa [String.ofList_append] at hread

end AgentPlans.Json
