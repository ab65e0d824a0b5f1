import Mathlib.Order.Basic
import Mathlib.Data.List.Pairwise

/-!
Logs whose entries carry increasing keys, and what a reader that remembers the key of the last
entry it took finds behind it.
-/

namespace Logs

variable {α κ : Type*} [Preorder κ] {key : α → κ}

def Ordered (key : α → κ) (log : List α) : Prop :=
  log.Pairwise fun earlier later => key earlier < key later

theorem Ordered.append {log : List α} {entry : α} (ordered : Ordered key log)
    (fresh : ∀ old ∈ log, key old < key entry) : Ordered key (log ++ [entry]) := by
  refine List.pairwise_append.mpr ⟨ordered, List.pairwise_singleton _ _, ?_⟩
  intro old member new found
  rw [List.mem_singleton.mp found]
  exact fresh old member

variable [DecidableLT κ]

def behind (key : α → κ) (cursor : κ) (log : List α) : List α :=
  log.filter (cursor < key ·)

theorem mem_behind {cursor : κ} {log : List α} {entry : α} :
    entry ∈ behind key cursor log ↔ entry ∈ log ∧ cursor < key entry := by
  simp [behind]

theorem Ordered.behind {log : List α} (ordered : Ordered key log) (cursor : κ) :
    Ordered key (behind key cursor log) :=
  List.Pairwise.filter _ ordered

theorem behind_append (cursor : κ) (front back : List α) :
    behind key cursor (front ++ back) = behind key cursor front ++ behind key cursor back :=
  List.filter_append ..

theorem behind_singleton_of_lt {cursor : κ} {entry : α} (newer : cursor < key entry) :
    behind key cursor [entry] = [entry] := by
  simp [behind, newer]

theorem behind_behind {start cursor : κ} (later : start ≤ cursor) (log : List α) :
    behind key cursor (behind key start log) = behind key cursor log := by
  unfold behind
  rw [List.filter_filter]
  apply List.filter_congr
  intro entry member
  by_cases newer : cursor < key entry
  · simp [newer, lt_of_le_of_lt later newer]
  · simp [newer]

/-- A reader that resumes at the key of an entry finds what stands behind that entry. -/
theorem behind_of_split {front back : List α} {entry : α}
    (ordered : Ordered key (front ++ entry :: back)) :
    behind key (key entry) (front ++ entry :: back) = back := by
  obtain ⟨_, fromEntry, frontFirst⟩ := List.pairwise_append.mp ordered
  obtain ⟨entryFirst, _⟩ := List.pairwise_cons.mp fromEntry
  have dropped : behind key (key entry) front = [] := by
    apply List.filter_eq_nil_iff.mpr
    intro old member
    simpa using lt_asymm (frontFirst old member entry (List.mem_cons_self ..))
  have kept : behind key (key entry) back = back := by
    apply List.filter_eq_self.mpr
    intro later member
    simpa using entryFirst later member
  have self : behind key (key entry) (entry :: back) = behind key (key entry) back := by
    simp [behind]
  rw [behind_append, dropped, self, kept, List.nil_append]

theorem resume {start : κ} {log front back : List α} {entry : α} (ordered : Ordered key log)
    (split : behind key start log = front ++ entry :: back) :
    behind key (key entry) log = back := by
  have newer : start < key entry :=
    (mem_behind.mp (by rw [split]; simp : entry ∈ behind key start log)).2
  rw [← behind_behind newer.le, split]
  exact behind_of_split (split ▸ ordered.behind start)

end Logs
