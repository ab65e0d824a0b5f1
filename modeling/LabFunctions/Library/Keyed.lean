import Mathlib.Data.List.Basic
import Mathlib.Logic.Function.Basic
import LabFunctions.Library.Runs

/-!
Stores with one place for each key, filled by a log of entries: a place that entries are
appended to, and a place that keeps the value of the last entry.
-/

namespace Keyed

variable {ι κ ν α : Type*} [DecidableEq κ] [DecidableEq ν]

def latest (meets : ι → Bool) (log : List ι) : Option ι := (log.filter meets).getLast?

def under (key : ι → κ) (wanted : κ) (log : List ι) : List ι :=
  log.filter fun entry => key entry = wanted

def last (key : ι → κ) (wanted : κ) (log : List ι) : Option ι := (under key wanted log).getLast?

def append (key : ι → κ) (value : ι → α) (store : κ → List α) (entry : ι) : κ → List α :=
  Function.update store (key entry) (store (key entry) ++ [value entry])

def put (key : ι → κ) (value : ι → α) (store : κ → Option α) (entry : ι) : κ → Option α :=
  Function.update store (key entry) (some (value entry))

section Latest

variable {meets : ι → Bool} {log : List ι} {entry : ι}

theorem latest_mem (found : latest meets log = some entry) : entry ∈ log ∧ meets entry = true :=
  List.mem_filter.mp (List.mem_of_getLast? found)

theorem latest_eq_none_iff : latest meets log = none ↔ ∀ entry ∈ log, meets entry = false := by
  simp [latest]

theorem latest_isSome_of_mem (member : entry ∈ log) (met : meets entry = true) :
    ∃ found, latest meets log = some found := by
  apply Option.ne_none_iff_exists'.mp
  intro none
  rw [latest_eq_none_iff.mp none entry member] at met
  exact absurd met Bool.false_ne_true

/-- The last entry of a kind is the last of any narrower kind it is of. -/
theorem latest_of_imp {narrower : ι → Bool}
    (implied : ∀ entry, narrower entry = true → meets entry = true)
    (found : latest meets log = some entry) (also : narrower entry = true) :
    latest narrower log = some entry := by
  have twice : log.filter narrower = (log.filter meets).filter narrower := by
    rw [List.filter_filter]
    apply List.filter_congr
    intro other _
    cases inside : narrower other with
    | false => rfl
    | true => rw [implied other inside, Bool.and_self]
  obtain ⟨front, split⟩ := List.getLast?_eq_some_iff.mp found
  rw [latest, twice, split, List.filter_append, List.filter_cons_of_pos also, List.filter_nil,
    List.getLast?_append_of_ne_nil _ (List.cons_ne_nil _ _), List.getLast?_singleton]

/-- A view that some entries set and the others leave shows what the last of them has set. -/
theorem run_latest {σ : Type*} {step : σ → ι → σ} (view : σ → Option α) {value : ι → α}
    (kept : ∀ state entry,
      view (step state entry) = if meets entry then some (value entry) else view state)
    (state : σ) (log : List ι) :
    view (Runs.run step state log) = ((latest meets log).map value).or (view state) := by
  induction log generalizing state with
  | nil => rfl
  | cons entry rest ih =>
      rw [Runs.run_cons, ih, kept, latest, latest, List.filter_cons]
      split
      · rw [List.getLast?_cons]
        cases (rest.filter meets).getLast? <;> rfl
      · rfl

end Latest

variable {key : ι → κ} {name : ι → ν}

theorem mem_under {wanted : κ} {log : List ι} {entry : ι} :
    entry ∈ under key wanted log ↔ entry ∈ log ∧ key entry = wanted := by
  simp [under]

@[simp] theorem under_nil (wanted : κ) : under key wanted [] = [] := rfl

theorem under_cons_same {wanted : κ} {entry : ι} (same : key entry = wanted) (log : List ι) :
    under key wanted (entry :: log) = entry :: under key wanted log := by
  simp [under, same]

theorem under_cons_other {wanted : κ} {entry : ι} (other : key entry ≠ wanted) (log : List ι) :
    under key wanted (entry :: log) = under key wanted log := by
  simp [under, other]

/-- A place holds what was appended under its key, in the order of the log. -/
theorem run_append (value : ι → α) (store : κ → List α) (log : List ι) (wanted : κ) :
    Runs.run (append key value) store log wanted =
      store wanted ++ (under key wanted log).map value := by
  induction log generalizing store with
  | nil => simp [Runs.run]
  | cons entry rest ih =>
      rw [Runs.run_cons, ih]
      by_cases same : key entry = wanted
      · rw [under_cons_same same, append, same, Function.update_self]
        simp
      · rw [under_cons_other same, append, Function.update_of_ne (Ne.symm same)]

theorem run_put (value : ι → α) (store : κ → Option α) (log : List ι) (wanted : κ) :
    Runs.run (put key value) store log wanted =
      ((last key wanted log).map value).or (store wanted) := by
  have kept : ∀ (places : κ → Option α) (entry : ι), put key value places entry wanted =
      if decide (key entry = wanted) then some (value entry) else places wanted := by
    intro places entry
    by_cases same : key entry = wanted
    · simp [put, same]
    · simp [put, same, Function.update_of_ne (Ne.symm same)]
  exact run_latest (fun places : κ → Option α => places wanted) kept store log

section Coarser

variable {wanted : κ} {called : ν} (coarser : ∀ entry, name entry = called → key entry = wanted)

include coarser

theorem under_sublist (log : List ι) : (under name called log).Sublist (under key wanted log) := by
  have twice : under name called log = (under key wanted log).filter (name · = called) := by
    unfold under
    rw [List.filter_filter]
    apply List.filter_congr
    intro entry _
    by_cases same : name entry = called
    · simp [same, coarser entry same]
    · simp [same]
  rw [twice]
  exact List.filter_sublist

/-- What stands under a key is what stands under a name, as soon as the key keeps the entries
of the log apart from those with other names, and only then. -/
theorem under_eq_iff (log : List ι) : under key wanted log = under name called log ↔
    ∀ entry ∈ log, key entry = wanted → name entry = called := by
  constructor
  · intro same entry member keyed
    have found : entry ∈ under key wanted log := mem_under.mpr ⟨member, keyed⟩
    rw [same] at found
    exact (mem_under.mp found).2
  · intro apart
    apply List.filter_congr
    intro entry member
    by_cases keyed : key entry = wanted
    · simp [keyed, apart entry member keyed]
    · have other : name entry ≠ called := fun same => keyed (coarser entry same)
      simp [keyed, other]

theorem map_under_eq_iff (value : ι → α) (log : List ι) :
    (under key wanted log).map value = (under name called log).map value ↔
      ∀ entry ∈ log, key entry = wanted → name entry = called := by
  rw [← under_eq_iff coarser]
  constructor
  · intro same
    have lengths := congrArg List.length same
    rw [List.length_map, List.length_map] at lengths
    exact ((under_sublist coarser log).eq_of_length lengths.symm).symm
  · intro same
    rw [same]

end Coarser

end Keyed
