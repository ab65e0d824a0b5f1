import Mathlib.Data.Finset.Basic

/-!
A directory that keeps each entry twice: its value under its name, and its name in the set
of a group.
-/

universe u v w

structure Directory (γ : Type u) (κ : Type v) (ν : Type w) where
  entries : κ → Option ν
  members : γ → Finset κ

namespace Directory

variable {γ : Type u} {κ : Type v} {ν : Type w} [DecidableEq γ] [DecidableEq κ]

def empty : Directory γ κ ν where
  entries _ := none
  members _ := ∅

def enroll (dir : Directory γ κ ν) (group : γ) (name : κ) (value : ν) : Directory γ κ ν where
  entries := Function.update dir.entries name (some value)
  members := Function.update dir.members group (insert name (dir.members group))

def strike (dir : Directory γ κ ν) (group : γ) (name : κ) : Directory γ κ ν where
  entries := Function.update dir.entries name none
  members := Function.update dir.members group ((dir.members group).erase name)

def forget (dir : Directory γ κ ν) (name : κ) : Directory γ κ ν where
  entries := Function.update dir.entries name none
  members := dir.members

theorem mem_enroll (dir : Directory γ κ ν) (group other : γ) (name entry : κ) (value : ν) :
    entry ∈ (dir.enroll group name value).members other ↔
      (other = group ∧ entry = name) ∨ entry ∈ dir.members other := by
  by_cases same : other = group
  · subst same
    simp [enroll]
  · simp [enroll, same]

theorem mem_strike (dir : Directory γ κ ν) (group other : γ) (name entry : κ) :
    entry ∈ (dir.strike group name).members other ↔
      entry ∈ dir.members other ∧ ¬(other = group ∧ entry = name) := by
  by_cases same : other = group
  · subst same
    simp [strike, and_comm]
  · simp [strike, same]

/-- A group lists exactly the live names that belong to it, and every live name belongs to
some group. -/
structure Agrees (owner : κ → Option γ) (dir : Directory γ κ ν) : Prop where
  listed : ∀ group name, name ∈ dir.members group ↔
    (dir.entries name).isSome = true ∧ owner name = some group
  owned : ∀ name, (dir.entries name).isSome = true → (owner name).isSome = true

variable {owner : κ → Option γ} {dir : Directory γ κ ν}

omit [DecidableEq γ] [DecidableEq κ] in
theorem Agrees.unique_group (agrees : Agrees owner dir) {name : κ}
    (live : (dir.entries name).isSome = true) : ∃! group, name ∈ dir.members group := by
  obtain ⟨group, owned⟩ := Option.isSome_iff_exists.mp (agrees.owned name live)
  refine ⟨group, (agrees.listed group name).mpr ⟨live, owned⟩, ?_⟩
  intro other member
  have otherOwned := ((agrees.listed other name).mp member).2
  rw [owned, Option.some.injEq] at otherOwned
  exact otherOwned.symm

omit [DecidableEq γ] [DecidableEq κ] in
theorem agrees_empty : Agrees owner (empty : Directory γ κ ν) :=
  ⟨by simp [empty], by simp [empty]⟩

omit [DecidableEq γ] [DecidableEq κ] in
/-- Only the owners of live names count. -/
theorem agrees_congr {other : κ → Option γ}
    (same : ∀ name, (dir.entries name).isSome = true → owner name = other name) :
    Agrees owner dir ↔ Agrees other dir := by
  have live : ∀ group name, ((dir.entries name).isSome = true ∧ owner name = some group) ↔
      (dir.entries name).isSome = true ∧ other name = some group := by
    intro group name
    apply and_congr_right
    intro live
    rw [same name live]
  constructor
  · intro agrees
    refine ⟨fun group name => (agrees.listed group name).trans (live group name), ?_⟩
    intro name entered
    rw [← same name entered]
    exact agrees.owned name entered
  · intro agrees
    refine ⟨fun group name => (agrees.listed group name).trans (live group name).symm, ?_⟩
    intro name entered
    rw [same name entered]
    exact agrees.owned name entered

omit [DecidableEq γ] [DecidableEq κ] in
/-- What is asked of the other groups below, in terms of the entry of the name. -/
theorem Agrees.elsewhere_iff (agrees : Agrees owner dir) (group : γ) (name : κ) :
    (∀ other, other ≠ group → name ∉ dir.members other) ↔
      ((dir.entries name).isSome = true → owner name = some group) := by
  constructor
  · intro elsewhere live
    obtain ⟨own, owned⟩ := Option.isSome_iff_exists.mp (agrees.owned name live)
    by_contra different
    have apart : own ≠ group := fun same => different (same ▸ owned)
    exact elsewhere own apart ((agrees.listed own name).mpr ⟨live, owned⟩)
  · intro owned other different member
    obtain ⟨live, otherOwned⟩ := (agrees.listed other name).mp member
    rw [owned live, Option.some.injEq] at otherOwned
    exact different otherOwned.symm

/-- Enrolling a name keeps the agreement exactly when no other group lists it. -/
theorem enroll_agrees_iff (agrees : Agrees owner dir) (group : γ) (name : κ) (value : ν) :
    Agrees (Function.update owner name (some group)) (dir.enroll group name value) ↔
      ∀ other, other ≠ group → name ∉ dir.members other := by
  constructor
  · intro next other different member
    have listed := (next.listed other name).mp
      ((mem_enroll dir group other name name value).mpr (Or.inr member))
    rw [Function.update_self, Option.some.injEq] at listed
    exact different listed.2.symm
  · intro elsewhere
    refine ⟨?_, ?_⟩
    · intro other entry
      rw [mem_enroll]
      by_cases same : entry = name
      · subst same
        have unlisted : other ≠ group → entry ∉ dir.members other := elsewhere other
        simp only [enroll, Function.update_self, Option.isSome_some, true_and, and_true,
          Option.some.injEq]
        constructor
        · rintro (mine | member)
          · exact mine.symm
          · by_contra different
            exact unlisted (Ne.symm different) member
        · intro mine
          exact Or.inl mine.symm
      · simp only [enroll, same, and_false, false_or, Function.update_of_ne same,
          agrees.listed other entry]
    · intro entry live
      by_cases same : entry = name
      · subst same
        simp
      · simp only [enroll, Function.update_of_ne same] at live
        rw [Function.update_of_ne same]
        exact agrees.owned entry live

/-- Striking a name out keeps the agreement exactly when no other group lists it. -/
theorem strike_agrees_iff (agrees : Agrees owner dir) (group : γ) (name : κ) :
    Agrees owner (dir.strike group name) ↔
      ∀ other, other ≠ group → name ∉ dir.members other := by
  constructor
  · intro next other different member
    have listed := (next.listed other name).mp
      ((mem_strike dir group other name name).mpr ⟨member, fun same => different same.1⟩)
    simp [strike] at listed
  · intro elsewhere
    refine ⟨?_, ?_⟩
    · intro other entry
      rw [mem_strike]
      by_cases same : entry = name
      · subst same
        simp only [strike, Function.update_self, Option.isSome_none, Bool.false_eq_true,
          false_and, iff_false, not_and, not_not, and_true]
        intro member
        by_contra different
        exact elsewhere other different member
      · simp only [strike, same, and_false, not_false_eq_true, and_true,
          Function.update_of_ne same, agrees.listed other entry]
    · intro entry live
      by_cases same : entry = name
      · subst same
        simp [strike] at live
      · simp only [strike, Function.update_of_ne same] at live
        exact agrees.owned entry live

omit [DecidableEq γ] in
/-- An entry that is taken away alone stays behind in its group. -/
theorem forget_agrees_iff (agrees : Agrees owner dir) (name : κ) :
    Agrees owner (dir.forget name) ↔ dir.entries name = none := by
  constructor
  · intro next
    by_contra entered
    have live : (dir.entries name).isSome = true := Option.isSome_iff_ne_none.mpr entered
    obtain ⟨group, member, _⟩ := agrees.unique_group live
    have gone := ((next.listed group name).mp member).1
    simp [forget] at gone
  · intro absent
    have same : dir.forget name = dir := by
      rw [forget, ← absent, Function.update_eq_self]
    rwa [same]

end Directory
