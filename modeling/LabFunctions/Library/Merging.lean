import LabFunctions.Library.Tables

/-!
What an object-relational mapper stores when it merges an object: the row under the primary key
that the object carries, or a new row when it carries none.
-/

namespace Merging

universe u v

variable {ρ : Type u} {ν : Type v} {accepted : List ρ → Prop}

/-- The values of a row under its primary key. -/
structure Row (ρ : Type u) where
  id : Nat
  values : ρ

def Keyed (accepted : List ρ → Prop) (rows : List (Row ρ)) : Prop :=
  Distinct (fun row => some row.id) rows ∧ accepted (rows.map Row.values)

instance [DecidablePred accepted] : DecidablePred (Keyed accepted) :=
  fun _ => inferInstanceAs (Decidable (_ ∧ _))

abbrev Relation (accepted : List ρ → Prop) := Table (Row ρ) (Keyed accepted)

def Relation.forget (relation : Relation accepted) : Table ρ accepted :=
  ⟨relation.rows.map Row.values, relation.holds.2⟩

section Statements

variable [DecidablePred accepted]

/-- `given` is the id that the database draws for a new row. -/
def merge (given : Nat) (key : Option Nat) (values : ρ) (relation : Relation accepted) :
    Option (Relation accepted) :=
  match key with
  | none => relation.insert (Row.mk given values)
  | some id =>
      if relation.rows.any fun row => row.id == id then
        relation.updateWhere (fun row => row.id == id) fun row => { row with values }
      else relation.insert (Row.mk id values)

variable {relation next : Relation accepted} {given : Nat} {values : ρ}

theorem merge_none_eq_some_iff : merge given none values relation = some next ↔
    next.rows = relation.rows ++ [Row.mk given values] :=
  Table.store_eq_some_iff _ _

/-- Without the ids, such a merge is an insert. -/
theorem forget_merge_none (fresh : ∀ row ∈ relation.rows, row.id ≠ given) :
    (merge given none values relation).map Relation.forget = relation.forget.insert values := by
  have keyed : Keyed accepted (relation.rows ++ [Row.mk given values]) ↔
      accepted ((relation.rows ++ [Row.mk given values]).map Row.values) := by
    refine and_iff_right ((Distinct.append_singleton_iff _).mpr ⟨relation.holds.1, ?_⟩)
    intro id same row member clash
    exact fresh row member (Option.some.inj (clash.trans same.symm))
  have rows : relation.forget.rows ++ [values] =
      (relation.rows ++ [Row.mk given values]).map Row.values := by
    rw [List.map_append]
    rfl
  unfold merge Table.insert Table.store
  rw [rows]
  by_cases holds : accepted ((relation.rows ++ [Row.mk given values]).map Row.values)
  · rw [dif_pos (keyed.mpr holds), dif_pos holds]
    rfl
  · rw [dif_neg (mt keyed.mp holds), dif_neg holds]
    rfl

/-- A name that is unique, but is not the primary key, is refused the second time. -/
theorem merge_none_twice {name : ρ → ν} {again : Nat} {others : ρ}
    (unique : ∀ rows, accepted rows → Distinct (fun row => some (name row)) rows)
    (first : merge given none values relation = some next) (same : name values = name others) :
    merge again none others next = none := by
  rw [merge_none_eq_some_iff] at first
  cases second : merge again none others next with
  | none => rfl
  | some after =>
      rw [merge_none_eq_some_iff, first] at second
      have distinct := unique _ after.holds.2
      rw [second, List.map_append, List.map_singleton, Distinct.append_singleton_iff] at distinct
      refine absurd (congrArg some same) (distinct.2 _ rfl values ?_)
      simp

end Statements

/-- What two calls for one name leave of the rows when they update by that name: one row of the
name, which the first call has left already and which `keep` gives the values of the second. -/
structure Upserted (name : ρ → ν) (keep : ρ → ρ → ρ) (values : ρ)
    (before middle after : List (Row ρ)) : Prop where
  one : ∃ row ∈ middle, name row.values = name values ∧
    ∀ other, other ∈ after ∧ name other.values = name values ↔
      other = ⟨row.id, keep row.values values⟩
  others : ∀ row, name row.values ≠ name values → (row ∈ after ↔ row ∈ before)

end Merging
