import Mathlib.Data.List.Nodup

/-!
Tables of rows under a constraint. A statement computes the rows it would leave;
the database stores them if they satisfy the constraint and refuses the statement
otherwise, so a table that breaks its constraint cannot be built.
-/

universe u v

/-- No two rows share a key. A row without a key (SQL's NULL) clashes with none. -/
def Distinct {ρ : Type u} {κ : Type v} (key : ρ → Option κ) (rows : List ρ) : Prop :=
  (rows.filterMap key).Nodup

namespace Distinct

variable {ρ : Type u} {κ : Type v} {key : ρ → Option κ} {rows : List ρ}

instance [DecidableEq κ] : DecidablePred (Distinct (ρ := ρ) (κ := κ) key) :=
  fun rows => inferInstanceAs (Decidable (rows.filterMap key).Nodup)

@[simp] theorem nil : Distinct key ([] : List ρ) := List.nodup_nil

theorem sublist {fewer : List ρ} (distinct : Distinct key rows) (sub : fewer.Sublist rows) :
    Distinct key fewer :=
  List.Nodup.sublist (sub.filterMap key) distinct

theorem cons_iff (row : ρ) :
    Distinct key (row :: rows) ↔
      (∀ value, key row = some value → ∀ other ∈ rows, key other ≠ some value) ∧
        Distinct key rows := by
  unfold Distinct
  cases keyed : key row with
  | none => simp [keyed]
  | some value => simp [keyed, List.nodup_cons, List.mem_filterMap]

theorem unique (distinct : Distinct key rows) {left right : ρ} {value : κ}
    (leftMember : left ∈ rows) (rightMember : right ∈ rows)
    (leftKey : key left = some value) (rightKey : key right = some value) : left = right := by
  induction rows with
  | nil => simp at leftMember
  | cons row rest ih =>
      obtain ⟨fresh, tail⟩ := (cons_iff row).mp distinct
      rcases List.mem_cons.mp leftMember with rfl | leftLater
      · rcases List.mem_cons.mp rightMember with rfl | rightLater
        · rfl
        · exact absurd rightKey (fresh value leftKey right rightLater)
      · rcases List.mem_cons.mp rightMember with rfl | rightLater
        · exact absurd leftKey (fresh value rightKey left leftLater)
        · exact ih tail leftLater rightLater

theorem pairwise_iff :
    Distinct key rows ↔ rows.Pairwise fun left right => ∀ value, key left = some value →
      key right ≠ some value := by
  induction rows with
  | nil => simp
  | cons row rest ih =>
      rw [cons_iff, List.pairwise_cons, ih]
      apply and_congr_left
      intro _
      exact ⟨fun fresh other member value keyed => fresh value keyed other member,
        fun fresh value keyed other member => fresh other member value keyed⟩

theorem append_singleton_iff (row : ρ) :
    Distinct key (rows ++ [row]) ↔
      Distinct key rows ∧ ∀ value, key row = some value → ∀ other ∈ rows, key other ≠ some value := by
  unfold Distinct
  rw [List.filterMap_append]
  cases keyed : key row with
  | none => simp [keyed]
  | some value =>
      simp [keyed, List.nodup_append, List.mem_filterMap]
      grind

theorem map_of_key_eq {change : ρ → ρ} (same : ∀ row ∈ rows, key (change row) = key row) :
    Distinct key (rows.map change) ↔ Distinct key rows := by
  unfold Distinct
  rw [List.filterMap_map]
  have keys : rows.filterMap (key ∘ change) = rows.filterMap key :=
    List.filterMap_congr (fun row member => same row member)
  rw [keys]

/-- A change may take a row's key away, but give it no other. -/
theorem map_of_key_none {change : ρ → ρ} (distinct : Distinct key rows)
    (kept : ∀ row ∈ rows, key (change row) = key row ∨ key (change row) = none) :
    Distinct key (rows.map change) := by
  induction rows with
  | nil => simp
  | cons row rest ih =>
      obtain ⟨fresh, others⟩ := (cons_iff row).mp distinct
      rw [List.map_cons]
      refine (cons_iff _).mpr ⟨?_, ih others fun other member =>
        kept other (List.mem_cons_of_mem _ member)⟩
      intro value keyed other member clash
      obtain ⟨old, inside, rfl⟩ := List.mem_map.mp member
      have ownKey : key row = some value := by
        rcases kept row (List.mem_cons_self ..) with same | gone
        · exact same.symm.trans keyed
        · exact absurd (gone.symm.trans keyed) (by simp)
      rcases kept old (List.mem_cons_of_mem _ inside) with same | gone
      · exact fresh value ownKey old inside (same.symm.trans clash)
      · exact absurd (gone.symm.trans clash) (by simp)

/-- Rows that share a key are in one group: it is enough that no two of a group do. -/
theorem groups_iff {γ : Type*} [DecidableEq γ] (group : ρ → γ)
    (determined : ∀ left right value, key left = some value → key right = some value →
      group left = group right) :
    Distinct key rows ↔ ∀ value, Distinct key (rows.filter fun row => group row = value) := by
  constructor
  · intro distinct value
    exact distinct.sublist List.filter_sublist
  · intro groups
    rw [pairwise_iff, List.pairwise_iff_forall_sublist]
    intro left right sub value leftKey rightKey
    have same := determined left right value leftKey rightKey
    have grouped : [left, right].Sublist (rows.filter fun row => group row = group right) := by
      have filtered := sub.filter fun row => decide (group row = group right)
      simpa [same] using filtered
    have apart := List.pairwise_iff_forall_sublist.mp (pairwise_iff.mp (groups (group right))) grouped
    exact apart value leftKey rightKey

end Distinct

/-- A table: the rows the database holds, together with the fact that it accepted them. -/
structure Table (ρ : Type u) (accepted : List ρ → Prop) where
  rows : List ρ
  holds : accepted rows

namespace Table

variable {ρ : Type u} {accepted : List ρ → Prop}

class Hereditary (accepted : List ρ → Prop) : Prop where
  sublist : ∀ {fewer rows : List ρ}, fewer.Sublist rows → accepted rows → accepted fewer

theorem ext_rows {left right : Table ρ accepted} (same : left.rows = right.rows) : left = right := by
  cases left
  cases right
  cases same
  rfl

/-- Rows that are held are held by one table. -/
theorem exists_rows_iff {rows : List ρ} {table : Table ρ accepted} (held : table.rows = rows)
    {property : Table ρ accepted → Prop} :
    (∃ other : Table ρ accepted, other.rows = rows ∧ property other) ↔ property table := by
  constructor
  · rintro ⟨other, others, holds⟩
    rwa [ext_rows (others.trans held.symm)] at holds
  · intro holds
    exact ⟨table, held, holds⟩

def store [DecidablePred accepted] (rows : List ρ) : Option (Table ρ accepted) :=
  if holds : accepted rows then some ⟨rows, holds⟩ else none

def deleteWhere [Hereditary accepted] (table : Table ρ accepted) (selected : ρ → Bool) :
    Table ρ accepted :=
  ⟨table.rows.filter fun row => !selected row,
    Hereditary.sublist List.filter_sublist table.holds⟩

@[simp] theorem rows_deleteWhere [Hereditary accepted] (table : Table ρ accepted)
    (selected : ρ → Bool) :
    (table.deleteWhere selected).rows = table.rows.filter fun row => !selected row := rfl

section Statements

variable [DecidablePred accepted]

def insert (table : Table ρ accepted) (row : ρ) : Option (Table ρ accepted) :=
  store (table.rows ++ [row])

def updateWhere (table : Table ρ accepted) (selected : ρ → Bool) (change : ρ → ρ) :
    Option (Table ρ accepted) :=
  store (table.rows.map fun row => if selected row then change row else row)

theorem store_eq_some_iff (rows : List ρ) (table : Table ρ accepted) :
    store rows = some table ↔ table.rows = rows := by
  unfold store
  constructor
  · intro stored
    split at stored
    · simp only [Option.some.injEq] at stored
      rw [← stored]
    · simp at stored
  · intro same
    have holds : accepted rows := same ▸ table.holds
    rw [dif_pos holds, Option.some.injEq]
    exact ext_rows same.symm

theorem store_eq_none_iff (rows : List ρ) :
    (store rows : Option (Table ρ accepted)) = none ↔ ¬accepted rows := by
  unfold store
  split <;> simp_all

/-- Rows are either refused or what the table holds from then on. -/
theorem store_cases (rows : List ρ) :
    (¬accepted rows ∧ (store rows : Option (Table ρ accepted)) = none) ∨
      ∃ table : Table ρ accepted, store rows = some table ∧ table.rows = rows ∧ accepted rows := by
  cases stored : (store rows : Option (Table ρ accepted)) with
  | none => exact .inl ⟨(store_eq_none_iff rows).mp stored, rfl⟩
  | some table =>
      have same := (store_eq_some_iff rows table).mp stored
      exact .inr ⟨table, rfl, same, same ▸ table.holds⟩

theorem insert_cases (table : Table ρ accepted) (row : ρ) :
    (¬accepted (table.rows ++ [row]) ∧ table.insert row = none) ∨
      ∃ next : Table ρ accepted, table.insert row = some next ∧
        next.rows = table.rows ++ [row] ∧ accepted (table.rows ++ [row]) :=
  store_cases _

theorem updateWhere_cases (table : Table ρ accepted) (selected : ρ → Bool) (change : ρ → ρ) :
    let rows := table.rows.map fun row => if selected row then change row else row
    (¬accepted rows ∧ table.updateWhere selected change = none) ∨
      ∃ next : Table ρ accepted, table.updateWhere selected change = some next ∧
        next.rows = rows ∧ accepted rows :=
  store_cases _

theorem rows_insert {table next : Table ρ accepted} {row : ρ}
    (inserted : table.insert row = some next) : next.rows = table.rows ++ [row] :=
  (store_eq_some_iff _ _).mp inserted

theorem rows_updateWhere {table next : Table ρ accepted} {selected : ρ → Bool} {change : ρ → ρ}
    (updated : table.updateWhere selected change = some next) :
    next.rows = table.rows.map fun row => if selected row then change row else row :=
  (store_eq_some_iff _ _).mp updated

end Statements

end Table
