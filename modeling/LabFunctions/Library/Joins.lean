import LabFunctions.Library.Tables
import Mathlib.Data.List.Perm.Basic

/-!
The join of two tables over a table of links: where the keys are unique and every link has both
its ends, the join has one row for each link.
-/

namespace Joins

universe u

variable {α β γ ι κ : Type u}

/-- Where the keys are found: in the rows on the left, on the right, and in the links. -/
structure Keys (α β γ ι κ : Type u) where
  left : α → ι
  right : β → κ
  toLeft : γ → ι
  toRight : γ → κ

def join [DecidableEq ι] [DecidableEq κ] (keys : Keys α β γ ι κ) (lefts : List α) (links : List γ)
    (rights : List β) : List (α × β) :=
  lefts.flatMap fun left =>
    (links.filter fun link => keys.toLeft link == keys.left left).flatMap fun link =>
      (rights.filter fun right => keys.right right == keys.toRight link).map fun right =>
        (left, right)

/-- What the tables promise the join. -/
structure Linked (keys : Keys α β γ ι κ) (lefts : List α) (links : List γ) (rights : List β) :
    Prop where
  lefts_distinct : Distinct (fun left => some (keys.left left)) lefts
  rights_distinct : Distinct (fun right => some (keys.right right)) rights
  left : ∀ link ∈ links, ∃ left ∈ lefts, keys.left left = keys.toLeft link
  right : ∀ link ∈ links, ∃ right ∈ rights, keys.right right = keys.toRight link

variable {keys : Keys α β γ ι κ} {lefts : List α} {links : List γ} {rights : List β}

theorem filter_key [DecidableEq κ] {right : β}
    (distinct : Distinct (fun right => some (keys.right right)) rights)
    (member : right ∈ rights) :
    (rights.filter fun other => keys.right other == keys.right right) = [right] := by
  induction rights with
  | nil => cases member
  | cons first rest ih =>
      obtain ⟨fresh, later⟩ := (Distinct.cons_iff first).mp distinct
      rw [List.filter_cons]
      rcases List.mem_cons.mp member with rfl | behind
      · have none : (rest.filter fun other => keys.right other == keys.right right) = [] := by
          refine List.filter_eq_nil_iff.mpr fun other inside => ?_
          simpa using fresh _ rfl other inside
        rw [if_pos (beq_self_eq_true _), none]
      · have other : ¬(keys.right first == keys.right right) = true := by
          simpa using fun same => fresh _ rfl right behind (congrArg some same.symm)
        rw [if_neg other, ih later behind]

theorem find_key [DecidableEq κ] {right : β}
    (distinct : Distinct (fun right => some (keys.right right)) rights)
    (member : right ∈ rights) :
    rights.find? (fun other => keys.right other == keys.right right) = some right := by
  rw [← List.head?_filter, filter_key distinct member]
  rfl

theorem flatMap_filter (selected : α → Bool) (rows : α → List β) (items : List α) :
    (items.filter selected).flatMap rows =
      items.flatMap fun item => if selected item then rows item else [] := by
  induction items with
  | nil => rfl
  | cons first rest ih =>
      rw [List.filter_cons, List.flatMap_cons, ← ih]
      by_cases chosen : selected first = true
      · rw [if_pos chosen, if_pos chosen, List.flatMap_cons]
      · rw [if_neg chosen, if_neg chosen, List.nil_append]

theorem groups_perm [DecidableEq ι] (distinct : Distinct (fun left => some (keys.left left)) lefts)
    (covered : ∀ link ∈ links, ∃ left ∈ lefts, keys.left left = keys.toLeft link) :
    (lefts.flatMap fun left => links.filter fun link => keys.toLeft link == keys.left left).Perm
      links := by
  induction lefts generalizing links with
  | nil =>
      have empty : links = [] := List.eq_nil_iff_forall_not_mem.mpr fun link member => by
        obtain ⟨left, absent, _⟩ := covered link member
        cases absent
      rw [empty]
      exact List.Perm.refl _
  | cons first rest ih =>
      obtain ⟨fresh, later⟩ := (Distinct.cons_iff first).mp distinct
      let others := links.filter fun link => !(keys.toLeft link == keys.left first)
      have groups : (rest.flatMap fun left =>
            links.filter fun link => keys.toLeft link == keys.left left) =
          rest.flatMap fun left =>
            others.filter fun link => keys.toLeft link == keys.left left := by
        refine List.flatMap_congr fun left member => ?_
        rw [List.filter_filter]
        refine List.filter_congr fun link _ => ?_
        have apart : keys.left left ≠ keys.left first :=
          fun same => fresh _ rfl left member (congrArg some same)
        by_cases same : keys.toLeft link = keys.left left
        · simp [same, apart]
        · simp [same]
      have rest_covered : ∀ link ∈ others, ∃ left ∈ rest, keys.left left = keys.toLeft link := by
        intro link member
        obtain ⟨inside, other⟩ := List.mem_filter.mp member
        obtain ⟨left, stored, same⟩ := covered link inside
        rcases List.mem_cons.mp stored with rfl | behind
        · simp [same] at other
        · exact ⟨left, behind, same⟩
      rw [List.flatMap_cons, groups]
      exact ((ih later rest_covered).append_left _).trans (List.filter_append_perm _ links)

theorem keys_perm [DecidableEq ι] [DecidableEq κ] (linked : Linked keys lefts links rights) :
    ((join keys lefts links rights).map fun row => (keys.left row.1, keys.right row.2)).Perm
      (links.map fun link => (keys.toLeft link, keys.toRight link)) := by
  have rows : ((join keys lefts links rights).map fun row =>
        (keys.left row.1, keys.right row.2)) =
      (lefts.flatMap fun left => links.filter fun link => keys.toLeft link == keys.left left).map
        fun link => (keys.toLeft link, keys.toRight link) := by
    unfold join
    rw [List.map_flatMap, List.map_flatMap]
    refine List.flatMap_congr fun left _ => ?_
    rw [List.map_flatMap, List.map_eq_flatMap]
    refine List.flatMap_congr fun link member => ?_
    obtain ⟨inside, same⟩ := List.mem_filter.mp member
    obtain ⟨right, stored, ends⟩ := linked.right link inside
    rw [← ends, filter_key linked.rights_distinct stored, beq_iff_eq.mp same]
    rfl
  rw [rows]
  exact (groups_perm linked.lefts_distinct linked.left).map _

/-- The rows of one left side stand in the order of its links. -/
theorem rights_of_left [DecidableEq ι] [DecidableEq κ] (linked : Linked keys lefts links rights)
    (key : ι) :
    ((join keys lefts links rights).filter fun row => keys.left row.1 == key).map Prod.snd =
      (links.filter fun link => keys.toLeft link == key).filterMap fun link =>
        rights.find? fun right => keys.right right == keys.toRight link := by
  let group := fun left : α =>
    (links.filter fun link => keys.toLeft link == keys.left left).flatMap fun link =>
      (rights.filter fun right => keys.right right == keys.toRight link).map fun right =>
        (left, right)
  have chosen : (join keys lefts links rights).filter (fun row => keys.left row.1 == key) =
      (lefts.filter fun left => keys.left left == key).flatMap group := by
    rw [flatMap_filter, join, List.filter_flatMap]
    refine List.flatMap_congr fun left _ => ?_
    have own : ∀ row ∈ group left, row.1 = left := by
      intro row member
      obtain ⟨link, _, inside⟩ := List.mem_flatMap.mp member
      obtain ⟨right, _, rfl⟩ := List.mem_map.mp inside
      rfl
    by_cases same : (keys.left left == key) = true
    · rw [if_pos same]
      exact List.filter_eq_self.mpr fun row member => by rw [own row member, same]
    · rw [if_neg same]
      exact List.filter_eq_nil_iff.mpr fun row member => by rwa [own row member]
  rw [chosen]
  by_cases known : ∃ left ∈ lefts, keys.left left = key
  · obtain ⟨left, stored, rfl⟩ := known
    let flipped : Keys β α γ κ ι := ⟨keys.right, keys.left, keys.toRight, keys.toLeft⟩
    have single : (lefts.filter fun other => keys.left other == keys.left left) = [left] :=
      @filter_key _ _ _ _ _ flipped _ _ _ linked.lefts_distinct stored
    rw [single, List.flatMap_singleton, List.map_flatMap, List.filterMap_eq_flatMap_toList]
    refine List.flatMap_congr fun link member => ?_
    obtain ⟨right, held, ends⟩ := linked.right link (List.mem_filter.mp member).1
    rw [← ends, filter_key linked.rights_distinct held, find_key linked.rights_distinct held]
    rfl
  · have unlinked : (links.filter fun link => keys.toLeft link == key) = [] := by
      refine List.filter_eq_nil_iff.mpr fun link member same => ?_
      obtain ⟨left, stored, ends⟩ := linked.left link member
      exact known ⟨left, stored, ends.trans (beq_iff_eq.mp same)⟩
    have unknown : (lefts.filter fun left => keys.left left == key) = [] := by
      refine List.filter_eq_nil_iff.mpr fun left member same => ?_
      exact known ⟨left, member, beq_iff_eq.mp same⟩
    rw [unlinked, unknown]
    rfl

end Joins
