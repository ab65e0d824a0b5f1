import Mathlib.Algebra.Order.Floor.Semiring
import Mathlib.Data.Rat.Floor
import Mathlib.Tactic.Positivity

/-!
`labfunctions.db.utils`: the two ways of turning the number of a page into the window of a query,
and the walk from page to page that follows `next_page`.
-/

namespace LabFunctions

structure PageCalc where
  limit : Int
  offset : Int
  next_page : Int
  deriving DecidableEq

structure Pagination where
  total : Int
  limit : Int
  page : Int

/-- A statement whose rows stand in a fixed order, with what was set of its window. -/
structure Select (α : Type*) where
  rows : List α
  _limit : Option Int := none
  _offset : Option Int := none

section

variable {α : Type*}

def Select.limit (s : Select α) (limit : Int) : Select α := { s with _limit := some limit }

def Select.offset (s : Select α) (offset : Int) : Select α := { s with _offset := some offset }

def Select.all (s : Select α) : List α :=
  let rows := s.rows.drop (s._offset.getD 0).toNat
  match s._limit with
  | none => rows
  | some limit => rows.take limit.toNat

def pagination (s : Select α) (p : Pagination) : Select α × Int :=
  let offset := p.limit * (p.page - 1)
  let next_page := p.page + 1
  let next_offset := p.limit * p.page
  let next_page := if next_offset ≥ p.total then -1 else next_page
  let stmt := (s.limit p.limit).offset offset
  (stmt, next_page)

end

def calculate_page (total limit page : Int) : PageCalc :=
  let offset := limit * (page - 1)
  let next_page := page + 1
  let next_offset := limit * page
  let next_page := if next_offset ≥ total then -1 else next_page
  { limit := limit, offset := offset, next_page := next_page }

/-- The pages seen from one page on; nothing where the fuel runs out before a page is the last. -/
def walk (turn : Int → PageCalc) : Nat → Int → Option (List PageCalc)
  | 0, _ => none
  | fuel + 1, page =>
      let current := turn page
      if current.next_page = -1 then some [current]
      else (walk turn fuel current.next_page).map (current :: ·)

variable {α : Type*}

def window (rows : List α) (page : PageCalc) : List α :=
  (((Select.mk rows none none).limit page.limit).offset page.offset).all

/-- The windows follow one another from the first row on, and leave no row out. -/
structure Splits (rows : List α) (limit : Int) (pages : List PageCalc) : Prop where
  consecutive : pages.map (fun page => (page.offset, page.limit)) =
    (List.range pages.length).map fun (number : Nat) => (limit * number, limit)
  whole : pages.flatMap (window rows) = rows

/-- How many pages there are: one at least. -/
def pageCount (total limit : Nat) : Nat := max 1 ⌈(total : ℚ) / limit⌉₊

theorem pageCount_pos (total limit : Nat) : 0 < pageCount total limit :=
  Nat.lt_of_lt_of_le Nat.one_pos (Nat.le_max_left ..)

theorem pageCount_le_iff {total limit page : Nat} (positive : 0 < limit) (first : 0 < page) :
    pageCount total limit ≤ page ↔ total ≤ limit * page := by
  have divisor : (0 : ℚ) < limit := Nat.cast_pos.mpr positive
  rw [pageCount, max_le_iff, Nat.ceil_le, div_le_iff₀ divisor, ← Nat.cast_mul, Nat.cast_le,
    Nat.mul_comm]
  exact and_iff_right first

/-- A page is the last where the rows up to its end are all there are. -/
theorem next_page_eq {total limit page : Nat} (positive : 0 < limit) (first : 0 < page) :
    (calculate_page total limit page).next_page =
      if pageCount total limit ≤ page then -1 else (page : Int) + 1 := by
  have last : (limit : Int) * page ≥ total ↔ pageCount total limit ≤ page := by
    rw [pageCount_le_iff positive first, ge_iff_le, ← Nat.cast_mul, Nat.cast_le]
  exact if_congr last rfl rfl

def pagesFrom (total limit first : Nat) : List PageCalc :=
  (List.range' first (pageCount total limit + 1 - first)).map fun (page : Nat) =>
    calculate_page total limit page

theorem pagesFrom_last {total limit page : Nat} (last : pageCount total limit = page) :
    pagesFrom total limit page = [calculate_page total limit page] := by
  rw [pagesFrom, last, Nat.add_sub_cancel_left]
  rfl

theorem pagesFrom_next {total limit page : Nat} (more : page < pageCount total limit) :
    pagesFrom total limit page =
      calculate_page total limit page :: pagesFrom total limit (page + 1) := by
  have longer : pageCount total limit + 1 - page = pageCount total limit + 1 - (page + 1) + 1 := by
    omega
  rw [pagesFrom, longer, List.range'_succ, List.map_cons]
  rfl

/-- The walk from a page ends with the last one, given a turn for each page on the way. -/
theorem walk_eq {total limit page : Nat} (positive : 0 < limit) (first : 0 < page)
    (inside : page ≤ pageCount total limit) (fuel : Nat) :
    walk (calculate_page total limit) fuel page =
      if pageCount total limit < page + fuel then some (pagesFrom total limit page) else none := by
  induction fuel generalizing page with
  | zero => rw [walk, if_neg (by omega)]
  | succ fuel ih =>
      rw [walk, next_page_eq positive first]
      rcases Nat.lt_or_eq_of_le inside with more | last
      · rw [if_neg (Nat.not_le.mpr more), if_neg (by omega), pagesFrom_next more]
        have next := ih (Nat.succ_pos page) more
        rw [Nat.cast_succ] at next
        rw [next, Nat.succ_add_eq_add_succ]
        split <;> rfl
      · rw [if_pos (Nat.le_of_eq last.symm), if_pos rfl, if_pos (by omega),
          pagesFrom_last last.symm]

/-! The windows of the pages that the walk sees. -/

theorem window_page (rows : List α) (total limit page : Nat) :
    window rows (calculate_page total limit (page + 1 : Nat)) =
      (rows.drop (limit * page)).take limit := by
  have offset : ((limit : Int) * (((page + 1 : Nat) : Int) - 1)).toNat = limit * page := by
    rw [Nat.cast_add, Nat.cast_one, add_sub_cancel_right, ← Nat.cast_mul, Int.toNat_natCast]
  change (rows.drop ((limit : Int) * (((page + 1 : Nat) : Int) - 1)).toNat).take
    (limit : Int).toNat = _
  rw [offset, Int.toNat_natCast]

/-- The windows of the first pages, one after another, hold the first rows. -/
theorem windows_take (rows : List α) (limit count : Nat) :
    ((List.range count).flatMap fun page => (rows.drop (limit * page)).take limit) =
      rows.take (limit * count) := by
  induction count with
  | zero => rw [Nat.mul_zero, List.take_zero, List.range_zero, List.flatMap_nil]
  | succ count ih =>
      rw [List.range_succ, List.flatMap_append, ih, List.flatMap_singleton, Nat.mul_succ,
        List.take_add]

theorem pagesFrom_one (total limit : Nat) :
    pagesFrom total limit 1 = (List.range (pageCount total limit)).map fun page =>
      calculate_page total limit (page + 1 : Nat) := by
  rw [pagesFrom, Nat.add_sub_cancel, List.range'_eq_map_range, List.map_map]
  apply List.map_congr_left
  intro page _
  rw [Function.comp_apply, Nat.add_comm]

theorem length_pagesFrom_one (total limit : Nat) :
    (pagesFrom total limit 1).length = pageCount total limit := by
  rw [pagesFrom_one, List.length_map, List.length_range]

theorem splits_pages (rows : List α) {limit : Nat} (positive : 0 < limit) :
    Splits rows limit (pagesFrom rows.length limit 1) := by
  constructor
  · rw [length_pagesFrom_one, pagesFrom_one, List.map_map]
    apply List.map_congr_left
    intro page _
    change ((limit : Int) * (((page + 1 : Nat) : Int) - 1), (limit : Int)) = _
    rw [Nat.cast_add, Nat.cast_one, add_sub_cancel_right]
  · have covered : rows.length ≤ limit * pageCount rows.length limit :=
      (pageCount_le_iff positive (pageCount_pos _ _)).mp le_rfl
    calc (pagesFrom rows.length limit 1).flatMap (window rows)
        = (List.range (pageCount rows.length limit)).flatMap fun page =>
            (rows.drop (limit * page)).take limit := by
          rw [pagesFrom_one, List.flatMap_map]
          exact List.flatMap_congr fun page _ => window_page rows rows.length limit page
      _ = rows.take (limit * pageCount rows.length limit) := windows_take rows limit _
      _ = rows := List.take_of_length_le covered

theorem pagination_eq (s : Select α) (total limit page : Int) :
    pagination s ⟨total, limit, page⟩ =
      let paged := calculate_page total limit page
      ((s.limit paged.limit).offset paged.offset, paged.next_page) := rfl

/-- From the first page on the walk ends after as many pages as the rows fill, and their windows
split the rows; the two functions put every page in the same place. -/
theorem walk_splits (rows : List α) (limit : Int) (positive : 1 ≤ limit) :
    (∃ pages, Splits rows limit pages ∧
        (pages.length : Int) = max 1 ⌈(rows.length : ℚ) / limit⌉ ∧
        ∀ fuel, walk (calculate_page rows.length limit) fuel 1 =
          if pages.length ≤ fuel then some pages else none) ∧
      ∀ (s : Select α) total limit page, pagination s ⟨total, limit, page⟩ =
        let paged := calculate_page total limit page
        ((s.limit paged.limit).offset paged.offset, paged.next_page) := by
  refine ⟨?_, pagination_eq⟩
  obtain ⟨limit, rfl⟩ := Int.eq_ofNat_of_zero_le (Int.one_pos.le.trans positive)
  have some : 0 < limit := Nat.cast_pos.mp (Int.one_pos.trans_le positive)
  refine ⟨pagesFrom rows.length limit 1, splits_pages rows some, ?_, ?_⟩
  · have nonneg : (0 : ℚ) ≤ rows.length / limit := by positivity
    rw [length_pagesFrom_one, pageCount, Nat.cast_max, Int.natCast_ceil_eq_ceil nonneg]
    rfl
  · intro fuel
    have walked := walk_eq some Nat.one_pos (pageCount_pos rows.length limit) fuel
    rw [Nat.cast_one] at walked
    rw [length_pagesFrom_one, walked]
    exact if_congr (by omega) rfl rfl

theorem walk_splits_three :
    (∃ pages, Splits ["a", "b", "c"] 2 pages ∧
        (pages.length : Int) = max 1 ⌈((["a", "b", "c"].length : Nat) : ℚ) / (2 : Int)⌉ ∧
        ∀ fuel, walk (calculate_page ["a", "b", "c"].length 2) fuel 1 =
          if pages.length ≤ fuel then some pages else none) ∧
      ∀ (s : Select String) total limit page, pagination s ⟨total, limit, page⟩ =
        let paged := calculate_page total limit page
        ((s.limit paged.limit).offset paged.offset, paged.next_page) :=
  walk_splits ["a", "b", "c"] 2 (by decide)

end LabFunctions
