import Mathlib.Data.List.Basic

/-!
JSON values, Python dictionaries as association lists in insertion order, and
codecs: a way to write a field type as JSON together with the proof that reading
it back gives the same value.
-/

inductive Json where
  | null
  | bool (value : Bool)
  | int (value : Int)
  | float (literal : String)
  | str (value : String)
  | list (items : List Json)
  | dict (entries : List (String × Json))

namespace Dict

variable {α : Type*}

def set : List (String × α) → String → α → List (String × α)
  | [], key, value => [(key, value)]
  | (other, old) :: rest, key, value =>
      if other = key then (key, value) :: rest else (other, old) :: set rest key value

@[simp] theorem lookup_set_self (entries : List (String × α)) (key : String) (value : α) :
    (set entries key value).lookup key = some value := by
  induction entries with
  | nil => simp [set]
  | cons entry rest ih =>
      obtain ⟨other, old⟩ := entry
      by_cases same : other = key
      · simp [set, same]
      · have different : (key == other) = false := by simpa using Ne.symm same
        simp only [set, same, if_false, List.lookup_cons, different, ih]

@[simp] theorem lookup_set_ne (entries : List (String × α)) {key other : String} (value : α)
    (different : other ≠ key) :
    (set entries key value).lookup other = entries.lookup other := by
  induction entries with
  | nil =>
      have missing : (other == key) = false := by simpa using different
      simp [set, List.lookup_cons, missing]
  | cons entry rest ih =>
      obtain ⟨first, old⟩ := entry
      by_cases same : first = key
      · have missing : (other == key) = false := by simpa using different
        simp [set, same, List.lookup_cons, missing]
      · simp only [set, same, if_false, List.lookup_cons, ih]

theorem set_of_lookup (entries : List (String × α)) {key : String} {value : α}
    (present : entries.lookup key = some value) : set entries key value = entries := by
  induction entries with
  | nil => simp at present
  | cons entry rest ih =>
      obtain ⟨other, old⟩ := entry
      by_cases same : other = key
      · simp only [List.lookup_cons, same, beq_self_eq_true, Option.some.injEq] at present
        simp [set, same, present]
      · have different : (key == other) = false := by simpa using Ne.symm same
        simp only [List.lookup_cons, different] at present
        simp [set, same, ih present]

@[simp] theorem set_set (entries : List (String × α)) (key : String) (old new : α) :
    set (set entries key old) key new = set entries key new := by
  induction entries with
  | nil => simp [set]
  | cons entry rest ih =>
      obtain ⟨other, value⟩ := entry
      by_cases same : other = key
      · simp [set, same]
      · simp [set, same, ih]

theorem set_fresh (entries : List (String × α)) {key : String} (value : α)
    (fresh : ∀ entry ∈ entries, entry.1 ≠ key) :
    set entries key value = entries ++ [(key, value)] := by
  induction entries with
  | nil => rfl
  | cons entry rest ih =>
      obtain ⟨other, old⟩ := entry
      have different : other ≠ key := fresh (other, old) (List.mem_cons_self ..)
      rw [set, if_neg different, ih fun later member => fresh later (List.mem_cons_of_mem _ member),
        List.cons_append]

theorem mem_set {entries : List (String × α)} {key : String} {value : α} {entry : String × α}
    (member : entry ∈ set entries key value) : entry ∈ entries ∨ entry = (key, value) := by
  induction entries with
  | nil => exact .inr (List.mem_singleton.mp member)
  | cons first rest ih =>
      obtain ⟨other, old⟩ := first
      rw [set] at member
      split at member
      · rcases List.mem_cons.mp member with same | later
        · exact .inr same
        · exact .inl (List.mem_cons_of_mem _ later)
      · rcases List.mem_cons.mp member with rfl | later
        · exact .inl (List.mem_cons_self ..)
        · rcases ih later with old | new
          · exact .inl (List.mem_cons_of_mem _ old)
          · exact .inr new

theorem map_set {β : Type*} (view : α → β) (entries : List (String × α)) (key : String)
    (value : α) :
    (set entries key value).map (fun entry => (entry.1, view entry.2)) =
      set (entries.map fun entry => (entry.1, view entry.2)) key (view value) := by
  induction entries with
  | nil => rfl
  | cons first rest ih =>
      obtain ⟨other, old⟩ := first
      rw [set, List.map_cons, set]
      split
      · rfl
      · rw [List.map_cons, ih]

/-- Where names are distinct, setting one replaces its entry and keeps the others. -/
theorem mem_set_iff {entries : List (String × α)} {key : String} {value : α}
    (nodup : (entries.map Prod.fst).Nodup) {entry : String × α} :
    entry ∈ set entries key value ↔ entry = (key, value) ∨ entry ∈ entries ∧ entry.1 ≠ key := by
  induction entries with
  | nil => simp [set]
  | cons first rest ih =>
      obtain ⟨other, old⟩ := first
      obtain ⟨fresh, others⟩ := List.nodup_cons.mp nodup
      by_cases same : other = key
      · subst same
        have apart : ∀ later ∈ rest, later.1 ≠ other := by
          intro later member named
          have inside : later.1 ∈ rest.map Prod.fst := List.mem_map_of_mem member
          rw [named] at inside
          exact fresh inside
        rw [set, if_pos rfl, List.mem_cons, List.mem_cons]
        constructor
        · rintro (new | later)
          · exact .inl new
          · exact .inr ⟨.inr later, apart entry later⟩
        · rintro (new | ⟨rfl | later, different⟩)
          · exact .inl new
          · exact absurd rfl different
          · exact .inr later
      · rw [set, if_neg same, List.mem_cons, List.mem_cons, ih others]
        constructor
        · rintro (rfl | new | ⟨later, different⟩)
          · exact .inr ⟨.inl rfl, same⟩
          · exact .inl new
          · exact .inr ⟨.inr later, different⟩
        · rintro (new | ⟨rfl | later, different⟩)
          · exact .inr (.inl new)
          · exact .inl rfl
          · exact .inr (.inr ⟨later, different⟩)

theorem nodup_set {entries : List (String × α)} (key : String) (value : α)
    (nodup : (entries.map Prod.fst).Nodup) : ((set entries key value).map Prod.fst).Nodup := by
  induction entries with
  | nil => simp [set]
  | cons first rest ih =>
      obtain ⟨other, old⟩ := first
      obtain ⟨fresh, others⟩ := List.nodup_cons.mp nodup
      by_cases same : other = key
      · rw [set, if_pos same]
        exact List.nodup_cons.mpr ⟨same ▸ fresh, others⟩
      · rw [set, if_neg same]
        refine List.nodup_cons.mpr ⟨?_, ih others⟩
        intro found
        obtain ⟨entry, member, named⟩ := List.mem_map.mp found
        rcases mem_set member with inside | new
        · exact fresh (named ▸ List.mem_map_of_mem inside)
        · exact same (named.symm.trans (congrArg Prod.fst new))

theorem mem_iff_lookup {entries : List (String × α)} (nodup : (entries.map Prod.fst).Nodup)
    {key : String} {value : α} : (key, value) ∈ entries ↔ entries.lookup key = some value := by
  induction entries with
  | nil => simp
  | cons first rest ih =>
      obtain ⟨other, old⟩ := first
      obtain ⟨fresh, others⟩ := List.nodup_cons.mp nodup
      rw [List.mem_cons, List.lookup_cons, ih others]
      by_cases same : key = other
      · subst same
        have absent : rest.lookup key ≠ some value := by
          intro found
          exact fresh (List.mem_map.mpr ⟨(key, value), (ih others).mpr found, rfl⟩)
        simp [absent, eq_comm]
      · have different : (key == other) = false := by simpa using same
        simp [same, different]

/-- Sets one key after the other, as `update` does. -/
def setAll (entries updates : List (String × α)) : List (String × α) :=
  updates.foldl (fun entries update => set entries update.1 update.2) entries

theorem nodup_setAll {entries : List (String × α)} (updates : List (String × α))
    (nodup : (entries.map Prod.fst).Nodup) : ((setAll entries updates).map Prod.fst).Nodup := by
  induction updates generalizing entries with
  | nil => exact nodup
  | cons update rest ih => exact ih (nodup_set update.1 update.2 nodup)

theorem mem_setAll_iff {entries updates : List (String × α)}
    (nodup : (entries.map Prod.fst).Nodup) (distinct : (updates.map Prod.fst).Nodup)
    {entry : String × α} :
    entry ∈ setAll entries updates ↔
      entry ∈ updates ∨ entry ∈ entries ∧ entry.1 ∉ updates.map Prod.fst := by
  induction updates generalizing entries with
  | nil => simp [setAll]
  | cons update rest ih =>
      obtain ⟨fresh, others⟩ := List.nodup_cons.mp distinct
      have later := ih (nodup_set update.1 update.2 nodup) others
      rw [setAll, List.foldl_cons, ← setAll, later, mem_set_iff nodup, List.mem_cons, List.map_cons,
        List.mem_cons, not_or]
      constructor
      · rintro (inside | ⟨rfl | ⟨old, different⟩, untouched⟩)
        · exact .inl (.inr inside)
        · exact .inl (.inl rfl)
        · exact .inr ⟨old, different, untouched⟩
      · rintro ((rfl | inside) | ⟨old, different, untouched⟩)
        · exact .inr ⟨.inl rfl, fresh⟩
        · exact .inl inside
        · exact .inr ⟨.inr ⟨old, different⟩, untouched⟩

end Dict

structure Codec (α : Type*) where
  write : α → Json
  read : Json → Option α
  read_write : ∀ value, read (write value) = some value

namespace Codec

variable {α : Type*}

def str : Codec String where
  write := .str
  read
    | .str value => some value
    | _ => none
  read_write _ := rfl

def int : Codec Int where
  write := .int
  read
    | .int value => some value
    | _ => none
  read_write _ := rfl

def bool : Codec Bool where
  write := .bool
  read
    | .bool value => some value
    | _ => none
  read_write _ := rfl

def dict : Codec (List (String × Json)) where
  write := .dict
  read
    | .dict entries => some entries
    | _ => none
  read_write _ := rfl

def readItems (read : Json → Option α) : List Json → Option (List α)
  | [] => some []
  | item :: rest =>
      match read item, readItems read rest with
      | some value, some values => some (value :: values)
      | _, _ => none

theorem readItems_map (codec : Codec α) (values : List α) :
    readItems codec.read (values.map codec.write) = some values := by
  induction values with
  | nil => rfl
  | cons value rest ih => simp [readItems, codec.read_write, ih]

def list (codec : Codec α) : Codec (List α) where
  write values := .list (values.map codec.write)
  read
    | .list items => readItems codec.read items
    | _ => none
  read_write := readItems_map codec

def optional (codec : Codec α) (notNull : ∀ value, codec.write value ≠ .null) :
    Codec (Option α) where
  write
    | some value => codec.write value
    | none => .null
  read
    | .null => some none
    | item => (codec.read item).map some
  read_write value := by
    cases value with
    | none => rfl
    | some value =>
        have written := notNull value
        have back := codec.read_write value
        split
        · contradiction
        · simp [back]

def optStr : Codec (Option String) := str.optional (by simp [str])

def optInt : Codec (Option Int) := int.optional (by simp [int])

def optStrs : Codec (Option (List String)) := (list str).optional (by simp [list])

end Codec

namespace Dict

variable {α : Type*}

def required (codec : Codec α) (entries : List (String × Json)) (name : String) : Option α :=
  (entries.lookup name).bind codec.read

def defaulted (codec : Codec α) (default : α) (entries : List (String × Json)) (name : String) :
    Option α :=
  match entries.lookup name with
  | none => some default
  | some item => codec.read item

end Dict
