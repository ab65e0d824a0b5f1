import LabFunctions.Library.Dicts

/-!
Models that know which of their fields were set: what is written of them when unset fields and
nulls are left out, and what reading makes of it.
-/

universe u v

/-- A way to write a type as JSON from which reading gives `stored` back: the same value, but for
what `stored` forgets. -/
structure Format (α : Type u) where
  write : α → Json
  read : Json → Option α
  stored : α → α
  read_write : ∀ value, read (write value) = some (stored value)

namespace Format

variable {α : Type u}

def ofCodec (codec : Codec α) : Format α := ⟨codec.write, codec.read, id, codec.read_write⟩

def record (dict : α → List (String × Json)) (ofDict : List (String × Json) → Option α)
    (stored : α → α) (ofDict_dict : ∀ value, ofDict (dict value) = some (stored value)) :
    Format α where
  write value := .dict (dict value)
  read
    | .dict entries => ofDict entries
    | _ => none
  stored := stored
  read_write := ofDict_dict

def optional (format : Format α) (notNull : ∀ value, format.write value ≠ .null) :
    Format (Option α) where
  write
    | some value => format.write value
    | none => .null
  read
    | .null => some none
    | item => (format.read item).map some
  stored := Option.map format.stored
  read_write value := by
    cases value with
    | none => rfl
    | some value =>
        have written := notNull value
        have back := format.read_write value
        split
        · contradiction
        · simp [back]

def str : Format String := ofCodec Codec.str

def int : Format Int := ofCodec Codec.int

def bool : Format Bool := ofCodec Codec.bool

def optStr : Format (Option String) := ofCodec Codec.optStr

def optInt : Format (Option Int) := ofCodec Codec.optInt

def optStrs : Format (Option (List String)) := ofCodec Codec.optStrs

end Format

namespace Dict

/-- One entry, if it is not null. -/
def present (name : String) : Json → List (String × Json)
  | .null => []
  | item => [(name, item)]

@[simp] theorem lookup_present_ne {name other : String} (item : Json) (different : other ≠ name) :
    (present name item).lookup other = none := by
  have missing : (other == name) = false := by simpa using different
  unfold present
  split
  · rfl
  · simp [List.lookup_cons, missing]

theorem lookup_present_self (name : String) {item : Json} (notNull : item ≠ .null) :
    (present name item).lookup name = some item := by
  unfold present
  split
  · exact absurd rfl notNull
  · simp

theorem defaulted_present {α : Type u} {codec : Codec α} {notNull : ∀ value, codec.write value ≠ .null}
    (value : Option α) {entries : List (String × Json)} {name : String}
    (found : entries.lookup name =
      (present name ((codec.optional notNull).write value)).lookup name) :
    defaulted (codec.optional notNull) none entries name = some value := by
  unfold defaulted
  rw [found]
  cases value with
  | none => rfl
  | some value =>
      have written : (codec.optional notNull).write (some value) ≠ .null := notNull value
      rw [lookup_present_self name written]
      exact (codec.optional notNull).read_write (some value)

end Dict

/-- A field with a default, and the value it was given, if any. -/
structure ModelField {α : Type u} (default : α) where
  given : Option α := none

namespace ModelField

open Dict

variable {α : Type u} {default : α}

def value (field : ModelField default) : α := field.given.getD default

def assign (_ : ModelField default) (value : α) : ModelField default := ⟨some value⟩

def written (format : Format α) (name : String) (field : ModelField default) : List (String × Json) :=
  match field.given with
  | none => []
  | some value => present name (format.write value)

def read (format : Format α) (default : α) : Option Json → Option (ModelField default)
  | none => some {}
  | some item => (format.read item).map fun value => ⟨some value⟩

/-- What is left of a field that was written: a null is as good as unset. -/
def stored (format : Format α) (field : ModelField default) : ModelField default :=
  match field.given with
  | none => {}
  | some value =>
      match format.write value with
      | .null => {}
      | _ => ⟨some (format.stored value)⟩

@[simp] theorem lookup_written_ne (format : Format α) {name other : String} (field : ModelField default)
    (different : other ≠ name) : (field.written format name).lookup other = none := by
  unfold written
  split
  · rfl
  · exact lookup_present_ne _ different

@[simp] theorem read_written (format : Format α) (field : ModelField default) (name : String) :
    read format default ((field.written format name).lookup name) = some (field.stored format) := by
  unfold stored written
  cases field.given with
  | none => rfl
  | some value =>
      have back := format.read_write value
      cases wrote : format.write value <;> rw [wrote] at back <;> simp [read, present, wrote, back]

/-- If only the default is written as null, a view of the value outlasts writing and reading. -/
theorem view_stored {β : Type v} (format : Format α) (view : α → β)
    (kept : ∀ value, view (format.stored value) = view value)
    (restores : ∀ value, format.write value = .null → view value = view default)
    (field : ModelField default) : view (field.stored format).value = view field.value := by
  obtain ⟨given⟩ := field
  cases given with
  | none => rfl
  | some value =>
      simp only [stored]
      split
      · rename_i null
        exact (restores value null).symm
      · exact kept value

theorem value_stored (codec : Codec α) (restores : ∀ value, codec.write value = .null → value = default)
    (field : ModelField default) : (field.stored (.ofCodec codec)).value = field.value :=
  view_stored (.ofCodec codec) id (fun _ => rfl) restores field

@[simp] theorem value_stored_str {default : String} (field : ModelField default) :
    (field.stored .str).value = field.value :=
  value_stored Codec.str (fun _ null => by cases null) field

@[simp] theorem value_stored_int {default : Int} (field : ModelField default) :
    (field.stored .int).value = field.value :=
  value_stored Codec.int (fun _ null => by cases null) field

@[simp] theorem value_stored_bool {default : Bool} (field : ModelField default) :
    (field.stored .bool).value = field.value :=
  value_stored Codec.bool (fun _ null => by cases null) field

theorem value_stored_optional (codec : Codec α) (notNull : ∀ value, codec.write value ≠ .null)
    (field : ModelField (none : Option α)) :
    (field.stored (.ofCodec (codec.optional notNull))).value = field.value := by
  refine value_stored _ ?_ field
  intro value null
  cases value with
  | none => rfl
  | some value => exact absurd null (notNull value)

@[simp] theorem value_stored_optStr (field : ModelField (none : Option String)) :
    (field.stored .optStr).value = field.value := value_stored_optional _ _ field

@[simp] theorem value_stored_optInt (field : ModelField (none : Option Int)) :
    (field.stored .optInt).value = field.value := value_stored_optional _ _ field

@[simp] theorem value_stored_optStrs (field : ModelField (none : Option (List String))) :
    (field.stored .optStrs).value = field.value := value_stored_optional _ _ field

end ModelField
