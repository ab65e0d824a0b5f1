import LabFunctions.Events
import LabFunctions.Library.Lines

/-!
`secure_filename` and `normalize_name` of `labfunctions.utils`: what is left of a text that
becomes a file name, a channel or the name of a project.
-/

namespace LabFunctions

open Lines Words

/-- The two tables of Unicode that are read: `ascii` are the ASCII characters in the compatibility
decomposition of a character, `lower` is `str.lower`. -/
structure Unicode where
  ascii : Char → List Char
  lower : String → String
  ascii_self : ∀ character : Char, character.toNat < 128 → ascii character = [character]

/-- The complement of `_filename_ascii_strip_re`. -/
def keeps (character : Char) : Bool :=
  character.isAlphanum || character == '_' || character == '.' || character == '-'

def isEdge (character : Char) : Bool := character == '.' || character == '_'

/-- On POSIX, where `/` is the only separator and no device file has a name. -/
def secure_filename (unicode : Unicode) (filename : String) : String :=
  let filename := filename.toList.flatMap unicode.ascii
  let filename := filename.map fun character => if character = '/' then ' ' else character
  let filename := ['_'].intercalate (pieces isspace filename)
  strip isEdge (String.ofList (filename.filter keeps))

/-- The first two assignments of `normalize_name`: `name.lower()` and `evaluate.replace(" ", "_")`. -/
def evaluated (unicode : Unicode) (name : String) : String :=
  let evaluate := unicode.lower name
  evaluate.map fun character => if character = ' ' then '_' else character

/-- The third assignment reads the argument again, so what the first two made is dropped. -/
def normalize_name (unicode : Unicode) (name : String) : String :=
  let _evaluate := evaluated unicode name
  secure_filename unicode name

namespace Filenames

variable {unicode : Unicode}

def Plain (text : String) : Prop := ∀ character ∈ text.toList, keeps character = true

instance (text : String) : Decidable (Plain text) :=
  decidable_of_iff (text.toList.all keeps = true) List.all_eq_true

def isBreak (character : Char) : Bool := isspace character || character == '/'

/-- What can be seen of a text: a run of blanks and slashes between two words is one underscore,
and of the other characters those stay that a file name may have. -/
def visible (unicode : Unicode) (text : String) : List Char :=
  (squeeze isBreak '_' .ahead (text.toList.flatMap unicode.ascii)).filter keeps

/-- What can be seen of a text, without the dots and underscores at its ends. -/
def core (unicode : Unicode) (text : String) : String :=
  strip isEdge (String.ofList (visible unicode text))

theorem squeeze_map (position : Position) (text : List Char) :
    squeeze isspace '_' position (text.map fun character => if character = '/' then ' ' else character) =
      squeeze isBreak '_' position text := by
  induction text generalizing position with
  | nil => rfl
  | cons first rest ih =>
      rw [List.map_cons, squeeze, squeeze]
      by_cases slash : first = '/'
      · have space : isspace ' ' = true := by decide
        have breaks : isBreak '/' = true := by decide
        rw [if_pos slash, slash, if_pos space, if_pos breaks, ih]
      · have same : isBreak first = isspace first := by simp [isBreak, slash]
        rw [if_neg slash, same, ih, ih]

theorem secure_filename_eq (unicode : Unicode) (filename : String) :
    secure_filename unicode filename = core unicode filename := by
  unfold secure_filename core visible
  simp only [intercalate_pieces, squeeze_map]

theorem keeps_of_mem_core {text : String} {character : Char}
    (member : character ∈ (core unicode text).toList) : keeps character = true := by
  have found := mem_of_mem_strip member
  rw [String.toList_ofList] at found
  exact (List.mem_filter.mp found).2

theorem toNat_of_keeps {character : Char} (kept : keeps character = true) :
    character.toNat < 128 := by
  have below : ∀ bound : Char, bound.toNat < 128 → character.val ≤ bound.val →
      character.toNat < 128 := by
    intro bound ascii upTo
    exact Nat.lt_of_le_of_lt (UInt32.le_iff_toNat_le.mp upTo) ascii
  simp only [keeps, Bool.or_eq_true, beq_iff_eq] at kept
  rcases kept with ((alphanum | rfl) | rfl) | rfl
  · rcases (Bool.or_eq_true _ _).mp alphanum with alpha | digit
    · rcases (Bool.or_eq_true _ _).mp alpha with upper | lower
      · exact below 'Z' (by decide) (of_decide_eq_true upper).2
      · exact below 'z' (by decide) (of_decide_eq_true ((Bool.and_eq_true _ _).mp lower).2)
    · exact below '9' (by decide) (of_decide_eq_true ((Bool.and_eq_true _ _).mp digit).2)
  all_goals decide

theorem not_isBreak_of_keeps {character : Char} (kept : keeps character = true) :
    isBreak character = false := by
  have below := toNat_of_keeps kept
  have table : ∀ code < 128, keeps (Char.ofNat code) = true → isBreak (Char.ofNat code) = false := by
    decide
  have found := table character.toNat below
  rw [Char.ofNat_toNat] at found
  exact found kept

theorem visible_of_plain {text : String} (plain : Plain text) :
    visible unicode text = text.toList := by
  have ascii : text.toList.flatMap unicode.ascii = text.toList := by
    have single : ∀ character ∈ text.toList, unicode.ascii character = [character] := by
      intro character member
      exact unicode.ascii_self character (toNat_of_keeps (plain character member))
    rw [List.flatMap_congr single, List.flatMap_singleton']
  have words : squeeze isBreak '_' .ahead text.toList = text.toList := by
    apply squeeze_of_clean
    · intro character member
      exact not_isBreak_of_keeps (plain character member)
    · rfl
  rw [visible, ascii, words]
  exact List.filter_eq_self.mpr plain

theorem core_of_plain {text : String} (plain : Plain text) :
    core unicode text = strip isEdge text := by
  rw [core, visible_of_plain plain, String.ofList_toList]

theorem plain_core (text : String) : Plain (core unicode text) :=
  fun _ => keeps_of_mem_core

/-- A text that has become a file name is left as it is. -/
theorem secure_filename_secure_filename (filename : String) :
    secure_filename unicode (secure_filename unicode filename) =
      secure_filename unicode filename := by
  rw [secure_filename_eq, secure_filename_eq, core_of_plain (plain_core filename)]
  exact strip_strip _

end Filenames

def Sample.unicode : Unicode where
  ascii character := if character.toNat < 128 then [character] else []
  lower := String.map Char.toLower
  ascii_self _ below := if_pos below

end LabFunctions
