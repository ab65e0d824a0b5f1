import Mathlib.Algebra.Order.BigOperators.Group.List
import Mathlib.Algebra.Order.Group.Nat
import Mathlib.Algebra.Ring.Nat
import Mathlib.Data.List.Infix
import LabFunctions.Library.Words

/-!
POSIX paths as text and as lists of names: how a path splits into segments, how
pathlib joins and prints pure paths, and how the file system resolves `..`.
-/

namespace Paths

def segments (text : String) : List String :=
  ((text.toList.splitOn '/').map String.ofList).filter fun piece => piece != "" && piece != "."

structure Clean (name : String) : Prop where
  noSlash : '/' ∉ name.toList
  notEmpty : name ≠ ""
  notDot : name ≠ "."

instance (name : String) : Decidable (Clean name) :=
  decidable_of_iff ('/' ∉ name.toList ∧ name ≠ "" ∧ name ≠ ".")
    ⟨fun facts => ⟨facts.1, facts.2.1, facts.2.2⟩,
      fun clean => ⟨clean.noSlash, clean.notEmpty, clean.notDot⟩⟩

theorem not_mem_of_mem_splitOn {separator : Char} (text piece : List Char)
    (member : piece ∈ text.splitOn separator) : separator ∉ piece := by
  rw [List.splitOn_eq_splitOnP] at member
  intro found
  simpa using Words.clean_of_mem_splitOnP _ _ member _ found

theorem segments_join (front back : String) :
    segments (front ++ "/" ++ back) = segments front ++ segments back := by
  have slash : "/".toList = ['/'] := rfl
  simp only [segments, String.toList_append, slash, List.append_assoc, List.singleton_append]
  rw [List.splitOn_append_cons_self, List.map_append, List.filter_append]

@[simp] theorem segments_empty : segments "" = [] := by decide

@[simp] theorem segments_dot : segments "." = [] := by decide

theorem segments_slash_append (text : String) : segments ("/" ++ text) = segments text := by
  simpa using segments_join "" text

theorem segments_of_clean {name : String} (clean : Clean name) : segments name = [name] := by
  simp [segments, List.splitOn_eq_singleton clean.noSlash, clean.notEmpty, clean.notDot]

theorem clean_of_mem_segments {text name : String} (member : name ∈ segments text) :
    Clean name := by
  simp only [segments, List.mem_filter, List.mem_map, Bool.and_eq_true, bne_iff_ne] at member
  obtain ⟨⟨piece, inside, rfl⟩, notEmpty, notDot⟩ := member
  refine ⟨?_, notEmpty, notDot⟩
  rw [String.toList_ofList]
  exact not_mem_of_mem_splitOn _ _ inside

/-- A character that separates nothing is seen in a segment. -/
theorem exists_segment_of_mem {text : String} {character : Char} (name : character ≠ '/')
    (shown : character ≠ '.') (member : character ∈ text.toList) :
    ∃ segment ∈ segments text, character ∈ segment.toList := by
  have piece : ∀ characters : List Char, character ∈ characters →
      ∃ piece ∈ characters.splitOn '/', character ∈ piece := by
    intro characters inside
    induction characters with
    | nil => simp at inside
    | cons first rest ih =>
        obtain ⟨head, others, split⟩ := List.exists_cons_of_ne_nil (List.splitOn_ne_nil '/' rest)
        rw [List.splitOn_cons_eq_if_modifyHead, split, List.modifyHead_cons]
        rw [split] at ih
        rcases List.mem_cons.mp inside with rfl | later
        · rw [if_neg (by simpa using name)]
          exact ⟨character :: head, List.mem_cons_self .., List.mem_cons_self ..⟩
        · obtain ⟨piece, among, holds⟩ := ih later
          split_ifs
          · exact ⟨piece, List.mem_cons_of_mem _ among, holds⟩
          · rcases List.mem_cons.mp among with rfl | behind
            · exact ⟨first :: piece, List.mem_cons_self .., List.mem_cons_of_mem _ holds⟩
            · exact ⟨piece, List.mem_cons_of_mem _ behind, holds⟩
  obtain ⟨found, among, holds⟩ := piece text.toList member
  refine ⟨String.ofList found, ?_, by rwa [String.toList_ofList]⟩
  refine List.mem_filter.mpr ⟨List.mem_map_of_mem among, ?_⟩
  have other : ∀ other : String, character ∉ other.toList → String.ofList found ≠ other := by
    rintro _ missing rfl
    exact missing (by rwa [String.toList_ofList])
  have empty := other "" (by simp)
  have dot := other "." (by simpa using shown)
  simp [empty, dot]

/-! Pure paths, as pathlib parses, joins and prints them. -/

structure PurePath where
  root : String
  parts : List String
  rooted : root = "" ∨ root = "/" ∨ root = "//"
  clean : ∀ part ∈ parts, Clean part

namespace PurePath

/-- Exactly two leading slashes are a root of their own. -/
def rootOf (text : String) : String :=
  match text.toList with
  | '/' :: '/' :: '/' :: _ => "/"
  | '/' :: '/' :: _ => "//"
  | '/' :: _ => "/"
  | _ => ""

def parse (text : String) : PurePath where
  root := rootOf text
  parts := segments text
  rooted := by unfold rootOf; split <;> simp
  clean _ := clean_of_mem_segments

def join (left : PurePath) (right : String) : PurePath :=
  if rootOf right = "" then
    ⟨left.root, left.parts ++ segments right, left.rooted, by
      intro part member
      rcases List.mem_append.mp member with old | new
      · exact left.clean part old
      · exact clean_of_mem_segments new⟩
  else parse right

def joinSlash : List String → String
  | [] => ""
  | [part] => part
  | part :: rest => part ++ "/" ++ joinSlash rest

def str (path : PurePath) : String :=
  if path.root = "" ∧ path.parts = [] then "." else path.root ++ joinSlash path.parts

theorem segments_joinSlash (parts : List String) (clean : ∀ part ∈ parts, Clean part) :
    segments (joinSlash parts) = parts := by
  induction parts with
  | nil => simp [joinSlash]
  | cons part rest ih =>
      have first := segments_of_clean (clean part (by simp))
      cases rest with
      | nil => exact first
      | cons next others =>
          rw [joinSlash, segments_join, first, ih (fun name member => clean name (by simp [member]))]
          · rfl
          · simp

@[simp] theorem segments_str (path : PurePath) : segments path.str = path.parts := by
  unfold str
  split
  · rename_i empty
    simp [empty.2]
  · have plain := segments_joinSlash path.parts path.clean
    have twice : "//" = "/" ++ "/" := rfl
    rcases path.rooted with root | root | root
    · simpa [root] using plain
    · rw [root, segments_slash_append, plain]
    · rw [root, twice, String.append_assoc, segments_slash_append, segments_slash_append, plain]

@[simp] theorem parts_parse (text : String) : (parse text).parts = segments text := rfl

theorem parts_join_relative (left : PurePath) {right : String} (relative : rootOf right = "") :
    (left.join right).parts = left.parts ++ segments right := by
  simp [join, relative]

theorem parts_join_absolute (left : PurePath) {right : String} (absolute : rootOf right ≠ "") :
    (left.join right).parts = segments right := by
  simp [join, absolute]

theorem rootOf_of_clean {name : String} (clean : Clean name) : rootOf name = "" := by
  unfold rootOf
  split
  all_goals
    first
    | rfl
    | exact absurd (by simp [*]) clean.noSlash

theorem parts_join_clean (left : PurePath) {name : String} (clean : Clean name) :
    (left.join name).parts = left.parts ++ [name] := by
  rw [parts_join_relative left (rootOf_of_clean clean), segments_of_clean clean]

/-! A path is printed with at most the text it was read from. -/

def text (path : PurePath) : String := path.root ++ joinSlash path.parts

theorem str_of_parts {path : PurePath} (parts : path.parts ≠ []) : path.str = path.text := by
  simp [str, text, parts]

theorem joinSlash_append {front back : List String} (frontParts : front ≠ [])
    (backParts : back ≠ []) :
    joinSlash (front ++ back) = joinSlash front ++ "/" ++ joinSlash back := by
  induction front with
  | nil => exact absurd rfl frontParts
  | cons part rest ih =>
      cases rest with
      | nil =>
          obtain ⟨first, others, rfl⟩ := List.exists_cons_of_ne_nil backParts
          rfl
      | cons next others =>
          have tail := ih (by simp)
          simp only [List.cons_append, joinSlash] at tail ⊢
          rw [tail]
          simp only [String.append_assoc]

theorem length_joinSlash_le (parts : List String) :
    (joinSlash parts).length ≤ (parts.map fun part => part.length + 1).sum - 1 := by
  induction parts with
  | nil => simp [joinSlash]
  | cons part rest ih =>
      cases rest with
      | nil => simp [joinSlash]
      | cons next others =>
          have slash : "/".length = 1 := rfl
          simp only [joinSlash, String.length_append, List.map_cons, List.sum_cons, slash] at ih ⊢
          omega

theorem sum_splitOn (characters : List Char) :
    ((characters.splitOn '/').map fun piece => piece.length + 1).sum = characters.length + 1 := by
  induction characters with
  | nil => simp
  | cons character rest ih =>
      rw [List.splitOn_cons_eq_if_modifyHead]
      split
      · simp only [List.map_cons, List.sum_cons, ih, List.length_nil, List.length_cons]
        omega
      · obtain ⟨first, others, split⟩ :=
          List.exists_cons_of_ne_nil (List.splitOn_ne_nil '/' rest)
        rw [split] at ih ⊢
        simp only [List.modifyHead_cons, List.map_cons, List.sum_cons, List.length_cons] at ih ⊢
        omega

theorem length_joinSlash_segments_le (text : String) :
    (joinSlash (segments text)).length ≤ text.length := by
  have sub : (segments text).Sublist ((text.toList.splitOn '/').map String.ofList) :=
    List.filter_sublist
  have lengths := (sub.map fun part => part.length + 1).sum_le_sum (fun _ _ => Nat.zero_le _)
  have total := sum_splitOn text.toList
  have joined := length_joinSlash_le (segments text)
  rw [List.map_map] at lengths
  simp only [Function.comp_def, String.length_ofList] at lengths
  rw [String.length_toList] at total
  omega

theorem length_text_parse_le (given : String) : (parse given).text.length ≤ given.length := by
  have bound : ∀ rest, (joinSlash (segments rest)).length ≤ rest.length :=
    length_joinSlash_segments_le
  have peel : ∀ rest : List Char, segments (String.ofList ('/' :: rest)) =
      segments (String.ofList rest) := by
    intro rest
    rw [← segments_slash_append (String.ofList rest)]
    exact congrArg segments (String.toList_inj.mp (by simp))
  have given_eq : given = String.ofList given.toList := (String.ofList_toList).symm
  simp only [text, parse, rootOf, String.length_append]
  split
  · rename_i rest characters
    rw [given_eq, characters, peel]
    have slash : "/".length = 1 := rfl
    have tail := bound (String.ofList ('/' :: '/' :: rest))
    simp only [String.length_ofList, List.length_cons, slash] at tail ⊢
    omega
  · rename_i rest _ characters
    rw [given_eq, characters, peel, peel]
    have slash : "//".length = 2 := rfl
    have tail := bound (String.ofList rest)
    simp only [String.length_ofList, List.length_cons, slash] at tail ⊢
    omega
  · rename_i rest _ _ characters
    rw [given_eq, characters, peel]
    have slash : "/".length = 1 := rfl
    have tail := bound (String.ofList rest)
    simp only [String.length_ofList, List.length_cons, slash] at tail ⊢
    omega
  · have empty : "".length = 0 := rfl
    have whole := bound given
    omega

theorem append_inj_of_length_le {front middle back given between last : String}
    (frontShort : front.length ≤ given.length) (backShort : back.length ≤ last.length)
    (middleSame : middle.length = between.length) :
    front ++ middle ++ back = given ++ between ++ last ↔
      front = given ∧ middle = between ∧ back = last := by
  constructor
  · intro same
    have lengths := congrArg String.length same
    simp only [String.length_append] at lengths
    have lists := congrArg String.toList same
    simp only [String.toList_append, List.append_assoc] at lists
    have frontLength : front.toList.length = given.toList.length := by
      simp only [String.length_toList]
      omega
    have middleLength : middle.toList.length = between.toList.length := by
      simp only [String.length_toList]
      omega
    obtain ⟨fronts, rest⟩ := List.append_inj lists frontLength
    obtain ⟨middles, backs⟩ := List.append_inj rest middleLength
    exact ⟨String.toList_inj.mp fronts, String.toList_inj.mp middles, String.toList_inj.mp backs⟩
  · rintro ⟨rfl, rfl, rfl⟩
    rfl

@[simp] theorem root_parse (given : String) : (parse given).root = rootOf given := rfl

theorem root_join_relative (left : PurePath) {right : String} (relative : rootOf right = "") :
    (left.join right).root = left.root := by
  simp [join, relative]

/-- The two texts, joined and printed, come out as they went in. -/
def Joins (given name : String) : Prop :=
  ((parse given).join name).str = given ++ "/" ++ name

instance (given name : String) : Decidable (Joins given name) :=
  inferInstanceAs (Decidable (_ = _))

/-- With more directories in between, the print is the text that was joined by hand
exactly when the directories are the same and the ends join. -/
theorem str_between_iff {path : PurePath} {given name : String} {middle other : List String}
    (root : path.root = rootOf given)
    (parts : path.parts = segments given ++ (middle ++ segments name))
    (relative : rootOf name = "") (named : segments name ≠ []) (inside : middle ≠ [])
    (lengths : (joinSlash middle).length = (joinSlash other).length) :
    path.str = given ++ "/" ++ joinSlash other ++ "/" ++ name ↔
      joinSlash middle = joinSlash other ∧ Joins given name := by
  have nameShort := length_joinSlash_segments_le name
  have givenShort := length_text_parse_le given
  have slash : "/".length = 1 := rfl
  have joinedParts : ((parse given).join name).parts = segments given ++ segments name :=
    parts_join_relative _ relative
  have joinedRoot : ((parse given).join name).root = rootOf given := root_join_relative _ relative
  unfold Joins
  rw [str_of_parts (by simp [parts, inside]), str_of_parts (by simp [joinedParts, named]), text,
    text, parts, root, joinedParts, joinedRoot]
  by_cases empty : segments given = []
  -- without a name in `given` neither print has room for the slashes of the other text
  · simp only [text, parts_parse, root_parse, empty, joinSlash, String.append_empty,
      List.nil_append, joinSlash_append inside named] at givenShort ⊢
    constructor
    · intro same
      have total := congrArg String.length same
      simp only [String.length_append, slash] at total
      omega
    · rintro ⟨_, same⟩
      have total := congrArg String.length same
      simp only [String.length_append, slash] at total
      omega
  · rw [joinSlash_append empty (by simp [inside]), joinSlash_append inside named,
      joinSlash_append empty named]
    have outer : rootOf given ++ (joinSlash (segments given) ++ "/" ++
        (joinSlash middle ++ "/" ++ joinSlash (segments name))) =
        (parse given).text ++ ("/" ++ joinSlash middle ++ "/") ++ joinSlash (segments name) := by
      simp only [text, root_parse, parts_parse, String.append_assoc]
    have inner : rootOf given ++ (joinSlash (segments given) ++ "/" ++ joinSlash (segments name)) =
        (parse given).text ++ "/" ++ joinSlash (segments name) := by
      simp only [text, root_parse, parts_parse, String.append_assoc]
    have plain : given ++ "/" ++ joinSlash other ++ "/" ++ name =
        given ++ ("/" ++ joinSlash other ++ "/") ++ name := by
      simp only [String.append_assoc]
    rw [outer, inner, plain, append_inj_of_length_le givenShort nameShort
        (by simp [String.length_append, lengths]),
      append_inj_of_length_le givenShort nameShort rfl]
    have middles : "/" ++ joinSlash middle ++ "/" = "/" ++ joinSlash other ++ "/" ↔
        joinSlash middle = joinSlash other := by
      simp
    rw [middles]
    constructor
    · rintro ⟨front, directories, back⟩
      exact ⟨directories, front, rfl, back⟩
    · rintro ⟨directories, front, _, back⟩
      exact ⟨front, directories, back⟩

end PurePath

/-! Resolution: walking a path from a directory, `..` leaving the directory. -/

def walk (here : List String) (segment : String) : List String :=
  if segment = ".." then here.dropLast else here ++ [segment]

/-- Where a path leads from a directory. Above the file system root there is only the root. -/
def resolve (here path : List String) : List String :=
  path.foldl walk here

structure Climb where
  ups : Nat
  downs : List String
  deriving DecidableEq

def Climb.walk (climb : Climb) (segment : String) : Climb :=
  if segment = ".." then
    if climb.downs = [] then ⟨climb.ups + 1, []⟩ else ⟨climb.ups, climb.downs.dropLast⟩
  else ⟨climb.ups, climb.downs ++ [segment]⟩

def climb (path : List String) : Climb :=
  path.foldl Climb.walk ⟨0, []⟩

def Climb.from (climb : Climb) (here : List String) : List String :=
  here.take (here.length - climb.ups) ++ climb.downs

theorem Climb.from_walk (climb : Climb) (here : List String) (segment : String) :
    (climb.walk segment).from here = Paths.walk (climb.from here) segment := by
  unfold Climb.walk Paths.walk Climb.from
  by_cases up : segment = ".."
  · by_cases bottom : climb.downs = []
    · simp only [up, if_true, bottom, List.append_nil]
      rw [List.dropLast_eq_take, List.take_take, List.length_take]
      congr 1
      omega
    · simp only [up, if_true, bottom, if_false]
      rw [List.dropLast_append_of_ne_nil bottom]
  · simp [up]

theorem resolve_append (here front back : List String) :
    resolve here (front ++ back) = resolve (resolve here front) back :=
  List.foldl_append

theorem resolve_eq_climb (here path : List String) : resolve here path = (climb path).from here := by
  have general : ∀ (path : List String) (start : Climb),
      path.foldl walk (start.from here) = (path.foldl Climb.walk start).from here := by
    intro path
    induction path with
    | nil => intro start; rfl
    | cons segment rest ih =>
        intro start
        rw [List.foldl_cons, List.foldl_cons, ← Climb.from_walk, ih]
  have started := general path ⟨0, []⟩
  have bottom : (⟨0, []⟩ : Climb).from here = here := by simp [Climb.from]
  rw [bottom] at started
  exact started

theorem resolve_of_no_up (here path : List String) (down : ".." ∉ path) :
    resolve here path = here ++ path := by
  induction path generalizing here with
  | nil => simp [resolve]
  | cons segment rest ih =>
      simp only [List.mem_cons, not_or] at down
      have first : walk here segment = here ++ [segment] := if_neg (Ne.symm down.1)
      rw [show resolve here (segment :: rest) = resolve (walk here segment) rest from rfl, first,
        ih _ down.2, List.append_assoc, List.singleton_append]

def Inside (home object : List String) : Prop := home <+: object

instance (home object : List String) : Decidable (Inside home object) :=
  inferInstanceAs (Decidable (home <+: object))

/-- Read off the segments alone: after the directories the path climbs out of, what is
left of `here` agrees with `home`, and the names the path descends complete `home`. -/
def ReturnsTo (home here path : List String) : Prop :=
  home.take (here.length - (climb path).ups) <+: here ∧
    home.drop (here.length - (climb path).ups) <+: (climb path).downs

instance (home here path : List String) : Decidable (ReturnsTo home here path) :=
  inferInstanceAs (Decidable (_ ∧ _))

theorem prefix_take_append_iff (home here downs : List String) (kept : Nat)
    (within : kept ≤ here.length) :
    home <+: here.take kept ++ downs ↔ home.take kept <+: here ∧ home.drop kept <+: downs := by
  have length : (here.take kept).length = kept := by simp [within]
  constructor
  · intro inside
    have front := inside.take kept
    have back := inside.drop kept
    rw [List.take_append_of_le_length (Nat.le_of_eq length.symm), List.take_take,
      Nat.min_self] at front
    rw [List.drop_append_of_le_length (Nat.le_of_eq length.symm), List.drop_eq_nil_of_le
      (Nat.le_of_eq length), List.nil_append] at back
    exact ⟨front.trans (List.take_prefix kept here), back⟩
  · rintro ⟨front, back⟩
    by_cases short : home.length ≤ kept
    · rw [List.take_of_length_le short] at front
      exact (List.prefix_take_iff.mpr ⟨front, short⟩).trans (List.prefix_append _ _)
    · have full : (home.take kept).length = kept := by
        rw [List.length_take]
        omega
      have same := List.prefix_iff_eq_take.mp front
      rw [full] at same
      rw [← List.take_append_drop kept home, same]
      exact (List.prefix_append_right_inj _).mpr back

theorem inside_resolve_iff (home here path : List String) :
    Inside home (resolve here path) ↔ ReturnsTo home here path := by
  rw [resolve_eq_climb]
  exact prefix_take_append_iff home here _ _ (Nat.sub_le _ _)

end Paths
