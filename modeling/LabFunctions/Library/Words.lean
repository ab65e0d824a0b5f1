import Mathlib.Data.List.Infix
import Mathlib.Data.String.Basic

/-!
Texts as words between blanks, the way a shell that meets no quotes reads a command, and as
names between separators.
-/

namespace Words

def isBlank (character : Char) : Bool :=
  character == ' ' || character == '\t' || character == '\n'

def words (text : String) : List String :=
  ((text.toList.splitOnP isBlank).filter (· ≠ [])).map String.ofList

structure IsWord (text : String) : Prop where
  notEmpty : text ≠ ""
  noBlank : ∀ character ∈ text.toList, isBlank character = false

instance (text : String) : Decidable (IsWord text) :=
  decidable_of_iff (text ≠ "" ∧ text.toList.all (!isBlank ·) = true)
    ⟨fun facts => ⟨facts.1, by simpa using facts.2⟩,
      fun word => ⟨word.notEmpty, by simpa using word.noBlank⟩⟩

theorem clean_of_mem_splitOnP {α : Type*} {separates : α → Bool} (text piece : List α)
    (member : piece ∈ text.splitOnP separates) :
    ∀ character ∈ piece, separates character = false := by
  induction text generalizing piece with
  | nil =>
      simp only [List.splitOnP_nil, List.mem_singleton] at member
      simp [member]
  | cons first rest ih =>
      rw [List.splitOnP_cons_eq_if_modifyHead] at member
      split at member
      · rcases List.mem_cons.mp member with empty | later
        · simp [empty]
        · exact ih piece later
      · rename_i inside
        obtain ⟨head, others, split⟩ :=
          List.exists_cons_of_ne_nil (List.splitOnP_ne_nil separates rest)
        rw [split, List.modifyHead_cons, List.mem_cons] at member
        rcases member with same | later
        · simp only [same, List.forall_mem_cons]
          exact ⟨by simpa using inside, ih head (by simp [split])⟩
        · exact ih piece (by simp [split, later])

theorem words_append_blank (front back : String) :
    words (front ++ " " ++ back) = words front ++ words back := by
  have blank : (front ++ " " ++ back).toList = front.toList ++ ' ' :: back.toList := by simp
  unfold words
  rw [blank, List.splitOnP_append_cons _ _ (by decide), List.filter_append, List.map_append]

theorem words_of_isWord {text : String} (word : IsWord text) : words text = [text] := by
  have notNil : text.toList ≠ [] := by
    intro empty
    exact word.notEmpty (String.toList_inj.mp empty)
  simp [words, List.splitOnP_eq_singleton word.noBlank, notNil]

theorem isWord_of_mem {text word : String} (member : word ∈ words text) : IsWord word := by
  simp only [words, List.mem_map, List.mem_filter, decide_eq_true_eq] at member
  obtain ⟨piece, ⟨inside, notNil⟩, rfl⟩ := member
  refine ⟨?_, ?_⟩
  · intro empty
    exact notNil (by simpa using congrArg String.toList empty)
  · simpa using clean_of_mem_splitOnP _ _ inside

/-- The last separator of a text is where it is cut in two, if the second part has none. -/
theorem cut_inj {α : Type*} {separator : α} {front back other rest : List α}
    (clean : separator ∉ back) (cleanRest : separator ∉ rest)
    (same : front ++ separator :: back = other ++ separator :: rest) :
    front = other ∧ back = rest := by
  rcases List.append_eq_append_iff.mp same with ⟨between, longer, split⟩ | ⟨between, longer, split⟩
  · cases between with
    | nil => simp_all
    | cons first more =>
        simp only [List.cons_append, List.cons.injEq] at split
        simp [split.2] at clean
  · cases between with
    | nil => simp_all
    | cons first more =>
        simp only [List.cons_append, List.cons.injEq] at split
        simp [split.2] at cleanRest

/-- The first separator of a text is where it is cut in two, if the first part has none. -/
theorem cut_first_inj {α : Type*} {separator : α} {front back other rest : List α}
    (clean : separator ∉ front) (cleanOther : separator ∉ other)
    (same : front ++ separator :: back = other ++ separator :: rest) :
    front = other ∧ back = rest := by
  have mirrored : back.reverse ++ separator :: front.reverse =
      rest.reverse ++ separator :: other.reverse := by
    simpa using congrArg List.reverse same
  obtain ⟨backs, fronts⟩ := cut_inj (by simpa using clean) (by simpa using cleanOther) mirrored
  exact ⟨List.reverse_injective fronts, List.reverse_injective backs⟩

def join (separator : Char) (names : List String) : String :=
  String.ofList ([separator].intercalate (names.map String.toList))

theorem join_cons (separator : Char) (name : String) {names : List String} (some : names ≠ []) :
    join separator (name :: names) =
      name ++ String.singleton separator ++ join separator names := by
  have others : names.map String.toList ≠ [] := by simpa using some
  unfold join
  rw [List.map_cons, List.intercalate_cons_of_ne_nil others]
  apply String.toList_inj.mp
  simp

def split (separator : Char) (text : String) : List String :=
  (text.toList.splitOn separator).map String.ofList

theorem split_join {separator : Char} {names : List String} (some : names ≠ [])
    (clean : ∀ name ∈ names, separator ∉ name.toList) :
    split separator (join separator names) = names := by
  unfold split join
  rw [String.toList_ofList, List.splitOn_intercalate, List.map_map]
  · simp
  · simpa using clean
  · simpa using some

theorem split_self {separator : Char} {text : String} (clean : separator ∉ text.toList) :
    split separator text = [text] := by
  have whole : text.toList.splitOnP (· == separator) = [text.toList] := by
    apply List.splitOnP_eq_singleton
    intro character member
    simpa using fun (same : character = separator) => clean (same ▸ member)
  rw [split, List.splitOn_eq_splitOnP, whole]
  simp

theorem split_separated (separator : Char) (front back : String) :
    split separator (front ++ String.singleton separator ++ back) =
      split separator front ++ split separator back := by
  have pieces : (front ++ String.singleton separator ++ back).toList =
      front.toList ++ separator :: back.toList := by simp
  unfold split
  rw [pieces, List.splitOn_eq_splitOnP, List.splitOn_eq_splitOnP, List.splitOn_eq_splitOnP,
    List.splitOnP_append_cons _ _ (by simp), List.map_append]

theorem split_append {separator : Char} {text : String} (clean : separator ∉ text.toList)
    (rest : String) :
    split separator (text ++ String.singleton separator ++ rest) =
      text :: split separator rest := by
  rw [split_separated, split_self clean, List.singleton_append]

theorem split_join_append {separator : Char} {pieces : List String}
    (clean : ∀ piece ∈ pieces, separator ∉ piece.toList) (rest : String) :
    split separator (String.join (pieces.map (· ++ String.singleton separator)) ++ rest) =
      pieces ++ split separator rest := by
  induction pieces with
  | nil => simp
  | cons piece others ih =>
      simp only [List.map_cons, String.join_cons, List.cons_append]
      rw [String.append_assoc, split_append (clean piece (List.mem_cons_self ..)), ih]
      intro later member
      exact clean later (List.mem_cons_of_mem _ member)

/-- The loop of `String.splitOn` for a separator of one character, `m` behind the last one. -/
theorem splitOnAux_singleton (separator : Char) (l m r : List Char) (pieces : List String) :
    String.splitOnAux (String.ofList (l ++ m ++ r)) (String.singleton separator)
        ⟨String.utf8Len l⟩ ⟨String.utf8Len l + String.utf8Len m⟩ 0 pieces =
      pieces.reverse ++ (List.splitOnPPrepend (· == separator) r m.reverse).map String.ofList := by
  have first : String.Pos.Raw.get (String.singleton separator) 0 = separator := by
    simpa using String.get_of_valid [] [separator]
  have after : String.Pos.Raw.next (String.singleton separator) 0 =
      ⟨String.utf8Len [separator]⟩ := by
    simpa using String.next_of_valid [] separator []
  have done : String.Pos.Raw.atEnd (String.singleton separator)
      ⟨String.utf8Len [separator]⟩ = true := by
    simpa using String.atEnd_of_valid [separator] []
  have ends : String.Pos.Raw.atEnd (String.ofList (l ++ m ++ r))
      ⟨String.utf8Len l + String.utf8Len m⟩ = true ↔ r = [] := by
    rw [← String.utf8Len_append]
    simpa [List.append_assoc] using String.atEnd_of_valid (l ++ m) r
  rw [String.splitOnAux]
  by_cases last : r = []
  · rw [if_pos (ends.mpr last)]
    subst last
    simpa using String.extract_of_valid l m []
  · rw [if_neg (mt ends.mp last)]
    obtain ⟨c, r, rfl⟩ := r.exists_cons_of_ne_nil last
    have current : String.Pos.Raw.get (String.ofList (l ++ m ++ c :: r))
        ⟨String.utf8Len l + String.utf8Len m⟩ = c := by
      simpa [String.utf8Len_append] using String.get_of_valid (l ++ m) (c :: r)
    have next : String.Pos.Raw.next (String.ofList (l ++ m ++ c :: r))
        ⟨String.utf8Len l + String.utf8Len m⟩ =
          ⟨String.utf8Len l + String.utf8Len m + c.utf8Size⟩ := by
      simpa [String.utf8Len_append] using String.next_of_valid (l ++ m) c r
    have piece : String.Pos.Raw.extract (String.ofList (l ++ m ++ c :: r)) ⟨String.utf8Len l⟩
        ⟨String.utf8Len l + String.utf8Len m⟩ = String.ofList m :=
      String.extract_of_valid l m (c :: r)
    rw [current, first, next, after]
    by_cases same : c = separator
    · subst same
      have back : String.Pos.Raw.unoffsetBy ⟨String.utf8Len l + String.utf8Len m + c.utf8Size⟩
          ⟨String.utf8Len [c]⟩ = ⟨String.utf8Len l + String.utf8Len m⟩ := by
        simp [String.Pos.Raw.unoffsetBy]
      rw [if_pos (by simp), if_pos done, back, piece]
      have rest := splitOnAux_singleton c (l ++ m ++ [c]) [] r (String.ofList m :: pieces)
      simp only [List.append_nil, List.append_assoc, String.utf8Len_append, String.utf8Len_cons,
        String.utf8Len_nil, Nat.add_zero, Nat.zero_add, List.singleton_append,
        List.reverse_nil] at rest
      simp only [List.append_assoc, Nat.add_assoc, rest, List.splitOnPPrepend_cons_eq_if]
      simp
    · have back : String.Pos.Raw.unoffsetBy ⟨String.utf8Len l + String.utf8Len m⟩ 0 =
          ⟨String.utf8Len l + String.utf8Len m⟩ := by
        simp [String.Pos.Raw.unoffsetBy]
      rw [if_neg (by simp [same]), back, next]
      have rest := splitOnAux_singleton separator l (m ++ [c]) r pieces
      simp only [List.append_assoc, String.utf8Len_append, String.utf8Len_cons,
        String.utf8Len_nil, Nat.zero_add, List.singleton_append, List.reverse_append,
        List.reverse_singleton] at rest
      simp only [List.append_assoc, Nat.add_assoc, rest, List.splitOnPPrepend_cons_eq_if]
      simp [same]
termination_by r.length

theorem splitOn_singleton (text : String) (separator : Char) :
    text.splitOn (String.singleton separator) = split separator text := by
  have some : (String.singleton separator == "") = false := by
    rw [beq_eq_false_iff_ne]
    intro empty
    have lengths := congrArg String.length empty
    simp at lengths
  have whole := splitOnAux_singleton separator [] [] text.toList []
  simp only [List.append_nil, List.nil_append, String.ofList_toList, String.utf8Len_nil,
    Nat.add_zero, List.reverse_nil] at whole
  rw [String.splitOn, some, split, List.splitOn_eq_splitOnP]
  exact whole

/-- The first name goes to the first separator. -/
theorem headD_split (separator : Char) (text : String) :
    (split separator text).headD "" =
      String.ofList (text.toList.takeWhile (· != separator)) := by
  have first : ∀ characters : List Char, (characters.splitOn separator).headD [] =
      characters.takeWhile (· != separator) := by
    intro characters
    induction characters with
    | nil => simp
    | cons character rest ih =>
        obtain ⟨head, others, pieces⟩ :=
          List.exists_cons_of_ne_nil (List.splitOn_ne_nil separator rest)
        rw [List.splitOn_cons_eq_if_modifyHead, pieces, List.takeWhile_cons, ← ih, pieces]
        by_cases same : character = separator <;> simp [same]
  obtain ⟨head, others, pieces⟩ :=
    List.exists_cons_of_ne_nil (List.splitOn_ne_nil separator text.toList)
  rw [← first, split, pieces]
  rfl

theorem not_mem_of_mem_split {separator : Char} {text name : String}
    (member : name ∈ split separator text) : separator ∉ name.toList := by
  simp only [split, List.mem_map] at member
  obtain ⟨piece, inside, rfl⟩ := member
  rw [List.splitOn_eq_splitOnP] at inside
  intro found
  rw [String.toList_ofList] at found
  simpa using clean_of_mem_splitOnP _ _ inside _ found

theorem isDigit_of_mem_toString {number : Nat} {character : Char}
    (member : character ∈ (toString number).toList) : character.isDigit = true := by
  rw [Nat.toString_eq_repr, Nat.toList_repr] at member
  exact Nat.isDigit_of_mem_toDigits (by decide) (by decide) member

theorem not_mem_toString (number : Nat) {character : Char}
    (other : character.isDigit = false := by decide) : character ∉ (toString number).toList := by
  intro member
  rw [isDigit_of_mem_toString member] at other
  cases other

section Squeeze

variable {α : Type*}

/-- Where a reader of a text stands: ahead of the first word, in a word, or behind one. -/
inductive Position where
  | ahead
  | inside
  | behind

def Position.skip : Position → Position
  | .ahead => .ahead
  | _ => .behind

def Position.lead (mark : α) : Position → List α
  | .behind => [mark]
  | _ => []

/-- The words of a text with one mark between any two of them, read in one pass. -/
def squeeze (separates : α → Bool) (mark : α) : Position → List α → List α
  | _, [] => []
  | position, first :: rest =>
      if separates first then squeeze separates mark position.skip rest
      else position.lead mark ++ first :: squeeze separates mark .inside rest

def marked (mark : α) (pieces : List (List α)) : List α := (pieces.map (mark :: ·)).flatten

def pieces (separates : α → Bool) (text : List α) : List (List α) :=
  (text.splitOnP separates).filter (· ≠ [])

theorem cons_intercalate {mark : α} {words : List (List α)} (some : words ≠ []) :
    mark :: [mark].intercalate words = marked mark words := by
  induction words with
  | nil => exact absurd rfl some
  | cons word others ih =>
      cases others with
      | nil => simp [marked]
      | cons next more =>
          rw [List.intercalate_cons_cons]
          simpa [marked] using ih (List.cons_ne_nil next more)

/-- What a reader finds behind a word, in terms of where the text is split. -/
theorem squeeze_eq (separates : α → Bool) (mark : α) (text : List α) :
    squeeze separates mark .behind text = marked mark (pieces separates text) ∧
      ∀ head others, text.splitOnP separates = head :: others →
        squeeze separates mark .inside text =
          head ++ marked mark (others.filter (· ≠ [])) := by
  induction text with
  | nil =>
      refine ⟨by simp [squeeze, pieces, marked], ?_⟩
      intro head others split
      rw [List.splitOnP_nil, List.cons.injEq] at split
      obtain ⟨rfl, rfl⟩ := split
      rfl
  | cons first rest ih =>
      obtain ⟨behind, inside⟩ := ih
      obtain ⟨head, others, split⟩ :=
        List.exists_cons_of_ne_nil (List.splitOnP_ne_nil separates rest)
      by_cases blank : separates first = true
      · have whole : (first :: rest).splitOnP separates = [] :: rest.splitOnP separates := by
          rw [List.splitOnP_cons_eq_if_modifyHead, if_pos blank]
        constructor
        · rw [squeeze, if_pos blank, pieces, whole]
          exact behind
        · intro head others split
          rw [whole, List.cons.injEq] at split
          obtain ⟨rfl, rfl⟩ := split
          rw [squeeze, if_pos blank, List.nil_append]
          exact behind
      · have whole : (first :: rest).splitOnP separates = (first :: head) :: others := by
          rw [List.splitOnP_cons_eq_if_modifyHead, if_neg blank, split, List.modifyHead_cons]
        have within := inside head others split
        constructor
        · rw [squeeze, if_neg blank, pieces, whole, within]
          simp [Position.lead, marked]
        · intro head others split
          rw [whole, List.cons.injEq] at split
          obtain ⟨rfl, rfl⟩ := split
          rw [squeeze, if_neg blank, within]
          rfl

theorem intercalate_pieces (separates : α → Bool) (mark : α) (text : List α) :
    [mark].intercalate (pieces separates text) = squeeze separates mark .ahead text := by
  induction text with
  | nil => rfl
  | cons first rest ih =>
      by_cases blank : separates first = true
      · have whole : pieces separates (first :: rest) = pieces separates rest := by
          rw [pieces, List.splitOnP_cons_eq_if_modifyHead, if_pos blank]
          rfl
        rw [whole, ih, squeeze, if_pos blank]
        rfl
      · have behind := (squeeze_eq separates mark (first :: rest)).1
        rw [squeeze, if_neg blank] at behind
        rw [squeeze, if_neg blank]
        have some : pieces separates (first :: rest) ≠ [] := by
          intro none
          rw [none] at behind
          exact absurd behind (by simp [marked, Position.lead])
        rw [← cons_intercalate some] at behind
        exact (List.cons.inj behind).2.symm

theorem squeeze_of_clean {separates : α → Bool} {mark : α} {text : List α}
    (clean : ∀ item ∈ text, separates item = false) {position : Position}
    (started : position.lead mark = []) : squeeze separates mark position text = text := by
  induction text generalizing position with
  | nil => rfl
  | cons first rest ih =>
      have stays := clean first (List.mem_cons_self ..)
      have others : ∀ item ∈ rest, separates item = false :=
        fun item member => clean item (List.mem_cons_of_mem _ member)
      rw [squeeze, if_neg (by simp [stays]), started, ih others rfl, List.nil_append]

theorem mem_squeeze {separates : α → Bool} {mark item : α} {position : Position} {text : List α}
    (member : item ∈ text) (stays : separates item = false) :
    item ∈ squeeze separates mark position text := by
  induction text generalizing position with
  | nil => simp at member
  | cons first rest ih =>
      rw [squeeze]
      rcases List.mem_cons.mp member with rfl | later
      · rw [if_neg (by simp [stays])]
        simp
      · split
        · exact ih later
        · exact List.mem_append_right _ (List.mem_cons_of_mem _ (ih later))

end Squeeze

end Words
