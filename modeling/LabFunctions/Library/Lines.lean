import LabFunctions.Library.Words
import Mathlib.Data.List.DropRight

/-!
Texts of lines: what is left of a text when blanks are stripped from its ends, and the lines of
a text under universal newlines, each handed on with the newline that ends it.
-/

namespace Lines

section Strip

variable {blank : Char → Bool}

def strip (blank : Char → Bool) (text : String) : String :=
  String.ofList ((text.toList.dropWhile blank).rdropWhile blank)

theorem dropWhile_of_isPrefix {α : Type*} {drops : α → Bool} {front items : List α}
    (inside : front <+: items) (kept : items.dropWhile drops = items) :
    front.dropWhile drops = front := by
  cases front with
  | nil => rfl
  | cons first others =>
      obtain ⟨rest, rfl⟩ := inside
      have stays : drops first = false := by
        by_contra dropped
        rw [List.cons_append, List.dropWhile_cons_of_pos (by simpa using dropped)] at kept
        have shorter := (List.dropWhile_suffix drops (l := others ++ rest)).length_le
        rw [kept, List.length_cons] at shorter
        omega
      rw [List.dropWhile_cons_of_neg (by simp [stays])]

@[simp] theorem strip_strip (text : String) :
    strip blank (strip blank text) = strip blank text := by
  unfold strip
  rw [String.toList_ofList, dropWhile_of_isPrefix (List.rdropWhile_prefix ..)
    (List.dropWhile_idempotent blank text.toList), List.rdropWhile_idempotent]

theorem strip_blank {first : Char} (isBlank : blank first = true) (text : String) :
    strip blank (String.ofList (first :: text.toList)) = strip blank text := by
  unfold strip
  rw [String.toList_ofList, List.dropWhile_cons_of_pos isBlank]

theorem strip_append_blank (text : String) {last : Char} (isBlank : blank last = true) :
    strip blank (text ++ String.singleton last) = strip blank text := by
  have shown : (text ++ String.singleton last).toList = text.toList ++ [last] := by simp
  unfold strip
  rw [shown, List.dropWhile_append]
  by_cases none : (text.toList.dropWhile blank).isEmpty = true
  · rw [if_pos none, List.isEmpty_iff.mp none, List.dropWhile_cons_of_pos isBlank]
    rfl
  · rw [if_neg none, List.rdropWhile_concat_pos _ _ _ isBlank]

theorem mem_of_mem_strip {character : Char} {text : String}
    (member : character ∈ (strip blank text).toList) : character ∈ text.toList := by
  rw [strip, String.toList_ofList] at member
  exact (List.dropWhile_suffix blank).subset ((List.rdropWhile_prefix blank _).subset member)

theorem mem_strip {character : Char} {text : String} (member : character ∈ text.toList)
    (stays : blank character = false) : character ∈ (strip blank text).toList := by
  have kept : ∀ items : List Char, character ∈ items → character ∈ items.dropWhile blank := by
    intro items inside
    rw [← List.takeWhile_append_dropWhile (p := blank) (l := items), List.mem_append] at inside
    rcases inside with dropped | kept
    · rw [List.mem_takeWhile_imp dropped] at stays
      exact absurd stays (by decide)
    · exact kept
  rw [strip, String.toList_ofList, List.rdropWhile, List.mem_reverse]
  apply kept
  rw [List.mem_reverse]
  exact kept _ member

theorem strip_eq_self {text : String} (none : ∀ character ∈ text.toList, blank character = false) :
    strip blank text = text := by
  have front : text.toList.dropWhile blank = text.toList := by
    rw [List.dropWhile_eq_self_iff]
    intro some
    simp [none _ (List.getElem_mem some)]
  have back : text.toList.rdropWhile blank = text.toList := by
    rw [List.rdropWhile_eq_self_iff]
    intro some
    simp [none _ (List.getLast_mem some)]
  rw [strip, front, back, String.ofList_toList]

end Strip

section Universal

/-- The lines of a text under universal newlines: "\n", "\r" and "\r\n" each end a line, and
each line is handed on with "\n" at its end. -/
def linesFrom (line : List Char) : List Char → List String
  | [] => if line = [] then [] else [String.ofList line]
  | '\n' :: rest => String.ofList (line ++ ['\n']) :: linesFrom [] rest
  | '\r' :: '\n' :: rest => String.ofList (line ++ ['\n']) :: linesFrom [] rest
  | '\r' :: rest => String.ofList (line ++ ['\n']) :: linesFrom [] rest
  | character :: rest => linesFrom (line ++ [character]) rest

def lines (text : String) : List String := linesFrom [] text.toList

structure IsLine (text : String) : Prop where
  noFeed : '\n' ∉ text.toList
  noReturn : '\r' ∉ text.toList

instance (text : String) : Decidable (IsLine text) :=
  decidable_of_iff ('\n' ∉ text.toList ∧ '\r' ∉ text.toList)
    ⟨fun facts => ⟨facts.1, facts.2⟩, fun line => ⟨line.noFeed, line.noReturn⟩⟩

theorem IsLine.append {front back : String} (first : IsLine front) (second : IsLine back) :
    IsLine (front ++ back) := by
  constructor
  · simp [first.noFeed, second.noFeed]
  · simp [first.noReturn, second.noReturn]

theorem linesFrom_line (line text rest : List Char) (noFeed : '\n' ∉ text) (noReturn : '\r' ∉ text) :
    linesFrom line (text ++ '\n' :: rest) =
      String.ofList (line ++ text ++ ['\n']) :: linesFrom [] rest := by
  induction text generalizing line with
  | nil => simp [linesFrom]
  | cons first others ih =>
      simp only [List.mem_cons, not_or] at noFeed noReturn
      rw [List.cons_append, linesFrom]
      · rw [ih _ noFeed.2 noReturn.2]
        simp
      · intro feed
        exact noFeed.1 feed.symm
      · rintro _ carriage -
        exact noReturn.1 carriage.symm
      · intro carriage
        exact noReturn.1 carriage.symm

theorem lines_line {text : String} (line : IsLine text) (rest : String) :
    lines (text ++ "\n" ++ rest) = (text ++ "\n") :: lines rest := by
  have feed : "\n".toList = ['\n'] := rfl
  unfold lines
  rw [String.toList_append, String.toList_append, feed, List.append_assoc,
    List.singleton_append, linesFrom_line _ _ _ line.noFeed line.noReturn]
  simp [String.ofList_append]

theorem lines_lines {texts : List String} (every : ∀ text ∈ texts, IsLine text) (rest : String) :
    lines (String.join (texts.map (· ++ "\n")) ++ rest) = texts.map (· ++ "\n") ++ lines rest := by
  induction texts with
  | nil => simp
  | cons text others ih =>
      simp only [List.map_cons, String.join_cons, List.cons_append]
      rw [String.append_assoc, lines_line (every text (List.mem_cons_self ..)), ih]
      intro later member
      exact every later (List.mem_cons_of_mem _ member)

/-- A line that a text was split into, with the newline that ended it or without. -/
theorem body_of_mem_linesFrom {line text : List Char} (noFeed : '\n' ∉ line) (noReturn : '\r' ∉ line)
    {found : String} (member : found ∈ linesFrom line text) :
    ∃ body, IsLine body ∧ (found = body ++ "\n" ∨ found = body) := by
  have ended : ∀ line : List Char, '\n' ∉ line → '\r' ∉ line →
      ∃ body, IsLine body ∧ String.ofList (line ++ ['\n']) = body ++ "\n" := by
    intro line feed carriage
    refine ⟨String.ofList line, ⟨by simpa using feed, by simpa using carriage⟩, ?_⟩
    rw [String.ofList_append]
  induction line, text using linesFrom.induct with
  | case1 => simp [linesFrom] at member
  | case2 line some =>
      rw [linesFrom, if_neg some, List.mem_singleton] at member
      exact ⟨found, ⟨by simpa [member] using noFeed, by simpa [member] using noReturn⟩, .inr rfl⟩
  | case3 line rest ih =>
      rw [linesFrom, List.mem_cons] at member
      rcases member with rfl | later
      · obtain ⟨body, clean, same⟩ := ended line noFeed noReturn
        exact ⟨body, clean, .inl same⟩
      · exact ih (by simp) (by simp) later
  | case4 line rest ih =>
      rw [linesFrom, List.mem_cons] at member
      rcases member with rfl | later
      · obtain ⟨body, clean, same⟩ := ended line noFeed noReturn
        exact ⟨body, clean, .inl same⟩
      · exact ih (by simp) (by simp) later
  | case5 line rest notFeed ih =>
      rw [linesFrom] at member
      · rcases List.mem_cons.mp member with rfl | later
        · obtain ⟨body, clean, same⟩ := ended line noFeed noReturn
          exact ⟨body, clean, .inl same⟩
        · exact ih (by simp) (by simp) later
      · exact notFeed
  | case6 line character rest notFeed notPair notReturn ih =>
      rw [linesFrom] at member
      · refine ih ?_ ?_ member
        · rw [List.mem_append, List.mem_singleton]
          rintro (inside | same)
          · exact noFeed inside
          · exact notFeed same.symm
        · rw [List.mem_append, List.mem_singleton]
          rintro (inside | same)
          · exact noReturn inside
          · exact notReturn same.symm
      all_goals assumption

theorem body_of_mem_lines {text found : String} (member : found ∈ lines text) :
    ∃ body, IsLine body ∧ (found = body ++ "\n" ∨ found = body) :=
  body_of_mem_linesFrom List.not_mem_nil List.not_mem_nil member

theorem lines_self {text : String} (line : IsLine text) (some : text ≠ "") : lines text = [text] := by
  have spell : ∀ line text : List Char, '\n' ∉ text → '\r' ∉ text → line ++ text ≠ [] →
      linesFrom line text = [String.ofList (line ++ text)] := by
    intro line text feed carriage some
    induction text generalizing line with
    | nil => simpa [linesFrom] using some
    | cons first others ih =>
        simp only [List.mem_cons, not_or] at feed carriage
        rw [linesFrom]
        · rw [ih _ feed.2 carriage.2 (by simp)]
          simp
        · intro same
          exact feed.1 same.symm
        · rintro _ same -
          exact carriage.1 same.symm
        · intro same
          exact carriage.1 same.symm
  have filled : text.toList ≠ [] := fun empty => some (String.toList_inj.mp empty)
  have spelled := spell [] text.toList line.noFeed line.noReturn filled
  rwa [List.nil_append, String.ofList_toList] at spelled

theorem join_append_singleton (front : List String) (last : String) :
    Words.join '\n' (front ++ [last]) = String.join (front.map (· ++ "\n")) ++ last := by
  induction front with
  | nil => simp [Words.join]
  | cons first others ih =>
      have feed : String.singleton '\n' = "\n" := rfl
      rw [List.cons_append, Words.join_cons _ _ (by simp), ih, feed, List.map_cons, String.join_cons]
      exact String.append_assoc.symm

/-- A text of lines without a newline at its end splits where they were joined. -/
theorem lines_join {front : List String} {last : String} (every : ∀ text ∈ front, IsLine text)
    (line : IsLine last) (some : last ≠ "") :
    lines (Words.join '\n' (front ++ [last])) = front.map (· ++ "\n") ++ [last] := by
  rw [join_append_singleton, lines_lines every, lines_self line some]

theorem lines_eq_nil_iff {text : String} : lines text = [] ↔ text = "" := by
  have some : ∀ line text : List Char, linesFrom line text = [] ↔ line = [] ∧ text = [] := by
    intro line text
    induction line, text using linesFrom.induct with
    | case1 => simp [linesFrom]
    | case2 line some => simp [linesFrom, some]
    | case3 line rest ih => simp [linesFrom]
    | case4 line rest ih => simp [linesFrom]
    | case5 line rest notFeed ih =>
        rw [linesFrom]
        · simp
        · exact notFeed
    | case6 line character rest notFeed notPair notReturn ih =>
        rw [linesFrom]
        · rw [ih]
          simp
        all_goals assumption
  rw [lines, some]
  simp

end Universal

end Lines
