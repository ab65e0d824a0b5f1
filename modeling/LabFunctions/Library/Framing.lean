import Mathlib.Data.List.DropRight

/-!
A stream of frames, each ended by a terminator, and what a reader that strips terminators finds
in a piece of it.
-/

namespace Framing

variable {α : Type*} (ends : α → Bool)

def strip (text : List α) : List α := (text.dropWhile ends).rdropWhile ends

def stream (terminator : List α) (frames : List (List α)) : List α :=
  frames.flatMap (· ++ terminator)

/-- One frame and nothing else but what ends frames. -/
def Framed (frame piece : List α) : Prop :=
  ∃ front back, (∀ item ∈ front, ends item = true) ∧ (∀ item ∈ back, ends item = true) ∧
    piece = front ++ frame ++ back

variable {ends} {terminator : List α} {frames : List (List α)}

theorem strip_of_ends {text : List α} (all : ∀ item ∈ text, ends item = true) :
    strip ends text = [] := by
  rw [strip, List.dropWhile_eq_nil_iff.mpr (by simpa using all)]
  rfl

theorem dropWhile_lead {front text : List α} (all : ∀ item ∈ front, ends item = true) :
    (front ++ text).dropWhile ends = text.dropWhile ends := by
  induction front with
  | nil => rfl
  | cons item rest ih =>
      rw [List.cons_append, List.dropWhile_cons_of_pos (all item (List.mem_cons_self ..))]
      exact ih fun other member => all other (List.mem_cons_of_mem _ member)

theorem rdropWhile_tail {text back : List α} (all : ∀ item ∈ back, ends item = true) :
    (text ++ back).rdropWhile ends = text.rdropWhile ends := by
  unfold List.rdropWhile
  rw [List.reverse_append, dropWhile_lead (by simpa using all)]

theorem rdropWhile_of_clean {text : List α} (clean : ∀ item ∈ text, ends item = false) :
    text.rdropWhile ends = text := by
  rw [List.rdropWhile_eq_self_iff]
  intro some
  simp [clean _ (List.getLast_mem some)]

/-- Nothing is stripped of a text that starts with an item of a frame but what ends it. -/
theorem strip_lead {front text : List α} {first : α} (all : ∀ item ∈ front, ends item = true)
    (starts : text.head? = some first) (inside : ends first = false) :
    strip ends (front ++ text) = text.rdropWhile ends := by
  obtain ⟨rest, rfl⟩ := List.head?_eq_some_iff.mp starts
  rw [strip, dropWhile_lead all, List.dropWhile_cons_of_neg (by simp [inside])]

theorem mem_rdropWhile {text : List α} {item : α} (member : item ∈ text)
    (inside : ends item = false) : item ∈ text.rdropWhile ends := by
  have whole : text.rdropWhile ends ++ text.rtakeWhile ends = text :=
    List.rdropWhile_append_rtakeWhile
  rw [← whole, List.mem_append] at member
  rcases member with kept | dropped
  · exact kept
  · have ended := List.mem_rtakeWhile_imp dropped
    simp [inside] at ended

theorem rdropWhile_append {text more : List α} {item : α} (member : item ∈ more)
    (inside : ends item = false) :
    (text ++ more).rdropWhile ends = text ++ more.rdropWhile ends := by
  have some : more.reverse.dropWhile ends ≠ [] := by
    intro none
    have ended := List.dropWhile_eq_nil_iff.mp none item (List.mem_reverse.mpr member)
    simp [inside] at ended
  have kept : (more.reverse ++ text.reverse).dropWhile ends =
      more.reverse.dropWhile ends ++ text.reverse := by
    rw [List.dropWhile_append, if_neg (by simpa using some)]
  unfold List.rdropWhile
  rw [List.reverse_append, kept, List.reverse_append, List.reverse_reverse]

theorem strip_framed {frame piece : List α} (clean : ∀ item ∈ frame, ends item = false)
    (framed : Framed ends frame piece) : strip ends piece = frame := by
  obtain ⟨front, back, fronts, backs, rfl⟩ := framed
  cases frame with
  | nil =>
      rw [List.append_nil]
      exact strip_of_ends fun item member =>
        (List.mem_append.mp member).elim (fronts item) (backs item)
  | cons first rest =>
      rw [List.append_assoc, strip_lead fronts rfl (clean first (List.mem_cons_self ..)),
        rdropWhile_tail backs, rdropWhile_of_clean clean]

theorem stream_cons (terminator frame : List α) (others : List (List α)) :
    stream terminator (frame :: others) = frame ++ (terminator ++ stream terminator others) := by
  simp [stream]

/-- What follows a frame in a piece, when more of the stream does. -/
theorem piece_behind {lead frame behind rest : List α} {others : List (List α)}
    (leads : ∀ item ∈ lead, ends item = true) (terminates : ∀ item ∈ terminator, ends item = true)
    (clean : ∀ other ∈ frame :: others, ∀ item ∈ other, ends item = false)
    (filled : ∀ other ∈ frame :: others, other ≠ [])
    (whole : behind ++ rest = terminator ++ stream terminator others) :
    (Framed ends frame (lead ++ (frame ++ behind)) ∧
      ∃ later, (∀ item ∈ later, ends item = true) ∧
        rest = later ++ stream terminator others) ∨
    ∃ more next first, strip ends (lead ++ (frame ++ behind)) = frame ++ more ∧ next ∈ others ∧
      next.head? = some first ∧ first ∈ more := by
  rcases List.append_eq_append_iff.mp whole with ⟨later, split, rfl⟩ | ⟨beyond, rfl, split⟩
  · left
    refine ⟨⟨lead, behind, leads, ?_, by simp⟩, later, ?_, rfl⟩
    · exact fun item member => terminates item (split ▸ List.mem_append_left _ member)
    · exact fun item member => terminates item (split ▸ List.mem_append_right _ member)
  · cases beyond with
    | nil =>
        left
        refine ⟨⟨lead, terminator, leads, terminates, by simp⟩, [], by simp, ?_⟩
        simpa using split.symm
    | cons first beyond =>
        right
        obtain ⟨next, more, rfl⟩ : ∃ next more, others = next :: more := by
          cases others with
          | nil => cases split
          | cons next more => exact ⟨next, more, rfl⟩
        have nextMember : next ∈ frame :: next :: more := by simp
        have starts : next.head? = some first := by
          obtain ⟨head, tail, rfl⟩ := List.exists_cons_of_ne_nil (filled next nextMember)
          rw [stream_cons, List.cons_append, List.cons_append, List.cons.injEq] at split
          rw [List.head?_cons, split.1]
        have inside : ends first = false :=
          clean next nextMember first (List.mem_of_head? starts)
        have member : first ∈ terminator ++ first :: beyond := by simp
        obtain ⟨head, tail, rfl⟩ :=
          List.exists_cons_of_ne_nil (filled frame (List.mem_cons_self ..))
        refine ⟨_, next, first, ?_, List.mem_cons_self .., starts, mem_rdropWhile member inside⟩
        rw [strip_lead leads rfl (clean _ (List.mem_cons_self ..) head (List.mem_cons_self ..)),
          rdropWhile_append member inside]

/-- What a reader that strips terminators finds in a piece at the front of a stream: nothing,
a part of a frame, one frame, or a frame and the start of another. -/
theorem piece_cases {lead piece rest : List α} (leads : ∀ item ∈ lead, ends item = true)
    (terminates : ∀ item ∈ terminator, ends item = true)
    (clean : ∀ frame ∈ frames, ∀ item ∈ frame, ends item = false)
    (filled : ∀ frame ∈ frames, frame ≠ [])
    (whole : piece ++ rest = lead ++ stream terminator frames) :
    strip ends piece = [] ∨ ∃ frame others, frames = frame :: others ∧
      ((∃ more, more ≠ [] ∧ strip ends piece ++ more = frame) ∨
      (Framed ends frame piece ∧ ∃ later, (∀ item ∈ later, ends item = true) ∧
        rest = later ++ stream terminator others) ∨
      ∃ more next first, strip ends piece = frame ++ more ∧ next ∈ others ∧
        next.head? = some first ∧ first ∈ more) := by
  rcases List.append_eq_append_iff.mp whole with ⟨later, rfl, _⟩ | ⟨inner, rfl, split⟩
  · exact .inl (strip_of_ends fun item member => leads item (List.mem_append_left _ member))
  · cases frames with
    | nil =>
        obtain ⟨rfl, _⟩ := List.append_eq_nil_iff.mp split.symm
        rw [List.append_nil]
        exact .inl (strip_of_ends leads)
    | cons frame others =>
        rw [stream_cons] at split
        rcases List.append_eq_append_iff.mp split with
          ⟨behind, rfl, follows⟩ | ⟨missing, cut, remains⟩
        · rcases piece_behind leads terminates clean filled follows.symm with framed | more
          · exact .inr ⟨frame, others, rfl, .inr (.inl framed)⟩
          · exact .inr ⟨frame, others, rfl, .inr (.inr more)⟩
        · have kept : ∀ item ∈ inner, ends item = false := fun item member =>
            clean frame (List.mem_cons_self ..) item (cut ▸ List.mem_append_left _ member)
          cases missing with
          | nil =>
              rw [List.append_nil] at cut
              subst cut
              refine .inr ⟨_, others, rfl, .inr (.inl ⟨⟨lead, [], leads, by simp, by simp⟩, ?_⟩)⟩
              exact ⟨terminator, terminates, remains⟩
          | cons next missing =>
              have part : strip ends (lead ++ inner) = inner :=
                strip_framed kept ⟨lead, [], leads, by simp, by simp⟩
              exact .inr ⟨frame, others, rfl, .inl ⟨next :: missing, by simp, by rw [part, cut]⟩⟩

end Framing
