import LabFunctions.EventStreams
import LabFunctions.Filenames
import LabFunctions.Library.Keyed

/-!
The channels of `labfunctions.events`: the name of the stream that the events of an execution
are published to, and whose events a listener of that stream is handed.
-/

namespace LabFunctions

open Lines Filenames Keyed

namespace EventManager

def generate_channel (unicode : Unicode) (projectid execid : String) : String :=
  let pid := secure_filename unicode projectid
  let eid := secure_filename unicode execid
  pid ++ "." ++ eid

end EventManager

namespace EventChannels

open EventManager

variable {unicode : Unicode}

theorem keeps_of_mem_projectid (projectid : ProjectId) :
    ∀ character ∈ projectid.text.toList, keeps character = true ∧ isEdge character = false := by
  intro character member
  have inside := List.all_eq_true.mp projectid.alphabet character member
  have table : (Defaults.PROJECT_ID_ALPHABET.toList.all fun letter =>
      keeps letter && !isEdge letter) = true := by decide
  have found := List.all_eq_true.mp table character (by simpa using inside)
  simpa using found

theorem core_projectid (projectid : ProjectId) : core unicode projectid.text = projectid.text := by
  rw [core_of_plain fun character member => (keeps_of_mem_projectid projectid character member).1]
  apply strip_eq_self
  intro character member
  exact (keeps_of_mem_projectid projectid character member).2

theorem no_dot_projectid (projectid : ProjectId) : '.' ∉ projectid.text.toList := by
  intro member
  exact absurd (keeps_of_mem_projectid projectid '.' member).2 (by decide)

theorem plain_nanoid {size : Nat} (id : NanoId size) : Plain id.text := by
  intro character member
  have inside := List.all_eq_true.mp id.alphabet character member
  have table : Plain Defaults.NANO_ID_ALPHABET := by decide
  exact table character (by simpa using inside)

theorem generate_channel_eq (projectid : ProjectId) (execid : String) :
    generate_channel unicode projectid.text execid =
      projectid.text ++ "." ++ core unicode execid := by
  simp only [generate_channel, secure_filename_eq, core_projectid]

/-- A channel still tells the projects apart, and of the execution ids what can be seen of them. -/
theorem generate_channel_inj (left right : ProjectId) (execid other : String) :
    generate_channel unicode left.text execid = generate_channel unicode right.text other ↔
      left = right ∧ core unicode execid = core unicode other := by
  have cut : ∀ projectid : ProjectId, ∀ seen : String,
      (projectid.text ++ "." ++ seen).toList = projectid.text.toList ++ '.' :: seen.toList := by
    intro projectid seen
    simp
  rw [generate_channel_eq, generate_channel_eq]
  constructor
  · intro same
    have lists := congrArg String.toList same
    rw [cut, cut] at lists
    obtain ⟨projects, seen⟩ :=
      Words.cut_first_inj (no_dot_projectid left) (no_dot_projectid right) lists
    have texts : left.text = right.text := String.toList_inj.mp projects
    refine ⟨?_, String.toList_inj.mp seen⟩
    cases left
    cases right
    simpa using texts
  · rintro ⟨rfl, seen⟩
    rw [seen]

/-! What the stream of an execution holds after any events were published. -/

structure Publication where
  projectid : ProjectId
  execid : String
  id : StreamId
  evt : EventSSE

namespace Publication

def channel (unicode : Unicode) (publication : Publication) : String :=
  generate_channel unicode publication.projectid.text publication.execid

def execution (publication : Publication) : ProjectId × String :=
  (publication.projectid, publication.execid)

def entry (publication : Publication) : StreamEntry :=
  EventManager.entry publication.id publication.evt

end Publication

def publish (unicode : Unicode) (redis : String → List StreamEntry) (publication : Publication) :
    String → List StreamEntry :=
  append (Publication.channel unicode) Publication.entry redis publication

def Apart (unicode : Unicode) (left right : ProjectId × String) : Prop :=
  left.1 = right.1 → core unicode left.2 = core unicode right.2 → left.2 = right.2

/-- Channels are equal for equal pairs only, exactly where the execution ids of one project
still differ once they are stripped. For an id without prefix that takes the underscores off its
ends. A stream holds the events of its own execution and no others, exactly when none of the
published executions is confused with it. -/
theorem channels_apart_iff (unicode : Unicode) :
    (∀ left right : ProjectId × String,
      ((generate_channel unicode left.1.text left.2 =
          generate_channel unicode right.1.text right.2 → left = right) ↔
        Apart unicode left right)) ∧
    (∀ drawn : NanoId Defaults.EXECID_LEN,
      core unicode (ExecID drawn none) = strip isEdge drawn.text) ∧
    ∀ (log : List Publication) (listened : ProjectId × String),
      (Runs.run (publish unicode) (fun _ => []) log
          (generate_channel unicode listened.1.text listened.2) =
        (under Publication.execution listened log).map Publication.entry ↔
      ∀ publication ∈ log, Apart unicode publication.execution listened) := by
  have pairwise : ∀ left right : ProjectId × String,
      (generate_channel unicode left.1.text left.2 =
          generate_channel unicode right.1.text right.2 → left = right) ↔
        Apart unicode left right := by
    rintro ⟨left, execid⟩ ⟨right, other⟩
    unfold Apart
    rw [generate_channel_inj]
    constructor
    · intro equal projects seen
      exact (Prod.mk.inj (equal ⟨projects, seen⟩)).2
    · rintro apart ⟨rfl, seen⟩
      exact congrArg (Prod.mk left) (apart rfl seen)
  refine ⟨pairwise, ?_, ?_⟩
  · intro drawn
    exact core_of_plain (plain_nanoid drawn)
  · intro log listened
    have coarser : ∀ publication : Publication, publication.execution = listened →
        publication.channel unicode = generate_channel unicode listened.1.text listened.2 := by
      rintro publication rfl
      rfl
    unfold publish
    rw [run_append, List.nil_append, map_under_eq_iff coarser]
    apply forall_congr'
    intro publication
    apply imp_congr_right
    intro _
    exact pairwise publication.execution listened

def leading : NanoId Defaults.EXECID_LEN := { text := "_aaaaaaaaaaaaa" }

def trailing : NanoId Defaults.EXECID_LEN := { text := "aaaaaaaaaaaaa_" }

/-- Two ids that are the same letters with an underscore ahead of them or behind them. -/
theorem channel_shared : ¬∀ (unicode : Unicode) (left right : ProjectId × NanoId Defaults.EXECID_LEN),
    generate_channel unicode left.1.text left.2.text =
      generate_channel unicode right.1.text right.2.text → left = right := by
  intro separate
  have seen : core Sample.unicode leading.text = core Sample.unicode trailing.text := by
    rw [core_of_plain (plain_nanoid leading), core_of_plain (plain_nanoid trailing)]
    decide
  have equal := separate Sample.unicode (⟨"4tebqr2mnd", by decide⟩, leading)
    (⟨"4tebqr2mnd", by decide⟩, trailing) ((generate_channel_inj _ _ _ _).mpr ⟨rfl, seen⟩)
  exact absurd (Prod.mk.inj equal).2 (by decide)

end EventChannels

end LabFunctions
