import LabFunctions.EventStreams

/-!
`events_listen` of the client against `event_listen` of the server: what the client yields of the
events published to a channel, however the reads of the server split them.
-/

namespace LabFunctions

open Lines

namespace BaseClient

def endswith (text ending : String) : Bool := ending.toList.isSuffixOf text.toList

/-- The loop of `events_listen`, with `buffer_` as its variable: the events it yields, and the
error that ends it if one does. -/
def listenFrom (buffer_ : String) : List String → List EventSSE × Option ValidationError
  | [] => ([], none)
  | line :: rest =>
      if endswith (buffer_ ++ line) "\n\n" then
        match EventManager.from_sse2event (buffer_ ++ line) with
        | .error error => ([], some error)
        | .ok evt =>
            if evt.data = "exit" then ([], none)
            else
              let later := listenFrom "" rest
              (evt :: later.1, later.2)
      else listenFrom (buffer_ ++ line) rest

/-- `events_listen` on the text of the answer. -/
def events_listen (text : String) : List EventSSE × Option ValidationError :=
  listenFrom "" (lines text)

end BaseClient

namespace EventStreams

open EventManager

/-- `event_listen` over what its reads return; when there is nothing more to read the next one
times out. -/
def event_listen (listener : Listener) : List (List EventSSE) → Listener
  | [] => listener.receive none
  | rsp :: reads =>
      let listener := Listener.send^[rsp.length] (listener.receive (some rsp))
      if listener.keep then event_listen listener reads else listener

end EventStreams

namespace EventListening

open EventManager EventStreams BaseClient

section Server

theorem send_iterate (listener : Listener) (batch : List EventSSE) :
    ∃ last, Listener.send^[batch.length] { listener with rsp := batch } =
      { last, keep := listener.keep && batch.all (!stops ·), rsp := []
        sent := listener.sent ++ batch.map format_sse } := by
  induction batch generalizing listener with
  | nil => exact ⟨listener.last, by simp⟩
  | cons next rest ih =>
      obtain ⟨last, others⟩ := ih { listener with
        last := if rest = [] then next.id else listener.last
        keep := listener.keep && !stops next
        sent := listener.sent ++ [format_sse next] }
      refine ⟨last, ?_⟩
      rw [List.length_cons, Function.iterate_succ_apply, Listener.send, others]
      simp [Bool.and_assoc]

/-- The events of the reads up to the one that makes the server stop, that one whole. -/
def served : List (List EventSSE) → List EventSSE
  | [] => []
  | rsp :: reads => rsp ++ if rsp.all (!stops ·) then served reads else []

theorem event_listen_sent {listener : Listener} {reads : List (List EventSSE)}
    (listening : listener.keep = true) (nonempty : ∀ rsp ∈ reads, rsp ≠ []) :
    (event_listen listener reads).sent = listener.sent ++ (served reads).map format_sse := by
  induction reads generalizing listener with
  | nil => simp [event_listen, served, Listener.receive]
  | cons rsp reads ih =>
      obtain ⟨first, others, shape⟩ :=
        List.exists_cons_of_ne_nil (nonempty rsp (List.mem_cons_self ..))
      have received : listener.receive (some rsp) = { listener with rsp := rsp } := by
        rw [shape]
        rfl
      obtain ⟨last, sent⟩ := send_iterate listener rsp
      have rest := fun later member => nonempty later (List.mem_cons_of_mem _ member)
      rw [event_listen, served, received, sent, listening, Bool.true_and]
      cases going : rsp.all (!stops ·) with
      | true =>
          simp only [if_true]
          rw [ih rfl rest]
          simp
      | false => simp

section Channel

variable {em : EventManager} {start : StreamId} {channel : Channel}
  {done batch later : List StreamEntry}

theorem follows_send_batch (follows : Follows start channel done batch later) :
    Follows start { channel with listener := Listener.send^[batch.length] channel.listener }
      (done ++ batch) [] later := by
  induction batch generalizing channel done with
  | nil => simpa using follows
  | cons next rest ih =>
      have sent := ih (follows_send_next follows)
      rw [List.append_assoc, List.singleton_append] at sent
      exact sent

theorem run_sends (count : Nat) :
    Runs.run (step em) channel (List.replicate count .send) =
      { channel with listener := Listener.send^[count] channel.listener } := by
  induction count generalizing channel with
  | zero => rfl
  | succ count ih => exact ih

def batchTurns (batch : List StreamEntry) : List Turn :=
  .read batch.length :: List.replicate batch.length .send

theorem run_ended {turns : List Turn}
    (ended : channel.listener.rsp = [] ∧ channel.listener.keep = false)
    (own : ∀ turn ∈ turns, turn = .send ∨ ∃ count, turn = .read count) :
    Runs.run (step em) channel turns = channel := by
  induction turns with
  | nil => rfl
  | cons turn rest ih =>
      have stays : step em channel turn = channel := by
        rcases own turn (List.mem_cons_self ..) with rfl | ⟨count, rfl⟩
        · simp [step, Listener.send, ended.1]
        · simp [step, ended.2]
      rw [Runs.run_cons, stays, ih fun turn member => own turn (List.mem_cons_of_mem _ member)]

theorem mem_own_turns {batches : List (List StreamEntry)} {turn : Turn}
    (member : turn ∈ batches.flatMap batchTurns ++ [.read 0]) :
    turn = .send ∨ ∃ count, turn = .read count := by
  simp only [batchTurns, List.mem_append, List.mem_flatMap, List.mem_cons, List.mem_replicate,
    List.not_mem_nil, or_false] at member
  rcases member with ⟨_, _, rfl | ⟨_, rfl⟩⟩ | rfl
  · exact .inr ⟨_, rfl⟩
  · exact .inl rfl
  · exact .inr ⟨_, rfl⟩

theorem step_read_batch (em : EventManager)
    (follows : Follows start channel done [] (batch ++ later))
    (listening : channel.listener.keep = true) (nonempty : batch ≠ []) :
    step em channel (.read batch.length) =
        { channel with listener := Listener.receive channel.listener (some (batch.map evt)) } ∧
      Listener.receive channel.listener (some (batch.map evt)) =
        { channel.listener with rsp := batch.map evt } := by
  have idle := follows.rsp
  rw [List.map_nil] at idle
  have taken : (batch ++ later).take batch.length = batch := List.take_left ..
  obtain ⟨first, others, rfl⟩ := List.exists_cons_of_ne_nil nonempty
  constructor
  · rw [step, if_pos ⟨idle, listening⟩, read_eq follows, taken]
  · rfl

theorem follows_batch (follows : Follows start channel done [] (batch ++ later))
    (nonempty : batch ≠ []) :
    Follows start { channel with listener := { channel.listener with rsp := batch.map evt } } done
      batch later := by
  refine ⟨?_, follows.sent, rfl, ?_⟩
  · rw [follows.split, List.append_nil, List.append_assoc]
  · intro empty
    exact absurd empty nonempty

/-- The loop of `event_listen` over its reads is a run of the channel while nobody publishes. -/
theorem run_eq_event_listen {batches : List (List StreamEntry)}
    (follows : Follows start channel done [] batches.flatten)
    (listening : channel.listener.keep = true) (nonempty : ∀ batch ∈ batches, batch ≠ []) :
    (Runs.run (step em) channel (batches.flatMap batchTurns ++ [.read 0])).listener =
      event_listen channel.listener (batches.map (·.map evt)) := by
  induction batches generalizing channel done with
  | nil =>
      have idle := follows.rsp
      rw [List.map_nil] at idle
      simp [Runs.run, step, idle, listening, read_eq follows, event_listen]
  | cons batch rest ih =>
      rw [List.flatten_cons] at follows
      have filled : batch ≠ [] := nonempty batch (List.mem_cons_self ..)
      have remaining : ∀ later ∈ rest, later ≠ [] :=
        fun later member => nonempty later (List.mem_cons_of_mem _ member)
      obtain ⟨read, received⟩ := step_read_batch em follows listening filled
      have next := follows_send_batch (follows_batch follows filled)
      obtain ⟨last, sent⟩ := send_iterate channel.listener (batch.map evt)
      rw [List.length_map] at sent
      rw [List.flatMap_cons, List.append_assoc, Runs.run_append, batchTurns, Runs.run_cons, read,
        received, run_sends, List.map_cons, event_listen, received, List.length_map]
      simp only [sent] at next ⊢
      simp only [listening, Bool.true_and] at next ⊢
      split
      next going => exact ih next going remaining
      next stopped =>
        rw [run_ended ⟨rfl, by simpa using stopped⟩]
        exact fun turn member => mem_own_turns member

end Channel

end Server

section Client

theorem endswith_line (buffer : String) {text : String} (notEmpty : text ≠ "") (line : IsLine text) :
    endswith (buffer ++ (text ++ "\n")) "\n\n" = false := by
  obtain ⟨front, final, shape⟩ : ∃ front final, text.toList = front ++ [final] := by
    rcases List.eq_nil_or_concat text.toList with empty | ⟨front, final, shape⟩
    · exact absurd (String.toList_inj.mp empty) notEmpty
    · exact ⟨front, final, by simpa using shape⟩
  have notFeed : final ≠ '\n' := by
    rintro rfl
    exact line.noFeed (by simp [shape])
  have feed : "\n".toList = ['\n'] := rfl
  have ending : "\n\n".toList = ['\n', '\n'] := rfl
  simp [endswith, feed, ending, shape, List.isSuffixOf, List.isPrefixOf, notFeed.symm]

theorem endswith_feed (buffer : String) : endswith (buffer ++ "\n" ++ "\n") "\n\n" = true := by
  have feed : "\n".toList = ['\n'] := rfl
  have ending : "\n\n".toList = ['\n', '\n'] := rfl
  simp [endswith, feed, ending, List.isSuffixOf]

theorem listenFrom_lines {texts : List String} (every : ∀ text ∈ texts, text ≠ "" ∧ IsLine text)
    (buffer : String) (rest : List String) :
    listenFrom buffer (texts.map (· ++ "\n") ++ rest) =
      listenFrom (buffer ++ String.join (texts.map (· ++ "\n"))) rest := by
  induction texts generalizing buffer with
  | nil => simp
  | cons text others ih =>
      obtain ⟨notEmpty, line⟩ := every text (List.mem_cons_self ..)
      rw [List.map_cons, List.cons_append, listenFrom, endswith_line buffer notEmpty line,
        if_neg (by decide), ih fun later member => every later (List.mem_cons_of_mem _ member),
        String.join_cons, String.append_assoc]

/-- A text that takes one line of its own and keeps it. -/
structure Plain (text : String) : Prop where
  notEmpty : text ≠ ""
  line : IsLine text
  stripped : strip isspace text = text

instance (text : String) : Decidable (Plain text) :=
  decidable_of_iff (text ≠ "" ∧ IsLine text ∧ strip isspace text = text)
    ⟨fun facts => ⟨facts.1, facts.2.1, facts.2.2⟩,
      fun plain => ⟨plain.notEmpty, plain.line, plain.stripped⟩⟩

/-- An event that can be published: its data and its type are plain. -/
structure PlainEvent (evt : EventSSE) : Prop where
  data : Plain evt.data
  event : ∃ event, evt.event = some event ∧ Plain event

theorem digit_not_space {character : Char} (digit : character.isDigit = true) :
    isspace character = false := by
  simp only [Char.isDigit, Bool.and_eq_true, decide_eq_true_eq, UInt32.le_iff_toNat_le] at digit
  simp only [isspace]
  have low : 48 ≤ character.toNat := digit.1
  have high : character.toNat ≤ 57 := digit.2
  simp only [Bool.or_eq_false_iff, Bool.and_eq_false_iff, decide_eq_false_iff_not, beq_eq_false_iff_ne]
  omega

theorem plain_id (id : StreamId) : Plain id.text := by
  have dash : "-".toList = ['-'] := rfl
  have chars : ∀ character ∈ id.text.toList, character.isDigit = true ∨ character = '-' := by
    intro character member
    simp only [StreamId.text, String.toList_append, dash, List.mem_append, List.mem_singleton]
      at member
    rcases member with (inMs | inDash) | inSeq
    · exact .inl (Words.isDigit_of_mem_toString inMs)
    · exact .inr inDash
    · exact .inl (Words.isDigit_of_mem_toString inSeq)
  have none : ∀ character ∈ id.text.toList, isspace character = false := by
    intro character member
    rcases chars character member with digit | rfl
    · exact digit_not_space digit
    · decide
  refine ⟨?_, ⟨?_, ?_⟩, strip_eq_self none⟩
  · intro empty
    have member : '-' ∈ id.text.toList := by simp [StreamId.text, dash]
    simp [empty] at member
  · intro feed
    exact absurd (none _ feed) (by decide)
  · intro carriage
    exact absurd (none _ carriage) (by decide)

def received (published : StreamId × EventSSE) : EventSSE :=
  { published.2 with id := some published.1.text }

theorem evt_entry {published : StreamId × EventSSE} (plain : PlainEvent published.2) :
    evt (entry published.1 published.2) = received published := by
  obtain ⟨event, given, plainEvent⟩ := plain.event
  simp [evt, entry, received, given, pyOr, plainEvent.notEmpty]

theorem cleanEvent_received {published : StreamId × EventSSE} (plain : PlainEvent published.2) :
    Events.CleanEvent (received published) := by
  obtain ⟨event, given, plainEvent⟩ := plain.event
  refine ⟨⟨plain.data.line.noFeed, plain.data.stripped⟩, ?_, ?_⟩
  · intro text same
    cases given.symm.trans same
    exact ⟨plainEvent.line.noFeed, plainEvent.stripped⟩
  · rintro text ⟨⟩
    exact ⟨(plain_id _).line.noFeed, (plain_id _).stripped⟩

theorem fieldLines_received {published : StreamId × EventSSE} (plain : PlainEvent published.2) :
    ∀ line ∈ Events.fieldLines (received published), line ≠ "" ∧ IsLine line := by
  obtain ⟨event, given, plainEvent⟩ := plain.event
  have labelled : ∀ {label text : String}, label ≠ "" → IsLine label → Plain text →
      label ++ text ≠ "" ∧ IsLine (label ++ text) := by
    intro label text notEmpty line plainText
    exact ⟨by simp [notEmpty], line.append plainText.line⟩
  intro line member
  simp only [Events.fieldLines, received, given, Option.map_some, Option.toList_some,
    List.cons_append, List.nil_append, List.mem_cons, List.not_mem_nil, or_false] at member
  rcases member with rfl | rfl | rfl
  · exact labelled (by decide) (by decide) (plain_id _)
  · exact labelled (by decide) (by decide) plainEvent
  · exact labelled (by decide) (by decide) plain.data

theorem endswith_format_sse (evt : EventSSE) : endswith (format_sse evt) "\n\n" = true := by
  rw [Events.format_sse_eq, Events.fieldLines, List.map_append, String.join_append, List.map_cons,
    List.map_nil, String.join_cons, String.join_nil, String.append_empty, ← String.append_assoc]
  exact endswith_feed _

theorem events_listen_message {published : StreamId × EventSSE} (plain : PlainEvent published.2)
    (rest : String) :
    events_listen (format_sse (received published) ++ rest) =
      if published.2.data = "exit" then ([], none)
      else (received published :: (events_listen rest).1, (events_listen rest).2) := by
  have each := fieldLines_received plain
  have split : lines (format_sse (received published) ++ rest) =
      (Events.fieldLines (received published)).map (· ++ "\n") ++ ("\n" :: lines rest) := by
    rw [Events.format_sse_eq, String.append_assoc, lines_lines fun line member => (each line member).2]
    exact congrArg _ (lines_line (show IsLine "" by decide) rest)
  have whole : "" ++ String.join ((Events.fieldLines (received published)).map (· ++ "\n")) ++ "\n" =
      format_sse (received published) := by
    rw [Events.format_sse_eq, String.empty_append]
  rw [events_listen, split, listenFrom_lines each, listenFrom, whole, endswith_format_sse, if_pos rfl,
    Events.from_sse2event_format_sse (cleanEvent_received plain)]
  rfl

/-- The client yields what it is sent up to the first event whose data is "exit". -/
theorem events_listen_messages {sent : List EventSSE}
    (plain : ∀ evt ∈ sent, ∃ published : StreamId × EventSSE,
      PlainEvent published.2 ∧ received published = evt) :
    events_listen (String.join (sent.map format_sse)) =
      (sent.takeWhile (·.data != "exit"), none) := by
  induction sent with
  | nil => rfl
  | cons first rest ih =>
      have later := ih fun evt member => plain evt (List.mem_cons_of_mem _ member)
      obtain ⟨published, plainFirst, rfl⟩ := plain first (List.mem_cons_self ..)
      rw [List.map_cons, String.join_cons, events_listen_message plainFirst, later]
      by_cases exit : published.2.data = "exit"
      · simp [exit, received]
      · simp [exit, received]

end Client

theorem data_of_stops {evt : EventSSE} (stop : stops evt = true) : evt.data = "exit" := by
  simp only [stops, Bool.and_eq_true, beq_iff_eq] at stop
  exact stop.2

theorem mem_flatten_of_mem_served {reads : List (List EventSSE)} {evt : EventSSE}
    (member : evt ∈ served reads) : evt ∈ reads.flatten := by
  induction reads with
  | nil => exact member
  | cons rsp reads ih =>
      rw [served, List.mem_append] at member
      rw [List.flatten_cons, List.mem_append]
      rcases member with inBatch | later
      · exact .inl inBatch
      · split at later
        next going => exact .inr (ih later)
        next stopped => simp at later

theorem takeWhile_served (reads : List (List EventSSE)) :
    (served reads).takeWhile (·.data != "exit") = reads.flatten.takeWhile (·.data != "exit") := by
  induction reads with
  | nil => rfl
  | cons rsp reads ih =>
      rw [served, List.flatten_cons, List.takeWhile_append, List.takeWhile_append]
      split
      next whole =>
        have noExit := (List.takeWhile_prefix _).eq_of_length whole
        have going : rsp.all (!stops ·) = true := by
          apply List.all_eq_true.mpr
          intro evt member
          have data := List.takeWhile_eq_self_iff.mp noExit evt member
          cases stop : stops evt with
          | false => rfl
          | true => simp [data_of_stops stop] at data
        rw [if_pos going, ih]
      next => rfl

theorem takeWhile_eq_takeWhile_iff {α : Type*} {fewer more : α → Bool}
    (implies : ∀ item, fewer item = true → more item = true) (items : List α) :
    items.takeWhile fewer = items.takeWhile more ↔
      ∀ item ∈ items.takeWhile more, fewer item = true := by
  constructor
  · intro same item member
    exact List.mem_takeWhile_imp (same ▸ member)
  · intro every
    induction items with
    | nil => rfl
    | cons first rest ih =>
        cases stays : more first with
        | true =>
            rw [List.takeWhile_cons_of_pos stays] at every ⊢
            rw [List.takeWhile_cons_of_pos (every first (List.mem_cons_self ..)),
              ih fun item member => every item (List.mem_cons_of_mem _ member)]
        | false =>
            have ends : ¬ fewer first = true := by
              intro goes
              simp [implies first goes] at stays
            rw [List.takeWhile_cons_of_neg ends, List.takeWhile_cons_of_neg (by simp [stays])]

/-- The client yields what was published up to the event that stops the server exactly when no
event before that one has the data "exit". -/
theorem events_listen_yields_iff (last : Option String) (events : List (StreamId × EventSSE))
    (plain : ∀ published ∈ events, PlainEvent published.2) (reads : List (List EventSSE))
    (nonempty : ∀ rsp ∈ reads, rsp ≠ [])
    (split : reads.flatten = events.map fun published => evt (entry published.1 published.2)) :
    events_listen (String.join (event_listen { last } reads).sent) =
        ((events.takeWhile (!stops ·.2)).map received, none) ↔
      ∀ published ∈ events.takeWhile (!stops ·.2), published.2.data ≠ "exit" := by
  have all : reads.flatten = events.map received := by
    rw [split]
    exact List.map_congr_left fun published member => evt_entry (plain published member)
  have sentPlain : ∀ evt ∈ served reads, ∃ published : StreamId × EventSSE,
      PlainEvent published.2 ∧ received published = evt := by
    intro evt member
    have inAll := mem_flatten_of_mem_served member
    rw [all, List.mem_map] at inAll
    obtain ⟨published, inEvents, same⟩ := inAll
    exact ⟨published, plain published inEvents, same⟩
  have upTo : (events.takeWhile (!stops ·.2)).map received =
      (events.map received).takeWhile (!stops ·) := by
    rw [List.takeWhile_map]
    rfl
  have implies : ∀ evt : EventSSE, (evt.data != "exit") = true → (!stops evt) = true := by
    intro evt data
    cases stop : stops evt with
    | false => rfl
    | true => simp [data_of_stops stop] at data
  rw [event_listen_sent rfl nonempty, List.nil_append, events_listen_messages sentPlain,
    takeWhile_served, all, upTo, Prod.mk.injEq, and_iff_left rfl,
    takeWhile_eq_takeWhile_iff implies, ← upTo, List.forall_mem_map]
  simp [received]

namespace Sample

def log (seq : Nat) (data : String) : StreamId × EventSSE :=
  (⟨1652447590, seq⟩, { data, event := some "log" })

theorem plain_log (seq : Nat) {data : String} (plain : Plain data) : PlainEvent (log seq data).2 :=
  ⟨plain, "log", rfl, by decide⟩

end Sample

theorem events_listen_yields_two :
    events_listen (String.join
        (event_listen { last := some "0" }
          [[received (Sample.log 0 "a")], [received (Sample.log 1 "b")]]).sent) =
        (([Sample.log 0 "a", Sample.log 1 "b"].takeWhile (!stops ·.2)).map received, none) ↔
      ∀ published ∈ [Sample.log 0 "a", Sample.log 1 "b"].takeWhile (!stops ·.2),
        published.2.data ≠ "exit" := by
  refine events_listen_yields_iff (some "0") [Sample.log 0 "a", Sample.log 1 "b"] ?_
    [[received (Sample.log 0 "a")], [received (Sample.log 1 "b")]] (by decide) rfl
  simp only [List.forall_mem_cons, List.not_mem_nil, false_imp_iff, implies_true, and_true]
  exact ⟨Sample.plain_log 0 (by decide), Sample.plain_log 1 (by decide)⟩

/-- A log line that reads "exit" ends the client, not the server. -/
theorem events_listen_exit_line :
    (∀ published ∈ [Sample.log 0 "exit", Sample.log 1 "b"], PlainEvent published.2) ∧
      (event_listen { last := some "0" }
        [[received (Sample.log 0 "exit")], [received (Sample.log 1 "b")]]).sent.length = 2 ∧
      events_listen (String.join (event_listen { last := some "0" }
        [[received (Sample.log 0 "exit")], [received (Sample.log 1 "b")]]).sent) ≠
        (([Sample.log 0 "exit", Sample.log 1 "b"].takeWhile (!stops ·.2)).map received, none) := by
  refine ⟨?_, by decide, by decide⟩
  simp only [List.forall_mem_cons, List.not_mem_nil, false_imp_iff, implies_true, and_true]
  exact ⟨Sample.plain_log 0 (by decide), Sample.plain_log 1 (by decide)⟩

end EventListening

end LabFunctions
