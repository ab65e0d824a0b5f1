import LabFunctions.Events
import LabFunctions.Library.Logs
import LabFunctions.Library.Runs

/-!
The streams behind `labfunctions.events` and the two handlers of `labfunctions.web.events_bp`:
publishers append to a stream of Redis while one listener reads it batch by batch.
-/

namespace LabFunctions

open Logs

/-- The id of a stream entry, a time in milliseconds and a number within it. -/
structure StreamId where
  ms : Nat
  seq : Nat
  deriving DecidableEq, Repr

namespace StreamId

instance : Preorder StreamId where
  le first second := first.ms < second.ms ∨ first.ms = second.ms ∧ first.seq ≤ second.seq
  lt first second := first.ms < second.ms ∨ first.ms = second.ms ∧ first.seq < second.seq
  le_refl _ := by omega
  le_trans _ _ _ _ _ := by omega
  lt_iff_le_not_ge _ _ := by omega

instance : DecidableLT StreamId := fun first second =>
  inferInstanceAs (Decidable (first.ms < second.ms ∨ first.ms = second.ms ∧ first.seq < second.seq))

def text (id : StreamId) : String := toString id.ms ++ "-" ++ toString id.seq

def number (text : String) : Option Nat :=
  if text ≠ "" ∧ text.toList.all Char.isDigit then some (Nat.ofDigitChars 10 text.toList 0) else none

/-- An id as `XREAD` takes it; the number may be left out. `$` is no id of an entry. -/
def parse (text : String) : Option StreamId :=
  match Words.split '-' text with
  | [ms] => (number ms).map (⟨·, 0⟩)
  | [ms, seq] => do return ⟨← number ms, ← number seq⟩
  | _ => none

theorem number_toString (value : Nat) : number (toString value) = some value := by
  have notEmpty : toString value ≠ "" := by
    intro empty
    have chars := congrArg String.toList empty
    rw [Nat.toString_eq_repr, Nat.toList_repr] at chars
    exact Nat.toDigits_ne_nil chars
  have all : (toString value).toList.all Char.isDigit = true :=
    List.all_eq_true.mpr fun _ member => Words.isDigit_of_mem_toString member
  rw [number, if_pos ⟨notEmpty, all⟩, Nat.toString_eq_repr, Nat.toList_repr,
    Nat.ofDigitChars_toDigits (by decide) (by decide)]

theorem parse_text (id : StreamId) : parse id.text = some id := by
  have split : Words.split '-' id.text = [toString id.ms, toString id.seq] := by
    have clean : ∀ number : Nat, '-' ∉ (toString number).toList :=
      fun number => Words.not_mem_toString number
    rw [← Words.split_self (clean id.seq)]
    exact Words.split_append (clean id.ms) (toString id.seq)
  simp only [parse, split, number_toString]
  rfl

end StreamId

structure StreamEntry where
  id : StreamId
  msg : String
  event : String
  deriving DecidableEq, Repr

/-- A stream of Redis. Entries are only ever appended, each under a larger id. -/
structure Stream where
  entries : List StreamEntry := []
  ordered : Ordered StreamEntry.id entries := by exact List.Pairwise.nil
  ttl : Option Nat := none

namespace Stream

def Fresh (stream : Stream) (id : StreamId) : Prop := ∀ entry ∈ stream.entries, entry.id < id

instance (stream : Stream) (id : StreamId) : Decidable (stream.Fresh id) :=
  inferInstanceAs (Decidable (∀ entry ∈ stream.entries, entry.id < id))

def xadd (stream : Stream) (entry : StreamEntry) (fresh : stream.Fresh entry.id) : Stream :=
  { stream with
    entries := stream.entries ++ [entry]
    ordered := stream.ordered.append fresh }

def expire (stream : Stream) (ttl_secs : Nat) : Stream := { stream with ttl := some ttl_secs }

/-- `XREAD`: some first entries behind the given id, or none when the wait for one times out. -/
def xread (stream : Stream) (msg_id : StreamId) (count : Nat) : List StreamEntry :=
  (behind StreamEntry.id msg_id stream.entries).take count

end Stream

structure EventManager where
  ttl : Nat := 60 * 60

namespace EventManager

def entry (id : StreamId) (evt : EventSSE) : StreamEntry :=
  { id, msg := evt.data, event := pyOr evt.event "" }

def publish (em : EventManager) (stream : Stream) (id : StreamId) (fresh : stream.Fresh id)
    (evt : EventSSE) (ttl_secs : Option Nat := none) : Stream :=
  (stream.xadd (entry id evt) fresh).expire (if ttl_secs.getD 0 = 0 then em.ttl else ttl_secs.getD 0)

def evt (msg : StreamEntry) : EventSSE :=
  { id := some msg.id.text, data := msg.msg, event := some msg.event }

/-- `read`; `none` stands for the error that Redis answers when the id is not one. -/
def read (stream : Stream) (msg_id : Option String) (count : Nat) :
    Option (Option (List EventSSE)) :=
  (msg_id.bind StreamId.parse).map fun id =>
    match stream.xread id count with
    | [] => none
    | rsp => some (rsp.map evt)

end EventManager

namespace EventStreams

open EventManager

/-- The variables of `event_listen`. In `rsp` stand the messages of the last read that the inner
loop has still to send. -/
structure Listener where
  last : Option String
  keep : Bool := true
  rsp : List EventSSE := []
  sent : List String := []
  deriving DecidableEq, Repr

def stops (r : EventSSE) : Bool := r.event == some "control" && r.data == "exit"

namespace Listener

def receive (listener : Listener) : Option (List EventSSE) → Listener
  | some (r :: rest) => { listener with rsp := r :: rest }
  | _ => { listener with keep := false }

def send (listener : Listener) : Listener :=
  match listener.rsp with
  | [] => listener
  | r :: rest =>
      { last := if rest = [] then r.id else listener.last
        keep := listener.keep && !stops r
        rsp := rest
        sent := listener.sent ++ [format_sse r] }

end Listener

/-- What happens next on a channel: a publisher appends, the listener's read returns at most
`count` entries, the listener sends its next message. -/
inductive Turn where
  | event_publish (id : StreamId) (evt : EventSSE)
  | read (count : Nat)
  | send
  deriving DecidableEq, Repr

structure Channel where
  stream : Stream := {}
  listener : Listener

def step (em : EventManager) (channel : Channel) : Turn → Channel
  | .event_publish id evt =>
      if fresh : channel.stream.Fresh id then
        { channel with stream := em.publish channel.stream id fresh evt }
      else channel
  | .read count =>
      if channel.listener.rsp = [] ∧ channel.listener.keep then
        -- an error of the read ends the request as a time-out ends the loop
        { channel with
          listener := channel.listener.receive
            ((EventManager.read channel.stream channel.listener.last count).getD none) }
      else channel
  | .send => { channel with listener := channel.listener.send }

def message (entry : StreamEntry) : String := format_sse (evt entry)

/-- Where a listener that has started at an id stands: the entries behind that id are those it
has sent, those it has read and not sent yet, and those its next read will look for. -/
structure Follows (start : StreamId) (channel : Channel) (done batch later : List StreamEntry) :
    Prop where
  split : behind StreamEntry.id start channel.stream.entries = done ++ batch ++ later
  sent : channel.listener.sent = done.map message
  rsp : channel.listener.rsp = batch.map evt
  cursor : batch = [] → ∃ id, channel.listener.last.bind StreamId.parse = some id ∧
    id ∈ start :: done.map StreamEntry.id ∧
    behind StreamEntry.id id channel.stream.entries = later

section Steps

variable {em : EventManager} {start : StreamId} {channel : Channel}
  {done batch later : List StreamEntry}

theorem follows_publish (follows : Follows start channel done batch later) {id : StreamId}
    (fresh : channel.stream.Fresh id) (published : EventSSE) :
    Follows start { channel with stream := em.publish channel.stream id fresh published } done batch
      (later ++ behind StreamEntry.id start [entry id published]) := by
  have appended : (em.publish channel.stream id fresh published).entries =
      channel.stream.entries ++ [entry id published] := rfl
  refine ⟨?_, follows.sent, follows.rsp, ?_⟩
  · rw [appended, behind_append, follows.split, List.append_assoc]
  · intro read
    obtain ⟨cursor, parsed, reached, rest⟩ := follows.cursor read
    refine ⟨cursor, parsed, reached, ?_⟩
    rw [appended, behind_append, rest]
    rcases List.mem_cons.mp reached with rfl | member
    · rfl
    · obtain ⟨old, inDone, rfl⟩ := List.mem_map.mp member
      obtain ⟨inStream, behindStart⟩ := mem_behind.mp (by rw [follows.split]; simp [inDone] :
        old ∈ behind StreamEntry.id start channel.stream.entries)
      have newer : old.id < (entry id published).id := fresh old inStream
      rw [behind_singleton_of_lt newer, behind_singleton_of_lt (behindStart.trans newer)]

/-- What the listener reads is a first part of what comes next. -/
theorem read_eq (follows : Follows start channel done [] later) (count : Nat) :
    (EventManager.read channel.stream channel.listener.last count).getD none =
      match later.take count with
      | [] => none
      | rsp => some (rsp.map evt) := by
  obtain ⟨cursor, parsed, reached, rest⟩ := follows.cursor rfl
  rw [EventManager.read, parsed, Option.map_some, Option.getD_some, Stream.xread, rest]

theorem follows_read (follows : Follows start channel done batch later)
    (waiting : channel.listener.rsp = []) (count : Nat) :
    ∃ batch' later', Follows start
      { channel with
        listener := channel.listener.receive
          ((EventManager.read channel.stream channel.listener.last count).getD none) }
      done batch' later' := by
  obtain rfl : batch = [] := by simpa [follows.rsp] using waiting
  rw [read_eq follows]
  cases taken : later.take count with
  | nil => exact ⟨[], later, follows.split, follows.sent, follows.rsp, follows.cursor⟩
  | cons first others =>
      refine ⟨first :: others, later.drop count, ?_, follows.sent, rfl, by simp⟩
      rw [follows.split, ← taken, List.append_nil, List.append_assoc, List.take_append_drop]

theorem follows_send_next {next : StreamEntry}
    (follows : Follows start channel done (next :: batch) later) :
    Follows start { channel with listener := channel.listener.send } (done ++ [next]) batch later := by
  refine ⟨?_, ?_, ?_, ?_⟩
  · rw [follows.split]
    simp
  · simp [Listener.send, follows.rsp, follows.sent, message]
  · simp [Listener.send, follows.rsp]
  · intro last
    refine ⟨next.id, ?_, by simp, ?_⟩
    · simp [Listener.send, follows.rsp, last, evt, StreamId.parse_text]
    · have split : behind StreamEntry.id start channel.stream.entries = done ++ next :: later := by
        rw [follows.split, last]
        simp
      exact resume channel.stream.ordered split

theorem follows_send (follows : Follows start channel done batch later) :
    ∃ done' batch', Follows start { channel with listener := channel.listener.send }
      done' batch' later := by
  cases batch with
  | nil =>
      have idle : channel.listener.send = channel.listener := by
        rw [Listener.send, follows.rsp, List.map_nil]
      rw [idle]
      exact ⟨done, [], follows⟩
  | cons next rest => exact ⟨done ++ [next], rest, follows_send_next follows⟩

def Following (start : StreamId) (channel : Channel) : Prop :=
  ∃ done batch later, Follows start channel done batch later

theorem following_step (turn : Turn) (following : Following start channel) :
    Following start (step em channel turn) := by
  obtain ⟨done, batch, later, follows⟩ := following
  cases turn with
  | event_publish id published =>
      rw [step]
      split
      next fresh => exact ⟨_, _, _, follows_publish follows fresh published⟩
      next stale => exact ⟨_, _, _, follows⟩
  | read count =>
      rw [step]
      split
      next waiting => exact ⟨_, follows_read follows waiting.1 count⟩
      next busy => exact ⟨_, _, _, follows⟩
  | send =>
      obtain ⟨done', batch', next⟩ := follows_send follows
      exact ⟨done', batch', later, next⟩

end Steps

/-- At every moment a listener that has started at an id has sent a first part of what stands
behind that id, in the order of the stream. -/
theorem sent_isPrefix (em : EventManager) (stream : Stream) {last : String} {start : StreamId}
    (explicit : StreamId.parse last = some start) (turns : List Turn) :
    ∀ channel ∈ Runs.states (step em) ⟨stream, { last := some last }⟩ turns,
      channel.listener.sent <+:
        (behind StreamEntry.id start channel.stream.entries).map message := by
  have initial : Follows start ⟨stream, { last := some last }⟩ [] []
      (behind StreamEntry.id start stream.entries) :=
    ⟨rfl, rfl, rfl, fun _ => ⟨start, explicit, by simp, rfl⟩⟩
  intro channel reached
  obtain ⟨done, batch, later, follows⟩ : Following start channel :=
    Runs.states_kept (fun _ turn => following_step turn) ⟨_, _, _, initial⟩ turns channel reached
  rw [follows.split, follows.sent, List.append_assoc, List.map_append]
  exact List.prefix_append _ _

theorem sent_isPrefix_from_five :
    StreamId.parse "5" = some ⟨5, 0⟩ ∧
      ∀ channel ∈ Runs.states (step {}) ⟨{}, { last := some "5" }⟩
          [.event_publish ⟨4, 1⟩ { data := "old" }, .event_publish ⟨7, 0⟩ { data := "one" },
            .read 2, .event_publish ⟨7, 1⟩ { data := "two" }, .send, .read 1, .send],
        channel.listener.sent <+:
          (behind StreamEntry.id ⟨5, 0⟩ channel.stream.entries).map message :=
  ⟨by decide, sent_isPrefix {} {} (by decide) _⟩

end EventStreams

end LabFunctions
