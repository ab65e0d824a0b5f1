import LabFunctions.Heartbeats

/-!
What the key of a heartbeat tells of its agent: it is there exactly while the last beat is fresh, and
how late a beat may come before the key is gone in between.
-/

namespace LabFunctions.HeartbeatThread

open Runs

section

variable (heart : HeartbeatThread)

instance (world : World) (turn : Turn) : Decidable (heart.Writes world turn) :=
  inferInstanceAs (Decidable (_ ∧ _ ∧ _))

def Deletes (world : World) (turn : Turn) : Prop :=
  turn = .unregister ∧ world.unregister = .deleting

instance (world : World) (turn : Turn) : Decidable (Deletes world turn) :=
  inferInstanceAs (Decidable (_ ∧ _))

/-- What a turn leaves under the key, where it writes or deletes it. -/
def written (world : World) (turn : Turn) : Option (Option Expiring) :=
  if heart.Writes world turn then some (some ⟨"alive", world.clock + 1000 * heart.ttl_secs.toNat⟩)
  else if Deletes world turn then some none
  else none

/-- The key is left alone. -/
def Leaves (world : World) (turn : Turn) : Prop := ¬heart.Writes world turn ∧ ¬Deletes world turn

/-- Some beat, or what Redis held before the first one, was not deleted since and has not
expired. -/
def Fresh (rdb : ExpiringKeys) (clock : Nat) (turns : List Turn) : Prop :=
  let start := World.start rdb clock
  let now := (run heart.step start turns).clock
  (∃ front turn back, turns = front ++ turn :: back ∧
      heart.Writes (run heart.step start front) turn ∧
      Along heart.step heart.Leaves (run heart.step start (front ++ [turn])) back ∧
      now < (run heart.step start front).clock + 1000 * heart.ttl_secs.toNat) ∨
    (Along heart.step heart.Leaves start turns ∧
      ∃ entry, rdb heart.key = some entry ∧ now < entry.expires)

end

variable {heart : HeartbeatThread} {world : World}

theorem present_iff : ¬heart.Absent world ↔
    ∃ entry, world.rdb heart.key = some entry ∧ world.clock < entry.expires := by
  rw [Absent, ExpiringKeys.get]
  cases held : world.rdb heart.key with
  | none => simp
  | some entry =>
      by_cases fresh : world.clock < entry.expires
      · simp [fresh]
      · simp [fresh]

theorem written_eq_none_iff (turn : Turn) :
    heart.written world turn = none ↔ heart.Leaves world turn := by
  rw [written, Leaves]
  split
  · simp_all
  · split <;> simp_all

theorem written_eq_some_iff (turn : Turn) (entry : Expiring) :
    heart.written world turn = some (some entry) ↔ heart.Writes world turn ∧
      entry = ⟨"alive", world.clock + 1000 * heart.ttl_secs.toNat⟩ := by
  rw [written]
  split
  · rename_i writes
    simp [writes, eq_comm]
  · rename_i idle
    split <;> simp [idle]

/-- The step lemma: a turn writes the key, deletes it, or leaves it. -/
theorem entry_step (world : World) (turn : Turn) :
    (heart.step world turn).rdb heart.key =
      (heart.written world turn).getD (world.rdb heart.key) := by
  cases turn with
  | wait millis =>
      have leaves : heart.written world (.wait millis) = none := by
        simp [written_eq_none_iff, Leaves, Writes, Deletes]
      rw [leaves]
      rfl
  | unregister =>
      have idle : ¬heart.Writes world .unregister := by simp [Writes]
      rw [written, if_neg idle, step, stepUnregister]
      cases place : world.unregister with
      | deleting =>
          rw [if_pos ⟨rfl, place⟩]
          exact Function.update_self ..
      | setting => simp [Deletes, place]
      | returned => simp [Deletes, place]
  | run =>
      have kept : ¬Deletes world .run := by simp [Deletes]
      rw [written, if_neg kept, step, stepRun]
      cases place : world.run with
      | testing => simp [Writes, Pending, place]
      | writing =>
          by_cases positive : 0 < heart.ttl_secs
          · have writes : heart.Writes world .run := ⟨rfl, place, positive⟩
            simp only [ExpiringKeys.set, if_pos positive, if_pos writes]
            split <;> exact Function.update_self ..
          · simp [Writes, Pending, ExpiringKeys.set, positive]
      | sleeping till =>
          simp only [Writes, Pending, place]
          split <;> simp
      | ended => simp [Writes, Pending, place]

/-- In every run of the thread, of the call of `unregister` and of the time between, the key is there
exactly while some beat is no older than its time to live and was not deleted since. -/
theorem present_iff_fresh (rdb : ExpiringKeys) (clock : Nat) (turns : List Turn) :
    ¬heart.Absent (run heart.step (World.start rdb clock) turns) ↔ heart.Fresh rdb clock turns := by
  have register := run_register_iff (fun world => world.rdb heart.key) entry_step
    (World.start rdb clock) turns
  have left : ∀ state turns, Along heart.step (fun world turn => heart.written world turn = none)
      state turns ↔ Along heart.step heart.Leaves state turns :=
    fun _ _ => along_iff fun _ turn => written_eq_none_iff turn
  rw [present_iff, Fresh]
  constructor
  · rintro ⟨entry, held, fresh⟩
    rcases (register (some entry)).mp held with ⟨front, turn, back, split, wrote, leaves⟩ |
      ⟨leaves, before⟩
    · obtain ⟨writes, rfl⟩ := (written_eq_some_iff turn entry).mp wrote
      exact .inl ⟨front, turn, back, split, writes, (left _ _).mp leaves, fresh⟩
    · exact .inr ⟨(left _ _).mp leaves, entry, before, fresh⟩
  · rintro (⟨front, turn, back, split, writes, leaves, fresh⟩ | ⟨leaves, entry, before, fresh⟩)
    · have wrote := (written_eq_some_iff turn _).mpr ⟨writes, rfl⟩
      refine ⟨⟨"alive", _⟩, (register _).mpr (.inl ?_), fresh⟩
      exact ⟨front, turn, back, split, wrote, (left _ _).mpr leaves⟩
    · exact ⟨entry, (register _).mpr (.inr ⟨(left _ _).mpr leaves, before⟩), fresh⟩

/-! How late a beat may come. -/

/-- A run of the thread, and when the beat after the last one is due. -/
structure Watched where
  world : World
  due : Option Nat

variable (heart) in
def watch (watched : Watched) (turn : Turn) : Watched where
  world := heart.step watched.world turn
  due :=
    if heart.Writes watched.world turn then
      some (watched.world.clock + 1000 * heart.check_every.toNat)
    else watched.due

/-- No time passes beyond `slack` milliseconds after the beat that is due. -/
def Punctual (slack : Nat) (watched : Watched) (turn : Turn) : Prop :=
  ∀ millis due, turn = .wait millis → watched.due = some due →
    watched.world.clock + millis ≤ due + slack

variable (heart) in
/-- From the first beat to the delete of `unregister` the key is there. -/
def Shown (watched : Watched) : Prop :=
  watched.due ≠ none → watched.world.unregister = .deleting → ¬heart.Absent watched.world

variable (heart) in
/-- No run that is late by `slack` at most takes the agent for dead. -/
def Trusted (slack : Nat) : Prop :=
  ∀ rdb clock turns, Along heart.watch (Punctual slack) ⟨World.start rdb clock, none⟩ turns →
    ∀ reached ∈ states heart.watch ⟨World.start rdb clock, none⟩ turns, heart.Shown reached

/-- The entry of the last beat, until `unregister` deletes it. -/
structure Beaten (heart : HeartbeatThread) (slack : Nat) (watched : Watched) : Prop where
  timely : ∀ due, watched.due = some due → watched.world.clock ≤ due + slack
  held : ∀ due, watched.due = some due → watched.world.unregister = .deleting →
    ∃ entry, watched.world.rdb heart.key = some entry ∧
      entry.expires + 1000 * heart.check_every.toNat = due + 1000 * heart.ttl_secs.toNat

theorem clock_step {turn : Turn} (acts : ∀ millis, turn ≠ .wait millis) (world : World) :
    (heart.step world turn).clock = world.clock := by
  cases turn with
  | run =>
      rw [step, stepRun]
      cases world.run with
      | testing => rfl
      | writing =>
          dsimp only
          split
          · rfl
          · split <;> rfl
      | sleeping till => dsimp only; split <;> rfl
      | ended => rfl
  | unregister =>
      rw [step, stepUnregister]
      cases world.unregister <;> rfl
  | wait millis => exact absurd rfl (acts millis)

theorem deleting_of_step {turn : Turn}
    (deleting : (heart.step world turn).unregister = .deleting) :
    world.unregister = .deleting ∧ ¬Deletes world turn := by
  cases turn with
  | run =>
      rw [run_unregister] at deleting
      exact ⟨deleting, by simp [Deletes]⟩
  | unregister =>
      rw [step, stepUnregister] at deleting
      cases place : world.unregister <;> simp [place] at deleting
  | wait millis => exact ⟨deleting, by simp [Deletes]⟩

theorem beaten_step {slack : Nat} (watched : Watched) (turn : Turn)
    (beaten : heart.Beaten slack watched) (punctual : Punctual slack watched turn) :
    heart.Beaten slack (heart.watch watched turn) := by
  by_cases writes : heart.Writes watched.world turn
  · have acts : ∀ millis, turn ≠ .wait millis := by
      rintro millis rfl
      simp [Writes] at writes
    have due_eq : (heart.watch watched turn).due =
        some (watched.world.clock + 1000 * heart.check_every.toNat) := if_pos writes
    constructor
    · intro due is_due
      obtain rfl := Option.some.inj (due_eq.symm.trans is_due)
      rw [watch, clock_step acts]
      omega
    · intro due is_due _
      obtain rfl := Option.some.inj (due_eq.symm.trans is_due)
      refine ⟨⟨"alive", watched.world.clock + 1000 * heart.ttl_secs.toNat⟩, ?_, ?_⟩
      · rw [watch, entry_step, written, if_pos writes]
        rfl
      · dsimp only
        omega
  · have due_eq : (heart.watch watched turn).due = watched.due := if_neg writes
    constructor
    · intro due is_due
      rw [due_eq] at is_due
      by_cases waits : ∃ millis, turn = .wait millis
      · obtain ⟨millis, rfl⟩ := waits
        exact punctual millis due rfl is_due
      · rw [not_exists] at waits
        rw [watch, clock_step waits]
        exact beaten.timely due is_due
    · intro due is_due deleting
      rw [due_eq] at is_due
      obtain ⟨before, kept⟩ := deleting_of_step deleting
      obtain ⟨entry, held, expires⟩ := beaten.held due is_due before
      refine ⟨entry, ?_, expires⟩
      rw [watch, entry_step, written, if_neg writes, if_neg kept]
      exact held

theorem shown_of_beaten {slack : Nat} {watched : Watched} (beaten : heart.Beaten slack watched)
    (within : 1000 * heart.check_every.toNat + slack < 1000 * heart.ttl_secs.toNat) :
    heart.Shown watched := by
  intro begun deleting
  obtain ⟨due, is_due⟩ := Option.ne_none_iff_exists'.mp begun
  obtain ⟨entry, held, expires⟩ := beaten.held due is_due deleting
  have timely := beaten.timely due is_due
  exact present_iff.mpr ⟨entry, held, by omega⟩

/-- The thread beats once and is then late by the whole slack. -/
def late (heart : HeartbeatThread) (slack : Nat) : List Turn :=
  [.run, .run, .wait (1000 * heart.check_every.toNat + slack)]

/-- A thread that beats is never taken for dead, be each beat late by so much, exactly if the time
between two beats and the delay together are below the time to live. -/
theorem trusted_iff (slack : Nat) (lives : 0 < heart.ttl_secs) (sleeps : 0 ≤ heart.check_every) :
    heart.Trusted slack ↔ 1000 * heart.check_every + slack < 1000 * heart.ttl_secs := by
  have seconds : 1000 * heart.check_every + slack < 1000 * heart.ttl_secs ↔
      1000 * heart.check_every.toNat + slack < 1000 * heart.ttl_secs.toNat := by omega
  rw [seconds]
  constructor
  · intro trusted
    by_contra beyond
    let start : Watched := ⟨World.start (fun _ => none) 0, none⟩
    let beaten : Watched := heart.watch (heart.watch start .run) .run
    have tested : heart.watch start .run = ⟨{ start.world with run := .writing }, none⟩ := rfl
    have writes : heart.Writes (heart.watch start .run).world .run := ⟨rfl, rfl, lives⟩
    have due : beaten.due = some (1000 * heart.check_every.toNat) := by
      change (if _ then _ else _) = _
      rw [if_pos writes, tested]
      simp [start, World.start]
    have clock : beaten.world.clock = 0 := by
      change (heart.step (heart.step start.world .run) .run).clock = 0
      rw [clock_step (by simp), clock_step (by simp)]
      rfl
    have punctual : Along heart.watch (Punctual slack) start (late heart slack) := by
      refine ⟨by simp [Punctual], by simp [Punctual], ?_, trivial⟩
      rintro millis at_ same is_due
      obtain rfl := Turn.wait.inj same
      obtain rfl := Option.some.inj (due.symm.trans is_due)
      change beaten.world.clock + _ ≤ _
      omega
    let reached := heart.watch beaten (.wait (1000 * heart.check_every.toNat + slack))
    have member : reached ∈ states heart.watch start (late heart slack) :=
      run_mem_states start (late heart slack)
    have shown := trusted _ _ _ punctual reached member
    have begun : reached.due ≠ none := by
      change beaten.due ≠ none
      rw [due]
      exact Option.some_ne_none _
    have deleting : reached.world.unregister = .deleting := by
      change (heart.step (heart.step start.world .run) .run).unregister = .deleting
      rw [run_unregister, run_unregister]
      rfl
    obtain ⟨entry, held, fresh⟩ := present_iff.mp (shown begun deleting)
    have entry_eq : reached.world.rdb heart.key =
        some ⟨"alive", 0 + 1000 * heart.ttl_secs.toNat⟩ := by
      change beaten.world.rdb heart.key = _
      change (heart.step (heart.watch start .run).world .run).rdb heart.key = _
      rw [entry_step, written, if_pos writes]
      rfl
    obtain rfl := Option.some.inj (entry_eq.symm.trans held)
    have now : reached.world.clock = 0 + (1000 * heart.check_every.toNat + slack) := by
      change beaten.world.clock + _ = _
      rw [clock]
    rw [now] at fresh
    dsimp only at fresh
    omega
  · intro within rdb clock turns punctual reached member
    have initial : heart.Beaten slack ⟨World.start rdb clock, none⟩ :=
      ⟨by simp, by simp⟩
    exact shown_of_beaten (states_invariant beaten_step initial punctual reached member) within

/-- The settings of the server check every five minutes a key that lives for four. -/
theorem settings_not_trusted : ¬(HeartbeatThread.mk "agt" 240 300).Trusted 0 := by
  intro trusted
  have within := (trusted_iff 0 (by decide) (by decide)).mp trusted
  exact absurd within (by decide)

end LabFunctions.HeartbeatThread
