import Mathlib.Logic.Function.Basic
import LabFunctions.Database
import LabFunctions.Library.Runs

/-!
`labfunctions.control_plane.heartbeat`: the thread that keeps the key of an agent alive in Redis,
and `unregister`, which takes the key away and stops the thread, step by step side by side.
-/

namespace LabFunctions

/-- A value in Redis, and when it expires, in milliseconds. -/
structure Expiring where
  value : String
  expires : Nat

abbrev ExpiringKeys := String → Option Expiring

namespace ExpiringKeys

def get (rdb : ExpiringKeys) (clock : Nat) (key : String) : Option String :=
  match rdb key with
  | some entry => if clock < entry.expires then some entry.value else none
  | none => none

/-- `rdb.set(key, value, ex=ex)`: Redis takes no time that is not positive. -/
def set (rdb : ExpiringKeys) (clock : Nat) (key value : String) (ex : Int) :
    Except Exn ExpiringKeys :=
  if 0 < ex then .ok (Function.update rdb key (some ⟨value, clock + 1000 * ex.toNat⟩))
  else .error (.otherError "invalid expire time in 'set' command")

def delete (rdb : ExpiringKeys) (key : String) : ExpiringKeys := Function.update rdb key none

end ExpiringKeys

structure HeartbeatThread where
  name : String
  ttl_secs : Int := 15
  check_every : Int := 10

namespace HeartbeatThread

def PREFIX : String := "nb.ag.heart"

def key (heart : HeartbeatThread) : String := PREFIX ++ "." ++ heart.name

/-- Where `run` is: before its test of the flag, before its write, in its sleep, or ended. -/
inductive Beating where
  | testing
  | writing
  | sleeping (till : Nat)
  | ended
  deriving DecidableEq

/-- Where the call of `unregister` is: before its delete, before it sets the flag, or returned. -/
inductive Unregistering where
  | deleting
  | setting
  | returned
  deriving DecidableEq

structure World where
  rdb : ExpiringKeys
  clock : Nat
  shutdown_flag : Bool
  run : Beating
  unregister : Unregistering

/-- The thread has just been started, whatever Redis holds. -/
def World.start (rdb : ExpiringKeys) (clock : Nat) : World where
  rdb := rdb
  clock := clock
  shutdown_flag := false
  run := .testing
  unregister := .deleting

variable (heart : HeartbeatThread)

def stepRun (world : World) : World :=
  match world.run with
  | .testing => { world with run := if world.shutdown_flag then .ended else .writing }
  | .writing =>
      match world.rdb.set world.clock heart.key "alive" heart.ttl_secs with
      | .error _ => { world with run := .ended }
      | .ok rdb =>
          -- a negative time to sleep raises as well
          if heart.check_every < 0 then { world with rdb := rdb, run := .ended }
          else { world with
            rdb := rdb, run := .sleeping (world.clock + 1000 * heart.check_every.toNat) }
  | .sleeping till => if till ≤ world.clock then { world with run := .testing } else world
  | .ended => world

def stepUnregister (world : World) : World :=
  match world.unregister with
  | .deleting => { world with rdb := world.rdb.delete heart.key, unregister := .setting }
  | .setting => { world with shutdown_flag := true, unregister := .returned }
  | .returned => world

/-- Who moves next: the thread, the caller of `unregister`, or nobody for some milliseconds. -/
inductive Turn where
  | run
  | unregister
  | wait (millis : Nat)
  deriving DecidableEq

def step (world : World) : Turn → World
  | .run => heart.stepRun world
  | .unregister => heart.stepUnregister world
  | .wait millis => { world with clock := world.clock + millis }

def Absent (world : World) : Prop := world.rdb.get world.clock heart.key = none

/-- The thread is past its test, and Redis takes what it writes. -/
def Pending (world : World) : Prop := world.run = .writing ∧ 0 < heart.ttl_secs

def Writes (world : World) (turn : Turn) : Prop := turn = .run ∧ heart.Pending world

open Runs in
/-- From the return of `unregister` on the key is absent and is not written. -/
structure Quiet (world : World) (turns : List Turn) : Prop where
  absent : ∀ reached ∈ states heart.step world turns,
    reached.unregister = .returned → heart.Absent reached
  unwritten : Along heart.step
    (fun reached turn => reached.unregister = .returned → ¬heart.Writes reached turn) world turns

/-- When the flag is set no beat has come since the delete, or it has expired, and none is under
way. -/
def Meets (world : World) (turn : Turn) : Prop :=
  turn = .unregister → world.unregister = .setting → heart.Absent world ∧ ¬heart.Pending world

/-! What one turn does. -/

structure Settled (world : World) : Prop where
  flagged : world.shutdown_flag = true
  absent : heart.Absent world
  idle : ¬heart.Pending world

variable {heart} {world : World}

theorem absent_wait (absent : heart.Absent world) (millis : Nat) :
    heart.Absent (heart.step world (.wait millis)) := by
  unfold Absent step ExpiringKeys.get at *
  cases held : world.rdb heart.key with
  | none => rfl
  | some entry =>
      have expired : ¬world.clock < entry.expires := by simpa [held] using absent
      have later : ¬world.clock + millis < entry.expires := by omega
      exact if_neg later

/-- A thread that sees the flag writes no more. -/
theorem settled_run (settled : heart.Settled world) : heart.Settled (heart.step world .run) := by
  obtain ⟨flagged, absent, idle⟩ := settled
  rw [step, stepRun]
  cases place : world.run with
  | testing =>
      refine ⟨flagged, absent, ?_⟩
      simp [Pending, flagged]
  | writing =>
      have refused : ¬0 < heart.ttl_secs := fun positive => idle ⟨place, positive⟩
      simp only [ExpiringKeys.set, if_neg refused]
      exact ⟨flagged, absent, by simp [Pending]⟩
  | sleeping till =>
      dsimp only
      split
      · exact ⟨flagged, absent, by simp [Pending]⟩
      · exact ⟨flagged, absent, idle⟩
  | ended => exact ⟨flagged, absent, idle⟩

theorem run_unregister (world : World) :
    (heart.step world .run).unregister = world.unregister := by
  rw [step, stepRun]
  cases world.run with
  | testing => rfl
  | writing =>
      dsimp only
      split
      · rfl
      · split <;> rfl
  | sleeping till => dsimp only; split <;> rfl
  | ended => rfl

/-- The step lemma: once returned, settled for good. -/
theorem settled_step (turn : Turn)
    (settled : world.unregister = .returned → heart.Settled world) (meets : heart.Meets world turn)
    (returned : (heart.step world turn).unregister = .returned) :
    heart.Settled (heart.step world turn) := by
  cases turn with
  | run =>
      rw [run_unregister] at returned
      exact settled_run (settled returned)
  | unregister =>
      cases place : world.unregister with
      | deleting => simp [step, stepUnregister, place] at returned
      | setting =>
          obtain ⟨absent, idle⟩ := meets rfl place
          rw [step, stepUnregister, place]
          exact ⟨rfl, absent, idle⟩
      | returned =>
          have same : heart.step world .unregister = world := by rw [step, stepUnregister, place]
          rw [same]
          exact settled place
  | wait millis =>
      obtain ⟨flagged, absent, idle⟩ := settled returned
      exact ⟨flagged, absent_wait absent millis, idle⟩

theorem returned_step (turn : Turn) (returned : world.unregister = .returned) :
    (heart.step world turn).unregister = .returned := by
  cases turn with
  | run => rw [run_unregister, returned]
  | unregister => rw [step, stepUnregister, returned, returned]
  | wait millis => exact returned

theorem pending_step {turn : Turn} (other : turn ≠ .run) (pending : heart.Pending world) :
    heart.Pending (heart.step world turn) := by
  cases turn with
  | run => exact absurd rfl other
  | unregister =>
      rw [step, stepUnregister]
      cases world.unregister <;> exact pending
  | wait millis => exact pending

/-! Whole runs. -/

section

open Runs

variable {turns : List Turn}

theorem quiet_of_along (before : world.unregister = .returned → heart.Settled world)
    (along : Along heart.step heart.Meets world turns) : heart.Quiet world turns := by
  have kept : ∀ state turn, (state.unregister = .returned → heart.Settled state) →
      heart.Meets state turn → (heart.step state turn).unregister = .returned →
      heart.Settled (heart.step state turn) :=
    fun state turn settled meets returned => settled_step turn settled meets returned
  constructor
  · intro reached member returned
    exact (states_invariant kept before along reached member returned).absent
  · refine along_invariant kept ?_ before along
    intro state turn settled returned writes
    exact (settled returned).idle writes.2

/-- A beat under way at the return is written, at the latest after everything else. -/
theorem pending_writes (returned : world.unregister = .returned) (pending : heart.Pending world)
    (turns : List Turn) :
    ¬Along heart.step (fun reached turn => reached.unregister = .returned →
      ¬heart.Writes reached turn) world (turns ++ [.run]) := by
  induction turns generalizing world with
  | nil =>
      intro unwritten
      exact unwritten.1 returned ⟨rfl, pending⟩
  | cons turn rest ih =>
      rw [List.cons_append, along_cons]
      rintro ⟨unwritten, later⟩
      by_cases own : turn = .run
      · exact unwritten returned ⟨own, pending⟩
      · exact ih (returned_step turn returned) (pending_step own pending) later

theorem meets_of_quiet (every : heart.Quiet world (turns ++ [.run])) :
    Along heart.step heart.Meets world turns := by
  rw [along_iff_forall_split]
  rintro front turn back rfl rfl place
  have reached : heart.step (run heart.step world front) .unregister ∈
      states heart.step world (front ++ .unregister :: back ++ [.run]) := by
    have reaches : run heart.step world (front ++ [.unregister]) ∈
        states heart.step world (front ++ [.unregister] ++ (back ++ [.run])) :=
      run_front_mem_states world _ _
    rw [run_append, List.append_assoc] at reaches
    rw [List.append_assoc]
    exact reaches
  have returned : (heart.step (run heart.step world front) .unregister).unregister = .returned := by
    rw [step, stepUnregister, place]
  have absent := every.absent _ reached returned
  rw [step, stepUnregister, place] at absent
  refine ⟨absent, ?_⟩
  intro pending
  have unwritten := every.unwritten
  rw [List.append_assoc, along_append, List.cons_append, along_cons] at unwritten
  exact pending_writes returned (pending_step (by decide) pending) back unwritten.2.2

/-- In every run in which the key is absent and no beat is under way when `unregister` sets the
flag, the key is absent from the return on and is not written; and where `unregister` has returned
without that, some way to go on shows it. -/
theorem quiet_after_return_iff (rdb : ExpiringKeys) (clock : Nat) (turns : List Turn) :
    (Along heart.step heart.Meets (World.start rdb clock) turns →
        heart.Quiet (World.start rdb clock) turns) ∧
      ((run heart.step (World.start rdb clock) turns).unregister = .returned →
        ((∀ later, heart.Quiet (World.start rdb clock) (turns ++ later)) ↔
          Along heart.step heart.Meets (World.start rdb clock) turns)) := by
  have before : (World.start rdb clock).unregister = .returned →
      heart.Settled (World.start rdb clock) := fun returned => nomatch returned
  refine ⟨quiet_of_along before, ?_⟩
  intro returned
  constructor
  · exact fun every => meets_of_quiet (every [.run])
  · intro along later
    apply quiet_of_along before
    rw [along_append]
    refine ⟨along, ?_⟩
    have stays : ∀ state turn, state.unregister = .returned →
        (heart.step state turn).unregister = .returned :=
      fun state turn returned => returned_step turn returned
    have gives : ∀ state turn, state.unregister = .returned → heart.Meets state turn := by
      intro state turn returned _ place
      rw [returned] at place
      cases place
    exact along_kept stays gives returned later

/-- `unregister` has returned before the thread has come to its first test. -/
theorem quiet_before_beat :
    ∀ later, (HeartbeatThread.mk "agt" 15 10).Quiet (World.start (fun _ => none) 0)
      ([.unregister, .unregister] ++ later) := by
  let heart := HeartbeatThread.mk "agt" 15 10
  have deleting : heart.Meets (World.start (fun _ => none) 0) .unregister := by
    intro _ setting
    cases setting
  have setting : heart.Meets (heart.step (World.start (fun _ => none) 0) .unregister)
      .unregister := by
    intro _ _
    refine ⟨rfl, ?_⟩
    rintro ⟨writing, _⟩
    cases writing
  exact ((quiet_after_return_iff (fun _ => none) 0 [.unregister, .unregister]).2 rfl).mpr
    ⟨deleting, setting, trivial⟩

namespace Sample

/-- The thread has tested the flag when `unregister` is called; its beat comes between the delete
and the setting of the flag. -/
def overtaken : List Turn := [.run, .unregister, .run, .unregister]

end Sample

/-- With the default times the key is there for fifteen seconds after the return. -/
theorem beat_overtakes_delete :
    ¬(HeartbeatThread.mk "agt" 15 10).Quiet (World.start (fun _ => none) 0) Sample.overtaken := by
  intro quiet
  let heart := HeartbeatThread.mk "agt" 15 10
  let reached := run heart.step (World.start (fun _ => none) 0) Sample.overtaken
  have member : reached ∈ states heart.step (World.start (fun _ => none) 0) Sample.overtaken :=
    run_mem_states _ _
  have absent : heart.Absent reached := quiet.absent reached member rfl
  have present : reached.rdb.get reached.clock heart.key = some "alive" := by decide
  rw [Absent, present] at absent
  cases absent

end

end HeartbeatThread

end LabFunctions
