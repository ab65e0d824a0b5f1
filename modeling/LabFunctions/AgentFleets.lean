import LabFunctions.AgentRuns
import LabFunctions.Library.Sharing

/-!
The main processes of many agents on one register: each runs by itself, in any order of their acts,
and every act meets what the others have left in Redis.
-/

namespace LabFunctions.ControlPlane.AgentFleet

open Runs

/-- What of an agent's process is its own. -/
structure Process where
  beating : Bool
  acts : List Act
  working : List WorkerCall

def Process.on (process : Process) (rdb : AgentRegister.Rdb) : ControlPlane.World where
  rdb := rdb
  beating := process.beating
  acts := process.acts
  working := process.working

def Process.of (world : ControlPlane.World) : Process where
  beating := world.beating
  acts := world.acts
  working := world.working

def act (rdb : AgentRegister.Rdb) (process : Process) (turn : Turn) :
    AgentRegister.Rdb × Process :=
  let after := step (process.on rdb) turn
  (after.rdb, .of after)

abbrev Fleet (ι : Type) := Sharing.World ι AgentRegister.Rdb Process

section

variable {ι : Type} (confs : ι → AgentConfig) (pids : ι → String) (nows : ι → Int)

def fleet (rdb : AgentRegister.Rdb) : Fleet ι where
  shared := rdb
  own party := .of (begun (confs party) (pids party) (nows party) rdb)

/-- Every agent with a worker at work is registered. -/
def Visible (world : Fleet ι) : Prop :=
  ∀ party, Safe (confs party) ((world.own party).on world.shared)

/-- An agent that starts a worker, in its own process. -/
def Works (conf : AgentConfig) (name : String) : Prop :=
  conf.workers_n = 1 ∧ Agent.name conf = .ok name

end

/-! An agent without workers ends before it comes to unregister. -/

def Opening : Act → Prop
  | .heart_start | .register _ => True
  | _ => False

def Barren (world : World) : Prop :=
  world.working = [] ∧
    (world.acts = [] ∨ ∃ front failure rest, (∀ act ∈ front, Opening act) ∧
      world.acts = front ++ .raise failure :: rest)

theorem barren_step {world : World} (turn : Turn) (barren : Barren world) :
    Barren (step world turn) := by
  obtain ⟨idle, ended | ⟨front, failure, rest, opening, acts⟩⟩ := barren
  · cases turn with
    | parent =>
        rw [step, stepParent, ended]
        exact ⟨idle, .inl ended⟩
    | ends name raised =>
        rw [step, idle, ended]
        exact ⟨rfl, .inl rfl⟩
  · cases turn with
    | ends name raised =>
        have same : joined name raised world.acts = world.acts := by
          rw [acts]
          cases front with
          | nil => rfl
          | cons first others =>
              rw [List.forall_mem_cons] at opening
              cases first with
              | join worker => exact opening.1.elim
              | _ => rfl
        rw [step, idle, same]
        exact ⟨rfl, .inr ⟨front, failure, rest, opening, acts⟩⟩
    | parent =>
        rw [step, stepParent, acts]
        cases front with
        | nil => exact ⟨idle, .inl rfl⟩
        | cons first others =>
            rw [List.forall_mem_cons] at opening
            cases first with
            | heart_start => exact ⟨idle, .inr ⟨others, failure, rest, opening.2, rfl⟩⟩
            | register node => exact ⟨idle, .inr ⟨others, failure, rest, opening.2, rfl⟩⟩
            | _ => exact opening.1.elim

theorem barren_begun (conf : AgentConfig) (pid : String) (_now : Int) (rdb : AgentRegister.Rdb)
    (few : conf.workers_n ≤ 1 ∨ ∃ failure, Agent.name conf = .error failure)
    (idle : ∀ name, ¬Works conf name) : Barren (begun conf pid _now rdb) := by
  refine ⟨rfl, .inr ?_⟩
  change ∃ front failure rest, (∀ act ∈ front, Opening act) ∧ run conf pid _now = _
  cases named : Agent.name conf with
  | error failure =>
      exact ⟨[], failure, [], by simp, run_of_error pid _now named⟩
  | ok name =>
      have none : conf.workers_n ≤ 0 := by
        rcases few with few | ⟨failure, failed⟩
        · have other : conf.workers_n ≠ 1 := fun one => idle name ⟨one, named⟩
          omega
        · cases named.symm.trans failed
      let agent := node conf name pid _now
      refine ⟨[.heart_start, .register agent], .indexError,
        [.unregister agent, .heart_unregister], by simp [Opening], ?_⟩
      have empty : workers_names name conf.workers_n = [] := by
        rw [workers_names, Int.toNat_of_nonpos none]
        rfl
      rw [run_of_ok pid _now named, starts, if_neg (by omega), empty]
      rfl

/-! What the turn of one agent does to the registration of another. -/

theorem registered_other {rdb : AgentRegister.Rdb} {name cluster : String} (agent : AgentNode)
    (registered : Registered rdb name cluster) :
    Registered (AgentRegister.register rdb agent) name cluster := by
  constructor
  · rw [AgentRegister.list_register]
    exact Finset.mem_insert_of_mem registered.1
  · change name ∈ (AgentRegister.directory _).members cluster
    rw [AgentRegister.register_directory, Directory.mem_enroll]
    exact .inr registered.2

theorem registered_unregister_other {rdb : AgentRegister.Rdb} {name cluster : String}
    (agent : AgentNode) (different : name ≠ agent.name)
    (registered : Registered rdb name cluster) :
    Registered (AgentRegister.unregister rdb agent) name cluster := by
  constructor
  · rw [AgentRegister.list_unregister]
    exact Finset.mem_erase_of_ne_of_mem different registered.1
  · change name ∈ (AgentRegister.directory _).members cluster
    rw [AgentRegister.unregister_directory, Directory.mem_strike]
    exact ⟨registered.2, fun same => different same.2⟩

/-- Acts that unregister no agent of the name. -/
def Spares (name : String) (world : World) : Prop :=
  ∀ agent rest, world.acts = .unregister agent :: rest → name ≠ agent.name

theorem registered_step {world : World} {name cluster : String} (turn : Turn)
    (spares : Spares name world) (registered : Registered world.rdb name cluster) :
    Registered (step world turn).rdb name cluster := by
  cases turn with
  | ends ended raised => exact registered
  | parent =>
      rw [step, stepParent]
      cases acts : world.acts with
      | nil => exact registered
      | cons act rest =>
          cases act with
          | register agent => exact registered_other agent registered
          | unregister agent =>
              exact registered_unregister_other agent (spares agent rest acts) registered
          | _ => exact registered

theorem spares_of_barren {world : World} (name : String) (barren : Barren world) :
    Spares name world := by
  intro agent rest acts
  obtain ⟨_, ended | ⟨front, failure, others, opening, split⟩⟩ := barren
  · cases ended.symm.trans acts
  · cases front with
    | nil => cases acts.symm.trans split
    | cons first more =>
        rw [List.forall_mem_cons] at opening
        obtain rfl : first = .unregister agent := (List.cons.inj (split.symm.trans acts)).1
        exact opening.1.elim

theorem spares_of_phase {agent : AgentNode} {world : World} {name : String}
    (phase : Phase agent world) (different : name ≠ agent.name) : Spares name world := by
  intro other rest acts
  cases phase with
  | starting inner inside idle script => cases acts.symm.trans script
  | registering inner inside idle script => cases acts.symm.trans script
  | during inner inside script registered =>
      cases inner with
      | nil =>
          obtain rfl : other = agent := by
            have heads := (List.cons.inj (acts.symm.trans script)).1
            exact Act.unregister.inj heads
          exact different
      | cons act more =>
          rw [List.forall_mem_cons] at inside
          obtain rfl := (List.cons.inj (acts.symm.trans script)).1
          exact inside.1.elim
  | after outside =>
      rw [acts, List.forall_mem_cons] at outside
      exact outside.1.elim

theorem phase_elsewhere {agent : AgentNode} {process : Process} {rdb later : AgentRegister.Rdb}
    (keeps : Registered rdb agent.name agent.cluster → Registered later agent.name agent.cluster)
    (phase : Phase agent (process.on rdb)) : Phase agent (process.on later) := by
  cases phase with
  | starting inner inside idle acts => exact .starting inner inside idle acts
  | registering inner inside idle acts => exact .registering inner inside idle acts
  | during inner inside acts registered => exact .during inner inside acts (keeps registered)
  | after outside => exact .after outside

/-! Every agent of the fleet, in every order of turns. -/

section

variable {ι : Type} {confs : ι → AgentConfig} {pids : ι → String} {nows : ι → Int}

/-- What holds of an agent that may work, and of one that never does. -/
def Sound (conf : AgentConfig) (pid : String) (_now : Int) (rdb : AgentRegister.Rdb)
    (process : Process) : Prop :=
  (∃ name, Works conf name ∧ Phase (node conf name pid _now) (process.on rdb) ∧
    Guarded (node conf name pid _now) (process.on rdb) ∧ Alone (process.on rdb)) ∨
  (∀ name, ¬Works conf name) ∧ Barren (process.on rdb)

theorem sound_act {conf : AgentConfig} {pid : String} {_now : Int} (rdb : AgentRegister.Rdb)
    (process : Process) (turn : Turn) (sound : Sound conf pid _now rdb process) :
    Sound conf pid _now (act rdb process turn).1 (act rdb process turn).2 := by
  rcases sound with ⟨name, works, phase, guarded, alone⟩ | ⟨idle, barren⟩
  · refine .inl ⟨name, works, phase_step turn phase, ?_, alone_step turn alone⟩
    exact (guarded_step_iff turn phase guarded).mpr (idle_of_alone turn alone)
  · exact .inr ⟨idle, barren_step turn barren⟩

theorem sound_other {conf other : AgentConfig} {pid its : String} {_now then_ : Int}
    (apart : ∀ name, Works conf name → ¬Works other name) (rdb : AgentRegister.Rdb)
    (process mover : Process) (turn : Turn) (sound : Sound conf pid _now rdb process)
    (moves : Sound other its then_ rdb mover) :
    Sound conf pid _now (act rdb mover turn).1 process := by
  rcases sound with ⟨name, works, phase, guarded, alone⟩ | ⟨idle, barren⟩
  · have spares : Spares name (mover.on rdb) := by
      rcases moves with ⟨called, works', phase', _⟩ | ⟨_, barren⟩
      · refine spares_of_phase phase' ?_
        rintro rfl
        exact apart _ works works'
      · exact spares_of_barren name barren
    have keeps : Registered rdb name conf.cluster →
        Registered (act rdb mover turn).1 name conf.cluster := registered_step turn spares
    refine .inl ⟨name, works, phase_elsewhere keeps phase, ?_, ⟨alone.none, alone.waits⟩⟩
    exact fun working => keeps (guarded working)
  · exact .inr ⟨idle, barren⟩

theorem sound_fleet (rdb : AgentRegister.Rdb) (party : ι)
    (few : (confs party).workers_n ≤ 1 ∨ ∃ failure, Agent.name (confs party) = .error failure) :
    Sound (confs party) (pids party) (nows party) rdb ((fleet confs pids nows rdb).own party) := by
  by_cases works : ∃ name, Works (confs party) name
  · obtain ⟨name, one, named⟩ := works
    refine .inl ⟨name, ⟨one, named⟩, ?_, fun working => absurd rfl working, ?_⟩
    · exact .starting (starts (confs party) name) starts_inner rfl (run_of_ok _ _ named)
    · exact alone_start rdb (run_alone _ _ few)
  · rw [not_exists] at works
    exact .inr ⟨works, barren_begun _ _ _ rdb few works⟩

theorem safe_of_sound {conf : AgentConfig} {pid : String} {_now : Int} {rdb : AgentRegister.Rdb}
    {process : Process} (sound : Sound conf pid _now rdb process) :
    Safe conf (process.on rdb) := by
  rcases sound with ⟨name, works, _, guarded, _⟩ | ⟨_, idle, _⟩
  · exact (safe_iff_guarded pid _now works.2 _).mpr guarded
  · exact fun working => absurd idle working

/-! Where it fails. -/

theorem run_process (world : ControlPlane.World) (turns : List Turn) :
    Runs.run (fun seen turn => act seen.1 seen.2 turn) (world.rdb, Process.of world) turns =
      ((Runs.run step world turns).rdb, Process.of (Runs.run step world turns)) := by
  induction turns generalizing world with
  | nil => rfl
  | cons turn rest ih => exact ih (step world turn)

variable [DecidableEq ι]

variable (confs) in
/-- What an agent comes to alone, it comes to in the fleet. -/
theorem alone_in_fleet (pids : ι → String) (nows : ι → Int) (rdb : AgentRegister.Rdb) (party : ι)
    (turns : List Turn) :
    Sharing.seen (Runs.run (Sharing.step act) (fleet confs pids nows rdb) (turns.map (party, ·)))
        party =
      ((Runs.run step (begun (confs party) (pids party) (nows party) rdb) turns).rdb,
        Process.of (Runs.run step (begun (confs party) (pids party) (nows party) rdb) turns)) :=
  (Sharing.run_alone act (fleet confs pids nows rdb) party turns).trans
    (run_process (begun (confs party) (pids party) (nows party) rdb) turns)

theorem few_of_visible (pids : ι → String) (nows : ι → Int)
    (every : ∀ rdb turns, ∀ reached ∈ states (Sharing.step act) (fleet confs pids nows rdb) turns,
      Visible confs reached) (party : ι) :
    (confs party).workers_n ≤ 1 ∨ ∃ failure, Agent.name (confs party) = .error failure := by
  by_contra many
  rw [not_or, not_le] at many
  cases named : Agent.name (confs party) with
  | error failure => exact many.2 ⟨failure, named⟩
  | ok name =>
      obtain ⟨turns, overtaken⟩ :=
        submits_overtake (pids party) (nows party) KeySpace.empty many.1 named
      apply overtaken
      rw [← safe_iff_idle]
      intro reached member
      obtain ⟨front, _, rfl⟩ := mem_states_iff.mp member
      have safe := every KeySpace.empty (front.map (party, ·)) _ (run_mem_states _ _) party
      have same := congrArg (fun seen : AgentRegister.Rdb × Process => seen.2.on seen.1)
        (alone_in_fleet confs pids nows KeySpace.empty party front)
      exact (congrArg (Safe (confs party)) same).mp safe

theorem run_of_works {conf : AgentConfig} {name : String} (works : Works conf name) (pid : String)
    (_now : Int) : ControlPlane.run conf pid _now =
      [.heart_start, .register (node conf name pid _now),
        .start_worker (worker conf (name ++ "." ++ toString 0)),
        .unregister (node conf name pid _now), .heart_unregister] := by
  have one : workers_names name conf.workers_n = [name ++ "." ++ toString 0] := by
    rw [workers_names, works.1]
    rfl
  rw [run_of_ok pid _now works.2, starts, if_neg (by rw [works.1]; decide), one]
  rfl

/-- Two agents of one name: the one works, and the other starts, ends and unregisters both. -/
def overlap (party other : ι) (name : String) : List (ι × Turn) :=
  [.parent, .parent, .parent].map (party, ·) ++
    [.parent, .parent, .parent, .ends (name ++ "." ++ toString 0) false, .parent].map (other, ·)

theorem apart_of_visible (pids : ι → String) (nows : ι → Int)
    (every : ∀ rdb turns, ∀ reached ∈ states (Sharing.step act) (fleet confs pids nows rdb) turns,
      Visible confs reached) {party other : ι} (different : party ≠ other) (name : String)
    (works : Works (confs party) name) : ¬Works (confs other) name := by
  intro also
  let start := fleet confs pids nows KeySpace.empty
  let middle := Runs.run (Sharing.step act) start ([.parent, .parent, .parent].map (party, ·))
  let reached := Runs.run (Sharing.step act) start (overlap party other name)
  let agent := node (confs other) name (pids other) (nows other)
  have through : reached = Runs.run (Sharing.step act) middle
      ([.parent, .parent, .parent, .ends (name ++ "." ++ toString 0) false, .parent].map
        (other, ·)) := run_append ..
  have working : ((reached.own party).on reached.shared).working =
      [worker (confs party) (name ++ "." ++ toString 0)] := by
    have alone := congrArg (fun seen : AgentRegister.Rdb × Process => seen.2.working)
      (alone_in_fleet confs pids nows KeySpace.empty party [.parent, .parent, .parent])
    change (reached.own party).working = _
    rw [through, Sharing.run_alone_ne act middle different]
    refine Eq.trans alone ?_
    rw [begun, run_of_works works]
    rfl
  have waits : middle.own other = Process.of (begun (confs other) (pids other) (nows other)
      KeySpace.empty) := Sharing.run_alone_ne act start different.symm _
  have left : reached.shared =
      AgentRegister.unregister (AgentRegister.register middle.shared agent) agent := by
    have alone := congrArg Prod.fst (Sharing.run_alone act middle other
      [.parent, .parent, .parent, .ends (name ++ "." ++ toString 0) false, .parent])
    rw [through]
    refine Eq.trans alone ?_
    rw [Sharing.seen, waits, begun, run_of_works also]
    refine (congrArg Prod.fst (run_process (World.start middle.shared _) _)).trans ?_
    simp [run_nil, step, stepParent, joined, World.start, worker, agent]
  have safe : Safe (confs party) ((reached.own party).on reached.shared) :=
    every _ _ reached (run_mem_states _ _) party
  have busy : ((reached.own party).on reached.shared).working ≠ [] := by
    rw [working]
    exact List.cons_ne_nil _ _
  have registered := safe busy name works.2
  change Registered reached.shared name _ at registered
  rw [left] at registered
  exact not_registered_unregister _ agent _ registered

end

/-- Whatever the order in which the agents of a fleet act, every agent with a worker at work is in
the list of all agents and in the set of its cluster: this is so exactly where none starts several
workers and no two of those that start one have the same name. -/
theorem visible_iff {ι : Type} [DecidableEq ι] (confs : ι → AgentConfig) (pids : ι → String)
    (nows : ι → Int) :
    (∀ rdb turns, ∀ reached ∈ states (Sharing.step act) (fleet confs pids nows rdb) turns,
        Visible confs reached) ↔
      (∀ party, (confs party).workers_n ≤ 1 ∨
        ∃ failure, Agent.name (confs party) = .error failure) ∧
      ∀ party other, party ≠ other → ∀ name, Works (confs party) name →
        ¬Works (confs other) name := by
  constructor
  · intro every
    exact ⟨few_of_visible pids nows every, fun _ _ => apart_of_visible pids nows every⟩
  · rintro ⟨few, apart⟩ rdb turns reached member party
    have sound := Sharing.states_of_stable act
      (fun party => Sound (confs party) (pids party) (nows party))
      (fun _ rdb process turn => sound_act rdb process turn)
      (fun party other different rdb process mover turn =>
        sound_other (apart party other different) rdb process mover turn)
      (fun party => sound_fleet rdb party (few party)) turns reached member party
    exact safe_of_sound sound

end LabFunctions.ControlPlane.AgentFleet
