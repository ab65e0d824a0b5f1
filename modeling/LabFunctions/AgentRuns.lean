import LabFunctions.AgentDeploy
import LabFunctions.AgentRegisters

/-!
`labfunctions.control_plane.agent`: what the main process of an agent does in turn, beside the
workers that it starts.
-/

namespace LabFunctions.ControlPlane

/-- The arguments of `start_worker`. -/
structure WorkerCall where
  redis_dsn : String
  queues : List String
  ip_address : String
  name : String
  deriving DecidableEq

inductive Act where
  | heart_start
  | register (node : AgentNode)
  | submit (worker : WorkerCall)
  | start_worker (worker : WorkerCall)
  /-- What is left of `start_worker` once the worker works in the process of the agent. -/
  | join (worker : WorkerCall)
  | raise (failure : ClusterError)
  | unregister (node : AgentNode)
  | heart_unregister

def workers_names (name : String) (workers_n : Int) : List String :=
  (List.range workers_n.toNat).map fun x => name ++ "." ++ toString x

def cluster_queues (conf : AgentConfig) : List String :=
  conf.qnames.map fun q => conf.cluster ++ "." ++ q

def node (conf : AgentConfig) (name pid : String) (_now : Int) : AgentNode where
  ip_address := conf.ip_address
  name := name
  machine_id := some conf.machine_id
  cluster := conf.cluster
  pid := pid
  qnames := conf.qnames
  workers := workers_names name conf.workers_n
  birthday := _now

def worker (conf : AgentConfig) (name_i : String) : WorkerCall where
  redis_dsn := conf.redis_dsn
  queues := cluster_queues conf
  ip_address := conf.ip_address
  name := name_i

/-- The part of `run` that starts the workers. -/
def starts (conf : AgentConfig) (name : String) : List Act :=
  if conf.workers_n > 1 then
    (workers_names name conf.workers_n).map fun name_i => .submit (worker conf name_i)
  else
    match workers_names name conf.workers_n with
    | first :: _ => [.start_worker (worker conf first)]
    | [] => [.raise .indexError]

/-- What `run` does, one act after another. -/
def run (conf : AgentConfig) (pid : String) (_now : Int) : List Act :=
  match Agent.name conf with
  | .error failure => [.raise failure]
  | .ok name =>
      let node := node conf name pid _now
      [.heart_start, .register node] ++ starts conf name ++ [.unregister node, .heart_unregister]

structure World where
  rdb : AgentRegister.Rdb
  beating : Bool
  acts : List Act
  working : List WorkerCall

def World.start (rdb : AgentRegister.Rdb) (acts : List Act) : World where
  rdb := rdb
  beating := false
  acts := acts
  working := []

/-- Who moves next: the process of the agent, or a worker, which ends. -/
inductive Turn where
  | parent
  | ends (worker : String) (raised : Bool)

def stepParent (world : World) : World :=
  match world.acts with
  | [] => world
  | .heart_start :: rest => { world with beating := true, acts := rest }
  | .register node :: rest =>
      { world with rdb := AgentRegister.register world.rdb node, acts := rest }
  -- the executor gives the worker a process of its own, and nobody asks for the result
  | .submit worker :: rest => { world with working := worker :: world.working, acts := rest }
  | .start_worker worker :: rest =>
      { world with working := worker :: world.working, acts := .join worker :: rest }
  | .join _ :: _ => world
  | .raise _ :: _ => { world with acts := [] }
  | .unregister node :: rest =>
      { world with rdb := AgentRegister.unregister world.rdb node, acts := rest }
  | .heart_unregister :: rest => { world with beating := false, acts := rest }

/-- The end of a worker in the process of the agent lets `run` go on, or raises there. -/
def joined (name : String) (raised : Bool) : List Act → List Act
  | .join worker :: rest =>
      if worker.name = name then if raised then [] else rest else .join worker :: rest
  | acts => acts

def step (world : World) : Turn → World
  | .parent => stepParent world
  | .ends name raised =>
      { world with
        acts := joined name raised world.acts
        working := world.working.filter fun worker => worker.name ≠ name }

/-- The agent is in the list of all agents and in the set of its cluster. -/
def Registered (rdb : AgentRegister.Rdb) (name cluster : String) : Prop :=
  name ∈ AgentRegister.list_agents rdb ∧ name ∈ AgentRegister.members rdb cluster

/-- As long as a worker works, the agent is registered. -/
def Safe (conf : AgentConfig) (world : World) : Prop :=
  world.working ≠ [] → ∀ name, Agent.name conf = .ok name → Registered world.rdb name conf.cluster

/-- No worker works when the process comes to unregister the agent. -/
def Idle (world : World) (turn : Turn) : Prop :=
  turn = .parent → ∀ node rest, world.acts = .unregister node :: rest → world.working = []

open Runs in
/-- The agent is registered whenever a worker works, and unregistered once every worker has
ended. -/
structure Kept (conf : AgentConfig) (world : World) (turns : List Turn) : Prop where
  registered : ∀ reached ∈ states step world turns, Safe conf reached
  last : Along step Idle world turns

/-! Being registered. -/

theorem registered_register (rdb : AgentRegister.Rdb) (node : AgentNode) :
    Registered (AgentRegister.register rdb node) node.name node.cluster := by
  constructor
  · rw [AgentRegister.list_register]
    exact Finset.mem_insert_self ..
  · change node.name ∈ (AgentRegister.directory _).members node.cluster
    rw [AgentRegister.register_directory, Directory.mem_enroll]
    exact .inl ⟨rfl, rfl⟩

theorem not_registered_unregister (rdb : AgentRegister.Rdb) (node : AgentNode) (cluster : String) :
    ¬Registered (AgentRegister.unregister rdb node) node.name cluster := by
  rintro ⟨listed, _⟩
  rw [AgentRegister.list_unregister] at listed
  exact Finset.notMem_erase _ _ listed

/-! Where the process is. -/

/-- An act between the registration and the end of it. -/
def Act.Inner : Act → Prop
  | .submit _ | .start_worker _ | .join _ | .raise _ => True
  | _ => False

/-- An act that starts no worker and touches no register. -/
def Act.Outer : Act → Prop
  | .raise _ | .heart_unregister => True
  | _ => False

inductive Phase (agent : AgentNode) (world : World) : Prop where
  | starting (inner : List Act) (inside : ∀ act ∈ inner, act.Inner) (idle : world.working = [])
      (acts : world.acts =
        .heart_start :: .register agent :: (inner ++ [.unregister agent, .heart_unregister]))
  | registering (inner : List Act) (inside : ∀ act ∈ inner, act.Inner) (idle : world.working = [])
      (acts : world.acts = .register agent :: (inner ++ [.unregister agent, .heart_unregister]))
  | during (inner : List Act) (inside : ∀ act ∈ inner, act.Inner)
      (acts : world.acts = inner ++ [.unregister agent, .heart_unregister])
      (registered : Registered world.rdb agent.name agent.cluster)
  | after (outside : ∀ act ∈ world.acts, act.Outer)

/-- What `Safe` says of the agent that is registered. -/
def Guarded (agent : AgentNode) (world : World) : Prop :=
  world.working ≠ [] → Registered world.rdb agent.name agent.cluster

variable {agent : AgentNode} {world : World}

theorem phase_parent (phase : Phase agent world) : Phase agent (stepParent world) := by
  rw [stepParent]
  cases phase with
  | starting inner inside idle acts =>
      rw [acts]
      exact .registering inner inside idle rfl
  | registering inner inside idle acts =>
      rw [acts]
      exact .during inner inside rfl (registered_register world.rdb agent)
  | during inner inside acts registered =>
      rw [acts]
      cases inner with
      | nil => exact .after (by simp [Act.Outer])
      | cons act rest =>
          rw [List.forall_mem_cons] at inside
          cases act with
          | submit worker => exact .during rest inside.2 rfl registered
          | start_worker worker =>
              refine .during (.join worker :: rest) ?_ rfl registered
              exact List.forall_mem_cons.mpr ⟨trivial, inside.2⟩
          | join worker =>
              refine .during (.join worker :: rest) ?_ acts registered
              exact List.forall_mem_cons.mpr inside
          | raise failure => exact .after (by simp)
          | _ => exact inside.1.elim
  | after outside =>
      cases acts : world.acts with
      | nil => exact .after outside
      | cons act rest =>
          rw [acts, List.forall_mem_cons] at outside
          cases act with
          | raise failure => exact .after (by simp)
          | heart_unregister => exact .after outside.2
          | _ => exact outside.1.elim

/-- The end of a worker moves the process only where it waits for that worker. -/
theorem joined_cases (name : String) (raised : Bool) (acts : List Act) :
    joined name raised acts = acts ∨ joined name raised acts = [] ∨
      ∃ worker, acts = .join worker :: joined name raised acts := by
  unfold joined
  split
  · rename_i worker rest
    split
    · cases raised with
      | true => exact .inr (.inl rfl)
      | false => exact .inr (.inr ⟨worker, rfl⟩)
    · exact .inl rfl
  · exact .inl rfl

theorem phase_ends (phase : Phase agent world) (name : String) (raised : Bool) :
    Phase agent (step world (.ends name raised)) := by
  have filtered : world.working = [] → (step world (.ends name raised)).working = [] := by
    intro idle
    rw [step, idle]
    rfl
  rcases joined_cases name raised world.acts with same | ended | ⟨worker, waits⟩
  · cases phase with
    | starting inner inside idle acts =>
        exact .starting inner inside (filtered idle) (same.trans acts)
    | registering inner inside idle acts =>
        exact .registering inner inside (filtered idle) (same.trans acts)
    | during inner inside acts registered =>
        exact .during inner inside (same.trans acts) registered
    | after outside =>
        refine .after ?_
        rw [step, same]
        exact outside
  · refine .after ?_
    rw [step, ended]
    simp
  · cases phase with
    | starting inner inside idle acts => cases acts.symm.trans waits
    | registering inner inside idle acts => cases acts.symm.trans waits
    | during inner inside acts registered =>
        cases inner with
        | nil => cases acts.symm.trans waits
        | cons act rest =>
            rw [List.forall_mem_cons] at inside
            exact .during rest inside.2 (List.cons.inj (waits.symm.trans acts)).2 registered
    | after outside =>
        rw [waits, List.forall_mem_cons] at outside
        exact outside.1.elim

theorem phase_step (turn : Turn) (phase : Phase agent world) : Phase agent (step world turn) := by
  cases turn with
  | parent => exact phase_parent phase
  | ends name raised => exact phase_ends phase name raised

/-- The step lemma: the agent stays registered under its workers exactly where the process does not
pass on to unregister it while one works. -/
theorem guarded_step_iff (turn : Turn) (phase : Phase agent world) (guarded : Guarded agent world) :
    Guarded agent (step world turn) ↔ Idle world turn := by
  cases turn with
  | ends name raised =>
      refine iff_of_true ?_ (fun parent => nomatch parent)
      intro working
      apply guarded
      intro idle
      rw [step, idle] at working
      exact working rfl
  | parent =>
      rw [step, stepParent, Idle]
      cases phase with
      | starting inner inside idle acts =>
          rw [acts]
          exact iff_of_true guarded (by simp)
      | registering inner inside idle acts =>
          rw [acts]
          exact iff_of_true (fun working => absurd idle working) (by simp)
      | during inner inside acts registered =>
          rw [acts]
          cases inner with
          | nil =>
              rw [List.nil_append]
              constructor
              · intro later _ other rest _
                by_contra working
                exact not_registered_unregister world.rdb agent agent.cluster (later working)
              · intro idle working
                exact absurd (idle rfl agent _ rfl) working
          | cons act rest =>
              rw [List.forall_mem_cons] at inside
              cases act with
              | submit worker => exact iff_of_true (fun _ => registered) (by simp)
              | start_worker worker => exact iff_of_true (fun _ => registered) (by simp)
              | join worker => exact iff_of_true guarded (by simp)
              | raise failure => exact iff_of_true guarded (by simp)
              | _ => exact inside.1.elim
      | after outside =>
          cases acts : world.acts with
          | nil => exact iff_of_true guarded (by simp)
          | cons act rest =>
              rw [acts, List.forall_mem_cons] at outside
              cases act with
              | raise failure => exact iff_of_true guarded (by simp)
              | heart_unregister => exact iff_of_true guarded (by simp)
              | _ => exact outside.1.elim

/-! One worker, in the process of the agent. -/

def Act.Submits : Act → Prop
  | .submit _ => True
  | _ => False

/-- While a worker works the process waits for it. -/
structure Alone (world : World) : Prop where
  none : ∀ act ∈ world.acts, ¬act.Submits
  waits : world.working = [] ∨
    ∃ worker rest, world.acts = .join worker :: rest ∧ world.working = [worker]

theorem mem_of_mem_joined {name : String} {raised : Bool} {acts : List Act} {act : Act}
    (member : act ∈ joined name raised acts) : act ∈ acts := by
  rcases joined_cases name raised acts with same | ended | ⟨worker, waits⟩
  · rwa [same] at member
  · rw [ended] at member
    cases member
  · rw [waits]
    exact List.mem_cons_of_mem _ member

theorem alone_ends (alone : Alone world) (name : String) (raised : Bool) :
    Alone (step world (.ends name raised)) := by
  refine ⟨fun act member => alone.none act (mem_of_mem_joined member), ?_⟩
  rw [step]
  rcases alone.waits with idle | ⟨worker, rest, acts, working⟩
  · rw [idle]
    exact .inl rfl
  · rw [acts, working]
    by_cases own : worker.name = name
    · exact .inl (by simp [own])
    · refine .inr ⟨worker, rest, if_neg own, ?_⟩
      simp [own]

theorem alone_parent (alone : Alone world) : Alone (stepParent world) := by
  obtain ⟨none, waits⟩ := alone
  rw [stepParent]
  cases acts : world.acts with
  | nil => exact ⟨none, waits⟩
  | cons act rest =>
      rw [acts, List.forall_mem_cons] at none
      rw [acts] at waits
      cases act with
      | join worker => exact ⟨by rw [acts]; exact List.forall_mem_cons.mpr none, by rwa [acts]⟩
      | submit worker => exact absurd trivial none.1
      | start_worker worker =>
          have idle : world.working = [] := by simpa using waits
          refine ⟨List.forall_mem_cons.mpr ⟨fun submits => submits.elim, none.2⟩, .inr ?_⟩
          exact ⟨worker, rest, rfl, by rw [idle]⟩
      | raise failure => exact ⟨by simp, .inl (by simpa using waits)⟩
      | _ => exact ⟨none.2, .inl (by simpa using waits)⟩

theorem alone_start (rdb : AgentRegister.Rdb) {acts : List Act}
    (none : ∀ act ∈ acts, ¬act.Submits) : Alone (World.start rdb acts) := ⟨none, .inl rfl⟩

theorem alone_step (turn : Turn) (alone : Alone world) : Alone (step world turn) := by
  cases turn with
  | parent => exact alone_parent alone
  | ends name raised => exact alone_ends alone name raised

theorem idle_of_alone (turn : Turn) (alone : Alone world) : Idle world turn := by
  intro _ node rest acts
  rcases alone.waits with idle | ⟨worker, others, waits, _⟩
  · exact idle
  · cases acts.symm.trans waits

open Runs in
theorem along_of_alone (alone : Alone world) (turns : List Turn) : Along step Idle world turns :=
  along_kept (fun _ turn alone => alone_step turn alone) (fun _ turn alone => idle_of_alone turn alone)
    alone turns

/-! Several workers, each in a process of its own. -/

theorem run_submits (workers : List WorkerCall) (rest : List Act) (rdb : AgentRegister.Rdb)
    (beating : Bool) (working : List WorkerCall) :
    Runs.run step ⟨rdb, beating, workers.map .submit ++ rest, working⟩
        (List.replicate workers.length .parent) =
      ⟨rdb, beating, rest, workers.reverse ++ working⟩ := by
  induction workers generalizing working with
  | nil => rfl
  | cons worker others ih =>
      rw [List.length_cons, List.replicate_succ, Runs.run_cons, List.reverse_cons,
        List.append_assoc]
      exact ih (worker :: working)

section

variable (conf : AgentConfig) (pid : String) (_now : Int) (rdb : AgentRegister.Rdb)

def begun : World := World.start rdb (run conf pid _now)

variable {conf} {name : String}

theorem starts_inner : ∀ act ∈ starts conf name, act.Inner := by
  intro act member
  rw [starts] at member
  split at member
  · obtain ⟨name_i, _, rfl⟩ := List.mem_map.mp member
    trivial
  · split at member
    · rw [List.mem_singleton.mp member]
      trivial
    · rw [List.mem_singleton.mp member]
      trivial

theorem run_of_ok (named : Agent.name conf = .ok name) :
    run conf pid _now = .heart_start :: .register (node conf name pid _now) ::
      (starts conf name ++ [.unregister (node conf name pid _now), .heart_unregister]) := by
  rw [run, named]
  simp

theorem run_of_error {failure : ClusterError} (named : Agent.name conf = .error failure) :
    run conf pid _now = [.raise failure] := by
  rw [run, named]

theorem safe_iff_guarded (pid : String) (_now : Int) (named : Agent.name conf = .ok name)
    (world : World) :
    Safe conf world ↔ Guarded (node conf name pid _now) world := by
  constructor
  · exact fun safe working => safe working name named
  · intro guarded working other same
    obtain rfl : name = other := Except.ok.inj (named.symm.trans same)
    exact guarded working

open Runs in
/-- The run lemma: registered under every worker in exactly the runs that never unregister the
agent over one. -/
theorem safe_iff_idle (turns : List Turn) :
    (∀ reached ∈ states step (begun conf pid _now rdb) turns, Safe conf reached) ↔
      Along step Idle (begun conf pid _now rdb) turns := by
  cases named : Agent.name conf with
  | error failure =>
      have alone : Alone (begun conf pid _now rdb) :=
        alone_start rdb (by simp [run_of_error pid _now named, Act.Submits])
      refine iff_of_true ?_ (along_of_alone alone turns)
      intro reached _ _ name found
      cases named.symm.trans found
  | ok name =>
      let agent := node conf name pid _now
      have initial : Phase agent (begun conf pid _now rdb) ∧
          Guarded agent (begun conf pid _now rdb) := by
        refine ⟨.starting (starts conf name) starts_inner rfl ?_, fun working => absurd rfl working⟩
        exact run_of_ok pid _now named
      have exact_step : ∀ world turn, Phase agent world ∧ Guarded agent world →
          (Phase agent (step world turn) ∧ Guarded agent (step world turn) ↔ Idle world turn) := by
        rintro world turn ⟨phase, guarded⟩
        rw [guarded_step_iff turn phase guarded]
        exact and_iff_right (phase_step turn phase)
      rw [← states_iff_along exact_step initial]
      refine states_iff_invariant ?_ ?_ initial
      · exact fun world kept => (safe_iff_guarded pid _now named world).mpr kept.2
      · intro world turn kept safe
        exact ⟨phase_step turn kept.1, (safe_iff_guarded pid _now named _).mp safe⟩

/-- With at most one worker nothing is handed to the executor. -/
theorem run_alone (few : conf.workers_n ≤ 1 ∨ ∃ failure, Agent.name conf = .error failure) :
    ∀ act ∈ run conf pid _now, ¬act.Submits := by
  cases named : Agent.name conf with
  | error failure => simp [run_of_error pid _now named, Act.Submits]
  | ok name =>
      have one : ¬conf.workers_n > 1 := by
        rcases few with few | ⟨failure, failed⟩
        · exact not_lt.mpr few
        · cases named.symm.trans failed
      rw [run_of_ok pid _now named, starts, if_neg one]
      split <;> simp [Act.Submits]

theorem length_workers_names (name : String) (workers_n : Int) :
    (workers_names name workers_n).length = workers_n.toNat := by
  rw [workers_names, List.length_map, List.length_range]

open Runs in
/-- The process on its own, before any of several workers ends, comes to unregister the agent. -/
theorem submits_overtake (several : conf.workers_n > 1) (named : Agent.name conf = .ok name) :
    ∃ turns, ¬Along step Idle (begun conf pid _now rdb) turns := by
  let workers := (workers_names name conf.workers_n).map (worker conf)
  let agent := node conf name pid _now
  refine ⟨.parent :: .parent :: (List.replicate workers.length .parent ++ [.parent]), ?_⟩
  rw [along_cons, along_cons, along_append]
  rintro ⟨_, _, _, idle, _⟩
  have script : run conf pid _now = .heart_start :: .register agent ::
      (workers.map .submit ++ [.unregister agent, .heart_unregister]) := by
    rw [run_of_ok pid _now named, starts, if_pos several, List.map_map]
    rfl
  have second : step (step (begun conf pid _now rdb) .parent) .parent =
      ⟨AgentRegister.register rdb agent, true,
        workers.map .submit ++ [.unregister agent, .heart_unregister], []⟩ := by
    rw [begun, script]
    rfl
  rw [second, run_submits] at idle
  have none : workers.reverse ++ [] = [] := idle rfl agent _ rfl
  have count : workers.length = conf.workers_n.toNat := by
    rw [List.length_map, length_workers_names]
  have length := congrArg List.length none
  rw [List.append_nil, List.length_reverse, List.length_nil, count] at length
  omega

end

open Runs in
/-- In every run the agent is registered as long as a worker works exactly where the process does
not come to unregister it over one, and that holds of all runs exactly with one worker at most, or
where there is no name for the agent and the run ends at once. -/
theorem registered_until_ended_iff (conf : AgentConfig) (pid : String) (_now : Int) :
    (∀ rdb turns, (∀ reached ∈ states step (begun conf pid _now rdb) turns, Safe conf reached) ↔
        Along step Idle (begun conf pid _now rdb) turns) ∧
      ((∀ rdb turns, Kept conf (begun conf pid _now rdb) turns) ↔
        conf.workers_n ≤ 1 ∨ ∃ failure, Agent.name conf = .error failure) := by
  refine ⟨fun rdb turns => safe_iff_idle pid _now rdb turns, ?_, ?_⟩
  · intro every
    by_contra many
    rw [not_or, not_le] at many
    cases named : Agent.name conf with
    | error failure => exact many.2 ⟨failure, named⟩
    | ok name =>
        obtain ⟨turns, overtaken⟩ := submits_overtake pid _now KeySpace.empty many.1 named
        exact overtaken (every KeySpace.empty turns).last
  · intro few rdb turns
    have idle := along_of_alone (alone_start rdb (run_alone pid _now few)) turns
    exact ⟨(safe_iff_idle pid _now rdb turns).mpr idle, idle⟩

namespace Sample

def conf (workers_n : Int) : AgentConfig where
  redis_dsn := "redis://localhost:6379/0"
  cluster := "default"
  qnames := ["cpu"]
  ip_address := "10.0.0.1"
  machine_id := "localhost/ba/host"
  heartbeat_ttl := 15
  heartbeat_check_every := 10
  agent_name := some "agt"
  workers_n := workers_n

/-- The heartbeat, the registration, two workers, and the end of the registration. -/
def turns : List Turn := List.replicate 5 .parent

end Sample

open Runs in
/-- Two workers work on while their agent is gone from the register. -/
theorem workers_outlive_registration :
    ¬∀ reached ∈ states step (begun (Sample.conf 2) "7" 0 KeySpace.empty) Sample.turns,
      Safe (Sample.conf 2) reached := by
  intro every
  let reached := Runs.run step (begun (Sample.conf 2) "7" 0 KeySpace.empty) Sample.turns
  have safe : Safe (Sample.conf 2) reached := every reached (run_mem_states _ _)
  have working : reached.working.length = 2 := by decide
  have busy : reached.working ≠ [] := by
    intro idle
    rw [idle] at working
    cases working
  exact not_registered_unregister _ (node (Sample.conf 2) "agt" "7" 0) _ (safe busy "agt" rfl)

end LabFunctions.ControlPlane
