import LabFunctions.AgentQueues

/-!
`AgentRegister.kill_workers_from_agent`: whose workers are told to shut down, after the agents have
registered and gone in any order.
-/

namespace LabFunctions.AgentRegister

open ControlPlane Effects

def kill_workers_from_agent (rdb : Rdb) (agent_name : String) : Effect Exn Session Bool :=
  match get rdb agent_name with
  | some node => do
      forM node.workers send_shutdown_command
      return true
  -- an agent that is gone has no `workers`, and the exception of that is caught
  | none => return false

/-- The agent that a request is about. -/
def Request.agent : Request → String
  | .register node => node.name
  | .unregister node => node.name
  | .remove agent => agent

def Request.node : Request → Option AgentNode
  | .register node => some node
  | _ => none

/-- The registration that still counts: nothing was asked about the agent since. -/
def Standing (requests : List Request) (node : AgentNode) : Prop :=
  ∃ front back, requests = front ++ .register node :: back ∧
    ∀ request ∈ back, request.agent ≠ node.name

/-- A node as the process of an agent registers it. -/
def Launched (node : AgentNode) : Prop :=
  ∃ conf pid _now, Agent.name conf = .ok node.name ∧ node = ControlPlane.node conf node.name pid _now

/-! The entry of one agent as a register. -/

def written (name : String) (request : Request) : Option (Option AgentNode) :=
  if request.agent = name then some request.node else none

theorem get_step (name : String) (rdb : Rdb) (request : Request) :
    get (step rdb request) name = (written name request).getD (get rdb name) := by
  rw [written]
  cases request with
  | register node =>
      rw [step, get_register]
      by_cases own : node.name = name
      · simp [Request.agent, Request.node, own]
      · simp [Request.agent, own, Ne.symm own]
  | unregister node =>
      rw [step, get_unregister]
      by_cases own : node.name = name
      · simp [Request.agent, Request.node, own]
      · simp [Request.agent, own, Ne.symm own]
  | remove agent =>
      rw [step, get_remove]
      by_cases own : agent = name
      · simp [Request.agent, Request.node, own]
      · simp [Request.agent, own, Ne.symm own]

theorem along_silent (name : String) (rdb : Rdb) (requests : List Request) :
    Runs.Along step (fun _ request => written name request = none) rdb requests ↔
      ∀ request ∈ requests, request.agent ≠ name := by
  induction requests generalizing rdb with
  | nil => simp
  | cons request rest ih =>
      rw [Runs.along_cons, ih, List.forall_mem_cons, written]
      simp

theorem get_run_iff (requests : List Request) (name : String) (node : AgentNode) :
    get (Runs.run step KeySpace.empty requests) name = some node ↔
      node.name = name ∧ Standing requests node := by
  have register := Runs.run_register_iff (get · name) (get_step name) KeySpace.empty requests
    (some node)
  rw [register]
  simp only [along_silent]
  constructor
  · rintro (⟨front, request, back, rfl, wrote, silent⟩ | ⟨_, before⟩)
    · rw [written] at wrote
      split at wrote
      · rename_i own
        cases request with
        | register registered =>
            obtain rfl : registered = node := Option.some.inj (Option.some.inj wrote)
            change registered.name = name at own
            subst own
            exact ⟨rfl, front, back, rfl, silent⟩
        | unregister gone => cases Option.some.inj wrote
        | remove agent => cases Option.some.inj wrote
      · cases wrote
    · cases before
  · rintro ⟨rfl, front, back, split, silent⟩
    exact .inl ⟨front, .register node, back, split, if_pos rfl, silent⟩

/-! The names of workers. -/

theorem worker_name_inj {w : NBWorker} {name : String} {number : Nat}
    (same : w.name = name ++ "." ++ toString number) : w.agent = name ∧ w.number = number := by
  have texts : w.agent.toList ++ '.' :: (toString w.number).toList =
      name.toList ++ '.' :: (toString number).toList := by
    simpa [NBWorker.name] using congrArg String.toList same
  obtain ⟨agents, numbers⟩ := Words.cut_inj (Words.not_mem_toString w.number)
    (Words.not_mem_toString number) texts
  refine ⟨String.toList_inj.mp agents, ?_⟩
  have digits : Nat.toDigits 10 w.number = Nat.toDigits 10 number := by
    simpa only [Nat.toString_eq_repr, Nat.toList_repr] using numbers
  calc
    w.number = Nat.ofDigitChars 10 (Nat.toDigits 10 w.number) 0 := Nat.ofDigitChars_ten_toDigits.symm
    _ = Nat.ofDigitChars 10 (Nat.toDigits 10 number) 0 := by rw [digits]
    _ = number := Nat.ofDigitChars_ten_toDigits

theorem mem_workers_names {w : NBWorker} {name : String} {workers_n : Int} :
    w.name ∈ workers_names name workers_n ↔ w.agent = name ∧ w.number < workers_n := by
  rw [workers_names, List.mem_map]
  constructor
  · rintro ⟨number, below, same⟩
    obtain ⟨agent, rfl⟩ := worker_name_inj same.symm
    exact ⟨agent, by rw [List.mem_range] at below; omega⟩
  · rintro ⟨rfl, below⟩
    exact ⟨w.number, by rw [List.mem_range]; omega, rfl⟩

theorem run_shutdowns (workers : List String) (session : Session) :
    Effects.run (forM workers send_shutdown_command) session =
      (.ok ⟨⟩, { session with shutdowns := session.shutdowns ++ workers }) := by
  induction workers generalizing session with
  | nil =>
      rw [List.append_nil]
      rfl
  | cons worker rest ih =>
      rw [List.forM_cons, run_bind]
      refine (ih _).trans ?_
      simp [List.append_assoc]

theorem run_kill_workers_from_agent (rdb : Rdb) (agent_name : String) (session : Session) :
    Effects.run (kill_workers_from_agent rdb agent_name) session =
      match get rdb agent_name with
      | some node => (.ok true, { session with shutdowns := session.shutdowns ++ node.workers })
      | none => (.ok false, session) := by
  rw [kill_workers_from_agent]
  cases get rdb agent_name with
  | none => rfl
  | some node =>
      dsimp only
      rw [run_bind, run_shutdowns]
      rfl

/-- After any registrations by agents that started, and any requests that took some away, the call
tells just those workers to shut down that the last standing registration of the agent has started,
and no worker of another agent, whatever dots the names have; it says so exactly where there is such
a registration. -/
theorem shut_down_iff (requests : List Request)
    (launched : ∀ node, .register node ∈ requests → Launched node) (agent_name : String) :
    ∃ answer sent,
      Effects.run (kill_workers_from_agent (Runs.run step KeySpace.empty requests) agent_name) {} =
        (.ok answer, { shutdowns := sent }) ∧
      (answer = true ↔ ∃ node, node.name = agent_name ∧ Standing requests node) ∧
      ∀ w : NBWorker, w.name ∈ sent ↔ w.agent = agent_name ∧ ∃ conf pid _now,
        Standing requests (node conf agent_name pid _now) ∧ w.number < conf.workers_n := by
  rw [run_kill_workers_from_agent]
  cases held : get (Runs.run step KeySpace.empty requests) agent_name with
  | none =>
      have gone : ∀ node, node.name = agent_name → ¬Standing requests node := by
        intro node named standing
        rw [(get_run_iff requests agent_name node).mpr ⟨named, standing⟩] at held
        cases held
      refine ⟨false, [], rfl, by simpa using gone, ?_⟩
      intro w
      refine iff_of_false List.not_mem_nil ?_
      rintro ⟨_, conf, pid, _now, standing, _⟩
      exact gone _ rfl standing
  | some held_node =>
      obtain ⟨named, standing⟩ := (get_run_iff requests agent_name held_node).mp held
      refine ⟨true, held_node.workers, rfl, iff_of_true rfl ⟨held_node, named, standing⟩, ?_⟩
      obtain ⟨front, back, split, _⟩ := standing
      obtain ⟨conf, pid, _now, _, started⟩ := launched held_node (by simp [split])
      rw [named] at started
      intro w
      have workers : held_node.workers = workers_names agent_name conf.workers_n := by
        rw [started]
        rfl
      rw [workers, mem_workers_names]
      refine and_congr_right fun _ => ?_
      constructor
      · intro below
        refine ⟨conf, pid, _now, ?_, below⟩
        rw [← started]
        exact ((get_run_iff requests agent_name held_node).mp held).2
      · rintro ⟨other, its, then_, also, below⟩
        have same := (get_run_iff requests agent_name _).mpr ⟨rfl, also⟩
        obtain same := Option.some.inj (held.symm.trans same)
        have counts := congrArg (fun node => node.workers.length) (started.symm.trans same)
        change (workers_names _ _).length = (workers_names _ _).length at counts
        rw [length_workers_names, length_workers_names] at counts
        omega

/-- The second worker of the agent is told to shut down, and not the first of `agt.0`. -/
theorem agt_shut_down :
    ∃ answer sent,
      Effects.run (kill_workers_from_agent (Runs.run step KeySpace.empty
        [.register (node (ControlPlane.Sample.conf 2) "agt" "7" 0)]) "agt") {} =
          (.ok answer, { shutdowns := sent }) ∧
        answer = true ∧ "agt.1" ∈ sent ∧ "agt.0.0" ∉ sent := by
  let requests : List Request := [.register (node (ControlPlane.Sample.conf 2) "agt" "7" 0)]
  have launched : ∀ node, .register node ∈ requests → Launched node := by
    intro node member
    obtain rfl := Request.register.inj (List.mem_singleton.mp member)
    exact ⟨ControlPlane.Sample.conf 2, "7", 0, rfl, rfl⟩
  have standing : Standing requests (node (ControlPlane.Sample.conf 2) "agt" "7" 0) :=
    ⟨[], [], rfl, by simp⟩
  obtain ⟨answer, sent, ran, told, workers⟩ := shut_down_iff requests launched "agt"
  refine ⟨answer, sent, ran, told.mpr ⟨_, rfl, standing⟩, ?_, ?_⟩
  · exact (workers ⟨"agt", 1, [], 0, 0⟩).mpr ⟨rfl, _, _, _, standing, by decide⟩
  · intro member
    exact absurd ((workers ⟨"agt.0", 0, [], 0, 0⟩).mp member).1 (by decide)

end LabFunctions.AgentRegister
