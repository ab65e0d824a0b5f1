import LabFunctions.AgentRuns
import LabFunctions.IdleAgents
import LabFunctions.Library.Framing

/-!
The operations of `AgentRegister` that are given the names of queues, and the queues of rq that they
come to address.
-/

namespace LabFunctions.AgentRegister

open ControlPlane Effects

/-- The queues that were made and the workers that were told to shut down, in order. -/
structure Session where
  addressed : List String := []
  shutdowns : List String := []

/-- `Queue(name, connection=rdb)` -/
def queue (name : String) : Effect Exn Session Queue := act fun session =>
  (.ok ⟨name⟩, { session with addressed := session.addressed ++ [name] })

def send_shutdown_command (worker : String) : Effect Exn Session PUnit := act fun session =>
  (.ok ⟨⟩, { session with shutdowns := session.shutdowns ++ [worker] })

/-- `name.rsplit(".", maxsplit=1)[0]` -/
def rsplit (name : String) : String :=
  if '.' ∈ name.toList then String.ofList (name.toList.rdropWhile (· != '.')).dropLast else name

section

-- a set of Redis is listed in any order
variable (cluster : String) (rq : Rq) (rdb : Rdb) (listed : Finset String → List String) (now : Int)

def qname (qname : String) : String := cluster ++ "." ++ qname

def get_queue (q : String) : Effect Exn Session Queue := queue (qname cluster q)

def get_workers_from_q (q : String) : Effect Exn Session (List NBWorker) := do
  let q ← queue (qname cluster q)
  return rq.all q.name

def list_agents_by_queue (q : String) : Effect Exn Session (Finset String) := do
  let workers ← get_workers_from_q cluster rq (qname cluster q)
  return (workers.map fun w => rsplit w.name).toFinset

def idle_agents_from_cluster (from_cluster : String) (qnames : List String) :
    Effect Exn Session (List (String × ℚ)) := do
  let _qnames := qnames.map (qname cluster)
  let queues ← _qnames.mapM (get_queue cluster)
  let agents := listed (list_agents rdb (some from_cluster))
  lift (idle_agents rq now agents queues)

def kill_workers_from_queue (q : String) : Effect Exn Session PUnit := do
  let q ← queue (qname cluster q)
  let workers := rq.all q.name
  forM workers fun w => send_shutdown_command w.name

inductive Operation where
  | get_queue (q : String)
  | get_workers_from_q (q : String)
  | list_agents_by_queue (q : String)
  | idle_agents_from_cluster (from_cluster : String) (qnames : List String)
  | kill_workers_from_queue (q : String)

def Operation.given : Operation → List String
  | .get_queue q | .get_workers_from_q q => [q]
  | .list_agents_by_queue q | .kill_workers_from_queue q => [q]
  | .idle_agents_from_cluster _ qnames => qnames

def addressed : Operation → List String
  | .get_queue q => (Effects.run (get_queue cluster q) {}).2.addressed
  | .get_workers_from_q q => (Effects.run (get_workers_from_q cluster rq q) {}).2.addressed
  | .list_agents_by_queue q => (Effects.run (list_agents_by_queue cluster rq q) {}).2.addressed
  | .idle_agents_from_cluster from_cluster qnames =>
      (Effects.run (idle_agents_from_cluster cluster rq rdb listed now from_cluster qnames)
        {}).2.addressed
  | .kill_workers_from_queue q =>
      (Effects.run (kill_workers_from_queue cluster rq q) {}).2.addressed

end

/-- The agents with a worker on a queue. -/
def agentsOn (rq : Rq) (queue : String) : Set String :=
  {agent | ∃ w ∈ rq.workers, queue ∈ w.queues ∧ w.agent = agent}

/-- The cluster is put before the name once on the way to rq. -/
def Operation.Once : Operation → Prop
  | .get_queue _ | .get_workers_from_q _ | .kill_workers_from_queue _ => True
  | .list_agents_by_queue _ => False
  | .idle_agents_from_cluster _ qnames => qnames = []

/-! What each operation addresses. -/

theorem run_queue (name : String) (session : Session) :
    Effects.run (queue name) session =
      (.ok ⟨name⟩, { session with addressed := session.addressed ++ [name] }) := rfl

theorem run_get_workers_from_q (cluster : String) (rq : Rq) (q : String) (session : Session) :
    Effects.run (get_workers_from_q cluster rq q) session =
      (.ok (rq.all (qname cluster q)),
        { session with addressed := session.addressed ++ [qname cluster q] }) := by
  rw [get_workers_from_q, run_bind, run_queue]
  rfl

theorem run_list_agents_by_queue (cluster : String) (rq : Rq) (q : String) (session : Session) :
    Effects.run (list_agents_by_queue cluster rq q) session =
      (.ok ((rq.all (qname cluster (qname cluster q))).map fun w => rsplit w.name).toFinset,
        { session with
          addressed := session.addressed ++ [qname cluster (qname cluster q)] }) := by
  rw [list_agents_by_queue, run_bind, run_get_workers_from_q]
  rfl

theorem run_get_queues (cluster : String) (qnames : List String) (session : Session) :
    Effects.run (qnames.mapM (get_queue cluster)) session =
      (.ok (qnames.map fun q => ⟨qname cluster q⟩),
        { session with addressed := session.addressed ++ qnames.map (qname cluster) }) := by
  induction qnames generalizing session with
  | nil =>
      rw [List.map_nil, List.map_nil, List.append_nil]
      rfl
  | cons q rest ih =>
      rw [List.mapM_cons, run_bind, get_queue, run_queue]
      dsimp only
      rw [run_bind, ih]
      simp

theorem addressed_shutdowns (workers : List NBWorker) (session : Session) :
    (Effects.run (forM workers fun w => send_shutdown_command w.name) session).2.addressed =
      session.addressed := by
  induction workers generalizing session with
  | nil => rfl
  | cons w rest ih =>
      rw [List.forM_cons, run_bind]
      exact ih _

theorem addressed_eq (cluster : String) (rq : Rq) (rdb : Rdb)
    (listed : Finset String → List String) (now : Int) (operation : Operation) :
    addressed cluster rq rdb listed now operation =
      match operation with
      | .list_agents_by_queue q => [qname cluster (qname cluster q)]
      | .idle_agents_from_cluster _ qnames =>
          qnames.map fun q => qname cluster (qname cluster q)
      | _ => operation.given.map (qname cluster) := by
  cases operation with
  | get_queue q => rfl
  | get_workers_from_q q =>
      rw [addressed, run_get_workers_from_q]
      rfl
  | list_agents_by_queue q =>
      rw [addressed, run_list_agents_by_queue]
      rfl
  | idle_agents_from_cluster from_cluster qnames =>
      rw [addressed, idle_agents_from_cluster, run_bind, run_get_queues]
      simp [Function.comp_def]
  | kill_workers_from_queue q =>
      rw [addressed, kill_workers_from_queue, run_bind, run_queue]
      exact addressed_shutdowns _ _

theorem qname_twice_ne (cluster q : String) :
    qname cluster (qname cluster q) ≠ qname cluster q := by
  intro same
  have lengths := congrArg String.length same
  simp [qname] at lengths

/-! Whose workers are found. -/

/-- The name of a worker, split from the right, gives its agent, dots and all. -/
theorem rsplit_name (w : NBWorker) : rsplit w.name = w.agent := by
  have dotted : '.' ∈ w.name.toList := by simp [NBWorker.name]
  have pieces : w.name.toList = (w.agent.toList ++ ['.']) ++ (toString w.number).toList := by
    simp [NBWorker.name]
  have clean : '.' ∉ (toString w.number).toList := Words.not_mem_toString w.number
  have digits : ∀ character ∈ (toString w.number).toList, (character != '.') = true := by
    intro character member
    rw [bne_iff_ne]
    rintro rfl
    exact clean member
  rw [rsplit, if_pos dotted, pieces, Framing.rdropWhile_tail digits,
    List.rdropWhile_concat_neg _ _ _ (by decide), List.dropLast_concat, String.ofList_toList]

theorem list_agents_by_queue_eq (cluster : String) (rq : Rq) (q : String) :
    ∃ agents, (Effects.run (list_agents_by_queue cluster rq q) {}).1 = .ok agents ∧
      (agents : Set String) = agentsOn rq (qname cluster (qname cluster q)) := by
  refine ⟨_, by rw [run_list_agents_by_queue], ?_⟩
  ext agent
  simp only [rsplit_name, Finset.mem_coe, List.mem_toFinset, List.mem_map, rq.mem_all, and_assoc]
  rfl

theorem worker_listens (conf : AgentConfig) (name_i q : String) :
    qname conf.cluster q ∈ (worker conf name_i).queues ↔ q ∈ conf.qnames := by
  simp [worker, cluster_queues, qname]

/-- The workers of an agent listen to the names of its queues behind that of the cluster. An
operation addresses just those exactly where it puts the cluster before a name once; and
`list_agents_by_queue`, which puts it twice, is right exactly where the agents on the queue that it
finds so are those on the queue it was asked for. -/
theorem addresses_iff (cluster : String) (rq : Rq) (rdb : Rdb)
    (listed : Finset String → List String) (now : Int) :
    (∀ conf name_i q,
        conf.cluster ++ "." ++ q ∈ (worker conf name_i).queues ↔ q ∈ conf.qnames) ∧
      (∀ operation, addressed cluster rq rdb listed now operation =
        operation.given.map (fun q => cluster ++ "." ++ q) ↔ operation.Once) ∧
      ∀ q, (∃ agents, (Effects.run (list_agents_by_queue cluster rq q) {}).1 = .ok agents ∧
          (agents : Set String) = agentsOn rq (cluster ++ "." ++ q)) ↔
        agentsOn rq (cluster ++ "." ++ (cluster ++ "." ++ q)) =
          agentsOn rq (cluster ++ "." ++ q) := by
  refine ⟨worker_listens, ?_, ?_⟩
  · intro operation
    rw [addressed_eq]
    cases operation with
    | list_agents_by_queue q =>
        refine iff_of_false ?_ (fun once => once)
        intro same
        exact qname_twice_ne cluster q (List.cons.inj same).1
    | idle_agents_from_cluster from_cluster qnames =>
        constructor
        · intro same
          cases qnames with
          | nil => rfl
          | cons q rest => exact absurd (List.cons.inj same).1 (qname_twice_ne cluster q)
        · intro none
          rw [show qnames = [] from none]
          rfl
    | _ => exact iff_of_true rfl trivial
  · intro q
    obtain ⟨agents, returned, found⟩ := list_agents_by_queue_eq cluster rq q
    constructor
    · rintro ⟨others, also, right⟩
      obtain rfl : agents = others := Except.ok.inj (returned.symm.trans also)
      exact found.symm.trans right
    · exact fun same => ⟨agents, returned, found.trans same⟩

/-- An agent works on `default.cpu`, and is looked for on `default.default.cpu`. -/
theorem cluster_put_twice :
    addressed "default" Sample.rq KeySpace.empty (fun _ => []) 0 (.list_agents_by_queue "cpu") ≠
        ["default.cpu"] ∧
      ¬∃ agents, (Effects.run (list_agents_by_queue "default" Sample.rq "cpu") {}).1 = .ok agents ∧
        (agents : Set String) = agentsOn Sample.rq "default.cpu" := by
  refine ⟨by decide, ?_⟩
  rintro ⟨agents, returned, right⟩
  have none : (Effects.run (list_agents_by_queue "default" Sample.rq "cpu") {}).1 = .ok ∅ := rfl
  obtain rfl : ∅ = agents := Except.ok.inj (none.symm.trans returned)
  have missed : "gpu.a" ∈ agentsOn Sample.rq "default.cpu" :=
    ⟨ControlPlane.Sample.dotted, List.mem_singleton_self _, List.mem_singleton_self _, rfl⟩
  rw [← right] at missed
  exact absurd missed (by simp)

end LabFunctions.AgentRegister
