import LabFunctions.AgentDeploy
import LabFunctions.Control
import LabFunctions.Library.Runs

/-!
The way of a notebook from `SchedulerExec` to an agent: the queue it is put on, and the agents that
listen to that queue.
-/

namespace LabFunctions.QueueRouting

open Runs Words

variable {ι : Type}

/-- The jobs that wait, and what was put on the queues and taken from them, in order. -/
structure World (ι : Type) where
  queues : List QueueEntry := []
  enqueued : List QueueEntry := []
  taken : List (ι × QueueEntry) := []

/-- A notebook is enqueued, alone or as that of a workflow, or an agent takes the first job of a
queue. -/
inductive Turn (ι : Type) where
  | notebook (env : Env) (db : Database) (projectid : String) (task : NBTask) (pre : Option String)
  | workflow (env : Env) (db : Database) (projectid wfid : String)
  | take (party : ι) (queue : String)

def enqueue (world : World ι) (entries : List QueueEntry) : World ι :=
  { world with
    queues := world.queues ++ entries
    enqueued := world.enqueued ++ entries }

section

variable (workers : ι → AsyncWorker)

def take (world : World ι) (party : ι) (queue : String) : World ι :=
  if queue ∈ (workers party).listens then
    match world.queues.find? (·.queue == queue) with
    | some entry =>
        { world with
          queues := world.queues.eraseP (·.queue == queue)
          taken := world.taken ++ [(party, entry)] }
    | none => world
  else world

def step (world : World ι) : Turn ι → World ι
  | .notebook env db projectid task pre =>
      enqueue world (SchedulerExec.enqueue_notebook env db [] projectid task pre).2
  | .workflow env db projectid wfid =>
      match SchedulerExec.enqueue_workflow env db [] projectid wfid with
      | .ok (_, entries) => enqueue world entries
      | .error _ => world
  | .take party queue => take workers world party queue

end

/-- A name that stays one piece in the name of a queue and in a list of queues. -/
def Plain (name : String) : Prop := '.' ∉ name.toList ∧ ',' ∉ name.toList

instance (name : String) : Decidable (Plain name) := inferInstanceAs (Decidable (_ ∧ _))

structure Clean (conf : AgentConfig) : Prop where
  cluster : Plain conf.cluster
  qnames : ∀ q ∈ conf.qnames, Plain q

/-! Who listens. -/

theorem listens_of_run {conf : AgentConfig} {worker : AsyncWorker}
    (started : Agent.run conf = .ok worker) :
    worker.listens = split ',' (join ',' (conf.qnames.map fun q => conf.cluster ++ "." ++ q)) := by
  rw [Agent.run] at started
  cases named : Agent.name conf with
  | error failure =>
      rw [named] at started
      cases started
  | ok name =>
      rw [named] at started
      rw [← Except.ok.inj started]
      rfl

theorem listens_iff {conf : AgentConfig} {worker : AsyncWorker} (clean : Clean conf)
    (started : Agent.run conf = .ok worker) (cluster machine : String) :
    cluster ++ "." ++ machine ∈ worker.listens ↔
      cluster = conf.cluster ∧ machine ∈ conf.qnames := by
  rw [listens_of_run started]
  cases names : conf.qnames with
  | nil =>
      refine iff_of_false ?_ (fun both => nomatch both.2)
      intro member
      have whole : cluster ++ "." ++ machine = "" := List.mem_singleton.mp member
      have length := congrArg String.length whole
      simp at length
  | cons first rest =>
      rw [← names, split_join (by simp [names]), List.mem_map]
      · constructor
        · rintro ⟨q, listed, same⟩
          have texts : cluster.toList ++ '.' :: machine.toList =
              conf.cluster.toList ++ '.' :: q.toList := by
            simpa using congrArg String.toList same.symm
          have dots := congrArg (List.count '.') texts
          rw [List.count_append, List.count_append, List.count_cons_self, List.count_cons_self,
            List.count_eq_zero_of_not_mem clean.cluster.1,
            List.count_eq_zero_of_not_mem (clean.qnames q listed).1] at dots
          have alone : '.' ∉ cluster.toList := List.count_eq_zero.mp (by omega)
          obtain ⟨clusters, machines⟩ := cut_first_inj alone clean.cluster.1 texts
          exact ⟨String.toList_inj.mp clusters, String.toList_inj.mp machines ▸ listed⟩
        · rintro ⟨rfl, listed⟩
          exact ⟨machine, listed, rfl⟩
      · intro queue member
        obtain ⟨q, listed, rfl⟩ := List.mem_map.mp member
        simp [clean.cluster.2, (clean.qnames q listed).2]

/-! What is put on a queue. -/

def Addressed (entry : QueueEntry) : Prop :=
  entry.queue = entry.data.cluster ++ "." ++ entry.data.machine

theorem addressed_notebook (env : Env) (db : Database) (projectid : String) (task : NBTask)
    (pre : Option String) :
    ∀ entry ∈ (SchedulerExec.enqueue_notebook env db [] projectid task pre).2, Addressed entry := by
  intro entry member
  rw [List.mem_singleton.mp member]
  rfl

theorem addressed_workflow {env : Env} {db : Database} {projectid wfid : String}
    {ctx : Option ExecutionNBTask} {entries : List QueueEntry}
    (enqueued : SchedulerExec.enqueue_workflow env db [] projectid wfid = .ok (ctx, entries)) :
    ∀ entry ∈ entries, Addressed entry := by
  intro entry member
  rcases SchedulerExec.enqueue_workflow_ok enqueued with ⟨_, rfl⟩ | ⟨wd, _, _, _, rfl⟩
  · cases member
  · rw [List.mem_singleton.mp member]
    rfl

/-! Every job waits, or one agent has taken it in its turn. -/

def on (queue : String) (entries : List QueueEntry) : List QueueEntry :=
  entries.filter (·.queue == queue)

variable {workers : ι → AsyncWorker}

variable (workers) in
structure Sound (world : World ι) : Prop where
  addressed : ∀ entry ∈ world.queues, Addressed entry
  accounted : ∀ queue, on queue (world.taken.map Prod.snd) ++ on queue world.queues =
    on queue world.enqueued
  taken : ∀ job ∈ world.taken, Addressed job.2 ∧ job.2.queue ∈ (workers job.1).listens

theorem sound_enqueue {world : World ι} (sound : Sound workers world) {entries : List QueueEntry}
    (addressed : ∀ entry ∈ entries, Addressed entry) : Sound workers (enqueue world entries) := by
  refine ⟨?_, ?_, sound.taken⟩
  · intro entry member
    exact (List.mem_append.mp member).elim (sound.addressed entry) (addressed entry)
  · intro queue
    have before := sound.accounted queue
    simp only [on, enqueue, List.filter_append, ← List.append_assoc] at before ⊢
    rw [before]

/-- The first job of a queue is the head of what waits there, and taking it touches no other. -/
theorem on_eraseP {queue : String} {entry : QueueEntry} {entries : List QueueEntry}
    (found : entries.find? (·.queue == queue) = some entry) (other : String) :
    on other entries =
      (if entry.queue = other then [entry] else []) ++ on other (entries.eraseP (·.queue == queue)) := by
  induction entries with
  | nil => cases found
  | cons first rest ih =>
      by_cases own : first.queue = queue
      · rw [List.find?_cons_of_pos (by simp [own])] at found
        obtain rfl := Option.some.inj found
        rw [List.eraseP_cons_of_pos (by simp [own]), on, List.filter_cons]
        by_cases same : first.queue = other <;> simp [same, on]
      · rw [List.find?_cons_of_neg (by simp [own])] at found
        rw [List.eraseP_cons_of_neg (by simp [own]), on, on, List.filter_cons, List.filter_cons]
        have apart : entry.queue = queue := by simpa using List.find?_some found
        have later := ih found
        rw [on, on] at later
        by_cases same : first.queue = other
        · have different : entry.queue ≠ other := by
            rw [apart, ← same]
            exact Ne.symm own
          simp [same, later, different]
        · simp [same, later]

theorem sound_take {world : World ι} (sound : Sound workers world) (party : ι) (queue : String) :
    Sound workers (take workers world party queue) := by
  rw [take]
  split
  · rename_i listening
    split
    · rename_i entry found
      have member : entry ∈ world.queues := List.mem_of_find?_eq_some found
      have place : entry.queue = queue := by simpa using List.find?_some found
      refine ⟨?_, ?_, ?_⟩
      · exact fun other kept => sound.addressed other (List.mem_of_mem_eraseP kept)
      · intro other
        have before := sound.accounted other
        rw [on_eraseP found other] at before
        rw [← before, List.map_append, on, List.filter_append, List.append_assoc]
        congr 2
        by_cases same : entry.queue = other <;> simp [same]
      · intro job listed
        rcases List.mem_append.mp listed with earlier | last
        · exact sound.taken job earlier
        · rw [List.mem_singleton.mp last]
          exact ⟨sound.addressed entry member, place ▸ listening⟩
    · exact sound
  · exact sound

theorem sound_step (world : World ι) (turn : Turn ι) (sound : Sound workers world) :
    Sound workers (step workers world turn) := by
  cases turn with
  | notebook env db projectid task pre =>
      exact sound_enqueue sound (addressed_notebook env db projectid task pre)
  | workflow env db projectid wfid =>
      rw [step]
      cases enqueued : SchedulerExec.enqueue_workflow env db [] projectid wfid with
      | error failure => exact sound
      | ok result =>
          obtain ⟨ctx, entries⟩ := result
          exact sound_enqueue sound (addressed_workflow enqueued)
  | take party queue => exact sound_take sound party queue

theorem sound_empty : Sound workers ({} : World ι) := ⟨nofun, fun _ => rfl, nofun⟩

/-- With names of clusters and queues that have neither dots nor commas every notebook that was
enqueued is taken once and in its turn, by an agent of its cluster that serves its kind of machine,
or it waits on a queue to which all those agents listen. -/
theorem routed (confs : ι → AgentConfig) (workers : ι → AsyncWorker)
    (started : ∀ party, Agent.run (confs party) = .ok (workers party))
    (clean : ∀ party, Clean (confs party)) (turns : List (Turn ι)) :
    ∀ reached ∈ states (step workers) {} turns,
      (∀ queue, on queue (reached.taken.map Prod.snd) ++ on queue reached.queues =
        on queue reached.enqueued) ∧
      (∀ job ∈ reached.taken, job.2.data.cluster = (confs job.1).cluster ∧
        job.2.data.machine ∈ (confs job.1).qnames) ∧
      ∀ entry ∈ reached.queues, ∀ party,
        entry.queue ∈ (workers party).listens ↔ entry.data.cluster = (confs party).cluster ∧
          entry.data.machine ∈ (confs party).qnames := by
  intro reached member
  have sound := states_kept sound_step sound_empty turns reached member
  refine ⟨sound.accounted, ?_, ?_⟩
  · intro job taken
    obtain ⟨addressed, listening⟩ := sound.taken job taken
    rw [addressed] at listening
    exact (listens_iff (clean job.1) (started job.1) _ _).mp listening
  · intro entry waiting party
    rw [sound.addressed entry waiting]
    exact listens_iff (clean party) (started party) _ _

namespace Sample

def conf : AgentConfig where
  redis_dsn := "redis://localhost:6379/0"
  cluster := "default"
  qnames := ["cpu"]
  ip_address := "10.0.0.1"
  machine_id := "localhost/ba/host"
  heartbeat_ttl := 240
  heartbeat_check_every := 300
  agent_name := some "agt"
  workers_n := 1

def worker : AsyncWorker where
  queues := "default.cpu"
  conn := "redis://localhost:6379/0"
  id := "agt"
  heartbeat_secs := 300
  max_jobs := 1

def reached : World Unit :=
  run (step fun _ => worker) {}
    [.notebook Sample.env Sample.db "labfunctions" Sample.task none, .take () "default.cpu"]

end Sample

theorem welcome_taken : Sample.reached.taken.length = 1 ∧
    ∀ job ∈ Sample.reached.taken, job.2.data.cluster = "default" ∧ job.2.data.machine ∈ ["cpu"] := by
  have started : Agent.run Sample.conf = .ok Sample.worker := rfl
  have clean : Clean Sample.conf := ⟨by decide, by decide⟩
  have every := routed (fun _ : Unit => Sample.conf) (fun _ => Sample.worker) (fun _ => started)
    (fun _ => clean)
    [.notebook Sample.env Sample.db "labfunctions" Sample.task none, .take () "default.cpu"]
    Sample.reached (run_mem_states _ _)
  exact ⟨rfl, every.2.1⟩

end LabFunctions.QueueRouting
