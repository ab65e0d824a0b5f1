import LabFunctions.Cluster
import LabFunctions.Control
import LabFunctions.Library.Words

/-!
`_deploy_agent`: how the fields of a deploy request reach the agent it starts, through
`AgentRequest`, the command for the machine and the options of `lab agent run`.
-/

namespace LabFunctions

open Words

/-- The fields that the command is made of; the others go into the agent's `.env.docker`. -/
structure AgentRequest where
  machine_ip : String
  machine_id : String
  cluster : String
  qnames : List String := ["cpu"]
  agent_homedir : String := "/home/op"
  advertise_addr : Option String := none
  docker_image : String := "nuxion/labfunctions"
  docker_version : String := "latest"
  worker_procs : Int := 2

namespace Deploy

def _prepare_agent_cmd (ip_address machine_id cluster qnames : String) (workers_n : Int) : String :=
  "lab agent run -i " ++ ip_address ++ " -C " ++ cluster ++ " -q " ++ qnames ++ " -w " ++
    toString workers_n ++ " -m " ++ machine_id

def _prepare_docker_cmd (ip_address machine_id qnames cluster env_file docker_image
    docker_version : String) (workers_n : Int) : String :=
  let lab_agent_cmd := _prepare_agent_cmd ip_address machine_id cluster qnames workers_n
  "docker run -d -v /var/run/docker.sock:/var/run/docker.sock -e LF_SERVER=true  --env-file=" ++
    env_file ++ " " ++ docker_image ++ ":" ++ docker_version ++ " " ++ lab_agent_cmd

/-- The command that `agent_async` runs on the machine. -/
def agent_cmd (req : AgentRequest) : String :=
  let agent_env_file := req.agent_homedir ++ "/.env.docker"
  let addr := pyOr req.advertise_addr req.machine_ip
  _prepare_docker_cmd addr req.machine_id (join ',' req.qnames) req.cluster agent_env_file
    req.docker_image req.docker_version req.worker_procs

end Deploy

namespace Tasks

def agent_ip (ctx : DeployAgentTask) (machine : MachineInstance) : Except ClusterError String := do
  let ip ← firstItem machine.private_ips
  if ctx.use_public then firstItem machine.public_ips else return ip

def agent_task (cluster_name : String) (agent : DeployAgentRequest) (machine : MachineInstance) :
    DeployAgentTask :=
  { machine_name := machine.machine_name
    cluster_name := cluster_name
    qnames := agent.qnames
    use_public := agent.use_public
    docker_image := agent.docker_image
    docker_version := agent.docker_version
    worker_procs := agent.worker_procs }

def agent_request (ctx : DeployAgentTask) (machine : MachineInstance) :
    Except ClusterError AgentRequest := do
  let ip ← agent_ip ctx machine
  -- qnames and worker_procs of the task stay behind: the request takes its defaults
  return {
    machine_ip := ip
    machine_id := machine.machine_id
    cluster := ctx.cluster_name
    docker_image := ctx.docker_image
    docker_version := ctx.docker_version }

end Tasks

/-! What the machine makes of the command: docker, the options of `lab agent run`, and
`control.agent.run`. -/

namespace Docker

def isOption (word : String) : Bool := word.toList.head? == some '-'

/-- The image that `docker run` starts and the words it hands to it. -/
def run : List String → Option (String × List String)
  | word :: value :: rest =>
      if word = "-v" ∨ word = "-e" then run rest
      else if word = "-d" ∨ "--env-file=".toList <+: word.toList then run (value :: rest)
      else if isOption word then none
      else some (word, value :: rest)
  | [word] => if isOption word then none else some (word, [])
  | [] => none

def command : List String → Option (String × List String)
  | "docker" :: "run" :: args => run args
  | _ => none

theorem run_spec {args : List String} {image : String} {words : List String}
    (started : run args = some (image, words)) :
    isOption image = false ∧ image ∈ args ∧ ∀ word ∈ words, word ∈ args := by
  fun_induction run args with
  | case1 word value rest valued ih =>
      obtain ⟨plain, member, others⟩ := ih started
      exact ⟨plain, by simp [member], fun word inside => by simp [others word inside]⟩
  | case2 word value rest _ flagged ih =>
      obtain ⟨plain, member, others⟩ := ih started
      exact ⟨plain, List.mem_cons_of_mem _ member,
        fun word inside => List.mem_cons_of_mem _ (others word inside)⟩
  | case3 => simp at started
  | case4 word value rest _ _ plain =>
      simp only [Option.some.injEq, Prod.mk.injEq] at started
      obtain ⟨rfl, rfl⟩ := started
      exact ⟨by simpa using plain, by simp, fun word inside => by simp [List.mem_cons.mp inside]⟩
  | case5 => simp at started
  | case6 word plain =>
      simp only [Option.some.injEq, Prod.mk.injEq] at started
      obtain ⟨rfl, rfl⟩ := started
      exact ⟨by simpa using plain, by simp, by simp⟩
  | case7 => simp at started

end Docker

structure AgentHost where
  QUEUE_REDIS : String
  hostname : String
  external_ip : String
  AGENT_HEARTBEAT_TTL : Int := 80 * 3
  AGENT_HEARTBEAT_CHECK : Int := 60 * 5

structure AgentOptions where
  workers : Int := 1
  redis : Option String := none
  qnames : String := "default"
  cluster : String := "default"
  ip_address : Option String := none
  agent_name : Option String := none
  machine_id : Option String := none
  debug : Bool := false

structure AgentConfig where
  redis_dsn : String
  cluster : String
  qnames : List String
  ip_address : String
  machine_id : String
  heartbeat_ttl : Int
  heartbeat_check_every : Int
  agent_name : Option String
  workers_n : Int

/-- What `control.agent.run` hands to libq's `AsyncWorker`. -/
structure AsyncWorker where
  queues : String
  conn : String
  id : String
  heartbeat_secs : Int
  max_jobs : Int

def AsyncWorker.listens (worker : AsyncWorker) : List String := split ',' worker.queues

namespace AgentCli

def digits (text : List Char) : Option Nat :=
  if text ≠ [] ∧ text.all Char.isDigit then
    some (text.foldl (fun value digit => 10 * value + (digit.toNat - '0'.toNat)) 0)
  else none

/-- `int(text)`, as click reads the value of an integer option. -/
def int (text : String) : Option Int :=
  match text.toList with
  | '-' :: rest => (digits rest).map fun value => -(value : Int)
  | '+' :: rest => (digits rest).map fun value => (value : Int)
  | rest => (digits rest).map fun value => (value : Int)

def options : List String → AgentOptions → Option AgentOptions
  | word :: value :: rest, opts =>
      if word = "-w" ∨ word = "--workers" then
        match int value with
        | some workers => options rest { opts with workers := workers }
        | none => none
      else if word = "-r" ∨ word = "--redis" then options rest { opts with redis := some value }
      else if word = "-q" ∨ word = "--qnames" then options rest { opts with qnames := value }
      else if word = "-C" ∨ word = "--cluster" then options rest { opts with cluster := value }
      else if word = "-i" ∨ word = "--ip-address" then
        options rest { opts with ip_address := some value }
      else if word = "-a" ∨ word = "--agent-name" then
        options rest { opts with agent_name := some value }
      else if word = "-m" ∨ word = "--machine-id" then
        options rest { opts with machine_id := some value }
      else if word = "-D" ∨ word = "--debug" then
        options (value :: rest) { opts with debug := true }
      else none
  | [word], opts =>
      if word = "-D" ∨ word = "--debug" then some { opts with debug := true } else none
  | [], opts => some opts

def runcli (host : AgentHost) (opts : AgentOptions) : AgentConfig :=
  { redis_dsn := opts.redis.getD host.QUEUE_REDIS
    cluster := opts.cluster
    qnames := split ',' opts.qnames
    ip_address := pyOr opts.ip_address host.external_ip
    machine_id := opts.machine_id.getD ("localhost/ba/" ++ host.hostname)
    heartbeat_ttl := host.AGENT_HEARTBEAT_TTL
    heartbeat_check_every := host.AGENT_HEARTBEAT_CHECK
    agent_name := opts.agent_name
    workers_n := opts.workers }

end AgentCli

namespace Agent

/-- `conf.agent_name or conf.machine_id.rsplit("/", maxsplit=1)[1]` -/
def name (conf : AgentConfig) : Except ClusterError String :=
  if truthy conf.agent_name then .ok (pyOr conf.agent_name "")
  else if '/' ∈ conf.machine_id.toList then
    .ok ((split '/' conf.machine_id).getLast?.getD "")
  else .error .indexError

def run (conf : AgentConfig) : Except ClusterError AsyncWorker := do
  let name ← name conf
  let cluster_queues := conf.qnames.map fun q => conf.cluster ++ "." ++ q
  return {
    queues := join ',' cluster_queues
    conn := conf.redis_dsn
    id := name
    heartbeat_secs := conf.heartbeat_check_every
    max_jobs := conf.workers_n }

end Agent

/-- `lab agent run`, from the words of its command line to the worker. -/
def lab (host : AgentHost) : List String → Option AsyncWorker
  | "lab" :: "agent" :: "run" :: args => do
      let opts ← AgentCli.options args {}
      (Agent.run (AgentCli.runcli host opts)).toOption
  | _ => none

/-! The command as words. -/

def agentWords (ctx : DeployAgentTask) (ip machine_id : String) : List String :=
  ["lab", "agent", "run", "-i", ip, "-C", ctx.cluster_name, "-q", join ',' ctx.qnames, "-w",
    toString ctx.worker_procs, "-m", machine_id]

def sentWords (ctx : DeployAgentTask) (ip machine_id : String) : List String :=
  ["lab", "agent", "run", "-i"] ++ words ip ++ ["-C"] ++ words ctx.cluster_name ++ ["-q"] ++
    ["cpu"] ++ ["-w"] ++ ["2"] ++ ["-m"] ++ words machine_id

theorem words_literal (text : String) (word : IsWord text := by decide) : words text = [text] :=
  words_of_isWord word

theorem words_prepare_agent_cmd (ip machine_id cluster qnames : String) (workers_n : Int) :
    words (Deploy._prepare_agent_cmd ip machine_id cluster qnames workers_n) =
      ["lab", "agent", "run", "-i"] ++ words ip ++ ["-C"] ++ words cluster ++ ["-q"] ++
        words qnames ++ ["-w"] ++ words (toString workers_n) ++ ["-m"] ++ words machine_id := by
  have starts : "lab agent run -i " = "lab" ++ " " ++ "agent" ++ " " ++ "run" ++ " " ++ "-i" ++ " " :=
    by decide
  have cluster_flag : " -C " = " " ++ "-C" ++ " " := by decide
  have qnames_flag : " -q " = " " ++ "-q" ++ " " := by decide
  have workers_flag : " -w " = " " ++ "-w" ++ " " := by decide
  have machine_flag : " -m " = " " ++ "-m" ++ " " := by decide
  have spaced : Deploy._prepare_agent_cmd ip machine_id cluster qnames workers_n =
      "lab" ++ " " ++ "agent" ++ " " ++ "run" ++ " " ++ "-i" ++ " " ++ ip ++ " " ++ "-C" ++ " " ++
        cluster ++ " " ++ "-q" ++ " " ++ qnames ++ " " ++ "-w" ++ " " ++ toString workers_n ++ " " ++
        "-m" ++ " " ++ machine_id := by
    unfold Deploy._prepare_agent_cmd
    simp only [String.append_assoc, starts, cluster_flag, qnames_flag, workers_flag, machine_flag]
  rw [spaced]
  simp only [words_append_blank, words_literal "lab", words_literal "agent", words_literal "run",
    words_literal "-i", words_literal "-C", words_literal "-q", words_literal "-w",
    words_literal "-m", List.cons_append, List.nil_append]

def dockerWords : List String :=
  ["docker", "run", "-d", "-v", "/var/run/docker.sock:/var/run/docker.sock", "-e",
    "LF_SERVER=true", "--env-file=/home/op/.env.docker"]

theorem words_prepare_docker_cmd (ip machine_id qnames cluster docker_image docker_version : String)
    (workers_n : Int) :
    words (Deploy._prepare_docker_cmd ip machine_id qnames cluster ("/home/op" ++ "/.env.docker")
        docker_image docker_version workers_n) =
      dockerWords ++ words (docker_image ++ ":" ++ docker_version) ++
        words (Deploy._prepare_agent_cmd ip machine_id cluster qnames workers_n) := by
  have starts : "docker run -d -v /var/run/docker.sock:/var/run/docker.sock -e LF_SERVER=true  --env-file=" =
      "docker" ++ " " ++ "run" ++ " " ++ "-d" ++ " " ++ "-v" ++ " " ++
        "/var/run/docker.sock:/var/run/docker.sock" ++ " " ++ "-e" ++ " " ++ "LF_SERVER=true" ++
        " " ++ "" ++ " " ++ "--env-file=" := by decide
  have env : "--env-file=" ++ ("/home/op" ++ "/.env.docker") = "--env-file=/home/op/.env.docker" := by
    decide
  have spaced : Deploy._prepare_docker_cmd ip machine_id qnames cluster
      ("/home/op" ++ "/.env.docker") docker_image docker_version workers_n =
      "docker" ++ " " ++ "run" ++ " " ++ "-d" ++ " " ++ "-v" ++ " " ++
        "/var/run/docker.sock:/var/run/docker.sock" ++ " " ++ "-e" ++ " " ++ "LF_SERVER=true" ++
        " " ++ "" ++ " " ++ "--env-file=/home/op/.env.docker" ++ " " ++
        (docker_image ++ ":" ++ docker_version) ++ " " ++
        Deploy._prepare_agent_cmd ip machine_id cluster qnames workers_n := by
    unfold Deploy._prepare_docker_cmd
    simp only [String.append_assoc, starts, ← env]
  have nothing : words "" = [] := rfl
  rw [spaced]
  simp only [words_append_blank, words_literal "docker", words_literal "run", words_literal "-d",
    words_literal "-v", words_literal "/var/run/docker.sock:/var/run/docker.sock",
    words_literal "-e", words_literal "LF_SERVER=true",
    words_literal "--env-file=/home/op/.env.docker", nothing, dockerWords, List.cons_append,
    List.nil_append]

inductive Deployment where
  | deploy_agent (ctx : DeployAgentTask)
  | create_instance (cluster_name : String) (agent : DeployAgentRequest) (machine : MachineInstance)

namespace Deployment

def task : Deployment → DeployAgentTask
  | deploy_agent ctx => ctx
  | create_instance cluster_name agent machine => Tasks.agent_task cluster_name agent machine

def machine (redis : Redis) : Deployment → Except ClusterError MachineInstance
  | deploy_agent ctx =>
      match ClusterControl.get_instance redis ctx.machine_name with
      | some machine => .ok machine
      | none => .error .attributeError
  | create_instance _ _ machine => .ok machine

def command (redis : Redis) (deployment : Deployment) : Except ClusterError (String × String) := do
  let machine ← deployment.machine redis
  let req ← Tasks.agent_request deployment.task machine
  return (req.machine_ip, Deploy.agent_cmd req)

end Deployment

/-- The command starts the image that was asked for with the options that were asked for, and
the agent it starts listens to the queues that were asked for. -/
def Serves (host : AgentHost) (ctx : DeployAgentTask) (ip machine_id cmd : String) : Prop :=
  Docker.command (words cmd) =
      some (ctx.docker_image ++ ":" ++ ctx.docker_version, agentWords ctx ip machine_id) ∧
    ∃ worker, lab host (agentWords ctx ip machine_id) = some worker ∧
      worker.max_jobs = ctx.worker_procs ∧
      worker.listens = ctx.qnames.map (fun q => ctx.cluster_name ++ "." ++ q) ∧
      ∀ env db projectid task pre,
        ∀ entry ∈ (SchedulerExec.enqueue_notebook env db [] projectid task pre).2,
          entry.data.cluster = ctx.cluster_name → entry.data.machine ∈ ctx.qnames →
            entry.queue ∈ worker.listens

def Served (redis : Redis) (host : AgentHost) (deployment : Deployment) : Prop :=
  ∃ machine ip cmd, deployment.machine redis = .ok machine ∧
    Tasks.agent_ip deployment.task machine = .ok ip ∧
    deployment.command redis = .ok (ip, cmd) ∧
    Serves host deployment.task ip machine.machine_id cmd

/-- The request asks for what an `AgentRequest` has by default, and what the command is made of
are single words. -/
structure Deliverable (ctx : DeployAgentTask) (ip machine_id : String) : Prop where
  qnames : ctx.qnames = ["cpu"]
  worker_procs : ctx.worker_procs = 2
  image : IsWord (ctx.docker_image ++ ":" ++ ctx.docker_version)
  noOption : Docker.isOption (ctx.docker_image ++ ":" ++ ctx.docker_version) = false
  ip : IsWord ip
  cluster : IsWord ctx.cluster_name
  noComma : ',' ∉ ctx.cluster_name.toList
  identity : IsWord machine_id
  slash : '/' ∈ machine_id.toList

theorem Docker.run_image {image : String} (plain : Docker.isOption image = false)
    (rest : List String) : Docker.run (image :: rest) = some (image, rest) := by
  have notValued : ¬(image = "-v" ∨ image = "-e") := by
    rintro (rfl | rfl) <;> exact absurd plain (by decide)
  have notFlag : ¬(image = "-d" ∨ "--env-file=".toList <+: image.toList) := by
    rintro (rfl | ⟨file, begins⟩)
    · exact absurd plain (by decide)
    have dash : "--env-file=".toList = '-' :: "-env-file=".toList := by decide
    rw [Docker.isOption, ← begins, dash, List.cons_append, List.head?_cons] at plain
    exact absurd plain (by decide)
  cases rest with
  | nil => simp [Docker.run, plain]
  | cons value rest =>
      unfold Docker.run
      simp only [if_neg notValued, if_neg notFlag, plain, Bool.false_eq_true, if_false]

theorem Docker.command_dockerWords (args : List String) :
    Docker.command (dockerWords ++ args) = Docker.run args := by
  cases args with
  | nil => decide
  | cons word rest => simp [Docker.command, dockerWords, Docker.run]

theorem words_agent_cmd {ctx : DeployAgentTask} {machine : MachineInstance} {ip : String}
    {req : AgentRequest} (address : Tasks.agent_ip ctx machine = .ok ip)
    (requested : Tasks.agent_request ctx machine = .ok req) :
    req.machine_ip = ip ∧ words (Deploy.agent_cmd req) =
      dockerWords ++ (words (ctx.docker_image ++ ":" ++ ctx.docker_version) ++
        sentWords ctx ip machine.machine_id) := by
  rw [Tasks.agent_request, address] at requested
  obtain rfl := Except.ok.inj requested
  have queues : join ',' ["cpu"] = "cpu" := by decide
  have procs : toString (2 : Int) = "2" := by decide
  refine ⟨rfl, ?_⟩
  simp only [Deploy.agent_cmd, words_prepare_docker_cmd, words_prepare_agent_cmd, queues, procs,
    words_literal "cpu", words_literal "2", pyOr, sentWords, List.append_assoc]

theorem lab_agent_run (host : AgentHost) {ip cluster qnames workers_text machine_id : String}
    {workers : Int} (number : AgentCli.int workers_text = some workers) :
    lab host ["lab", "agent", "run", "-i", ip, "-C", cluster, "-q", qnames, "-w", workers_text,
        "-m", machine_id] =
      if '/' ∈ machine_id.toList then
        some {
          queues := join ',' ((split ',' qnames).map fun q => cluster ++ "." ++ q)
          conn := host.QUEUE_REDIS
          id := (split '/' machine_id).getLast?.getD ""
          heartbeat_secs := host.AGENT_HEARTBEAT_CHECK
          max_jobs := workers }
      else none := by
  by_cases slash : '/' ∈ machine_id.toList
  · simp [lab, AgentCli.options, number, AgentCli.runcli, Agent.run, Agent.name, truthy, slash, bind,
      Except.bind, pure, Except.pure, Except.toOption]
  · simp [lab, AgentCli.options, number, AgentCli.runcli, Agent.run, Agent.name, truthy, slash, bind,
      Except.bind, Except.toOption]

theorem sentWords_of_isWord {ctx : DeployAgentTask} {ip machine_id : String} (ipWord : IsWord ip)
    (cluster : IsWord ctx.cluster_name) (identity : IsWord machine_id) :
    sentWords ctx ip machine_id =
      ["lab", "agent", "run", "-i", ip, "-C", ctx.cluster_name, "-q", "cpu", "-w", "2", "-m",
        machine_id] := by
  rw [sentWords, words_of_isWord ipWord, words_of_isWord cluster, words_of_isWord identity]
  rfl

section Served

variable {host : AgentHost} {ctx : DeployAgentTask} {ip machine_id cmd : String}

/-- What is asked for arrives only as single words, and only if it is what is sent anyway. -/
theorem sent_of_started {image : String}
    (spelled : words cmd = dockerWords ++ (words image ++ sentWords ctx ip machine_id))
    (started : Docker.command (words cmd) = some (image, agentWords ctx ip machine_id)) :
    (IsWord image ∧ Docker.isOption image = false) ∧
      (IsWord ip ∧ IsWord ctx.cluster_name ∧ IsWord machine_id) ∧
      "cpu" = join ',' ctx.qnames ∧ "2" = toString ctx.worker_procs := by
  have run := started
  rw [spelled, Docker.command_dockerWords] at run
  obtain ⟨noOption, imageIn, othersIn⟩ := Docker.run_spec run
  have argument : ∀ text ∈ words image ++ sentWords ctx ip machine_id, IsWord text := by
    intro text member
    have sent : text ∈ words cmd := by
      rw [spelled]
      exact List.mem_append_right _ member
    exact isWord_of_mem sent
  have imageWord : IsWord image := argument image imageIn
  have ipWord : IsWord ip := argument ip (othersIn ip (by simp [agentWords]))
  have cluster : IsWord ctx.cluster_name := argument _ (othersIn _ (by simp [agentWords]))
  have identity : IsWord machine_id := argument _ (othersIn _ (by simp [agentWords]))
  -- now both sides are lists of as many words, and are compared one by one
  rw [words_of_isWord imageWord, sentWords_of_isWord ipWord cluster identity,
    List.singleton_append, Docker.run_image noOption] at run
  simp only [agentWords, Option.some.injEq, Prod.mk.injEq, List.cons.injEq, true_and,
    and_true] at run
  exact ⟨⟨imageWord, noOption⟩, ⟨ipWord, cluster, identity⟩, run⟩

theorem qnames_of_joined (clean : ∀ q ∈ ctx.qnames, ',' ∉ q.toList)
    (names : "cpu" = join ',' ctx.qnames) : ctx.qnames = ["cpu"] := by
  have nonempty : ctx.qnames ≠ [] := by
    intro none
    rw [none] at names
    exact absurd names (by decide)
  have alone : split ',' "cpu" = ["cpu"] := by decide
  rw [← split_join nonempty clean, ← names, alone]

theorem deliverable_of_serves (clean : ∀ q ∈ ctx.qnames, ',' ∉ q.toList)
    (spelled : words cmd = dockerWords ++
      (words (ctx.docker_image ++ ":" ++ ctx.docker_version) ++ sentWords ctx ip machine_id))
    (serves : Serves host ctx ip machine_id cmd) : Deliverable ctx ip machine_id := by
  obtain ⟨started, worker, runs, jobs, listens, _⟩ := serves
  obtain ⟨⟨image, noOption⟩, ⟨ipWord, cluster, identity⟩, names, procs⟩ :=
    sent_of_started spelled started
  have qnames := qnames_of_joined clean names
  have two : AgentCli.int "2" = some 2 := by decide
  rw [agentWords, ← names, ← procs, lab_agent_run host two] at runs
  split at runs
  next slash =>
    obtain rfl := Option.some.inj runs
    have member : ctx.cluster_name ++ "." ++ "cpu" ∈
        split ',' (join ',' ((split ',' "cpu").map fun q => ctx.cluster_name ++ "." ++ q)) := by
      rw [AsyncWorker.listens, qnames] at listens
      simp [listens]
    have noComma := not_mem_of_mem_split member
    refine ⟨qnames, jobs.symm, image, noOption, ipWord, cluster, ?_, identity, slash⟩
    intro inside
    exact noComma (by simp [inside])
  next => simp at runs

theorem serves_of_deliverable
    (spelled : words cmd = dockerWords ++
      (words (ctx.docker_image ++ ":" ++ ctx.docker_version) ++ sentWords ctx ip machine_id))
    (deliverable : Deliverable ctx ip machine_id) : Serves host ctx ip machine_id cmd := by
  have spelledOut : agentWords ctx ip machine_id = sentWords ctx ip machine_id := by
    have queues : join ',' ["cpu"] = "cpu" := by decide
    have procs : toString (2 : Int) = "2" := by decide
    rw [sentWords_of_isWord deliverable.ip deliverable.cluster deliverable.identity, agentWords,
      deliverable.qnames, deliverable.worker_procs, queues, procs]
  refine ⟨?_, ?_⟩
  · rw [spelled, Docker.command_dockerWords, words_of_isWord deliverable.image,
      List.singleton_append, Docker.run_image deliverable.noOption, spelledOut]
  · have two : AgentCli.int "2" = some 2 := by decide
    have alone : split ',' "cpu" = ["cpu"] := by decide
    have clean : ∀ q ∈ ["cpu"].map (fun q => ctx.cluster_name ++ "." ++ q), ',' ∉ q.toList := by
      simp [deliverable.noComma]
    have listens : split ',' (join ',' ((split ',' "cpu").map fun q =>
        ctx.cluster_name ++ "." ++ q)) = ctx.qnames.map fun q => ctx.cluster_name ++ "." ++ q := by
      rw [alone, split_join (by simp) clean, deliverable.qnames]
    rw [spelledOut, sentWords_of_isWord deliverable.ip deliverable.cluster deliverable.identity,
      lab_agent_run host two, if_pos deliverable.slash]
    refine ⟨_, rfl, deliverable.worker_procs.symm, listens, ?_⟩
    intro env db projectid task pre entry member cluster named
    rw [AsyncWorker.listens, listens]
    simp only [SchedulerExec.enqueue_notebook, List.nil_append, List.mem_singleton] at member
    subst member
    refine List.mem_map.mpr ⟨_, named, ?_⟩
    rw [← cluster]
    rfl

end Served

theorem Deployment.command_spec {redis : Redis} {deployment : Deployment}
    {machine : MachineInstance} {ip : String} (found : deployment.machine redis = .ok machine)
    (address : Tasks.agent_ip deployment.task machine = .ok ip) :
    ∃ cmd, deployment.command redis = .ok (ip, cmd) ∧
      words cmd = dockerWords ++
        (words (deployment.task.docker_image ++ ":" ++ deployment.task.docker_version) ++
          sentWords deployment.task ip machine.machine_id) := by
  cases requested : Tasks.agent_request deployment.task machine with
  | error failure =>
      rw [Tasks.agent_request, address] at requested
      exact absurd requested (by simp [bind, Except.bind, pure, Except.pure])
  | ok req =>
      obtain ⟨same, spelled⟩ := words_agent_cmd address requested
      refine ⟨Deploy.agent_cmd req, ?_, spelled⟩
      rw [Deployment.command, found]
      simp [requested, same, bind, Except.bind, pure, Except.pure]

namespace AgentDeploySample

def machine : MachineInstance :=
  { machine_id := "/gce/us/m", machine_name := "m", location := "us", private_ips := ["10.0.0.2"]
    public_ips := ["34.1.1.1"] }

def redis : Redis := ClusterControl.register_instance (fun _ => none) machine "gpu"

def host : AgentHost :=
  { QUEUE_REDIS := "redis://queue", hostname := "m", external_ip := "34.1.1.1" }

end AgentDeploySample

end LabFunctions
