import LabFunctions.DockerRuns
import LabFunctions.HistoryRows

/-!
`NBTaskDocker.run` and `local_exec_env`: a task handed to a container through its environment
and the options of docker, and the results the two sides build.
-/

namespace LabFunctions

namespace ExecutionNBTask

def dict (ctx : ExecutionNBTask) : List (String × Json) :=
  [("projectid", .str ctx.projectid), ("wfid", .str ctx.wfid), ("execid", .str ctx.execid),
    ("nb_name", .str ctx.nb_name), ("params", .dict ctx.params), ("runtime", .str ctx.runtime),
    ("pm_input", .str ctx.pm_input), ("pm_output", .str ctx.pm_output),
    ("output_name", .str ctx.output_name), ("output_dir", .str ctx.output_dir),
    ("error_dir", .str ctx.error_dir), ("today", .str ctx.today), ("timeout", .int ctx.timeout),
    ("created_at", .str ctx.created_at), ("gpu_support", .bool ctx.gpu_support),
    ("cluster", .str ctx.cluster), ("machine", .str ctx.machine),
    ("remote_input", Codec.optStr.write ctx.remote_input),
    ("remote_output", Codec.optStr.write ctx.remote_output),
    ("notifications_ok", Codec.optStrs.write ctx.notifications_ok),
    ("notifications_fail", Codec.optStrs.write ctx.notifications_fail)]

def ofDict (entries : List (String × Json)) : Option ExecutionNBTask := do
  let projectid ← Dict.required Codec.str entries "projectid"
  let wfid ← Dict.required Codec.str entries "wfid"
  let execid ← Dict.required Codec.str entries "execid"
  let nb_name ← Dict.required Codec.str entries "nb_name"
  let params ← Dict.required Codec.dict entries "params"
  let runtime ← Dict.required Codec.str entries "runtime"
  let pm_input ← Dict.required Codec.str entries "pm_input"
  let pm_output ← Dict.required Codec.str entries "pm_output"
  let output_name ← Dict.required Codec.str entries "output_name"
  let output_dir ← Dict.required Codec.str entries "output_dir"
  let error_dir ← Dict.required Codec.str entries "error_dir"
  let today ← Dict.required Codec.str entries "today"
  let timeout ← Dict.required Codec.int entries "timeout"
  let created_at ← Dict.required Codec.str entries "created_at"
  let gpu_support ← Dict.defaulted Codec.bool false entries "gpu_support"
  let cluster ← Dict.defaulted Codec.str Defaults.CLUSTER_NAME entries "cluster"
  let machine ← Dict.defaulted Codec.str Defaults.MACHINE_TYPE entries "machine"
  let remote_input ← Dict.defaulted Codec.optStr none entries "remote_input"
  let remote_output ← Dict.defaulted Codec.optStr none entries "remote_output"
  let notifications_ok ← Dict.defaulted Codec.optStrs none entries "notifications_ok"
  let notifications_fail ← Dict.defaulted Codec.optStrs none entries "notifications_fail"
  return ⟨projectid, wfid, execid, nb_name, params, runtime, pm_input, pm_output, output_name,
    output_dir, error_dir, today, timeout, created_at, gpu_support, cluster, machine, remote_input,
    remote_output, notifications_ok, notifications_fail⟩

theorem ofDict_dict (ctx : ExecutionNBTask) : ofDict ctx.dict = some ctx := by
  have remote_input := Codec.optStr.read_write ctx.remote_input
  have remote_output := Codec.optStr.read_write ctx.remote_output
  have notifications_ok := Codec.optStrs.read_write ctx.notifications_ok
  have notifications_fail := Codec.optStrs.read_write ctx.notifications_fail
  simp [ofDict, dict, List.lookup_cons, Dict.required, Dict.defaulted, Codec.str, Codec.dict,
    Codec.int, Codec.bool, remote_input, remote_output, notifications_ok, notifications_fail]

end ExecutionNBTask

namespace DockerTasks

open DockerRuns

/-- `json`, with texts of any kind. -/
structure PyJson (Text : Type) where
  text : String → Text
  dumps : Json → Text
  loads : Text → Option Json
  loads_dumps : ∀ data, loads (dumps data) = some data

structure TokenCreds where
  access_token : String
  refresh_token : Option String := none

structure NBClient where
  _addr : String
  projects_private_key : String → Except Exn (Option String)
  projects_agent_token : String → Except Exn (Option TokenCreds)

def PRIVKEY_VAR_NAME : String := "PRIVATE_KEY"
def EXECUTIONTASK_VAR : String := "LF_EXECUTION_TASK"
def SERVICE_URL_ENV : String := "LF_WORKFLOW_SERVICE"
def BASE_PATH_ENV : String := "LF_BASE_PATH"

variable {Text : Type} (py : PyJson Text) (client : NBClient)

/-- Variables of a container; one without a value has no text. -/
abbrev Environment (Text : Type) := List (String × Option Text)

namespace NBTaskDocker

def cmd : String := "lab exec local"

def build_env (data : List (String × Json)) : Except Exn (Environment Text) :=
  match Dict.required Codec.str data "projectid" with
  | none => .error (.keyError "projectid")
  | some projectid => do
      let priv_key ← client.projects_private_key projectid
      if truthy priv_key then
        return [(PRIVKEY_VAR_NAME, priv_key.map py.text),
          (EXECUTIONTASK_VAR, some (py.dumps (.dict data))),
          (SERVICE_URL_ENV, some (py.text client._addr)),
          (BASE_PATH_ENV, some (py.text "/app"))]
      else throw (.otherError ("No priv key found for " ++ projectid))

def task_env (ctx : ExecutionNBTask) (priv_key : Option String) : Environment Text :=
  [(PRIVKEY_VAR_NAME, priv_key.map py.text),
    (EXECUTIONTASK_VAR, some (py.dumps (.dict ctx.dict))),
    (SERVICE_URL_ENV, some (py.text client._addr)), (BASE_PATH_ENV, some (py.text "/app"))]

def agent_env (env : Environment Text) (creds : TokenCreds) : Environment Text :=
  Dict.set (Dict.set env "LF_AGENT_TOKEN" (some (py.text creds.access_token)))
    "LF_AGENT_REFRESH_TOKEN" (creds.refresh_token.map py.text)

def environment (ctx : ExecutionNBTask) : Except Exn (Environment Text) := do
  let env ← build_env py client ctx.dict
  match ← client.projects_agent_token ctx.projectid with
  | some creds => return agent_env py env creds
  | none => throw .attributeError

/-- What a flag is to Python when it is the context itself: an object that is not empty. -/
def truth (_ : ExecutionNBTask) : Bool := true

def args (ctx : ExecutionNBTask) (env : Environment Text) : RunArgs (Option Text) where
  cmd := cmd
  image := ctx.runtime
  timeout := ctx.timeout
  env_data := env
  require_gpu := truth ctx

def run (calls : Calls) (ctx : ExecutionNBTask) (elapsed : String) :
    Except Exn ExecutionResult × Trace (Option Text) :=
  match environment py client ctx with
  | .error failure => (.error failure, {})
  | .ok env =>
      match Effects.run (DockerRuns.run calls (args ctx env)) {} with
      | (.ok result, trace) =>
          (.ok (Executors.result ctx elapsed (result.status != 0) (some result.msg)), trace)
      | (.error _, trace) => (.error (.otherError "UnicodeDecodeError"), trace)

end NBTaskDocker

def etask (env : Environment Text) : Option ExecutionNBTask := do
  let ctx_str ← (env.lookup EXECUTIONTASK_VAR).join
  match py.loads ctx_str with
  | some (.dict entries) => ExecutionNBTask.ofDict entries
  | _ => none

structure About (ctx : ExecutionNBTask) (result : ExecutionResult) : Prop where
  projectid : result.projectid = ctx.projectid
  wfid : result.wfid = ctx.wfid
  execid : result.execid = ctx.execid
  name : result.name = ctx.nb_name
  params : result.params = ctx.params
  input_ : result.input_ = ctx.pm_input
  output_name : result.output_name = some ctx.output_name
  output_dir : result.output_dir = some ctx.output_dir
  error_dir : result.error_dir = some ctx.error_dir

/-- Docker is asked for one container: the image, the time-out, the GPU and the task are those
of the context. -/
structure Handed (ctx : ExecutionNBTask) (started : Prop) (trace : Trace (Option Text)) : Prop where
  asked : ∃ spec, trace.asked = [spec] ∧ spec.image = ctx.runtime ∧
    (spec.runtime = some "nvidia" ↔ ctx.gpu_support = true) ∧
    etask py spec.environment = some ctx
  waits : started → trace.waits = [ctx.timeout]

/-- The server gives the key and the token that the container needs. -/
def Equipped (ctx : ExecutionNBTask) : Prop :=
  ∃ key creds, client.projects_private_key ctx.projectid = .ok key ∧ truthy key = true ∧
    client.projects_agent_token ctx.projectid = .ok (some creds)

section Run

variable {py client} {ctx : ExecutionNBTask}

theorem about_result (ctx : ExecutionNBTask) (elapsed : String) (error : Bool)
    (error_msg : Option String) : About ctx (Executors.result ctx elapsed error error_msg) :=
  ⟨rfl, rfl, rfl, rfl, rfl, rfl, rfl, rfl, rfl⟩

theorem about_local {notebook : Executors.Notebook} {elapsed : String} {result : ExecutionResult}
    (ran : Executors.NBTaskLocal.run ctx notebook elapsed = .ok result) : About ctx result := by
  unfold Executors.NBTaskLocal.run at ran
  split at ran
  · exact Except.ok.inj ran ▸ about_result ..
  · exact Except.ok.inj ran ▸ about_result ..
  · cases ran
  · cases ran

namespace NBTaskDocker

theorem build_env_dict (ctx : ExecutionNBTask) : build_env py client ctx.dict =
    (client.projects_private_key ctx.projectid).bind fun priv_key =>
      if truthy priv_key then .ok (task_env py client ctx priv_key)
      else .error (.otherError ("No priv key found for " ++ ctx.projectid)) := rfl

theorem environment_equipped (py : PyJson Text) {key : Option String} {creds : TokenCreds}
    (keys : client.projects_private_key ctx.projectid = .ok key) (given : truthy key = true)
    (tokens : client.projects_agent_token ctx.projectid = .ok (some creds)) :
    environment py client ctx = .ok (agent_env py (task_env py client ctx key) creds) := by
  rw [environment, build_env_dict, keys]
  simp only [Except.bind, given, if_true, tokens, bind]
  rfl

theorem equipped_of_environment {env : Environment Text}
    (built : environment py client ctx = .ok env) : Equipped client ctx := by
  rw [environment, build_env_dict] at built
  cases keys : client.projects_private_key ctx.projectid with
  | error failure =>
      rw [keys] at built
      cases built
  | ok key =>
      rw [keys] at built
      cases given : truthy key with
      | false =>
          simp only [Except.bind, given, bind] at built
          cases built
      | true =>
          simp only [Except.bind, given, if_true, bind] at built
          cases tokens : client.projects_agent_token ctx.projectid with
          | error failure =>
              rw [tokens] at built
              cases built
          | ok creds =>
              rw [tokens] at built
              cases creds with
              | none => cases built
              | some creds => exact ⟨key, creds, keys, given, tokens⟩

/-- The task comes back from the environment it was put in. -/
theorem etask_agent_env (py : PyJson Text) (client : NBClient) (ctx : ExecutionNBTask)
    (key : Option String) (creds : TokenCreds) :
    etask py (agent_env py (task_env py client ctx key) creds) = some ctx := by
  have found : (agent_env py (task_env py client ctx key) creds).lookup EXECUTIONTASK_VAR =
      some (some (py.dumps (.dict ctx.dict))) := rfl
  simp [etask, found, py.loads_dumps, ExecutionNBTask.ofDict_dict]

theorem run_trace {env : Environment Text} (calls : Calls) (elapsed : String)
    (built : environment py client ctx = .ok env) :
    (run py client calls ctx elapsed).2 =
      (Effects.run (DockerRuns.run calls (args ctx env)) {}).2 := by
  rw [run, built]
  simp only
  rcases Effects.run (DockerRuns.run calls (args ctx env)) {} with ⟨_ | _, trace⟩ <;> rfl

theorem about_run {calls : Calls} {elapsed : String} {result : ExecutionResult}
    (ran : (run py client calls ctx elapsed).1 = .ok result) : About ctx result := by
  unfold run at ran
  split at ran
  · cases ran
  · split at ran
    · exact Except.ok.inj ran ▸ about_result ..
    · cases ran

/-- What is handed over, but for the GPU, of which the container gets one in every case. -/
theorem handed_iff (calls : Calls) (elapsed : String) :
    Handed py ctx (calls.run = none) (run py client calls ctx elapsed).2 ↔
      Equipped client ctx ∧ ctx.gpu_support = true := by
  constructor
  · intro handed
    obtain ⟨spec, asked, _, gpu, _⟩ := handed.asked
    cases built : environment py client ctx with
    | error failure =>
        rw [run, built] at asked
        cases asked
    | ok env =>
        rw [run_trace calls elapsed built, (run_asked calls (args ctx env)).1] at asked
        obtain rfl := (List.cons.inj asked).1
        exact ⟨equipped_of_environment built, gpu.mp rfl⟩
  · rintro ⟨⟨key, creds, keys, given, tokens⟩, gpu⟩
    have built := environment_equipped py keys given tokens
    have ran := run_asked calls (args ctx (agent_env py (task_env py client ctx key) creds))
    rw [← run_trace calls elapsed built] at ran
    refine ⟨⟨_, ran.1, rfl, ?_, etask_agent_env ..⟩, ran.2⟩
    exact iff_of_true rfl gpu

end NBTaskDocker

end Run

/-- A task goes to its container as the context says, and both sides give results about it,
exactly where the server equips the container and the task asks for a GPU. -/
theorem task_handed_iff (py : PyJson Text) (client : NBClient) (calls : Calls)
    (ctx : ExecutionNBTask) (elapsed : String) :
    (Handed py ctx (calls.run = none) (NBTaskDocker.run py client calls ctx elapsed).2 ∧
      (∀ result, (NBTaskDocker.run py client calls ctx elapsed).1 = .ok result →
        About ctx result) ∧
      ∀ notebook elapsed result, Executors.NBTaskLocal.run ctx notebook elapsed = .ok result →
        About ctx result) ↔
    Equipped client ctx ∧ ctx.gpu_support = true := by
  rw [NBTaskDocker.handed_iff]
  constructor
  · exact And.left
  · intro holds
    exact ⟨holds, fun _ => NBTaskDocker.about_run, fun _ _ _ => about_local⟩

namespace Sample

def json : PyJson Json where
  text := .str
  dumps := id
  loads := some
  loads_dumps _ := rfl

def answers : NBClient where
  _addr := "http://localhost:8000"
  projects_private_key _ := .ok (some "key")
  projects_agent_token _ := .ok (some { access_token := "token" })

def nightly : ExecutionNBTask :=
  Notebooks.create_notebook_ctx LabFunctions.Sample.env "lab" LabFunctions.Sample.task

end Sample

/-- A task without `gpu_support` is started with the runtime of the GPU. -/
theorem nvidia_asked :
    Sample.nightly.gpu_support = false ∧
      ¬ Handed Sample.json Sample.nightly (({} : Calls).run = none)
        (NBTaskDocker.run Sample.json Sample.answers {} Sample.nightly "1").2 := by
  refine ⟨rfl, fun handed => ?_⟩
  have gpu := ((NBTaskDocker.handed_iff {} "1").mp handed).2
  exact absurd gpu (by decide)

end DockerTasks

end LabFunctions
