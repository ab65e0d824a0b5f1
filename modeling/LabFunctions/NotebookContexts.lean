import LabFunctions.Context

/-!
The two copies of `create_notebook_ctx`: the one in `labfunctions.context`, which the client
calls, against the one in `labfunctions.notebooks.context`, which the scheduler calls.
-/

namespace LabFunctions

namespace Client

/-- `ExecID` of the length that is left behind the prefix. -/
def _dummy_wfid (env : Env) : String := "tmp" ++ env.dummy.text

def create_notebook_ctx (env : Env) (projectid : String) (task : NBTask)
    (execid : Option String := none) (runtime : Option RuntimeData := none)
    (wfid : Option String := none) : ExecutionNBTask :=
  let today := today_string env.today
  let now := env.now.isoformat
  let wfid := pyOr wfid (_dummy_wfid env)
  let execid := pyOr execid (ExecID env.execid none)
  let params := Dict.set (Dict.set (Dict.set task.params "WFID" (.str wfid))
    "EXECID" (.str execid)) "NOW" (.str now)
  let papermill_input :=
    ((Paths.PurePath.parse Defaults.NOTEBOOKS_DIR).join (task.nb_name ++ ".ipynb")).str
  let output_dir := Defaults.NB_OUTPUTS ++ "/ok/" ++ today
  let error_dir := Defaults.NB_OUTPUTS ++ "/errors/" ++ today
  let output_name := wfid ++ "." ++ task.nb_name ++ "." ++ execid ++ ".ipynb"
  -- `gpu_support` and `cluster` are left to the defaults of the type
  { projectid := projectid
    wfid := wfid
    execid := execid
    nb_name := task.nb_name
    runtime := prepare_runtime env.repr runtime
    machine := task.machine
    params := params
    pm_input := papermill_input
    pm_output := output_dir ++ "/" ++ output_name
    output_name := output_name
    output_dir := output_dir
    error_dir := error_dir
    today := today
    timeout := task.timeout
    created_at := now
    notifications_ok := task.notifications_ok
    notifications_fail := task.notifications_fail }

end Client

theorem NanoId.text_inj {size : Nat} {first second : NanoId size} :
    first.text = second.text ↔ first = second := by
  constructor
  · intro same
    cases first
    cases second
    simpa using same
  · exact congrArg NanoId.text

namespace NotebookContexts

def added : List String := ["WFID", "EXECID", "NOW"]

/-- A context has the fields of the task that its type has. Its `runtime` is the reference of
an image, where the task has the name of a runtime. -/
structure Carries (task : NBTask) (ctx : ExecutionNBTask) : Prop where
  nb_name : ctx.nb_name = task.nb_name
  params : ∀ name, name ∉ added → ctx.params.lookup name = task.params.lookup name
  machine : ctx.machine = task.machine
  cluster : ctx.cluster = task.cluster
  gpu_support : ctx.gpu_support = task.gpu_support
  timeout : ctx.timeout = task.timeout
  remote_input : ctx.remote_input = task.remote_input
  remote_output : ctx.remote_output = task.remote_output
  notifications_ok : ctx.notifications_ok = task.notifications_ok
  notifications_fail : ctx.notifications_fail = task.notifications_fail

/-- A task of which nothing is lost: what either copy leaves out has its default value. -/
structure Plain (task : NBTask) : Prop where
  cluster : task.cluster = Defaults.CLUSTER_NAME
  gpu_support : task.gpu_support = false
  remote_input : task.remote_input = none
  remote_output : task.remote_output = none

/-- An identifier that is given, or drawn alike twice. -/
def Fixed {size : Nat} (given : Option String) (first second : NanoId size) : Prop :=
  truthy given = true ∨ first = second

section Fields

variable {env : Env} {projectid : String} {task : NBTask} {execid : Option String}
  {runtime : Option RuntimeData} {wfid : Option String}

theorem lookup_added (params : List (String × Json)) (wfid execid now : Json) {name : String}
    (other : name ∉ added) :
    (Dict.set (Dict.set (Dict.set params "WFID" wfid) "EXECID" execid) "NOW" now).lookup name =
      params.lookup name := by
  simp only [added, List.mem_cons, List.not_mem_nil, or_false, not_or] at other
  obtain ⟨notWfid, notExecid, notNow⟩ := other
  rw [Dict.lookup_set_ne _ _ notNow, Dict.lookup_set_ne _ _ notExecid,
    Dict.lookup_set_ne _ _ notWfid]


theorem client_carries_iff :
    Carries task (Client.create_notebook_ctx env projectid task execid runtime wfid) ↔
      Plain task := by
  constructor
  · intro carries
    exact ⟨carries.cluster.symm, carries.gpu_support.symm, carries.remote_input.symm,
      carries.remote_output.symm⟩
  · intro plain
    refine ⟨rfl, ?_, rfl, plain.cluster.symm, plain.gpu_support.symm, rfl,
      plain.remote_input.symm, plain.remote_output.symm, rfl, rfl⟩
    intro name other
    exact lookup_added _ _ _ _ other

theorem server_carries (plain : Plain task) :
    Carries task (Notebooks.create_notebook_ctx env projectid task execid runtime wfid) := by
  refine ⟨rfl, ?_, rfl, ?_, rfl, rfl, plain.remote_input.symm, plain.remote_output.symm, rfl, rfl⟩
  · intro name other
    exact lookup_added _ _ _ _ other
  · change pyOr (some task.cluster) Defaults.CLUSTER_NAME = task.cluster
    rw [plain.cluster]
    exact pyOr_of_ne_empty (by decide) _

/-- The image: the client names one without the suffix when no runtime is given. -/
theorem prepare_runtime_eq_iff (py : PyRepr) (gpu_support : Bool) :
    Client.prepare_runtime py runtime = Notebooks.prepare_runtime py runtime gpu_support ↔
      runtime ≠ none := by
  cases runtime with
  | some runtime => simp [Client.prepare_runtime, Notebooks.prepare_runtime]
  | none =>
      simp only [Client.prepare_runtime, Notebooks.prepare_runtime, ne_eq, not_true, iff_false]
      intro same
      have lengths := congrArg String.length same
      split at lengths <;> simp [String.length_append] at lengths

theorem pyOr_eq_iff {given : Option String} {first second : String} :
    pyOr given first = pyOr given second ↔ truthy given = true ∨ first = second := by
  cases given with
  | none => simp [pyOr, truthy]
  | some text => by_cases empty : text = "" <;> simp [pyOr, truthy, empty]

theorem wfid_eq_iff (first second : NanoId (Defaults.WFID_LEN - "tmp".length)) :
    pyOr wfid ("tmp" ++ first.text) = pyOr wfid ("tmp" ++ second.text) ↔
      Fixed wfid first second := by
  rw [pyOr_eq_iff, Fixed, String.append_right_inj, NanoId.text_inj]

theorem execid_eq_iff (first second : NanoId Defaults.EXECID_LEN) :
    pyOr execid (ExecID first none) = pyOr execid (ExecID second none) ↔
      Fixed execid first second := by
  rw [pyOr_eq_iff, Fixed]
  exact or_congr_right NanoId.text_inj

/-- The same clock, read by the scheduler, with identifiers of its own. -/
def redrawn (env : Env) (dummy : NanoId (Defaults.WFID_LEN - "tmp".length))
    (drawn : NanoId Defaults.EXECID_LEN) : Env :=
  { env with dummy := dummy, execid := drawn }

variable {dummy : NanoId (Defaults.WFID_LEN - "tmp".length)} {drawn : NanoId Defaults.EXECID_LEN}

theorem contexts_eq_iff (plain : Plain task) :
    Client.create_notebook_ctx env projectid task execid runtime wfid =
        Notebooks.create_notebook_ctx (redrawn env dummy drawn) projectid task execid runtime wfid ↔
      runtime ≠ none ∧ Fixed wfid env.dummy dummy ∧ Fixed execid env.execid drawn := by
  constructor
  · intro same
    refine ⟨?_, ?_, ?_⟩
    · exact (prepare_runtime_eq_iff env.repr task.gpu_support).mp
        (congrArg ExecutionNBTask.runtime same)
    · exact (wfid_eq_iff _ _).mp (congrArg ExecutionNBTask.wfid same)
    · exact (execid_eq_iff _ _).mp (congrArg ExecutionNBTask.execid same)
  · rintro ⟨given, sameWfid, sameExecid⟩
    have wfids := (wfid_eq_iff env.dummy dummy).mpr sameWfid
    have execids := (execid_eq_iff env.execid drawn).mpr sameExecid
    have images := (prepare_runtime_eq_iff env.repr task.gpu_support).mpr given
    have cluster : pyOr (some task.cluster) Defaults.CLUSTER_NAME = Defaults.CLUSTER_NAME := by
      rw [plain.cluster]
      exact pyOr_of_ne_empty (by decide) _
    unfold Client.create_notebook_ctx Notebooks.create_notebook_ctx
    simp only [Client._dummy_wfid, Notebooks.dummy_wfid, redrawn, wfids, execids, images, cluster]
    rw [← plain.gpu_support]

end Fields

/-- The two copies agree, and carry the task, exactly where a runtime is given, the fields one
of them leaves out have their defaults, and no identifier is drawn twice. -/
theorem contexts_agree_iff (env : Env) (dummy : NanoId (Defaults.WFID_LEN - "tmp".length))
    (drawn : NanoId Defaults.EXECID_LEN) (projectid : String) (task : NBTask)
    (execid : Option String) (runtime : Option RuntimeData) (wfid : Option String) :
    (Client.create_notebook_ctx env projectid task execid runtime wfid =
        Notebooks.create_notebook_ctx (redrawn env dummy drawn) projectid task execid runtime wfid ∧
      Carries task (Client.create_notebook_ctx env projectid task execid runtime wfid) ∧
      Carries task (Notebooks.create_notebook_ctx (redrawn env dummy drawn) projectid task execid
        runtime wfid)) ↔
    Plain task ∧ runtime ≠ none ∧ Fixed wfid env.dummy dummy ∧ Fixed execid env.execid drawn := by
  rw [client_carries_iff]
  constructor
  · rintro ⟨same, plain, _⟩
    exact ⟨plain, (contexts_eq_iff plain).mp same⟩
  · rintro ⟨plain, agrees⟩
    exact ⟨(contexts_eq_iff plain).mpr agrees, plain, server_carries plain⟩

/-- A task for a GPU loses it on the client's side, with every identifier given. -/
theorem gpu_support_dropped :
    ¬ ∀ (env : Env) (projectid : String) (task : NBTask) (execid wfid : String)
        (runtime : Option RuntimeData),
      Client.create_notebook_ctx env projectid task (some execid) runtime (some wfid) =
          Notebooks.create_notebook_ctx env projectid task (some execid) runtime (some wfid) ∧
        Carries task (Client.create_notebook_ctx env projectid task (some execid) runtime
          (some wfid)) := by
  intro agree
  have carries := (agree Sample.env "lab" { Sample.task with gpu_support := true } "loc.first"
    "nightly" none).2
  exact absurd carries.gpu_support (by decide)

end NotebookContexts

end LabFunctions
