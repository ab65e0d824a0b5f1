import LabFunctions.Types

/-!
`labfunctions.notebooks.context`, `labfunctions.context` and the runtime part of
`labfunctions.executors.nbtask_base`: the execution context built from a task.
-/

namespace LabFunctions

/-- Python's `repr`, as far as `str` of a pydantic model uses it. The text of a string
literal holds the string between two quotes, escapes only make it longer. -/
structure PyRepr where
  str : String → String
  spec : RuntimeSpec → String
  quoted : ∀ text, text.length + 2 ≤ (str text).length

/-- What one call reads from outside its arguments: the two clock readings of
`create_notebook_ctx`, the random identifiers it may draw, and `repr`. -/
structure Env where
  wfid : NanoId Defaults.WFID_LEN
  dummy : NanoId (Defaults.WFID_LEN - "tmp".length)
  execid : NanoId Defaults.EXECID_LEN
  today : DateTime
  now : DateTime
  repr : PyRepr

def pyOr (value : Option String) (default : String) : String :=
  match value with
  | some text => if text = "" then default else text
  | none => default

def truthy (value : Option String) : Bool :=
  match value with
  | some text => text != ""
  | none => false

namespace PyRepr

def optStr (py : PyRepr) : Option String → String
  | some text => py.str text
  | none => "None"

def optNat : Option Nat → String
  | some number => toString number
  | none => "None"

end PyRepr

def RuntimeData.str (py : PyRepr) (runtime : RuntimeData) : String :=
  "runtimeid=" ++ py.str runtime.runtimeid ++
    " runtime_name=" ++ py.str runtime.runtime_name ++
    " docker_name=" ++ py.str runtime.docker_name ++
    " spec=" ++ py.spec runtime.spec ++
    " project_id=" ++ py.str runtime.project_id ++
    " version=" ++ py.str runtime.version ++
    " created_at=" ++ py.optStr runtime.created_at ++
    " registry=" ++ py.optStr runtime.registry ++
    " id=" ++ PyRepr.optNat runtime.id

def ExecID (drawn : NanoId Defaults.EXECID_LEN) (pre : Option String) : String :=
  if truthy pre then pyOr pre "" ++ drawn.text else drawn.text

/-- The reference of a known runtime; the three copies of `prepare_runtime` share this text.
With a registry the source interpolates the record itself, not the name built before. -/
def runtimeImage (py : PyRepr) (runtime : RuntimeData) : String :=
  if truthy runtime.registry then pyOr runtime.registry "" ++ "/" ++ runtime.str py
  else runtime.docker_name ++ ":" ++ runtime.version

namespace Notebooks

def dummy_wfid (env : Env) : String := "tmp" ++ env.dummy.text

def prepare_runtime (py : PyRepr) (runtime : Option RuntimeData) (gpu_support : Bool) : String :=
  match runtime with
  | none =>
      if gpu_support then Defaults.DOCKERFILE_IMAGE ++ ":" ++ get_version ++ "-client-gpu"
      else Defaults.DOCKERFILE_IMAGE ++ ":" ++ get_version ++ "-client"
  | some runtime => runtimeImage py runtime

def create_notebook_ctx (env : Env) (projectid : String) (task : NBTask)
    (execid : Option String := none) (runtime : Option RuntimeData := none)
    (wfid : Option String := none) : ExecutionNBTask :=
  let today := today_string env.today
  let now := env.now.isoformat
  let wfid := pyOr wfid (dummy_wfid env)
  let execid := pyOr execid (ExecID env.execid none)
  let params := Dict.set (Dict.set (Dict.set task.params "WFID" (.str wfid))
    "EXECID" (.str execid)) "NOW" (.str now)
  let papermill_input :=
    ((Paths.PurePath.parse Defaults.NOTEBOOKS_DIR).join (task.nb_name ++ ".ipynb")).str
  let output_dir := Defaults.NB_OUTPUTS ++ "/ok/" ++ today
  let error_dir := Defaults.NB_OUTPUTS ++ "/errors/" ++ today
  let output_name := wfid ++ "." ++ task.nb_name ++ "." ++ execid ++ ".ipynb"
  { projectid := projectid
    wfid := wfid
    execid := execid
    nb_name := task.nb_name
    runtime := prepare_runtime env.repr runtime task.gpu_support
    machine := task.machine
    cluster := pyOr (some task.cluster) Defaults.CLUSTER_NAME
    params := params
    pm_input := papermill_input
    pm_output := output_dir ++ "/" ++ output_name
    output_name := output_name
    output_dir := output_dir
    error_dir := error_dir
    today := today
    timeout := task.timeout
    gpu_support := task.gpu_support
    created_at := now
    notifications_ok := task.notifications_ok
    notifications_fail := task.notifications_fail }

end Notebooks

namespace Client

def prepare_runtime (py : PyRepr) (runtime : Option RuntimeData) : String :=
  match runtime with
  | none => Defaults.DOCKERFILE_IMAGE ++ ":" ++ get_version
  | some runtime => runtimeImage py runtime

end Client

namespace NBTaskBase

def _prepare_runtime (py : PyRepr) (runtime : Option RuntimeData) : String :=
  match runtime with
  | none => Defaults.DOCKERFILE_IMAGE ++ ":" ++ get_version
  | some runtime => runtimeImage py runtime

end NBTaskBase

theorem pyOr_of_ne_empty {text : String} (nonempty : text ≠ "") (default : String) :
    pyOr (some text) default = text := by
  simp [pyOr, nonempty]

theorem truthy_iff {value : Option String} :
    truthy value = true ↔ ∃ text, value = some text ∧ text ≠ "" := by
  cases value <;> simp [truthy]

theorem NanoId.ne_empty {size : Nat} (id : NanoId (size + 1)) : id.text ≠ "" := by
  intro empty
  have length := id.length
  rw [empty] at length
  simp at length

theorem ExecID_ne_empty (drawn : NanoId Defaults.EXECID_LEN) (pre : Option String) :
    ExecID drawn pre ≠ "" := by
  have drawnNonempty : drawn.text ≠ "" := NanoId.ne_empty drawn
  unfold ExecID
  split
  · intro empty
    exact drawnNonempty (String.append_eq_empty_iff.mp empty).2
  · exact drawnNonempty

/-! One concrete reading of the outside world, for the closed results of the later modules. -/

namespace Sample

def repr : PyRepr where
  str text := "'" ++ text ++ "'"
  spec spec := "RuntimeSpec(name='" ++ spec.name ++ "')"
  quoted text := by
    rw [String.length_append, String.length_append]
    have quote : "'".length = 1 := rfl
    omega

def morning : DateTime :=
  { year := 2022, month := 6, day := 1, hour := 10, minute := 0, second := 0, microsecond := 0 }

def env : Env where
  wfid := { text := "aaaaaaaaaaa" }
  dummy := { text := "dddddddd" }
  execid := { text := "eeeeeeeeeeeeee" }
  today := morning
  now := morning
  repr := repr

def task : NBTask := { nb_name := "welcome", params := [] }

end Sample

end LabFunctions
