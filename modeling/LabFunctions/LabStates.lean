import LabFunctions.Library.Models
import LabFunctions.Library.Runs
import LabFunctions.Database

/-!
`client.labstate`: the project and the workflows of a lab file, what a client does to them, and
what writing the file and reading it again keeps.
-/

namespace LabFunctions

structure ProjectData where
  name : String
  projectid : String
  owner : Option String := none
  agent : Option String := none
  users : Option (List String) := none
  description : Option String := none
  repository : Option String := none
  deriving DecidableEq

namespace ProjectData

open Dict

/-- `dict(exclude_none=True)` -/
def dict (project : ProjectData) : List (String × Json) :=
  [("name", .str project.name), ("projectid", .str project.projectid)] ++
    present "owner" (Codec.optStr.write project.owner) ++
    present "agent" (Codec.optStr.write project.agent) ++
    present "users" (Codec.optStrs.write project.users) ++
    present "description" (Codec.optStr.write project.description) ++
    present "repository" (Codec.optStr.write project.repository)

def ofDict (entries : List (String × Json)) : Option ProjectData := do
  let name ← required Codec.str entries "name"
  let projectid ← required Codec.str entries "projectid"
  let owner ← defaulted Codec.optStr none entries "owner"
  let agent ← defaulted Codec.optStr none entries "agent"
  let users ← defaulted Codec.optStrs none entries "users"
  let description ← defaulted Codec.optStr none entries "description"
  let repository ← defaulted Codec.optStr none entries "repository"
  return ⟨name, projectid, owner, agent, users, description, repository⟩

@[simp] theorem ofDict_dict (project : ProjectData) : ofDict project.dict = some project := by
  have owner : defaulted Codec.optStr none project.dict "owner" = some project.owner :=
    defaulted_present project.owner (by simp [dict, List.lookup_append, List.lookup_cons]; rfl)
  have agent : defaulted Codec.optStr none project.dict "agent" = some project.agent :=
    defaulted_present project.agent (by simp [dict, List.lookup_append, List.lookup_cons]; rfl)
  have users : defaulted Codec.optStrs none project.dict "users" = some project.users :=
    defaulted_present project.users (by simp [dict, List.lookup_append, List.lookup_cons]; rfl)
  have description : defaulted Codec.optStr none project.dict "description" =
      some project.description :=
    defaulted_present project.description (by simp [dict, List.lookup_append, List.lookup_cons]; rfl)
  have repository : defaulted Codec.optStr none project.dict "repository" =
      some project.repository :=
    defaulted_present project.repository (by simp [dict, List.lookup_append, List.lookup_cons]; rfl)
  have name : required Codec.str project.dict "name" = some project.name := rfl
  have projectid : required Codec.str project.dict "projectid" = some project.projectid := rfl
  simp only [ofDict, name, projectid, owner, agent, users, description, repository,
    Option.bind_eq_bind, Option.bind_some]
  rfl

end ProjectData

/-! The records of workflows, with the fields that each was given. -/

namespace Marked

structure ScheduleData where
  start_in_min : ModelField (0 : Int) := {}
  repeat_ : ModelField (none : Option Int) := {}
  cron : ModelField (none : Option String) := {}
  interval : ModelField (none : Option String) := {}

structure NBTask where
  nb_name : String
  params : List (String × Json)
  remote_input : ModelField (none : Option String) := {}
  remote_output : ModelField (none : Option String) := {}
  runtime : ModelField (none : Option String) := {}
  version : ModelField (none : Option String) := {}
  machine : ModelField Defaults.MACHINE_TYPE := {}
  cluster : ModelField Defaults.CLUSTER_NAME := {}
  gpu_support : ModelField false := {}
  description : ModelField (none : Option String) := {}
  timeout : ModelField (10800 : Int) := {}
  notifications_ok : ModelField (none : Option (List String)) := {}
  notifications_fail : ModelField (none : Option (List String)) := {}

structure WorkflowDataWeb where
  alias_ : String
  nbtask : NBTask
  enabled : ModelField true := {}
  wfid : ModelField (none : Option String) := {}
  schedule : ModelField (none : Option ScheduleData) := {}

namespace ScheduleData

/-- `dict(exclude_none=True, exclude_unset=True)` -/
def dict (schedule : ScheduleData) : List (String × Json) :=
  schedule.start_in_min.written .int "start_in_min" ++
    schedule.repeat_.written .optInt "repeat" ++
    schedule.cron.written .optStr "cron" ++
    schedule.interval.written .optStr "interval"

def ofDict (entries : List (String × Json)) : Option ScheduleData := do
  let start_in_min ← ModelField.read .int 0 (entries.lookup "start_in_min")
  let repeat_ ← ModelField.read .optInt none (entries.lookup "repeat")
  let cron ← ModelField.read .optStr none (entries.lookup "cron")
  let interval ← ModelField.read .optStr none (entries.lookup "interval")
  return ⟨start_in_min, repeat_, cron, interval⟩

def stored (schedule : ScheduleData) : ScheduleData where
  start_in_min := schedule.start_in_min.stored .int
  repeat_ := schedule.repeat_.stored .optInt
  cron := schedule.cron.stored .optStr
  interval := schedule.interval.stored .optStr

theorem ofDict_dict (schedule : ScheduleData) : ofDict schedule.dict = some schedule.stored := by
  simp [ofDict, dict, stored, List.lookup_append]

/-- What two records are compared by. -/
def values (schedule : ScheduleData) : LabFunctions.ScheduleData where
  start_in_min := schedule.start_in_min.value
  repeat_ := schedule.repeat_.value
  cron := schedule.cron.value
  interval := schedule.interval.value

@[simp] theorem values_stored (schedule : ScheduleData) :
    schedule.stored.values = schedule.values := by
  simp [values, stored]

def format : Format ScheduleData := .record dict ofDict stored ofDict_dict

end ScheduleData

namespace NBTask

def dict (task : NBTask) : List (String × Json) :=
  [("nb_name", .str task.nb_name), ("params", .dict task.params)] ++
    -- the entries of a dictionary are kept, null or not
    task.remote_input.written .optStr "remote_input" ++
    task.remote_output.written .optStr "remote_output" ++
    task.runtime.written .optStr "runtime" ++
    task.version.written .optStr "version" ++
    task.machine.written .str "machine" ++
    task.cluster.written .str "cluster" ++
    task.gpu_support.written .bool "gpu_support" ++
    task.description.written .optStr "description" ++
    task.timeout.written .int "timeout" ++
    task.notifications_ok.written .optStrs "notifications_ok" ++
    task.notifications_fail.written .optStrs "notifications_fail"

def ofDict (entries : List (String × Json)) : Option NBTask := do
  let nb_name ← Dict.required Codec.str entries "nb_name"
  let params ← Dict.required Codec.dict entries "params"
  let remote_input ← ModelField.read .optStr none (entries.lookup "remote_input")
  let remote_output ← ModelField.read .optStr none (entries.lookup "remote_output")
  let runtime ← ModelField.read .optStr none (entries.lookup "runtime")
  let version ← ModelField.read .optStr none (entries.lookup "version")
  let machine ← ModelField.read .str Defaults.MACHINE_TYPE (entries.lookup "machine")
  let cluster ← ModelField.read .str Defaults.CLUSTER_NAME (entries.lookup "cluster")
  let gpu_support ← ModelField.read .bool false (entries.lookup "gpu_support")
  let description ← ModelField.read .optStr none (entries.lookup "description")
  let timeout ← ModelField.read .int 10800 (entries.lookup "timeout")
  let notifications_ok ← ModelField.read .optStrs none (entries.lookup "notifications_ok")
  let notifications_fail ← ModelField.read .optStrs none (entries.lookup "notifications_fail")
  return ⟨nb_name, params, remote_input, remote_output, runtime, version, machine, cluster,
    gpu_support, description, timeout, notifications_ok, notifications_fail⟩

def stored (task : NBTask) : NBTask where
  nb_name := task.nb_name
  params := task.params
  remote_input := task.remote_input.stored .optStr
  remote_output := task.remote_output.stored .optStr
  runtime := task.runtime.stored .optStr
  version := task.version.stored .optStr
  machine := task.machine.stored .str
  cluster := task.cluster.stored .str
  gpu_support := task.gpu_support.stored .bool
  description := task.description.stored .optStr
  timeout := task.timeout.stored .int
  notifications_ok := task.notifications_ok.stored .optStrs
  notifications_fail := task.notifications_fail.stored .optStrs

theorem ofDict_dict (task : NBTask) : ofDict task.dict = some task.stored := by
  simp [ofDict, dict, stored, List.lookup_append, List.lookup_cons, Dict.required, Codec.str,
    Codec.dict]

def values (task : NBTask) : LabFunctions.NBTask where
  nb_name := task.nb_name
  params := task.params
  remote_input := task.remote_input.value
  remote_output := task.remote_output.value
  runtime := task.runtime.value
  version := task.version.value
  machine := task.machine.value
  cluster := task.cluster.value
  gpu_support := task.gpu_support.value
  description := task.description.value
  timeout := task.timeout.value
  notifications_ok := task.notifications_ok.value
  notifications_fail := task.notifications_fail.value

@[simp] theorem values_stored (task : NBTask) : task.stored.values = task.values := by
  simp [values, stored]

def format : Format NBTask := .record dict ofDict stored ofDict_dict

end NBTask

namespace WorkflowDataWeb

def schedules : Format (Option ScheduleData) :=
  ScheduleData.format.optional (by simp [ScheduleData.format, Format.record])

def dict (wd : WorkflowDataWeb) : List (String × Json) :=
  [("alias", .str wd.alias_), ("nbtask", NBTask.format.write wd.nbtask)] ++
    wd.enabled.written .bool "enabled" ++
    wd.wfid.written .optStr "wfid" ++
    wd.schedule.written schedules "schedule"

def ofDict (entries : List (String × Json)) : Option WorkflowDataWeb := do
  let alias_ ← Dict.required Codec.str entries "alias"
  let nbtask ← (entries.lookup "nbtask").bind NBTask.format.read
  let enabled ← ModelField.read .bool true (entries.lookup "enabled")
  let wfid ← ModelField.read .optStr none (entries.lookup "wfid")
  let schedule ← ModelField.read schedules none (entries.lookup "schedule")
  return ⟨alias_, nbtask, enabled, wfid, schedule⟩

def stored (wd : WorkflowDataWeb) : WorkflowDataWeb where
  alias_ := wd.alias_
  nbtask := wd.nbtask.stored
  enabled := wd.enabled.stored .bool
  wfid := wd.wfid.stored .optStr
  schedule := wd.schedule.stored schedules

theorem ofDict_dict (wd : WorkflowDataWeb) : ofDict wd.dict = some wd.stored := by
  have nbtask := NBTask.format.read_write wd.nbtask
  simp [ofDict, dict, stored, List.lookup_append, List.lookup_cons, Dict.required, Codec.str,
    nbtask]
  rfl

def values (wd : WorkflowDataWeb) : LabFunctions.WorkflowDataWeb where
  alias_ := wd.alias_
  nbtask := wd.nbtask.values
  enabled := wd.enabled.value
  wfid := wd.wfid.value
  schedule := wd.schedule.value.map ScheduleData.values

@[simp] theorem values_stored (wd : WorkflowDataWeb) : wd.stored.values = wd.values := by
  have schedule : (wd.schedule.stored schedules).value.map ScheduleData.values =
      wd.schedule.value.map ScheduleData.values := by
    refine ModelField.view_stored schedules (Option.map ScheduleData.values) ?_ ?_ wd.schedule
    · intro value
      cases value with
      | none => rfl
      | some value => exact congrArg some (ScheduleData.values_stored value)
    · intro value null
      cases value with
      | none => rfl
      | some value => cases null
  simp [values, stored, schedule]

def format : Format WorkflowDataWeb := .record dict ofDict stored ofDict_dict

end WorkflowDataWeb

/-! Assignments to attributes, each with a value of the declared type. -/

inductive ScheduleData.Assignment where
  | start_in_min (value : Int)
  | repeat_ (value : Option Int)
  | cron (value : Option String)
  | interval (value : Option String)

def ScheduleData.assign (schedule : ScheduleData) : ScheduleData.Assignment → ScheduleData
  | .start_in_min value => { schedule with start_in_min := schedule.start_in_min.assign value }
  | .repeat_ value => { schedule with repeat_ := schedule.repeat_.assign value }
  | .cron value => { schedule with cron := schedule.cron.assign value }
  | .interval value => { schedule with interval := schedule.interval.assign value }

inductive NBTask.Assignment where
  | nb_name (value : String)
  | params (value : List (String × Json))
  | remote_input (value : Option String)
  | remote_output (value : Option String)
  | runtime (value : Option String)
  | version (value : Option String)
  | machine (value : String)
  | cluster (value : String)
  | gpu_support (value : Bool)
  | description (value : Option String)
  | timeout (value : Int)
  | notifications_ok (value : Option (List String))
  | notifications_fail (value : Option (List String))

def NBTask.assign (task : NBTask) : NBTask.Assignment → NBTask
  | .nb_name value => { task with nb_name := value }
  | .params value => { task with params := value }
  | .remote_input value => { task with remote_input := task.remote_input.assign value }
  | .remote_output value => { task with remote_output := task.remote_output.assign value }
  | .runtime value => { task with runtime := task.runtime.assign value }
  | .version value => { task with version := task.version.assign value }
  | .machine value => { task with machine := task.machine.assign value }
  | .cluster value => { task with cluster := task.cluster.assign value }
  | .gpu_support value => { task with gpu_support := task.gpu_support.assign value }
  | .description value => { task with description := task.description.assign value }
  | .timeout value => { task with timeout := task.timeout.assign value }
  | .notifications_ok value => { task with notifications_ok := task.notifications_ok.assign value }
  | .notifications_fail value =>
      { task with notifications_fail := task.notifications_fail.assign value }

/-- The last two are assignments to the records inside. -/
inductive WorkflowDataWeb.Assignment where
  | alias_ (value : String)
  | nbtask (value : NBTask)
  | enabled (value : Bool)
  | wfid (value : Option String)
  | schedule (value : Option ScheduleData)
  | of_nbtask (assignment : NBTask.Assignment)
  | of_schedule (assignment : ScheduleData.Assignment)

def WorkflowDataWeb.assign (wd : WorkflowDataWeb) : WorkflowDataWeb.Assignment → WorkflowDataWeb
  | .alias_ value => { wd with alias_ := value }
  | .nbtask value => { wd with nbtask := value }
  | .enabled value => { wd with enabled := wd.enabled.assign value }
  | .wfid value => { wd with wfid := wd.wfid.assign value }
  | .schedule value => { wd with schedule := wd.schedule.assign value }
  | .of_nbtask assignment => { wd with nbtask := wd.nbtask.assign assignment }
  | .of_schedule assignment =>
      -- None has no such attribute
      { wd with schedule := ⟨wd.schedule.given.map (Option.map (·.assign assignment))⟩ }

end Marked

structure Labfile where
  project : ProjectData
  version : String := "0.2"
  workflows : Option (List (String × Marked.WorkflowDataWeb)) := some []

namespace Labfile

def readWorkflows : Option Json → Option (Option (List (String × Marked.WorkflowDataWeb)))
  | none => some (some [])
  | some .null => some none
  | some (.dict items) =>
      (items.mapM fun item =>
        (Marked.WorkflowDataWeb.format.read item.2).map fun wd => (item.1, wd)).map some
  | some _ => none

/-- Other entries of the file are ignored. -/
def ofDict (entries : List (String × Json)) : Option Labfile := do
  let fields ← Dict.required Codec.dict entries "project"
  let project ← ProjectData.ofDict fields
  let version ← Dict.defaulted Codec.str "0.2" entries "version"
  let workflows ← readWorkflows (entries.lookup "workflows")
  return ⟨project, version, workflows⟩

end Labfile

/-- PyYAML on the data that lab files are made of. -/
structure Yaml (Text : Type) where
  dump : Json → Text
  safe_load : Text → Option Json
  safe_load_dump : ∀ data, safe_load (dump data) = some data

abbrev Disk (Text : Type) := String → Option Text

structure LabState where
  version : String := "0.3"
  project : Option ProjectData := none
  workflows : List (String × Marked.WorkflowDataWeb) := []
  file : Option String := none

namespace LabState

variable {Text : Type}

def open_yaml (yaml : Yaml Text) (disk : Disk Text) (filepath : String) : Option Json :=
  (disk filepath).bind yaml.safe_load

def write_yaml (yaml : Yaml Text) (disk : Disk Text) (filepath : String) (data : Json) :
    Disk Text :=
  Function.update disk filepath (some (yaml.dump data))

def read (yaml : Yaml Text) (disk : Disk Text) (filepath : String) : Option Labfile := do
  let data_dict ← (open_yaml yaml disk filepath).bind Codec.dict.read
  Labfile.ofDict data_dict

def from_file (yaml : Yaml Text) (disk : Disk Text) (fpath : String) : Option LabState := do
  let wf ← read yaml disk fpath
  return {
    project := some wf.project
    version := wf.version
    workflows := wf.workflows.getD []
    file := some fpath }

def add_workflow (state : LabState) (wf : Marked.WorkflowDataWeb) : LabState :=
  { state with workflows := Dict.set state.workflows wf.alias_ wf }

/-- An alias that is not there raises and leaves the state as it is. -/
def delete_workflow (state : LabState) (alias_ : String) : LabState :=
  { state with workflows := state.workflows.filter (·.1 ≠ alias_) }

def set_projectid (state : LabState) (projectid : String) : LabState :=
  { state with project := state.project.map fun project => { project with projectid := projectid } }

def update_project (state : LabState) (pd : ProjectData) : LabState :=
  { state with project := some pd }

/-- Several aliases may stand for one and the same workflow, or workflows share a record. -/
def assign (state : LabState) (aliases : List String)
    (assignment : Marked.WorkflowDataWeb.Assignment) : LabState :=
  { state with
    workflows := state.workflows.map fun entry =>
      if entry.1 ∈ aliases then (entry.1, entry.2.assign assignment) else entry }

/-- A lab file needs a project. -/
def snapshot (state : LabState) : Option Labfile :=
  state.project.map fun project => ⟨project, state.version, some state.workflows⟩

def written (workflows : List (String × Marked.WorkflowDataWeb)) : List (String × Json) :=
  if workflows = [] then []
  else [("workflows", .dict (workflows.map fun entry =>
    (entry.1, Marked.WorkflowDataWeb.format.write entry.2)))]

def write (state : LabState) (yaml : Yaml Text) (disk : Disk Text) (fp : String) :
    Option (Disk Text) := do
  let wf ← state.snapshot
  return write_yaml yaml disk fp (.dict (
    [("version", .str wf.version), ("project", .dict wf.project.dict)] ++
      written (wf.workflows.getD [])))

end LabState

namespace LabStates

open LabState

variable {Text : Type}

inductive Request where
  | add_workflow (wf : Marked.WorkflowDataWeb)
  | delete_workflow (alias_ : String)
  | projectid (projectid : String)
  | update_project (pd : ProjectData)
  | assign (aliases : List String) (assignment : Marked.WorkflowDataWeb.Assignment)

def step (state : LabState) : Request → LabState
  | .add_workflow wf => state.add_workflow wf
  | .delete_workflow alias_ => state.delete_workflow alias_
  | .projectid projectid => state.set_projectid projectid
  | .update_project pd => state.update_project pd
  | .assign aliases assignment => state.assign aliases assignment

/-- Records are equal if their fields are, given or not. -/
structure Agree (left right : LabState) : Prop where
  version : left.version = right.version
  project : left.project = right.project
  workflows : left.workflows.map (fun entry => (entry.1, entry.2.values)) =
    right.workflows.map fun entry => (entry.1, entry.2.values)

theorem mapM_written (workflows : List (String × Marked.WorkflowDataWeb)) :
    (workflows.map fun entry =>
        (entry.1, Marked.WorkflowDataWeb.format.write entry.2)).mapM (fun item =>
      (Marked.WorkflowDataWeb.format.read item.2).map fun wd => (item.1, wd)) =
      some (workflows.map fun entry => (entry.1, entry.2.stored)) := by
  induction workflows with
  | nil => rfl
  | cons entry rest ih =>
      have back : Marked.WorkflowDataWeb.format.read
          (Marked.WorkflowDataWeb.format.write entry.2) = some entry.2.stored :=
        Marked.WorkflowDataWeb.format.read_write entry.2
      rw [List.map_cons, List.mapM_cons, ih, back]
      rfl

theorem readWorkflows_written (workflows : List (String × Marked.WorkflowDataWeb)) :
    Labfile.readWorkflows ((written workflows).lookup "workflows") =
      some (some (workflows.map fun entry => (entry.1, entry.2.stored))) := by
  unfold written
  by_cases empty : workflows = []
  · rw [if_pos empty, empty]
    rfl
  · rw [if_neg empty]
    simp only [List.lookup_cons, beq_self_eq_true, Labfile.readWorkflows, mapM_written]
    rfl

theorem ofDict_written (wf : Labfile) :
    Labfile.ofDict ([("version", .str wf.version), ("project", .dict wf.project.dict)] ++
        written (wf.workflows.getD [])) =
      some ⟨wf.project, wf.version,
        some ((wf.workflows.getD []).map fun entry => (entry.1, entry.2.stored))⟩ := by
  have workflows := readWorkflows_written (wf.workflows.getD [])
  simp only [Labfile.ofDict, Dict.required, Dict.defaulted, List.lookup_append, List.lookup_cons]
  simp [Codec.str, Codec.dict, workflows]

/-- Whatever the state, its file gives its version, project and workflows back. -/
theorem from_file_write (yaml : Yaml Text) (disk : Disk Text) (fp : String) {state : LabState}
    (present : state.project.isSome = true) :
    ∃ later again, state.write yaml disk fp = some later ∧
      from_file yaml later fp = some again ∧ Agree again state := by
  obtain ⟨project, held⟩ := Option.isSome_iff_exists.mp present
  have snapshot : state.snapshot = some ⟨project, state.version, some state.workflows⟩ := by
    rw [LabState.snapshot, held, Option.map_some]
  let data : Json := .dict ([("version", .str state.version), ("project", .dict project.dict)] ++
    written state.workflows)
  refine ⟨write_yaml yaml disk fp data,
    { project := some project
      version := state.version
      workflows := state.workflows.map fun entry => (entry.1, entry.2.stored)
      file := some fp }, ?_, ?_, ?_⟩
  · rw [write, snapshot]
    rfl
  · have loaded : open_yaml yaml (write_yaml yaml disk fp data) fp = some data := by
      rw [open_yaml, write_yaml, Function.update_self, Option.bind_some, yaml.safe_load_dump]
    have read : LabState.read yaml (write_yaml yaml disk fp data) fp =
        some ⟨project, state.version,
          some (state.workflows.map fun entry => (entry.1, entry.2.stored))⟩ := by
      rw [LabState.read, loaded]
      exact ofDict_written ⟨project, state.version, some state.workflows⟩
    rw [from_file, read]
    rfl
  · refine ⟨rfl, held.symm, ?_⟩
    simp

theorem project_of_from_file {yaml : Yaml Text} {disk : Disk Text} {fpath : String}
    {loaded : LabState} (read : from_file yaml disk fpath = some loaded) :
    loaded.project.isSome = true := by
  cases opened : LabState.read yaml disk fpath with
  | none =>
      rw [from_file, opened] at read
      cases read
  | some wf =>
      rw [from_file, opened] at read
      obtain rfl := Option.some.inj read
      rfl

theorem project_step (state : LabState) (request : Request)
    (present : state.project.isSome = true) : (step state request).project.isSome = true := by
  cases request with
  | add_workflow wf => exact present
  | delete_workflow alias_ => exact present
  | projectid projectid => simpa [step, set_projectid] using present
  | update_project pd => rfl
  | assign aliases assignment => exact present

/-- After any changes to a state that was read from a lab file, writing it and reading it again
gives an equal one. -/
theorem write_restores (yaml : Yaml Text) (disk now : Disk Text) (fpath fp : String)
    (loaded : LabState) (requests : List Request)
    (read : from_file yaml disk fpath = some loaded) :
    ∃ later again, (Runs.run step loaded requests).write yaml now fp = some later ∧
      from_file yaml later fp = some again ∧ Agree again (Runs.run step loaded requests) := by
  have kept := Runs.run_kept project_step (project_of_from_file read) requests
  exact from_file_write yaml now fp kept

namespace Sample

def yaml : Yaml Json where
  dump data := data
  safe_load := some
  safe_load_dump _ := rfl

def disk (_ : String) : Option Json :=
  some (.dict [("version", .str "0.2.0"),
    ("project", .dict [("name", .str "pd"), ("projectid", .str "lab"), ("agent", .null)])])

def loaded : LabState :=
  { version := "0.2.0"
    project := some { name := "pd", projectid := "lab" }
    file := some "labfile.yaml" }

def requests : List Request :=
  [.add_workflow ⟨"daily", { nb_name := "report", params := [("WHEN", .null)] }, {}, {}, {}⟩,
    .assign ["daily"] (.of_nbtask (.timeout 60)), .assign ["daily"] (.wfid none)]

end Sample

theorem write_restores_sample :
    from_file Sample.yaml Sample.disk "labfile.yaml" = some Sample.loaded ∧
      ∃ later again,
        (Runs.run step Sample.loaded Sample.requests).write Sample.yaml Sample.disk "copy.yaml" =
          some later ∧
        from_file Sample.yaml later "copy.yaml" = some again ∧
          Agree again (Runs.run step Sample.loaded Sample.requests) := by
  have read : from_file Sample.yaml Sample.disk "labfile.yaml" = some Sample.loaded := rfl
  exact ⟨read, write_restores _ _ _ _ _ _ _ read⟩

end LabStates

end LabFunctions
