import Mathlib.Data.Nat.Notation
import LabFunctions.Library.Dicts
import LabFunctions.Library.Paths

/-!
Defaults, clock readings, random identifiers and the pydantic types of
`labfunctions.types`, with what `.dict()` writes and what the constructors read.
-/

namespace LabFunctions

namespace Defaults

def PROJECT_ID_ALPHABET : String := "0123456789abcdefghijklmnopqrstuvwxyz"
def NANO_ID_ALPHABET : String := "0123456789ABCDEFGHIJKLMNOPQRSTUVWXYZ_abcdefghijklmnopqrstuvwxyz-"
def WFID_LEN : Nat := 11
def EXECID_LEN : Nat := 14
def MACHINE_TYPE : String := "cpu"
def CLUSTER_NAME : String := "default"
def NOTEBOOKS_DIR : String := "notebooks/"
def NB_OUTPUTS : String := "outputs"
def PROJECT_UPLOADS : String := "uploads"
def SECRETS_FILENAME : String := ".secrets"
def NBVARS_VAR_NAME : String := "LF_LABVARS"
def PRIVKEY_VAR_NAME : String := "PRIVATE_KEY"
def AGENT_USER_PREFIX : String := "agt"
def AGENT_SCOPES : String := "agent:rw"
def AGENT_LEN : Nat := 8
def DOCKER_AUTHOR : String := "labfunctions"
def DOCKERFILE_IMAGE : String := "nuxion/labfunctions"

end Defaults

def get_version : String := "0.9.0-alpha.4"

/-! What a clock reading looks like as text. -/

structure DateTime where
  year : Nat
  month : Nat
  day : Nat
  hour : Nat
  minute : Nat
  second : Nat
  microsecond : Nat
  inRange : 1970 ≤ year ∧ year ≤ 9999 ∧ 1 ≤ month ∧ month ≤ 12 ∧ 1 ≤ day ∧ day ≤ 31 ∧
    hour < 24 ∧ minute < 60 ∧ second < 60 ∧ microsecond < 1000000 := by decide
  deriving DecidableEq

namespace DateTime

def digit (n : Nat) : Char := Nat.digitChar (n % 10)

def two (n : Nat) : String := String.ofList [digit (n / 10), digit n]

def four (n : Nat) : String := two (n / 100) ++ two n

def dayString (time : DateTime) : String := four time.year ++ two time.month ++ two time.day

def isoformat (time : DateTime) : String :=
  four time.year ++ "-" ++ two time.month ++ "-" ++ two time.day ++ "T" ++
    two time.hour ++ ":" ++ two time.minute ++ ":" ++ two time.second ++
    (if time.microsecond = 0 then "" else
      "." ++ four (time.microsecond / 100) ++ two time.microsecond)

def rank (time : DateTime) : Nat :=
  (((((time.year * 13 + time.month) * 32 + time.day) * 24 + time.hour) * 60 + time.minute) * 60 +
    time.second) * 1000000 + time.microsecond

theorem digit_ne_slash (n : Nat) : digit n ≠ '/' := by
  have below : n % 10 < 10 := Nat.mod_lt _ (by decide)
  have digits : ∀ d < 10, Nat.digitChar d ≠ '/' := by decide
  exact digits _ below

@[simp] theorem length_dayString (time : DateTime) : time.dayString.length = 8 := by
  simp [dayString, four, two]

theorem clean_dayString (time : DateTime) : Paths.Clean time.dayString := by
  have length := length_dayString time
  refine ⟨?_, ?_, ?_⟩
  · simp [dayString, four, two, Ne.symm (digit_ne_slash _)]
  · intro empty
    exact absurd (empty ▸ length) (by decide)
  · intro dot
    exact absurd (dot ▸ length) (by decide)

end DateTime

def today_string (now : DateTime) : String := now.dayString

/-- What `generate_random(size)` returns: `size` characters of the nanoid alphabet. -/
structure NanoId (size : Nat) where
  text : String
  length : text.length = size := by decide
  alphabet : text.toList.all Defaults.NANO_ID_ALPHABET.toList.contains = true := by decide
  deriving DecidableEq

theorem NanoId.no_dot {size : Nat} (id : NanoId size) : '.' ∉ id.text.toList := by
  intro member
  have inside := List.all_eq_true.mp id.alphabet _ member
  exact absurd inside (by decide)

structure ProjectId where
  text : String
  alphabet : text.toList.all Defaults.PROJECT_ID_ALPHABET.toList.contains = true := by decide
  deriving DecidableEq

/-! `types.core` -/

structure ScheduleData where
  start_in_min : Int := 0
  repeat_ : Option Int := none
  cron : Option String := none
  interval : Option String := none
  deriving DecidableEq

structure NBTask where
  nb_name : String
  params : List (String × Json)
  remote_input : Option String := none
  remote_output : Option String := none
  runtime : Option String := none
  version : Option String := none
  machine : String := Defaults.MACHINE_TYPE
  cluster : String := Defaults.CLUSTER_NAME
  gpu_support : Bool := false
  description : Option String := none
  timeout : Int := 10800
  notifications_ok : Option (List String) := none
  notifications_fail : Option (List String) := none

structure ExecutionNBTask where
  projectid : String
  wfid : String
  execid : String
  nb_name : String
  params : List (String × Json)
  runtime : String
  pm_input : String
  pm_output : String
  output_name : String
  output_dir : String
  error_dir : String
  today : String
  timeout : Int
  created_at : String
  gpu_support : Bool := false
  cluster : String := Defaults.CLUSTER_NAME
  machine : String := Defaults.MACHINE_TYPE
  remote_input : Option String := none
  remote_output : Option String := none
  notifications_ok : Option (List String) := none
  notifications_fail : Option (List String) := none

structure ExecutionResult where
  projectid : String
  execid : String
  wfid : String
  name : String
  params : List (String × Json)
  input_ : String
  error : Bool
  elapsed_secs : String
  created_at : String
  cluster : Option String := none
  machine : Option String := none
  runtime : Option String := none
  docker_name : Option String := none
  output_name : Option String := none
  output_dir : Option String := none
  error_dir : Option String := none
  error_msg : Option String := none

structure WorkflowDataWeb where
  alias_ : String
  nbtask : NBTask
  enabled : Bool := true
  wfid : Option String := none
  schedule : Option ScheduleData := none

/-! `types.runtimes` -/

structure DockerGPUSpec where
  cuda : String := "11.6"
  cudnn : String := "8.4.0.27-1+cuda11.6"
  cudnn_major_version : String := "8"
  nvidia_gpg_key : String := "3bf863cc"
  nvidia_gpg_version : String := "2004"

structure DockerAppUser where
  uid : Int := 1089
  gid : Int := 1089

structure DockerSpec where
  image : String
  maintainer : String
  build_packages : Option String := none
  final_packages : Option String := none
  user : DockerAppUser := {}
  base_template : String := "Dockerfile.default"
  requirements : String := "requirements.txt"
  gpu : Option DockerGPUSpec := none
  extra : Option (List (String × Json)) := none

structure RuntimeSpec where
  name : String
  container : DockerSpec
  description : Option String := none
  gpu_support : Bool := false
  version : Option String := none
  registry : Option String := none

structure RuntimeReq where
  runtime_name : String
  docker_name : String
  spec : RuntimeSpec
  project_id : String
  version : String
  registry : Option String

structure RuntimeData where
  runtimeid : String
  runtime_name : String
  docker_name : String
  spec : RuntimeSpec
  project_id : String
  version : String
  created_at : Option String := none
  registry : Option String := none
  id : Option Nat := none

structure BuildCtx where
  projectid : String
  spec : RuntimeSpec
  docker_name : String
  version : String
  dockerfile : String
  zip_name : String
  download_zip : String
  execid : String
  project_store_class : String
  project_store_bucket : String
  registry : Option String := none

/-! Dictionaries of the models that travel through JSON columns. -/

namespace ScheduleData

open Dict

def dict (schedule : ScheduleData) : List (String × Json) :=
  [("start_in_min", Codec.int.write schedule.start_in_min),
    ("repeat", Codec.optInt.write schedule.repeat_),
    ("cron", Codec.optStr.write schedule.cron),
    ("interval", Codec.optStr.write schedule.interval)]

def ofDict (entries : List (String × Json)) : Option ScheduleData := do
  let start_in_min ← defaulted Codec.int 0 entries "start_in_min"
  let repeat_ ← defaulted Codec.optInt none entries "repeat"
  let cron ← defaulted Codec.optStr none entries "cron"
  let interval ← defaulted Codec.optStr none entries "interval"
  return ⟨start_in_min, repeat_, cron, interval⟩

@[simp] theorem ofDict_dict (schedule : ScheduleData) : ofDict schedule.dict = some schedule := by
  simp [ofDict, dict, defaulted, List.lookup_cons, Codec.read_write]

end ScheduleData

namespace NBTask

open Dict

def dict (task : NBTask) : List (String × Json) :=
  [("nb_name", Codec.str.write task.nb_name),
    ("params", Codec.dict.write task.params),
    ("remote_input", Codec.optStr.write task.remote_input),
    ("remote_output", Codec.optStr.write task.remote_output),
    ("runtime", Codec.optStr.write task.runtime),
    ("version", Codec.optStr.write task.version),
    ("machine", Codec.str.write task.machine),
    ("cluster", Codec.str.write task.cluster),
    ("gpu_support", Codec.bool.write task.gpu_support),
    ("description", Codec.optStr.write task.description),
    ("timeout", Codec.int.write task.timeout),
    ("notifications_ok", Codec.optStrs.write task.notifications_ok),
    ("notifications_fail", Codec.optStrs.write task.notifications_fail)]

def ofDict (entries : List (String × Json)) : Option NBTask := do
  let nb_name ← required Codec.str entries "nb_name"
  let params ← required Codec.dict entries "params"
  let remote_input ← defaulted Codec.optStr none entries "remote_input"
  let remote_output ← defaulted Codec.optStr none entries "remote_output"
  let runtime ← defaulted Codec.optStr none entries "runtime"
  let version ← defaulted Codec.optStr none entries "version"
  let machine ← defaulted Codec.str Defaults.MACHINE_TYPE entries "machine"
  let cluster ← defaulted Codec.str Defaults.CLUSTER_NAME entries "cluster"
  let gpu_support ← defaulted Codec.bool false entries "gpu_support"
  let description ← defaulted Codec.optStr none entries "description"
  let timeout ← defaulted Codec.int 10800 entries "timeout"
  let notifications_ok ← defaulted Codec.optStrs none entries "notifications_ok"
  let notifications_fail ← defaulted Codec.optStrs none entries "notifications_fail"
  return ⟨nb_name, params, remote_input, remote_output, runtime, version, machine, cluster,
    gpu_support, description, timeout, notifications_ok, notifications_fail⟩

@[simp] theorem ofDict_dict (task : NBTask) : ofDict task.dict = some task := by
  simp [ofDict, dict, required, defaulted, List.lookup_cons, Codec.read_write]

end NBTask

end LabFunctions
