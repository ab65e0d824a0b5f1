import LabFunctions.Context
import LabFunctions.Library.Directories

/-!
`labfunctions.cluster`: the cluster file, the requests for machines, and the registry of
instances that `ClusterControl` keeps in Redis.
-/

namespace LabFunctions

inductive ClusterError where
  | keyError (key : String)
  | indexError
  | attributeError
  | typeError
  | importError (path : String)
  | fileNotFoundError (path : String)
  | resourceExistsError (name : String)
  | connectionLost
  | retryError
  deriving DecidableEq

/-! `cluster.types` -/

structure DestroyRequest where
  cluster_name : String
  machine_name : String

structure DeployAgentRequest where
  qnames : List String := ["cpu"]
  use_public : Bool := true
  docker_image : String := "nuxion/labfunctions"
  docker_version : String := "latest"
  worker_procs : Int := 2

structure DeployAgentTask where
  machine_name : String
  cluster_name : String := "default"
  qnames : List String := ["cpu"]
  use_public : Bool := true
  docker_version : String := "latest"
  docker_image : String := "nuxion/labfunctions"
  worker_procs : Int := 2

structure CreateRequest where
  cluster_name : String
  alias_ : Option String := none
  agent : Option DeployAgentRequest := none

structure ClusterSpec where
  name : String
  machine : String
  provider : String := "local"

structure MachineType where
  size : String
  image : String
  network : String := "default"

structure MachineGPU where
  gpu_type : String
  count : Int := 1

structure BlockStorage where
  name : String
  size : Sum Int String
  location : String
  mount : String := "/mnt/disk0"
  create_if_not_exist : Bool := false
  snapshot : Option String := none
  image : Option String := none
  kind : Option String := none

structure MachineOrm where
  name : String
  provider : String
  location : String
  machine_type : MachineType
  gpu : Option MachineGPU := none
  volumes : List String := []

/-- The dictionary that `_create_machine_req` builds. -/
structure MachineLabels where
  cluster : String
  gpu : String
  tags : List String
  deriving DecidableEq

structure MachineRequest where
  name : String
  size : String
  image : String
  location : String
  provider : String
  volumes : List BlockStorage := []
  gpu : Option MachineGPU := none
  ssh_public_cert : String
  ssh_user : String := "op"
  network : String := "default"
  labels : MachineLabels

structure MachineInstance where
  machine_id : String
  machine_name : String
  location : String
  private_ips : List String
  public_ips : List String := []
  volumes : List String := []
  labels : Option MachineLabels := none
  cluster : String := "default"
  deriving DecidableEq

structure ClusterFileType where
  providers : List (String × String)
  clusters : List (String × ClusterSpec)
  volumes : List (String × BlockStorage)
  machines : List (String × MachineOrm)

inductive ProviderClass where
  | local
  | gce
  deriving DecidableEq

/-- `data[key]` -/
def getItem {α : Type} (entries : List (String × α)) (key : String) : Except ClusterError α :=
  match entries.lookup key with
  | some value => .ok value
  | none => .error (.keyError key)

/-- `items[0]` -/
def firstItem (items : List String) : Except ClusterError String :=
  match items with
  | item :: _ => .ok item
  | [] => .error .indexError

namespace ClustersFile

def get_cluster (data : ClusterFileType) (name : String) : Except ClusterError ClusterSpec :=
  getItem data.clusters name

/-- `get_class`, for the two classes there are. -/
def get_class (path : String) : Except ClusterError ProviderClass :=
  if path = "labfunctions.cluster.providers.local.LocalProvider" then .ok .local
  else if path = "labfunctions.cluster.providers.gcloud.GCEProvider" then .ok .gce
  else .error (.importError path)

def get_provider (data : ClusterFileType) (name : String) : Except ClusterError ProviderClass := do
  let path ← getItem data.providers name
  get_class path

def get_machine (data : ClusterFileType) (name : String) : Except ClusterError MachineOrm :=
  getItem data.machines name

def get_volume (data : ClusterFileType) (name : String) : Except ClusterError BlockStorage :=
  getItem data.volumes name

end ClustersFile

/-- A value of the Redis store: a machine as JSON text, or a set of names. -/
inductive RedisValue where
  | text (machine : MachineInstance)
  | members (names : Finset String)

abbrev Redis := String → Option RedisValue

namespace Redis

def get (redis : Redis) (key : String) : Option MachineInstance :=
  match redis key with
  | some (.text machine) => some machine
  | _ => none

def smembers (redis : Redis) (key : String) : Finset String :=
  match redis key with
  | some (.members names) => names
  | _ => ∅

def set (redis : Redis) (key : String) (machine : MachineInstance) : Redis :=
  Function.update redis key (some (.text machine))

def delete (redis : Redis) (key : String) : Redis := Function.update redis key none

def sadd (redis : Redis) (key name : String) : Redis :=
  Function.update redis key (some (.members (insert name (redis.smembers key))))

def srem (redis : Redis) (key name : String) : Redis :=
  Function.update redis key (some (.members ((redis.smembers key).erase name)))

end Redis

structure ClusterControl where
  cluster : ClusterFileType
  ssh_user : String
  pub_key : String

namespace ClusterControl

def CLOUD_TAG : String := "labfunctions"

def MACHINE_KEY : String := "lab.mch::"

def MACHINES_LIST : String := "lab.machines::"

def CLUSTERS_LIST : String := "lab.clusters"

def machines_list_key (cluster_name : String) : String := MACHINES_LIST ++ cluster_name

/-- The name of a machine. `random` is the text that `generate_random` would return. -/
def machineName (machine : MachineOrm) (alias_ : Option String) (random : String) : String :=
  machine.name ++ "-" ++ pyOr alias_ random

def _create_machine_req (cc : ClusterControl) (machine_name cluster_name : String)
    (alias_ : Option String) (random : String) : Except ClusterError MachineRequest := do
  let machine ← ClustersFile.get_machine cc.cluster machine_name
  let type_ := machine.machine_type
  let gpu := if machine.gpu.isSome then "yes" else "no"
  let volumes ← machine.volumes.mapM (ClustersFile.get_volume cc.cluster)
  return {
    name := machineName machine alias_ random
    ssh_public_cert := cc.pub_key
    ssh_user := cc.ssh_user
    gpu := machine.gpu
    provider := machine.provider
    image := type_.image
    volumes := volumes
    size := type_.size
    location := machine.location
    network := type_.network
    labels := { cluster := cluster_name, gpu := gpu, tags := [CLOUD_TAG] } }

/-- `register_instance`, whose pipeline Redis applies as one transaction. -/
def register_instance (redis : Redis) (machine : MachineInstance) (cluster_name : String) : Redis :=
  let redis := redis.set (MACHINE_KEY ++ machine.machine_name) machine
  let redis := redis.sadd CLUSTERS_LIST cluster_name
  redis.sadd (machines_list_key cluster_name) machine.machine_name

def unregister_instance (redis : Redis) (machine_name cluster_name : String) : Redis :=
  -- both values are the request's, and the machine may be in the set of another cluster
  (redis.delete (MACHINE_KEY ++ machine_name)).srem (machines_list_key cluster_name) machine_name

def list_instances (redis : Redis) (cluster_name : String) : Finset String :=
  redis.smembers (machines_list_key cluster_name)

def get_instance (redis : Redis) (machine_name : String) : Option MachineInstance :=
  redis.get (MACHINE_KEY ++ machine_name)

/-! The registry as a directory: the three kinds of keys never meet. -/

def directory (redis : Redis) : Directory String String MachineInstance where
  entries := get_instance redis
  members := list_instances redis

@[simp] theorem machines_list_key_inj (cluster other : String) :
    machines_list_key cluster = machines_list_key other ↔ cluster = other := by
  simp [machines_list_key, MACHINES_LIST]

@[simp] theorem machine_key_ne_list (name cluster : String) :
    MACHINE_KEY ++ name ≠ machines_list_key cluster := by
  intro same
  have texts := congrArg String.toList same
  simp [MACHINE_KEY, machines_list_key, MACHINES_LIST] at texts

@[simp] theorem list_key_ne_machine (name cluster : String) :
    machines_list_key cluster ≠ MACHINE_KEY ++ name := (machine_key_ne_list name cluster).symm

@[simp] theorem machine_key_ne_clusters (name : String) : MACHINE_KEY ++ name ≠ CLUSTERS_LIST := by
  intro same
  have texts := congrArg String.toList same
  simp [MACHINE_KEY, CLUSTERS_LIST] at texts

@[simp] theorem machines_list_key_ne_clusters (cluster : String) :
    machines_list_key cluster ≠ CLUSTERS_LIST := by
  intro same
  have texts := congrArg String.toList same
  simp [machines_list_key, MACHINES_LIST, CLUSTERS_LIST] at texts

theorem register_instance_directory (redis : Redis) (machine : MachineInstance)
    (cluster_name : String) :
    directory (register_instance redis machine cluster_name) =
      (directory redis).enroll cluster_name machine.machine_name machine := by
  unfold directory Directory.enroll
  congr 1
  · funext name
    by_cases same : name = machine.machine_name
    · simp [get_instance, register_instance, Redis.get, Redis.sadd, Redis.set, same]
    · simp [get_instance, register_instance, Redis.get, Redis.sadd, Redis.set, same]
  · funext cluster
    by_cases same : cluster = cluster_name
    · simp [list_instances, register_instance, Redis.smembers, Redis.sadd, Redis.set, same]
    · simp [list_instances, register_instance, Redis.smembers, Redis.sadd, Redis.set, same]

theorem unregister_instance_directory (redis : Redis) (machine_name cluster_name : String) :
    directory (unregister_instance redis machine_name cluster_name) =
      (directory redis).strike cluster_name machine_name := by
  unfold directory Directory.strike
  congr 1
  · funext name
    by_cases same : name = machine_name
    · simp [get_instance, unregister_instance, Redis.get, Redis.srem, Redis.delete, same]
    · simp [get_instance, unregister_instance, Redis.get, Redis.srem, Redis.delete, same]
  · funext cluster
    by_cases same : cluster = cluster_name
    · simp [list_instances, unregister_instance, Redis.smembers, Redis.srem, Redis.delete, same]
    · simp [list_instances, unregister_instance, Redis.smembers, Redis.srem, Redis.delete, same]

theorem mem_list_register (redis : Redis) (machine : MachineInstance) (cluster_name other name : String) :
    name ∈ list_instances (register_instance redis machine cluster_name) other ↔
      (other = cluster_name ∧ name = machine.machine_name) ∨ name ∈ list_instances redis other := by
  have member := Directory.mem_enroll (directory redis) cluster_name other machine.machine_name name
    machine
  rwa [← register_instance_directory] at member

theorem get_register (redis : Redis) (machine : MachineInstance) (cluster_name name : String) :
    get_instance (register_instance redis machine cluster_name) name =
      if name = machine.machine_name then some machine else get_instance redis name := by
  have entry := congrFun
    (congrArg Directory.entries (register_instance_directory redis machine cluster_name)) name
  simpa [Directory.enroll, Function.update_apply, directory] using entry

theorem mem_list_unregister (redis : Redis) (machine_name cluster_name other name : String) :
    name ∈ list_instances (unregister_instance redis machine_name cluster_name) other ↔
      name ∈ list_instances redis other ∧ ¬(other = cluster_name ∧ name = machine_name) := by
  have member := Directory.mem_strike (directory redis) cluster_name other machine_name name
  rwa [← unregister_instance_directory] at member

theorem get_unregister (redis : Redis) (machine_name cluster_name : String) :
    get_instance (unregister_instance redis machine_name cluster_name) machine_name = none := by
  simp [get_instance, unregister_instance, Redis.get, Redis.srem, Redis.delete]

end ClusterControl

end LabFunctions
