import LabFunctions.Cluster
import LabFunctions.Library.Retries

/-!
`cluster.providers`: what `LocalProvider` does to its working directory and `GCEProvider` to
its project, call by call. The driver of libcloud is a parameter.
-/

namespace LabFunctions

structure GceNode where
  id : String
  name : String
  private_ips : List String
  public_ips : List String
  deriving DecidableEq

structure GceVolume where
  id : String
  name : String
  deriving DecidableEq

structure GceNodeSpec where
  name : String
  size : String
  image : String
  location : String
  ex_boot_disk : Option String
  ex_network : String
  ssh_keys : String
  ex_tags : List String
  ex_labels : List (String × String)
  ex_accelerator_type : Option String
  ex_accelerator_count : Option Int
  ex_on_host_maintenance : Option String

/-- libcloud's GCE driver over the state of the project. A node is there under the name that was
asked for once `create_node` returns it, and only `create_node` and `destroy` change the nodes. -/
structure GceDriver (δ : Type) where
  list_nodes : δ → List GceNode
  list_volumes : δ → List GceVolume
  create_node : GceNodeSpec → δ → Except ClusterError GceNode × δ
  destroy : GceNode → δ → δ
  create_volume : BlockStorage → δ → Except ClusterError GceVolume × δ
  attach_volume : GceNode → GceVolume → δ → Except ClusterError Bool × δ
  node_created : ∀ spec state node, (create_node spec state).1 = .ok node →
    node.name = spec.name ∧
      ∀ other, other ∈ list_nodes (create_node spec state).2 ↔
        other = node ∨ other ∈ list_nodes state
  node_refused : ∀ spec state failure, (create_node spec state).1 = .error failure →
    list_nodes (create_node spec state).2 = list_nodes state
  node_destroyed : ∀ node state, list_nodes (destroy node state) = (list_nodes state).erase node
  volume_created : ∀ disk state, list_nodes (create_volume disk state).2 = list_nodes state
  volume_attached : ∀ node volume state,
    list_nodes (attach_volume node volume state).2 = list_nodes state

structure Site (δ : Type) where
  driver : GceDriver δ
  get_internal_ip : String
  get_external_ip : String

/-- The registry, the working directory of `LocalProvider` (each machine's directory with its
`machine.json`, once that is written), the project at GCE, and the commands that have been run
on machines. -/
structure CloudWorld (δ : Type) where
  redis : Redis
  dirs : String → Option (Option MachineInstance)
  gce : δ
  ran : List (String × String)

abbrev CloudTask (δ α : Type) := Fallible ClusterError (CloudWorld δ) α

variable {δ : Type}

namespace LocalProvider

def mkdir_p (name : String) : CloudTask δ Unit :=
  Fallible.call fun world =>
    (.ok (), match world.dirs name with
      | some _ => world
      | none => { world with dirs := Function.update world.dirs name (some none) })

def write_machine (name : String) (machine : MachineInstance) : CloudTask δ Unit :=
  Fallible.call fun world =>
    (.ok (), { world with dirs := Function.update world.dirs name (some (some machine)) })

def create_machine (site : Site δ) (node : MachineRequest) : CloudTask δ MachineInstance := do
  mkdir_p node.name
  let res : MachineInstance :=
    { machine_id := "/local/" ++ node.location ++ "/" ++ node.name
      machine_name := node.name
      location := node.location
      private_ips := [site.get_internal_ip]
      public_ips := [site.get_external_ip]
      labels := some node.labels }
  write_machine node.name res
  return res

/-- `shutil.rmtree` empties the directory before it removes it. -/
def empty_dir (name : String) : CloudTask δ Unit :=
  Fallible.call fun world =>
    match world.dirs name with
    | some _ => (.ok (), { world with dirs := Function.update world.dirs name (some none) })
    | none => (.error (.fileNotFoundError name), world)

def remove_dir (name : String) : CloudTask δ Unit :=
  Fallible.call fun world => (.ok (), { world with dirs := Function.update world.dirs name none })

def destroy_machine (name : String) : CloudTask δ Unit := do
  empty_dir name
  remove_dir name

end LocalProvider

namespace GCEProvider

def _get_volume (site : Site δ) (vol_name : String) : CloudTask δ (Option GceVolume) :=
  Fallible.look fun world => (site.driver.list_volumes world.gce).find? (·.name == vol_name)

def driver_create_volume (site : Site δ) (disk : BlockStorage) : CloudTask δ GceVolume :=
  Fallible.call fun world =>
    ((site.driver.create_volume disk world.gce).1,
      { world with gce := (site.driver.create_volume disk world.gce).2 })

def _get_volumes_to_attach (site : Site δ) : List BlockStorage → CloudTask δ (List GceVolume)
  -- for the caller nothing to attach is the same as `None`
  | [] => return []
  | vol :: others => do
      let v ← _get_volume site vol.name
      match v with
      | some v => return v :: (← _get_volumes_to_attach site others)
      | none =>
          if vol.create_if_not_exist then
            let created ← driver_create_volume site { vol with image := none }
            return created :: (← _get_volumes_to_attach site others)
          else _get_volumes_to_attach site others

def _create_boot_disk (site : Site δ) (random : String) (volumes : List BlockStorage) :
    CloudTask δ (Option String) :=
  match volumes.find? (·.mount == "/") with
  | some v => do
      -- `random` is the text that `generate_random` would return
      let name := "boot-" ++ random
      let _ ← driver_create_volume site { v with name := name }
      return some name
  | none => return none

def driver_create_node (site : Site δ) (spec : GceNodeSpec) : CloudTask δ GceNode :=
  Fallible.call fun world =>
    ((site.driver.create_node spec world.gce).1,
      { world with gce := (site.driver.create_node spec world.gce).2 })

def driver_attach_volume (site : Site δ) (node : GceNode) (volume : GceVolume) :
    CloudTask δ Bool :=
  Fallible.call fun world =>
    ((site.driver.attach_volume node volume world.gce).1,
      { world with gce := (site.driver.attach_volume node volume world.gce).2 })

def attach_volumes (site : Site δ) (node : GceNode) : List GceVolume → CloudTask δ (List String)
  | [] => return []
  | v :: others => do
      let _attached ← driver_attach_volume site node v
      let rest ← attach_volumes site node others
      return if _attached then v.name :: rest else rest

def nodeSpec (node : MachineRequest) (boot_name : Option String) : GceNodeSpec :=
  { name := node.name
    size := node.size
    image := node.image
    location := node.location
    ex_boot_disk := boot_name
    ex_network := node.network
    ssh_keys := node.ssh_user ++ ": " ++ node.ssh_public_cert
    ex_tags := node.labels.tags
    ex_labels := [("cluster", node.labels.cluster), ("gpu", node.labels.gpu)]
    ex_accelerator_type := node.gpu.map (·.gpu_type)
    ex_accelerator_count := node.gpu.map (·.count)
    ex_on_host_maintenance := node.gpu.map fun _ => "TERMINATE" }

def create_machine (site : Site δ) (random : String) (node : MachineRequest) :
    CloudTask δ MachineInstance := do
  let volumes ← _get_volumes_to_attach site (node.volumes.filter (·.mount != "/"))
  let boot_name ← _create_boot_disk site random node.volumes
  let instance_ ← driver_create_node site (nodeSpec node boot_name)
  let attached ← attach_volumes site instance_ volumes
  let attached := if volumes.isEmpty then [] else attached ++ boot_name.toList
  let _main_addr ← Fallible.lift (firstItem instance_.private_ips)
  return {
    machine_id := "/gce/" ++ node.location ++ "/" ++ node.name
    machine_name := node.name
    location := node.location
    volumes := attached
    private_ips := instance_.private_ips
    public_ips := instance_.public_ips }

def list_nodes (site : Site δ) : CloudTask δ (List GceNode) :=
  Fallible.look fun world => site.driver.list_nodes world.gce

def destroy_node (site : Site δ) (node : GceNode) : CloudTask δ Unit :=
  Fallible.call fun world => (.ok (), { world with gce := site.driver.destroy node world.gce })

def destroy_machine (site : Site δ) (name : String) : CloudTask δ Unit := do
  let nodes ← list_nodes site
  match nodes.filter (·.name == name) with
  | _node :: _ => destroy_node site _node
  -- the `[0]` of an empty list
  | [] => throw .indexError

end GCEProvider

/-! Which machines there are, and that creating one adds no other. -/

def runsAt (site : Site δ) : ProviderClass → String → CloudWorld δ → Prop
  | .local, name, world => ∃ machine, world.dirs name = some (some machine)
  | .gce, name, world => ∃ node ∈ site.driver.list_nodes world.gce, node.name = name

structure Grown (site : Site δ) (provider : ProviderClass) (name : String)
    (start later : CloudWorld δ) : Prop where
  redis : later.redis = start.redis
  ran : later.ran = start.ran
  kept : ∀ other machine, runsAt site other machine start → runsAt site other machine later
  only : ∀ other machine, runsAt site other machine later →
    (other = provider ∧ machine = name) ∨ runsAt site other machine start

namespace Grown

variable {site : Site δ} {provider : ProviderClass} {name : String} {start later last : CloudWorld δ}

theorem refl (start : CloudWorld δ) : Grown site provider name start start :=
  ⟨rfl, rfl, fun _ _ runs => runs, fun _ _ runs => Or.inr runs⟩

theorem trans (first : Grown site provider name start later)
    (second : Grown site provider name later last) : Grown site provider name start last := by
  refine ⟨second.redis.trans first.redis, second.ran.trans first.ran, ?_, ?_⟩
  · intro other machine runs
    exact second.kept other machine (first.kept other machine runs)
  · intro other machine runs
    rcases second.only other machine runs with added | before
    · exact Or.inl added
    · exact first.only other machine before

end Grown

/-- Wherever the task stops, it has added one machine at most. -/
def Grows {α : Type} (site : Site δ) (provider : ProviderClass) (name : String)
    (task : CloudTask δ α) (returned : α → Prop) : Prop :=
  ∀ start, Fallible.Triple (Grown site provider name start) task
    (fun result later => Grown site provider name start later ∧ returned result)
    (Grown site provider name start)

section Rules

open Fallible

variable {α β : Type} {site : Site δ} {provider : ProviderClass} {name : String}
  {returned : α → Prop}

theorem grows_pure {result : α} (met : returned result) :
    Grows site provider name (pure result : CloudTask δ α) returned :=
  fun _ => triple_pure (fun _ grown => grown) fun _ grown => ⟨grown, met⟩

theorem grows_lift {result : Except ClusterError α} :
    Grows site provider name (lift result : CloudTask δ α) fun _ => True :=
  fun _ => triple_lift (fun _ grown => grown) fun _ grown _ _ => ⟨grown, trivial⟩

theorem grows_call {operation : CloudWorld δ → Except ClusterError α × CloudWorld δ}
    (step : ∀ world, Grown site provider name world (operation world).2) :
    Grows site provider name (call operation) fun _ => True :=
  fun _ => triple_call (fun _ grown => grown) (fun world grown => grown.trans (step world))
    fun world grown _ _ => ⟨grown.trans (step world), trivial⟩

theorem grows_bind {task : CloudTask δ α} {rest : α → CloudTask δ β} {ending : β → Prop}
    (first : Grows site provider name task fun _ => True)
    (second : ∀ result, Grows site provider name (rest result) ending) :
    Grows site provider name (task >>= rest) ending :=
  fun start => triple_bind (first start) fun result =>
    (second result start).mono (fun _ grown => grown.1) (fun _ _ ended => ended) fun _ grown => grown

end Rules

section Growth

variable {site : Site δ} {name : String}

theorem grown_dirs {world : CloudWorld δ} {entry : Option MachineInstance}
    (kept : ∀ machine, world.dirs name = some (some machine) → ∃ later, entry = some later) :
    Grown site .local name world
      { world with dirs := Function.update world.dirs name (some entry) } := by
  refine ⟨rfl, rfl, ?_, ?_⟩
  · rintro (_ | _) machine runs
    · obtain ⟨found, held⟩ := runs
      by_cases same : machine = name
      · subst same
        obtain ⟨later, written⟩ := kept found held
        exact ⟨later, by simp [written]⟩
      · exact ⟨found, by simpa [same] using held⟩
    · exact runs
  · rintro (_ | _) machine runs
    · by_cases same : machine = name
      · exact Or.inl ⟨rfl, same⟩
      · exact Or.inr (by simpa [runsAt, same] using runs)
    · exact Or.inr runs

theorem LocalProvider.create_machine_grows (node : MachineRequest) :
    Grows site .local node.name (LocalProvider.create_machine site node)
      fun machine => machine.machine_name = node.name := by
  refine grows_bind (grows_call ?_) fun _ => grows_bind (grows_call ?_) fun _ => grows_pure rfl
  · intro world
    cases held : world.dirs node.name with
    | some entry => exact Grown.refl world
    | none => exact grown_dirs (by simp [held])
  · intro world
    exact grown_dirs (by simp)

theorem grown_gce {provider : ProviderClass} {world : CloudWorld δ} {gce : δ}
    (same : site.driver.list_nodes gce = site.driver.list_nodes world.gce) :
    Grown site provider name world { world with gce := gce } := by
  refine ⟨rfl, rfl, ?_, ?_⟩
  · rintro (_ | _) machine runs
    · exact runs
    · exact (show ∃ node ∈ site.driver.list_nodes gce, _ from same ▸ runs)
  · rintro (_ | _) machine runs
    · exact Or.inr runs
    · exact Or.inr (show ∃ node ∈ site.driver.list_nodes world.gce, _ from same ▸ runs)

namespace GCEProvider

variable {provider : ProviderClass}

theorem driver_create_volume_grows (disk : BlockStorage) :
    Grows site provider name (driver_create_volume site disk) fun _ => True :=
  grows_call fun world => grown_gce (site.driver.volume_created disk world.gce)

theorem get_volumes_to_attach_grows (volumes : List BlockStorage) :
    Grows site provider name (_get_volumes_to_attach site volumes) fun _ => True := by
  induction volumes with
  | nil => exact grows_pure trivial
  | cons vol others ih =>
      refine grows_bind (grows_call fun world => Grown.refl world) fun found => ?_
      cases found with
      | some v => exact grows_bind ih fun _ => grows_pure trivial
      | none =>
          by_cases wanted : vol.create_if_not_exist = true
          · simp only [wanted, if_true]
            refine grows_bind (driver_create_volume_grows _) fun _ => ?_
            exact grows_bind ih fun _ => grows_pure trivial
          · simp only [wanted, Bool.false_eq_true, if_false]
            exact ih

theorem create_boot_disk_grows (random : String) (volumes : List BlockStorage) :
    Grows site provider name (_create_boot_disk site random volumes) fun _ => True := by
  unfold _create_boot_disk
  cases volumes.find? (·.mount == "/") with
  | some v => exact grows_bind (driver_create_volume_grows _) fun _ => grows_pure trivial
  | none => exact grows_pure trivial

theorem driver_create_node_grows (spec : GceNodeSpec) :
    Grows site .gce spec.name (driver_create_node site spec) fun _ => True := by
  refine grows_call fun world => ?_
  cases answer : (site.driver.create_node spec world.gce).1 with
  | error failure => exact grown_gce (site.driver.node_refused spec world.gce failure answer)
  | ok node =>
      obtain ⟨named, nodes⟩ := site.driver.node_created spec world.gce node answer
      refine ⟨rfl, rfl, ?_, ?_⟩
      · rintro (_ | _) machine runs
        · exact runs
        · obtain ⟨other, held, same⟩ := runs
          exact ⟨other, (nodes other).mpr (Or.inr held), same⟩
      · rintro (_ | _) machine runs
        · exact Or.inr runs
        · obtain ⟨other, held, same⟩ := runs
          rcases (nodes other).mp held with rfl | before
          · exact Or.inl ⟨rfl, same.symm.trans named⟩
          · exact Or.inr ⟨other, before, same⟩

theorem attach_volumes_grows (node : GceNode) (volumes : List GceVolume) :
    Grows site provider name (attach_volumes site node volumes) fun _ => True := by
  induction volumes with
  | nil => exact grows_pure trivial
  | cons v others ih =>
      refine grows_bind (grows_call fun world => ?_) fun _ => grows_bind ih fun _ =>
        grows_pure trivial
      exact grown_gce (site.driver.volume_attached node v world.gce)

theorem create_machine_grows (random : String) (node : MachineRequest) :
    Grows site .gce node.name (create_machine site random node)
      fun machine => machine.machine_name = node.name := by
  refine grows_bind (get_volumes_to_attach_grows _) fun volumes => ?_
  refine grows_bind (create_boot_disk_grows _ _) fun boot_name => ?_
  refine grows_bind (driver_create_node_grows (nodeSpec node boot_name)) fun instance_ => ?_
  refine grows_bind (attach_volumes_grows _ _) fun attached => ?_
  exact grows_bind grows_lift fun _ => grows_pure rfl

end GCEProvider

end Growth

/-! A project kept as two lists, in which no two nodes have one name. -/

structure GceProject where
  nodes : List GceNode := []
  volumes : List GceVolume := []

namespace GceProject

def create_node (spec : GceNodeSpec) (project : GceProject) :
    Except ClusterError GceNode × GceProject :=
  let node : GceNode :=
    { id := spec.name, name := spec.name, private_ips := ["10.128.0.2"], public_ips := [] }
  if project.nodes.any (·.name == spec.name) then (.error (.resourceExistsError spec.name), project)
  else (.ok node, { project with nodes := node :: project.nodes })

def create_volume (disk : BlockStorage) (project : GceProject) :
    Except ClusterError GceVolume × GceProject :=
  let volume : GceVolume := { id := disk.name, name := disk.name }
  (.ok volume, { project with volumes := volume :: project.volumes })

def driver : GceDriver GceProject where
  list_nodes := nodes
  list_volumes := volumes
  create_node := create_node
  destroy node project := { project with nodes := project.nodes.erase node }
  create_volume := create_volume
  attach_volume _ _ project := (.ok true, project)
  node_created spec project node created := by
    unfold create_node at created ⊢
    split at created
    · simp at created
    · next fresh =>
      simp only [Except.ok.injEq] at created
      subst created
      simp [fresh]
  node_refused spec project failure refused := by
    unfold create_node at refused ⊢
    split at refused
    · next taken => simp [taken]
    · simp at refused
  node_destroyed _ _ := rfl
  volume_created _ _ := rfl
  volume_attached _ _ _ := rfl

end GceProject

end LabFunctions
