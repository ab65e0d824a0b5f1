import LabFunctions.InstanceCreation
import LabFunctions.InstanceDestruction
import LabFunctions.Library.Relies

/-!
What `create_instance` and `destroy_instance` do at each of their actions, whatever other workers
do between two of them.
-/

namespace LabFunctions

open ClusterControl

namespace ClusterSteps

open Fallible InstanceCreation

variable {δ : Type}

/-! One machine, at a provider and in the registry. -/

def named (site : Site δ) (name : String) (gce : δ) : List GceNode :=
  (site.driver.list_nodes gce).filter (·.name == name)

def Registered (name : String) (world : CloudWorld δ) : Prop :=
  (get_instance world.redis name).isSome = true

theorem runsAt_gce (site : Site δ) (name : String) (world : CloudWorld δ) :
    runsAt site .gce name world ↔ named site name world.gce ≠ [] := by
  simp [runsAt, named, List.filter_eq_nil_iff]

theorem runsAt_redis {site : Site δ} {provider : ProviderClass} {name : String}
    (world : CloudWorld δ) (redis : Redis) :
    runsAt site provider name { world with redis := redis } ↔ runsAt site provider name world :=
  runsAt_congr (by rfl) (by rfl) provider name

/-- The step touches no machine but one. -/
structure Confined (site : Site δ) (name : String) (state later : CloudWorld δ) : Prop where
  dirs : ∀ other, other ≠ name → later.dirs other = state.dirs other
  nodes : ∀ other, other ≠ name → named site other later.gce = named site other state.gce
  entry : ∀ other, other ≠ name →
    get_instance later.redis other = get_instance state.redis other
  listed : ∀ other, other ≠ name → ∀ cluster,
    other ∈ list_instances later.redis cluster ↔ other ∈ list_instances state.redis cluster

/-- What is there of the machine stays. -/
structure Kept (site : Site δ) (provider : ProviderClass) (name : String)
    (state later : CloudWorld δ) : Prop where
  runs : runsAt site provider name state → runsAt site provider name later
  entry : Registered name state → Registered name later
  listed : ∀ cluster, name ∈ list_instances state.redis cluster →
    name ∈ list_instances later.redis cluster

/-- Nothing is added to what is there of the machine. -/
structure Shrunk (site : Site δ) (provider : ProviderClass) (name : String)
    (state later : CloudWorld δ) : Prop where
  runs : runsAt site provider name later → runsAt site provider name state
  nodes : (named site name later.gce).Sublist (named site name state.gce)
  entry : Registered name later → Registered name state
  listed : ∀ cluster, name ∈ list_instances later.redis cluster →
    name ∈ list_instances state.redis cluster

section Relations

variable {site : Site δ} {provider : ProviderClass} {name other : String}
  {state later last : CloudWorld δ}

theorem Kept.refl (state : CloudWorld δ) : Kept site provider name state state :=
  ⟨id, id, fun _ => id⟩

theorem Kept.trans (first : Kept site provider name state later)
    (second : Kept site provider name later last) : Kept site provider name state last :=
  ⟨second.runs ∘ first.runs, second.entry ∘ first.entry, fun cluster =>
    second.listed cluster ∘ first.listed cluster⟩

theorem Shrunk.refl (state : CloudWorld δ) : Shrunk site provider name state state :=
  ⟨id, List.Sublist.refl _, id, fun _ => id⟩

theorem Shrunk.trans (first : Shrunk site provider name state later)
    (second : Shrunk site provider name later last) : Shrunk site provider name state last :=
  ⟨first.runs ∘ second.runs, second.nodes.trans first.nodes, first.entry ∘ second.entry,
    fun cluster => first.listed cluster ∘ second.listed cluster⟩

theorem Confined.runsAt_iff (confined : Confined site other state later) (apart : name ≠ other) :
    runsAt site provider name later ↔ runsAt site provider name state := by
  cases provider with
  | «local» => rw [runsAt, runsAt, confined.dirs name apart]
  | gce => rw [runsAt_gce, runsAt_gce, confined.nodes name apart]

theorem Confined.registered_iff (confined : Confined site other state later)
    (apart : name ≠ other) : Registered name later ↔ Registered name state := by
  rw [Registered, Registered, confined.entry name apart]

theorem Confined.kept (confined : Confined site other state later) (apart : name ≠ other) :
    Kept site provider name state later :=
  ⟨(confined.runsAt_iff apart).mpr, (confined.registered_iff apart).mpr, fun cluster =>
    (confined.listed name apart cluster).mpr⟩

theorem Confined.shrunk (confined : Confined site other state later) (apart : name ≠ other) :
    Shrunk site provider name state later := by
  refine ⟨(confined.runsAt_iff apart).mp, ?_, (confined.registered_iff apart).mp, ?_⟩
  · rw [confined.nodes name apart]
  · exact fun cluster => (confined.listed name apart cluster).mp

end Relations

/-! The steps of a task: on its directory, on the nodes, on the registry. -/

section Steps

variable {site : Site δ} {provider : ProviderClass} {name : String}

theorem confined_dirs (world : CloudWorld δ) (entry : Option (Option MachineInstance)) :
    Confined site name world { world with dirs := Function.update world.dirs name entry } :=
  ⟨fun _ apart => Function.update_of_ne apart _ _, fun _ _ => rfl, fun _ _ => rfl,
    fun _ _ _ => Iff.rfl⟩

theorem confined_gce {world : CloudWorld δ} {gce : δ}
    (nodes : ∀ other, other ≠ name → named site other gce = named site other world.gce) :
    Confined site name world { world with gce := gce } :=
  ⟨fun _ _ => rfl, nodes, fun _ _ => rfl, fun _ _ _ => Iff.rfl⟩

theorem confined_ran (world : CloudWorld δ) (ran : List (String × String)) :
    Confined site name world { world with ran := ran } :=
  ⟨fun _ _ => rfl, fun _ _ => rfl, fun _ _ => rfl, fun _ _ _ => Iff.rfl⟩

theorem confined_register (world : CloudWorld δ) {machine : MachineInstance}
    (own : machine.machine_name = name) (cluster : String) :
    Confined site name world
      { world with redis := register_instance world.redis machine cluster } := by
  refine ⟨fun _ _ => rfl, fun _ _ => rfl, ?_, ?_⟩
  · intro other apart
    simp [get_register, own, apart]
  · intro other apart listing
    simp [mem_list_register, own, apart]

theorem get_unregister_other (redis : Redis) {machine_name other : String} (cluster : String)
    (apart : other ≠ machine_name) :
    get_instance (unregister_instance redis machine_name cluster) other =
      get_instance redis other := by
  have entry := congrFun
    (congrArg Directory.entries (unregister_instance_directory redis machine_name cluster)) other
  simpa [Directory.strike, Function.update_apply, directory, apart] using entry

theorem confined_unregister (world : CloudWorld δ) (cluster : String) :
    Confined site name world
      { world with redis := unregister_instance world.redis name cluster } := by
  refine ⟨fun _ _ => rfl, fun _ _ => rfl, ?_, ?_⟩
  · intro other apart
    exact get_unregister_other world.redis cluster apart
  · intro other apart listing
    simp [mem_list_unregister, apart]

end Steps

/-- What the provider's part of a creation does at each of its actions. -/
structure Made (site : Site δ) (name : String) (state later : CloudWorld δ) : Prop where
  confined : Confined site name state later
  redis : later.redis = state.redis
  runs : ∀ provider, runsAt site provider name state → runsAt site provider name later

/-- Creating a node leaves the nodes of every other name as they are. -/
def Separate (driver : GceDriver δ) : Prop :=
  ∀ spec state name, name ≠ spec.name →
    (driver.list_nodes (driver.create_node spec state).2).filter (·.name == name) =
      (driver.list_nodes state).filter (·.name == name)

section Creation

variable {site : Site δ} {name : String}

theorem made_refl (world : CloudWorld δ) : Made site name world world :=
  ⟨⟨fun _ _ => rfl, fun _ _ => rfl, fun _ _ => rfl, fun _ _ _ => Iff.rfl⟩, rfl, fun _ runs => runs⟩

theorem made_dirs {world : CloudWorld δ} {entry : Option MachineInstance}
    (kept : ∀ machine, world.dirs name = some (some machine) → ∃ later, entry = some later) :
    Made site name world
      { world with dirs := Function.update world.dirs name (some entry) } := by
  refine ⟨confined_dirs world _, rfl, ?_⟩
  have grown : Grown site .local name world
      { world with dirs := Function.update world.dirs name (some entry) } := grown_dirs kept
  exact fun provider runs => grown.kept provider name runs

theorem made_gce {world : CloudWorld δ} {gce : δ}
    (same : site.driver.list_nodes gce = site.driver.list_nodes world.gce) :
    Made site name world { world with gce := gce } := by
  refine ⟨confined_gce fun other _ => ?_, rfl, ?_⟩
  · rw [named, named, same]
  · intro provider runs
    have grown : Grown site provider name world { world with gce := gce } := grown_gce same
    exact grown.kept provider name runs

theorem made_node (separate : Separate site.driver) (spec : GceNodeSpec) (world : CloudWorld δ) :
    Made site spec.name world
      { world with gce := (site.driver.create_node spec world.gce).2 } := by
  refine ⟨confined_gce fun other apart => separate spec world.gce other apart, rfl, ?_⟩
  intro provider runs
  cases provider with
  | «local» => exact runs
  | gce =>
      obtain ⟨node, held, same⟩ := runs
      refine ⟨node, ?_, same⟩
      cases answer : (site.driver.create_node spec world.gce).1 with
      | error failure =>
          rw [site.driver.node_refused spec world.gce failure answer]
          exact held
      | ok created =>
          exact ((site.driver.node_created spec world.gce created answer).2 node).mpr (Or.inr held)

end Creation

/-- The others leave what is there of the machine. -/
def Lasting (site : Site δ) (provider : ProviderClass) (name : String)
    (rely : CloudWorld δ → CloudWorld δ → Prop) : Prop :=
  ∀ state later, rely state later → Kept site provider name state later

/-- The machine runs, unless the others take it away. -/
def Stands (site : Site δ) (provider : ProviderClass) (name : String)
    (rely : CloudWorld δ → CloudWorld δ → Prop) (state : CloudWorld δ) : Prop :=
  Lasting site provider name rely → runsAt site provider name state

theorem Stands.stable {site : Site δ} {provider : ProviderClass} {name : String}
    {rely : CloudWorld δ → CloudWorld δ → Prop} {state later : CloudWorld δ}
    (stands : Stands site provider name rely state) (moved : rely state later) :
    Stands site provider name rely later := fun lasting =>
  (lasting state later moved).runs (stands lasting)

section Creation

variable {site : Site δ} {rely : CloudWorld δ → CloudWorld δ → Prop}
  (refl : ∀ state, rely state state) {name : String}

theorem made_call {α : Type} {provider : ProviderClass}
    {operation : CloudWorld δ → Except ClusterError α × CloudWorld δ}
    (made : ∀ world, Made site name world (operation world).2) :
    Beside rely (Made site name) (Stands site provider name rely) (Fallible.call operation)
      (fun _ => Stands site provider name rely) := by
  refine beside_call (fun _ later _ _ => made later) ?_
  intro state later last value stands moved _ further
  have acted : Stands site provider name rely (operation later).2 := fun lasting =>
    (made later).runs provider (stands.stable moved lasting)
  exact acted.stable further

theorem stands_pure {α : Type} {provider : ProviderClass} (result : α) :
    Beside rely (Made site name) (Stands site provider name rely) (pure result : CloudTask δ α)
      (fun _ => Stands site provider name rely) :=
  beside_pure fun _ _ stands moved => stands.stable moved

theorem made_freely {α : Type} {operation : CloudWorld δ → Except ClusterError α × CloudWorld δ}
    (made : ∀ world, Made site name world (operation world).2) :
    Beside rely (Made site name) (fun _ => True) (Fallible.call operation)
      (fun _ _ => True) :=
  beside_call (fun _ later _ _ => made later) fun _ _ _ _ _ _ _ _ => trivial

include refl in
theorem local_create_beside (node : MachineRequest) :
    Beside rely (Made site node.name) (fun _ => True) (LocalProvider.create_machine site node)
      (fun machine state => machine.machine_name = node.name ∧
        Stands site .local node.name rely state) := by
  refine beside_bind refl (made_freely fun world => ?_) fun _ => ?_
  · cases held : world.dirs node.name with
    | some entry => exact made_refl world
    | none => exact made_dirs (by simp [held])
  have written : ∀ machine, Beside rely (Made site node.name) (fun _ => True)
      (LocalProvider.write_machine node.name machine)
      (fun _ => Stands site .local node.name rely) := by
    intro machine
    refine beside_call (fun _ later _ _ => made_dirs (by simp)) ?_
    intro state later last _ _ _ _ further lasting
    exact (lasting _ last further).runs ⟨machine, by simp⟩
  refine beside_bind refl (written _) fun _ => ?_
  exact beside_pure fun _ _ stands moved => ⟨rfl, stands.stable moved⟩

include refl in
theorem volumes_beside (volumes : List BlockStorage) :
    Beside rely (Made site name) (fun _ => True) (GCEProvider._get_volumes_to_attach site volumes)
      (fun _ _ => True) := by
  induction volumes with
  | nil => exact beside_pure fun _ _ _ _ => trivial
  | cons vol others ih =>
      refine beside_bind refl (made_freely made_refl) fun found => ?_
      cases found with
      | some v => exact beside_bind refl ih fun _ => beside_pure fun _ _ _ _ => trivial
      | none =>
          by_cases wanted : vol.create_if_not_exist = true
          · simp only [wanted, if_true]
            refine beside_bind refl (made_freely fun world =>
              made_gce (site.driver.volume_created _ world.gce)) fun _ => ?_
            exact beside_bind refl ih fun _ => beside_pure fun _ _ _ _ => trivial
          · simp only [wanted, Bool.false_eq_true, if_false]
            exact ih

include refl in
theorem boot_disk_beside (random : String) (volumes : List BlockStorage) :
    Beside rely (Made site name) (fun _ => True)
      (GCEProvider._create_boot_disk site random volumes) (fun _ _ => True) := by
  unfold GCEProvider._create_boot_disk
  cases volumes.find? (·.mount == "/") with
  | none => exact beside_pure fun _ _ _ _ => trivial
  | some v =>
      refine beside_bind refl (made_freely fun world =>
        made_gce (site.driver.volume_created _ world.gce)) fun _ => ?_
      exact beside_pure fun _ _ _ _ => trivial

include refl in
theorem attach_beside (node : GceNode) (volumes : List GceVolume) :
    Beside rely (Made site name) (Stands site .gce name rely)
      (GCEProvider.attach_volumes site node volumes)
      (fun _ => Stands site .gce name rely) := by
  induction volumes with
  | nil => exact stands_pure []
  | cons v others ih =>
      refine beside_bind refl (made_call fun world =>
        made_gce (site.driver.volume_attached node v world.gce)) fun _ => ?_
      exact beside_bind refl ih fun rest => stands_pure _

include refl in
theorem gce_create_beside (separate : Separate site.driver) (random : String)
    (node : MachineRequest) :
    Beside rely (Made site node.name) (fun _ => True)
      (GCEProvider.create_machine site random node)
      (fun machine state => machine.machine_name = node.name ∧
        Stands site .gce node.name rely state) := by
  have created : ∀ boot_name, Beside rely (Made site node.name) (fun _ => True)
      (GCEProvider.driver_create_node site (GCEProvider.nodeSpec node boot_name))
      (fun _ => Stands site .gce node.name rely) := by
    intro boot_name
    refine beside_call (fun _ later _ _ =>
      made_node separate (GCEProvider.nodeSpec node boot_name) later) ?_
    intro state later last instance_ _ _ answer further lasting
    obtain ⟨same, nodes⟩ := site.driver.node_created _ later.gce instance_ answer
    exact (lasting _ last further).runs ⟨instance_, (nodes instance_).mpr (Or.inl rfl), same⟩
  refine beside_bind refl (volumes_beside refl _) fun volumes => ?_
  refine beside_bind refl (boot_disk_beside refl _ _) fun boot_name => ?_
  refine beside_bind refl (created boot_name) fun instance_ => ?_
  refine beside_bind refl (attach_beside refl instance_ volumes) fun attached => ?_
  have addressed : Beside rely (Made site node.name) (Stands site .gce node.name rely)
      (Fallible.lift (firstItem instance_.private_ips) : CloudTask δ String)
      (fun _ => Stands site .gce node.name rely) :=
    beside_lift fun _ _ _ stands moved _ => stands.stable moved
  refine beside_bind refl addressed fun _main_addr => ?_
  exact beside_pure fun _ _ stands moved => ⟨rfl, stands.stable moved⟩

/-- What a creation does at each of its actions. -/
structure Created (site : Site δ) (provider : ProviderClass) (name : String)
    (rely : CloudWorld δ → CloudWorld δ → Prop) (state later : CloudWorld δ) : Prop where
  confined : Confined site name state later
  kept : Kept site provider name state later
  entry : Registered name later → Registered name state ∨ Stands site provider name rely later

theorem Made.created {provider : ProviderClass} {state later : CloudWorld δ}
    (made : Made site name state later) : Created site provider name rely state later := by
  have same : Registered name later ↔ Registered name state := by
    rw [Registered, Registered, made.redis]
  refine ⟨made.confined, ⟨made.runs provider, same.mpr, ?_⟩, fun entry => Or.inl (same.mp entry)⟩
  intro cluster
  rw [made.redis]
  exact id

/-- What a creation leaves once it has registered the machine. -/
def Recorded (site : Site δ) (provider : ProviderClass) (name cluster : String)
    (rely : CloudWorld δ → CloudWorld δ → Prop) (state : CloudWorld δ) : Prop :=
  Lasting site provider name rely → runsAt site provider name state ∧ Registered name state ∧
    name ∈ list_instances state.redis cluster

theorem Recorded.stable {provider : ProviderClass} {cluster : String} {state later : CloudWorld δ}
    (recorded : Recorded site provider name cluster rely state) (moved : rely state later) :
    Recorded site provider name cluster rely later := by
  intro lasting
  obtain ⟨runs, entry, listed⟩ := recorded lasting
  have kept := lasting state later moved
  exact ⟨kept.runs runs, kept.entry entry, kept.listed cluster listed⟩

include refl in
theorem deploy_beside {provider : ProviderClass} {cluster : String} (ctx : DeployAgentTask)
    (machine : MachineInstance) (remote : Nat → Contact) (tries : Nat) :
    Beside rely (Created site provider name rely) (Recorded site provider name cluster rely)
      (Tasks._deploy_agent ctx machine remote tries)
      (fun _ => Recorded site provider name cluster rely) := by
  have ssh : ∀ ip cmd, Beside rely (Created site provider name rely)
      (Recorded site provider name cluster rely) (Tasks.ssh_run (δ := δ) ip cmd)
      (fun _ => Recorded site provider name cluster rely) := by
    intro ip cmd
    have same : ∀ (ran : List (String × String)) (world : CloudWorld δ),
        runsAt site provider name { world with ran := ran } ↔ runsAt site provider name world :=
      fun _ _ => runsAt_congr (by rfl) (by rfl) provider name
    refine beside_call (fun _ later _ _ => ?_) ?_
    · refine ⟨confined_ran later _, ⟨(same _ later).mpr, id, fun _ => id⟩, Or.inl⟩
    · intro state later last _ recorded moved _ further
      refine Recorded.stable ?_ further
      intro lasting
      obtain ⟨runs, entry, listed⟩ := recorded.stable moved lasting
      exact ⟨(same _ later).mpr runs, entry, listed⟩
  induction tries with
  | zero => exact beside_throw
  | succ tries ih =>
      unfold Tasks._deploy_agent
      cases Tasks.agent_request ctx machine with
      | error failure => exact ih
      | ok req =>
          cases remote tries with
          | unreachable => exact ih
          | dropped => exact beside_bind refl (ssh _ _) fun _ => ih
          | completed return_code =>
              refine beside_bind refl (ssh _ _) fun _ => ?_
              exact beside_pure fun _ _ recorded moved => recorded.stable moved

include refl in
theorem finish_beside {provider : ProviderClass} (remote : Nat → Contact) (ctx : CreateRequest)
    {machine : MachineInstance} (own : machine.machine_name = name) :
    Beside rely (Created site provider name rely) (Stands site provider name rely)
      (Tasks.finish remote ctx machine)
      (fun _ => Recorded site provider name ctx.cluster_name rely) := by
  have registers : Beside rely (Created site provider name rely) (Stands site provider name rely)
      (ClusterControl.register machine ctx.cluster_name)
      (fun _ => Recorded site provider name ctx.cluster_name rely) := by
    have entered : ∀ redis : Redis,
        (get_instance (register_instance redis machine ctx.cluster_name) name).isSome = true := by
      intro redis
      simp [get_register, own]
    refine beside_call ?_ ?_
    · intro state later stands moved
      refine ⟨confined_register later own _, ⟨(runsAt_redis later _).mpr, fun _ => entered _, ?_⟩, ?_⟩
      · intro cluster member
        exact (mem_list_register _ _ _ _ _).mpr (Or.inr member)
      · intro _
        exact Or.inr fun lasting => (runsAt_redis later _).mpr (stands.stable moved lasting)
    · intro state later last _ stands moved _ further
      refine Recorded.stable ?_ further
      intro lasting
      exact ⟨(runsAt_redis later _).mpr (stands.stable moved lasting), entered _,
        (mem_list_register _ _ _ _ _).mpr (Or.inl ⟨rfl, own.symm⟩)⟩
  refine beside_bind refl registers fun _ => ?_
  cases ctx.agent with
  | none => exact beside_pure fun _ _ recorded moved => recorded.stable moved
  | some agent =>
      refine beside_bind refl (deploy_beside refl _ machine remote 3) fun _response => ?_
      exact beside_pure fun _ _ recorded moved => recorded.stable moved

include refl in
theorem create_beside (separate : Separate site.driver) {cc : ClusterControl}
    {provider : ProviderClass} {req : MachineRequest} {ctx : CreateRequest} {draws : Draws}
    (request : cc.requested draws ctx.cluster_name ctx.alias_ = .ok (provider, req))
    (remote : Nat → Contact) :
    Beside rely (Created site provider req.name rely) (fun _ => True)
      (Tasks.create_instance site cc draws remote ctx)
      (fun _ => Recorded site provider req.name ctx.cluster_name rely) := by
  have provided : Beside rely (Created site provider req.name rely) (fun _ => True)
      (cc.create_instance site draws ctx.cluster_name ctx.alias_)
      (fun machine state => machine.machine_name = req.name ∧
        Stands site provider req.name rely state) := by
    rw [create_instance_eq, request]
    cases provider with
    | «local» =>
        exact (local_create_beside refl req).mono (fun _ holds => holds)
          (fun _ _ made => made.created) fun _ _ ended => ended
    | gce =>
        exact (gce_create_beside refl separate draws.boot req).mono (fun _ holds => holds)
          (fun _ _ made => made.created) fun _ _ ended => ended
  rw [Tasks.create_instance_eq]
  refine beside_bind refl provided fun machine => ?_
  intro state holds
  exact finish_beside refl remote ctx holds.1 state holds.2

end Creation

section Destruction

variable {site : Site δ} {provider : ProviderClass} {name : String}

/-- What is left of the program completes, and the machine is not registered then. -/
def Certain (site : Site δ) (provider : ProviderClass) (name : String)
    (rest : Prog (CloudWorld δ) (Except ClusterError Unit)) (state : CloudWorld δ) : Prop :=
  Prog.Beside (Shrunk site provider name) (fun _ _ _ => True)
    (fun result state => result = .ok () ∧ ¬Registered name state) rest state

/-- What a destruction does at each of its actions, where no machine of the name is created. -/
structure Destroyed (site : Site δ) (provider : ProviderClass) (name : String)
    (state later : CloudWorld δ) (rest : Prog (CloudWorld δ) (Except ClusterError Unit)) : Prop where
  shrunk : Shrunk site provider name state later
  entry : Registered name state → Registered name later ∨ ¬runsAt site provider name later
  runs : runsAt site provider name state →
    runsAt site provider name later ∨ Certain site provider name rest later

/-- What a completed destruction leaves. -/
def Gone (site : Site δ) (provider : ProviderClass) (name cluster : String)
    (state : CloudWorld δ) : Prop :=
  ¬runsAt site provider name state ∧ ¬Registered name state ∧
    name ∉ list_instances state.redis cluster

theorem unregister_certain (cluster : String) (state : CloudWorld δ) :
    Certain site provider name (ExceptT.run (ClusterControl.unregister name cluster)) state := by
  intro later _
  refine ⟨trivial, ?_⟩
  intro last further
  refine ⟨rfl, fun entry => ?_⟩
  have unregistered := further.entry entry
  simp [Registered, get_unregister] at unregistered

theorem shrunk_unregister (world : CloudWorld δ) (cluster : String) :
    Shrunk site provider name world
      { world with redis := unregister_instance world.redis name cluster } := by
  refine ⟨(runsAt_redis world _).mp, List.Sublist.refl _, ?_, ?_⟩
  · simp [Registered, get_unregister]
  · intro listing member
    exact ((mem_list_unregister _ _ _ _ _).mp member).1

theorem unregister_beside (cluster : String) {state : CloudWorld δ}
    (gone : ¬runsAt site provider name state) :
    Prog.Beside (Shrunk site provider name) (Destroyed site provider name)
      (fun result state => result = .ok () → Gone site provider name cluster state)
      (ExceptT.run (ClusterControl.unregister name cluster)) state := by
  intro later moved
  have absent : ¬runsAt site provider name later := fun runs => gone (moved.runs runs)
  have still : ¬runsAt site provider name
      { later with redis := unregister_instance later.redis name cluster } := fun runs =>
    absent ((runsAt_redis later _).mp runs)
  refine ⟨⟨shrunk_unregister later cluster, fun _ => Or.inr still, fun runs => absurd runs absent⟩, ?_⟩
  intro last further _
  refine ⟨fun runs => still (further.runs runs), fun entry => ?_, fun member => ?_⟩
  · have unregistered := further.entry entry
    simp [Registered, get_unregister] at unregistered
  · have listed := further.listed cluster member
    simp [mem_list_unregister] at listed

theorem shrunk_dirs (world : CloudWorld δ) {entry : Option (Option MachineInstance)}
    (empty : ∀ machine, entry ≠ some (some machine)) :
    Shrunk site provider name world
      { world with dirs := Function.update world.dirs name entry } := by
  refine ⟨?_, List.Sublist.refl _, id, fun _ => id⟩
  cases provider with
  | «local» =>
      rintro ⟨machine, held⟩
      exact absurd (by simpa using held) (empty machine)
  | gce => exact id

theorem not_runs_dirs (world : CloudWorld δ) {entry : Option (Option MachineInstance)}
    (empty : ∀ machine, entry ≠ some (some machine)) :
    ¬runsAt site .local name { world with dirs := Function.update world.dirs name entry } := by
  rintro ⟨machine, held⟩
  exact absurd (by simpa using held) (empty machine)

theorem remove_dir_certain (cluster : String) (state : CloudWorld δ) :
    Certain site provider name (ExceptT.run (LocalProvider.remove_dir name >>= fun _ =>
      ClusterControl.unregister name cluster)) state := by
  refine beside_run_call (fun _ _ _ answer => ?_) fun later _ _ _ => ?_
  · cases answer
  · exact ⟨trivial, unregister_certain cluster _⟩

theorem remove_dir_beside (cluster : String) {state : CloudWorld δ}
    (gone : ¬runsAt site .local name state) :
    Prog.Beside (Shrunk site .local name) (Destroyed site .local name)
      (fun result state => result = .ok () → Gone site .local name cluster state)
      (ExceptT.run (LocalProvider.remove_dir name >>= fun _ =>
        ClusterControl.unregister name cluster)) state := by
  refine beside_run_call (fun _ _ _ answer => ?_) fun later _ moved _ => ?_
  · cases answer
  · have removed : ¬runsAt site .local name
        { later with dirs := Function.update later.dirs name none } := not_runs_dirs later (by simp)
    refine ⟨⟨shrunk_dirs later (by simp), Or.inl, fun runs => absurd (moved.runs runs) gone⟩, ?_⟩
    exact unregister_beside cluster removed

theorem local_destroy_beside (cluster : String) (state : CloudWorld δ) :
    Prog.Beside (Shrunk site .local name) (Destroyed site .local name)
      (fun result state => result = .ok () → Gone site .local name cluster state)
      (ExceptT.run (LocalProvider.destroy_machine name >>= fun _ =>
        ClusterControl.unregister name cluster)) state := by
  unfold LocalProvider.destroy_machine
  rw [Fallible.bind_assoc]
  refine beside_run_call (fun later failure _ answer => ?_) fun later _ _ answer => ?_
  · cases held : later.dirs name with
    | some entry => simp [held] at answer
    | none =>
        dsimp only
        refine ⟨⟨Shrunk.refl later, Or.inl, Or.inl⟩, ?_⟩
        intro last _ completed
        cases completed
  · cases held : later.dirs name with
    | none => simp [held] at answer
    | some entry =>
        dsimp only
        have emptied : ¬runsAt site .local name
            { later with dirs := Function.update later.dirs name (some none) } :=
          not_runs_dirs later (by simp)
        refine ⟨⟨shrunk_dirs later (by simp), Or.inl, fun _ => Or.inr ?_⟩, ?_⟩
        · exact remove_dir_certain cluster _
        · exact remove_dir_beside cluster emptied

theorem named_destroy (site : Site δ) (name : String) (node : GceNode) (gce : δ) :
    named site name (site.driver.destroy node gce) = (named site name gce).erase node := by
  rw [named, named, site.driver.node_destroyed, List.erase_filter]

theorem destroy_node_beside (cluster : String) {node : GceNode} {state : CloudWorld δ}
    (only : named site name state.gce = [node]) :
    Prog.Beside (Shrunk site .gce name) (Destroyed site .gce name)
      (fun result state => result = .ok () → Gone site .gce name cluster state)
      (ExceptT.run (GCEProvider.destroy_node site node >>= fun _ =>
        ClusterControl.unregister name cluster)) state := by
  refine beside_run_call (fun _ _ _ answer => ?_) fun later _ moved _ => ?_
  · cases answer
  -- others may have destroyed the node since it was found
  have left : (named site name later.gce).Sublist [node] := only ▸ moved.nodes
  have none_left : named site name (site.driver.destroy node later.gce) = [] := by
    rw [named_destroy]
    rcases List.sublist_singleton.mp left with empty | single
    · rw [empty]
      rfl
    · rw [single]
      exact List.erase_cons_head node []
  have gone : ¬runsAt site .gce name
      { later with gce := site.driver.destroy node later.gce } := by
    rw [runsAt_gce]
    exact fun runs => runs none_left
  refine ⟨⟨⟨fun runs => absurd runs gone, ?_, id, fun _ => id⟩, Or.inl, fun _ => Or.inr ?_⟩, ?_⟩
  · simp only [none_left, List.nil_sublist]
  · exact unregister_certain cluster _
  · exact unregister_beside cluster gone

theorem gce_destroy_beside (cluster : String) {state : CloudWorld δ}
    (lone : (named site name state.gce).length ≤ 1) :
    Prog.Beside (Shrunk site .gce name) (Destroyed site .gce name)
      (fun result state => result = .ok () → Gone site .gce name cluster state)
      (ExceptT.run (GCEProvider.destroy_machine site name >>= fun _ =>
        ClusterControl.unregister name cluster)) state := by
  unfold GCEProvider.destroy_machine
  rw [Fallible.bind_assoc]
  refine beside_run_call (fun _ _ _ answer => ?_) fun later nodes moved answer => ?_
  · cases answer
  obtain rfl := Except.ok.inj answer
  refine ⟨⟨Shrunk.refl later, Or.inl, Or.inl⟩, ?_⟩
  cases found : (site.driver.list_nodes later.gce).filter (·.name == name) with
  | nil =>
      dsimp only
      intro last _ completed
      cases completed
  | cons node others =>
      dsimp only
      have few : (node :: others).length ≤ 1 := by
        rw [← found]
        exact moved.nodes.length_le.trans lone
      obtain rfl : others = [] := List.length_eq_zero_iff.mp (by simpa using few)
      exact destroy_node_beside cluster found

theorem destroy_beside {cc : ClusterControl} {ctx : DestroyRequest} {state : CloudWorld δ}
    (known : InstanceDestruction.destroyer cc ctx.cluster_name = .ok provider)
    (lone : (named site ctx.machine_name state.gce).length ≤ 1) :
    Prog.Beside (Shrunk site provider ctx.machine_name) (Destroyed site provider ctx.machine_name)
      (fun result state => result = .ok () →
        Gone site provider ctx.machine_name ctx.cluster_name state)
      (ExceptT.run (Tasks.destroy_instance site cc ctx)) state := by
  rw [InstanceDestruction.destroy_instance_eq, known]
  cases provider with
  | «local» => exact local_destroy_beside ctx.cluster_name state
  | gce => exact gce_destroy_beside ctx.cluster_name lone

variable {rely : CloudWorld δ → CloudWorld δ → Prop} (refl : ∀ state, rely state state)

theorem confined_freely {α : Type}
    {operation : CloudWorld δ → Except ClusterError α × CloudWorld δ}
    (confined : ∀ world, Confined site name world (operation world).2) :
    Beside rely (Confined site name) (fun _ => True) (Fallible.call operation)
      (fun _ _ => True) :=
  beside_call (fun _ later _ _ => confined later) fun _ _ _ _ _ _ _ _ => trivial

theorem confined_destroy_node {node : GceNode} (own : node.name = name) (world : CloudWorld δ) :
    Confined site name world { world with gce := site.driver.destroy node world.gce } := by
  refine confined_gce fun other apart => ?_
  rw [named_destroy]
  refine List.erase_of_not_mem fun member => apart ?_
  have same := (List.mem_filter.mp member).2
  exact (beq_iff_eq.mp same).symm.trans own

include refl in
theorem removal_confined (site : Site δ) (name : String) (provider : ProviderClass) :
    Beside rely (Confined site name) (fun _ => True)
      (InstanceDestruction.removal site name provider) (fun _ _ => True) := by
  cases provider with
  | «local» =>
      refine beside_bind refl (confined_freely fun world => ?_) fun _ =>
        confined_freely fun world => confined_dirs world none
      cases world.dirs name with
      | some entry => exact confined_dirs world _
      | none => exact (made_refl world).confined
  | gce =>
      refine beside_bind refl (confined_freely fun world => (made_refl world).confined)
        fun nodes => ?_
      cases found : nodes.filter (·.name == name) with
      | nil => exact beside_throw
      | cons node others =>
          have member : node ∈ nodes.filter (·.name == name) := found ▸ List.mem_cons_self ..
          have own := beq_iff_eq.mp (List.mem_filter.mp member).2
          exact confined_freely (confined_destroy_node own)

include refl in
theorem destroy_confined (cc : ClusterControl) (ctx : DestroyRequest) :
    Beside rely (Confined site ctx.machine_name) (fun _ => True)
      (Tasks.destroy_instance site cc ctx) (fun _ _ => True) := by
  rw [InstanceDestruction.destroy_instance_eq]
  cases InstanceDestruction.destroyer cc ctx.cluster_name with
  | error failure => exact beside_lift fun _ _ _ _ _ _ => trivial
  | ok provider =>
      exact beside_bind refl (removal_confined refl site ctx.machine_name provider) fun _ =>
        confined_freely fun world => confined_unregister world ctx.cluster_name

end Destruction

end ClusterSteps

end LabFunctions
