import LabFunctions.ClusterRegistry

/-!
Which provider makes a machine of a cluster and which one is asked to destroy it, and under which
names of the cluster the machine is known.
-/

namespace LabFunctions

open ClusterControl

namespace ClusterProviders

variable {δ : Type}

/-- The class that `destroy_instance` sends the destruction to. -/
def destroying (cc : ClusterControl) (cluster_name : String) :
    Except ClusterError ProviderClass := do
  let cluster ← ClustersFile.get_cluster cc.cluster cluster_name
  ClustersFile.get_provider cc.cluster cluster.provider

def destroyed (site : Site δ) (machine_name : String) : ProviderClass → CloudTask δ Unit
  | .local => LocalProvider.destroy_machine machine_name
  | .gce => GCEProvider.destroy_machine site machine_name

section

variable (site : Site δ) (cc : ClusterControl) (draws : Draws) (remote : Nat → Contact)
  (ctx : CreateRequest) (world : CloudWorld δ)

/-- For a machine that is created: the class it is destroyed by is the one that creates it, and
the cluster has the same name in the machine's labels as in the registry. -/
structure Consistent : Prop where
  provider : ∃ provider req, cc.requested draws ctx.cluster_name ctx.alias_ = .ok (provider, req) ∧
    destroying cc ctx.cluster_name = .ok provider
  name : ∀ provider req, cc.requested draws ctx.cluster_name ctx.alias_ = .ok (provider, req) →
    req.labels.cluster = ctx.cluster_name
  listed : ∀ provider req, cc.requested draws ctx.cluster_name ctx.alias_ = .ok (provider, req) →
    let later := ((Tasks.create_instance site cc draws remote ctx).run world).2
    req.name ∈ list_instances later.redis ctx.cluster_name ∧
      req.name ∈ list_instances later.redis req.labels.cluster

end

/-- The file gives the cluster the class of its machine, and stores it under its own name. -/
def Meets (cc : ClusterControl) (cluster_name : String) : Prop :=
  ∃ cluster machine, cc.cluster.clusters.lookup cluster_name = some cluster ∧
    cc.cluster.machines.lookup cluster.machine = some machine ∧
    cc.cluster.providers.lookup cluster.provider = cc.cluster.providers.lookup machine.provider ∧
    cluster.name = cluster_name

theorem getItem_eq_ok {α : Type} {entries : List (String × α)} {key : String} {value : α} :
    getItem entries key = .ok value ↔ entries.lookup key = some value := by
  unfold getItem
  cases entries.lookup key <;> simp

theorem get_class_inj {path other : String} {provider : ProviderClass}
    (left : ClustersFile.get_class path = .ok provider)
    (right : ClustersFile.get_class other = .ok provider) : path = other := by
  cases provider <;> grind [ClustersFile.get_class]

theorem get_provider_eq_ok {data : ClusterFileType} {name : String} {provider : ProviderClass} :
    ClustersFile.get_provider data name = .ok provider ↔
      ∃ path, data.providers.lookup name = some path ∧
        ClustersFile.get_class path = .ok provider := by
  unfold ClustersFile.get_provider
  cases found : getItem data.providers name with
  | error failure =>
      constructor
      · intro got
        cases got
      · rintro ⟨path, held, _⟩
        rw [getItem_eq_ok.mpr held] at found
        cases found
  | ok path =>
      have held := getItem_eq_ok.mp found
      constructor
      · intro got
        exact ⟨path, held, got⟩
      · rintro ⟨other, same, got⟩
        rw [held, Option.some.injEq] at same
        rw [← same] at got
        exact got

theorem destroying_eq_ok {cc : ClusterControl} {cluster_name : String} {provider : ProviderClass} :
    destroying cc cluster_name = .ok provider ↔
      ∃ cluster path, cc.cluster.clusters.lookup cluster_name = some cluster ∧
        cc.cluster.providers.lookup cluster.provider = some path ∧
        ClustersFile.get_class path = .ok provider := by
  unfold destroying ClustersFile.get_cluster
  cases found : getItem cc.cluster.clusters cluster_name with
  | error failure =>
      constructor
      · intro got
        cases got
      · rintro ⟨cluster, path, held, _⟩
        rw [getItem_eq_ok.mpr held] at found
        cases found
  | ok cluster =>
      have held := getItem_eq_ok.mp found
      constructor
      · intro got
        obtain ⟨path, provided, same⟩ := get_provider_eq_ok.mp got
        exact ⟨cluster, path, held, provided, same⟩
      · rintro ⟨other, path, same, provided, got⟩
        rw [held, Option.some.injEq] at same
        rw [← same] at provided
        exact get_provider_eq_ok.mpr ⟨path, provided, got⟩

/-- The destruction goes to this class, and nothing is sent where there is none. -/
theorem destroy_instance_eq (site : Site δ) (cc : ClusterControl)
    (machine_name cluster_name : String) :
    cc.destroy_instance site machine_name cluster_name =
      match destroying cc cluster_name with
      | .ok provider => destroyed site machine_name provider
      | .error failure => Fallible.lift (.error failure) := by
  unfold destroy_instance destroying
  cases ClustersFile.get_cluster cc.cluster cluster_name with
  | error failure => rfl
  | ok cluster =>
      rw [Fallible.lift_ok_bind]
      cases chosen : ClustersFile.get_provider cc.cluster cluster.provider with
      | error failure =>
          rw [Fallible.lift_error_bind]
          simp [chosen, bind, Except.bind]
      | ok provider =>
          rw [Fallible.lift_ok_bind]
          cases provider <;> simp [chosen, bind, Except.bind, destroyed]

theorem create_machine_req_eq_ok {cc : ClusterControl} {machine_name cluster_name id : String}
    {alias_ : Option String} {req : MachineRequest}
    (made : cc._create_machine_req machine_name cluster_name alias_ id = .ok req) :
    ∃ machine, cc.cluster.machines.lookup machine_name = some machine ∧
      req.provider = machine.provider ∧ req.labels.cluster = cluster_name := by
  unfold _create_machine_req ClustersFile.get_machine at made
  cases found : getItem cc.cluster.machines machine_name with
  | error failure =>
      rw [found] at made
      cases made
  | ok machine =>
      simp only [found, bind, Except.bind] at made
      cases volumes : machine.volumes.mapM (ClustersFile.get_volume cc.cluster) with
      | error failure =>
          rw [volumes] at made
          cases made
      | ok disks =>
          rw [volumes] at made
          obtain rfl := Except.ok.inj made
          exact ⟨machine, getItem_eq_ok.mp found, rfl, rfl⟩

/-- What a request that is made out says of the file. -/
theorem requested_eq_ok {cc : ClusterControl} {draws : Draws} {cluster_name : String}
    {alias_ : Option String} {provider : ProviderClass} {req : MachineRequest}
    (requested : cc.requested draws cluster_name alias_ = .ok (provider, req)) :
    ∃ cluster machine path, cc.cluster.clusters.lookup cluster_name = some cluster ∧
      cc.cluster.machines.lookup cluster.machine = some machine ∧
      cc.cluster.providers.lookup machine.provider = some path ∧
      ClustersFile.get_class path = .ok provider ∧ req.labels.cluster = cluster.name := by
  unfold ClusterControl.requested ClustersFile.get_cluster at requested
  cases found : getItem cc.cluster.clusters cluster_name with
  | error failure =>
      rw [found] at requested
      cases requested
  | ok cluster =>
      simp only [found, bind, Except.bind] at requested
      cases made : cc._create_machine_req cluster.machine cluster.name alias_ draws.id with
      | error failure =>
          rw [made] at requested
          cases requested
      | ok wanted =>
          simp only [made] at requested
          cases chosen : ClustersFile.get_provider cc.cluster wanted.provider with
          | error failure =>
              rw [chosen] at requested
              cases requested
          | ok got =>
              rw [chosen] at requested
              obtain ⟨rfl, rfl⟩ := Prod.mk.inj (Except.ok.inj requested)
              obtain ⟨machine, held, provided, labelled⟩ := create_machine_req_eq_ok made
              obtain ⟨path, stored, same⟩ := get_provider_eq_ok.mp chosen
              exact ⟨cluster, machine, path, getItem_eq_ok.mp found, held, provided ▸ stored, same,
                labelled⟩

section Creation

variable {site : Site δ} {cc : ClusterControl} {draws : Draws} {ctx : CreateRequest}
  {world later : CloudWorld δ} {machine : MachineInstance}

/-- Whatever becomes of the agent, the machine is registered under the cluster of the request. -/
theorem created_redis
    (created : (cc.create_instance site draws ctx.cluster_name ctx.alias_).run world =
      (.ok machine, later)) (remote : Nat → Contact) :
    ((Tasks.create_instance site cc draws remote ctx).run world).2.redis =
      register_instance later.redis machine ctx.cluster_name := by
  rw [Tasks.create_instance_eq, Fallible.run_bind, created]
  change ((Tasks.finish remote ctx machine).run later).2.redis = _
  have whole := Fallible.upTo_cost (Tasks.finish remote ctx machine) later
  obtain ⟨more, cost⟩ : ∃ more, (Tasks.finish remote ctx machine).cost later = more + 1 :=
    ⟨_, rfl⟩
  rw [cost] at whole
  have finished := (Tasks.finish_upTo remote ctx machine more later).1.redis
  rwa [whole] at finished

theorem created_requested
    (created : (cc.create_instance site draws ctx.cluster_name ctx.alias_).run world =
      (.ok machine, later)) :
    ∃ provider req, cc.requested draws ctx.cluster_name ctx.alias_ = .ok (provider, req) ∧
      machine.machine_name = req.name := by
  have whole := Fallible.upTo_cost (cc.create_instance site draws ctx.cluster_name ctx.alias_) world
  rcases create_instance_cases site cc draws ctx.cluster_name ctx.alias_
      ((cc.create_instance site draws ctx.cluster_name ctx.alias_).cost world) world with
    ⟨failure, _, raised⟩ | ⟨provider, req, request, _, named⟩
  · rw [whole, created] at raised
    cases raised
  · refine ⟨provider, req, request, named machine ?_⟩
    rw [whole, created]

end Creation

/-- A machine that is created for a cluster of any file is destroyed by the class that created it,
and is known under one name of its cluster, exactly when the file gives the cluster the provider
of its machine and stores it under its own name. -/
theorem cluster_consistent_iff (site : Site δ) (cc : ClusterControl) (draws : Draws)
    (remote : Nat → Contact) (ctx : CreateRequest) (world : CloudWorld δ)
    {machine : MachineInstance} {later : CloudWorld δ}
    (created : (cc.create_instance site draws ctx.cluster_name ctx.alias_).run world =
      (.ok machine, later)) :
    Consistent site cc draws remote ctx world ↔ Meets cc ctx.cluster_name := by
  obtain ⟨provider, req, request, named⟩ := created_requested created
  obtain ⟨cluster, type_, path, held, defined, stored, same, labelled⟩ := requested_eq_ok request
  have only : ∀ other wanted, cc.requested draws ctx.cluster_name ctx.alias_ = .ok (other, wanted) →
      other = provider ∧ wanted = req := by
    intro other wanted also
    rw [request] at also
    obtain ⟨rfl, rfl⟩ := Prod.mk.inj (Except.ok.inj also)
    exact ⟨rfl, rfl⟩
  constructor
  · intro consistent
    obtain ⟨other, wanted, also, sent⟩ := consistent.provider
    obtain ⟨rfl, rfl⟩ := only other wanted also
    obtain ⟨found, target, holds, provided, goes⟩ := destroying_eq_ok.mp sent
    obtain rfl : cluster = found := Option.some.inj (held.symm.trans holds)
    refine ⟨cluster, type_, held, defined, ?_, ?_⟩
    · rw [provided, stored, get_class_inj goes same]
    · rw [← labelled]
      exact consistent.name _ _ request
  · rintro ⟨found, kind, holds, kinds, agree, own⟩
    obtain rfl : cluster = found := Option.some.inj (held.symm.trans holds)
    obtain rfl : type_ = kind := Option.some.inj (defined.symm.trans kinds)
    have label : req.labels.cluster = ctx.cluster_name := labelled.trans own
    have member : req.name ∈ list_instances
        ((Tasks.create_instance site cc draws remote ctx).run world).2.redis ctx.cluster_name := by
      rw [created_redis created remote]
      exact (mem_list_register _ _ _ _ _).mpr (.inl ⟨rfl, named.symm⟩)
    refine ⟨⟨provider, req, request, ?_⟩, ?_, ?_⟩
    · exact destroying_eq_ok.mpr ⟨cluster, path, held, agree.trans stored, same⟩
    · intro other wanted also
      obtain ⟨_, rfl⟩ := only other wanted also
      exact label
    · intro other wanted also
      obtain ⟨_, rfl⟩ := only other wanted also
      exact ⟨member, label.symm ▸ member⟩

namespace Sample

open ClusterRegistry.Sample

theorem cluster_consistent_sample :
    Consistent site cc ⟨"x", "y"⟩ (fun _ => .unreachable) { cluster_name := "gpu" } world :=
  (cluster_consistent_iff site cc ⟨"x", "y"⟩ (fun _ => .unreachable) { cluster_name := "gpu" } world
    rfl).mpr ⟨_, _, rfl, rfl, rfl, rfl⟩

/-- The machines of this cluster are made at GCE, and the cluster leaves its provider out. -/
def cloud : ClusterControl :=
  { cluster :=
      { providers := [("local", "labfunctions.cluster.providers.local.LocalProvider"),
          ("gce", "labfunctions.cluster.providers.gcloud.GCEProvider")]
        clusters := [("default", { name := "default", machine := "cpu" })]
        volumes := []
        machines :=
          [("cpu",
            { name := "cpu"
              provider := "gce"
              location := "us-east1"
              machine_type := { size := "small", image := "debian" } })] }
    ssh_user := "op"
    pub_key := "ssh-rsa" }

theorem gce_machine_destroyed_locally :
    (∃ machine, ((cloud.create_instance site ⟨"x", "y"⟩ "default" none).run world).1 =
        .ok machine) ∧
      ¬Consistent site cloud ⟨"x", "y"⟩ (fun _ => .unreachable) { cluster_name := "default" }
        world := by
  refine ⟨⟨_, rfl⟩, ?_⟩
  intro consistent
  obtain ⟨provider, req, request, sent⟩ := consistent.provider
  cases request
  cases sent

end Sample

end ClusterProviders

end LabFunctions
