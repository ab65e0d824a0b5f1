import LabFunctions.ClusterTasks
import LabFunctions.Library.Runs

/-!
The registry of instances over whole runs of completed tasks: what `list_instances` and
`get_instance` say of the machines that were created.
-/

namespace LabFunctions

open ClusterControl

namespace ClusterRegistry

variable {δ : Type}

inductive ClusterTask where
  | create (ctx : CreateRequest) (draws : Draws) (remote : Nat → Contact)
  | destroy (ctx : DestroyRequest)

def ClusterTask.cluster_name : ClusterTask → String
  | create ctx _ _ => ctx.cluster_name
  | destroy ctx => ctx.cluster_name

def ClusterTask.machine_name (cc : ClusterControl) : ClusterTask → Option String
  | create ctx draws _ =>
      match cc.requested draws ctx.cluster_name ctx.alias_ with
      | .ok (_, req) => some req.name
      | .error _ => none
  | destroy ctx => some ctx.machine_name

/-- The world, and for each name the cluster that a machine was last created for under it. -/
structure Ledger (δ : Type) where
  world : CloudWorld δ
  createdFor : String → Option String

section

variable (site : Site δ) (cc : ClusterControl)

def Completes (ledger : Ledger δ) : ClusterTask → Prop
  | .create ctx draws remote =>
      ∃ machine, ((Tasks.create_instance site cc draws remote ctx).run ledger.world).1 = .ok machine
  | .destroy ctx => ((Tasks.destroy_instance site cc ctx).run ledger.world).1 = .ok ()

def perform (ledger : Ledger δ) : ClusterTask → Ledger δ
  | .create ctx draws remote =>
      match (Tasks.create_instance site cc draws remote ctx).run ledger.world with
      | (.ok machine, later) =>
          { world := later
            createdFor :=
              Function.update ledger.createdFor machine.machine_name (some ctx.cluster_name) }
      | (.error _, later) => { ledger with world := later }
  | .destroy ctx =>
      { ledger with world := ((Tasks.destroy_instance site cc ctx).run ledger.world).2 }

/-- Every cluster lists exactly the live machines that were created for it, and every live
machine is listed once. -/
structure Faithful (ledger : Ledger δ) : Prop where
  listed : ∀ cluster name, name ∈ list_instances ledger.world.redis cluster ↔
    (get_instance ledger.world.redis name).isSome = true ∧ ledger.createdFor name = some cluster
  unique : ∀ name, (get_instance ledger.world.redis name).isSome = true →
    ∃! cluster, name ∈ list_instances ledger.world.redis cluster

theorem faithful_iff_agrees (ledger : Ledger δ) :
    Faithful ledger ↔ Directory.Agrees ledger.createdFor (directory ledger.world.redis) := by
  constructor
  · rintro ⟨listed, unique⟩
    refine ⟨listed, ?_⟩
    intro name live
    obtain ⟨cluster, member, _⟩ := unique name live
    exact Option.isSome_of_eq_some ((listed cluster name).mp member).2
  · intro agrees
    exact ⟨agrees.listed, fun name live => agrees.unique_group live⟩

/-- No cluster but the task's own lists the machine that the task is about. -/
def Unshared (ledger : Ledger δ) (task : ClusterTask) : Prop :=
  ∀ name, task.machine_name cc = some name →
    ∀ other, other ≠ task.cluster_name → name ∉ list_instances ledger.world.redis other

variable {site cc}

theorem create_completed {ctx : CreateRequest} {draws : Draws} {remote : Nat → Contact}
    {world later : CloudWorld δ} {machine : MachineInstance}
    (ended : (Tasks.create_instance site cc draws remote ctx).run world = (.ok machine, later)) :
    later.redis = register_instance world.redis machine ctx.cluster_name ∧
      (ClusterTask.create ctx draws remote).machine_name cc = some machine.machine_name := by
  have whole := Fallible.upTo_cost (Tasks.create_instance site cc draws remote ctx) world
  rw [ended] at whole
  rcases Tasks.create_instance_upTo site cc draws remote ctx
      ((Tasks.create_instance site cc draws remote ctx).cost world) world with
    ⟨created, made, _, finished, same⟩ | ⟨_, _, incomplete⟩
  · rw [whole] at finished same
    obtain rfl := same machine rfl
    rcases create_instance_cases site cc draws ctx.cluster_name ctx.alias_
        ((Tasks.create_instance site cc draws remote ctx).cost world) world with
      ⟨failure, _, raised⟩ | ⟨provider, req, request, grown, named⟩
    · rw [raised] at made
      exact absurd made (by simp)
    · refine ⟨finished.redis.trans (by rw [grown.redis]), ?_⟩
      simp only [ClusterTask.machine_name, request, named machine made]
  · exact absurd (congrArg Prod.fst whole) (incomplete machine)

theorem destroy_completed {ctx : DestroyRequest} {world later : CloudWorld δ}
    (ended : (Tasks.destroy_instance site cc ctx).run world = (.ok (), later)) :
    later.redis = unregister_instance world.redis ctx.machine_name ctx.cluster_name := by
  have whole := Fallible.upTo_cost (Tasks.destroy_instance site cc ctx) world
  rcases Tasks.destroy_instance_upTo site cc ctx ((Tasks.destroy_instance site cc ctx).cost world)
      world with ⟨_, unregistered⟩ | ⟨incomplete, _⟩
  · rwa [whole, ended] at unregistered
  · rw [whole, ended] at incomplete
    exact absurd rfl (incomplete ())

/-- One completed task keeps the registry faithful exactly when its machine is listed nowhere
else. -/
theorem perform_faithful_iff {ledger : Ledger δ} (faithful : Faithful ledger)
    {task : ClusterTask} (completed : Completes site cc ledger task) :
    Faithful (perform site cc ledger task) ↔ Unshared cc ledger task := by
  rw [faithful_iff_agrees] at faithful
  rw [faithful_iff_agrees]
  cases task with
  | create ctx draws remote =>
      obtain ⟨machine, answered⟩ := completed
      have ended : (Tasks.create_instance site cc draws remote ctx).run ledger.world =
          (.ok machine, ((Tasks.create_instance site cc draws remote ctx).run ledger.world).2) :=
        Prod.ext answered rfl
      obtain ⟨registered, named⟩ := create_completed ended
      have performed : perform site cc ledger (.create ctx draws remote) =
          { world := ((Tasks.create_instance site cc draws remote ctx).run ledger.world).2
            createdFor := Function.update ledger.createdFor machine.machine_name
              (some ctx.cluster_name) } := by
        rw [perform, ended]
      rw [performed, registered, register_instance_directory,
        Directory.enroll_agrees_iff faithful]
      simp [Unshared, named, ClusterTask.cluster_name, directory]
  | destroy ctx =>
      have unregistered := destroy_completed (Prod.ext completed rfl)
      rw [perform, unregistered, unregister_instance_directory,
        Directory.strike_agrees_iff faithful]
      simp [Unshared, ClusterTask.machine_name, ClusterTask.cluster_name, directory]

def first (world : CloudWorld δ) : Ledger δ :=
  { world := { world with redis := fun _ => none }, createdFor := fun _ => none }

theorem first_faithful (world : CloudWorld δ) : Faithful (first world) :=
  (faithful_iff_agrees _).mpr Directory.agrees_empty

/-- The registry is faithful all along a run of completed tasks exactly when each of them is
about a machine that no other cluster lists. -/
theorem registry_faithful_iff (site : Site δ) (cc : ClusterControl) (world : CloudWorld δ)
    (tasks : List ClusterTask)
    (completed : Runs.Along (perform site cc) (Completes site cc) (first world) tasks) :
    (∀ reached ∈ Runs.states (perform site cc) (first world) tasks, Faithful reached) ↔
      Runs.Along (perform site cc) (Unshared cc) (first world) tasks :=
  Runs.states_iff_along_of (fun _ _ faithful completes => perform_faithful_iff faithful completes)
    (first_faithful world) completed

end

namespace Sample

def cc : ClusterControl :=
  { cluster :=
      { providers := [("local", "labfunctions.cluster.providers.local.LocalProvider")]
        clusters := [("default", { name := "default", machine := "cpu" }),
          ("gpu", { name := "gpu", machine := "cpu" })]
        volumes := []
        machines :=
          [("cpu",
            { name := "cpu"
              provider := "local"
              location := "home"
              machine_type := { size := "small", image := "debian" } })] }
    ssh_user := "op"
    pub_key := "ssh-rsa" }

def site : Site GceProject :=
  { driver := GceProject.driver, get_internal_ip := "127.0.0.1", get_external_ip := "192.168.0.2" }

def world : CloudWorld GceProject :=
  { redis := fun _ => none, dirs := fun _ => none, gce := {}, ran := [] }

def create (cluster_name alias_ : String) : ClusterTask :=
  .create { cluster_name := cluster_name, alias_ := some alias_ } ⟨"x", "y"⟩ fun _ => .unreachable

def destroy (cluster_name machine_name : String) : ClusterTask :=
  .destroy { cluster_name := cluster_name, machine_name := machine_name }

end Sample

theorem registry_faithful_sample :
    Runs.Along (perform Sample.site Sample.cc) (Completes Sample.site Sample.cc)
        (first Sample.world) [Sample.create "gpu" "a", Sample.destroy "gpu" "cpu-a"] ∧
      ∀ reached ∈ Runs.states (perform Sample.site Sample.cc) (first Sample.world)
        [Sample.create "gpu" "a", Sample.destroy "gpu" "cpu-a"], Faithful reached := by
  have completed : Runs.Along (perform Sample.site Sample.cc) (Completes Sample.site Sample.cc)
      (first Sample.world) [Sample.create "gpu" "a", Sample.destroy "gpu" "cpu-a"] :=
    ⟨⟨_, rfl⟩, rfl, trivial⟩
  refine ⟨completed, (registry_faithful_iff Sample.site Sample.cc Sample.world _ completed).mpr ?_⟩
  refine ⟨?_, ?_, trivial⟩
  · intro name _ other _
    simp [first, list_instances, Redis.smembers]
  · intro name _ other different member
    have ended : (Tasks.create_instance Sample.site Sample.cc ⟨"x", "y"⟩ (fun _ => .unreachable)
        { cluster_name := "gpu", alias_ := some "a" }).run (first Sample.world).world =
        (.ok _, _) := rfl
    have registered := (create_completed ended).1
    have listed : name ∈ list_instances (register_instance (fun _ => none) _ "gpu") other :=
      registered ▸ member
    rcases (mem_list_register _ _ _ _ _).mp listed with ⟨same, _⟩ | before
    · exact different same
    · exact absurd before (by simp [list_instances, Redis.smembers])

/-- A machine of the cluster `gpu` that is destroyed under the path of the cluster `default` stays
in the list of `gpu`. -/
theorem destroyed_elsewhere_stays_listed :
    ∃ tasks, Runs.Along (perform Sample.site Sample.cc) (Completes Sample.site Sample.cc)
        (first Sample.world) tasks ∧
      ∃ reached ∈ Runs.states (perform Sample.site Sample.cc) (first Sample.world) tasks,
        ¬Faithful reached := by
  refine ⟨[Sample.create "gpu" "a", Sample.destroy "default" "cpu-a"], ⟨⟨_, rfl⟩, rfl, trivial⟩,
    _, Runs.run_mem_states _ _, ?_⟩
  intro faithful
  have member : "cpu-a" ∈ list_instances
      (Runs.run (perform Sample.site Sample.cc) (first Sample.world)
        [Sample.create "gpu" "a", Sample.destroy "default" "cpu-a"]).world.redis "gpu" := by
    decide
  have gone : get_instance
      (Runs.run (perform Sample.site Sample.cc) (first Sample.world)
        [Sample.create "gpu" "a", Sample.destroy "default" "cpu-a"]).world.redis "cpu-a" = none := by
    rfl
  have live := ((faithful.listed "gpu" "cpu-a").mp member).1
  rw [gone] at live
  exact absurd live (by decide)

end ClusterRegistry

end LabFunctions
