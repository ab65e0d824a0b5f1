import Mathlib.Data.List.Count
import LabFunctions.ClusterRegistry

/-!
`destroy_instance` under crashes: attempts that break off anywhere, and the retry after them.
-/

namespace LabFunctions

open ClusterControl Fallible

namespace InstanceDestruction

variable {δ : Type}

def copies (site : Site δ) (provider : ProviderClass) (name : String) (world : CloudWorld δ) : Nat :=
  match provider with
  | .local => if (world.dirs name).isSome then 1 else 0
  | .gce => (site.driver.list_nodes world.gce).countP (·.name == name)

def destroyer (cc : ClusterControl) (cluster_name : String) : Except ClusterError ProviderClass := do
  let cluster ← ClustersFile.get_cluster cc.cluster cluster_name
  ClustersFile.get_provider cc.cluster cluster.provider

def removal (site : Site δ) (name : String) : ProviderClass → CloudTask δ Unit
  | .local => LocalProvider.destroy_machine name
  | .gce => GCEProvider.destroy_machine site name

theorem destroy_instance_eq (site : Site δ) (cc : ClusterControl) (ctx : DestroyRequest) :
    Tasks.destroy_instance site cc ctx =
      match destroyer cc ctx.cluster_name with
      | .ok provider => removal site ctx.machine_name provider >>= fun _ =>
          unregister ctx.machine_name ctx.cluster_name
      | .error failure => Fallible.lift (.error failure) := by
  unfold Tasks.destroy_instance ClusterControl.destroy_instance destroyer
  cases ClustersFile.get_cluster cc.cluster ctx.cluster_name with
  | error failure => rfl
  | ok cluster =>
      rw [lift_ok_bind]
      cases chosen : ClustersFile.get_provider cc.cluster cluster.provider with
      | error failure =>
          rw [lift_error_bind, lift_error_bind]
          simp [chosen, bind, Except.bind]
      | ok provider =>
          rw [lift_ok_bind]
          cases provider <;> simp [chosen, bind, Except.bind, removal]

section Attempts

variable {site : Site δ} {cc : ClusterControl} {ctx : DestroyRequest} {provider : ProviderClass}

/-- An attempt that finds no machine raises, wherever it stops. -/
theorem missing_upTo (known : destroyer cc ctx.cluster_name = .ok provider) (actions : Nat)
    {world : CloudWorld δ} (missing : copies site provider ctx.machine_name world = 0) :
    let ended := (Tasks.destroy_instance site cc ctx).upTo actions world
    (∀ result, ended.1 ≠ some (.ok result)) ∧
      copies site provider ctx.machine_name ended.2 = 0 ∧ ended.2.redis = world.redis := by
  intro ended
  have same : ended = ((Tasks.destroy_instance site cc ctx).upTo actions world) := rfl
  rw [destroy_instance_eq, known] at same
  cases provider with
  | «local» =>
      have absent : world.dirs ctx.machine_name = none := by
        simpa [copies] using missing
      cases actions with
      | zero =>
          have : ended = (none, world) := same
          simp [this, missing]
      | succ actions =>
          have : ended = (some (.error (.fileNotFoundError ctx.machine_name)), world) := by
            rw [same]
            simp [removal, LocalProvider.destroy_machine, LocalProvider.empty_dir, upTo_bind,
              absent]
          simp [this, missing]
  | gce =>
      have none_named :
          (site.driver.list_nodes world.gce).filter (·.name == ctx.machine_name) = [] := by
        rw [copies, List.countP_eq_length_filter] at missing
        exact List.length_eq_zero_iff.mp missing
      cases actions with
      | zero =>
          have : ended = (none, world) := same
          simp [this, missing]
      | succ actions =>
          have : ended = (some (.error .indexError), world) := by
            rw [same]
            simp [removal, GCEProvider.destroy_machine, GCEProvider.list_nodes, look, upTo_bind,
              none_named]
          simp [this, missing]

theorem copies_destroy {world : CloudWorld δ} {name : String} {node : GceNode}
    (held : node ∈ site.driver.list_nodes world.gce) (named : node.name = name) :
    copies site .gce name { world with gce := site.driver.destroy node world.gce } + 1 =
      copies site .gce name world := by
  have counted : 0 < (site.driver.list_nodes world.gce).countP (·.name == name) :=
    List.countP_pos_iff.mpr ⟨node, held, by simp [named]⟩
  simp only [copies, site.driver.node_destroyed, List.countP_erase, held, named, beq_self_eq_true,
    and_self, if_true]
  omega

/-- At both providers the first action finds the machine and the second one removes it. -/
theorem removal_upTo (site : Site δ) (provider : ProviderClass) {name : String}
    {world : CloudWorld δ} (present : 0 < copies site provider name world) :
    ∃ looked removed : CloudWorld δ,
      (removal site name provider).upTo 0 world = (none, world) ∧
      (removal site name provider).upTo 1 world = (none, looked) ∧
      (∀ more, (removal site name provider).upTo (more + 2) world = (some (.ok ()), removed)) ∧
      (copies site provider name looked = copies site provider name world ∧
        looked.redis = world.redis) ∧
      copies site provider name removed + 1 = copies site provider name world ∧
        removed.redis = world.redis := by
  cases provider with
  | «local» =>
      obtain ⟨entry, held⟩ : ∃ entry, world.dirs name = some entry := by
        by_contra absent
        simp only [← Option.ne_none_iff_exists', not_not] at absent
        simp [copies, absent] at present
      refine ⟨{ world with dirs := Function.update world.dirs name (some none) },
        { world with dirs := Function.update world.dirs name none }, rfl, ?_, ?_, ⟨?_, rfl⟩, ?_, rfl⟩
      · simp [removal, LocalProvider.destroy_machine, LocalProvider.empty_dir,
          LocalProvider.remove_dir, upTo_bind, held]
      · intro more
        simp [removal, LocalProvider.destroy_machine, LocalProvider.empty_dir,
          LocalProvider.remove_dir, upTo_bind, held]
      · simp [copies, held]
      · simp [copies, held]
  | gce =>
      obtain ⟨node, others, found⟩ : ∃ node others,
          (site.driver.list_nodes world.gce).filter (·.name == name) = node :: others := by
        rw [copies, List.countP_eq_length_filter] at present
        exact List.exists_cons_of_length_pos present
      have inside : node ∈ (site.driver.list_nodes world.gce).filter (·.name == name) := by
        rw [found]
        exact List.mem_cons_self ..
      obtain ⟨held, named⟩ := List.mem_filter.mp inside
      refine ⟨world, { world with gce := site.driver.destroy node world.gce }, rfl, ?_, ?_,
        ⟨rfl, rfl⟩, copies_destroy held (beq_iff_eq.mp named), rfl⟩
      · simp [removal, GCEProvider.destroy_machine, GCEProvider.list_nodes, look,
          GCEProvider.destroy_node, upTo_bind, found]
      · intro more
        simp [removal, GCEProvider.destroy_machine, GCEProvider.list_nodes, look,
          GCEProvider.destroy_node, upTo_bind, found]

theorem copies_unregistered (site : Site δ) (provider : ProviderClass) (name : String)
    (world : CloudWorld δ) (redis : Redis) :
    copies site provider name { world with redis := redis } = copies site provider name world := by
  cases provider <;> rfl

/-- An attempt that finds the machine makes three actions: it is the second one that removes the
machine and the third one that unregisters it. -/
theorem present_upTo (known : destroyer cc ctx.cluster_name = .ok provider) (actions : Nat)
    {world : CloudWorld δ} (present : 0 < copies site provider ctx.machine_name world) :
    let ended := (Tasks.destroy_instance site cc ctx).upTo actions world
    (actions < 3 → ended.1 = none ∧
        copies site provider ctx.machine_name ended.2 + (if actions = 2 then 1 else 0) =
          copies site provider ctx.machine_name world ∧
        ended.2.redis = world.redis) ∧
      (3 ≤ actions → ended.1 = some (.ok ()) ∧
        copies site provider ctx.machine_name ended.2 + 1 =
          copies site provider ctx.machine_name world ∧
        ended.2.redis = unregister_instance world.redis ctx.machine_name ctx.cluster_name) := by
  intro ended
  obtain ⟨looked, removed, none_yet, first, both, ⟨kept, unchanged⟩, fewer, same⟩ :=
    removal_upTo site provider present
  have two : (removal site ctx.machine_name provider).cost world = 2 := by
    have one_more := upTo_isSome_iff (removal site ctx.machine_name provider) 1 world
    have enough := upTo_isSome_iff (removal site ctx.machine_name provider) 2 world
    rw [first] at one_more
    rw [both 0] at enough
    simp only [Option.isSome_none, Option.isSome_some, Bool.false_eq_true, false_iff,
      true_iff] at one_more enough
    omega
  have ends : ended = ((Tasks.destroy_instance site cc ctx).upTo actions world) := rfl
  rw [destroy_instance_eq, known] at ends
  simp only [upTo_bind, two] at ends
  rcases actions with _ | _ | _ | more
  · rw [none_yet] at ends
    simp [ends]
  · rw [first] at ends
    simp [ends, kept, unchanged]
  · rw [both 0] at ends
    have stops : ended = (none, removed) := ends
    simp [stops, fewer, same]
  · have three : more + 1 + 2 - 2 = more + 1 := rfl
    rw [both (more + 1)] at ends
    simp only [three, unregister, upTo_succ_call] at ends
    rw [ends]
    refine ⟨fun cut => absurd cut (by omega), fun _ => ⟨rfl, ?_, by rw [← same]⟩⟩
    rw [copies_unregistered]
    exact fewer

end Attempts

/-- The world after attempts that broke off after so many actions each. -/
def crashed (site : Site δ) (cc : ClusterControl) (ctx : DestroyRequest) (crashes : List Nat)
    (world : CloudWorld δ) : CloudWorld δ :=
  crashes.foldl (fun world actions =>
    ((Tasks.destroy_instance site cc ctx).attempt (some actions) world).2) world

/-- The retry that nothing breaks off completes, and the machine is gone from the provider and
from the registry. -/
def Recovers (site : Site δ) (cc : ClusterControl) (ctx : DestroyRequest) (crashes : List Nat)
    (world : CloudWorld δ) : Prop :=
  let retry := (Tasks.destroy_instance site cc ctx).run (crashed site cc ctx crashes world)
  retry.1 = .ok () ∧
    (∃ provider, destroyer cc ctx.cluster_name = .ok provider ∧
      copies site provider ctx.machine_name retry.2 = 0) ∧
    (∀ cluster, ctx.machine_name ∉ list_instances retry.2.redis cluster) ∧
    get_instance retry.2.redis ctx.machine_name = none

section Recovery

variable (site : Site δ) {cc : ClusterControl} {ctx : DestroyRequest} {provider : ProviderClass}

theorem crash_leaves (known : destroyer cc ctx.cluster_name = .ok provider) (actions : Nat)
    (world : CloudWorld δ) :
    let later := ((Tasks.destroy_instance site cc ctx).attempt (some actions) world).2
    copies site provider ctx.machine_name later =
        copies site provider ctx.machine_name world - (if 2 ≤ actions then 1 else 0) ∧
      ∀ other, other ≠ ctx.cluster_name → (ctx.machine_name ∈ list_instances later.redis other ↔
        ctx.machine_name ∈ list_instances world.redis other) := by
  intro later
  have same : later = ((Tasks.destroy_instance site cc ctx).upTo actions world).2 := rfl
  rcases Nat.eq_zero_or_pos (copies site provider ctx.machine_name world) with missing | present
  · obtain ⟨_, still, redis⟩ := missing_upTo known actions missing
    rw [same, still, redis, missing]
    simp
  · obtain ⟨stopped, completed⟩ := present_upTo known actions present
    rcases Nat.lt_or_ge actions 3 with cut | all
    · obtain ⟨_, fewer, redis⟩ := stopped cut
      rw [same, redis]
      refine ⟨?_, fun _ _ => Iff.rfl⟩
      split at fewer <;> split <;> omega
    · obtain ⟨_, fewer, redis⟩ := completed all
      rw [same, redis]
      refine ⟨by rw [if_pos (by omega)]; omega, ?_⟩
      intro other different
      rw [mem_list_unregister]
      exact and_iff_left fun mine => different mine.1

theorem crashed_leaves (known : destroyer cc ctx.cluster_name = .ok provider) (crashes : List Nat)
    (world : CloudWorld δ) :
    copies site provider ctx.machine_name (crashed site cc ctx crashes world) =
        copies site provider ctx.machine_name world - crashes.countP (2 ≤ ·) ∧
      ∀ other, other ≠ ctx.cluster_name →
        (ctx.machine_name ∈ list_instances (crashed site cc ctx crashes world).redis other ↔
          ctx.machine_name ∈ list_instances world.redis other) := by
  -- each attempt begins in the world that the one before has left
  induction crashes generalizing world with
  | nil => simp [crashed]
  | cons first others ih =>
      obtain ⟨fewer, elsewhere⟩ := crash_leaves site known first world
      obtain ⟨rest, unchanged⟩ :=
        ih ((Tasks.destroy_instance site cc ctx).attempt (some first) world).2
      refine ⟨?_, ?_⟩
      · apply rest.trans
        rw [fewer, List.countP_cons]
        simp only [decide_eq_true_eq]
        omega
      · intro other different
        exact (unchanged other different).trans (elsewhere other different)

/-- The retry completes when it finds the machine, and raises when it does not. -/
theorem retry_cases (known : destroyer cc ctx.cluster_name = .ok provider) (world : CloudWorld δ) :
    let retry := (Tasks.destroy_instance site cc ctx).run world
    (copies site provider ctx.machine_name world = 0 ∧ retry.1 ≠ .ok ()) ∨
      (retry.1 = .ok () ∧ copies site provider ctx.machine_name retry.2 + 1 =
          copies site provider ctx.machine_name world ∧
        retry.2.redis = unregister_instance world.redis ctx.machine_name ctx.cluster_name) := by
  intro retry
  have whole : _ = (some retry.1, retry.2) :=
    Fallible.upTo_cost (Tasks.destroy_instance site cc ctx) world
  rcases Nat.eq_zero_or_pos (copies site provider ctx.machine_name world) with missing | present
  · obtain ⟨failed, _, _⟩ := missing_upTo known
      ((Tasks.destroy_instance site cc ctx).cost world) missing
    refine Or.inl ⟨missing, ?_⟩
    intro answered
    exact failed () (by rw [whole, answered])
  · obtain ⟨stopped, ended⟩ := present_upTo known
      ((Tasks.destroy_instance site cc ctx).cost world) present
    -- an attempt cut before its third action has no result, and the retry has one
    have all : 3 ≤ (Tasks.destroy_instance site cc ctx).cost world := by
      by_contra less
      have cut := (stopped (by omega)).1
      rw [whole] at cut
      exact absurd cut (by simp)
    obtain ⟨done, fewer, redis⟩ := ended all
    rw [whole] at done fewer redis
    exact Or.inr ⟨Option.some.inj done, fewer, redis⟩

end Recovery

/-- A destruction recovers exactly when there is one machine of the name more than there were
attempts that removed one and broke off, which is one machine and no such attempt, and no other
cluster lists it. -/
theorem destruction_recovers_iff (site : Site δ) (cc : ClusterControl) (ctx : DestroyRequest)
    (crashes : List Nat) (world : CloudWorld δ) :
    Recovers site cc ctx crashes world ↔
      ∃ provider, destroyer cc ctx.cluster_name = .ok provider ∧
        copies site provider ctx.machine_name world = crashes.countP (2 ≤ ·) + 1 ∧
        ∀ other, other ≠ ctx.cluster_name → ctx.machine_name ∉ list_instances world.redis other := by
  constructor
  · rintro ⟨done, ⟨provider, known, none_left⟩, unlisted, _⟩
    obtain ⟨fewer, elsewhere⟩ := crashed_leaves site known crashes world
    rcases retry_cases site known (crashed site cc ctx crashes world) with
      ⟨_, failed⟩ | ⟨_, counted, redis⟩
    · exact absurd done failed
    · refine ⟨provider, known, by omega, ?_⟩
      intro other different member
      rw [redis] at unlisted
      refine unlisted other ((mem_list_unregister _ _ _ _ _).mpr ⟨?_, fun same => different same.1⟩)
      exact (elsewhere other different).mpr member
  · rintro ⟨provider, known, counted, unshared⟩
    obtain ⟨fewer, elsewhere⟩ := crashed_leaves site known crashes world
    rcases retry_cases site known (crashed site cc ctx crashes world) with
      ⟨missing, _⟩ | ⟨done, one_less, redis⟩
    · omega
    · refine ⟨done, ⟨provider, known, by omega⟩, ?_, ?_⟩
      · intro cluster member
        rw [redis, mem_list_unregister] at member
        by_cases same : cluster = ctx.cluster_name
        · exact member.2 ⟨same, rfl⟩
        · exact unshared cluster same ((elsewhere cluster same).mp member.1)
      · rw [redis]
        exact get_unregister _ _ _

def sampleWorld : CloudWorld GceProject :=
  (ClusterRegistry.perform ClusterRegistry.Sample.site ClusterRegistry.Sample.cc
    (ClusterRegistry.first ClusterRegistry.Sample.world)
    (ClusterRegistry.Sample.create "gpu" "a")).world

/-- The attempt that removes the directory of the machine breaks off before the registry, and the
retry finds no directory. -/
theorem crash_after_removal_not_recovered :
    copies ClusterRegistry.Sample.site .local "cpu-a" sampleWorld = 1 ∧
      "cpu-a" ∈ list_instances sampleWorld.redis "gpu" ∧
      ¬Recovers ClusterRegistry.Sample.site ClusterRegistry.Sample.cc
        { cluster_name := "gpu", machine_name := "cpu-a" } [2] sampleWorld := by
  refine ⟨rfl, by decide, ?_⟩
  rintro ⟨done, _⟩
  have raised : ((Tasks.destroy_instance ClusterRegistry.Sample.site ClusterRegistry.Sample.cc
      { cluster_name := "gpu", machine_name := "cpu-a" }).run
      (crashed ClusterRegistry.Sample.site ClusterRegistry.Sample.cc
        { cluster_name := "gpu", machine_name := "cpu-a" } [2] sampleWorld)).1 =
      .error (.fileNotFoundError "cpu-a") := rfl
  rw [raised] at done
  exact absurd done (by simp)

end InstanceDestruction

end LabFunctions
