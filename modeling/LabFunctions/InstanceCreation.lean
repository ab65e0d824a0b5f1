import LabFunctions.ClusterRegistry

/-!
`create_instance` under failures: the machines that its attempts leave at the provider, and which
of them the registry knows.
-/

namespace LabFunctions

open ClusterControl Fallible

namespace InstanceCreation

variable {δ : Type}

structure Attempt where
  stop : Option Nat
  draws : Draws
  remote : Nat → Contact

section

variable (site : Site δ) (cc : ClusterControl) (ctx : CreateRequest)

def task (one : Attempt) : CloudTask δ MachineInstance :=
  Tasks.create_instance site cc one.draws one.remote ctx

def creation (one : Attempt) : CloudTask δ MachineInstance :=
  cc.create_instance site one.draws ctx.cluster_name ctx.alias_

def attempt (one : Attempt) (world : CloudWorld δ) :
    Option (Except ClusterError MachineInstance) × CloudWorld δ :=
  (task site cc ctx one).attempt one.stop world

def reach (one : Attempt) (world : CloudWorld δ) : Nat :=
  one.stop.getD ((task site cc ctx one).cost world)

def ended (attempts : List Attempt) (world : CloudWorld δ) : CloudWorld δ :=
  (Retries.retried (attempt site cc ctx) attempts world).2

/-- The attempt gets an answer from the provider and makes one more action, which is
`register_instance`. -/
def Registers (one : Attempt) (world : CloudWorld δ) (name : String) : Prop :=
  ∃ machine, machine.machine_name = name ∧
    ((creation site cc ctx one).upTo (reach site cc ctx one world) world).1 = some (.ok machine) ∧
    (creation site cc ctx one).cost world < reach site cc ctx one world

/-- The attempt asks the provider for a machine of the name, and leaves one that was not there. -/
def Creates (one : Attempt) (world : CloudWorld δ) (provider : ProviderClass) (name : String) :
    Prop :=
  (∃ req, cc.requested one.draws ctx.cluster_name ctx.alias_ = .ok (provider, req) ∧
      req.name = name) ∧
    ¬runsAt site provider name world ∧
    runsAt site provider name (attempt site cc ctx one world).2

end

def Recorded (cluster name : String) (world : CloudWorld δ) : Prop :=
  name ∈ list_instances world.redis cluster ∧ (get_instance world.redis name).isSome = true

variable (site : Site δ) (cc : ClusterControl) (ctx : CreateRequest)

theorem attempt_reach (one : Attempt) (world : CloudWorld δ) :
    (attempt site cc ctx one world).2 =
      ((task site cc ctx one).upTo (reach site cc ctx one world) world).2 := by
  unfold attempt reach Fallible.attempt
  cases one.stop with
  | none => exact (congrArg Prod.snd (Fallible.upTo_cost (task site cc ctx one) world)).symm
  | some actions => rfl

/-- What the provider's part of an attempt leaves: one machine more at most. -/
theorem creation_leaves (one : Attempt) (actions : Nat) (world : CloudWorld δ) :
    let made := (creation site cc ctx one).upTo actions world
    made.2.redis = world.redis ∧
      (∀ provider name, runsAt site provider name world → runsAt site provider name made.2) ∧
      ∀ provider name, runsAt site provider name made.2 → ¬runsAt site provider name world →
        ∃ req, cc.requested one.draws ctx.cluster_name ctx.alias_ = .ok (provider, req) ∧
          req.name = name := by
  intro made
  rcases create_instance_cases site cc one.draws ctx.cluster_name ctx.alias_ actions world with
    ⟨failure, _, raised⟩ | ⟨provider, req, request, grown, _⟩
  · rw [show made = (some (.error failure), world) from raised]
    exact ⟨rfl, fun _ _ runs => runs, fun _ _ runs fresh => absurd runs fresh⟩
  · refine ⟨grown.redis, grown.kept, ?_⟩
    intro other name runs fresh
    rcases grown.only other name runs with ⟨rfl, rfl⟩ | before
    · exact ⟨req, request, rfl⟩
    · exact absurd before fresh

variable {site} in
theorem runsAt_congr {later world : CloudWorld δ} (dirs : later.dirs = world.dirs)
    (gce : later.gce = world.gce) (provider : ProviderClass) (name : String) :
    runsAt site provider name later ↔ runsAt site provider name world := by
  cases provider with
  | «local» => rw [runsAt, runsAt, dirs]
  | gce => rw [runsAt, runsAt, gce]

/-- What one attempt brings about: in the registry, and at the provider. -/
theorem attempt_recorded (one : Attempt) (world : CloudWorld δ) (name : String) :
    Recorded ctx.cluster_name name (attempt site cc ctx one world).2 ↔
      Recorded ctx.cluster_name name world ∨ Registers site cc ctx one world name := by
  rw [attempt_reach]
  have redis := (creation_leaves site cc ctx one (reach site cc ctx one world) world).1
  rcases Tasks.create_instance_upTo site cc one.draws one.remote ctx
      (reach site cc ctx one world) world with
    ⟨machine, made, more, finished, _⟩ | ⟨stopped, same, _⟩
  · have registers : Registers site cc ctx one world name ↔ name = machine.machine_name := by
      constructor
      · rintro ⟨other, rfl, answered, _⟩
        have equal : some (Except.ok other) = some (Except.ok machine) := answered.symm.trans made
        rw [Except.ok.inj (Option.some.inj equal)]
      · rintro rfl
        exact ⟨machine, rfl, made, more⟩
    have registry : ((task site cc ctx one).upTo (reach site cc ctx one world) world).2.redis =
        register_instance world.redis machine ctx.cluster_name :=
      finished.redis.trans (by rw [← redis]; rfl)
    rw [registers, Recorded, registry, mem_list_register, get_register]
    by_cases mine : name = machine.machine_name
    · simp [mine]
    · simp [mine, Recorded]
  -- the provider has not answered, or the attempt stops at its answer
  · have never : ¬Registers site cc ctx one world name := by
      rintro ⟨machine, _, answered, more⟩
      exact absurd (stopped machine answered) (by unfold creation at more; omega)
    have registry : ((task site cc ctx one).upTo (reach site cc ctx one world) world).2.redis =
        world.redis := (congrArg CloudWorld.redis same).trans redis
    rw [Recorded, registry]
    simp [never, Recorded]

theorem attempt_runs (one : Attempt) (world : CloudWorld δ) (provider : ProviderClass)
    (name : String) :
    runsAt site provider name (attempt site cc ctx one world).2 ↔
      runsAt site provider name world ∨ Creates site cc ctx one world provider name := by
  have made := creation_leaves site cc ctx one (reach site cc ctx one world) world
  have reached : runsAt site provider name (attempt site cc ctx one world).2 ↔
      runsAt site provider name
        ((creation site cc ctx one).upTo (reach site cc ctx one world) world).2 := by
    rw [attempt_reach]
    rcases Tasks.create_instance_upTo site cc one.draws one.remote ctx
        (reach site cc ctx one world) world with ⟨_, _, _, finished, _⟩ | ⟨_, same, _⟩
    · exact runsAt_congr finished.dirs finished.gce provider name
    · exact iff_of_eq (congrArg (runsAt site provider name) same)
  by_cases before : runsAt site provider name world
  · simp only [before, true_or, iff_true]
    exact reached.mpr (made.2.1 provider name before)
  · simp only [before, false_or]
    constructor
    · intro runs
      exact ⟨made.2.2 provider name (reached.mp runs) before, before, runs⟩
    · intro creates
      exact creates.2.2

/-- A machine that the task leaves at the provider was created by one of its attempts, and it is
recorded exactly when an attempt for it got through `register_instance`, or it was before. -/
theorem created_machine_recorded_iff (attempts : List Attempt) (world : CloudWorld δ)
    (provider : ProviderClass) (name : String)
    (runs : runsAt site provider name (ended site cc ctx attempts world))
    (fresh : ¬runsAt site provider name world) :
    (∃ made ∈ Retries.tried (attempt site cc ctx) attempts world,
        Creates site cc ctx made.1 made.2 provider name) ∧
      (Recorded ctx.cluster_name name (ended site cc ctx attempts world) ↔
        Recorded ctx.cluster_name name world ∨
          ∃ made ∈ Retries.tried (attempt site cc ctx) attempts world,
            Registers site cc ctx made.1 made.2 name) := by
  have created := Retries.retried_iff (fun one state => attempt_runs site cc ctx one state provider name)
    attempts world
  refine ⟨(created.mp runs).resolve_left fresh, ?_⟩
  exact Retries.retried_iff (fun one state => attempt_recorded site cc ctx one state name)
    attempts world

section Samples

open ClusterRegistry

def sampleRequest : CreateRequest := { cluster_name := "gpu", alias_ := some "a" }

def sampleAttempt (stop : Option Nat) : Attempt :=
  { stop := stop, draws := ⟨"x", "y"⟩, remote := fun _ => .unreachable }

theorem created_machine_recorded_sample :
    Recorded "gpu" "cpu-a"
      (ended Sample.site Sample.cc sampleRequest [sampleAttempt (some 1), sampleAttempt none]
        Sample.world) := by
  have recorded := (created_machine_recorded_iff Sample.site Sample.cc sampleRequest
    [sampleAttempt (some 1), sampleAttempt none] Sample.world .local "cpu-a" ⟨_, rfl⟩
    (by rintro ⟨machine, held⟩; exact absurd held (by simp [Sample.world]))).2
  refine recorded.mpr (Or.inr ⟨_, List.mem_cons_of_mem _ (List.mem_cons_self ..), ?_⟩)
  exact ⟨_, rfl, rfl, by decide⟩

/-- The attempt breaks off after the provider has made the machine and before the registry hears
of it. -/
theorem created_machine_unrecorded :
    runsAt Sample.site .local "cpu-a"
        (ended Sample.site Sample.cc sampleRequest [sampleAttempt (some 2)] Sample.world) ∧
      ¬runsAt Sample.site .local "cpu-a" Sample.world ∧
      ¬Recorded "gpu" "cpu-a"
        (ended Sample.site Sample.cc sampleRequest [sampleAttempt (some 2)] Sample.world) := by
  refine ⟨⟨_, rfl⟩, ?_, ?_⟩
  · rintro ⟨machine, held⟩
    exact absurd held (by simp [Sample.world])
  · rintro ⟨member, _⟩
    exact absurd member (by decide)

end Samples

end InstanceCreation

end LabFunctions
