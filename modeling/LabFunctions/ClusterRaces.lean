import LabFunctions.ClusterSteps

/-!
`create_instance` and `destroy_instance` of several workers at once, action by action: where the
registry and the providers may differ.
-/

namespace LabFunctions

open ClusterControl

namespace ClusterRegistry.ClusterTask

variable {δ : Type}

/-- The machine that the task creates. -/
def creates (cc : ClusterControl) : ClusterTask → Option (ProviderClass × String)
  | create ctx draws _ =>
      match cc.requested draws ctx.cluster_name ctx.alias_ with
      | .ok (provider, req) => some (provider, req.name)
      | .error _ => none
  | destroy _ => none

/-- The machine that the task destroys. -/
def destroys (cc : ClusterControl) : ClusterTask → Option (ProviderClass × String)
  | create _ _ _ => none
  | destroy ctx =>
      match InstanceDestruction.destroyer cc ctx.cluster_name with
      | .ok provider => some (provider, ctx.machine_name)
      | .error _ => none

def program (site : Site δ) (cc : ClusterControl) : ClusterTask → CloudTask δ Unit
  | create ctx draws remote => do
      let _machine ← Tasks.create_instance site cc draws remote ctx
      return ()
  | destroy ctx => Tasks.destroy_instance site cc ctx

end ClusterRegistry.ClusterTask

namespace ClusterRaces

open ClusterRegistry ClusterSteps Fallible

variable {δ : Type}

/-! Tasks side by side. -/

section Tasks

variable {site : Site δ} {cc : ClusterControl} {rely : CloudWorld δ → CloudWorld δ → Prop}
  (refl : ∀ state, rely state state) {provider : ProviderClass} {name : String} {task : ClusterTask}

/-- The step touches some machine other than this one. -/
def Elsewhere (site : Site δ) (name : String) (state later : CloudWorld δ) : Prop :=
  ∃ other, name ≠ other ∧ Confined site other state later

theorem create_unasked {ctx : CreateRequest} {draws : Draws} {failure : ClusterError}
    (request : cc.requested draws ctx.cluster_name ctx.alias_ = .error failure)
    (remote : Nat → Contact) :
    Tasks.create_instance site cc draws remote ctx = Fallible.lift (.error failure) := by
  rw [Tasks.create_instance_eq, create_instance_eq, request]
  rfl

include refl in
theorem program_elsewhere (separate : Separate site.driver)
    (uncreated : ∀ place, task.creates cc ≠ some (place, name))
    (undestroyed : ∀ place, task.destroys cc ≠ some (place, name)) :
    Beside rely (Elsewhere site name) (fun _ => True) (task.program site cc)
      (fun _ _ => True) := by
  cases task with
  | create ctx draws remote =>
      have created : Beside rely (Elsewhere site name) (fun _ => True)
          (Tasks.create_instance site cc draws remote ctx) (fun _ _ => True) := by
        cases request : cc.requested draws ctx.cluster_name ctx.alias_ with
        | error failure =>
            rw [create_unasked request]
            exact beside_lift fun _ _ _ _ _ _ => trivial
        | ok chosen =>
            obtain ⟨place, req⟩ := chosen
            have apart : name ≠ req.name := by
              rintro rfl
              exact uncreated place (by simp [ClusterTask.creates, request])
            exact (create_beside refl separate request remote).mono (fun _ holds => holds)
              (fun _ _ created => ⟨req.name, apart, created.confined⟩) fun _ _ _ => trivial
      exact beside_bind refl created fun _machine => beside_pure fun _ _ _ _ => trivial
  | destroy ctx =>
      cases known : InstanceDestruction.destroyer cc ctx.cluster_name with
      | error failure =>
          simp only [ClusterTask.program, InstanceDestruction.destroy_instance_eq, known]
          exact beside_lift fun _ _ _ _ _ _ => trivial
      | ok place =>
          have apart : name ≠ ctx.machine_name := by
            rintro rfl
            exact undestroyed place (by simp [ClusterTask.destroys, known])
          exact (destroy_confined refl cc ctx).mono (fun _ holds => holds)
            (fun _ _ confined => ⟨ctx.machine_name, apart, confined⟩) fun _ _ _ => trivial

include refl in
theorem program_creates (separate : Separate site.driver)
    (created : task.creates cc = some (provider, name)) :
    Beside rely (Created site provider name rely) (fun _ => True) (task.program site cc)
      (fun _ => Recorded site provider name task.cluster_name rely) := by
  cases task with
  | destroy ctx => cases created
  | create ctx draws remote =>
      cases request : cc.requested draws ctx.cluster_name ctx.alias_ with
      | error failure => simp [ClusterTask.creates, request] at created
      | ok chosen =>
          obtain ⟨place, req⟩ := chosen
          obtain ⟨rfl, rfl⟩ : place = provider ∧ req.name = name := by
            simpa [ClusterTask.creates, request] using created
          refine beside_bind refl (create_beside refl separate request remote) fun _machine => ?_
          exact beside_pure fun _ _ recorded moved => recorded.stable moved

theorem program_destroys (destroyed : task.destroys cc = some (provider, name))
    {state : CloudWorld δ} (lone : (named site name state.gce).length ≤ 1) :
    Prog.Beside (Shrunk site provider name) (Destroyed site provider name)
      (fun result state => result = .ok () → Gone site provider name task.cluster_name state)
      (ExceptT.run (task.program site cc)) state := by
  cases task with
  | create ctx draws remote => cases destroyed
  | destroy ctx =>
      cases known : InstanceDestruction.destroyer cc ctx.cluster_name with
      | error failure => simp [ClusterTask.destroys, known] at destroyed
      | ok place =>
          obtain ⟨rfl, rfl⟩ : place = provider ∧ ctx.machine_name = name := by
            simpa [ClusterTask.destroys, known] using destroyed
          exact destroy_beside known lone

end Tasks

abbrev Workers (ι δ : Type) := Interleaved.World ι (CloudWorld δ) (Except ClusterError Unit)

def Completed (prog : Prog (CloudWorld δ) (Except ClusterError Unit)) : Prop :=
  prog = .done (.ok ())

def Ended (prog : Prog (CloudWorld δ) (Except ClusterError Unit)) : Prop :=
  ∃ result, prog = .done result

section Workers

variable {ι : Type} [DecidableEq ι] {site : Site δ} {cc : ClusterControl}
  {provider : ProviderClass} {name : String}

def started (site : Site δ) (cc : ClusterControl) (tasks : ι → ClusterTask)
    (world : CloudWorld δ) : Workers ι δ :=
  { state := world, progs := fun one => ExceptT.run ((tasks one).program site cc) }

/-- What a completed creation leaves where nobody destroys the machine. -/
def Stood (site : Site δ) (provider : ProviderClass) (name cluster : String)
    (state : CloudWorld δ) : Prop :=
  runsAt site provider name state ∧ Registered name state ∧
    name ∈ list_instances state.redis cluster

/-- The step of a task where nobody destroys the machine. -/
def Rising (site : Site δ) (provider : ProviderClass) (name : String)
    (state later : CloudWorld δ) : Prop :=
  Kept site provider name state later ∧
    (Registered name later → Registered name state ∨ runsAt site provider name later)

theorem program_rises (separate : Separate site.driver) {task : ClusterTask}
    (here : ∀ place, task.creates cc = some (place, name) → place = provider)
    (undestroyed : ∀ place, task.destroys cc ≠ some (place, name)) (world : CloudWorld δ) :
    Prog.Beside (Kept site provider name) (fun state later _ => Rising site provider name state later)
      (fun result state => task.creates cc = some (provider, name) → result = .ok () →
        Stood site provider name task.cluster_name state)
      (ExceptT.run (task.program site cc)) world := by
  have lasting : Lasting site provider name (Kept site provider name) := fun _ _ kept => kept
  by_cases mine : task.creates cc = some (provider, name)
  · refine (program_creates Kept.refl separate mine world trivial).mono ?_ ?_
    · exact fun _ _ _ created =>
        ⟨created.kept, fun entry => (created.entry entry).imp_right fun stands => stands lasting⟩
    · exact fun _ _ ended _ same => ended () same lasting
  · have uncreated : ∀ place, task.creates cc ≠ some (place, name) := by
      intro place other
      obtain rfl := here place other
      exact mine other
    refine (program_elsewhere Kept.refl separate uncreated undestroyed world trivial).mono ?_ ?_
    · rintro state later _ ⟨other, apart, confined⟩
      exact ⟨confined.kept apart, fun entry => Or.inl ((confined.registered_iff apart).mp entry)⟩
    · exact fun _ _ _ created => absurd created mine

/-- Where nobody destroys the machine, it is registered only while it runs, and a completed
creation stays recorded. -/
theorem created_states (separate : Separate site.driver) {tasks : ι → ClusterTask}
    (here : ∀ one place, (tasks one).creates cc = some (place, name) → place = provider)
    (undestroyed : ∀ one place, (tasks one).destroys cc ≠ some (place, name))
    {world : CloudWorld δ} (agrees : Registered name world → runsAt site provider name world)
    (turns : List ι) :
    ∀ reached ∈ Runs.states Interleaved.step (started site cc tasks world) turns,
      (Registered name reached.state → runsAt site provider name reached.state) ∧
      ∀ one, (tasks one).creates cc = some (provider, name) → Completed (reached.progs one) →
        Stood site provider name (tasks one).cluster_name reached.state := by
  have begun : ∀ one, Prog.Beside (Kept site provider name)
      (fun state later _ => Rising site provider name state later)
      (fun result state => (tasks one).creates cc = some (provider, name) → result = .ok () →
        Stood site provider name (tasks one).cluster_name state)
      ((started site cc tasks world).progs one) (started site cc tasks world).state :=
    fun one => program_rises separate (here one) (undestroyed one) world
  have step : ∀ (reached : Workers ι δ) turn effect next,
      (Registered name reached.state → runsAt site provider name reached.state) →
      reached.progs turn = .act effect next →
      Rising site provider name reached.state (effect reached.state) →
      Registered name (Interleaved.step reached turn).state →
      runsAt site provider name (Interleaved.step reached turn).state := by
    intro reached turn effect next registered acts rises entry
    rw [Interleaved.step_act acts] at entry ⊢
    rcases rises.2 entry with before | runs
    · exact rises.1.runs (registered before)
    · exact runs
  have rising := Interleaved.states_beside (fun _ _ _ => Kept.trans) Kept.refl
    (fun _ _ _ _ rises => rises.1) step agrees begun turns
  intro reached member
  obtain ⟨registered, going⟩ := rising reached member
  refine ⟨registered, fun one created completed => ?_⟩
  have ended := going one
  rw [completed] at ended
  exact ended reached.state (Kept.refl _) created rfl

/-- The step of a task where nobody creates the machine. -/
def Falling (site : Site δ) (cc : ClusterControl) (provider : ProviderClass) (name : String)
    (task : ClusterTask) (state later : CloudWorld δ)
    (rest : Prog (CloudWorld δ) (Except ClusterError Unit)) : Prop :=
  Destroyed site provider name state later rest ∧
    (runsAt site provider name state → ¬runsAt site provider name later →
      task.destroys cc = some (provider, name))

theorem program_falls (separate : Separate site.driver) {task : ClusterTask}
    (here : ∀ place, task.destroys cc = some (place, name) → place = provider)
    (uncreated : ∀ place, task.creates cc ≠ some (place, name)) {world : CloudWorld δ}
    (lone : (named site name world.gce).length ≤ 1) :
    Prog.Beside (Shrunk site provider name) (Falling site cc provider name task)
      (fun result state => task.destroys cc = some (provider, name) → result = .ok () →
        Gone site provider name task.cluster_name state)
      (ExceptT.run (task.program site cc)) world := by
  by_cases mine : task.destroys cc = some (provider, name)
  · refine (program_destroys mine lone).mono ?_ fun _ _ ended _ same => ended same
    exact fun _ _ _ destroyed => ⟨destroyed, fun _ _ => mine⟩
  · have undestroyed : ∀ place, task.destroys cc ≠ some (place, name) := by
      intro place other
      obtain rfl := here place other
      exact mine other
    refine (program_elsewhere Shrunk.refl separate uncreated undestroyed world trivial).mono ?_ ?_
    · rintro state later _ ⟨other, apart, confined⟩
      have runs : runsAt site provider name later ↔ runsAt site provider name state :=
        confined.runsAt_iff apart
      refine ⟨⟨confined.shrunk apart, fun entry => Or.inl ?_, fun ran => Or.inl (runs.mpr ran)⟩, ?_⟩
      · exact (confined.registered_iff apart).mpr entry
      · exact fun ran stopped => absurd (runs.mpr ran) stopped
    · exact fun _ _ _ destroyed => absurd destroyed mine

/-- What has become of the machine since the beginning, where nobody creates it. -/
structure Waning (site : Site δ) (cc : ClusterControl) (provider : ProviderClass) (name : String)
    (tasks : ι → ClusterTask) (world : CloudWorld δ) (reached : Workers ι δ) : Prop where
  shrunk : Shrunk site provider name world reached.state
  entry : Registered name world →
    Registered name reached.state ∨ ¬runsAt site provider name reached.state
  runs : runsAt site provider name world → runsAt site provider name reached.state ∨
    ∃ one, (tasks one).destroys cc = some (provider, name) ∧
      Certain site provider name (reached.progs one) reached.state

theorem waning_step {tasks : ι → ClusterTask} {world : CloudWorld δ} {reached : Workers ι δ}
    {turn : ι} {effect : CloudWorld δ → CloudWorld δ}
    {next : CloudWorld δ → Prog (CloudWorld δ) (Except ClusterError Unit)}
    (waning : Waning site cc provider name tasks world reached)
    (acts : reached.progs turn = .act effect next)
    (falls : Falling site cc provider name (tasks turn) reached.state (effect reached.state)
      (next reached.state)) :
    Waning site cc provider name tasks world (Interleaved.step reached turn) := by
  obtain ⟨destroyed, mine⟩ := falls
  rw [Interleaved.step_act acts]
  refine ⟨waning.shrunk.trans destroyed.shrunk, ?_, ?_⟩
  · intro entry
    rcases waning.entry entry with registered | gone
    · exact destroyed.entry registered
    · exact Or.inr fun runs => gone (destroyed.shrunk.runs runs)
  intro ran
  rcases waning.runs ran with runs | ⟨one, destroys, certain⟩
  · by_cases stopped : runsAt site provider name (effect reached.state)
    · exact Or.inl stopped
    · refine Or.inr ⟨turn, mine runs stopped, ?_⟩
      simp only [Function.update_self]
      exact (destroyed.runs runs).resolve_left stopped
  · refine Or.inr ⟨one, destroys, ?_⟩
    by_cases same : one = turn
    · subst same
      rw [acts] at certain
      simp only [Function.update_self]
      exact (certain reached.state (Shrunk.refl _)).2
    · simp only [Function.update_of_ne same]
      exact certain.stable (fun _ _ _ => Shrunk.trans) destroyed.shrunk

/-- Where nobody creates the machine, it runs only while it is registered, and it is registered
without running only while a destruction is under way. -/
theorem destroyed_states (separate : Separate site.driver) {tasks : ι → ClusterTask}
    (here : ∀ one place, (tasks one).destroys cc = some (place, name) → place = provider)
    (uncreated : ∀ one place, (tasks one).creates cc ≠ some (place, name)) {world : CloudWorld δ}
    (agrees : runsAt site provider name world ↔ Registered name world)
    (lone : (named site name world.gce).length ≤ 1) (turns : List ι) :
    ∀ reached ∈ Runs.states Interleaved.step (started site cc tasks world) turns,
      (runsAt site provider name reached.state → Registered name reached.state) ∧
      (Registered name reached.state → ¬runsAt site provider name reached.state →
        ∃ one, (tasks one).destroys cc = some (provider, name) ∧ ¬Ended (reached.progs one)) ∧
      ∀ one, (tasks one).destroys cc = some (provider, name) → Completed (reached.progs one) →
        Gone site provider name (tasks one).cluster_name reached.state := by
  have begun : Waning site cc provider name tasks world (started site cc tasks world) :=
    ⟨Shrunk.refl _, Or.inl, Or.inl⟩
  have falling := Interleaved.states_beside (fun _ _ _ => Shrunk.trans) Shrunk.refl
    (fun _ _ _ _ falls => falls.1.shrunk) (fun _ _ _ _ waning acts => waning_step waning acts) begun
    (fun one => program_falls separate (here one) (uncreated one) lone) turns
  intro reached member
  obtain ⟨waning, going⟩ := falling reached member
  refine ⟨?_, ?_, ?_⟩
  · intro runs
    have before := agrees.mp (waning.shrunk.runs runs)
    exact (waning.entry before).resolve_right fun gone => gone runs
  · intro entry stopped
    have ran := agrees.mpr (waning.shrunk.entry entry)
    obtain ⟨one, destroys, certain⟩ := (waning.runs ran).resolve_left stopped
    refine ⟨one, destroys, ?_⟩
    rintro ⟨result, ended⟩
    rw [ended] at certain
    exact (certain reached.state (Shrunk.refl _)).2 entry
  · intro one destroys completed
    have ended := going one
    rw [completed] at ended
    exact ended reached.state (Shrunk.refl _) destroys rfl

/-- Tasks in any order of their actions, none of which creates a machine that another destroys: a
machine that runs unregistered is left to a creation that has not completed, and one that is
registered without running to a destruction that has actions to come. -/
theorem discrepancies_underway (site : Site δ) (cc : ClusterControl) (tasks : ι → ClusterTask)
    (provider : ProviderClass) (name : String) (separate : Separate site.driver)
    (here : ∀ one place, (tasks one).creates cc = some (place, name) ∨
      (tasks one).destroys cc = some (place, name) → place = provider)
    (apart : ∀ one other place elsewhere, (tasks one).creates cc = some (place, name) →
      (tasks other).destroys cc ≠ some (elsewhere, name))
    (world : CloudWorld δ) (agrees : runsAt site provider name world ↔ Registered name world)
    (lone : (named site name world.gce).length ≤ 1) (turns : List ι) :
    ∀ reached ∈ Runs.states Interleaved.step (started site cc tasks world) turns,
      (runsAt site provider name reached.state → ¬Registered name reached.state →
        ∃ one, (tasks one).creates cc = some (provider, name) ∧ ¬Completed (reached.progs one)) ∧
      (Registered name reached.state → ¬runsAt site provider name reached.state →
        ∃ one, (tasks one).destroys cc = some (provider, name) ∧ ¬Ended (reached.progs one)) ∧
      ∀ one, Completed (reached.progs one) →
        ((tasks one).creates cc = some (provider, name) →
          Stood site provider name (tasks one).cluster_name reached.state) ∧
        ((tasks one).destroys cc = some (provider, name) →
          Gone site provider name (tasks one).cluster_name reached.state) := by
  intro reached member
  by_cases wanted : ∃ one place, (tasks one).creates cc = some (place, name)
  · obtain ⟨maker, place, creates⟩ := wanted
    obtain rfl := here maker place (Or.inl creates)
    have undestroyed := fun one elsewhere => apart maker one place elsewhere creates
    obtain ⟨registered, stood⟩ := created_states separate
      (fun one other made => here one other (Or.inl made)) undestroyed agrees.mpr turns reached member
    refine ⟨?_, fun entry stopped => absurd (registered entry) stopped, ?_⟩
    · intro _ unregistered
      exact ⟨maker, creates, fun completed => unregistered (stood maker creates completed).2.1⟩
    · intro one completed
      exact ⟨fun made => stood one made completed, fun destroys => absurd destroys (undestroyed one _)⟩
  · have uncreated : ∀ one place, (tasks one).creates cc ≠ some (place, name) :=
      fun one place creates => wanted ⟨one, place, creates⟩
    obtain ⟨registered, underway, gone⟩ := destroyed_states separate
      (fun one other made => here one other (Or.inr made)) uncreated agrees lone turns reached member
    refine ⟨fun runs unregistered => absurd (registered runs) unregistered, underway, ?_⟩
    intro one completed
    exact ⟨fun creates => absurd creates (uncreated one _), fun destroys => gone one destroys completed⟩

end Workers

section Samples

/-- The machine `cpu-b` of the cluster `gpu` runs in its directory. -/
def sampleRunning : CloudWorld GceProject :=
  let machine : MachineInstance :=
    { machine_id := "/local/home/cpu-b"
      machine_name := "cpu-b"
      location := "home"
      private_ips := ["127.0.0.1"]
      public_ips := [] }
  { Sample.world with
    redis := register_instance Sample.world.redis machine "gpu"
    dirs := Function.update Sample.world.dirs "cpu-b" (some (some machine)) }

/-- One task destroys that machine, the other one creates a machine. -/
def sampleTasks (alias_ : String) (destroying : Bool) : ClusterTask :=
  if destroying then Sample.destroy "gpu" "cpu-b"
  else Sample.create "gpu" alias_

theorem sample_separate : Separate Sample.site.driver := by
  intro spec state name apart
  simp only [Sample.site, GceProject.driver, GceProject.create_node]
  split
  · rfl
  · simp [apart.symm]

theorem sampleTasks_creates (one : Bool) :
    (sampleTasks "a" one).creates Sample.cc =
      if one then none else some (.local, "cpu-a") := by
  cases one <;> rfl

theorem sampleTasks_destroys (alias_ : String) (one : Bool) :
    (sampleTasks alias_ one).destroys Sample.cc =
      if one then some (.local, "cpu-b") else none := by
  cases one <;> rfl

theorem sampleTasks_here (one : Bool) (place : ProviderClass) (name : String)
    (made : (sampleTasks "a" one).creates Sample.cc = some (place, name) ∨
      (sampleTasks "a" one).destroys Sample.cc = some (place, name)) :
    place = .local := by
  rw [sampleTasks_creates, sampleTasks_destroys] at made
  cases one <;> simp_all

theorem sampleTasks_apart (one other : Bool) (place elsewhere : ProviderClass) (name : String)
    (made : (sampleTasks "a" one).creates Sample.cc = some (place, name)) :
    (sampleTasks "a" other).destroys Sample.cc ≠ some (elsewhere, name) := by
  rw [sampleTasks_creates] at made
  rw [sampleTasks_destroys]
  intro destroyed
  have first : "cpu-a" = name := by
    cases one <;> simp_all
  have second : "cpu-b" = name := by
    cases other <;> simp_all
  exact absurd (first.trans second.symm) (by decide)

def sampleEnded (alias_ : String) (turns : List Bool) : Workers Bool GceProject :=
  Runs.run Interleaved.step
    (started Sample.site Sample.cc (sampleTasks alias_) sampleRunning) turns

theorem created_beside_destroyed :
    Stood Sample.site .local "cpu-a" "gpu"
        (sampleEnded "a" [false, true, false, true, true, false]).state ∧
      Gone Sample.site .local "cpu-b" "gpu"
        (sampleEnded "a" [false, true, false, true, true, false]).state := by
  have missing : runsAt Sample.site .local "cpu-a" sampleRunning ↔
      Registered "cpu-a" sampleRunning := by
    constructor
    · rintro ⟨machine, held⟩
      exact absurd held (by simp [sampleRunning, Sample.world])
    · intro entry
      unfold Registered at entry
      exact absurd entry (by decide)
  have present : runsAt Sample.site .local "cpu-b" sampleRunning ↔
      Registered "cpu-b" sampleRunning := iff_of_true ⟨_, rfl⟩ rfl
  have creation := discrepancies_underway Sample.site Sample.cc
    (sampleTasks "a") .local "cpu-a" sample_separate
    (fun one place => sampleTasks_here one place _)
    (fun one other place elsewhere => sampleTasks_apart one other place elsewhere _)
    sampleRunning missing (by decide) [false, true, false, true, true, false] _
    (Runs.run_mem_states _ _)
  have destruction := discrepancies_underway Sample.site Sample.cc
    (sampleTasks "a") .local "cpu-b" sample_separate
    (fun one place => sampleTasks_here one place _)
    (fun one other place elsewhere => sampleTasks_apart one other place elsewhere _)
    sampleRunning present (by decide) [false, true, false, true, true, false] _
    (Runs.run_mem_states _ _)
  exact ⟨(creation.2.2 false rfl).1 rfl, (destruction.2.2 true rfl).2 rfl⟩

/-- A creation and a destruction of one machine, both completed: the machine runs and nobody knows
of it. -/
theorem created_while_destroyed :
    let reached := sampleEnded "b" [true, true, false, false, false, true]
    Completed (reached.progs false) ∧ Completed (reached.progs true) ∧
      runsAt Sample.site .local "cpu-b" reached.state ∧
      ¬Registered "cpu-b" reached.state := by
  refine ⟨rfl, rfl, ⟨_, rfl⟩, ?_⟩
  unfold Registered
  decide

end Samples

end ClusterRaces

end LabFunctions
