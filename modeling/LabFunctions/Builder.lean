import LabFunctions.Managers
import LabFunctions.Library.Runs

/-!
Building a runtime: `DockerCommand.build`, `BuildTask` and `builder_exec` of
`labfunctions.runtimes.builder`, from the output of docker to the row that is registered.
-/

namespace LabFunctions

namespace Docker

inductive Output where
  | stream (text : String)
  | errorDetail (error : String)
  | other
  | unparsable (text : String)

def Output.failed : Output → Bool
  | .errorDetail _ => true
  | .unparsable _ => true
  | _ => false

def reportsError (outputs : List Output) : Bool := outputs.any Output.failed

structure BuildLowLog where
  logs : String
  error : Bool

structure PushLog where
  logs : String
  error : Bool

structure BuildLog where
  build_log : BuildLowLog
  push_log : Option PushLog := none
  error : Bool

def readOutput (log : BuildLowLog) : Output → BuildLowLog
  | .stream text => { log with logs := log.logs ++ text }
  | .errorDetail error => { logs := log.logs ++ error, error := true }
  | .other => log
  | .unparsable _ =>
      { logs := log.logs ++ "Error parsing output from docker image build:\x7boutput\x7d\n"
        error := true }

def docker_low_build (outputs : List Output) : BuildLowLog :=
  let log := outputs.foldl readOutput ⟨"", false⟩
  { log with logs := log.logs ++ "Docker image build complete.\n" }

/-- `images.push` raises an API error or returns its log, which may itself report errors. -/
inductive Push where
  | apiError (message : String)
  | returned (text : String) (outputs : List Output)

def Push.failed : Push → Bool
  | .apiError _ => true
  | .returned _ outputs => reportsError outputs

def push_image (push : Push) : PushLog :=
  match push with
  | .apiError message => ⟨message, true⟩
  | .returned text _ => ⟨text, false⟩

structure Effects where
  tagged : Option (String × String) := none
  pushed : Option String := none

structure Outcome where
  bundle : Except String Unit
  outputs : Except String (List Output)
  tagging : Except String Unit
  push : Push

/-- `DockerCommand.build`. An exception of the docker client ends it without a log. -/
def build (outcome : Outcome) (tag version : String) (push : Bool) :
    Except Exn (BuildLog × Effects) := do
  let outputs ← outcome.outputs.mapError Exn.dockerError
  let build_log := docker_low_build outputs
  let tagged ←
    if build_log.error then pure none
    else do
      outcome.tagging.mapError Exn.dockerError
      pure (some (tag, version))
  if push then
    let push_log := push_image outcome.push
    return (⟨build_log, some push_log, build_log.error || push_log.error⟩,
      ⟨tagged, some (tag ++ ":" ++ version)⟩)
  else return (⟨build_log, none, build_log.error⟩, ⟨tagged, none⟩)

end Docker

namespace BuildTask

def docker_tag (ctx : BuildCtx) : String :=
  if truthy ctx.registry then pyOr ctx.registry "" ++ "/" ++ ctx.docker_name else ctx.docker_name

def run (ctx : BuildCtx) (outcome : Docker.Outcome) :
    Except Exn (Docker.BuildLog × Docker.Effects) := do
  outcome.bundle.mapError Exn.otherError
  Docker.build outcome (docker_tag ctx) ctx.version (truthy ctx.registry)

def request (ctx : BuildCtx) : RuntimeReq :=
  { runtime_name := ctx.spec.name
    docker_name := ctx.docker_name
    spec := ctx.spec
    project_id := ctx.projectid
    version := ctx.version
    registry := ctx.registry }

def register (db : Database) (ctx : BuildCtx) (id : Nat) (now : DateTime) : Database :=
  (RuntimesMg.create db (request ctx) id now).2

end BuildTask

structure Build where
  ctx : BuildCtx
  outcome : Docker.Outcome
  id : Nat
  now : DateTime

/-- `builder_exec`: its log and effects unless something raised, and the database after. -/
def builder_exec (local_ : Bool) (db : Database) (build : Build) :
    Except Exn (Docker.BuildLog × Docker.Effects) × Database :=
  match BuildTask.run build.ctx build.outcome with
  | .error failure => (.error failure, db)
  | .ok rsp =>
      (.ok rsp, if local_ then db else BuildTask.register db build.ctx build.id build.now)

namespace Builder

def step (db : Database) (build : Build) : Database := (builder_exec false db build).2

def pushedBy (result : Except Exn (Docker.BuildLog × Docker.Effects)) : Option String :=
  match result with
  | .ok (_, effects) => effects.pushed
  | .error _ => none

def Built (outcome : Docker.Outcome) : Prop :=
  ∃ outputs, outcome.outputs = .ok outputs ∧ Docker.reportsError outputs = false

def Successful (build : Build) : Prop :=
  Built build.outcome ∧
    (truthy build.ctx.registry = true → build.outcome.push.failed = false)

/-- What a build may do: a new row only when it was successful, a push only of a built image. -/
structure Sound (db : Database) (build : Build) : Prop where
  row : (step db build).runtimes.rows ≠ db.runtimes.rows → Successful build
  push : ¬Built build.outcome → pushedBy (builder_exec false db build).1 = none

def Completes (outcome : Docker.Outcome) : Prop :=
  outcome.bundle = .ok () ∧ ∃ outputs, outcome.outputs = .ok outputs ∧
    (Docker.reportsError outputs = true ∨ outcome.tagging = .ok ())

def Creates (db : Database) (build : Build) : Prop :=
  db.hasProject build.ctx.projectid = true ∧
    RuntimeModel.Accepted (db.runtimes.rows ++
      [RuntimesMg.newRow (BuildTask.request build.ctx) build.id build.now])

/-- A build that gets to its end has no error, or there is neither a registry to push to
nor a row to create; and after a failed push there is no row to create. -/
def Harmless (db : Database) (build : Build) : Prop :=
  Completes build.outcome →
    (¬Built build.outcome → truthy build.ctx.registry = false ∧ ¬Creates db build) ∧
      (truthy build.ctx.registry = true → build.outcome.push.failed = true → ¬Creates db build)

/-! What each layer hands on. -/

theorem readOutput_error (outputs : List Docker.Output) (log : Docker.BuildLowLog) :
    (outputs.foldl Docker.readOutput log).error = (log.error || Docker.reportsError outputs) := by
  induction outputs generalizing log with
  | nil => simp [Docker.reportsError]
  | cons output rest ih =>
      rw [List.foldl_cons, ih]
      cases output <;> simp [Docker.readOutput, Docker.reportsError, Docker.Output.failed]

@[simp] theorem docker_low_build_error (outputs : List Docker.Output) :
    (Docker.docker_low_build outputs).error = Docker.reportsError outputs := by
  simp [Docker.docker_low_build, readOutput_error]

theorem built_iff {outcome : Docker.Outcome} {outputs : List Docker.Output}
    (sent : outcome.outputs = .ok outputs) :
    Built outcome ↔ Docker.reportsError outputs = false := by
  constructor
  · rintro ⟨other, same, clean⟩
    rw [sent, Except.ok.injEq] at same
    rwa [same]
  · intro clean
    exact ⟨outputs, sent, clean⟩

theorem run_completes (ctx : BuildCtx) {outcome : Docker.Outcome}
    (completes : Completes outcome) : ∃ log effects,
      BuildTask.run ctx outcome = .ok (log, effects) ∧
      (Built outcome → effects.tagged = some (BuildTask.docker_tag ctx, ctx.version)) ∧
      effects.pushed = if truthy ctx.registry then
        some (BuildTask.docker_tag ctx ++ ":" ++ ctx.version) else none := by
  obtain ⟨bundle, outputs, sent, tagging⟩ := completes
  unfold BuildTask.run Docker.build
  rw [bundle, sent, built_iff sent]
  cases failed : Docker.reportsError outputs with
  | true =>
      cases registry : truthy ctx.registry <;>
        simp [Except.mapError, bind, Except.bind, pure, Except.pure, failed]
  | false =>
      have tagged : outcome.tagging = .ok () := by simpa [failed] using tagging
      rw [tagged]
      cases registry : truthy ctx.registry <;>
        simp [Except.mapError, bind, Except.bind, pure, Except.pure, failed]

theorem run_incomplete (ctx : BuildCtx) {outcome : Docker.Outcome}
    (incomplete : ¬Completes outcome) : ∃ failure, BuildTask.run ctx outcome = .error failure := by
  unfold BuildTask.run Docker.build
  cases bundle : outcome.bundle with
  | error message => exact ⟨.otherError message, rfl⟩
  | ok _ =>
      cases sent : outcome.outputs with
      | error message => exact ⟨.dockerError message, rfl⟩
      | ok outputs =>
          cases tagging : outcome.tagging with
          | ok _ => exact absurd ⟨bundle, outputs, sent, Or.inr tagging⟩ incomplete
          | error message =>
              cases failed : Docker.reportsError outputs with
              | true => exact absurd ⟨bundle, outputs, sent, Or.inl failed⟩ incomplete
              | false =>
                  exact ⟨.dockerError message, by
                    simp [Except.mapError, bind, Except.bind, failed]⟩

theorem register_rows (db : Database) (build : Build) :
    (BuildTask.register db build.ctx build.id build.now).runtimes.rows = db.runtimes.rows ++ [
      RuntimesMg.newRow (BuildTask.request build.ctx) build.id build.now] ∧ Creates db build ∨
    BuildTask.register db build.ctx build.id build.now = db ∧ ¬Creates db build := by
  unfold BuildTask.register RuntimesMg.create Creates
  by_cases known : db.hasProject build.ctx.projectid = true
  · rw [if_pos (show db.hasProject (BuildTask.request build.ctx).project_id = true from known)]
    rcases db.runtimes.insert_cases (RuntimesMg.newRow (BuildTask.request build.ctx) build.id
        build.now) with ⟨refused, none⟩ | ⟨next, some, rows, accepted⟩
    · rw [none]
      exact Or.inr ⟨rfl, fun creates => refused creates.2⟩
    · rw [some]
      exact Or.inl ⟨rows, known, accepted⟩
  · rw [if_neg (show ¬db.hasProject (BuildTask.request build.ctx).project_id = true from known)]
    exact Or.inr ⟨rfl, fun creates => known creates.1⟩

theorem step_creates {db : Database} {build : Build} (completes : Completes build.outcome)
    (creates : Creates db build) : (step db build).runtimes.rows = db.runtimes.rows ++
      [RuntimesMg.newRow (BuildTask.request build.ctx) build.id build.now] := by
  obtain ⟨log, effects, ran, _, _⟩ := run_completes build.ctx completes
  have stepped : step db build = BuildTask.register db build.ctx build.id build.now := by
    simp [step, builder_exec, ran]
  rw [stepped]
  rcases register_rows db build with ⟨rows, _⟩ | ⟨_, refused⟩
  · exact rows
  · exact absurd creates refused

theorem step_unchanged {db : Database} {build : Build}
    (idle : ¬(Completes build.outcome ∧ Creates db build)) : step db build = db := by
  by_cases completes : Completes build.outcome
  · obtain ⟨log, effects, ran, _, _⟩ := run_completes build.ctx completes
    have stepped : step db build = BuildTask.register db build.ctx build.id build.now := by
      simp [step, builder_exec, ran]
    rcases register_rows db build with ⟨_, creates⟩ | ⟨same, _⟩
    · exact absurd ⟨completes, creates⟩ idle
    · rw [stepped, same]
  · obtain ⟨failure, ran⟩ := run_incomplete build.ctx completes
    simp [step, builder_exec, ran]

theorem step_rows_ne_iff (db : Database) (build : Build) :
    (step db build).runtimes.rows ≠ db.runtimes.rows ↔
      Completes build.outcome ∧ Creates db build := by
  constructor
  · intro changed
    by_contra idle
    exact changed (by rw [step_unchanged idle])
  · rintro ⟨completes, creates⟩ same
    rw [step_creates completes creates] at same
    simp at same

theorem pushed_iff (db : Database) (build : Build) :
    pushedBy (builder_exec false db build).1 ≠ none ↔
      Completes build.outcome ∧ truthy build.ctx.registry = true := by
  by_cases completes : Completes build.outcome
  · obtain ⟨log, effects, ran, _, pushed⟩ := run_completes build.ctx completes
    simp [builder_exec, ran, pushedBy, pushed, completes]
  · obtain ⟨failure, ran⟩ := run_incomplete build.ctx completes
    simp [builder_exec, ran, pushedBy, completes]

theorem sound_iff (db : Database) (build : Build) : Sound db build ↔ Harmless db build := by
  constructor
  · intro sound completes
    refine ⟨?_, ?_⟩
    · intro failed
      constructor
      · by_contra registry
        have pushed := (pushed_iff db build).mpr ⟨completes, by simpa using registry⟩
        exact pushed (sound.push failed)
      · intro creates
        exact failed (sound.row ((step_rows_ne_iff db build).mpr ⟨completes, creates⟩)).1
    · intro registry pushFailed creates
      have successful := sound.row ((step_rows_ne_iff db build).mpr ⟨completes, creates⟩)
      simp [successful.2 registry] at pushFailed
  · intro harmless
    constructor
    · intro changed
      obtain ⟨completes, creates⟩ := (step_rows_ne_iff db build).mp changed
      obtain ⟨built, pushed⟩ := harmless completes
      constructor
      · by_contra failed
        exact (built failed).2 creates
      · intro registry
        by_contra pushFailed
        exact pushed registry (by simpa using pushFailed) creates
    · intro failed
      by_contra pushed
      obtain ⟨completes, registry⟩ := (pushed_iff db build).mp pushed
      simp [((harmless completes).1 failed).1] at registry

/-! Runs of builds. -/

def Backed (builds : List Build) (db : Database) : Prop :=
  ∀ row ∈ db.runtimes.rows, ∃ build ∈ builds, Successful build ∧
    row = RuntimesMg.newRow (BuildTask.request build.ctx) build.id build.now

theorem backed_step {builds : List Build} {db : Database} {build : Build}
    (backed : Backed builds db) (member : build ∈ builds) (harmless : Harmless db build) :
    Backed builds (step db build) := by
  by_cases creating : Completes build.outcome ∧ Creates db build
  · have successful := ((sound_iff db build).mpr harmless).row
      ((step_rows_ne_iff db build).mpr creating)
    intro row stored
    rw [step_creates creating.1 creating.2, List.mem_append, List.mem_singleton] at stored
    rcases stored with old | rfl
    · exact backed row old
    · exact ⟨build, member, successful, rfl⟩
  · rwa [step_unchanged creating]

theorem backed_run {builds : List Build} {db : Database} (initial : db.runtimes.rows = [])
    (along : Runs.Along step Harmless db builds) : Backed builds (Runs.run step db builds) := by
  have everyone := Runs.along_and (fun build (member : build ∈ builds) => member) along
  refine Runs.run_invariant ?_ ?_ everyone
  · rintro state build backed ⟨member, harmless⟩
    exact backed_step backed member harmless
  · intro row stored
    simp [initial] at stored

/-- Over whole runs: every build is sound exactly when every build is harmless, and then
every version that can be selected was produced by a successful one. -/
theorem builds_sound (db : Database) (builds : List Build) :
    (Runs.Along step Sound db builds ↔ Runs.Along step Harmless db builds) ∧
      (db.runtimes.rows = [] → Runs.Along step Harmless db builds →
        ∀ projectid runtime_name version runtime,
          RuntimesMg.get_runtime (Runs.run step db builds) projectid runtime_name version =
            some runtime →
          ∃ build ∈ builds, Successful build ∧ runtime = RuntimesMg.model2runtime
            (RuntimesMg.newRow (BuildTask.request build.ctx) build.id build.now) projectid) := by
  refine ⟨Runs.along_iff sound_iff, ?_⟩
  intro initial along projectid runtime_name version runtime found
  obtain ⟨row, stored, _, _, _, _, rfl⟩ := RuntimesMg.get_runtime_mem found
  obtain ⟨build, member, successful, rfl⟩ := backed_run initial along row stored
  exact ⟨build, member, successful, rfl⟩

def buildCtx (registry : Option String) : BuildCtx :=
  { projectid := "p"
    spec := { name := "default", container := { image := "python:3.8", maintainer := "lab" } }
    docker_name := "nuxion/p-default"
    version := "1"
    dockerfile := "Dockerfile.default"
    zip_name := "default.1.zip"
    download_zip := "p/uploads/default.1.zip"
    execid := "bldeeeeeeeeeeeeee"
    project_store_class := "labfunctions.io.kv_local.KVLocal"
    project_store_bucket := "labfunctions"
    registry := registry }

def sampleBuild (outputs : List Docker.Output) : Build :=
  { ctx := buildCtx none
    outcome := ⟨.ok (), .ok outputs, .ok (), .returned "" []⟩
    id := 1
    now := Sample.morning }

theorem builds_sound_sample :
    ∀ projectid runtime_name version runtime,
      RuntimesMg.get_runtime (Runs.run step Sample.db [sampleBuild [.stream "Step 1/4"]])
        projectid runtime_name version = some runtime →
      ∃ build ∈ [sampleBuild [.stream "Step 1/4"]], Successful build ∧
        runtime = RuntimesMg.model2runtime
          (RuntimesMg.newRow (BuildTask.request build.ctx) build.id build.now) projectid := by
  refine (builds_sound Sample.db _).2 rfl ⟨?_, trivial⟩
  intro _
  have built : Built (sampleBuild [.stream "Step 1/4"]).outcome := ⟨_, rfl, rfl⟩
  exact ⟨fun failed => absurd built failed, fun registry => absurd registry (by decide)⟩

/-- An image whose build failed is registered all the same. -/
theorem failed_build_registered : ¬∀ (db : Database) (build : Build), Sound db build := by
  intro sound
  have harmless := (sound_iff Sample.db (sampleBuild [.errorDetail "no space left"])).mp (sound _ _)
  have completes : Completes (sampleBuild [.errorDetail "no space left"]).outcome :=
    ⟨rfl, _, rfl, Or.inl rfl⟩
  have failed : ¬Built (sampleBuild [.errorDetail "no space left"]).outcome := by
    rw [built_iff rfl]
    decide
  have creates : Creates Sample.db (sampleBuild [.errorDetail "no space left"]) :=
    ⟨by decide, by decide⟩
  exact ((harmless completes).1 failed).2 creates

end Builder

end LabFunctions
