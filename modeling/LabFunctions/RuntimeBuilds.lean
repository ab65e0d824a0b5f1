import LabFunctions.Control
import LabFunctions.RuntimeImages
import LabFunctions.RuntimeRegistry
import LabFunctions.UploadKeys

/-!
From the upload of a project to the image that its tasks run: the bundle store, the build queue,
workers that build side by side on one docker host, and the rows of the runtimes. Each call of a
worker is a step of its own, and whose code a task runs is traced through all of them.
-/

namespace LabFunctions

open Filenames Runs

namespace Defaults

def BUILD_QUEUE : String := "default.build"

end Defaults

structure BuildJob where
  queue : String
  func : String
  execid : String
  timeout : String
  data : BuildCtx
  background : Bool

namespace SchedulerExec

def enqueue_build (unicode : Unicode) (drawn : NanoId Defaults.EXECID_LEN)
    (settings : Runtimes.Settings) (build_q : List BuildJob) (projectid : String)
    (runtime : RuntimeSpec) (version : Option String) : Except Exn (BuildCtx × List BuildJob) := do
  let ctx ← Runtimes.create_build_ctx unicode drawn settings projectid runtime version
  let job : BuildJob :=
    { queue := Defaults.BUILD_QUEUE
      func := "labfunctions.control.tasks.build_dispatcher"
      execid := ctx.execid
      timeout := "1h"
      data := ctx
      background := true }
  return (ctx, build_q ++ [job])

end SchedulerExec

namespace RuntimeBuilds

abbrev Bundle := List UInt8

structure Image where
  bundle : Bundle
  dockerfile : String
  deriving DecidableEq

/-- Docker reads a name without a tag as one with the tag `latest`. -/
def reference (name : String) : String :=
  if ':' ∈ name.toList.reverse.takeWhile (· != '/') then name else name ++ ":latest"

/-- Where a worker is with the job it has taken: its bundle fetched, the low build returned without
an error, the image got by its name, the build returned. -/
inductive Stage where
  | idle
  | started (ctx : BuildCtx)
  | fetched (ctx : BuildCtx) (zip : Bundle)
  | built (ctx : BuildCtx) (zip : Bundle)
  | found (ctx : BuildCtx) (zip : Bundle) (img : Image)
  | logged (ctx : BuildCtx)

/-- What a worker does next. A call that raises ends the job, as `abandon` does at any time. -/
inductive Task where
  | build_dispatcher
  | get_runtime_file
  | docker_low_build (unzip : Except String Unit) (outputs : Except String (List Docker.Output))
  | images_get
  | img_tag
  | register (id : Nat) (now : DateTime)
  | abandon

structure World (ι : Type) where
  db : Database
  store : String → Option Bundle
  build_q : List BuildJob
  workers : ι → Stage
  images : String → Option Image

inductive Act (ι : Type) where
  | project_upload (projectid : String) (upload : Projects.Upload)
  | project_build (projectid : String) (spec : RuntimeSpec) (version : Option String)
      (execid : NanoId Defaults.EXECID_LEN)
  | runtimes (projectid : String) (request : RuntimeRegistry.Request)
  | work (worker : ι) (task : Task)

def Output.isErrorDetail : Docker.Output → Bool
  | .errorDetail _ => true
  | _ => false

section Step

variable {ι : Type} [DecidableEq ι] (unicode : Unicode) (settings : Runtimes.Settings)

def stageAfter (world : World ι) : Stage → Task → Stage
  | .idle, .build_dispatcher =>
      match world.build_q with
      | job :: _ => .started job.data
      | [] => .idle
  | .started ctx, .get_runtime_file =>
      match world.store ctx.download_zip with
      | some zip => .fetched ctx zip
      | none => .idle
  | .fetched ctx zip, .docker_low_build (.ok ()) (.ok outputs) =>
      if (Docker.docker_low_build outputs).error then .logged ctx else .built ctx zip
  | .fetched _ _, .docker_low_build _ _ => .idle
  | .built ctx zip, .images_get =>
      match world.images (reference (BuildTask.docker_tag ctx)) with
      | some img => .found ctx zip img
      | none => .idle
  | .found ctx _ _, .img_tag => .logged ctx
  | .logged _, .register _ _ => .idle
  | _, .abandon => .idle
  | stage, _ => stage

def queueAfter (build_q : List BuildJob) : Stage → Task → List BuildJob
  | .idle, .build_dispatcher => build_q.tail
  | _, _ => build_q

/-- The daemon names the image as soon as it is built, whatever the client makes of the output. -/
def imagesAfter (images : String → Option Image) : Stage → Task → String → Option Image
  | .fetched ctx zip, .docker_low_build (.ok ()) (.ok outputs) =>
      if outputs.any Output.isErrorDetail then images
      else Function.update images (reference (BuildTask.docker_tag ctx))
        (some ⟨zip, ctx.dockerfile⟩)
  | .found ctx _ img, .img_tag =>
      Function.update images (BuildTask.docker_tag ctx ++ ":" ++ ctx.version) (some img)
  | _, _ => images

def dbAfter (db : Database) : Stage → Task → Database
  | .logged ctx, .register id now => BuildTask.register db ctx id now
  | _, _ => db

def work (world : World ι) (worker : ι) (task : Task) : World ι where
  db := dbAfter world.db (world.workers worker) task
  store := world.store
  build_q := queueAfter world.build_q (world.workers worker) task
  workers := Function.update world.workers worker (stageAfter world (world.workers worker) task)
  images := imagesAfter world.images (world.workers worker) task

def project_upload (world : World ι) (projectid : String) (upload : Projects.Upload) : World ι :=
  match Projects.project_upload unicode world.db projectid upload with
  | .ok uri => { world with store := Function.update world.store uri (some upload.bundle) }
  | .error _ => world

def project_build (world : World ι) (projectid : String) (spec : RuntimeSpec)
    (version : Option String) (execid : NanoId Defaults.EXECID_LEN) : World ι :=
  match SchedulerExec.enqueue_build unicode execid settings world.build_q projectid spec version with
  | .ok (_, build_q) => { world with build_q := build_q }
  | .error _ => world

def step (world : World ι) : Act ι → World ι
  | .project_upload projectid upload => project_upload unicode world projectid upload
  | .project_build projectid spec version execid =>
      project_build unicode settings world projectid spec version execid
  | .runtimes projectid request =>
      { world with db := (RuntimeRegistry.handle world.db projectid request).2 }
  | .work worker task => work world worker task

end Step

/-- A server whose projects have ids as it draws them, before the first upload. -/
structure Fresh {ι : Type} (world : World ι) : Prop where
  ids : ∀ row ∈ world.db.projects.rows, ∃ id : ProjectId, id.text ≠ "" ∧ row.projectid = id.text
  runtimes : world.db.runtimes.rows = []
  store : ∀ key, world.store key = none
  build_q : world.build_q = []
  workers : ∀ worker, world.workers worker = .idle
  images : ∀ name, world.images name = none

/-! One version of a runtime, and what its names say. -/

structure Version where
  projectid : String
  name : String
  version : String
  deriving DecidableEq

namespace Version

def of (ctx : BuildCtx) : Version := ⟨ctx.projectid, ctx.spec.name, ctx.version⟩

def pair (one : Version) : Option String × Option String := (some one.name, some one.version)

def uri (unicode : Unicode) (one : Version) : String :=
  Runtimes.build_upload_uri unicode one.projectid one.pair.1 one.pair.2

def docker_name (one : Version) : String :=
  Defaults.DOCKER_AUTHOR ++ "/" ++ one.projectid ++ "-" ++ one.name

def reference (one : Version) : String := one.docker_name ++ ":" ++ one.version

def dockerfile (one : Version) : String := "Dockerfile." ++ one.name

end Version

section Names

variable {unicode : Unicode}

theorem not_mem_projectid {character : Char}
    (outside : Defaults.PROJECT_ID_ALPHABET.toList.contains character = false) (id : ProjectId) :
    character ∉ id.text.toList := by
  intro member
  rw [List.all_eq_true.mp id.alphabet _ member] at outside
  exact Bool.true_eq_false.mp outside

theorem clean_projectid {id : ProjectId} (some : id.text ≠ "") : Paths.Clean id.text := by
  refine ⟨not_mem_projectid (by decide) id, some, ?_⟩
  intro dot
  have missing : '.' ∉ id.text.toList := not_mem_projectid (by decide) id
  rw [dot] at missing
  exact missing (by decide)

theorem segments_of_uri {projectid : String} {pair own : Option String × Option String}
    {id : ProjectId} (some : id.text ≠ "")
    (same : Runtimes.build_upload_uri unicode projectid pair.1 pair.2 =
      Runtimes.build_upload_uri unicode id.text own.1 own.2) :
    Paths.segments projectid = [id.text] := by
  have segments := congrArg Paths.segments same
  rw [UploadKeys.segments_uri, UploadKeys.segments_uri,
    Paths.segments_of_clean (clean_projectid some), List.append_assoc, List.append_assoc] at segments
  exact List.append_inj_left' segments (by simp)

theorem no_dash_of_segments {text : String} {id : ProjectId}
    (cut : Paths.segments text = [id.text]) : '-' ∉ text.toList := by
  intro dash
  obtain ⟨segment, among, holds⟩ := Paths.exists_segment_of_mem (by decide) (by decide) dash
  rw [cut, List.mem_singleton] at among
  rw [among] at holds
  exact not_mem_projectid (by decide) id holds

/-- The name of an image of the project. -/
def Under (projectid name : String) : Prop :=
  ∃ rest, name = Defaults.DOCKER_AUTHOR ++ "/" ++ projectid ++ "-" ++ rest

theorem under_docker_name (one : Version) : Under one.projectid one.docker_name := ⟨one.name, rfl⟩

theorem Under.append {projectid name : String} (under : Under projectid name) (back : String) :
    Under projectid (name ++ back) := by
  obtain ⟨rest, rfl⟩ := under
  exact ⟨rest ++ back, String.append_assoc ..⟩

theorem Under.reference {projectid name : String} (under : Under projectid name) :
    Under projectid (reference name) := by
  unfold RuntimeBuilds.reference
  split
  · exact under
  · exact under.append _

theorem Version.under_reference (one : Version) : Under one.projectid one.reference :=
  ((under_docker_name one).append ":").append one.version

/-- A name tells the projects apart, and what stands behind the project. -/
theorem rest_inj {left right rest other : String} (clean : '-' ∉ left.toList)
    (cleanOther : '-' ∉ right.toList)
    (same : Defaults.DOCKER_AUTHOR ++ "/" ++ left ++ "-" ++ rest =
      Defaults.DOCKER_AUTHOR ++ "/" ++ right ++ "-" ++ other) : left = right ∧ rest = other := by
  have cut : ∀ projectid back : String,
      (Defaults.DOCKER_AUTHOR ++ "/" ++ projectid ++ "-" ++ back).toList =
        ("labfunctions/".toList ++ projectid.toList) ++ '-' :: back.toList := by
    intro projectid back
    simp [Defaults.DOCKER_AUTHOR]
  have author : '-' ∉ "labfunctions/".toList := by decide
  have lists := congrArg String.toList same
  rw [cut, cut] at lists
  obtain ⟨fronts, backs⟩ := Words.cut_first_inj
    (fun member => (List.mem_append.mp member).elim author clean)
    (fun member => (List.mem_append.mp member).elim author cleanOther) lists
  exact ⟨String.toList_inj.mp (List.append_cancel_left fronts), String.toList_inj.mp backs⟩

theorem under_inj {left right name : String} (clean : '-' ∉ left.toList)
    (cleanOther : '-' ∉ right.toList) (under : Under left name) (other : Under right name) :
    left = right := by
  obtain ⟨rest, rfl⟩ := under
  obtain ⟨back, same⟩ := other
  exact (rest_inj clean cleanOther same).1

end Names

/-! The contexts of the builds that are asked for. -/

section Contexts

variable {ι : Type} {unicode : Unicode} {settings : Runtimes.Settings} {world : World ι}
  {ctx : BuildCtx} {stage : Stage} {task : Task}

structure Made (unicode : Unicode) (settings : Runtimes.Settings) (ctx : BuildCtx) : Prop where
  docker_name : ctx.docker_name = (Version.of ctx).docker_name
  dockerfile : ctx.dockerfile = (Version.of ctx).dockerfile
  download_zip : ctx.download_zip = (Version.of ctx).uri unicode
  registry : ctx.registry = settings.registry

theorem made_of_created {execid : NanoId Defaults.EXECID_LEN} {projectid : String}
    {spec : RuntimeSpec} {version : Option String}
    (created : Runtimes.create_build_ctx unicode execid settings projectid spec version = .ok ctx) :
    Made unicode settings ctx ∧ ctx.projectid = projectid ∧ ctx.spec = spec ∧
      version = some ctx.version := by
  have downloaded := UploadKeys.create_build_ctx_eq created
  unfold Runtimes.create_build_ctx at created
  cases version with
  | none => simp at created
  | some text =>
      simp only [Except.ok.injEq] at created
      subst created
      refine ⟨{ docker_name := ?_, dockerfile := ?_, download_zip := downloaded, registry := ?_ },
        ?_, ?_, ?_⟩ <;> rfl

theorem Made.docker_tag (made : Made unicode settings ctx)
    (local_ : truthy settings.registry = false) :
    BuildTask.docker_tag ctx = (Version.of ctx).docker_name := by
  unfold BuildTask.docker_tag
  rw [made.registry, local_, if_neg Bool.false_ne_true, made.docker_name]

def Stage.ctx? : Stage → Option BuildCtx
  | idle => none
  | started ctx | fetched ctx _ | built ctx _ | found ctx _ _ | logged ctx => some ctx

def Stage.zip? : Stage → Option (BuildCtx × Bundle)
  | fetched ctx zip | built ctx zip | found ctx zip _ => some (ctx, zip)
  | _ => none

/-- A job that waits, or that a worker has taken. -/
def Pending (world : World ι) (ctx : BuildCtx) : Prop :=
  (∃ job ∈ world.build_q, job.data = ctx) ∨ ∃ worker, (world.workers worker).ctx? = some ctx

theorem stageAfter_ctx (after : (stageAfter world stage task).ctx? = some ctx) :
    stage.ctx? = some ctx ∨ ∃ job ∈ world.build_q, job.data = ctx := by
  revert after
  fun_cases stageAfter world stage task with
  | case1 job waiting queue =>
      intro after
      exact .inr ⟨job, by rw [queue]; exact List.mem_cons_self .., Option.some.inj after⟩
  | _ => first | exact .inl | (intro after; exact absurd after (by simp [Stage.ctx?]))

theorem stageAfter_zip {zip : Bundle}
    (after : (stageAfter world stage task).zip? = some (ctx, zip)) :
    stage.zip? = some (ctx, zip) ∨ task = .get_runtime_file ∧ stage = .started ctx ∧
      world.store ctx.download_zip = some zip := by
  revert after
  fun_cases stageAfter world stage task with
  | case3 own fetched stored =>
      intro after
      obtain ⟨rfl, rfl⟩ := Prod.mk.inj (Option.some.inj after)
      exact .inr ⟨rfl, rfl, stored⟩
  | _ => first | exact .inl | (intro after; exact absurd after (by simp [Stage.zip?]))

theorem stageAfter_found {zip : Bundle} {img : Image}
    (after : stageAfter world stage task = .found ctx zip img) :
    stage = .found ctx zip img ∨
      stage = .built ctx zip ∧ world.images (reference (BuildTask.docker_tag ctx)) = some img := by
  revert after
  fun_cases stageAfter world stage task with
  | case8 own held seen got =>
      intro after
      obtain ⟨rfl, rfl, rfl⟩ := Stage.found.inj after
      exact .inr ⟨rfl, got⟩
  | _ => first | exact .inl | (intro after; exact absurd after (by simp))

theorem imagesAfter_cases {images : String → Option Image} {name : String} {img : Image}
    (after : imagesAfter images stage task name = some img) :
    images name = some img ∨ (∃ ctx zip, stage = .fetched ctx zip ∧
      name = reference (BuildTask.docker_tag ctx) ∧ img = ⟨zip, ctx.dockerfile⟩) ∨
      ∃ ctx zip, stage = .found ctx zip img ∧
        name = BuildTask.docker_tag ctx ++ ":" ++ ctx.version := by
  revert after
  fun_cases imagesAfter images stage task with
  | case2 own zip outputs built =>
      intro after
      rw [Function.update_apply] at after
      split at after
      · rename_i same
        exact .inr (.inl ⟨own, zip, rfl, same, (Option.some.inj after).symm⟩)
      · exact .inl after
  | case3 own zip held =>
      intro after
      rw [Function.update_apply] at after
      split at after
      · rename_i same
        obtain rfl := Option.some.inj after
        exact .inr (.inr ⟨own, zip, rfl, same⟩)
      · exact .inl after
  | _ => exact .inl

theorem mem_queueAfter {build_q : List BuildJob} {job : BuildJob}
    (queued : job ∈ queueAfter build_q stage task) : job ∈ build_q := by
  revert queued
  fun_cases queueAfter build_q stage task with
  | case1 => exact List.mem_of_mem_tail
  | case2 => exact id

variable [DecidableEq ι]

/-- Every context was made by a request to build. -/
theorem pending_step {act : Act ι} (pending : Pending (step unicode settings world act) ctx) :
    Pending world ctx ∨ ∃ projectid spec version execid,
      act = .project_build projectid spec version execid ∧
        Runtimes.create_build_ctx unicode execid settings projectid spec version = .ok ctx := by
  cases act with
  | project_upload projectid upload =>
      left
      simp only [step, project_upload] at pending
      split at pending <;> exact pending
  | project_build projectid spec version execid =>
      simp only [step, project_build, SchedulerExec.enqueue_build] at pending
      cases created : Runtimes.create_build_ctx unicode execid settings projectid spec version with
      | error failure =>
          rw [created] at pending
          exact .inl pending
      | ok made =>
          rw [created] at pending
          rcases pending with ⟨job, queued, same⟩ | busy
          · rcases List.mem_append.mp queued with before | last
            · exact .inl (.inl ⟨job, before, same⟩)
            · rw [List.mem_singleton] at last
              subst last
              exact .inr ⟨projectid, spec, version, execid, rfl, by rw [created, ← same]⟩
          · exact .inl (.inr busy)
  | runtimes projectid request => exact .inl pending
  | work worker task =>
      left
      rcases pending with ⟨job, queued, same⟩ | ⟨one, busy⟩
      · exact .inl ⟨job, mem_queueAfter queued, same⟩
      · by_cases turn : one = worker
        · subst turn
          simp only [step, work, Function.update_self] at busy
          rcases stageAfter_ctx busy with before | queued
          · exact .inr ⟨one, before⟩
          · exact .inl queued
        · simp only [step, work, Function.update_of_ne turn] at busy
          exact .inr ⟨one, busy⟩

theorem create_rows (db : Database) (rq : RuntimeReq) (id : Nat) (now : DateTime) :
    (RuntimesMg.create db rq id now).2.projects = db.projects ∧
      ∀ row ∈ (RuntimesMg.create db rq id now).2.runtimes.rows, row ∈ db.runtimes.rows ∨
        db.hasProject rq.project_id = true ∧ row = RuntimesMg.newRow rq id now := by
  unfold RuntimesMg.create
  split
  · rename_i known
    split
    · rename_i next inserted
      refine ⟨rfl, ?_⟩
      intro row stored
      rw [Table.rows_insert inserted, List.mem_append, List.mem_singleton] at stored
      rcases stored with before | new
      · exact .inl before
      · exact .inr ⟨known, new⟩
    · exact ⟨rfl, fun row stored => .inl stored⟩
  · exact ⟨rfl, fun row stored => .inl stored⟩

theorem dbAfter_cases (db : Database) (stage : Stage) (task : Task) :
    (dbAfter db stage task).projects = db.projects ∧
      ∀ row ∈ (dbAfter db stage task).runtimes.rows, row ∈ db.runtimes.rows ∨
        ∃ ctx id now, stage = .logged ctx ∧ db.hasProject ctx.projectid = true ∧
          row = RuntimesMg.newRow (BuildTask.request ctx) id now := by
  fun_cases dbAfter db stage task with
  | case1 ctx id now =>
      obtain ⟨projects, rows⟩ := create_rows db (BuildTask.request ctx) id now
      refine ⟨projects, ?_⟩
      intro row stored
      rcases rows row stored with before | ⟨known, new⟩
      · exact .inl before
      · exact .inr ⟨ctx, id, now, rfl, known, new⟩
  | case2 => exact ⟨rfl, fun row stored => .inl stored⟩

theorem handle_cases (db : Database) (projectid : String) (request : RuntimeRegistry.Request) :
    (RuntimeRegistry.handle db projectid request).2.projects = db.projects ∧
      ∀ row ∈ (RuntimeRegistry.handle db projectid request).2.runtimes.rows,
        row ∈ db.runtimes.rows ∨ ∃ rq id now, request = .runtimes_create (some rq) id now ∧
          db.hasProject rq.project_id = true ∧ row = RuntimesMg.newRow rq id now := by
  cases request with
  | runtimes_list lt => exact ⟨rfl, fun row stored => .inl stored⟩
  | runtimes_create rq id now =>
      cases rq with
      | none => exact ⟨rfl, fun row stored => .inl stored⟩
      | some rq =>
          have same : (RuntimeRegistry.handle db projectid (.runtimes_create (some rq) id now)).2 =
              (RuntimesMg.create db rq id now).2 := by
            simp only [RuntimeRegistry.handle, RuntimeRegistry.runtimes_create]
            split
            · rename_i created
              rw [created]
            · rename_i refused
              rw [refused]
          rw [same]
          obtain ⟨projects, rows⟩ := create_rows db rq id now
          refine ⟨projects, ?_⟩
          intro row stored
          rcases rows row stored with before | ⟨known, new⟩
          · exact .inl before
          · exact .inr ⟨rq, id, now, rfl, known, new⟩
  | runtimes_delete rid => exact ⟨rfl, fun row stored => .inl (List.mem_of_mem_filter stored)⟩

theorem step_projects (act : Act ι) :
    (step unicode settings world act).db.projects = world.db.projects := by
  cases act with
  | project_upload projectid upload =>
      simp only [step, project_upload]
      split <;> rfl
  | project_build projectid spec version execid =>
      simp only [step, project_build]
      split <;> rfl
  | runtimes projectid request => exact (handle_cases ..).1
  | work worker task => exact (dbAfter_cases ..).1

theorem step_known (act : Act ι) (projectid : String) :
    (step unicode settings world act).db.hasProject projectid = world.db.hasProject projectid := by
  simp only [Database.hasProject, step_projects]

theorem known_of_upload {db : Database} {projectid key : String} {upload : Projects.Upload}
    (accepted : Projects.project_upload unicode db projectid upload = .ok key) :
    db.hasProject projectid = true := by
  unfold Projects.project_upload ProjectsMg.get_by_projectid at accepted
  split at accepted
  · simp at accepted
  · simp at accepted
  · rename_i data found
    split at found
    · simp at found
    · rename_i row selected
      have named := List.find?_some selected
      simp only [Bool.and_eq_true] at named
      exact List.any_eq_true.mpr ⟨row, List.mem_of_find?_eq_some selected, named.1⟩

end Contexts

/-! Uploads and builds of one project. -/

def labDb : Database :=
  { ProjectRecords.ownedDb with
    projects := ⟨[{ projectid := "p", name := "first", private_key := "", owner_id := some 1 }],
      by decide⟩ }

def labWorld : World Bool := ⟨labDb, fun _ => none, [], fun _ => .idle, fun _ => none⟩

def labSettings : Runtimes.Settings :=
  ⟨"labfunctions.io.kv_local.KVLocal", "labfunctions", none⟩

def labSpec : RuntimeSpec :=
  { name := "default", container := { image := "python:3.8", maintainer := "lab" } }

def labTask : NBTask := { Sample.task with runtime := some "default", version := some "1" }

def fetching (worker : Bool) (version : String) (bundle : Bundle) : List (Act Bool) :=
  [.project_upload "p" ⟨some "default", some version, bundle⟩,
    .project_build "p" labSpec (some version) Sample.env.execid,
    .work worker .build_dispatcher, .work worker .get_runtime_file]

def building (worker : Bool) : List (Act Bool) :=
  [.work worker (.docker_low_build (.ok ()) (.ok [.stream "Step 1/4"]))]

def tagging (worker : Bool) (id : Nat) : List (Act Bool) :=
  [.work worker .images_get, .work worker .img_tag, .work worker (.register id Sample.morning)]

theorem labWorld_fresh : Fresh labWorld where
  ids row stored := ⟨{ text := "p" }, by decide, by rw [List.mem_singleton.mp stored]⟩
  runtimes := rfl
  store _ := rfl
  build_q := rfl
  workers _ := rfl
  images _ := rfl

/-! Whose code it is. -/

section Soundness

variable {ι : Type} {unicode : Unicode} {settings : Runtimes.Settings} {world : World ι}
  {sent : String → Bundle → Prop} {owns : RuntimeReq → Prop}

/-- A bundle that was sent to the project which the text names, however it is written. -/
def Traced (sent : String → Bundle → Prop) (projectid : String) (bundle : Bundle) : Prop :=
  ∃ id : ProjectId, id.text ≠ "" ∧ Paths.segments projectid = [id.text] ∧ sent id.text bundle

/-- The row of a runtime whose request is of the kind that is meant. -/
def Registered (owns : RuntimeReq → Prop) (db : Database) (row : RuntimeModel) : Prop :=
  ∃ rq id now, row = RuntimesMg.newRow rq id now ∧ db.hasProject rq.project_id = true ∧
    truthy rq.registry = false ∧ owns rq

structure Sound (unicode : Unicode) (settings : Runtimes.Settings)
    (sent : String → Bundle → Prop) (owns : RuntimeReq → Prop) (world : World ι) : Prop where
  ids : ∀ row ∈ world.db.projects.rows, ∃ id : ProjectId, id.text ≠ "" ∧ row.projectid = id.text
  rows : ∀ row ∈ world.db.runtimes.rows, Registered owns world.db row
  store : ∀ key zip, world.store key = some zip → ∃ (id : ProjectId)
    (pair : Option String × Option String), id.text ≠ "" ∧ sent id.text zip ∧
      key = Runtimes.build_upload_uri unicode id.text pair.1 pair.2
  made : ∀ ctx, Pending world ctx → Made unicode settings ctx
  zips : ∀ worker ctx zip, (world.workers worker).zip? = some (ctx, zip) →
    Traced sent ctx.projectid zip
  found : ∀ worker ctx zip img, world.workers worker = .found ctx zip img →
    Traced sent ctx.projectid img.bundle
  images : ∀ name img, world.images name = some img →
    ∃ projectid, Under projectid name ∧ Traced sent projectid img.bundle

/-- Requests of the runs that are meant: what they send, and the runtimes that they register. -/
structure Meets (sent : String → Bundle → Prop) (owns : RuntimeReq → Prop) (act : Act ι) :
    Prop where
  sends : ∀ projectid upload, act = .project_upload projectid upload →
    sent projectid upload.bundle
  registers : ∀ projectid rq id now, act = .runtimes projectid (.runtimes_create (some rq) id now) →
    truthy rq.registry = false ∧ owns rq

theorem Traced.no_dash {projectid : String} {bundle : Bundle}
    (traced : Traced sent projectid bundle) : '-' ∉ projectid.toList := by
  obtain ⟨id, _, cut, _⟩ := traced
  exact no_dash_of_segments cut

theorem not_pending_fresh (fresh : Fresh world) (ctx : BuildCtx) : ¬Pending world ctx := by
  rintro (⟨job, queued, _⟩ | ⟨worker, busy⟩)
  · rw [fresh.build_q] at queued
    exact absurd queued List.not_mem_nil
  · rw [fresh.workers] at busy
    simp [Stage.ctx?] at busy

theorem sound_fresh (fresh : Fresh world) : Sound unicode settings sent owns world where
  ids := fresh.ids
  rows row stored := by simp [fresh.runtimes] at stored
  store key zip stored := by simp [fresh.store] at stored
  made ctx pending := absurd pending (not_pending_fresh fresh ctx)
  zips worker ctx zip held := by simp [fresh.workers, Stage.zip?] at held
  found worker ctx zip img held := by simp [fresh.workers] at held
  images name img shown := by simp [fresh.images] at shown

theorem Sound.id_of_known (sound : Sound unicode settings sent owns world) {projectid : String}
    (known : world.db.hasProject projectid = true) :
    ∃ id : ProjectId, id.text ≠ "" ∧ projectid = id.text := by
  obtain ⟨row, stored, named⟩ := List.any_eq_true.mp known
  rw [← beq_iff_eq.mp named]
  exact sound.ids row stored

theorem traced_fetched (sound : Sound unicode settings sent owns world) {ctx : BuildCtx}
    (made : Made unicode settings ctx) {zip : Bundle}
    (stored : world.store ctx.download_zip = some zip) : Traced sent ctx.projectid zip := by
  obtain ⟨id, pair, some, fromId, named⟩ := sound.store _ _ stored
  rw [made.download_zip] at named
  exact ⟨id, some, segments_of_uri some named, fromId⟩

/-- A worker gets by its name an image of the project that it builds for. -/
theorem traced_found (sound : Sound unicode settings sent owns world)
    (local_ : truthy settings.registry = false) {ctx : BuildCtx}
    (made : Made unicode settings ctx) (clean : '-' ∉ ctx.projectid.toList) {img : Image}
    (got : world.images (reference (BuildTask.docker_tag ctx)) = some img) :
    Traced sent ctx.projectid img.bundle := by
  obtain ⟨projectid, under, traced⟩ := sound.images _ _ got
  rw [made.docker_tag local_] at under
  have own : Under ctx.projectid (reference (Version.of ctx).docker_name) :=
    (under_docker_name (Version.of ctx)).reference
  rwa [under_inj clean traced.no_dash own under]

/-- The image of a task that is given a runtime is the one its row was requested with. -/
theorem task_image (sound : Sound unicode settings sent owns world) (env : Env)
    {projectid : String} {task : NBTask} {runtime : RuntimeData}
    (asked : truthy task.runtime = true)
    (chosen : RuntimesMg.get_runtime world.db projectid (pyOr task.runtime "") task.version =
      some runtime) :
    world.db.hasProject projectid = true ∧ ∃ rq, owns rq ∧ rq.project_id = projectid ∧
      rq.runtime_name = runtime.runtime_name ∧ rq.version = runtime.version ∧
        (create_task_ctx env world.db projectid task).runtime =
          rq.docker_name ++ ":" ++ rq.version := by
  obtain ⟨row, stored, project, _, _, _, rfl⟩ := RuntimesMg.get_runtime_mem chosen
  obtain ⟨rq, id, now, rfl, known, local_, own⟩ := sound.rows row stored
  obtain rfl : rq.project_id = projectid := Option.some.inj project
  refine ⟨known, rq, own, rfl, rfl, rfl, ?_⟩
  simp only [create_task_ctx, asked, if_true, chosen]
  show (if truthy rq.registry then _ else rq.docker_name ++ ":" ++ rq.version) = _
  rw [local_, if_neg Bool.false_ne_true]

theorem not_under_default (projectid back : String) :
    ¬Under projectid (Defaults.DOCKERFILE_IMAGE ++ ":" ++ back) := by
  rintro ⟨rest, same⟩
  have lists := congrArg (fun text : String => text.toList.head?) same
  simp [Defaults.DOCKERFILE_IMAGE, Defaults.DOCKER_AUTHOR] at lists

variable [DecidableEq ι]

theorem store_step (sound : Sound unicode settings sent owns world) {act : Act ι}
    (sends : ∀ projectid upload, act = .project_upload projectid upload →
      sent projectid upload.bundle) {key : String} {zip : Bundle}
    (stored : (step unicode settings world act).store key = some zip) :
    ∃ (id : ProjectId) (pair : Option String × Option String), id.text ≠ "" ∧ sent id.text zip ∧
      key = Runtimes.build_upload_uri unicode id.text pair.1 pair.2 := by
  cases act with
  | project_upload projectid upload =>
      simp only [step, project_upload] at stored
      split at stored
      · rename_i uri accepted
        dsimp only at stored
        by_cases same : key = uri
        · obtain ⟨id, some, rfl⟩ := sound.id_of_known (known_of_upload accepted)
          subst same
          rw [Function.update_self, Option.some.injEq] at stored
          exact ⟨id, upload.pair, some, stored ▸ sends _ _ rfl,
            UploadKeys.project_upload_eq accepted⟩
        · rw [Function.update_of_ne same] at stored
          exact sound.store key zip stored
      · exact sound.store key zip stored
  | project_build projectid spec version execid =>
      simp only [step, project_build] at stored
      split at stored <;> exact sound.store key zip stored
  | runtimes projectid request => exact sound.store key zip stored
  | work worker task => exact sound.store key zip stored

theorem sound_work (local_ : truthy settings.registry = false)
    (own : ∀ ctx, Made unicode settings ctx → owns (BuildTask.request ctx))
    (sound : Sound unicode settings sent owns world) (worker : ι) (task : Task) :
    Sound unicode settings sent owns (work world worker task) := by
  have madeAt : ∀ ctx, (world.workers worker).ctx? = some ctx → Made unicode settings ctx :=
    fun ctx busy => sound.made ctx (.inr ⟨worker, busy⟩)
  refine { ids := ?_, rows := ?_, store := sound.store, made := ?_, zips := ?_, found := ?_,
           images := ?_ }
  · simp only [work, (dbAfter_cases ..).1]
    exact sound.ids
  · intro row stored
    have same : ∀ projectid, (work world worker task).db.hasProject projectid =
        world.db.hasProject projectid := by
      intro projectid
      simp only [Database.hasProject, work, (dbAfter_cases ..).1]
    rcases (dbAfter_cases ..).2 row stored with before | ⟨ctx, id, now, logged, known, new⟩
    · obtain ⟨rq, id, now, new, known, plain, owned⟩ := sound.rows row before
      exact ⟨rq, id, now, new, (same _).trans known, plain, owned⟩
    · have made := madeAt ctx (by rw [logged]; rfl)
      have plain : truthy ctx.registry = false := by rw [made.registry, local_]
      exact ⟨_, id, now, new, (same _).trans known, plain, own ctx made⟩
  · intro ctx pending
    have after : Pending (step unicode settings world (.work worker task)) ctx := pending
    rcases pending_step after with before | ⟨_, _, _, _, other, _⟩
    · exact sound.made ctx before
    · simp at other
  · intro one ctx zip held
    by_cases turn : one = worker
    · subst turn
      simp only [work, Function.update_self] at held
      rcases stageAfter_zip held with before | ⟨_, started, stored⟩
      · exact sound.zips one ctx zip before
      · exact traced_fetched sound (madeAt ctx (by rw [started]; rfl)) stored
    · simp only [work, Function.update_of_ne turn] at held
      exact sound.zips one ctx zip held
  · intro one ctx zip img held
    by_cases turn : one = worker
    · subst turn
      simp only [work, Function.update_self] at held
      rcases stageAfter_found held with before | ⟨built, got⟩
      · exact sound.found one ctx zip img before
      · have clean := (sound.zips one ctx zip (by rw [built]; rfl)).no_dash
        exact traced_found sound local_ (madeAt ctx (by rw [built]; rfl)) clean got
    · simp only [work, Function.update_of_ne turn] at held
      exact sound.found one ctx zip img held
  · intro name img shown
    rcases imagesAfter_cases shown with before | ⟨ctx, zip, fetched, rfl, rfl⟩ |
      ⟨ctx, zip, found, rfl⟩
    · exact sound.images name img before
    · refine ⟨ctx.projectid, ?_, sound.zips worker ctx zip (by rw [fetched]; rfl)⟩
      rw [(madeAt ctx (by rw [fetched]; rfl)).docker_tag local_]
      exact (under_docker_name (Version.of ctx)).reference
    · refine ⟨ctx.projectid, ?_, sound.found worker ctx zip img found⟩
      rw [(madeAt ctx (by rw [found]; rfl)).docker_tag local_]
      exact (Version.of ctx).under_reference

theorem sound_step (local_ : truthy settings.registry = false)
    (own : ∀ ctx, Made unicode settings ctx → owns (BuildTask.request ctx))
    (sound : Sound unicode settings sent owns world) {act : Act ι} (meets : Meets sent owns act) :
    Sound unicode settings sent owns (step unicode settings world act) := by
  have stored : ∀ key zip, (step unicode settings world act).store key = some zip → _ :=
    fun key zip => store_step sound meets.sends
  have made : ∀ ctx, Pending (step unicode settings world act) ctx → Made unicode settings ctx := by
    intro ctx pending
    rcases pending_step pending with before | ⟨projectid, spec, version, execid, _, created⟩
    · exact sound.made ctx before
    · exact (made_of_created created).1
  cases act with
  | project_upload projectid upload =>
      cases accepted : Projects.project_upload unicode world.db projectid upload with
      | error failure =>
          simp only [step, project_upload, accepted]
          exact sound
      | ok uri =>
          simp only [step, project_upload, accepted] at stored made ⊢
          exact { sound with store := stored, made := made }
  | project_build projectid spec version execid =>
      cases queued : SchedulerExec.enqueue_build unicode execid settings world.build_q projectid spec
        version with
      | error failure =>
          simp only [step, project_build, queued]
          exact sound
      | ok result =>
          simp only [step, project_build, queued] at made ⊢
          exact { sound with made := made }
  | runtimes projectid request =>
      obtain ⟨projects, rows⟩ := handle_cases world.db projectid request
      have same : ∀ project, (RuntimeRegistry.handle world.db projectid request).2.hasProject project =
          world.db.hasProject project := by
        intro project
        simp only [Database.hasProject, projects]
      refine { sound with ids := ?_, rows := ?_ }
      · simp only [step, projects]
        exact sound.ids
      · intro row kept
        rcases rows row kept with before | ⟨rq, id, now, rfl, known, new⟩
        · obtain ⟨rq, id, now, new, known, plain, owned⟩ := sound.rows row before
          exact ⟨rq, id, now, new, (same _).trans known, plain, owned⟩
        · obtain ⟨plain, owned⟩ := meets.registers projectid rq id now rfl
          exact ⟨rq, id, now, new, (same _).trans known, plain, owned⟩
  | work worker task => exact sound_work local_ own sound worker task

theorem sound_run (local_ : truthy settings.registry = false)
    (own : ∀ ctx, Made unicode settings ctx → owns (BuildTask.request ctx)) (fresh : Fresh world)
    {acts : List (Act ι)} (meets : ∀ act ∈ acts, Meets sent owns act) :
    Sound unicode settings sent owns (run (step unicode settings) world acts) := by
  have kept : ∀ (state : World ι) (act : Act ι), Sound unicode settings sent owns state →
      Meets sent owns act ∧ True → Sound unicode settings sent owns (step unicode settings state act) :=
    fun state act sound met => sound_step local_ own sound met.1
  exact run_invariant kept (sound_fresh fresh)
    (along_and meets (along_of_forall (fun _ _ => trivial) _ _))

/-- Whatever is uploaded, built and registered side by side: the code in the image that a task is
given was uploaded to the project of the task, if the runtimes that are registered by requests of
their own are named as images of their projects. -/
theorem code_of_own_project (fresh : Fresh world) (local_ : truthy settings.registry = false)
    (acts : List (Act ι))
    (named : ∀ projectid rq id now,
      .runtimes projectid (.runtimes_create (some rq) id now) ∈ acts →
        truthy rq.registry = false ∧ Under rq.project_id rq.docker_name)
    (env : Env) (projectid : String) (task : NBTask) {img : Image}
    (shown : (run (step unicode settings) world acts).images
      (create_task_ctx env (run (step unicode settings) world acts).db projectid task).runtime =
        some img) :
    ∃ upload, .project_upload projectid upload ∈ acts ∧ upload.bundle = img.bundle := by
  have sound : Sound unicode settings
      (fun project bundle => ∃ upload, .project_upload project upload ∈ acts ∧
        upload.bundle = bundle) (fun rq => Under rq.project_id rq.docker_name)
      (run (step unicode settings) world acts) := by
    refine sound_run local_ ?_ fresh ?_
    · intro ctx made
      have own := under_docker_name (Version.of ctx)
      rwa [← made.docker_name] at own
    · intro act member
      constructor
      · rintro project upload rfl
        exact ⟨upload, member, rfl⟩
      · rintro project rq id now rfl
        exact named project rq id now member
  obtain ⟨owner, under, traced⟩ := sound.images _ _ shown
  have dflt : ∀ gpu_support,
      ¬Under owner (Notebooks.prepare_runtime env.repr none gpu_support) := by
    intro gpu_support
    simp only [Notebooks.prepare_runtime]
    split
    · rw [String.append_assoc]
      exact not_under_default owner _
    · rw [String.append_assoc]
      exact not_under_default owner _
  by_cases asked : truthy task.runtime = true
  · cases chosen : RuntimesMg.get_runtime (run (step unicode settings) world acts).db projectid
        (pyOr task.runtime "") task.version with
    | none =>
        simp only [create_task_ctx, asked, if_true, chosen] at under
        exact absurd under (dflt _)
    | some runtime =>
        obtain ⟨known, rq, own, rfl, _, _, image⟩ := task_image sound env asked chosen
        obtain ⟨id, some, project⟩ := sound.id_of_known known
        rw [image] at under
        have clean : '-' ∉ rq.project_id.toList := by
          rw [project]
          exact not_mem_projectid (by decide) id
        obtain rfl := under_inj traced.no_dash clean under ((own.append ":").append rq.version)
        obtain ⟨same, _, cut, upload, member, bundle⟩ := traced
        rw [project, Paths.segments_of_clean (clean_projectid some)] at cut
        rw [project, (List.cons.inj cut).1]
        exact ⟨upload, member, bundle⟩
  · simp only [create_task_ctx, asked, Bool.false_eq_true, if_false] at under
    exact absurd under (dflt _)

theorem code_of_first_project :
    ∃ upload, .project_upload "p" upload ∈ fetching true "1" [7] ++ building true ++ tagging true 1 ∧
      upload.bundle = [7] :=
  code_of_own_project labWorld_fresh (by decide) _ (by simp [fetching, building, tagging]) Sample.env
    "p" labTask
    (show (run (step Sample.unicode labSettings) labWorld _).images _ =
      some ⟨[7], "Dockerfile.default"⟩ by decide +kernel)

end Soundness

end RuntimeBuilds

end LabFunctions
