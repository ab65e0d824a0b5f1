import LabFunctions.Library.Traces
import LabFunctions.RuntimeBuilds

/-!
One version of a runtime: the image under its reference against the bundles that were uploaded for
it, when workers build other versions at the same time.
-/

namespace LabFunctions

namespace RuntimeDeliveries

open Filenames Runs Traces RuntimeBuilds

/-- An accepted upload of the version, or a worker with a build of it that fetches the bundle or
tags the image. -/
inductive Event (ι : Type) where
  | uploaded (bundle : Bundle)
  | fetched (worker : ι)
  | tagged (worker : ι)

/-- The bundle uploaded last, those that workers have fetched, and the one in the image. -/
structure Shelf (ι : Type) where
  uploaded : Option Bundle := none
  held : ι → Option Bundle := fun _ => none
  image : Option Bundle := none

section Shelf

variable {ι : Type} [DecidableEq ι]

def Shelf.step (shelf : Shelf ι) : Event ι → Shelf ι
  | .uploaded bundle => { shelf with uploaded := some bundle }
  | .fetched worker => { shelf with held := Function.update shelf.held worker shelf.uploaded }
  | .tagged worker => { shelf with image := shelf.held worker }

def Shelf.Holds (shelf : Shelf ι) (bundle : Bundle) : Prop :=
  shelf.uploaded = some bundle ∨ (∃ worker, shelf.held worker = some bundle) ∨
    shelf.image = some bundle

theorem Shelf.holds_step {shelf : Shelf ι} {seen : Event ι} {bundle : Bundle}
    (holds : (shelf.step seen).Holds bundle) : shelf.Holds bundle ∨ seen = .uploaded bundle := by
  cases seen with
  | uploaded sent =>
      rcases holds with uploaded | others
      · exact .inr (congrArg Event.uploaded (Option.some.inj uploaded))
      · exact .inl (.inr others)
  | fetched one =>
      left
      rcases holds with uploaded | ⟨worker, held⟩ | image
      · exact .inl uploaded
      · simp only [Shelf.step, Function.update_apply] at held
        split at held
        · exact .inl held
        · exact .inr (.inl ⟨worker, held⟩)
      · exact .inr (.inr image)
  | tagged one =>
      left
      rcases holds with uploaded | held | image
      · exact .inl uploaded
      · exact .inr (.inl held)
      · exact .inr (.inl ⟨one, image⟩)

end Shelf

def workEvent {ι : Type} (one : Version) (worker : ι) : Stage → Task → Option (Event ι)
  | .started ctx, .get_runtime_file =>
      if Version.of ctx = one then some (.fetched worker) else none
  | .found ctx _ _, .img_tag => if Version.of ctx = one then some (.tagged worker) else none
  | _, _ => none

def event {ι : Type} (unicode : Unicode) (one : Version) (world : World ι) :
    Act ι → Option (Event ι)
  | .project_upload projectid upload =>
      if projectid = one.projectid ∧ upload.pair = one.pair ∧
          (Projects.project_upload unicode world.db projectid upload).isOk = true then
        some (.uploaded upload.bundle)
      else none
  | .work worker task => workEvent one worker (world.workers worker) task
  | _ => none

/-- Another version is named otherwise, and neither of the two is what docker takes a name without
a tag for. -/
structure Away (one other : Version) : Prop where
  named : other.reference = one.reference → other = one
  built : reference other.docker_name ≠ one.reference
  tagged : other.reference ≠ reference one.docker_name

def Apart {ι : Type} (unicode : Unicode) (one : Version) : Act ι → Prop
  | .project_upload projectid upload =>
      projectid = one.projectid → UploadKeys.Apart unicode upload.pair one.pair
  | .project_build projectid spec version _ =>
      projectid = one.projectid → ∀ text, version = some text →
        Away one ⟨projectid, spec.name, text⟩
  | _ => True

/-- No image is built under the name of the runtime between the build of this version by another
worker and its getting the image by that name. -/
def Undisturbed {ι : Type} (one : Version) (world : World ι) : Act ι → Prop
  | .work worker (.docker_low_build _ _) =>
      ∀ ctx zip, world.workers worker = .fetched ctx zip →
        reference (Version.of ctx).docker_name = reference one.docker_name →
          ∀ other own held, other ≠ worker → world.workers other = .built own held →
            Version.of own ≠ one
  | _ => True

section Simulation

variable {ι : Type} {unicode : Unicode} {settings : Runtimes.Settings} {world : World ι}
  {one : Version} {stage : Stage} {task : Task} {ctx : BuildCtx} {zip : Bundle}

theorem imagesAfter_kept {images : String → Option Image} {name : String}
    (low : ∀ ctx zip unzip outputs, stage = .fetched ctx zip →
      task = .docker_low_build unzip outputs → name ≠ reference (BuildTask.docker_tag ctx))
    (tag : ∀ ctx zip img, stage = .found ctx zip img → task = .img_tag →
      name ≠ BuildTask.docker_tag ctx ++ ":" ++ ctx.version) :
    imagesAfter images stage task name = images name := by
  fun_cases imagesAfter images stage task with
  | case2 own zip outputs built =>
      exact Function.update_of_ne (low own zip _ _ rfl rfl) ..
  | case3 own zip img => exact Function.update_of_ne (tag own zip img rfl rfl) ..
  | _ => rfl

theorem built_clean {outputs : List Docker.Output}
    (clean : ¬(Docker.docker_low_build outputs).error = true) :
    outputs.any Output.isErrorDetail = false := by
  rw [Builder.docker_low_build_error, Docker.reportsError, List.any_eq_true] at clean
  rw [List.any_eq_false]
  intro output member failed
  refine clean ⟨output, member, ?_⟩
  cases output with
  | errorDetail error => rfl
  | _ => exact absurd failed Bool.false_ne_true

theorem stageAfter_built (after : stageAfter world stage task = .built ctx zip) :
    stage = .built ctx zip ∨ stage = .fetched ctx zip ∧
      imagesAfter world.images stage task =
        Function.update world.images (reference (BuildTask.docker_tag ctx))
          (some ⟨zip, ctx.dockerfile⟩) := by
  revert after
  fun_cases stageAfter world stage task with
  | case6 own held outputs clean =>
      intro after
      obtain ⟨rfl, rfl⟩ := Stage.built.inj after
      refine .inr ⟨rfl, ?_⟩
      rw [imagesAfter, built_clean clean, if_neg Bool.false_ne_true]
  | _ => first | exact .inl | (intro after; exact absurd after (by simp))

structure Related (unicode : Unicode) (settings : Runtimes.Settings) (owns : RuntimeReq → Prop)
    (one : Version) (world : World ι) (shelf : Shelf ι) : Prop where
  sound : Sound unicode settings (fun _ _ => True) owns world
  known : world.db.hasProject one.projectid = true
  away : ∀ ctx, Pending world ctx → ctx.projectid = one.projectid → Away one (Version.of ctx)
  store : world.store (one.uri unicode) = shelf.uploaded
  held : ∀ worker ctx zip, (world.workers worker).zip? = some (ctx, zip) →
    Version.of ctx = one → shelf.held worker = some zip
  built : ∀ worker ctx zip, world.workers worker = .built ctx zip → Version.of ctx = one →
    world.images (RuntimeBuilds.reference one.docker_name) = some ⟨zip, one.dockerfile⟩
  found : ∀ worker ctx zip img, world.workers worker = .found ctx zip img →
    Version.of ctx = one → img = ⟨zip, one.dockerfile⟩
  image : world.images one.reference = shelf.image.map fun bundle => ⟨bundle, one.dockerfile⟩

variable {owns : RuntimeReq → Prop} {shelf : Shelf ι}

theorem Related.no_dash (related : Related unicode settings owns one world shelf) :
    '-' ∉ one.projectid.toList := by
  obtain ⟨id, _, same⟩ := related.sound.id_of_known related.known
  rw [same]
  exact not_mem_projectid (by decide) id

/-- A build that writes a name of the project is one of the project. -/
theorem Related.away_of_name (related : Related unicode settings owns one world shelf)
    {worker : ι} (busy : (world.workers worker).zip? = some (ctx, zip)) {name : String}
    (own : Under one.projectid name) (written : Under ctx.projectid name) :
    Away one (Version.of ctx) := by
  have clean := (related.sound.zips worker ctx zip busy).no_dash
  have pending : Pending world ctx := by
    refine .inr ⟨worker, ?_⟩
    cases stage : world.workers worker with
    | fetched | built | found =>
        rw [stage] at busy
        simp only [Stage.zip?, Option.some.injEq, Prod.mk.injEq] at busy
        simp only [Stage.ctx?, busy.1]
    | _ =>
        rw [stage] at busy
        simp [Stage.zip?] at busy
  exact related.away ctx pending (under_inj clean related.no_dash written own)

theorem related_fresh (fresh : Fresh world) (known : world.db.hasProject one.projectid = true) :
    Related unicode settings owns one world {} where
  sound := sound_fresh fresh
  known := known
  away ctx pending := absurd pending (not_pending_fresh fresh ctx)
  store := fresh.store _
  held worker ctx zip held := by simp [fresh.workers, Stage.zip?] at held
  built worker ctx zip built := by simp [fresh.workers] at built
  found worker ctx zip img found := by simp [fresh.workers] at found
  image := fresh.images _

theorem uri_ne (related : Related unicode settings owns one world shelf) {projectid : String}
    (other : world.db.hasProject projectid = true) (different : projectid ≠ one.projectid)
    (pair : Option String × Option String) :
    Runtimes.build_upload_uri unicode projectid pair.1 pair.2 ≠ one.uri unicode := by
  intro same
  obtain ⟨id, some, named⟩ := related.sound.id_of_known related.known
  obtain ⟨own, someOwn, rfl⟩ := related.sound.id_of_known other
  unfold Version.uri at same
  rw [named] at same different
  have cut := segments_of_uri some same
  rw [Paths.segments_of_clean (clean_projectid someOwn)] at cut
  exact different (List.cons.inj cut).1

variable {act : Act ι}

theorem event_uploaded_iff {bundle : Bundle} :
    event unicode one world act = some (.uploaded bundle) ↔
      ∃ upload key, act = .project_upload one.projectid upload ∧ upload.pair = one.pair ∧
        Projects.project_upload unicode world.db one.projectid upload = .ok key ∧
          upload.bundle = bundle := by
  cases act with
  | project_upload projectid upload =>
      simp only [event]
      constructor
      · intro shown
        split at shown
        · rename_i meant
          obtain ⟨rfl, paired, accepted⟩ := meant
          cases stored : Projects.project_upload unicode world.db one.projectid upload with
          | error failure =>
              rw [stored] at accepted
              exact absurd accepted Bool.false_ne_true
          | ok key =>
              rw [Option.some.injEq, Event.uploaded.injEq] at shown
              exact ⟨upload, key, rfl, paired, stored, shown⟩
        · simp at shown
      · rintro ⟨other, key, same, paired, stored, rfl⟩
        obtain ⟨rfl, rfl⟩ := Act.project_upload.inj same
        rw [if_pos ⟨rfl, paired, by rw [stored]; rfl⟩]
  | work worker task =>
      simp only [event, reduceCtorEq, false_and, exists_false, iff_false]
      fun_cases workEvent one worker (world.workers worker) task <;> simp
  | _ => simp [event]

variable [DecidableEq ι] {worker : ι}

theorem elim_uploaded :
    ((workEvent one worker stage task).elim shelf shelf.step).uploaded = shelf.uploaded := by
  fun_cases workEvent one worker stage task <;> rfl

theorem elim_held_ne {other : ι} (different : other ≠ worker) :
    ((workEvent one worker stage task).elim shelf shelf.step).held other = shelf.held other := by
  fun_cases workEvent one worker stage task with
  | case1 => exact Function.update_of_ne different ..
  | _ => rfl

theorem elim_held_zip (busy : stage.zip? = some (ctx, zip)) :
    ((workEvent one worker stage task).elim shelf shelf.step).held = shelf.held := by
  fun_cases workEvent one worker stage task with
  | case1 => simp [Stage.zip?] at busy
  | _ => rfl

theorem held_work (related : Related unicode settings owns one world shelf) {other : ι}
    (busy : ((work world worker task).workers other).zip? = some (ctx, zip))
    (own : Version.of ctx = one) :
    ((workEvent one worker (world.workers worker) task).elim shelf shelf.step).held other =
      some zip := by
  by_cases turn : other = worker
  · subst turn
    simp only [work, Function.update_self] at busy
    rcases stageAfter_zip busy with before | ⟨rfl, started, stored⟩
    · rw [elim_held_zip before]
      exact related.held other ctx zip before own
    · have made := related.sound.made ctx (.inr ⟨other, by rw [started]; rfl⟩)
      rw [made.download_zip, own, related.store] at stored
      rw [started, workEvent, if_pos own]
      exact (Function.update_self ..).trans stored
  · simp only [work, Function.update_of_ne turn] at busy
    rw [elim_held_ne turn]
    exact related.held other ctx zip busy own

theorem built_work (local_ : truthy settings.registry = false)
    (related : Related unicode settings owns one world shelf)
    (undisturbed : Undisturbed one world (.work worker task)) {other : ι}
    (built : (work world worker task).workers other = .built ctx zip)
    (own : Version.of ctx = one) :
    (work world worker task).images (reference one.docker_name) = some ⟨zip, one.dockerfile⟩ := by
  by_cases turn : other = worker
  · subst turn
    simp only [work, Function.update_self] at built ⊢
    rcases stageAfter_built built with before | ⟨fetched, images⟩
    · rw [before]
      exact related.built other ctx zip before own
    · have made := related.sound.made ctx (.inr ⟨other, by rw [fetched]; rfl⟩)
      rw [images, made.docker_tag local_, made.dockerfile, own, Function.update_self]
  · simp only [work, Function.update_of_ne turn] at built ⊢
    rw [imagesAfter_kept]
    · exact related.built other ctx zip built own
    · rintro away held unzip outputs fetched rfl same
      have made := related.sound.made away (.inr ⟨worker, by rw [fetched]; rfl⟩)
      rw [made.docker_tag local_] at same
      exact undisturbed away held fetched same.symm other ctx zip turn built own
    · rintro away held img found rfl same
      have made := related.sound.made away (.inr ⟨worker, by rw [found]; rfl⟩)
      rw [made.docker_tag local_] at same
      have written : Under away.projectid (reference one.docker_name) := by
        rw [same]
        exact (Version.of away).under_reference
      have far := related.away_of_name (by rw [found]; rfl) (under_docker_name one).reference written
      exact far.tagged same.symm

theorem found_work (local_ : truthy settings.registry = false)
    (related : Related unicode settings owns one world shelf) {other : ι} {img : Image}
    (found : (work world worker task).workers other = .found ctx zip img)
    (own : Version.of ctx = one) : img = ⟨zip, one.dockerfile⟩ := by
  by_cases turn : other = worker
  · subst turn
    simp only [work, Function.update_self] at found
    rcases stageAfter_found found with before | ⟨built, got⟩
    · exact related.found other ctx zip img before own
    · have made := related.sound.made ctx (.inr ⟨other, by rw [built]; rfl⟩)
      rw [made.docker_tag local_, own, related.built other ctx zip built own] at got
      exact (Option.some.inj got).symm
  · simp only [work, Function.update_of_ne turn] at found
    exact related.found other ctx zip img found own

theorem elim_image (quiet : ∀ ctx zip img, stage = .found ctx zip img → task = .img_tag →
      Version.of ctx ≠ one) :
    ((workEvent one worker stage task).elim shelf shelf.step).image = shelf.image := by
  fun_cases workEvent one worker stage task with
  | case3 own zip img same => exact absurd same (quiet own zip img rfl rfl)
  | _ => rfl

theorem image_work (local_ : truthy settings.registry = false)
    (related : Related unicode settings owns one world shelf) :
    (work world worker task).images one.reference =
      ((workEvent one worker (world.workers worker) task).elim shelf shelf.step).image.map
        fun bundle => ⟨bundle, one.dockerfile⟩ := by
  have madeAt : ∀ ctx, (world.workers worker).ctx? = some ctx → Made unicode settings ctx :=
    fun ctx busy => related.sound.made ctx (.inr ⟨worker, busy⟩)
  by_cases tagged : ∃ ctx zip img, world.workers worker = .found ctx zip img ∧ task = .img_tag ∧
      Version.of ctx = one
  · obtain ⟨ctx, zip, img, found, rfl, own⟩ := tagged
    have made := madeAt ctx (by rw [found]; rfl)
    have name : BuildTask.docker_tag ctx ++ ":" ++ ctx.version = one.reference := by
      rw [made.docker_tag local_, ← own]
      rfl
    have held := related.held worker ctx zip (by rw [found]; rfl) own
    rw [related.found worker ctx zip img found own] at found
    simp only [work, found, imagesAfter, workEvent, if_pos own, name, Function.update_self]
    simp only [Option.elim, Shelf.step, held, Option.map_some]
  · have far : ∀ ctx zip, (world.workers worker).zip? = some (ctx, zip) →
        Under ctx.projectid one.reference → Away one (Version.of ctx) :=
      fun ctx zip busy written => related.away_of_name busy one.under_reference written
    simp only [work]
    rw [imagesAfter_kept, related.image, elim_image]
    · intro ctx zip img found same own
      exact tagged ⟨ctx, zip, img, found, same, own⟩
    · rintro ctx zip unzip outputs fetched rfl same
      have written : Under ctx.projectid (reference (Version.of ctx).docker_name) :=
        (under_docker_name (Version.of ctx)).reference
      rw [(madeAt ctx (by rw [fetched]; rfl)).docker_tag local_] at same
      rw [← same] at written
      exact (far ctx zip (by rw [fetched]; rfl) written).built same.symm
    · rintro ctx zip img found rfl same
      have written : Under ctx.projectid (Version.of ctx).reference := (Version.of ctx).under_reference
      rw [(madeAt ctx (by rw [found]; rfl)).docker_tag local_] at same
      rw [show (Version.of ctx).reference = one.reference from same.symm] at written
      have named := (far ctx zip (by rw [found]; rfl) written).named same.symm
      exact tagged ⟨ctx, zip, img, found, rfl, named⟩

theorem store_step (related : Related unicode settings owns one world shelf)
    (apart : Apart unicode one act) :
    (step unicode settings world act).store (one.uri unicode) =
      ((event unicode one world act).elim shelf shelf.step).uploaded := by
  cases act with
  | project_upload projectid upload =>
      simp only [step, project_upload]
      cases accepted : Projects.project_upload unicode world.db projectid upload with
      | error failure =>
          simp only [event, accepted]
          rw [if_neg (fun meant => absurd meant.2.2 Bool.false_ne_true)]
          exact related.store
      | ok key =>
          have keyed := UploadKeys.project_upload_eq accepted
          by_cases own : projectid = one.projectid ∧ upload.pair = one.pair
          · obtain ⟨rfl, paired⟩ := own
            have pairs : upload.runtime_name = some one.name ∧ upload.version = some one.version :=
              Prod.mk.inj paired
            have same : key = one.uri unicode := by
              rw [keyed, pairs.1, pairs.2]
              rfl
            have shown := event_uploaded_iff.mpr ⟨upload, key, rfl, paired, accepted, rfl⟩
            rw [shown, same]
            dsimp only [Option.elim, Shelf.step]
            rw [Function.update_self]
          · simp only [event]
            rw [if_neg (fun meant => own ⟨meant.1, meant.2.1⟩)]
            dsimp only [Option.elim]
            rw [Function.update_of_ne, related.store]
            intro same
            rw [keyed] at same
            by_cases project : projectid = one.projectid
            · subst project
              exact own ⟨rfl, apart rfl ((UploadKeys.uri_inj _ upload.pair one.pair).mp same.symm)⟩
            · exact uri_ne related (known_of_upload accepted) project upload.pair same.symm
  | project_build projectid spec version execid =>
      simp only [step, project_build]
      split <;> exact related.store
  | runtimes projectid request => exact related.store
  | work worker task => exact related.store.trans elim_uploaded.symm

theorem away_step (related : Related unicode settings owns one world shelf)
    (apart : Apart unicode one act) :
    Pending (step unicode settings world act) ctx → ctx.projectid = one.projectid →
      Away one (Version.of ctx) := by
  intro pending project
  rcases pending_step pending with before | ⟨projectid, spec, version, execid, rfl, created⟩
  · exact related.away ctx before project
  · obtain ⟨_, rfl, rfl, versioned⟩ := made_of_created created
    exact apart project _ versioned

/-- What a request leaves to the workers. -/
theorem request_step (request : ∀ worker task, act ≠ .work worker task) :
    (step unicode settings world act).workers = world.workers ∧
      (step unicode settings world act).images = world.images ∧
        ((event unicode one world act).elim shelf shelf.step).held = shelf.held ∧
          ((event unicode one world act).elim shelf shelf.step).image = shelf.image := by
  cases act with
  | project_upload projectid upload =>
      simp only [step, project_upload, event]
      refine ⟨?_, ?_, ?_, ?_⟩ <;> split <;> rfl
  | project_build projectid spec version execid =>
      simp only [step, project_build, event]
      refine ⟨?_, ?_, rfl, rfl⟩ <;> split <;> rfl
  | runtimes projectid request => exact ⟨rfl, rfl, rfl, rfl⟩
  | work worker task => exact absurd rfl (request worker task)

theorem related_step (local_ : truthy settings.registry = false)
    (own : ∀ ctx, Made unicode settings ctx → owns (BuildTask.request ctx))
    (related : Related unicode settings owns one world shelf)
    (meets : Meets (fun _ _ => True) owns act) (apart : Apart unicode one act)
    (undisturbed : Undisturbed one world act) :
    Related unicode settings owns one (step unicode settings world act)
      ((event unicode one world act).elim shelf shelf.step) := by
  have sound := sound_step local_ own related.sound meets
  have known : (step unicode settings world act).db.hasProject one.projectid = true :=
    (step_known act _).trans related.known
  have away : ∀ ctx, Pending (step unicode settings world act) ctx →
      ctx.projectid = one.projectid → Away one (Version.of ctx) :=
    fun ctx => away_step related apart
  have store := store_step related apart
  by_cases working : ∃ worker task, act = .work worker task
  · obtain ⟨worker, task, rfl⟩ := working
    exact { sound, known, away, store,
            held := fun _ _ _ => held_work related
            built := fun _ _ _ => built_work local_ related undisturbed
            found := fun _ _ _ _ => found_work local_ related
            image := image_work local_ related }
  · have request : ∀ worker task, act ≠ .work worker task :=
      fun worker task same => working ⟨worker, task, same⟩
    obtain ⟨workers, images, held, image⟩ :=
      @request_step _ unicode settings world one shelf act _ request
    refine { sound, known, away, store, held := ?_, built := ?_, found := ?_, image := ?_ }
    · rw [workers, held]
      exact related.held
    · rw [workers, images]
      exact related.built
    · rw [workers]
      exact related.found
    · rw [images, image]
      exact related.image

end Simulation

section Names

variable {one other : Version}

theorem reference_plain (project : ':' ∉ one.projectid.toList) (plain : ':' ∉ one.name.toList) :
    reference one.docker_name = { one with version := "latest" : Version }.reference := by
  have untagged : ':' ∉ one.docker_name.toList.reverse.takeWhile (· != '/') := by
    intro member
    have inside := (List.takeWhile_sublist _).subset member
    rw [List.mem_reverse] at inside
    simp [Version.docker_name, Defaults.DOCKER_AUTHOR] at inside
    rcases inside with among | among
    · exact project among
    · exact plain among
  unfold reference
  rw [if_neg untagged, Version.reference, String.append_assoc]
  rfl

theorem reference_inj (clean : '-' ∉ one.projectid.toList) (cleanOther : '-' ∉ other.projectid.toList)
    (plain : ':' ∉ one.name.toList) (plainOther : ':' ∉ other.name.toList)
    (same : one.reference = other.reference) : one = other := by
  have tail : ∀ version : Version, version.reference = Defaults.DOCKER_AUTHOR ++ "/" ++
      version.projectid ++ "-" ++ (version.name ++ ":" ++ version.version) := by
    intro version
    simp only [Version.reference, Version.docker_name, String.append_assoc]
  rw [tail, tail] at same
  obtain ⟨project, rests⟩ := rest_inj clean cleanOther same
  have lists := congrArg String.toList rests
  simp only [String.toList_append, List.append_assoc] at lists
  obtain ⟨names, versions⟩ := Words.cut_first_inj plain plainOther lists
  cases one
  cases other
  simp only [Version.mk.injEq]
  exact ⟨project, String.toList_inj.mp names, String.toList_inj.mp versions⟩

/-- Names without a colon keep versions apart, but for one that is called `latest`. -/
theorem away_of_plain (id : ProjectId) (project : one.projectid = id.text)
    (same : other.projectid = one.projectid) (plain : ':' ∉ one.name.toList)
    (plainOther : ':' ∉ other.name.toList) (version : one.version ≠ "latest")
    (versionOther : other.version ≠ "latest") : Away one other := by
  have dash : '-' ∉ one.projectid.toList := project ▸ not_mem_projectid (by decide) id
  have colon : ':' ∉ one.projectid.toList := project ▸ not_mem_projectid (by decide) id
  have dashOther : '-' ∉ other.projectid.toList := same ▸ dash
  refine { named := ?_, built := ?_, tagged := ?_ }
  · exact reference_inj dashOther dash plainOther plain
  · rw [reference_plain (same ▸ colon) plainOther]
    intro written
    have latest : { other with version := "latest" } = one :=
      reference_inj dashOther dash plainOther plain written
    exact version (by rw [← latest])
  · rw [reference_plain colon plain]
    intro written
    have latest : other = { one with version := "latest" } :=
      reference_inj dashOther dash plainOther plain written
    exact versionOther (by rw [latest])

end Names

/-! Two versions that are built by two workers. -/

def Stage.isBuilt : Stage → Bool
  | .built _ _ => true
  | _ => false

theorem undisturbed_of_none {ι : Type} {world : World ι} {one : Version} {worker : ι} {task : Task}
    (none : ∀ other, other ≠ worker → Stage.isBuilt (world.workers other) = false) :
    Undisturbed one world (.work worker task) := by
  cases task with
  | docker_low_build unzip outputs =>
      intro ctx zip fetched named other own held different built
      have busy := none other different
      rw [built] at busy
      exact absurd busy Bool.true_eq_false.mp
  | _ => trivial

def labRuntime : RuntimeData :=
  RuntimesMg.model2runtime (RuntimesMg.newRow
    { runtime_name := "default", docker_name := "labfunctions/p-default", spec := labSpec,
      project_id := "p", version := "1", registry := none } 1 Sample.morning) "p"

def labActs : List (Act Bool) :=
  fetching true "1" [7] ++ fetching false "2" [8] ++ building true ++ tagging true 1 ++
    building false ++ tagging false 2

theorem apart_lab : ∀ act ∈ labActs, Apart Sample.unicode ⟨"p", "default", "1"⟩ act := by
  have other : UploadKeys.label Sample.unicode (some "default", some "2") ≠
      UploadKeys.label Sample.unicode (some "default", some "1") := by decide +kernel
  have plain : ':' ∉ labSpec.name.toList := by decide
  have away : ∀ version, version ≠ "latest" →
      Away ⟨"p", "default", "1"⟩ ⟨"p", labSpec.name, version⟩ :=
    fun version named => away_of_plain { text := "p" } rfl rfl (by decide) plain
      (by decide) named
  intro act member
  simp only [labActs, fetching, building, tagging, List.cons_append, List.nil_append, List.mem_cons,
    List.not_mem_nil, or_false] at member
  rcases member with rfl | rfl | rfl | rfl | rfl | rfl | member
  · exact fun _ _ => rfl
  · rintro _ text ⟨⟩
    exact away "1" (by decide)
  · trivial
  · trivial
  · exact fun _ same => absurd same other
  · rintro _ text ⟨⟩
    exact away "2" (by decide)
  · rcases member with rfl | rfl | rfl | rfl | rfl | rfl | rfl | rfl | rfl | rfl <;> trivial

theorem undisturbed_lab : Along (step Sample.unicode labSettings)
    (Undisturbed ⟨"p", "default", "1"⟩) labWorld labActs := by
  refine ⟨trivial, trivial, trivial, trivial, trivial, trivial, trivial, trivial,
    undisturbed_of_none (by decide +kernel), trivial, trivial, trivial,
    undisturbed_of_none (by decide +kernel), trivial, trivial, trivial, trivial⟩

/-! What a task runs. -/

section Delivery

variable {ι : Type} [DecidableEq ι] {unicode : Unicode} {settings : Runtimes.Settings}
  {world : World ι}

/-- What a shelf holds was uploaded. -/
theorem uploaded_of_image {events : List (Event ι)} {bundle : Bundle}
    (shown : (run Shelf.step {} events).image = some bundle) : .uploaded bundle ∈ events := by
  have kept : ∀ (shelf : Shelf ι) (seen : Event ι),
      (∀ bundle, shelf.Holds bundle → .uploaded bundle ∈ events) → seen ∈ events ∧ True →
        ∀ bundle, (shelf.step seen).Holds bundle → .uploaded bundle ∈ events := by
    rintro shelf seen traced ⟨member, _⟩ bundle holds
    rcases Shelf.holds_step holds with before | rfl
    · exact traced bundle before
    · exact member
  refine run_invariant kept ?_ (along_and (fun _ member => member)
    (along_of_forall (fun _ _ => trivial) _ _)) bundle (.inr (.inr shown))
  rintro bundle (uploaded | ⟨worker, held⟩ | image)
  · exact absurd uploaded (by simp)
  · exact absurd held (by simp)
  · exact absurd image (by simp)

theorem known_run (acts : List (Act ι)) (projectid : String) :
    (run (step unicode settings) world acts).db.hasProject projectid =
      world.db.hasProject projectid := by
  induction acts generalizing world with
  | nil => rfl
  | cons act rest ih => rw [run_cons, ih, step_known]

/-- A runtime that is registered under the name that its build has. -/
def Named (rq : RuntimeReq) : Prop :=
  rq.docker_name = (⟨rq.project_id, rq.runtime_name, rq.version⟩ : Version).docker_name

/-- Two versions that are built at once: both are named `latest` before they are tagged, and the
first gets the code of the second. -/
example : (run (step Sample.unicode labSettings) labWorld (fetching true "1" [7] ++
    fetching false "2" [8] ++ building true ++ building false ++ tagging true 1)).images
      (⟨"p", "default", "1"⟩ : Version).reference = some ⟨[8], "Dockerfile.default"⟩ := by
  decide +kernel

end Delivery

end RuntimeDeliveries

end LabFunctions
