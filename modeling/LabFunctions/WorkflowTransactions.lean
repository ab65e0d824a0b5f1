import LabFunctions.Library.Retries
import LabFunctions.WorkflowsCore

/-!
The write handlers of `labfunctions.web.workflows_bp` action by action: each statement on the
database and each call to the scheduler is one action, the rows a handler writes are its own until
it commits, and what the scheduler is told takes effect at once.
-/

namespace LabFunctions

/-- The calls of libq that `JobManager` makes, over whatever libq keeps. -/
structure Libq (σ : Type) where
  jobs : σ → String → Option Job
  create_job : String → Job → σ → σ
  enqueue_job : String → σ → σ
  unregister_job : String → σ → σ
  remove_job : String → σ → σ
  jobs_create_job : ∀ jobid job scheduler,
    jobs (create_job jobid job scheduler) = Function.update (jobs scheduler) jobid (some job)
  jobs_enqueue_job : ∀ jobid scheduler, jobs (enqueue_job jobid scheduler) = jobs scheduler
  jobs_unregister_job : ∀ jobid other scheduler, other ≠ jobid →
    jobs (unregister_job jobid scheduler) other = jobs scheduler other
  jobs_remove_job : ∀ jobid scheduler,
    jobs (remove_job jobid scheduler) = Function.update (jobs scheduler) jobid none

def Scheduler.libq : Libq Scheduler where
  jobs := Scheduler.jobs
  create_job := fun jobid job scheduler => scheduler.create_job jobid job
  enqueue_job := fun jobid scheduler => scheduler.enqueue_job jobid
  unregister_job := fun _ scheduler => scheduler
  remove_job := fun jobid scheduler => scheduler.remove_job jobid
  jobs_create_job := fun _ _ _ => rfl
  jobs_enqueue_job := fun _ _ => rfl
  jobs_unregister_job := fun _ _ _ _ => rfl
  jobs_remove_job := fun _ _ => rfl

/-- The committed database, what each open transaction has written, and the scheduler. -/
structure Backend (ι σ : Type) where
  db : Database
  pending : ι → Option Database := fun _ => none
  scheduler : σ

namespace Backend

variable {ι σ : Type} [DecidableEq ι]

def write (backend : Backend ι σ) (me : ι) (db : Database) : Backend ι σ :=
  { backend with pending := Function.update backend.pending me (some db) }

def commit (backend : Backend ι σ) (me : ι) : Backend ι σ :=
  { backend with
    db := (backend.pending me).getD backend.db
    pending := Function.update backend.pending me none }

def rollback (backend : Backend ι σ) (me : ι) : Backend ι σ :=
  { backend with pending := Function.update backend.pending me none }

end Backend

namespace WorkflowTransactions

open Workflows

variable {ι σ : Type} [DecidableEq ι]

abbrev Task (ι σ α : Type) := Fallible Exn (Backend ι σ) α

section Actions

variable (libq : Libq σ) (me : ι)

/-- `workflows_mg.register`. The handlers look at what it raises, so that is a result here. -/
def register (env : Env) (projectid : String) (wfd : WorkflowDataWeb) (update : Bool := false) :
    Task ι σ (Except Exn (Option String)) :=
  Fallible.call fun backend =>
    match WorkflowsMg.register env backend.db projectid wfd update with
    | .ok (wfid, db) => (.ok (.ok wfid), backend.write me db)
    | .error failure => (.ok (.error failure), backend)

def delete_wf (projectid wfid : String) : Task ι σ Unit :=
  Fallible.call fun backend => (.ok (), backend.write me (WorkflowsMg.delete_wf backend.db projectid wfid))

def commit : Task ι σ Unit := Fallible.call fun backend => (.ok (), backend.commit me)

def scheduler (effect : σ → σ) : Task ι σ Unit :=
  Fallible.call fun backend => (.ok (), { backend with scheduler := effect backend.scheduler })

/-- `create_task_ctx`; without a runtime in the task there is nothing to look up. -/
def create_task_ctx (env : Env) (projectid : String) (task : NBTask) : Task ι σ ExecutionNBTask :=
  let execid := ExecID env.execid none
  if truthy task.runtime then
    Fallible.call fun backend =>
      let runtime := RuntimesMg.get_runtime backend.db projectid (pyOr task.runtime "") task.version
      (.ok (Notebooks.create_notebook_ctx env projectid task (some execid) runtime), backend)
  else return Notebooks.create_notebook_ctx env projectid task (some execid) none

def jobOf (task : NBTask) (wfid : String) (schedule : ScheduleData) (ctx : ExecutionNBTask) : Job :=
  { func := "labfunctions.control.tasks.workflow_dispatcher"
    queue := task.cluster ++ "." ++ task.machine
    data := { ctx with wfid := wfid }
    interval := schedule.interval
    cron := schedule.cron
    repeat_ := schedule.repeat_
    background := true }

def register_workflow (env : Env) (projectid : String) (wd : WorkflowDataWeb) (wfid : String)
    (schedule : ScheduleData) : Task ι σ Unit := do
  let ctx ← create_task_ctx env projectid wd.nbtask
  scheduler (libq.create_job wfid (jobOf wd.nbtask wfid schedule ctx))
  scheduler (libq.enqueue_job wfid)

def unregister_workflow (wfid : String) : Task ι σ Unit := do
  scheduler (libq.unregister_job wfid)
  scheduler (libq.remove_job wfid)

/-- The block `if wfd.schedule:` of both write handlers. -/
def scheduleRegistered (env : Env) (projectid : String) (wfd : WorkflowDataWeb) : Task ι σ Unit :=
  match wfd.wfid, wfd.schedule with
  | some wfid, some schedule => register_workflow libq env projectid wfd wfid schedule
  | _, _ => return ()

def workflow_create (env : Env) (projectid : String) (body : Option WorkflowDataWeb) :
    Task ι σ Response :=
  match body with
  | none => return ⟨400, .msg "wrong params"⟩
  | some wfd => do
      match ← register me env projectid wfd with
      | .ok wfid => do
          scheduleRegistered libq env projectid { wfd with wfid := wfid }
          commit me
          return ⟨201, .wfid wfid⟩
      -- the session has been rolled back, so there is nothing to commit
      | .error (.workflowRegisterError _ _) => return ⟨200, .msg "workflow already exist"⟩
      | .error failure => throw failure

def workflow_update (env : Env) (projectid : String) (body : Option WorkflowDataWeb) :
    Task ι σ Response :=
  match body with
  | none => return ⟨400, .msg "wrong params"⟩
  | some wfd =>
      if truthy wfd.wfid then do
        match ← register me env projectid wfd true with
        | .ok wfid => do
            scheduleRegistered libq env projectid wfd
            commit me
            return ⟨201, .wfid wfid⟩
        | .error (.workflowRegisterError project alias_) => do
            commit me
            return ⟨503, .msg ("Error registering " ++ alias_ ++ " for project " ++ project)⟩
        | .error failure => throw failure
      else return ⟨400, .msg "wrong params"⟩

def workflow_delete (projectid wfid : String) : Task ι σ Response := do
  unregister_workflow libq wfid
  delete_wf me projectid wfid
  commit me
  return ⟨200, .msg "done"⟩

end Actions

/-- A handler inside `session.begin()`, when the action after the given number of them fails: what
it has written is rolled back. With no such action left it answers. -/
def answered (me : ι) (task : Task ι σ Response) (actions : Nat) (backend : Backend ι σ) :
    Response × Backend ι σ :=
  match task.upTo actions backend with
  | (some (.ok response), later) => (response, later)
  | (_, later) => (failed, later.rollback me)

@[simp] theorem answered_return (me : ι) (response : Response) (actions : Nat) (backend : Backend ι σ) :
    answered me (pure response) actions backend = (response, backend) := by
  simp [answered]

theorem register_update_error {env : Env} {projectid : String} {wfd : WorkflowDataWeb}
    {db : Database} {failure : Exn}
    (refused : WorkflowsMg.register env db projectid wfd true = .error failure) :
    failure = .integrityError ∨ failure = .dataError := by
  simp only [WorkflowsMg.register, if_true] at refused
  split at refused
  · simp at refused
  · obtain rfl := Except.error.inj refused
    unfold WorkflowsMg.refusal
    split
    · exact .inl rfl
    · exact .inr rfl

/-! The handlers as chains of actions. -/

section Chains

variable (libq : Libq σ) (me : ι) (env : Env) (projectid : String) (wfd : WorkflowDataWeb)

def lookups : Nat := if truthy wfd.nbtask.runtime then 1 else 0

/-- The actions between the row and the commit. -/
def scheduling : Nat := if wfd.schedule.isSome then lookups wfd + 2 else 0

/-- The scheduler after some of the two calls of `register_workflow`. -/
def registering (wfid : String) (job : Job) (calls : Nat) (scheduler : σ) : σ :=
  match calls with
  | 0 => scheduler
  | 1 => libq.create_job wfid job scheduler
  | _ => libq.enqueue_job wfid (libq.create_job wfid job scheduler)

/-- The scheduler after some of the actions between the row and the commit. -/
def scheduled (db : Database) (wfid : String) (actions : Nat) (scheduler : σ) : σ :=
  match wfd.schedule with
  | some schedule =>
      registering libq wfid (JobManager.workflowJob env db projectid wfid wfd.nbtask schedule)
        (actions - lookups wfd) scheduler
  | none => scheduler

/-- The scheduler after some of the calls of `unregister_workflow`. -/
def unregistering (wfid : String) (calls : Nat) (scheduler : σ) : σ :=
  match calls with
  | 0 => scheduler
  | 1 => libq.unregister_job wfid scheduler
  | _ => libq.remove_job wfid (libq.unregister_job wfid scheduler)

theorem upTo_registering (wfid : String) (job : Job) (response : Response) (actions : Nat)
    (backend : Backend ι σ) :
    (do
      scheduler (libq.create_job wfid job)
      scheduler (libq.enqueue_job wfid)
      commit me
      return response : Task ι σ Response).upTo actions backend =
      if 3 ≤ actions then
        (some (.ok response),
          { backend with scheduler := registering libq wfid job 2 backend.scheduler }.commit me)
      else
        (none, { backend with scheduler := registering libq wfid job actions backend.scheduler }) := by
  unfold scheduler commit
  rcases actions with _ | _ | _ | actions
  · rfl
  · simp [registering]
  · simp [registering]
  · simp [registering]

theorem upTo_scheduled {wfid : String} (named : wfd.wfid = some wfid) (response : Response)
    (actions : Nat) (backend : Backend ι σ) :
    (do
      scheduleRegistered libq env projectid wfd
      commit me
      return response : Task ι σ Response).upTo actions backend =
      if scheduling wfd < actions then
        (some (.ok response), { backend with
          scheduler := scheduled libq env projectid wfd backend.db wfid (scheduling wfd)
            backend.scheduler }.commit me)
      else
        (none, { backend with
          scheduler := scheduled libq env projectid wfd backend.db wfid actions
            backend.scheduler }) := by
  cases present : wfd.schedule with
  | none =>
      unfold commit
      cases actions <;> simp [scheduleRegistered, named, present, scheduling, scheduled]
  | some schedule =>
      simp only [scheduleRegistered, named, present, register_workflow, Fallible.bind_assoc,
        create_task_ctx, scheduling, scheduled, lookups, Option.isSome_some, if_true]
      by_cases looks : truthy wfd.nbtask.runtime = true
      · have same : JobManager.workflowJob env backend.db projectid wfid wfd.nbtask schedule =
            jobOf wfd.nbtask wfid schedule (Notebooks.create_notebook_ctx env projectid wfd.nbtask
              (some (ExecID env.execid none)) (RuntimesMg.get_runtime backend.db projectid
                (pyOr wfd.nbtask.runtime "") wfd.nbtask.version)) := by
          simp only [JobManager.workflowJob, LabFunctions.create_task_ctx, looks, if_true]
          rfl
        simp only [looks, if_true]
        cases actions with
        | zero => simp [registering]
        | succ actions =>
            have through : 1 + 2 < actions + 1 ↔ 3 ≤ actions := by omega
            rw [Fallible.upTo_succ_call_bind]
            simp only [← same, upTo_registering, through, Nat.add_sub_cancel, Nat.add_sub_cancel_left]
      · have same : JobManager.workflowJob env backend.db projectid wfid wfd.nbtask schedule =
            jobOf wfd.nbtask wfid schedule (Notebooks.create_notebook_ctx env projectid wfd.nbtask
              (some (ExecID env.execid none)) none) := by
          simp only [JobManager.workflowJob, LabFunctions.create_task_ctx, looks]
          rfl
        simp only [looks, Bool.false_eq_true, if_false, Fallible.return_bind, ← same,
          upTo_registering]
        simp [Nat.succ_le_iff]

variable {backend : Backend ι σ} (clear : backend.pending me = none)

include clear

theorem commit_write (db : Database) (scheduler : σ) :
    { backend.write me db with scheduler := scheduler }.commit me =
      { backend with db := db, scheduler := scheduler } := by
  simp [Backend.commit, Backend.write, ← clear]

theorem rollback_write (db : Database) (scheduler : σ) :
    { backend.write me db with scheduler := scheduler }.rollback me =
      { backend with scheduler := scheduler } := by
  simp [Backend.rollback, Backend.write, ← clear]

theorem rollback_clear (scheduler : σ) :
    { backend with scheduler := scheduler }.rollback me = { backend with scheduler := scheduler } := by
  simp [Backend.rollback, ← clear]

theorem answered_delete (wfid : String) (actions : Nat) :
    answered me (workflow_delete libq me projectid wfid) actions backend =
      if 4 ≤ actions then
        (⟨200, .msg "done"⟩, { backend with
          db := WorkflowsMg.delete_wf backend.db projectid wfid
          scheduler := unregistering libq wfid 2 backend.scheduler })
      else
        (failed, { backend with scheduler := unregistering libq wfid actions backend.scheduler }) := by
  unfold answered workflow_delete unregister_workflow delete_wf commit
  rw [Fallible.bind_assoc]
  unfold scheduler
  rcases actions with _ | _ | _ | _ | actions
  · simp [unregistering, rollback_clear me clear]
  · simp [unregistering, rollback_clear me clear]
  · simp [unregistering, rollback_clear me clear]
  · simp [unregistering, Backend.rollback, Backend.write, ← clear]
  · simp [unregistering, Backend.commit, Backend.write, ← clear]

theorem answered_registered {task : Except Exn (Option String) → Task ι σ Response} {update : Bool}
    {db : Database} {wfid : String} {named : WorkflowDataWeb} {response : Response}
    (registered : WorkflowsMg.register env backend.db projectid wfd update = .ok (some wfid, db))
    (name : named.wfid = some wfid)
    (rest : task (.ok (some wfid)) = do
      scheduleRegistered libq env projectid named
      commit me
      return response) (actions : Nat) :
    answered me (register me env projectid wfd update >>= task) actions backend =
      if scheduling named + 1 < actions then
        (response, { backend with
          db := db
          scheduler := scheduled libq env projectid named backend.db wfid (scheduling named)
            backend.scheduler })
      else
        (failed, { backend with
          scheduler := scheduled libq env projectid named backend.db wfid (actions - 1)
            backend.scheduler }) := by
  have start : scheduled libq env projectid named backend.db wfid 0 backend.scheduler =
      backend.scheduler := by
    unfold scheduled
    split <;> simp [registering]
  unfold answered register
  cases actions with
  | zero => simp [start, rollback_clear me clear]
  | succ actions =>
      rw [Fallible.upTo_succ_call_bind]
      simp only [registered, rest, upTo_scheduled libq me env projectid named name,
        Nat.add_lt_add_iff_right, Nat.add_sub_cancel]
      by_cases through : scheduling named < actions
      · simp only [through, if_true]
        exact congrArg _ (commit_write me clear db _)
      · simp only [through, if_false]
        exact congrArg _ (rollback_write me clear db _)

theorem answered_refused {task : Except Exn (Option String) → Task ι σ Response} {update : Bool}
    {failure : Exn} (refused : WorkflowsMg.register env backend.db projectid wfd update = .error failure)
    (answer : Response × Backend ι σ)
    (rest : ∀ actions, answered me (task (.error failure)) actions backend = answer) (actions : Nat) :
    answered me (register me env projectid wfd update >>= task) actions backend =
      if actions = 0 then (failed, backend) else answer := by
  cases actions with
  | zero =>
      have back := rollback_clear me clear backend.scheduler
      simpa [answered, register] using back
  | succ actions =>
      rw [if_neg (Nat.succ_ne_zero actions), ← rest actions]
      unfold answered register
      rw [Fallible.upTo_succ_call_bind]
      simp only [refused]

theorem answered_create {db : Database} {wfid : String}
    (registered : WorkflowsMg.register env backend.db projectid wfd = .ok (some wfid, db))
    (actions : Nat) :
    answered me (workflow_create libq me env projectid (some wfd)) actions backend =
      if scheduling wfd + 1 < actions then
        (⟨201, .wfid (some wfid)⟩, { backend with
          db := db
          scheduler := scheduled libq env projectid wfd backend.db wfid (scheduling wfd)
            backend.scheduler })
      else
        (failed, { backend with
          scheduler := scheduled libq env projectid wfd backend.db wfid (actions - 1)
            backend.scheduler }) :=
  have named : ({ wfd with wfid := some wfid } : WorkflowDataWeb).wfid = some wfid := rfl
  answered_registered libq me env projectid wfd clear registered named rfl actions

theorem answered_raised {task : Except Exn (Option String) → Task ι σ Response} {update : Bool}
    {failure : Exn} (refused : WorkflowsMg.register env backend.db projectid wfd update = .error failure)
    (rest : task (.error failure) = throw failure) (actions : Nat) :
    answered me (register me env projectid wfd update >>= task) actions backend =
      (failed, backend) := by
  refine (answered_refused me env projectid wfd clear refused (failed, backend) ?_
    actions).trans (by split <;> rfl)
  intro left
  have back := rollback_clear me clear backend.scheduler
  simpa [answered, rest] using back

def refusedWith : Exn → Response
  | .workflowRegisterError _ _ => ⟨200, .msg "workflow already exist"⟩
  | _ => failed

theorem answered_create_refused {failure : Exn}
    (refused : WorkflowsMg.register env backend.db projectid wfd = .error failure) (actions : Nat) :
    answered me (workflow_create libq me env projectid (some wfd)) actions backend =
      (if actions = 0 then failed else refusedWith failure, backend) := by
  by_cases refusal : ∃ project alias_, failure = .workflowRegisterError project alias_
  · obtain ⟨project, alias_, rfl⟩ := refusal
    refine (answered_refused me env projectid wfd clear refused
      (⟨200, .msg "workflow already exist"⟩, backend) ?_ actions).trans ?_
    · intro left
      exact answered_return me _ left backend
    · split <;> rfl
  · have raises : refusedWith failure = failed := by
      unfold refusedWith
      split
      · exact absurd ⟨_, _, rfl⟩ refusal
      · rfl
    rw [raises, ite_self]
    refine answered_raised me env projectid wfd clear refused ?_ actions
    cases failure with
    | workflowRegisterError project alias_ => exact absurd ⟨project, alias_, rfl⟩ refusal
    | _ => rfl

theorem answered_update {db : Database} {wfid : String} (named : wfd.wfid = some wfid)
    (valid : truthy wfd.wfid = true)
    (registered : WorkflowsMg.register env backend.db projectid wfd true = .ok (some wfid, db))
    (actions : Nat) :
    answered me (workflow_update libq me env projectid (some wfd)) actions backend =
      if scheduling wfd + 1 < actions then
        (⟨201, .wfid (some wfid)⟩, { backend with
          db := db
          scheduler := scheduled libq env projectid wfd backend.db wfid (scheduling wfd)
            backend.scheduler })
      else
        (failed, { backend with
          scheduler := scheduled libq env projectid wfd backend.db wfid (actions - 1)
            backend.scheduler }) := by
  simp only [workflow_update, valid, if_true]
  exact answered_registered libq me env projectid wfd clear registered named rfl actions

theorem answered_update_refused {failure : Exn} (valid : truthy wfd.wfid = true)
    (refused : WorkflowsMg.register env backend.db projectid wfd true = .error failure)
    (actions : Nat) :
    answered me (workflow_update libq me env projectid (some wfd)) actions backend =
      (failed, backend) := by
  simp only [workflow_update, valid, if_true]
  refine answered_raised me env projectid wfd clear refused ?_ actions
  rcases register_update_error refused with rfl | rfl
  · rfl
  · rfl

end Chains

inductive Write where
  | workflow_create (projectid : String) (body : Option WorkflowDataWeb)
  | workflow_update (projectid : String) (body : Option WorkflowDataWeb)
  | workflow_delete (projectid wfid : String)

def Write.request : Write → Request
  | .workflow_create projectid body => .workflow_create projectid body
  | .workflow_update projectid body => .workflow_update projectid body
  | .workflow_delete projectid wfid => .workflow_delete projectid wfid

def handler (libq : Libq σ) (me : ι) (env : Env) : Write → Task ι σ Response
  | .workflow_create projectid body => workflow_create libq me env projectid body
  | .workflow_update projectid body => workflow_update libq me env projectid body
  | .workflow_delete projectid wfid => workflow_delete libq me projectid wfid

theorem workflowJob_congr {db other : Database} (same : other.runtimes = db.runtimes) (env : Env)
    (projectid wfid : String) (task : NBTask) (schedule : ScheduleData) :
    JobManager.workflowJob env other projectid wfid task schedule =
      JobManager.workflowJob env db projectid wfid task schedule := by
  simp only [JobManager.workflowJob, LabFunctions.create_task_ctx, RuntimesMg.get_runtime, same]

theorem scheduled_all {db other : Database} (same : other.runtimes = db.runtimes) (env : Env)
    (projectid : String) {wfid : String} {wfd : WorkflowDataWeb} (named : wfd.wfid = some wfid)
    (server : Server) :
    (Workflows.scheduleRegistered env { server with db := other } projectid wfd).scheduler =
      scheduled Scheduler.libq env projectid wfd db wfid (scheduling wfd) server.scheduler := by
  cases present : wfd.schedule with
  | none => rw [Workflows.scheduleRegistered_absent _ _ _ _ present, scheduled, present]
  | some schedule =>
      rw [Workflows.scheduleRegistered_present _ _ _ _ named present, scheduled, present]
      simp only [scheduling, present, Option.isSome_some, if_true, Nat.add_sub_cancel_left,
        registering, JobManager.register_workflow, workflowJob_congr same]
      rfl

def Server.backend (server : Server) : Backend Unit Scheduler :=
  { db := server.db, scheduler := server.scheduler }

section Whole

variable (env : Env) (server : Server) (projectid : String)

theorem create_eq_handle (body : Option WorkflowDataWeb) :
    ∃ enough, ∀ actions, enough ≤ actions →
      answered () (workflow_create Scheduler.libq () env projectid body) actions (Server.backend server) =
        ((Workflows.workflow_create env server projectid body).1,
          Server.backend (Workflows.workflow_create env server projectid body).2) := by
  cases body with
  | none => exact ⟨0, fun actions _ => by simp [workflow_create, Workflows.workflow_create]⟩
  | some wfd =>
      refine ⟨scheduling wfd + 2, ?_⟩
      intro actions enough
      cases registered : WorkflowsMg.register env server.db projectid wfd with
      | ok result =>
          obtain ⟨wfid, db⟩ := result
          obtain ⟨rfl, same, _⟩ := WorkflowsMg.register_insert_ok registered
          have named : ({ wfd with wfid := some env.wfid.text } : WorkflowDataWeb).wfid =
              some env.wfid.text := rfl
          have jobs := scheduled_all (congrArg Database.runtimes same) env projectid named server
          have through : scheduling wfd + 1 < actions := by omega
          rw [answered_create _ _ _ _ _ rfl registered, if_pos through]
          simp only [Workflows.workflow_create, registered, Server.backend, jobs,
            Workflows.scheduleRegistered_db]
          rfl
      | error failure =>
          have some : actions ≠ 0 := by omega
          rw [answered_create_refused _ _ _ _ _ rfl registered, if_neg some]
          simp only [Workflows.workflow_create, registered]
          cases failure <;> rfl

theorem update_eq_handle (body : Option WorkflowDataWeb) :
    ∃ enough, ∀ actions, enough ≤ actions →
      answered () (workflow_update Scheduler.libq () env projectid body) actions (Server.backend server) =
        ((Workflows.workflow_update env server projectid body).1,
          Server.backend (Workflows.workflow_update env server projectid body).2) := by
  cases body with
  | none => exact ⟨0, fun actions _ => by simp [workflow_update, Workflows.workflow_update]⟩
  | some wfd =>
      by_cases valid : truthy wfd.wfid = true
      · refine ⟨scheduling wfd + 2, ?_⟩
        intro actions enough
        cases registered : WorkflowsMg.register env server.db projectid wfd true with
        | ok result =>
            obtain ⟨wfid, db⟩ := result
            obtain ⟨rfl, same, _⟩ := WorkflowsMg.register_update_ok registered
            obtain ⟨wfid, named, _⟩ := truthy_iff.mp valid
            have jobs := scheduled_all (congrArg Database.runtimes same) env projectid named server
            have through : scheduling wfd + 1 < actions := by omega
            rw [named] at registered
            rw [answered_update _ _ _ _ _ rfl named valid registered, if_pos through]
            simp only [Workflows.workflow_update, valid, if_true, registered, Server.backend, jobs,
              Workflows.scheduleRegistered_db]
            rfl
        | error failure =>
            rw [answered_update_refused _ _ _ _ _ rfl valid registered]
            simp only [Workflows.workflow_update, valid, if_true, registered]
            rcases register_update_error registered with rfl | rfl
            · rfl
            · rfl
      · refine ⟨0, ?_⟩
        intro actions _
        simp [workflow_update, Workflows.workflow_update, valid]

end Whole

/-- With no failure the actions of a handler amount to one step of the server. -/
theorem answered_eq_handle (env : Env) (server : Server) (write : Write) :
    ∃ enough, ∀ actions, enough ≤ actions →
      answered () (handler Scheduler.libq () env write) actions (Server.backend server) =
        ((handle server (env, write.request)).1,
          Server.backend (handle server (env, write.request)).2) := by
  cases write with
  | workflow_create projectid body => exact create_eq_handle env server projectid body
  | workflow_update projectid body => exact update_eq_handle env server projectid body
  | workflow_delete projectid wfid =>
      refine ⟨4, ?_⟩
      intro actions enough
      rw [handler, answered_delete _ _ _ rfl, if_pos enough]
      rfl

end WorkflowTransactions

end LabFunctions
