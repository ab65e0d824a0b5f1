import Mathlib.Logic.Function.Basic
import LabFunctions.Managers

/-!
`labfunctions.control`: the periodic jobs of `JobManager`, the queues of
`SchedulerExec`, and the dispatchers that hand an execution to `docker_exec`.
-/

namespace LabFunctions

structure Job where
  func : String
  queue : String
  data : ExecutionNBTask
  interval : Option String
  cron : Option String
  repeat_ : Option Int
  background : Bool

structure QueueEntry where
  queue : String
  func : String
  execid : String
  timeout : Int
  data : ExecutionNBTask
  background : Bool

structure Scheduler where
  jobs : String → Option Job := fun _ => none
  enqueued : List String := []

namespace Scheduler

def create_job (scheduler : Scheduler) (jobid : String) (job : Job) : Scheduler :=
  { scheduler with jobs := Function.update scheduler.jobs jobid (some job) }

def enqueue_job (scheduler : Scheduler) (jobid : String) : Scheduler :=
  { scheduler with enqueued := scheduler.enqueued ++ [jobid] }

def remove_job (scheduler : Scheduler) (jobid : String) : Scheduler :=
  { scheduler with jobs := Function.update scheduler.jobs jobid none }

end Scheduler

def create_task_ctx (env : Env) (db : Database) (projectid : String) (task : NBTask)
    (pre : Option String := none) : ExecutionNBTask :=
  let execid := ExecID env.execid pre
  -- a runtime that is not found is from here on the same as none asked for
  let runtime :=
    if truthy task.runtime then
      RuntimesMg.get_runtime db projectid (pyOr task.runtime "") task.version
    else none
  Notebooks.create_notebook_ctx env projectid task (some execid) runtime

namespace JobManager

def workflowJob (env : Env) (db : Database) (projectid wfid : String) (task : NBTask)
    (schedule : ScheduleData) : Job :=
  { func := "labfunctions.control.tasks.workflow_dispatcher"
    queue := task.cluster ++ "." ++ task.machine
    data := { create_task_ctx env db projectid task with wfid := wfid }
    interval := schedule.interval
    cron := schedule.cron
    repeat_ := schedule.repeat_
    background := true }

/-- `register_workflow`. Both callers have set `wd.wfid` and checked `wd.schedule`, so the
two values are passed on their own. -/
def register_workflow (env : Env) (db : Database) (scheduler : Scheduler) (projectid : String)
    (wd : WorkflowDataWeb) (wfid : String) (schedule : ScheduleData) : Scheduler :=
  (scheduler.create_job wfid (workflowJob env db projectid wfid wd.nbtask schedule)).enqueue_job wfid

def unregister_workflow (scheduler : Scheduler) (wfid : String) (remove_job : Bool := true) :
    Scheduler :=
  if remove_job then scheduler.remove_job wfid else scheduler

end JobManager

namespace SchedulerExec

def notebookEntry (task : NBTask) (ctx : ExecutionNBTask) : QueueEntry :=
  { queue := ctx.cluster ++ "." ++ ctx.machine
    func := "labfunctions.control.tasks.notebook_dispatcher"
    execid := ctx.execid
    timeout := task.timeout
    data := ctx
    background := true }

def enqueue_notebook (env : Env) (db : Database) (queues : List QueueEntry) (projectid : String)
    (task : NBTask) (pre : Option String := none) : ExecutionNBTask × List QueueEntry :=
  let ctx := create_task_ctx env db projectid task pre
  (ctx, queues ++ [notebookEntry task ctx])

def enqueue_workflow (env : Env) (db : Database) (queues : List QueueEntry)
    (projectid wfid : String) : Except Exn (Option ExecutionNBTask × List QueueEntry) := do
  let wd ← WorkflowsMg.get_by_wfid_prj db projectid wfid
  match wd with
  | some wd =>
      if wd.enabled then
        let (ctx, queues) := enqueue_notebook env db queues projectid wd.nbtask
        return (some ctx, queues)
      else return (none, queues)
  | none => return (none, queues)

end SchedulerExec

namespace Tasks

def notebook_dispatcher (data : ExecutionNBTask) : ExecutionNBTask := data

/-- `workflow_dispatcher`, up to the same call. Every firing starts from the stored data. -/
def workflow_dispatcher (env : Env) (data : ExecutionNBTask) : ExecutionNBTask :=
  let now := env.now.isoformat
  notebook_dispatcher
    { data with
      execid := ExecID env.execid none
      today := today_string env.today
      params := Dict.set data.params "NOW" (.str now)
      created_at := now }

end Tasks

/-! Which part of the state each operation touches. -/

namespace Scheduler

theorem create_job_jobs (scheduler : Scheduler) (jobid other : String) (job : Job) :
    (scheduler.create_job jobid job).jobs other =
      if other = jobid then some job else scheduler.jobs other := by
  simp [create_job, Function.update_apply]

theorem remove_job_jobs (scheduler : Scheduler) (jobid other : String) :
    (scheduler.remove_job jobid).jobs other =
      if other = jobid then none else scheduler.jobs other := by
  simp [remove_job, Function.update_apply]

@[simp] theorem enqueue_job_jobs (scheduler : Scheduler) (jobid : String) :
    (scheduler.enqueue_job jobid).jobs = scheduler.jobs := rfl

end Scheduler

namespace JobManager

theorem register_workflow_jobs (env : Env) (db : Database) (scheduler : Scheduler)
    (projectid : String) (wd : WorkflowDataWeb) (wfid other : String) (schedule : ScheduleData) :
    (register_workflow env db scheduler projectid wd wfid schedule).jobs other =
      if other = wfid then some (workflowJob env db projectid wfid wd.nbtask schedule)
      else scheduler.jobs other := by
  simp [register_workflow, Scheduler.create_job_jobs]

theorem register_workflow_enqueued (env : Env) (db : Database) (scheduler : Scheduler)
    (projectid : String) (wd : WorkflowDataWeb) (wfid : String) (schedule : ScheduleData) :
    (register_workflow env db scheduler projectid wd wfid schedule).enqueued =
      scheduler.enqueued ++ [wfid] := rfl

theorem unregister_workflow_jobs (scheduler : Scheduler) (wfid other : String) :
    (unregister_workflow scheduler wfid).jobs other =
      if other = wfid then none else scheduler.jobs other := by
  simp [unregister_workflow, Scheduler.remove_job_jobs]

end JobManager

namespace SchedulerExec

theorem enqueue_workflow_ok {env : Env} {db : Database} {queues next : List QueueEntry}
    {projectid wfid : String} {ctx : Option ExecutionNBTask}
    (enqueued : enqueue_workflow env db queues projectid wfid = .ok (ctx, next)) :
    (ctx = none ∧ next = queues) ∨
      ∃ wd, WorkflowsMg.get_by_wfid_prj db projectid wfid = .ok (some wd) ∧ wd.enabled = true ∧
        ctx = some (create_task_ctx env db projectid wd.nbtask) ∧
        next = queues ++ [notebookEntry wd.nbtask (create_task_ctx env db projectid wd.nbtask)] := by
  unfold enqueue_workflow at enqueued
  cases found : WorkflowsMg.get_by_wfid_prj db projectid wfid with
  | error failure => simp [found, bind, Except.bind] at enqueued
  | ok stored =>
      simp only [found, bind, Except.bind] at enqueued
      cases stored with
      | none =>
          simp only [pure, Except.pure, Except.ok.injEq, Prod.mk.injEq] at enqueued
          exact Or.inl ⟨enqueued.1.symm, enqueued.2.symm⟩
      | some wd =>
          simp only at enqueued
          split at enqueued
          · rename_i enabled
            simp only [enqueue_notebook, pure, Except.pure, Except.ok.injEq,
              Prod.mk.injEq] at enqueued
            exact Or.inr ⟨wd, rfl, enabled, enqueued.1.symm, enqueued.2.symm⟩
          · simp only [pure, Except.pure, Except.ok.injEq, Prod.mk.injEq] at enqueued
            exact Or.inl ⟨enqueued.1.symm, enqueued.2.symm⟩

end SchedulerExec

end LabFunctions
