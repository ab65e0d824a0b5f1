import LabFunctions.Control
import LabFunctions.Library.Runs

/-!
The workflow handlers of `labfunctions.web.workflows_bp` as one state machine over
the database and the scheduler. A request carries what its handler reads from outside.
-/

namespace LabFunctions

structure Server where
  db : Database
  scheduler : Scheduler := {}
  queues : List QueueEntry := []

inductive Body where
  | msg (text : String)
  | wfid (wfid : Option String)
  | ctx (ctx : ExecutionNBTask)

structure Response where
  status : Nat
  body : Body

namespace Workflows

/-- A body that the pydantic model rejects is `none`. -/
inductive Request where
  | workflow_create (projectid : String) (body : Option WorkflowDataWeb)
  | workflow_update (projectid : String) (body : Option WorkflowDataWeb)
  | workflow_delete (projectid wfid : String)
  | workflow_enqueue (projectid wfid : String)

def Request.projectid : Request → String
  | .workflow_create projectid _ => projectid
  | .workflow_update projectid _ => projectid
  | .workflow_delete projectid _ => projectid
  | .workflow_enqueue projectid _ => projectid

def failed : Response := ⟨500, .msg "Internal Server Error"⟩

/-- The block `if wfd.schedule:` of both write handlers. -/
def scheduleRegistered (env : Env) (server : Server) (projectid : String)
    (wfd : WorkflowDataWeb) : Server :=
  match wfd.wfid, wfd.schedule with
  | some wfid, some schedule =>
      { server with
        scheduler := JobManager.register_workflow env server.db server.scheduler projectid wfd wfid
          schedule }
  | _, _ => server

def workflow_create (env : Env) (server : Server) (projectid : String)
    (body : Option WorkflowDataWeb) : Response × Server :=
  match body with
  | none => (⟨400, .msg "wrong params"⟩, server)
  | some wfd =>
      match WorkflowsMg.register env server.db projectid wfd with
      | .ok (wfid, db) =>
          (⟨201, .wfid wfid⟩,
            scheduleRegistered env { server with db := db } projectid { wfd with wfid := wfid })
      | .error (.workflowRegisterError _ _) => (⟨200, .msg "workflow already exist"⟩, server)
      | .error _ => (failed, server)

def workflow_update (env : Env) (server : Server) (projectid : String)
    (body : Option WorkflowDataWeb) : Response × Server :=
  match body with
  | none => (⟨400, .msg "wrong params"⟩, server)
  | some wfd =>
      if truthy wfd.wfid then
        match WorkflowsMg.register env server.db projectid wfd true with
        | .ok (wfid, db) =>
            (⟨201, .wfid wfid⟩, scheduleRegistered env { server with db := db } projectid wfd)
        | .error (.workflowRegisterError project alias_) =>
            (⟨503, .msg ("Error registering " ++ alias_ ++ " for project " ++ project)⟩, server)
        | .error _ => (failed, server)
      else (⟨400, .msg "wrong params"⟩, server)

def workflow_delete (server : Server) (projectid wfid : String) : Response × Server :=
  (⟨200, .msg "done"⟩,
    { server with
      scheduler := JobManager.unregister_workflow server.scheduler wfid
      db := WorkflowsMg.delete_wf server.db projectid wfid })

def workflow_enqueue (env : Env) (server : Server) (projectid wfid : String) : Response × Server :=
  match SchedulerExec.enqueue_workflow env server.db server.queues projectid wfid with
  | .ok (some ctx, queues) => (⟨202, .ctx ctx⟩, { server with queues := queues })
  | .ok (none, queues) =>
      (⟨404, .msg (wfid ++ " not found for pid " ++ projectid)⟩, { server with queues := queues })
  | .error _ => (failed, server)

def handle (server : Server) (call : Env × Request) : Response × Server :=
  match call.2 with
  | .workflow_create projectid body => workflow_create call.1 server projectid body
  | .workflow_update projectid body => workflow_update call.1 server projectid body
  | .workflow_delete projectid wfid => workflow_delete server projectid wfid
  | .workflow_enqueue projectid wfid => workflow_enqueue call.1 server projectid wfid

def step (server : Server) (call : Env × Request) : Server := (handle server call).2

/-! What each write path does, in terms of the state before. -/

def Inserts (env : Env) (db : Database) (projectid : String) (wfd : WorkflowDataWeb) : Prop :=
  db.hasProject projectid = true ∧
    WorkflowModel.Accepted (db.workflows.rows ++ [WorkflowsMg.newRow env projectid wfd])

def rewritten (env : Env) (wfd : WorkflowDataWeb) (row : WorkflowModel) : WorkflowModel :=
  if some row.wfid == wfd.wfid then WorkflowsMg.updatedRow wfd env.now row else row

def Updates (env : Env) (db : Database) (wfd : WorkflowDataWeb) : Prop :=
  truthy wfd.wfid = true ∧ WorkflowModel.Accepted (db.workflows.rows.map (rewritten env wfd))

instance (env : Env) (db : Database) (projectid : String) (wfd : WorkflowDataWeb) :
    Decidable (Inserts env db projectid wfd) := inferInstanceAs (Decidable (_ ∧ _))

instance (env : Env) (db : Database) (wfd : WorkflowDataWeb) : Decidable (Updates env db wfd) :=
  inferInstanceAs (Decidable (_ ∧ _))

theorem register_insert_iff (env : Env) (db : Database) (projectid : String)
    (wfd : WorkflowDataWeb) :
    (∃ result, WorkflowsMg.register env db projectid wfd = .ok result) ↔
      Inserts env db projectid wfd := by
  simp only [WorkflowsMg.register, WorkflowsMg.flush, Inserts, Bool.false_eq_true, if_false]
  by_cases known : db.hasProject projectid = true
  · simp only [known, if_true, true_and]
    rcases db.workflows.insert_cases (WorkflowsMg.newRow env projectid wfd) with
      ⟨refused, none⟩ | ⟨next, some, _, accepted⟩
    · simp [none, refused]
    · simp [some, accepted]
  · simp [known]

theorem register_update_iff (env : Env) (db : Database) (projectid : String)
    (wfd : WorkflowDataWeb) :
    (∃ result, WorkflowsMg.register env db projectid wfd true = .ok result) ↔
      WorkflowModel.Accepted (db.workflows.rows.map (rewritten env wfd)) := by
  simp only [WorkflowsMg.register, WorkflowsMg._update, if_true]
  rcases db.workflows.updateWhere_cases (fun row => some row.wfid == wfd.wfid)
      (WorkflowsMg.updatedRow wfd env.now) with ⟨refused, none⟩ | ⟨next, updated, _, accepted⟩
  · rw [none]
    simp only [reduceCtorEq, exists_false, false_iff]
    exact refused
  · rw [updated]
    simp only [Except.ok.injEq, exists_eq', true_iff]
    exact accepted

theorem mem_rewritten_ne {env : Env} {wfd : WorkflowDataWeb} {rows : List WorkflowModel} {wfid : String}
    (named : wfd.wfid = some wfid) {row : WorkflowModel} (different : row.wfid ≠ wfid) :
    row ∈ rows.map (rewritten env wfd) ↔ row ∈ rows := by
  have kept : ∀ other : WorkflowModel, other.wfid ≠ wfid → rewritten env wfd other = other := by
    intro other otherDifferent
    simp [rewritten, named, otherDifferent]
  have sameId : ∀ other : WorkflowModel, (rewritten env wfd other).wfid = other.wfid := by
    intro other
    unfold rewritten
    split <;> rfl
  rw [List.mem_map]
  constructor
  · rintro ⟨other, member, rfl⟩
    rw [sameId] at different
    rwa [kept other different]
  · intro member
    exact ⟨row, member, kept row different⟩

theorem mem_rewritten_named {env : Env} {wfd : WorkflowDataWeb} {rows : List WorkflowModel} {wfid : String}
    (named : wfd.wfid = some wfid) (row : WorkflowModel) (same : row.wfid = wfid) :
    row ∈ rows.map (rewritten env wfd) ↔
      ∃ old ∈ rows, old.wfid = wfid ∧ row = WorkflowsMg.updatedRow wfd env.now old := by
  rw [List.mem_map]
  constructor
  · rintro ⟨old, member, rfl⟩
    by_cases oldNamed : old.wfid = wfid
    · exact ⟨old, member, oldNamed, by simp [rewritten, named, oldNamed]⟩
    · simp [rewritten, named, oldNamed] at same
  · rintro ⟨old, member, oldNamed, rfl⟩
    exact ⟨old, member, by simp [rewritten, named, oldNamed]⟩

theorem updatedRow_mem {env : Env} {wfd : WorkflowDataWeb} {rows : List WorkflowModel}
    {wfid : String} (named : wfd.wfid = some wfid) {row : WorkflowModel} (member : row ∈ rows)
    (same : row.wfid = wfid) :
    WorkflowsMg.updatedRow wfd env.now row ∈ rows.map (rewritten env wfd) :=
  (mem_rewritten_named named (WorkflowsMg.updatedRow wfd env.now row) same).mpr
    ⟨row, member, same, rfl⟩

theorem inserted_fresh {env : Env} {server : Server} {projectid : String}
    {wfd : WorkflowDataWeb} (inserts : Inserts env server.db projectid wfd) :
    ∀ row ∈ server.db.workflows.rows, row.wfid ≠ env.wfid.text := by
  have distinct := inserts.2.1
  rw [Distinct.append_singleton_iff] at distinct
  intro row member same
  exact distinct.2 env.wfid.text rfl row member (congrArg some same)

theorem step_create {env : Env} {server : Server} {projectid : String} {wfd : WorkflowDataWeb}
    (inserts : Inserts env server.db projectid wfd) :
    ∃ db, db.workflows.rows = server.db.workflows.rows ++ [WorkflowsMg.newRow env projectid wfd] ∧
      db = { server.db with workflows := db.workflows } ∧
      step server (env, .workflow_create projectid (some wfd)) =
        scheduleRegistered env { server with db := db } projectid
          { wfd with wfid := some env.wfid.text } := by
  obtain ⟨⟨wfid, db⟩, registered⟩ := (register_insert_iff env server.db projectid wfd).mpr inserts
  obtain ⟨rfl, same, rows⟩ := WorkflowsMg.register_insert_ok registered
  refine ⟨db, rows, same, ?_⟩
  simp [step, handle, workflow_create, registered]

theorem step_create_refused {env : Env} {server : Server} {projectid : String}
    {wfd : WorkflowDataWeb} (refused : ¬Inserts env server.db projectid wfd) :
    step server (env, .workflow_create projectid (some wfd)) = server := by
  cases registered : WorkflowsMg.register env server.db projectid wfd with
  | ok result =>
      exact absurd ((register_insert_iff env server.db projectid wfd).mp ⟨result, registered⟩) refused
  | error failure =>
      simp only [step, handle, workflow_create, registered]
      split <;> rename_i outcome <;> simp_all

theorem step_update {env : Env} {server : Server} {projectid : String} {wfd : WorkflowDataWeb}
    (updates : Updates env server.db wfd) :
    ∃ db, db.workflows.rows = server.db.workflows.rows.map (rewritten env wfd) ∧
      db = { server.db with workflows := db.workflows } ∧
      step server (env, .workflow_update projectid (some wfd)) =
        scheduleRegistered env { server with db := db } projectid wfd := by
  obtain ⟨named, accepted⟩ := updates
  obtain ⟨⟨wfid, db⟩, registered⟩ := (register_update_iff env server.db projectid wfd).mpr accepted
  obtain ⟨_, same, rows⟩ := WorkflowsMg.register_update_ok registered
  refine ⟨db, rows, same, ?_⟩
  simp [step, handle, workflow_update, registered, named]

theorem step_update_refused {env : Env} {server : Server} {projectid : String}
    {wfd : WorkflowDataWeb} (refused : ¬Updates env server.db wfd) :
    step server (env, .workflow_update projectid (some wfd)) = server := by
  by_cases named : truthy wfd.wfid = true
  · cases registered : WorkflowsMg.register env server.db projectid wfd true with
    | ok result =>
        have accepted := (register_update_iff env server.db projectid wfd).mp ⟨result, registered⟩
        exact absurd ⟨named, accepted⟩ refused
    | error failure =>
        simp only [step, handle, workflow_update, registered, named, if_true]
        split <;> rename_i outcome <;> simp_all
  · simp [step, handle, workflow_update, named]

theorem step_enqueue_db (env : Env) (server : Server) (projectid wfid : String) :
    (step server (env, .workflow_enqueue projectid wfid)).db = server.db ∧
      (step server (env, .workflow_enqueue projectid wfid)).scheduler = server.scheduler := by
  simp only [step, handle, workflow_enqueue]
  split <;> exact ⟨rfl, rfl⟩

@[simp] theorem scheduleRegistered_db (env : Env) (server : Server) (projectid : String)
    (wfd : WorkflowDataWeb) : (scheduleRegistered env server projectid wfd).db = server.db := by
  unfold scheduleRegistered
  split <;> rfl

@[simp] theorem scheduleRegistered_queues (env : Env) (server : Server) (projectid : String)
    (wfd : WorkflowDataWeb) :
    (scheduleRegistered env server projectid wfd).queues = server.queues := by
  unfold scheduleRegistered
  split <;> rfl

theorem scheduleRegistered_absent (env : Env) (server : Server) (projectid : String)
    (wfd : WorkflowDataWeb) (absent : wfd.schedule = none) :
    scheduleRegistered env server projectid wfd = server := by
  unfold scheduleRegistered
  rw [absent]
  split <;> simp_all

theorem scheduleRegistered_present (env : Env) (server : Server) (projectid : String)
    (wfd : WorkflowDataWeb) {wfid : String} {schedule : ScheduleData}
    (named : wfd.wfid = some wfid) (present : wfd.schedule = some schedule) :
    (scheduleRegistered env server projectid wfd).scheduler =
      JobManager.register_workflow env server.db server.scheduler projectid wfd wfid schedule := by
  unfold scheduleRegistered
  rw [named, present]

theorem scheduleRegistered_jobs_ne (env : Env) (server : Server) (projectid : String)
    {wfd : WorkflowDataWeb} {wfid other : String} (named : wfd.wfid = some wfid)
    (different : other ≠ wfid) :
    (scheduleRegistered env server projectid wfd).scheduler.jobs other =
      server.scheduler.jobs other := by
  cases present : wfd.schedule with
  | none => rw [scheduleRegistered_absent env server projectid wfd present]
  | some schedule =>
      rw [scheduleRegistered_present env server projectid wfd named present,
        JobManager.register_workflow_jobs, if_neg different]

end Workflows

namespace Sample

def server : Server := { db := db }

def body (enabled : Bool) (schedule : Option ScheduleData) : WorkflowDataWeb :=
  { alias_ := "nightly", nbtask := task, enabled := enabled, schedule := schedule }

def daily : ScheduleData := { cron := some "0 3 * * *" }

end Sample

end LabFunctions
