import LabFunctions.WorkflowsCore

/-!
Isolation of projects: what a project can see of the two stores, and when a request
that names another project leaves it as it was.
-/

namespace LabFunctions

namespace Workflows

structure View where
  rows : List WorkflowModel
  jobs : String → Option Job
  enqueued : List String
  queued : List QueueEntry

def rowsOf (project : String) (server : Server) : List WorkflowModel :=
  server.db.workflows.rows.filter fun row => row.project_id == some project

def owned (project : String) (server : Server) (wfid : String) : Bool :=
  (rowsOf project server).any fun row => row.wfid == wfid

def view (project : String) (server : Server) : View where
  rows := rowsOf project server
  jobs wfid := if owned project server wfid then server.scheduler.jobs wfid else none
  enqueued := server.scheduler.enqueued.filter (owned project server)
  queued := server.queues.filter fun entry => entry.data.projectid == project

def Isolated (server : Server) (call : Env × Request) : Prop :=
  ∀ project, project ≠ call.2.projectid → view project (step server call) = view project server

def Foreign (projectid : String) (row : WorkflowModel) : Prop :=
  ∃ project, project ≠ projectid ∧ row.project_id = some project

/-- When a request stays within its project. The one foreign row an update may meet is one
that already holds exactly the values sent, and then the body has no schedule. -/
def Separate (server : Server) : Env × Request → Prop
  | (env, .workflow_update projectid (some wfd)) =>
      Updates env server.db wfd → ∀ row ∈ server.db.workflows.rows, some row.wfid = wfd.wfid →
        Foreign projectid row →
          wfd.schedule = none ∧ WorkflowsMg.updatedRow wfd env.now row = row
  | (_, .workflow_delete projectid wfid) =>
      ∀ row ∈ server.db.workflows.rows, row.wfid = wfid → Foreign projectid row →
        server.scheduler.jobs wfid = none
  | _ => True

theorem mem_rowsOf {project : String} {server : Server} {row : WorkflowModel} :
    row ∈ rowsOf project server ↔
      row ∈ server.db.workflows.rows ∧ row.project_id = some project := by
  simp [rowsOf]

theorem owned_iff {project : String} {server : Server} {wfid : String} :
    owned project server wfid = true ↔
      ∃ row ∈ server.db.workflows.rows, row.project_id = some project ∧ row.wfid = wfid := by
  simp [owned, mem_rowsOf, and_assoc]

/-! What a view depends on. -/

theorem view_congr {project : String} {before after : Server}
    (rows : rowsOf project after = rowsOf project before)
    (jobs : ∀ wfid, owned project before wfid = true →
      after.scheduler.jobs wfid = before.scheduler.jobs wfid)
    (enqueued : after.scheduler.enqueued.filter (owned project before) =
      before.scheduler.enqueued.filter (owned project before))
    (queued : after.queues.filter (fun entry => entry.data.projectid == project) =
      before.queues.filter fun entry => entry.data.projectid == project) :
    view project after = view project before := by
  have sameOwned : owned project after = owned project before := by
    funext wfid
    simp [owned, rows]
  unfold view
  rw [sameOwned, rows, enqueued, queued]
  congr 1
  funext wfid
  split
  · rename_i mine
    exact jobs wfid mine
  · rfl

/-- After a write a project sees the same just in case its rows are the same and no job was
put under an id of its own. -/
theorem view_written_iff {project : String} {env : Env} {server : Server} {db : Database}
    {projectid : String} {wfd : WorkflowDataWeb} {wfid : String} (named : wfd.wfid = some wfid) :
    view project (scheduleRegistered env { server with db := db } projectid wfd) =
        view project server ↔
      rowsOf project { server with db := db } = rowsOf project server ∧
        (owned project server wfid = true → wfd.schedule = none) := by
  have sameOwned : rowsOf project { server with db := db } = rowsOf project server →
      owned project (scheduleRegistered env { server with db := db } projectid wfd) =
        owned project server := by
    intro rows
    funext other
    simp only [owned, rowsOf, scheduleRegistered_db] at rows ⊢
    rw [rows]
  constructor
  · intro kept
    have rows : rowsOf project { server with db := db } = rowsOf project server := by
      simpa [view, rowsOf] using congrArg View.rows kept
    refine ⟨rows, ?_⟩
    intro mine
    rcases Option.eq_none_or_eq_some wfd.schedule with absent | ⟨schedule, present⟩
    · exact absent
    · have enqueued := congrArg View.enqueued kept
      simp only [view, sameOwned rows, scheduleRegistered_present _ _ _ _ named present,
        JobManager.register_workflow_enqueued, List.filter_append] at enqueued
      simp [mine] at enqueued
  · rintro ⟨rows, quiet⟩
    rcases Option.eq_none_or_eq_some wfd.schedule with absent | ⟨schedule, present⟩
    · rw [scheduleRegistered_absent _ _ _ _ absent]
      exact view_congr rows (fun _ _ => rfl) rfl rfl
    · have notMine : owned project server wfid = false := by
        cases mine : owned project server wfid with
        | false => rfl
        | true => simp [quiet mine] at present
      refine view_congr ?_ ?_ ?_ ?_
      · simpa [rowsOf] using rows
      · intro other mine
        have different : other ≠ wfid := by
          rintro rfl
          simp [notMine] at mine
        rw [scheduleRegistered_jobs_ne _ _ _ named different]
      · rw [scheduleRegistered_present _ _ _ _ named present,
          JobManager.register_workflow_enqueued, List.filter_append]
        simp [notMine]
      · rw [scheduleRegistered_queues]

/-! One request at a time. -/

variable {env : Env} {server : Server} {projectid : String} {wfd : WorkflowDataWeb}

theorem isolated_create : Isolated server (env, .workflow_create projectid (some wfd)) := by
  intro project different
  change project ≠ projectid at different
  by_cases inserts : Inserts env server.db projectid wfd
  · obtain ⟨db, rows, _, stepped⟩ := step_create inserts
    rw [stepped]
    have sameRows : rowsOf project { server with db := db } = rowsOf project server := by
      simp [rowsOf, rows, WorkflowsMg.newRow, Ne.symm different]
    refine (view_written_iff rfl).mpr ⟨sameRows, ?_⟩
    intro mine
    obtain ⟨row, member, _, same⟩ := owned_iff.mp mine
    exact absurd same (inserted_fresh inserts row member)
  · rw [step_create_refused inserts]

theorem rewritten_project_id (row : WorkflowModel) :
    (rewritten env wfd row).project_id = row.project_id := by
  unfold rewritten
  split <;> rfl

theorem rowsOf_rewritten {project : String} {db : Database}
    (rows : db.workflows.rows = server.db.workflows.rows.map (rewritten env wfd)) :
    rowsOf project { server with db := db } = (rowsOf project server).map (rewritten env wfd) := by
  unfold rowsOf
  rw [rows, List.filter_map]
  congr 1
  apply List.filter_congr
  intro row _
  simp [rewritten_project_id]

theorem rowsOf_fixed_iff {project : String} {db : Database}
    (rows : db.workflows.rows = server.db.workflows.rows.map (rewritten env wfd)) :
    rowsOf project { server with db := db } = rowsOf project server ↔
      ∀ row ∈ rowsOf project server, some row.wfid = wfd.wfid →
        WorkflowsMg.updatedRow wfd env.now row = row := by
  rw [rowsOf_rewritten rows]
  constructor
  · intro fixed row member same
    rw [← List.map_id (rowsOf project server), List.map_map] at fixed
    have rowFixed := List.map_eq_map_iff.mp fixed row member
    simpa [rewritten, same] using rowFixed
  · intro fixed
    refine (List.map_congr_left ?_).trans (List.map_id _)
    intro row member
    unfold rewritten
    split
    · rename_i same
      exact fixed row member (eq_of_beq same)
    · rfl

theorem isolated_update_iff :
    Isolated server (env, .workflow_update projectid (some wfd)) ↔
      Separate server (env, .workflow_update projectid (some wfd)) := by
  by_cases updates : Updates env server.db wfd
  · obtain ⟨db, rows, _, stepped⟩ := step_update updates
    obtain ⟨wfid, named, _⟩ := truthy_iff.mp updates.1
    simp only [Separate, updates, true_implies]
    constructor
    · rintro isolated row member same ⟨project, different, mine⟩
      have kept := isolated project different
      rw [stepped, view_written_iff named, rowsOf_fixed_iff rows] at kept
      obtain ⟨fixed, quiet⟩ := kept
      have mineAlready : owned project server wfid = true :=
        owned_iff.mpr ⟨row, member, mine, by simpa [named] using same⟩
      exact ⟨quiet mineAlready, fixed row (mem_rowsOf.mpr ⟨member, mine⟩) same⟩
    · intro separate project different
      rw [stepped, view_written_iff named, rowsOf_fixed_iff rows]
      constructor
      · intro row member same
        obtain ⟨stored, mine⟩ := mem_rowsOf.mp member
        exact (separate row stored same ⟨project, different, mine⟩).2
      · intro mine
        obtain ⟨row, member, ofProject, same⟩ := owned_iff.mp mine
        exact (separate row member (by rw [same, named]) ⟨project, different, ofProject⟩).1
  · simp [Isolated, Separate, updates, step_update_refused updates]

theorem isolated_delete_iff (wfid : String) :
    Isolated server (env, .workflow_delete projectid wfid) ↔
      Separate server (env, .workflow_delete projectid wfid) := by
  have sameRows : ∀ project, project ≠ projectid →
      rowsOf project (step server (env, .workflow_delete projectid wfid)) =
        rowsOf project server := by
    intro project different
    simp only [rowsOf, step, handle, workflow_delete, WorkflowsMg.delete_wf,
      Table.rows_deleteWhere, List.filter_filter]
    apply List.filter_congr
    intro row _
    by_cases mine : row.project_id = some project
    · simp [WorkflowsMg.selectedBy, mine, different]
    · simp [mine]
  have jobs : ∀ other, (step server (env, .workflow_delete projectid wfid)).scheduler.jobs other =
      if other = wfid then none else server.scheduler.jobs other := by
    intro other
    exact JobManager.unregister_workflow_jobs server.scheduler wfid other
  constructor
  · rintro isolated row member same ⟨project, different, mine⟩
    have kept := isolated project different
    have mineAlready : owned project server wfid = true := owned_iff.mpr ⟨row, member, mine, same⟩
    have mineStill : owned project (step server (env, .workflow_delete projectid wfid)) wfid =
        true := by
      unfold owned at mineAlready ⊢
      rwa [sameRows project different]
    have keptJob := congrFun (congrArg View.jobs kept) wfid
    simp only [view, mineAlready, mineStill, if_true, jobs] at keptJob
    exact keptJob.symm
  · intro separate project different
    refine view_congr (sameRows project different) ?_ rfl rfl
    intro other mine
    rw [jobs]
    split
    · rename_i same
      obtain ⟨row, member, ofProject, named⟩ := owned_iff.mp mine
      rw [same]
      exact (separate row member (named.trans same) ⟨project, different, ofProject⟩).symm
    · rfl

theorem isolated_enqueue (wfid : String) :
    Isolated server (env, .workflow_enqueue projectid wfid) := by
  intro project different
  change project ≠ projectid at different
  obtain ⟨sameDb, sameScheduler⟩ := step_enqueue_db env server projectid wfid
  refine view_congr (by rw [rowsOf, sameDb]; rfl) (fun _ _ => by rw [sameScheduler])
    (by rw [sameScheduler]) ?_
  simp only [step, handle, workflow_enqueue]
  cases enqueued : SchedulerExec.enqueue_workflow env server.db server.queues projectid wfid with
  | error failure => rfl
  | ok result =>
      obtain ⟨ctx, queues⟩ := result
      rcases SchedulerExec.enqueue_workflow_ok enqueued with ⟨rfl, rfl⟩ | ⟨wd, _, _, rfl, rfl⟩
      · rfl
      · simp [SchedulerExec.notebookEntry, create_task_ctx, Notebooks.create_notebook_ctx,
          Ne.symm different]

theorem isolated_iff (server : Server) (call : Env × Request) :
    Isolated server call ↔ Separate server call := by
  obtain ⟨env, request⟩ := call
  cases request with
  | workflow_create projectid body =>
      cases body with
      | none => simp [Isolated, Separate, step, handle, workflow_create]
      | some wfd => simp [Separate, isolated_create]
  | workflow_update projectid body =>
      cases body with
      | none => simp [Isolated, Separate, step, handle, workflow_update]
      | some wfd => exact isolated_update_iff
  | workflow_delete projectid wfid => exact isolated_delete_iff wfid
  | workflow_enqueue projectid wfid => simp [Separate, isolated_enqueue]

/-- Over whole runs from any state: every request leaves every other project as it was
exactly when every request meets `Separate`. -/
theorem run_isolated_iff (server : Server) (calls : List (Env × Request)) :
    Runs.Along step Isolated server calls ↔ Runs.Along step Separate server calls :=
  Runs.along_iff isolated_iff

/-- A project that no request of the run names sees the same at its end. -/
theorem unnamed_project_untouched {project : String} {calls : List (Env × Request)}
    (unnamed : ∀ call ∈ calls, call.2.projectid ≠ project)
    (separate : Runs.Along step Separate server calls) :
    view project (Runs.run step server calls) = view project server := by
  refine Runs.run_frame (view project) ?_ (Runs.along_and unnamed separate)
  rintro state call ⟨other, met⟩
  exact (isolated_iff state call).mpr met project (Ne.symm other)

def foreignUpdate : List (Env × Request) :=
  [(Sample.env, .workflow_create "q" (some (Sample.body true (some Sample.daily)))),
    (Sample.env, .workflow_update "p"
      (some { Sample.body true (some Sample.daily) with wfid := some Sample.env.wfid.text }))]

theorem foreign_update_not_isolated :
    ¬∀ (server : Server) (calls : List (Env × Request)), Runs.Along step Isolated server calls := by
  intro isolated
  obtain ⟨_, second, _⟩ := isolated Sample.server foreignUpdate
  have separate := (isolated_iff _ _).mp second
  have updates : Updates Sample.env
      (step Sample.server (Sample.env, .workflow_create "q"
        (some (Sample.body true (some Sample.daily))))).db
      { Sample.body true (some Sample.daily) with wfid := some Sample.env.wfid.text } := by
    decide
  have absent := (separate updates
    (WorkflowsMg.newRow Sample.env "q" (Sample.body true (some Sample.daily)))
    (List.mem_singleton.mpr rfl) rfl ⟨"q", by decide, rfl⟩).1
  simp [Sample.body] at absent

end Workflows

end LabFunctions
