import LabFunctions.WorkflowsCore

/-!
Agreement of the two stores: the scheduler holds a job for exactly the stored
workflows that are enabled and have a schedule, and each job carries its own row.
-/

namespace LabFunctions

namespace Workflows

def hasSchedule (row : WorkflowModel) : Bool :=
  match row.schedule with
  | .null => false
  | _ => true

def Scheduled (row : WorkflowModel) : Prop := row.enabled = true ∧ hasSchedule row = true

def Carries (job : Job) (row : WorkflowModel) : Prop :=
  ∃ wd schedule env db projectid, WorkflowsMg.model2data row = .ok wd ∧
    wd.schedule = some schedule ∧
    job = JobManager.workflowJob env db projectid row.wfid wd.nbtask schedule

structure SyncedAt (server : Server) (wfid : String) : Prop where
  scheduled : (server.scheduler.jobs wfid).isSome = true ↔
    ∃ row ∈ server.db.workflows.rows, row.wfid = wfid ∧ Scheduled row
  carried : ∀ row ∈ server.db.workflows.rows, row.wfid = wfid →
    ∀ job, server.scheduler.jobs wfid = some job → Carries job row

def Synced (server : Server) : Prop := ∀ wfid, SyncedAt server wfid

structure Fresh (server : Server) : Prop where
  rows : server.db.workflows.rows = []
  jobs : ∀ wfid, server.scheduler.jobs wfid = none

/-- When a request leaves the two stores in agreement: read off the request and the
rows stored before it. -/
def Agrees (server : Server) : Env × Request → Prop
  | (env, .workflow_create projectid (some wfd)) =>
      Inserts env server.db projectid wfd → wfd.schedule.isSome = true → wfd.enabled = true
  | (env, .workflow_update _ (some wfd)) =>
      Updates env server.db wfd →
        (wfd.schedule.isSome = true →
          wfd.enabled = true ∧ ∃ row ∈ server.db.workflows.rows, some row.wfid = wfd.wfid) ∧
        (wfd.schedule.isSome = false →
          ∀ row ∈ server.db.workflows.rows, some row.wfid = wfd.wfid → ¬Scheduled row)
  | (_, .workflow_delete projectid wfid) =>
      ∀ row ∈ server.db.workflows.rows, row.wfid = wfid → Scheduled row →
        row.project_id = some projectid
  | _ => True

theorem scheduled_iff {wfd : WorkflowDataWeb} {row : WorkflowModel}
    (stores : WorkflowsMg.Stores wfd row) :
    Scheduled row ↔ wfd.enabled = true ∧ wfd.schedule.isSome = true := by
  unfold Scheduled hasSchedule
  rw [stores.enabled, stores.schedule, WorkflowsMg.scheduleColumn]
  cases wfd.schedule <;> simp

theorem synced_of_fresh {server : Server} (fresh : Fresh server) : Synced server := by
  intro wfid
  constructor
  · simp [fresh.rows, fresh.jobs]
  · intro row member
    simp [fresh.rows] at member

/-! What agreement at one workflow id depends on. -/

theorem syncedAt_congr {before after : Server} {wfid : String}
    (jobs : after.scheduler.jobs wfid = before.scheduler.jobs wfid)
    (rows : ∀ row, row.wfid = wfid →
      (row ∈ after.db.workflows.rows ↔ row ∈ before.db.workflows.rows))
    (synced : SyncedAt before wfid) : SyncedAt after wfid := by
  constructor
  · rw [jobs, synced.scheduled]
    constructor
    · rintro ⟨row, member, named, scheduled⟩
      exact ⟨row, (rows row named).mpr member, named, scheduled⟩
    · rintro ⟨row, member, named, scheduled⟩
      exact ⟨row, (rows row named).mp member, named, scheduled⟩
  · intro row member named job held
    exact synced.carried row ((rows row named).mp member) named job (jobs ▸ held)

theorem synced_iff_at {before after : Server} (synced : Synced before) (wfid : String)
    (jobs : ∀ other, other ≠ wfid → after.scheduler.jobs other = before.scheduler.jobs other)
    (rows : ∀ row, row.wfid ≠ wfid →
      (row ∈ after.db.workflows.rows ↔ row ∈ before.db.workflows.rows)) :
    Synced after ↔ SyncedAt after wfid := by
  constructor
  · intro all
    exact all wfid
  · intro here other
    by_cases same : other = wfid
    · exact same ▸ here
    · refine syncedAt_congr (jobs other same) ?_ (synced other)
      intro row named
      exact rows row (by rwa [named])

theorem syncedAt_registered_iff {server : Server} {wfd : WorkflowDataWeb} {wfid : String}
    {schedule : ScheduleData} {env : Env} {db : Database} {projectid : String}
    (stored : ∀ row ∈ server.db.workflows.rows, row.wfid = wfid → WorkflowsMg.Stores wfd row)
    (present : wfd.schedule = some schedule)
    (held : server.scheduler.jobs wfid =
      some (JobManager.workflowJob env db projectid wfid wfd.nbtask schedule)) :
    SyncedAt server wfid ↔
      wfd.enabled = true ∧ ∃ row ∈ server.db.workflows.rows, row.wfid = wfid := by
  constructor
  · intro synced
    obtain ⟨row, member, named, scheduled⟩ := synced.scheduled.mp (by simp [held])
    have enabled := (scheduled_iff (stored row member named)).mp scheduled
    exact ⟨enabled.1, row, member, named⟩
  · rintro ⟨enabled, row, member, named⟩
    constructor
    · simp only [held, Option.isSome_some, true_iff]
      have scheduled := (scheduled_iff (stored row member named)).mpr ⟨enabled, by simp [present]⟩
      exact ⟨row, member, named, scheduled⟩
    · intro other otherMember otherNamed job carried
      rw [held, Option.some.injEq] at carried
      have decoded := (stored other otherMember otherNamed).model2data_ok present
      exact ⟨_, schedule, env, db, projectid, decoded, present, by rw [← carried, otherNamed]⟩

theorem syncedAt_unscheduled_iff {server : Server} {wfid : String}
    (unscheduled : ∀ row ∈ server.db.workflows.rows, row.wfid = wfid → ¬Scheduled row) :
    SyncedAt server wfid ↔ server.scheduler.jobs wfid = none := by
  constructor
  · intro synced
    cases held : server.scheduler.jobs wfid with
    | none => rfl
    | some job =>
        obtain ⟨row, member, named, scheduled⟩ := synced.scheduled.mp (by simp [held])
        exact absurd scheduled (unscheduled row member named)
  · intro absent
    constructor
    · simp only [absent, Option.isSome_none, Bool.false_eq_true, false_iff]
      rintro ⟨row, member, named, scheduled⟩
      exact unscheduled row member named scheduled
    · intro row member named job held
      simp [absent] at held

theorem SyncedAt.jobs_eq_none_iff {server : Server} {wfid : String}
    (synced : SyncedAt server wfid) :
    server.scheduler.jobs wfid = none ↔
      ∀ row ∈ server.db.workflows.rows, row.wfid = wfid → ¬Scheduled row := by
  rw [← Option.not_isSome_iff_eq_none, synced.scheduled]
  constructor
  · intro missing row member named scheduled
    exact missing ⟨row, member, named, scheduled⟩
  · rintro unscheduled ⟨row, member, named, scheduled⟩
    exact unscheduled row member named scheduled

/-- Agreement at the workflow id of a body that was just written. -/
theorem syncedAt_written_iff {env : Env} {server : Server} {projectid : String}
    {wfd : WorkflowDataWeb} {wfid : String} (named : wfd.wfid = some wfid)
    (stored : ∀ row ∈ server.db.workflows.rows, row.wfid = wfid → WorkflowsMg.Stores wfd row) :
    SyncedAt (scheduleRegistered env server projectid wfd) wfid ↔
      (wfd.schedule.isSome = true →
        wfd.enabled = true ∧ ∃ row ∈ server.db.workflows.rows, row.wfid = wfid) ∧
      (wfd.schedule.isSome = false → server.scheduler.jobs wfid = none) := by
  rcases Option.eq_none_or_eq_some wfd.schedule with absent | ⟨schedule, present⟩
  · rw [scheduleRegistered_absent _ _ _ _ absent, syncedAt_unscheduled_iff]
    · simp [absent]
    · intro row member same
      simp [scheduled_iff (stored row member same), absent]
  · have held : (scheduleRegistered env server projectid wfd).scheduler.jobs wfid =
        some (JobManager.workflowJob env server.db projectid wfid wfd.nbtask schedule) := by
      rw [scheduleRegistered_present _ _ _ _ named present, JobManager.register_workflow_jobs,
        if_pos rfl]
    rw [syncedAt_registered_iff (by simpa using stored) present held, scheduleRegistered_db]
    simp [present]

/-! One request at a time. -/

variable {env : Env} {server : Server} {projectid : String} {wfd : WorkflowDataWeb}

theorem synced_create_iff (synced : Synced server) :
    Synced (step server (env, .workflow_create projectid (some wfd))) ↔
      Agrees server (env, .workflow_create projectid (some wfd)) := by
  by_cases inserts : Inserts env server.db projectid wfd
  · obtain ⟨db, rows, _, stepped⟩ := step_create inserts
    have fresh := inserted_fresh inserts
    have inserted : ∀ row, row ∈ db.workflows.rows ↔
        row ∈ server.db.workflows.rows ∨ row = WorkflowsMg.newRow env projectid wfd := by
      simp [rows]
    rw [stepped, synced_iff_at synced env.wfid.text]
    · rw [syncedAt_written_iff rfl]
      · have present : ∃ row ∈ db.workflows.rows, row.wfid = env.wfid.text :=
          ⟨_, (inserted _).mpr (Or.inr rfl), rfl⟩
        have noJob : server.scheduler.jobs env.wfid.text = none := by
          rw [(synced env.wfid.text).jobs_eq_none_iff]
          intro row old named
          exact absurd named (fresh row old)
        simp [Agrees, inserts, present, noJob]
      · intro row member named
        rcases (inserted row).mp member with old | rfl
        · exact absurd named (fresh row old)
        · exact ⟨rfl, rfl, rfl, rfl⟩
    · intro other different
      exact scheduleRegistered_jobs_ne _ _ _ rfl different
    · intro row different
      rw [scheduleRegistered_db, inserted]
      apply or_iff_left
      rintro rfl
      exact different rfl
  · rw [step_create_refused inserts]
    simp [Agrees, inserts, synced]

theorem synced_update_iff (synced : Synced server) :
    Synced (step server (env, .workflow_update projectid (some wfd))) ↔
      Agrees server (env, .workflow_update projectid (some wfd)) := by
  by_cases updates : Updates env server.db wfd
  · obtain ⟨db, rows, _, stepped⟩ := step_update updates
    obtain ⟨wfid, named, _⟩ := truthy_iff.mp updates.1
    have kept : (∃ row ∈ db.workflows.rows, row.wfid = wfid) ↔
        ∃ row ∈ server.db.workflows.rows, row.wfid = wfid := by
      rw [rows]
      constructor
      · rintro ⟨row, member, same⟩
        obtain ⟨old, oldMember, oldSame, _⟩ := (mem_rewritten_named named _ same).mp member
        exact ⟨old, oldMember, oldSame⟩
      · rintro ⟨old, member, same⟩
        exact ⟨_, updatedRow_mem named member same, same⟩
    rw [stepped, synced_iff_at synced wfid]
    · rw [syncedAt_written_iff named, kept, (synced wfid).jobs_eq_none_iff]
      · simp only [Agrees, updates, true_implies, named, Option.some.injEq]
      · intro row member same
        obtain ⟨old, _, _, rfl⟩ := (mem_rewritten_named named _ same).mp (rows ▸ member)
        exact WorkflowsMg.updatedRow_stores wfd env.now old
    · intro other different
      exact scheduleRegistered_jobs_ne _ _ _ named different
    · intro row different
      rw [scheduleRegistered_db, rows]
      exact mem_rewritten_ne named different
  · rw [step_update_refused updates]
    simp [Agrees, updates, synced]

theorem synced_delete_iff (synced : Synced server) (wfid : String) :
    Synced (step server (env, .workflow_delete projectid wfid)) ↔
      Agrees server (env, .workflow_delete projectid wfid) := by
  have remaining : ∀ row, row ∈ (WorkflowsMg.delete_wf server.db projectid wfid).workflows.rows ↔
      row ∈ server.db.workflows.rows ∧ ¬(row.project_id = some projectid ∧ row.wfid = wfid) := by
    intro row
    simp [WorkflowsMg.delete_wf, ← WorkflowsMg.selectedBy_iff]
  rw [synced_iff_at synced wfid]
  · have noJob : (step server (env, .workflow_delete projectid wfid)).scheduler.jobs wfid =
        none := by
      simp [step, handle, workflow_delete, JobManager.unregister_workflow_jobs]
    simp only [Agrees]
    constructor
    · intro after row member same scheduled
      by_contra foreign
      have left := (remaining row).mpr ⟨member, fun selected => foreign selected.1⟩
      exact after.jobs_eq_none_iff.mp noJob row left same scheduled
    · intro owned
      refine (syncedAt_unscheduled_iff ?_).mpr noJob
      intro row member same scheduled
      obtain ⟨old, missed⟩ := (remaining row).mp member
      exact missed ⟨owned row old same scheduled, same⟩
  · intro other different
    simp [step, handle, workflow_delete, JobManager.unregister_workflow_jobs, different]
  · intro row different
    refine (remaining row).trans ?_
    simp [different]

theorem synced_enqueue (synced : Synced server) (wfid : String) :
    Synced (step server (env, .workflow_enqueue projectid wfid)) := by
  obtain ⟨sameDb, sameScheduler⟩ := step_enqueue_db env server projectid wfid
  intro other
  refine syncedAt_congr (by rw [sameScheduler]) ?_ (synced other)
  intro row _
  rw [sameDb]

theorem synced_step_iff (synced : Synced server) (call : Env × Request) :
    Synced (step server call) ↔ Agrees server call := by
  obtain ⟨env, request⟩ := call
  cases request with
  | workflow_create projectid body =>
      cases body with
      | none => simpa [step, handle, workflow_create, Agrees] using synced
      | some wfd => exact synced_create_iff synced
  | workflow_update projectid body =>
      cases body with
      | none => simpa [step, handle, workflow_update, Agrees] using synced
      | some wfd => exact synced_update_iff synced
  | workflow_delete projectid wfid => exact synced_delete_iff synced wfid
  | workflow_enqueue projectid wfid => simpa [Agrees] using synced_enqueue synced wfid

theorem sample_fresh : Fresh Sample.server := ⟨rfl, fun _ => rfl⟩

end Workflows

end LabFunctions
