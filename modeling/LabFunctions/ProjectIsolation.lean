import LabFunctions.HistoryQueries
import LabFunctions.Library.Parties
import LabFunctions.RuntimeRegistry
import LabFunctions.WorkflowsIsolation

/-!
The workflow, runtime and history handlers over one server: what a project is answered, and what
the requests of other projects have to do with it.
-/

namespace LabFunctions

/-- The length of the columns `wfid` and `execid`. -/
def HistoryModel.ID_LEN : Nat := 24

namespace ProjectIsolation

open RuntimesMg

structure Records where
  server : Server
  history : List HistoryEntry

/-- A body that the pydantic model rejects is `none`. The task endpoint, which asks the queue for
a job, is left out. -/
inductive Request where
  | workflows (env : Env) (request : Workflows.Request)
  | runtimes (projectid : String) (request : RuntimeRegistry.Request)
  | history_create (exec_result : Option ExecutionResult) (created_at : DateTime)
  | history_get_all (projectid : String) (lt : Option Nat)
  | history_last_job (projectid wfid : String) (lt : Option Nat)
  | history_detail_job (projectid execid : String)

inductive Answer where
  | workflow (response : Response)
  | runtime (reply : RuntimeRegistry.Reply)
  | created (status : Nat)
  | history (answer : HistoryQueries.Answer)

/-- What the database accepts as a row of the history: the project is a foreign key. -/
def storable (db : Database) (exec_result : ExecutionResult) : Bool :=
  db.hasProject exec_result.projectid &&
    decide (exec_result.wfid.length ≤ HistoryModel.ID_LEN) &&
    decide (exec_result.execid.length ≤ HistoryModel.ID_LEN)

def history_create (records : Records) (exec_result : Option ExecutionResult)
    (created_at : DateTime) : Answer × Records :=
  match exec_result with
  | none => (.created 500, records)
  | some exec_result =>
      if storable records.server.db exec_result then
        (.created 201,
          { records with history := records.history ++ [⟨HistoryMg.newRow exec_result, created_at⟩] })
      else (.created 500, records)

def queries (records : Records) : HistoryQueries.State := ⟨records.history, fun _ => none⟩

def handle (records : Records) : Request → Answer × Records
  | .workflows env request =>
      let (response, server) := Workflows.handle records.server (env, request)
      (.workflow response, { records with server := server })
  | .runtimes projectid request =>
      let (reply, db) := RuntimeRegistry.handle records.server.db projectid request
      (.runtime reply, { records with server := { records.server with db := db } })
  | .history_create exec_result created_at => history_create records exec_result created_at
  | .history_get_all projectid lt =>
      (.history (HistoryQueries.history_get_all (queries records) projectid lt), records)
  | .history_last_job projectid wfid lt =>
      (.history (HistoryQueries.history_last_job (queries records) projectid wfid lt), records)
  | .history_detail_job projectid execid =>
      (.history (HistoryQueries.history_detail_job (queries records) projectid execid), records)

/-- The project that the path names; an execution is registered for the one in its body. -/
def Request.projectid : Request → Option String
  | .workflows _ request => some request.projectid
  | .runtimes projectid _ => some projectid
  | .history_create exec_result _ => exec_result.map (·.projectid)
  | .history_get_all projectid _ => some projectid
  | .history_last_job projectid _ _ => some projectid
  | .history_detail_job projectid _ => some projectid

def names (project : String) (request : Request) : Bool := request.projectid == some project

/-! What a project has of the records. -/

structure Seen where
  workflows : Workflows.View
  runtimes : List RuntimeModel
  known : Bool
  history : List HistoryEntry

def seen (project : String) (records : Records) : Seen where
  workflows := Workflows.view project records.server
  runtimes := RuntimeRegistry.rowsOf records.server.db project
  known := records.server.db.hasProject project
  history := HistoryQueries.rowsOf project (queries records)

/-- The id that is drawn for a workflow is new, and an id that the request names belongs to no
other project. -/
def Unshared (records : Records) : Request → Prop
  | .workflows env (.workflow_create _ _) =>
      (∀ row ∈ records.server.db.workflows.rows, row.wfid ≠ env.wfid.text) ∧
        records.server.scheduler.jobs env.wfid.text = none ∧
        env.wfid.text ∉ records.server.scheduler.enqueued
  | .workflows _ (.workflow_update projectid (some wfd)) =>
      ∀ row ∈ records.server.db.workflows.rows, some row.wfid = wfd.wfid →
        row.project_id = some projectid
  | .workflows _ (.workflow_delete projectid wfid) =>
      ∀ row ∈ records.server.db.workflows.rows, row.wfid = wfid → row.project_id = some projectid
  | .runtimes projectid (.runtimes_create (some rq) _ _) =>
      rq.project_id = projectid ∧ ∀ row ∈ records.server.db.runtimes.rows,
        row.runtimeid = runtimeid rq → row.project_id = some projectid
  | .runtimes projectid (.runtimes_delete rid) =>
      ∀ row ∈ records.server.db.runtimes.rows, row.runtimeid = rid →
        row.project_id = some projectid
  | .history_detail_job projectid execid =>
      HistoryQueries.Unshared (queries records) projectid (.history_detail_job execid)
  | _ => True

/-! The requests of other projects. -/

section Aside

variable {project : String} {records : Records}

/-- The workflow handlers write the workflow table alone. -/
theorem step_frame (server : Server) (call : Env × Workflows.Request) :
    (Workflows.step server call).db =
      { server.db with workflows := (Workflows.step server call).db.workflows } := by
  obtain ⟨env, request⟩ := call
  cases request with
  | workflow_create projectid body =>
      cases body with
      | none => rfl
      | some wfd =>
          by_cases inserts : Workflows.Inserts env server.db projectid wfd
          · obtain ⟨db, _, same, stepped⟩ := Workflows.step_create inserts
            rw [stepped, Workflows.scheduleRegistered_db, same]
          · rw [Workflows.step_create_refused inserts]
  | workflow_update projectid body =>
      cases body with
      | none => rfl
      | some wfd =>
          by_cases updates : Workflows.Updates env server.db wfd
          · obtain ⟨db, _, same, stepped⟩ := Workflows.step_update updates
            rw [stepped, Workflows.scheduleRegistered_db, same]
          · rw [Workflows.step_update_refused updates]
  | workflow_delete projectid wfid => rfl
  | workflow_enqueue projectid wfid =>
      rw [(Workflows.step_enqueue_db env server projectid wfid).1]

/-- The runtime handlers write the runtime table alone. -/
theorem runtimes_frame (db : Database) (projectid : String) (request : RuntimeRegistry.Request) :
    (RuntimeRegistry.handle db projectid request).2 =
      { db with runtimes := (RuntimeRegistry.handle db projectid request).2.runtimes } := by
  cases request with
  | runtimes_list lt => rfl
  | runtimes_create rq id now =>
      cases rq with
      | none => rfl
      | some rq =>
          have created : (RuntimeRegistry.handle db projectid (.runtimes_create (some rq) id now)).2 =
              (create db rq id now).2 := by
            simp only [RuntimeRegistry.handle, RuntimeRegistry.runtimes_create]
            rcases create db rq id now with ⟨_ | _, after⟩ <;> rfl
          rw [created, create]
          split
          · cases db.runtimes.insert (newRow rq id now) <;> rfl
          · rfl
  | runtimes_delete rid => rfl

theorem separate_of_unshared {env : Env} {request : Workflows.Request}
    (unshared : Unshared records (.workflows env request)) :
    Workflows.Separate records.server (env, request) := by
  have own : ∀ {projectid : String} {row : WorkflowModel}, row.project_id = some projectid →
      ¬Workflows.Foreign projectid row := by
    rintro projectid row mine ⟨other, different, theirs⟩
    exact different (Option.some.inj (theirs.symm.trans mine))
  cases request with
  | workflow_create projectid body => trivial
  | workflow_update projectid body =>
      cases body with
      | none => trivial
      | some wfd => exact fun _ row member same foreign => absurd foreign (own (unshared row member same))
  | workflow_delete projectid wfid =>
      exact fun row member same foreign => absurd foreign (own (unshared row member same))
  | workflow_enqueue projectid wfid => trivial

theorem stays_of_unshared {projectid : String} {request : RuntimeRegistry.Request}
    (unshared : Unshared records (.runtimes projectid request)) :
    RuntimeRegistry.Stays records.server.db projectid request := by
  cases request with
  | runtimes_list lt => trivial
  | runtimes_create rq id now =>
      cases rq with
      | none => trivial
      | some rq => exact Or.inl unshared.1
  | runtimes_delete rid => exact fun row member called => Or.inl (unshared row member called)

theorem seen_aside (request : Request) (other : names project request = false)
    (unshared : Unshared records request) :
    seen project (Runs.next handle records request) = seen project records := by
  have apart : request.projectid ≠ some project := by simpa [names] using other
  cases request with
  | workflows env request =>
      have foreign : project ≠ request.projectid := fun same => apart (congrArg some same.symm)
      have kept := (Workflows.isolated_iff records.server (env, request)).mpr
        (separate_of_unshared unshared) project foreign
      have frame := step_frame records.server (env, request)
      have runtimes : (Workflows.step records.server (env, request)).db.runtimes =
          records.server.db.runtimes := by rw [frame]
      have projects : (Workflows.step records.server (env, request)).db.projects =
          records.server.db.projects := by rw [frame]
      have after : (Runs.next handle records (.workflows env request)).server =
          Workflows.step records.server (env, request) := rfl
      simp only [seen, after, kept, RuntimeRegistry.rowsOf, runtimes, Database.hasProject, projects]
      rfl
  | runtimes projectid request =>
      have foreign : project ≠ projectid := fun same => apart (congrArg some same.symm)
      have kept := ((RuntimeRegistry.confined_iff_stays records.server.db projectid request).mpr
        (stays_of_unshared unshared)).1 project foreign
      have frame := runtimes_frame records.server.db projectid request
      have after : (Runs.next handle records (.runtimes projectid request)).server =
          { records.server with
            db := (RuntimeRegistry.handle records.server.db projectid request).2 } := rfl
      simp only [seen, after, kept]
      rw [frame]
      rfl
  | history_create exec_result created_at =>
      cases exec_result with
      | none => rfl
      | some exec_result =>
          have foreign : exec_result.projectid ≠ project := fun same => apart (congrArg some same)
          simp only [Runs.next, handle, history_create]
          by_cases stored : storable records.server.db exec_result = true
          · simp [stored, seen, queries, HistoryQueries.rowsOf, HistoryMg.newRow, foreign]
          · simp [stored]
  | history_get_all projectid lt => rfl
  | history_last_job projectid wfid lt => rfl
  | history_detail_job projectid execid => rfl

end Aside

/-! The requests of the project itself, in two servers that it cannot tell apart. -/

section Constraints

open Workflows

variable {project : String} {env : Env} {wfd : WorkflowDataWeb} {server : Server}

/-- Whether an insert is accepted can be read off the rows of the project. -/
theorem accepted_append_iff
    (fresh : ∀ row ∈ server.db.workflows.rows, row.wfid ≠ env.wfid.text) :
    WorkflowModel.Accepted (server.db.workflows.rows ++ [WorkflowsMg.newRow env project wfd]) ↔
      WorkflowModel.Accepted (rowsOf project server ++ [WorkflowsMg.newRow env project wfd]) := by
  constructor
  · exact Table.Hereditary.sublist (List.filter_sublist.append_right _)
  rintro ⟨_, aliases, lengths⟩
  obtain ⟨ids, distinct, short⟩ := server.db.workflows.holds
  refine ⟨?_, ?_, ?_⟩
  · refine (Distinct.append_singleton_iff _).mpr ⟨ids, ?_⟩
    rintro _ ⟨⟩ row member same
    exact fresh row member (Option.some.inj same)
  · refine (Distinct.append_singleton_iff _).mpr ⟨distinct, ?_⟩
    intro value keyed row member same
    have mine : row.project_id = some project := by
      simp only [WorkflowModel.aliasKey, WorkflowsMg.newRow, Option.map_some] at keyed same
      obtain ⟨owner, owned, pair⟩ := Option.map_eq_some_iff.mp same
      rw [owned]
      have pairs := pair.trans (Option.some.inj keyed).symm
      exact congrArg some (congrArg Prod.snd pairs)
    exact ((Distinct.append_singleton_iff _).mp aliases).2 value keyed row
      (mem_rowsOf.mpr ⟨member, mine⟩) same
  · intro row member
    rcases List.mem_append.mp member with held | new
    · exact short row held
    · exact lengths row (List.mem_append_right _ new)

theorem rewritten_wfid (row : WorkflowModel) : (rewritten env wfd row).wfid = row.wfid := by
  unfold rewritten
  split <;> rfl

theorem rewritten_other (own : ∀ row ∈ server.db.workflows.rows, some row.wfid = wfd.wfid →
      row.project_id = some project) {row : WorkflowModel}
    (member : row ∈ server.db.workflows.rows) (other : row.project_id ≠ some project) :
    rewritten env wfd row = row := by
  unfold rewritten
  split
  · next same => exact absurd (own row member (beq_iff_eq.mp same)) other
  · rfl

/-- Whether an update of a row of the project is accepted, too. -/
theorem accepted_map_iff (own : ∀ row ∈ server.db.workflows.rows, some row.wfid = wfd.wfid →
      row.project_id = some project) :
    WorkflowModel.Accepted (server.db.workflows.rows.map (rewritten env wfd)) ↔
      WorkflowModel.Accepted ((rowsOf project server).map (rewritten env wfd)) := by
  constructor
  · exact Table.Hereditary.sublist (List.filter_sublist.map _)
  rintro ⟨_, aliases, lengths⟩
  obtain ⟨ids, distinct, short⟩ := server.db.workflows.holds
  refine ⟨?_, ?_, ?_⟩
  · refine (Distinct.map_of_key_eq ?_).mpr ids
    intro row _
    exact congrArg some (rewritten_wfid row)
  · have keyed : ∀ (row : WorkflowModel) value, row.aliasKey = some value →
        row.project_id = some value.2 := by
      intro row value key
      obtain ⟨owner, owned, rfl⟩ := Option.map_eq_some_iff.mp key
      exact owned
    refine (Distinct.groups_iff (·.project_id) fun left right value leftKey rightKey =>
      (keyed left value leftKey).trans (keyed right value rightKey).symm).mpr fun owner => ?_
    have grouped : (server.db.workflows.rows.map (rewritten env wfd)).filter
        (fun row => row.project_id = owner) =
        (server.db.workflows.rows.filter fun row => row.project_id = owner).map
          (rewritten env wfd) := by
      rw [List.filter_map]
      congr 1
      apply List.filter_congr
      intro row _
      simp [rewritten_project_id]
    rw [grouped]
    by_cases mine : owner = some project
    · subst mine
      have rows : (server.db.workflows.rows.filter fun row => row.project_id = some project) =
          rowsOf project server := by
        unfold rowsOf
        apply List.filter_congr
        intro row _
        exact (beq_eq_decide _ _).symm
      rwa [rows]
    · have kept : (server.db.workflows.rows.filter fun row => row.project_id = owner).map
          (rewritten env wfd) = server.db.workflows.rows.filter fun row => row.project_id = owner := by
        refine (List.map_congr_left ?_).trans (List.map_id _)
        intro row member
        obtain ⟨held, theirs⟩ := List.mem_filter.mp member
        have other : row.project_id = owner := by simpa using theirs
        exact rewritten_other own held (other ▸ mine)
      rw [kept]
      exact distinct.sublist List.filter_sublist
  · intro row member
    obtain ⟨old, held, rfl⟩ := List.mem_map.mp member
    by_cases mine : old.project_id = some project
    · exact lengths _ (List.mem_map_of_mem (mem_rowsOf.mpr ⟨held, mine⟩))
    · rw [rewritten_other own held mine]
      exact short old held

end Constraints

section Workflows

open Workflows

variable {project : String} {env : Env} {wfd : WorkflowDataWeb} {left right : Server}

theorem view_iff : view project left = view project right ↔
    rowsOf project left = rowsOf project right ∧
      (∀ wfid, owned project right wfid = true →
        left.scheduler.jobs wfid = right.scheduler.jobs wfid) ∧
      left.scheduler.enqueued.filter (owned project right) =
        right.scheduler.enqueued.filter (owned project right) ∧
      left.queues.filter (fun entry => entry.data.projectid == project) =
        right.queues.filter fun entry => entry.data.projectid == project := by
  constructor
  · intro same
    have rows : rowsOf project left = rowsOf project right := congrArg View.rows same
    have sameOwned : owned project left = owned project right := by
      funext wfid
      rw [owned, owned, rows]
    refine ⟨rows, ?_, ?_, congrArg View.queued same⟩
    · intro wfid mine
      have jobs := congrFun (congrArg View.jobs same) wfid
      simpa [view, sameOwned, mine] using jobs
    · have enqueued := congrArg View.enqueued same
      simpa [view, sameOwned] using enqueued
  · rintro ⟨rows, jobs, enqueued, queued⟩
    exact view_congr rows jobs enqueued queued

theorem tasks_alike {first second : Database}
    (runtimes : RuntimeRegistry.rowsOf first project = RuntimeRegistry.rowsOf second project)
    (env : Env) (task : NBTask) (pre : Option String) :
    create_task_ctx env first project task pre = create_task_ctx env second project task pre := by
  unfold create_task_ctx
  rw [RuntimeRegistry.get_runtime_congr runtimes]

/-- A job that is scheduled for the project is the same in both. -/
theorem scheduled_alike {wfid : String} (named : wfd.wfid = some wfid)
    (views : view project left = view project right)
    (runtimes : RuntimeRegistry.rowsOf left.db project = RuntimeRegistry.rowsOf right.db project) :
    view project (scheduleRegistered env left project wfd) =
      view project (scheduleRegistered env right project wfd) := by
  rcases Option.eq_none_or_eq_some wfd.schedule with absent | ⟨schedule, present⟩
  · rw [scheduleRegistered_absent _ _ _ _ absent, scheduleRegistered_absent _ _ _ _ absent, views]
  obtain ⟨rows, jobs, enqueued, queued⟩ := view_iff.mp views
  have kept : ∀ server : Server, rowsOf project (scheduleRegistered env server project wfd) =
      rowsOf project server := by
    intro server
    simp only [rowsOf, scheduleRegistered_db]
  have keptOwned : ∀ (server : Server) id,
      owned project (scheduleRegistered env server project wfd) id = owned project server id := by
    intro server id
    rw [owned, owned, kept]
  have job : JobManager.workflowJob env left.db project wfid wfd.nbtask schedule =
      JobManager.workflowJob env right.db project wfid wfd.nbtask schedule := by
    simp only [JobManager.workflowJob, tasks_alike runtimes]
  refine view_iff.mpr ⟨by rw [kept, kept, rows], ?_, ?_, ?_⟩
  · intro id mine
    rw [keptOwned] at mine
    rw [scheduleRegistered_present _ _ _ _ named present,
      scheduleRegistered_present _ _ _ _ named present, JobManager.register_workflow_jobs,
      JobManager.register_workflow_jobs, job, jobs id mine]
  · have filtered : owned project (scheduleRegistered env right project wfd) =
        owned project right := funext (keptOwned right)
    rw [filtered, scheduleRegistered_present _ _ _ _ named present,
      scheduleRegistered_present _ _ _ _ named present, JobManager.register_workflow_enqueued,
      JobManager.register_workflow_enqueued, List.filter_append, List.filter_append, enqueued]
  · rw [scheduleRegistered_queues, scheduleRegistered_queues, queued]

theorem inserts_alike (known : left.db.hasProject project = right.db.hasProject project)
    (rows : rowsOf project left = rowsOf project right)
    (leftFresh : ∀ row ∈ left.db.workflows.rows, row.wfid ≠ env.wfid.text)
    (rightFresh : ∀ row ∈ right.db.workflows.rows, row.wfid ≠ env.wfid.text) :
    Inserts env left.db project wfd ↔ Inserts env right.db project wfd := by
  rw [Inserts, Inserts, known, accepted_append_iff leftFresh, accepted_append_iff rightFresh, rows]

theorem register_insert_refused {db : Database} (refused : ¬Inserts env db project wfd) :
    WorkflowsMg.register env db project wfd =
      .error (WorkflowsMg.refusal wfd (.workflowRegisterError project wfd.alias_)) := by
  have none_ok : ¬∃ result, WorkflowsMg.register env db project wfd = .ok result :=
    fun stored => refused ((register_insert_iff env db project wfd).mp stored)
  simp only [WorkflowsMg.register, Bool.false_eq_true, if_false] at none_ok ⊢
  cases flushed : WorkflowsMg.flush db project (WorkflowsMg.newRow env project wfd) with
  | none => rfl
  | some workflows => exact absurd ⟨_, by rw [flushed]⟩ none_ok

theorem register_update_refused {db : Database}
    (refused : ¬WorkflowModel.Accepted (db.workflows.rows.map (rewritten env wfd))) :
    WorkflowsMg.register env db project wfd true =
      .error (WorkflowsMg.refusal wfd .integrityError) := by
  have none_ok : ¬∃ result, WorkflowsMg.register env db project wfd true = .ok result :=
    fun stored => refused ((register_update_iff env db project wfd).mp stored)
  simp only [WorkflowsMg.register, if_true] at none_ok ⊢
  cases updated : WorkflowsMg._update wfd.wfid project wfd env.now db.workflows with
  | none => rfl
  | some workflows => exact absurd ⟨_, by rw [updated]⟩ none_ok

theorem create_answer {server : Server} (inserts : Inserts env server.db project wfd) :
    (Workflows.handle server (env, .workflow_create project (some wfd))).1 =
      ⟨201, .wfid (some env.wfid.text)⟩ := by
  obtain ⟨⟨wfid, db⟩, registered⟩ := (register_insert_iff env server.db project wfd).mpr inserts
  obtain ⟨rfl, _, _⟩ := WorkflowsMg.register_insert_ok registered
  simp [Workflows.handle, workflow_create, registered]

theorem update_answer {server : Server} (updates : Updates env server.db wfd) :
    (Workflows.handle server (env, .workflow_update project (some wfd))).1 =
      ⟨201, .wfid wfd.wfid⟩ := by
  obtain ⟨⟨wfid, db⟩, registered⟩ := (register_update_iff env server.db project wfd).mpr updates.2
  obtain ⟨rfl, _, _⟩ := WorkflowsMg.register_update_ok registered
  simp [Workflows.handle, workflow_update, registered, updates.1]

/-- The id that is drawn is not in use. -/
def Unused (env : Env) (server : Server) : Prop :=
  (∀ row ∈ server.db.workflows.rows, row.wfid ≠ env.wfid.text) ∧
    server.scheduler.jobs env.wfid.text = none ∧ env.wfid.text ∉ server.scheduler.enqueued

theorem inserted_alike {leftDb rightDb : Database}
    (leftRows : leftDb.workflows.rows =
      left.db.workflows.rows ++ [WorkflowsMg.newRow env project wfd])
    (rightRows : rightDb.workflows.rows =
      right.db.workflows.rows ++ [WorkflowsMg.newRow env project wfd])
    (views : view project left = view project right) (leftUnused : Unused env left)
    (rightUnused : Unused env right) :
    view project { left with db := leftDb } = view project { right with db := rightDb } := by
  obtain ⟨rows, jobs, enqueued, queued⟩ := view_iff.mp views
  have appended : ∀ {server : Server} {db : Database},
      db.workflows.rows = server.db.workflows.rows ++ [WorkflowsMg.newRow env project wfd] →
      rowsOf project { server with db := db } =
        rowsOf project server ++ [WorkflowsMg.newRow env project wfd] := by
    intro server db stored
    simp only [rowsOf, stored, List.filter_append]
    congr 1
    simp [WorkflowsMg.newRow]
  have grown : ∀ wfid, owned project { right with db := rightDb } wfid =
      (owned project right wfid || env.wfid.text == wfid) := by
    intro wfid
    rw [owned, appended rightRows, List.any_append, owned]
    simp [WorkflowsMg.newRow]
  have others : ∀ {server : Server}, Unused env server →
      server.scheduler.enqueued.filter (owned project { right with db := rightDb }) =
        server.scheduler.enqueued.filter (owned project right) := by
    intro server unused
    apply List.filter_congr
    intro wfid member
    have different : env.wfid.text ≠ wfid := by
      rintro rfl
      exact unused.2.2 member
    simp [grown, different]
  refine view_iff.mpr ⟨by rw [appended leftRows, appended rightRows, rows], ?_, ?_, queued⟩
  · intro wfid mine
    by_cases drawn : env.wfid.text = wfid
    · subst drawn
      exact leftUnused.2.1.trans rightUnused.2.1.symm
    · exact jobs wfid (by simpa [grown, drawn] using mine)
  · rw [others leftUnused, others rightUnused, enqueued]

theorem create_alike (views : view project left = view project right)
    (runtimes : RuntimeRegistry.rowsOf left.db project = RuntimeRegistry.rowsOf right.db project)
    (known : left.db.hasProject project = right.db.hasProject project)
    (leftUnused : Unused env left) (rightUnused : Unused env right) :
    (Workflows.handle left (env, .workflow_create project (some wfd))).1 =
        (Workflows.handle right (env, .workflow_create project (some wfd))).1 ∧
      view project (step left (env, .workflow_create project (some wfd))) =
        view project (step right (env, .workflow_create project (some wfd))) := by
  have same : Inserts env left.db project wfd ↔ Inserts env right.db project wfd :=
    inserts_alike known (view_iff.mp views).1 leftUnused.1 rightUnused.1
  by_cases inserts : Inserts env left.db project wfd
  · refine ⟨(create_answer inserts).trans (create_answer (same.mp inserts)).symm, ?_⟩
    obtain ⟨leftDb, leftRows, leftSame, leftStep⟩ := step_create inserts
    obtain ⟨rightDb, rightRows, rightSame, rightStep⟩ := step_create (same.mp inserts)
    rw [leftStep, rightStep]
    have leftRuntimes : leftDb.runtimes = left.db.runtimes := by rw [leftSame]
    have rightRuntimes : rightDb.runtimes = right.db.runtimes := by rw [rightSame]
    refine scheduled_alike rfl
      (inserted_alike leftRows rightRows views leftUnused rightUnused) ?_
    simpa [RuntimeRegistry.rowsOf, leftRuntimes, rightRuntimes] using runtimes
  · have refused : ¬Inserts env right.db project wfd := fun held => inserts (same.mpr held)
    refine ⟨?_, ?_⟩
    · simp only [Workflows.handle, workflow_create, register_insert_refused inserts,
        register_insert_refused refused]
      unfold WorkflowsMg.refusal
      split <;> rfl
    · rw [step_create_refused inserts, step_create_refused refused, views]

/-- No row of another project has the id that the body names. -/
def Own (project : String) (wfd : WorkflowDataWeb) (server : Server) : Prop :=
  ∀ row ∈ server.db.workflows.rows, some row.wfid = wfd.wfid → row.project_id = some project

theorem updates_alike (rows : rowsOf project left = rowsOf project right)
    (leftOwn : Own project wfd left) (rightOwn : Own project wfd right) :
    Updates env left.db wfd ↔ Updates env right.db wfd := by
  rw [Updates, Updates, accepted_map_iff leftOwn, accepted_map_iff rightOwn, rows]

theorem rewritten_alike {leftDb rightDb : Database}
    (leftRows : leftDb.workflows.rows = left.db.workflows.rows.map (rewritten env wfd))
    (rightRows : rightDb.workflows.rows = right.db.workflows.rows.map (rewritten env wfd))
    (views : view project left = view project right) :
    view project { left with db := leftDb } = view project { right with db := rightDb } := by
  obtain ⟨rows, jobs, enqueued, queued⟩ := view_iff.mp views
  have kept : owned project { right with db := rightDb } = owned project right := by
    funext wfid
    rw [owned, rowsOf_rewritten rightRows, List.any_map, owned]
    congr 1
    funext row
    simp [rewritten_wfid]
  refine view_iff.mpr ⟨?_, ?_, ?_, queued⟩
  · rw [rowsOf_rewritten leftRows, rowsOf_rewritten rightRows, rows]
  · rw [kept]
    exact jobs
  · rw [kept]
    exact enqueued

theorem update_alike (views : view project left = view project right)
    (runtimes : RuntimeRegistry.rowsOf left.db project = RuntimeRegistry.rowsOf right.db project)
    (leftOwn : Own project wfd left) (rightOwn : Own project wfd right) :
    (Workflows.handle left (env, .workflow_update project (some wfd))).1 =
        (Workflows.handle right (env, .workflow_update project (some wfd))).1 ∧
      view project (step left (env, .workflow_update project (some wfd))) =
        view project (step right (env, .workflow_update project (some wfd))) := by
  have same : Updates env left.db wfd ↔ Updates env right.db wfd :=
    updates_alike (view_iff.mp views).1 leftOwn rightOwn
  by_cases updates : Updates env left.db wfd
  · refine ⟨(update_answer updates).trans (update_answer (same.mp updates)).symm, ?_⟩
    obtain ⟨leftDb, leftRows, leftSame, leftStep⟩ := step_update updates
    obtain ⟨rightDb, rightRows, rightSame, rightStep⟩ := step_update (same.mp updates)
    obtain ⟨wfid, named, _⟩ := truthy_iff.mp updates.1
    rw [leftStep, rightStep]
    have leftRuntimes : leftDb.runtimes = left.db.runtimes := by rw [leftSame]
    have rightRuntimes : rightDb.runtimes = right.db.runtimes := by rw [rightSame]
    refine scheduled_alike named (rewritten_alike leftRows rightRows views) ?_
    simpa [RuntimeRegistry.rowsOf, leftRuntimes, rightRuntimes] using runtimes
  · have refused : ¬Updates env right.db wfd := fun held => updates (same.mpr held)
    refine ⟨?_, by rw [step_update_refused updates, step_update_refused refused, views]⟩
    by_cases named : truthy wfd.wfid = true
    · have leftRefused := fun held => updates ⟨named, held⟩
      have rightRefused := fun held => refused ⟨named, held⟩
      simp only [Workflows.handle, workflow_update, named, if_true,
        register_update_refused leftRefused, register_update_refused rightRefused]
      unfold WorkflowsMg.refusal
      split <;> rfl
    · simp [Workflows.handle, workflow_update, named]

theorem delete_alike (views : view project left = view project right) (wfid : String) :
    view project (step left (env, .workflow_delete project wfid)) =
      view project (step right (env, .workflow_delete project wfid)) := by
  obtain ⟨rows, jobs, enqueued, queued⟩ := view_iff.mp views
  have deleted : ∀ server : Server, rowsOf project (step server (env, .workflow_delete project wfid)) =
      (rowsOf project server).filter fun row => row.wfid != wfid := by
    intro server
    simp only [rowsOf, step, Workflows.handle, workflow_delete, WorkflowsMg.delete_wf,
      Table.rows_deleteWhere, List.filter_filter]
    apply List.filter_congr
    intro row _
    by_cases mine : row.project_id = some project
    · simp [WorkflowsMg.selectedBy, mine, bne]
    · have other : (row.project_id == some project) = false := beq_false_of_ne mine
      simp [other]
  have shrunk : ∀ (server : Server) other,
      owned project (step server (env, .workflow_delete project wfid)) other =
        (owned project server other && other != wfid) := by
    intro server other
    rw [owned, deleted, owned, Bool.eq_iff_iff]
    simp only [List.any_eq_true, List.mem_filter, Bool.and_eq_true, bne_iff_ne, beq_iff_eq]
    constructor
    · rintro ⟨row, ⟨member, different⟩, rfl⟩
      exact ⟨⟨row, member, rfl⟩, different⟩
    · rintro ⟨⟨row, member, rfl⟩, different⟩
      exact ⟨row, ⟨member, different⟩, rfl⟩
  have removed : ∀ (server : Server) other,
      (step server (env, .workflow_delete project wfid)).scheduler.jobs other =
        if other = wfid then none else server.scheduler.jobs other :=
    fun server other => JobManager.unregister_workflow_jobs server.scheduler wfid other
  refine view_iff.mpr ⟨by rw [deleted, deleted, rows], ?_, ?_, queued⟩
  · intro other mine
    have before : owned project right other = true := by
      rw [shrunk] at mine
      exact (Bool.and_eq_true_iff.mp mine).1
    rw [removed, removed, jobs other before]
  · have filtered : owned project (step right (env, .workflow_delete project wfid)) =
        fun other => owned project right other && other != wfid := funext (shrunk right)
    have waiting : ∀ server : Server,
        (step server (env, .workflow_delete project wfid)).scheduler.enqueued =
          server.scheduler.enqueued := fun _ => rfl
    have twice : ∀ ids : List String,
        ids.filter (fun other => owned project right other && other != wfid) =
          (ids.filter (owned project right)).filter fun other => other != wfid := by
      intro ids
      rw [List.filter_filter]
      exact List.filter_congr fun other _ => Bool.and_comm _ _
    rw [filtered, waiting, waiting, twice, twice, enqueued]

theorem get_by_wfid_alike {first second : Server}
    (rows : rowsOf project first = rowsOf project second) (wfid : String) :
    WorkflowsMg.get_by_wfid_prj first.db project wfid =
      WorkflowsMg.get_by_wfid_prj second.db project wfid := by
  have found : ∀ server : Server,
      server.db.workflows.rows.find? (WorkflowsMg.selectedBy project wfid) =
        (rowsOf project server).find? fun row => row.wfid == wfid := by
    intro server
    rw [rowsOf, List.find?_filter]
    congr 1
    funext row
    simp only [WorkflowsMg.selectedBy, beq_eq_decide, decide_eq_true_eq, Bool.decide_and]
  rw [WorkflowsMg.get_by_wfid_prj, WorkflowsMg.get_by_wfid_prj, found, found, rows]

theorem enqueue_alike (views : view project left = view project right)
    (runtimes : RuntimeRegistry.rowsOf left.db project = RuntimeRegistry.rowsOf right.db project)
    (wfid : String) :
    (Workflows.handle left (env, .workflow_enqueue project wfid)).1 =
        (Workflows.handle right (env, .workflow_enqueue project wfid)).1 ∧
      view project (step left (env, .workflow_enqueue project wfid)) =
        view project (step right (env, .workflow_enqueue project wfid)) := by
  obtain ⟨rows, jobs, enqueued, queued⟩ := view_iff.mp views
  have stored := get_by_wfid_alike rows wfid
  simp only [step, Workflows.handle, workflow_enqueue, SchedulerExec.enqueue_workflow, stored]
  cases WorkflowsMg.get_by_wfid_prj right.db project wfid with
  | error failure => exact ⟨rfl, views⟩
  | ok found =>
      cases found with
      | none => exact ⟨rfl, views⟩
      | some wd =>
          cases enabled : wd.enabled with
          | false => simpa [enabled, bind, Except.bind, pure, Except.pure] using views
          | true =>
              simp only [bind, Except.bind, enabled, if_true, SchedulerExec.enqueue_notebook, pure,
                Except.pure, tasks_alike runtimes]
              refine ⟨trivial, view_iff.mpr ⟨rows, jobs, enqueued, ?_⟩⟩
              simp only [List.filter_append, queued]

end Workflows

section Own

variable {project : String} {left right : Records}

theorem workflows_own {env : Env} {request : Workflows.Request} (mine : request.projectid = project)
    (leftUnshared : Unshared left (.workflows env request))
    (rightUnshared : Unshared right (.workflows env request))
    (alike : seen project left = seen project right) :
    (Workflows.handle left.server (env, request)).1 =
        (Workflows.handle right.server (env, request)).1 ∧
      Workflows.view project (Workflows.step left.server (env, request)) =
        Workflows.view project (Workflows.step right.server (env, request)) := by
  have views : Workflows.view project left.server = Workflows.view project right.server :=
    congrArg Seen.workflows alike
  have runtimes : RuntimeRegistry.rowsOf left.server.db project =
      RuntimeRegistry.rowsOf right.server.db project := congrArg Seen.runtimes alike
  have known : left.server.db.hasProject project = right.server.db.hasProject project :=
    congrArg Seen.known alike
  subst mine
  cases request with
  | workflow_create projectid body =>
      cases body with
      | none => exact ⟨rfl, views⟩
      | some wfd => exact create_alike views runtimes known leftUnshared rightUnshared
  | workflow_update projectid body =>
      cases body with
      | none => exact ⟨rfl, views⟩
      | some wfd => exact update_alike views runtimes leftUnshared rightUnshared
  | workflow_delete projectid wfid => exact ⟨rfl, delete_alike views wfid⟩
  | workflow_enqueue projectid wfid => exact enqueue_alike views runtimes wfid

/-- The runtime rows that have the id of a new one are the project's own. -/
theorem taken_alike {first second : Database} {rid : String}
    (runtimes : RuntimeRegistry.rowsOf first project = RuntimeRegistry.rowsOf second project)
    (own : ∀ row ∈ first.runtimes.rows, row.runtimeid = rid → row.project_id = some project)
    (taken : ∃ row ∈ first.runtimes.rows, row.runtimeid = rid) :
    ∃ row ∈ second.runtimes.rows, row.runtimeid = rid := by
  obtain ⟨row, member, called⟩ := taken
  have mine := RuntimeRegistry.mem_rowsOf.mpr ⟨member, own row member called⟩
  rw [runtimes] at mine
  exact ⟨row, (RuntimeRegistry.mem_rowsOf.mp mine).1, called⟩

theorem created_alike {first second : Database} {rq : RuntimeReq} {id : Nat} {now : DateTime}
    (firstOwn : ∀ row ∈ first.runtimes.rows, row.runtimeid = runtimeid rq →
      row.project_id = some rq.project_id)
    (secondOwn : ∀ row ∈ second.runtimes.rows, row.runtimeid = runtimeid rq →
      row.project_id = some rq.project_id)
    (runtimes : RuntimeRegistry.rowsOf first rq.project_id =
      RuntimeRegistry.rowsOf second rq.project_id)
    (known : first.hasProject rq.project_id = second.hasProject rq.project_id) :
    (RuntimeRegistry.handle first rq.project_id (.runtimes_create (some rq) id now)).1 =
        (RuntimeRegistry.handle second rq.project_id (.runtimes_create (some rq) id now)).1 ∧
      RuntimeRegistry.rowsOf
          (RuntimeRegistry.handle first rq.project_id (.runtimes_create (some rq) id now)).2
          rq.project_id =
        RuntimeRegistry.rowsOf
          (RuntimeRegistry.handle second rq.project_id (.runtimes_create (some rq) id now)).2
          rq.project_id := by
  by_cases refused : first.hasProject rq.project_id = false ∨
      ∃ row ∈ first.runtimes.rows, row.runtimeid = runtimeid rq
  · have also : second.hasProject rq.project_id = false ∨
        ∃ row ∈ second.runtimes.rows, row.runtimeid = runtimeid rq :=
      refused.imp (fun missing => known ▸ missing) (taken_alike runtimes firstOwn)
    simp [RuntimeRegistry.handle, RuntimeRegistry.runtimes_create,
      RuntimeRegistry.create_refused refused, RuntimeRegistry.create_refused also, runtimes]
  · obtain ⟨stored, fresh⟩ := not_or.mp refused
    have free : ¬∃ row ∈ second.runtimes.rows, row.runtimeid = runtimeid rq := fun taken =>
      fresh (taken_alike runtimes.symm secondOwn taken)
    have present : first.hasProject rq.project_id = true := by simpa using stored
    obtain ⟨firstAfter, firstCreated, firstRows⟩ :=
      RuntimeRegistry.create_stored id now present (by simpa using fresh)
    obtain ⟨secondAfter, secondCreated, secondRows⟩ :=
      RuntimeRegistry.create_stored id now (known ▸ present) (by simpa using free)
    simp only [RuntimeRegistry.handle, RuntimeRegistry.runtimes_create, firstCreated, secondCreated]
    refine ⟨trivial, ?_⟩
    unfold RuntimeRegistry.rowsOf at runtimes ⊢
    rw [firstRows, secondRows, List.filter_append, List.filter_append, runtimes]

theorem runtimes_own {request : RuntimeRegistry.Request}
    (leftUnshared : Unshared left (.runtimes project request))
    (rightUnshared : Unshared right (.runtimes project request))
    (runtimes : RuntimeRegistry.rowsOf left.server.db project =
      RuntimeRegistry.rowsOf right.server.db project)
    (known : left.server.db.hasProject project = right.server.db.hasProject project) :
    (RuntimeRegistry.handle left.server.db project request).1 =
        (RuntimeRegistry.handle right.server.db project request).1 ∧
      RuntimeRegistry.rowsOf (RuntimeRegistry.handle left.server.db project request).2 project =
        RuntimeRegistry.rowsOf (RuntimeRegistry.handle right.server.db project request).2
          project := by
  cases request with
  | runtimes_list lt =>
      refine ⟨?_, runtimes⟩
      cases lt with
      | none => rfl
      | some limit =>
          have listed : get_list left.server.db project limit = get_list right.server.db project limit := by
            unfold RuntimeRegistry.rowsOf at runtimes
            rw [get_list, get_list, runtimes]
          simp only [RuntimeRegistry.handle, RuntimeRegistry.runtimes_list, listed]
  | runtimes_create rq id now =>
      cases rq with
      | none => exact ⟨rfl, runtimes⟩
      | some rq =>
          obtain ⟨rfl, leftOwn⟩ := leftUnshared
          obtain ⟨_, rightOwn⟩ := rightUnshared
          exact created_alike leftOwn rightOwn runtimes known
  | runtimes_delete rid =>
      refine ⟨rfl, ?_⟩
      have deleted : ∀ db : Database, RuntimeRegistry.rowsOf (delete_by_rid db rid) project =
          (RuntimeRegistry.rowsOf db project).filter fun row => !(row.runtimeid == rid) := by
        intro db
        simp only [RuntimeRegistry.rowsOf, delete_by_rid, Table.rows_deleteWhere, List.filter_filter]
        exact List.filter_congr fun row _ => Bool.and_comm _ _
      have after : ∀ db : Database,
          (RuntimeRegistry.handle db project (.runtimes_delete rid)).2 = delete_by_rid db rid :=
        fun _ => rfl
      rw [after, after, deleted, deleted, runtimes]

theorem storable_alike {exec_result : ExecutionResult}
    (known : left.server.db.hasProject exec_result.projectid =
      right.server.db.hasProject exec_result.projectid) :
    storable left.server.db exec_result = storable right.server.db exec_result := by
  rw [storable, storable, known]

theorem seen_own (request : Request) (mine : names project request = true)
    (leftUnshared : Unshared left request) (rightUnshared : Unshared right request)
    (alike : seen project left = seen project right) :
    (handle left request).1 = (handle right request).1 ∧
      seen project (Runs.next handle left request) =
        seen project (Runs.next handle right request) := by
  have named : request.projectid = some project := by simpa [names] using mine
  have runtimes : RuntimeRegistry.rowsOf left.server.db project =
      RuntimeRegistry.rowsOf right.server.db project := congrArg Seen.runtimes alike
  have known : left.server.db.hasProject project = right.server.db.hasProject project :=
    congrArg Seen.known alike
  have history : HistoryQueries.rowsOf project (queries left) =
      HistoryQueries.rowsOf project (queries right) := congrArg Seen.history alike
  have agree : HistoryQueries.Agree project (queries right) (queries left) := ⟨history.symm, rfl⟩
  cases request with
  | workflows env request =>
      obtain ⟨answer, views⟩ :=
        workflows_own (Option.some.inj named) leftUnshared rightUnshared alike
      refine ⟨congrArg Answer.workflow answer, ?_⟩
      have after : ∀ records : Records, seen project (Runs.next handle records (.workflows env request)) =
          { workflows := Workflows.view project (Workflows.step records.server (env, request))
            runtimes := RuntimeRegistry.rowsOf records.server.db project
            known := records.server.db.hasProject project
            history := HistoryQueries.rowsOf project (queries records) } := by
        intro records
        have frame := step_frame records.server (env, request)
        have stepped : (Runs.next handle records (.workflows env request)).server =
            Workflows.step records.server (env, request) := rfl
        simp only [seen, stepped, RuntimeRegistry.rowsOf, Database.hasProject]
        rw [frame]
        rfl
      rw [after, after, views, runtimes, known, history]
  | runtimes projectid request =>
      obtain rfl : projectid = project := Option.some.inj named
      obtain ⟨answer, rows⟩ := runtimes_own leftUnshared rightUnshared runtimes known
      refine ⟨congrArg Answer.runtime answer, ?_⟩
      have after : ∀ records : Records,
          seen projectid (Runs.next handle records (.runtimes projectid request)) =
          { workflows := Workflows.view projectid records.server
            runtimes := RuntimeRegistry.rowsOf
              (RuntimeRegistry.handle records.server.db projectid request).2 projectid
            known := records.server.db.hasProject projectid
            history := HistoryQueries.rowsOf projectid (queries records) } := by
        intro records
        have frame := runtimes_frame records.server.db projectid request
        have stepped : (Runs.next handle records (.runtimes projectid request)).server =
            { records.server with
              db := (RuntimeRegistry.handle records.server.db projectid request).2 } := rfl
        simp only [seen, stepped]
        rw [frame]
        rfl
      rw [after, after, rows, known, history]
      exact congrArg (fun view => Seen.mk view _ _ _) (congrArg Seen.workflows alike)
  | history_create exec_result created_at =>
      cases exec_result with
      | none => cases named
      | some exec_result =>
          obtain rfl : exec_result.projectid = project := Option.some.inj named
          simp only [Runs.next, handle, history_create, storable_alike known]
          by_cases stored : storable right.server.db exec_result = true
          · simp only [stored, if_true]
            refine ⟨trivial, ?_⟩
            have appended : ∀ records : Records, seen exec_result.projectid
                { records with
                  history := records.history ++ [⟨HistoryMg.newRow exec_result, created_at⟩] } =
                { seen exec_result.projectid records with
                  history := (seen exec_result.projectid records).history ++
                    [⟨HistoryMg.newRow exec_result, created_at⟩] } := by
              intro records
              simp [seen, queries, HistoryQueries.rowsOf, HistoryMg.newRow]
            rw [appended, appended, alike]
          · simp only [stored, if_false, Bool.false_eq_true]
            exact ⟨trivial, alike⟩
  | history_get_all projectid lt =>
      obtain rfl : projectid = project := Option.some.inj named
      have answered : HistoryQueries.answer (queries left) projectid (.history_get_all lt) =
          HistoryQueries.answer (queries right) projectid (.history_get_all lt) :=
        HistoryQueries.answer_agree agree trivial trivial
      exact ⟨congrArg Answer.history answered, alike⟩
  | history_last_job projectid wfid lt =>
      obtain rfl : projectid = project := Option.some.inj named
      have answered : HistoryQueries.answer (queries left) projectid (.history_last_job wfid lt) =
          HistoryQueries.answer (queries right) projectid (.history_last_job wfid lt) :=
        HistoryQueries.answer_agree agree trivial trivial
      exact ⟨congrArg Answer.history answered, alike⟩
  | history_detail_job projectid execid =>
      obtain rfl : projectid = project := Option.some.inj named
      have answered : HistoryQueries.answer (queries left) projectid (.history_detail_job execid) =
          HistoryQueries.answer (queries right) projectid (.history_detail_job execid) :=
        HistoryQueries.answer_agree agree rightUnshared leftUnshared
      exact ⟨congrArg Answer.history answered, alike⟩

end Own

/-- Two runs in which a project makes the same requests, in any order with those of others, give it
the same answers and leave it the same workflows, jobs, queue entries, runtimes and history, if no
request names an id of another project and every id drawn is new. -/
theorem own_requests_decide (project : String) (left right : Records) (calls others : List Request)
    (same : calls.filter (names project) = others.filter (names project))
    (alike : seen project left = seen project right)
    (leftUnshared : Runs.Along (Runs.next handle) Unshared left calls)
    (rightUnshared : Runs.Along (Runs.next handle) Unshared right others) :
    Runs.answers handle (names project) left calls =
        Runs.answers handle (names project) right others ∧
      seen project (Runs.run (Runs.next handle) left calls) =
        seen project (Runs.run (Runs.next handle) right others) :=
  Runs.answers_determined (fun _ request other unshared => seen_aside request other unshared)
    (fun _ _ request mine first second views => seen_own request mine first second views)
    same alike leftUnshared rightUnshared

section Samples

def records : Records := ⟨Sample.server, []⟩

def ownCalls : List Request :=
  [.workflows Sample.env (.workflow_create "p" (some (Sample.body true (some Sample.daily)))),
    .history_get_all "p" (some 1)]

/-- What the project `q` asks in between. -/
def otherCalls : List Request :=
  [.runtimes "q" (.runtimes_create (some RuntimeRegistry.foreignReq) 1 Sample.morning)]

theorem others_unnoticed :
    Runs.answers handle (names "p") records (otherCalls ++ ownCalls) =
        Runs.answers handle (names "p") records ownCalls ∧
      seen "p" (Runs.run (Runs.next handle) records (otherCalls ++ ownCalls)) =
        seen "p" (Runs.run (Runs.next handle) records ownCalls) := by
  refine own_requests_decide "p" records records (otherCalls ++ ownCalls) ownCalls ?_ rfl ?_ ?_
  · rfl
  · refine ⟨⟨rfl, ?_⟩, ⟨?_, rfl, ?_⟩, trivial, trivial⟩
    · intro row member
      cases member
    · intro row member
      cases member
    · exact List.not_mem_nil
  · refine ⟨⟨?_, rfl, ?_⟩, trivial, trivial⟩
    · intro row member
      cases member
    · exact List.not_mem_nil

end Samples

end ProjectIsolation

end LabFunctions
