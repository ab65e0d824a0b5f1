import LabFunctions.WorkflowTransactions

/-!
An update and a delete of one workflow at the same time. A statement on the row waits while the
other transaction holds it; nothing holds the job.
-/

namespace LabFunctions

namespace WorkflowRaces

open Interleaved WorkflowTransactions

inductive Party where
  | update
  | delete
  deriving DecidableEq, Repr

def Party.other : Party → Party
  | .update => .delete
  | .delete => .update

/-- Which of its actions is a party's statement on the row, counted from zero. -/
def Party.statement : Party → Nat
  | .update => 0
  | .delete => 2

variable {σ : Type}

abbrev Call (σ : Type) := Prog (Backend Party σ) (Except Exn Response)

/-- The two requests, with the number of actions that each has done. -/
structure Race (σ : Type) where
  world : World Party (Backend Party σ) (Except Exn Response)
  acted : Party → Nat := fun _ => 0

def waits (race : Race σ) (turn : Party) : Bool :=
  race.acted turn == turn.statement && (race.world.state.pending turn.other).isSome

def step (race : Race σ) (turn : Party) : Race σ :=
  match race.world.progs turn with
  | .done _ => race
  | .act _ _ =>
      if waits race turn then race
      else { world := Interleaved.step race.world turn
             acted := Function.update race.acted turn (race.acted turn + 1) }

structure Requests where
  env : Env
  projectid : String
  wfid : String
  wfd : WorkflowDataWeb
  schedule : ScheduleData
  named : wfd.wfid = some wfid
  valid : wfid ≠ ""
  present : wfd.schedule = some schedule

def start (libq : Libq σ) (requests : Requests) (db : Database) (scheduler : σ) : Race σ :=
  { world :=
      { state := { db, scheduler }
        progs := fun
          | .update => ExceptT.run (workflow_update libq .update requests.env requests.projectid
              (some requests.wfd))
          | .delete => ExceptT.run (workflow_delete libq .delete requests.projectid requests.wfid) } }

def Completed (race : Race σ) : Prop :=
  ∀ party, ∃ result, race.world.progs party = .done result

/-- The update does not create its job after the delete has removed the workflow's. -/
def Orderly (requests : Requests) (race : Race σ) (turn : Party) : Prop :=
  turn = .update → race.acted .update = lookups requests.wfd + 1 →
    (∃ effect next, race.world.progs .update = .act effect next) → race.acted .delete < 2

/-! The actions of both requests, from the last one back. -/

section Actions

variable (libq : Libq σ) (requests : Requests)

def committing (party : Party) (response : Response) : Call σ :=
  .act (·.commit party) fun _ => .done (.ok response)

def calling (effect : σ → σ) (next : Call σ) : Call σ :=
  .act (fun backend => { backend with scheduler := effect backend.scheduler }) fun _ => next

def enqueuing : Call σ :=
  calling (libq.enqueue_job requests.wfid) (committing .update ⟨201, .wfid (some requests.wfid)⟩)

def creating (ctx : ExecutionNBTask) : Call σ :=
  calling (libq.create_job requests.wfid (jobOf requests.wfd.nbtask requests.wfid requests.schedule ctx))
    (enqueuing libq requests)

def context (runtime : Option RuntimeData) : ExecutionNBTask :=
  Notebooks.create_notebook_ctx requests.env requests.projectid requests.wfd.nbtask
    (some (ExecID requests.env.execid none)) runtime

def looking : Call σ :=
  .act id fun backend => creating libq requests (context requests (RuntimesMg.get_runtime backend.db
    requests.projectid (pyOr requests.wfd.nbtask.runtime "") requests.wfd.nbtask.version))

def registered : Call σ :=
  if truthy requests.wfd.nbtask.runtime then looking libq requests
  else creating libq requests (context requests none)

def deleting : Call σ :=
  .act (fun backend => backend.write .delete
      (WorkflowsMg.delete_wf backend.db requests.projectid requests.wfid))
    fun _ => committing .delete ⟨200, .msg "done"⟩

def removing : Call σ := calling (libq.remove_job requests.wfid) (deleting requests)

def statement (backend : Backend Party σ) : Except Exn (Option String × Database) :=
  WorkflowsMg.register requests.env backend.db requests.projectid requests.wfd true

theorem workflow_update_run :
    ∃ effect next, ExceptT.run (workflow_update libq .update requests.env requests.projectid
        (some requests.wfd)) = .act effect next ∧
      ∀ backend, (∀ wfid db, statement requests backend = .ok (wfid, db) →
          effect backend = backend.write .update db ∧ next backend = registered libq requests) ∧
        ∀ failure, statement requests backend = .error failure →
          effect backend = backend ∧ next backend = .done (.error failure) := by
  have valid : truthy requests.wfd.wfid = true := truthy_iff.mpr ⟨_, requests.named, requests.valid⟩
  simp only [workflow_update, valid, if_true]
  refine ⟨_, _, rfl, ?_⟩
  intro backend
  constructor
  · intro wfid db accepted
    unfold statement at accepted
    obtain ⟨rfl, _, _⟩ := WorkflowsMg.register_update_ok accepted
    simp only [accepted, true_and]
    simp only [scheduleRegistered, requests.named, requests.present, register_workflow, registered,
      WorkflowTransactions.create_task_ctx]
    by_cases looks : truthy requests.wfd.nbtask.runtime = true
    · simp only [looks, if_true]
      rfl
    · simp only [looks]
      rfl
  · intro failure refused
    unfold statement at refused
    simp only [refused, true_and]
    rcases register_update_error refused with rfl | rfl
    · rfl
    · rfl

/-- Where the update can stand after so many actions. -/
inductive UpdateAt : Nat → Call σ → Prop
  | statement : UpdateAt 0 (ExceptT.run (workflow_update libq .update requests.env requests.projectid
      (some requests.wfd)))
  | looking : truthy requests.wfd.nbtask.runtime = true → UpdateAt 1 (looking libq requests)
  | creating ctx : UpdateAt (lookups requests.wfd + 1) (creating libq requests ctx)
  | enqueuing : UpdateAt (lookups requests.wfd + 2) (enqueuing libq requests)
  | committing : UpdateAt (lookups requests.wfd + 3)
      (committing .update ⟨201, .wfid (some requests.wfid)⟩)
  | ended acted result : UpdateAt (acted + 1) (.done result)

theorem updateAt_registered : UpdateAt libq requests 1 (registered libq requests) := by
  unfold registered
  split
  next looks => exact .looking looks
  next plain =>
    have first : lookups requests.wfd + 1 = 1 := by simp [lookups, plain]
    exact first ▸ .creating (context requests none)

inductive DeleteAt : Nat → Call σ → Prop
  | unregistering : DeleteAt 0
      (ExceptT.run (workflow_delete libq .delete requests.projectid requests.wfid))
  | removing : DeleteAt 1 (removing libq requests)
  | deleting : DeleteAt 2 (deleting requests)
  | committing : DeleteAt 3 (committing .delete ⟨200, .msg "done"⟩)
  | ended result : DeleteAt 4 (.done result)

/-- Every row of the workflow stands in the project that both requests name. -/
def Owned (db : Database) : Prop :=
  ∀ row ∈ db.workflows.rows, row.wfid = requests.wfid → row.project_id = some requests.projectid

def Gone (db : Database) : Prop := ∀ row ∈ db.workflows.rows, row.wfid ≠ requests.wfid

variable {requests}

theorem Gone.owned {db : Database} (gone : Gone requests db) : Owned requests db :=
  fun row member same => absurd same (gone row member)

theorem gone_delete_wf {db : Database} (owned : Owned requests db) :
    Gone requests (WorkflowsMg.delete_wf db requests.projectid requests.wfid) := by
  intro row member same
  simp only [WorkflowsMg.delete_wf, Table.rows_deleteWhere, List.mem_filter] at member
  have selected := WorkflowsMg.selectedBy_iff.mpr ⟨owned row member.1 same, same⟩
  simp [selected] at member

theorem mem_statement {backend : Backend Party σ} {wfid : Option String} {db : Database}
    (accepted : statement requests backend = .ok (wfid, db)) {row : WorkflowModel}
    (member : row ∈ db.workflows.rows) :
    ∃ old ∈ backend.db.workflows.rows, old.wfid = row.wfid ∧ old.project_id = row.project_id := by
  obtain ⟨_, _, rows⟩ := WorkflowsMg.register_update_ok accepted
  rw [rows, List.mem_map] at member
  obtain ⟨old, inside, rfl⟩ := member
  refine ⟨old, inside, ?_⟩
  split
  · exact ⟨rfl, rfl⟩
  · exact ⟨rfl, rfl⟩

theorem owned_statement {backend : Backend Party σ} {wfid : Option String} {db : Database}
    (accepted : statement requests backend = .ok (wfid, db)) (owned : Owned requests backend.db) :
    Owned requests db := by
  intro row member same
  obtain ⟨old, inside, sameId, sameProject⟩ := mem_statement accepted member
  rw [← sameProject]
  exact owned old inside (sameId.trans same)

theorem gone_statement {backend : Backend Party σ} {wfid : Option String} {db : Database}
    (accepted : statement requests backend = .ok (wfid, db)) (gone : Gone requests backend.db) :
    Gone requests db := by
  intro row member same
  obtain ⟨old, inside, sameId, _⟩ := mem_statement accepted member
  exact gone old inside (sameId.trans same)

end Actions

/-- What every step of a race keeps. The job is there after the delete has removed it just in case
the update has been `late`. -/
structure Kept (libq : Libq σ) (requests : Requests) (late : Prop) (race : Race σ) : Prop where
  update : UpdateAt libq requests (race.acted .update) (race.world.progs .update)
  delete : DeleteAt libq requests (race.acted .delete) (race.world.progs .delete)
  owned : Owned requests race.world.state.db
  gone : 4 ≤ race.acted .delete → Gone requests race.world.state.db
  updating : ∀ db, race.world.state.pending .update = some db → Owned requests db ∧
    (4 ≤ race.acted .delete → Gone requests db) ∧ race.world.state.pending .delete = none
  untouched : race.acted .update = 0 → race.world.state.pending .update = none
  deleting : race.acted .delete = 3 →
    ∃ db, race.world.state.pending .delete = some db ∧ Gone requests db
  released : race.acted .delete ≠ 3 → race.world.state.pending .delete = none
  early : race.acted .delete < 2 → ¬late
  job : 2 ≤ race.acted .delete →
    ((libq.jobs race.world.state.scheduler requests.wfid).isSome = true ↔ late)

section Steps

variable {libq : Libq σ} {requests : Requests} {late : Prop} {race : Race σ}

def moved (race : Race σ) (turn : Party) (state : Backend Party σ) (prog : Call σ) : Race σ :=
  { world := { state, progs := Function.update race.world.progs turn prog }
    acted := Function.update race.acted turn (race.acted turn + 1) }

theorem step_moved {turn : Party} {effect : Backend Party σ → Backend Party σ}
    {next : Backend Party σ → Call σ} (acts : race.world.progs turn = .act effect next)
    (free : waits race turn = false) :
    step race turn = moved race turn (effect race.world.state) (next race.world.state) := by
  rw [step, acts]
  simp [free, step_act acts, moved]

theorem free_of_ne {turn : Party} (elsewhere : race.acted turn ≠ turn.statement) :
    waits race turn = false := by
  simp [waits, elsewhere]

theorem kept_update_call (kept : Kept libq requests late race) {later : Prop} {scheduler : σ}
    {prog : Call σ} (next : UpdateAt libq requests (race.acted .update + 1) prog)
    (early : race.acted .delete < 2 → ¬later)
    (job : 2 ≤ race.acted .delete →
      ((libq.jobs scheduler requests.wfid).isSome = true ↔ later)) :
    Kept libq requests later
      (moved race .update { race.world.state with scheduler := scheduler } prog) := by
  refine ⟨?_, ?_, kept.owned, ?_, ?_, ?_, ?_, ?_, ?_, ?_⟩
  · simpa [moved] using next
  · simpa [moved] using kept.delete
  · simpa [moved] using kept.gone
  · simpa [moved] using kept.updating
  · simp [moved]
  · simpa [moved] using kept.deleting
  · simpa [moved] using kept.released
  · simpa [moved] using early
  · simpa [moved] using job

theorem kept_update_statement (kept : Kept libq requests late race) (free : waits race .update = false)
    (first : race.acted .update = 0) {wfid : Option String} {db : Database}
    (accepted : statement requests race.world.state = .ok (wfid, db)) {prog : Call σ}
    (next : UpdateAt libq requests 1 prog) :
    Kept libq requests late (moved race .update (race.world.state.write .update db) prog) := by
  have unlocked : race.world.state.pending .delete = none := by
    simpa [waits, first, Party.statement, Party.other] using free
  refine ⟨?_, ?_, kept.owned, ?_, ?_, ?_, ?_, ?_, ?_, ?_⟩
  · simpa [moved, first] using next
  · simpa [moved] using kept.delete
  · simpa [moved, Backend.write] using kept.gone
  · intro written same
    obtain rfl : db = written := by simpa [moved, Backend.write] using same
    refine ⟨owned_statement accepted kept.owned, ?_, ?_⟩
    · intro through
      exact gone_statement accepted (kept.gone (by simpa [moved] using through))
    · simpa [moved, Backend.write] using unlocked
  · simp [moved]
  · simpa [moved, Backend.write] using kept.deleting
  · simpa [moved, Backend.write] using kept.released
  · simpa [moved] using kept.early
  · simpa [moved, Backend.write] using kept.job

theorem kept_update_commit (kept : Kept libq requests late race) {prog : Call σ}
    (next : UpdateAt libq requests (race.acted .update + 1) prog) :
    Kept libq requests late (moved race .update (race.world.state.commit .update) prog) := by
  refine ⟨?_, ?_, ?_, ?_, ?_, ?_, ?_, ?_, ?_, ?_⟩
  · simpa [moved] using next
  · simpa [moved] using kept.delete
  · cases written : race.world.state.pending .update with
    | none => simpa [moved, Backend.commit, written] using kept.owned
    | some db => simpa [moved, Backend.commit, written] using (kept.updating db written).1
  · cases written : race.world.state.pending .update with
    | none => simpa [moved, Backend.commit, written] using kept.gone
    | some db => simpa [moved, Backend.commit, written] using (kept.updating db written).2.1
  · simp [moved, Backend.commit]
  · simp [moved]
  · simpa [moved, Backend.commit] using kept.deleting
  · simpa [moved, Backend.commit] using kept.released
  · simpa [moved] using kept.early
  · simpa [moved, Backend.commit] using kept.job

theorem orderly_of_acted (elsewhere : race.acted .update ≠ lookups requests.wfd + 1) :
    Orderly requests race .update :=
  fun _ acted _ => absurd acted elsewhere

/-- The first action of the update, which waits while the delete holds the row. -/
theorem kept_step_statement (kept : Kept libq requests late race) (acted : race.acted .update = 0)
    (acts : race.world.progs .update = ExceptT.run
      (workflow_update libq .update requests.env requests.projectid (some requests.wfd))) :
    Kept libq requests late (step race .update) := by
  obtain ⟨effect, next, shape, outcomes⟩ := workflow_update_run libq requests
  rw [shape] at acts
  cases free : waits race .update with
  | true =>
      rw [step, acts]
      simpa [free] using kept
  | false =>
      rw [step_moved acts free]
      cases accepted : statement requests race.world.state with
      | ok result =>
          obtain ⟨wfid, db⟩ := result
          obtain ⟨effects, goes⟩ := (outcomes race.world.state).1 wfid db accepted
          rw [effects, goes]
          apply kept_update_statement kept free acted accepted
          exact updateAt_registered libq requests
      | error failure =>
          obtain ⟨effects, goes⟩ := (outcomes race.world.state).2 failure accepted
          rw [effects, goes]
          exact kept_update_call kept (.ended _ _) kept.early kept.job

/-- The `create_job` of the update is late if the delete has removed the job. -/
theorem kept_step_creating (kept : Kept libq requests late race) {ctx : ExecutionNBTask}
    (acted : race.acted .update = lookups requests.wfd + 1)
    (acts : race.world.progs .update = creating libq requests ctx) :
    Kept libq requests (late ∨ ¬Orderly requests race .update) (step race .update) := by
  rw [step_moved acts (free_of_ne (by simp [acted, Party.statement]))]
  have late_iff : Orderly requests race .update ↔ race.acted .delete < 2 :=
    ⟨fun met => met rfl acted ⟨_, _, acts⟩, fun early _ _ _ => early⟩
  refine kept_update_call kept ?_ ?_ ?_
  · rw [acted]
    exact .enqueuing
  · intro early
    simp [kept.early early, late_iff, early]
  · intro removed
    have past : ¬race.acted .delete < 2 := by omega
    simp [libq.jobs_create_job, late_iff, past]

theorem kept_step_update (kept : Kept libq requests late race) :
    Kept libq requests (late ∨ ¬Orderly requests race .update) (step race .update) := by
  have orderly : Orderly requests race .update →
      Kept libq requests late (step race .update) →
      Kept libq requests (late ∨ ¬Orderly requests race .update) (step race .update) := by
    intro met next
    simpa [met] using next
  have at_ := kept.update
  generalize acted : race.acted .update = count at at_
  generalize acts : race.world.progs .update = prog at at_
  cases at_ with
  | statement =>
      apply orderly (orderly_of_acted (by omega))
      exact kept_step_statement kept acted acts
  | looking looks =>
      have one : lookups requests.wfd = 1 := by simp [lookups, looks]
      apply orderly (orderly_of_acted (by omega))
      rw [step_moved acts (free_of_ne (by simp [acted, Party.statement]))]
      refine kept_update_call kept ?_ kept.early kept.job
      have next : race.acted .update + 1 = lookups requests.wfd + 1 := by omega
      rw [next]
      exact .creating _
  | creating ctx => exact kept_step_creating kept acted acts
  | enqueuing =>
      apply orderly (orderly_of_acted (by omega))
      rw [step_moved acts (free_of_ne (by simp [acted, Party.statement]))]
      refine kept_update_call kept ?_ kept.early ?_
      · rw [acted]
        exact .committing
      · simpa only [libq.jobs_enqueue_job] using kept.job
  | committing =>
      apply orderly (orderly_of_acted (by omega))
      rw [step_moved acts (free_of_ne (by simp [acted, Party.statement]))]
      exact kept_update_commit kept (.ended _ _)
  | ended count result =>
      refine orderly ?_ ?_
      · rintro _ _ ⟨effect, next, shape⟩
        rw [acts] at shape
        cases shape
      · rw [step, acts]
        exact kept

theorem kept_delete_call (kept : Kept libq requests late race) {scheduler : σ} {prog : Call σ}
    (next : DeleteAt libq requests (race.acted .delete + 1) prog) (calls : race.acted .delete < 2)
    (job : race.acted .delete = 1 → (libq.jobs scheduler requests.wfid).isSome = false) :
    Kept libq requests late
      (moved race .delete { race.world.state with scheduler := scheduler } prog) := by
  have early := kept.early calls
  refine ⟨?_, ?_, kept.owned, ?_, ?_, ?_, ?_, ?_, ?_, ?_⟩
  · simpa [moved] using kept.update
  · simpa [moved] using next
  · intro through
    simp only [moved, Function.update_self] at through
    omega
  · intro db written
    obtain ⟨owned, _, unlocked⟩ := kept.updating db written
    refine ⟨owned, ?_, unlocked⟩
    intro through
    simp only [moved, Function.update_self] at through
    omega
  · simpa [moved] using kept.untouched
  · intro through
    simp only [moved, Function.update_self] at through
    omega
  · intro _
    exact kept.released (by omega)
  · intro _
    exact early
  · intro removed
    simp only [moved, Function.update_self] at removed ⊢
    simp [job (by omega), early]

theorem kept_delete_statement (kept : Kept libq requests late race) (acted : race.acted .delete = 2)
    (free : waits race .delete = false) :
    Kept libq requests late (moved race .delete
      (race.world.state.write .delete
        (WorkflowsMg.delete_wf race.world.state.db requests.projectid requests.wfid))
      (committing .delete ⟨200, .msg "done"⟩)) := by
  have unlocked : race.world.state.pending .update = none := by
    simpa [waits, acted, Party.statement, Party.other] using free
  refine ⟨?_, ?_, kept.owned, ?_, ?_, ?_, ?_, ?_, ?_, ?_⟩
  · simpa [moved] using kept.update
  · simpa [moved, acted] using DeleteAt.committing
  · simp [moved, acted]
  · simp [moved, Backend.write, unlocked]
  · simpa [moved, Backend.write] using kept.untouched
  · intro _
    exact ⟨_, by simp [moved, Backend.write], gone_delete_wf kept.owned⟩
  · simp [moved, acted]
  · simp [moved, acted]
  · simpa [moved, acted, Backend.write] using kept.job

theorem kept_delete_commit (kept : Kept libq requests late race) (acted : race.acted .delete = 3)
    (response : Response) :
    Kept libq requests late
      (moved race .delete (race.world.state.commit .delete) (.done (.ok response))) := by
  obtain ⟨db, written, gone⟩ := kept.deleting acted
  have committed : (race.world.state.commit .delete).db = db := by simp [Backend.commit, written]
  refine ⟨?_, ?_, ?_, ?_, ?_, ?_, ?_, ?_, ?_, ?_⟩
  · simpa [moved] using kept.update
  · have last : DeleteAt libq requests 4 (.done (.ok response)) := .ended _
    simpa [moved, acted] using last
  · exact committed ▸ gone.owned
  · intro _
    exact committed ▸ gone
  · intro other updated
    obtain ⟨_, _, unlocked⟩ := kept.updating other (by simpa [moved, Backend.commit] using updated)
    simp [written] at unlocked
  · simpa [moved, Backend.commit] using kept.untouched
  · simp [moved, acted]
  · simp [moved, Backend.commit]
  · simp [moved, acted]
  · simpa [moved, acted, Backend.commit] using kept.job

theorem kept_step_delete (kept : Kept libq requests late race) :
    Kept libq requests late (step race .delete) := by
  have at_ := kept.delete
  generalize acted : race.acted .delete = count at at_
  generalize acts : race.world.progs .delete = prog at at_
  cases at_ with
  | unregistering =>
      rw [step_moved acts (free_of_ne (by simp [acted, Party.statement]))]
      refine kept_delete_call kept ?_ (by omega) (by omega)
      rw [acted]
      exact .removing
  | removing =>
      rw [step_moved acts (free_of_ne (by simp [acted, Party.statement]))]
      refine kept_delete_call kept ?_ (by omega) ?_
      · rw [acted]
        exact .deleting
      · intro _
        simp [libq.jobs_remove_job]
  | deleting =>
      cases free : waits race .delete with
      | true => rw [step, acts]; simpa [deleting, free] using kept
      | false =>
          rw [step_moved acts free]
          exact kept_delete_statement kept acted free
  | committing =>
      rw [step_moved acts (free_of_ne (by simp [acted, Party.statement]))]
      exact kept_delete_commit kept acted _
  | ended result =>
      rw [step, acts]
      exact kept

theorem kept_step (kept : Kept libq requests late race) (turn : Party) :
    Kept libq requests (late ∨ ¬Orderly requests race turn) (step race turn) := by
  cases turn with
  | update => exact kept_step_update kept
  | delete =>
      have orderly : Orderly requests race .delete := fun other => by cases other
      simpa [orderly] using kept_step_delete kept

theorem kept_run (kept : Kept libq requests late race) (turns : List Party) :
    Kept libq requests (late ∨ ¬Runs.Along step (Orderly requests) race turns)
      (Runs.run step race turns) := by
  induction turns generalizing race late with
  | nil => simpa [Runs.run] using kept
  | cons turn rest ih =>
      have next := ih (kept_step kept turn)
      rwa [or_assoc, ← not_and_or] at next

theorem kept_start (libq : Libq σ) {db : Database} (scheduler : σ) (owned : Owned requests db) :
    Kept libq requests False (start libq requests db scheduler) := by
  refine ⟨.statement, .unregistering, owned, ?_, ?_, ?_, ?_, ?_, ?_, ?_⟩
  · simp [start]
  · simp [start]
  · simp [start]
  · simp [start]
  · simp [start]
  · simp
  · simp [start]

end Steps

/-- When both requests are through, the job exists just in case the row does, exactly when the
update has not created the job after the delete has removed it. -/
theorem job_iff_row_iff_orderly (libq : Libq σ) (requests : Requests) (db : Database) (scheduler : σ)
    (existing : ∃ row ∈ db.workflows.rows,
      row.wfid = requests.wfid ∧ row.project_id = some requests.projectid)
    (turns : List Party)
    (completed : Completed (Runs.run step (start libq requests db scheduler) turns)) :
    let final := (Runs.run step (start libq requests db scheduler) turns).world.state
    ((libq.jobs final.scheduler requests.wfid).isSome = true ↔
        ∃ row ∈ final.db.workflows.rows, row.wfid = requests.wfid) ↔
      Runs.Along step (Orderly requests) (start libq requests db scheduler) turns := by
  intro final
  obtain ⟨stored, member, named, inProject⟩ := existing
  have owned : Owned requests db := by
    intro row inside same
    obtain rfl := WorkflowTable.row_unique inside member (same.trans named.symm)
    exact inProject
  have kept := kept_run (kept_start libq scheduler owned) turns
  have through : 4 ≤ (Runs.run step (start libq requests db scheduler) turns).acted .delete := by
    obtain ⟨result, ended⟩ := completed .delete
    have at_ := kept.delete
    rw [ended] at at_
    generalize (Runs.run step (start libq requests db scheduler) turns).acted .delete = count at at_
    cases at_
    exact Nat.le_refl 4
  have gone : ¬∃ row ∈ final.db.workflows.rows, row.wfid = requests.wfid := by
    rintro ⟨row, inside, same⟩
    exact kept.gone through row inside same
  have job := kept.job (by omega)
  rw [iff_false_right gone, job]
  simp

namespace Sample

def row : WorkflowModel :=
  { wfid := "w"
    alias_ := "nightly"
    nbtask := .dict LabFunctions.Sample.task.dict
    schedule := .dict LabFunctions.Sample.daily.dict
    project_id := some "p"
    updated_at := LabFunctions.Sample.env.now }

def db : Database := { LabFunctions.Sample.db with workflows := ⟨[row], by decide⟩ }

def scheduler : Scheduler :=
  JobManager.register_workflow LabFunctions.Sample.env db {} "p"
    (LabFunctions.Sample.body true (some LabFunctions.Sample.daily)) "w" LabFunctions.Sample.daily

def requests : Requests where
  env := LabFunctions.Sample.env
  projectid := "p"
  wfid := "w"
  wfd := { LabFunctions.Sample.body true (some LabFunctions.Sample.daily) with wfid := some "w" }
  schedule := LabFunctions.Sample.daily
  named := rfl
  valid := by decide
  present := rfl

def race (turns : List Party) : Race Scheduler :=
  Runs.run step (start Scheduler.libq requests db scheduler) turns

/-- The update goes between the delete's calls to the scheduler and its statement. -/
def between : List Party :=
  [.delete, .delete, .update, .update, .update, .update, .delete, .delete]

/-- The update has created its job before the delete begins; the delete waits for the row. -/
def before : List Party :=
  [.update, .update, .delete, .delete, .delete, .update, .update, .delete, .delete]

end Sample

theorem job_iff_row_iff_orderly_before :
    Completed (Sample.race Sample.before) ∧
      ((((Sample.race Sample.before).world.state.scheduler.jobs "w").isSome = true ↔
          ∃ row ∈ (Sample.race Sample.before).world.state.db.workflows.rows, row.wfid = "w") ↔
        Runs.Along step (Orderly Sample.requests)
          (start Scheduler.libq Sample.requests Sample.db Sample.scheduler) Sample.before) := by
  have completed : Completed (Sample.race Sample.before) := by
    rintro (_ | _)
    · exact ⟨_, rfl⟩
    · exact ⟨_, rfl⟩
  exact ⟨completed, job_iff_row_iff_orderly Scheduler.libq Sample.requests Sample.db Sample.scheduler
    ⟨Sample.row, List.mem_cons_self .., rfl, rfl⟩ Sample.before completed⟩

theorem job_without_row :
    Completed (Sample.race Sample.between) ∧
      ((Sample.race Sample.between).world.state.scheduler.jobs "w").isSome = true ∧
      (Sample.race Sample.between).world.state.db.workflows.rows.length = 0 := by
  refine ⟨?_, by decide, by decide⟩
  rintro (_ | _)
  · exact ⟨_, rfl⟩
  · exact ⟨_, rfl⟩

end WorkflowRaces

end LabFunctions
