import LabFunctions.WorkflowTransactions

/-!
The write handlers of the workflows when one of their actions fails: the rows are rolled back, what
the scheduler has been told by then stays.
-/

namespace LabFunctions

namespace WorkflowFaults

open Workflows WorkflowTransactions

variable {σ : Type} (libq : Libq σ)

def Succeeds : Write → Response → Prop
  | .workflow_delete _ _, response => response.status = 200
  | _, response => response.status = 201

structure Unharmed (before after : Backend Unit σ) : Prop where
  db : after.db = before.db
  jobs : libq.jobs after.scheduler = libq.jobs before.scheduler

/-- The request fails before its `create_job` or not at all, or the job was there already. -/
def SparedWrite (env : Env) (before : Backend Unit σ) (projectid : String) (wfd : WorkflowDataWeb)
    (wfid : String) (actions : Nat) : Prop :=
  ∀ schedule, wfd.schedule = some schedule →
    actions ≤ lookups wfd + 1 ∨ lookups wfd + 4 ≤ actions ∨
      libq.jobs before.scheduler wfid =
        some (JobManager.workflowJob env before.db projectid wfid wfd.nbtask schedule)

/-- The request fails before its first call or not at all, or the calls have no job to take away. -/
def SparedDelete (before : Backend Unit σ) (wfid : String) (actions : Nat) : Prop :=
  actions = 0 ∨ 4 ≤ actions ∨
    (actions = 1 ∧ libq.jobs (libq.unregister_job wfid before.scheduler) wfid =
      libq.jobs before.scheduler wfid) ∨
    (2 ≤ actions ∧ libq.jobs before.scheduler wfid = none)

def Spared (env : Env) (before : Backend Unit σ) (actions : Nat) : Write → Prop
  | .workflow_create projectid body => ∀ wfd, body = some wfd → Inserts env before.db projectid wfd →
      SparedWrite libq env before projectid wfd env.wfid.text actions
  | .workflow_update projectid body => ∀ wfd wfid, body = some wfd → wfd.wfid = some wfid →
      Updates env before.db wfd → SparedWrite libq env before projectid wfd wfid actions
  | .workflow_delete _ wfid => SparedDelete libq before wfid actions

theorem jobs_registering (wfid : String) (job : Job) (calls : Nat) (scheduler : σ) :
    libq.jobs (registering libq wfid job calls scheduler) = libq.jobs scheduler ↔
      calls = 0 ∨ libq.jobs scheduler wfid = some job := by
  rcases calls with _ | _ | calls
  · simp [registering]
  · simp [registering, libq.jobs_create_job, eq_comm]
  · simp [registering, libq.jobs_enqueue_job, libq.jobs_create_job, eq_comm]

theorem jobs_unregister_job (wfid : String) (scheduler : σ) :
    libq.jobs (libq.unregister_job wfid scheduler) = libq.jobs scheduler ↔
      libq.jobs (libq.unregister_job wfid scheduler) wfid = libq.jobs scheduler wfid := by
  constructor
  · intro same
    rw [same]
  · intro own
    funext other
    by_cases same : other = wfid
    · rw [same, own]
    · exact libq.jobs_unregister_job wfid other scheduler same

theorem jobs_unregistered (wfid : String) (scheduler : σ) :
    libq.jobs (libq.remove_job wfid (libq.unregister_job wfid scheduler)) = libq.jobs scheduler ↔
      libq.jobs scheduler wfid = none := by
  rw [libq.jobs_remove_job]
  constructor
  · intro same
    rw [← same, Function.update_self]
  · intro none
    funext other
    by_cases same : other = wfid
    · rw [same, Function.update_self, none]
    · rw [Function.update_of_ne same, libq.jobs_unregister_job wfid other scheduler same]

theorem sparedWrite_iff (env : Env) (before : Backend Unit σ) (projectid : String)
    (wfd : WorkflowDataWeb) (wfid : String) (actions : Nat) :
    SparedWrite libq env before projectid wfd wfid actions ↔
      scheduling wfd + 1 < actions ∨
        libq.jobs (scheduled libq env projectid wfd before.db wfid (actions - 1) before.scheduler) =
          libq.jobs before.scheduler := by
  cases present : wfd.schedule with
  | none => simp [SparedWrite, present, scheduled]
  | some schedule =>
      simp only [SparedWrite, present, scheduled, scheduling, Option.isSome_some, if_true,
        jobs_registering, Option.some.injEq, forall_eq']
      by_cases job : libq.jobs before.scheduler wfid =
          some (JobManager.workflowJob env before.db projectid wfid wfd.nbtask schedule)
      · simp [job]
      · simp only [job, or_false]
        omega

theorem sparedDelete_iff (before : Backend Unit σ) (wfid : String) (actions : Nat) :
    SparedDelete libq before wfid actions ↔
      4 ≤ actions ∨ libq.jobs (unregistering libq wfid actions before.scheduler) =
        libq.jobs before.scheduler := by
  rcases actions with _ | _ | actions
  · simp [SparedDelete, unregistering]
  · simp [SparedDelete, unregistering, jobs_unregister_job]
  · simp [SparedDelete, unregistering, jobs_unregistered]

theorem unharmed_self (backend : Backend Unit σ) : Unharmed libq backend backend := ⟨rfl, rfl⟩

section Outcomes

variable {write : Write} {before : Backend Unit σ} {actions total : Nat} {done : Response}
  {after : Backend Unit σ} {scheduler : σ}

/-- A handler that either gets through, and succeeds, or fails with the jobs it has come to. -/
theorem unharmed_through (succeeds : Succeeds write done) (fails : ¬Succeeds write failed) :
    (¬Succeeds write (if total < actions then (done, after)
        else (failed, { before with scheduler := scheduler })).1 →
      Unharmed libq before (if total < actions then (done, after)
        else (failed, { before with scheduler := scheduler })).2) ↔
      total < actions ∨ libq.jobs scheduler = libq.jobs before.scheduler := by
  by_cases through : total < actions
  · simp [through, succeeds]
  · simp only [through, if_false, fails, not_false_eq_true, true_imp_iff, false_or]
    exact ⟨Unharmed.jobs, fun same => ⟨rfl, same⟩⟩

end Outcomes

section Requests

variable {env : Env} {before : Backend Unit σ} (clear : before.pending () = none)
  (projectid : String) (actions : Nat)

/-- The request, if it does not succeed, has left rows and jobs as they were. -/
def Harmless (env : Env) (before : Backend Unit σ) (actions : Nat) (write : Write) : Prop :=
  let outcome := answered () (handler libq () env write) actions before
  ¬Succeeds write outcome.1 → Unharmed libq before outcome.2

theorem harmless_of_returned {write : Write} {response : Response}
    (returned : answered () (handler libq () env write) actions before = (response, before)) :
    Harmless libq env before actions write := by
  intro _
  simp only [returned]
  exact unharmed_self libq before

theorem spared_of_refused {wfd : WorkflowDataWeb} (refused : ¬Updates env before.db wfd) :
    Spared libq env before actions (.workflow_update projectid (some wfd)) := by
  rintro _ wfid ⟨⟩ _ updates
  exact absurd updates refused

theorem spared_update_iff {wfd : WorkflowDataWeb} {wfid : String} (named : wfd.wfid = some wfid)
    (updates : Updates env before.db wfd) :
    Spared libq env before actions (.workflow_update projectid (some wfd)) ↔
      SparedWrite libq env before projectid wfd wfid actions := by
  constructor
  · intro every
    exact every wfd wfid rfl named updates
  · rintro kept _ other ⟨⟩ otherNamed _
    obtain rfl := Option.some.inj (named.symm.trans otherNamed)
    exact kept

include clear

theorem harmless_create_iff (body : Option WorkflowDataWeb) :
    Harmless libq env before actions (.workflow_create projectid body) ↔
      Spared libq env before actions (.workflow_create projectid body) := by
  have fails : ¬Succeeds (.workflow_create projectid body) failed := by simp [Succeeds, failed]
  cases body with
  | none =>
      apply iff_of_true (harmless_of_returned libq actions (answered_return ..))
      intro wfd impossible
      cases impossible
  | some wfd =>
      simp only [Spared, Option.some.injEq, forall_eq']
      cases registered : WorkflowsMg.register env before.db projectid wfd with
      | ok result =>
          obtain ⟨wfid, next⟩ := result
          obtain ⟨rfl, _, _⟩ := WorkflowsMg.register_insert_ok registered
          have inserts := (register_insert_iff env before.db projectid wfd).mp ⟨_, registered⟩
          simp only [inserts, true_imp_iff, sparedWrite_iff, Harmless, handler]
          rw [answered_create libq () env projectid wfd clear registered]
          exact unharmed_through libq rfl fails
      | error failure =>
          have refused : ¬Inserts env before.db projectid wfd := by
            rw [← register_insert_iff, registered]
            simp
          refine iff_of_true (harmless_of_returned libq actions
            (answered_create_refused libq () env projectid wfd clear registered actions)) ?_
          intro inserts
          exact absurd inserts refused

theorem harmless_update_iff (body : Option WorkflowDataWeb) :
    Harmless libq env before actions (.workflow_update projectid body) ↔
      Spared libq env before actions (.workflow_update projectid body) := by
  have fails : ¬Succeeds (.workflow_update projectid body) failed := by simp [Succeeds, failed]
  cases body with
  | none =>
      apply iff_of_true (harmless_of_returned libq actions (answered_return ..))
      intro wfd wfid impossible
      cases impossible
  | some wfd =>
      by_cases valid : truthy wfd.wfid = true
      · obtain ⟨wfid, named, _⟩ := truthy_iff.mp valid
        cases registered : WorkflowsMg.register env before.db projectid wfd true with
        | ok result =>
            obtain ⟨_, next⟩ := result
            obtain ⟨rfl, _, _⟩ := WorkflowsMg.register_update_ok registered
            have updates : Updates env before.db wfd :=
              ⟨valid, (register_update_iff env before.db projectid wfd).mp ⟨_, registered⟩⟩
            rw [named] at registered
            rw [spared_update_iff libq projectid actions named updates, sparedWrite_iff]
            simp only [Harmless, handler]
            rw [answered_update libq () env projectid wfd clear named valid registered]
            exact unharmed_through libq rfl fails
        | error failure =>
            have refused : ¬Updates env before.db wfd := by
              rintro ⟨_, accepted⟩
              rw [← register_update_iff env before.db projectid wfd, registered] at accepted
              simp at accepted
            exact iff_of_true (harmless_of_returned libq actions
              (answered_update_refused libq () env projectid wfd clear valid registered actions))
              (spared_of_refused libq projectid actions refused)
      · have refused : ¬Updates env before.db wfd := fun updates => valid updates.1
        have rejected : ∃ response, answered () (handler libq () env
            (.workflow_update projectid (some wfd))) actions before = (response, before) := by
          simp only [handler, WorkflowTransactions.workflow_update, valid]
          rw [if_neg (by simp), answered_return]
          exact ⟨_, rfl⟩
        obtain ⟨_, returned⟩ := rejected
        exact iff_of_true (harmless_of_returned libq actions returned)
          (spared_of_refused libq projectid actions refused)

theorem harmless_delete_iff (wfid : String) :
    Harmless libq env before actions (.workflow_delete projectid wfid) ↔
      Spared libq env before actions (.workflow_delete projectid wfid) := by
  have fails : ¬Succeeds (.workflow_delete projectid wfid) failed := by simp [Succeeds, failed]
  simp only [Harmless, handler, answered_delete libq () projectid clear, Spared, sparedDelete_iff]
  exact unharmed_through libq rfl fails

end Requests

/-- A request that does not succeed leaves rows and jobs as they were exactly when it fails before
it has told the scheduler anything that changes its jobs. -/
theorem unharmed_iff_spared (env : Env) (db : Database) (scheduler : σ) (write : Write)
    (actions : Nat) :
    let before : Backend Unit σ := { db, scheduler }
    let outcome := answered () (handler libq () env write) actions before
    (¬Succeeds write outcome.1 → Unharmed libq before outcome.2) ↔
      Spared libq env before actions write := by
  intro before outcome
  have clear : before.pending () = none := rfl
  cases write with
  | workflow_create projectid body => exact harmless_create_iff libq clear projectid actions body
  | workflow_update projectid body => exact harmless_update_iff libq clear projectid actions body
  | workflow_delete projectid wfid => exact harmless_delete_iff libq clear projectid actions wfid

namespace Sample

def before : Backend Unit Scheduler := { db := LabFunctions.Sample.db, scheduler := {} }

/-- The creation whose `enqueue_job` fails: the row and `create_job` have gone before it. -/
def outcome : Response × Backend Unit Scheduler :=
  answered () (handler Scheduler.libq () LabFunctions.Sample.env
    (.workflow_create "p" (some
      (LabFunctions.Sample.body true (some LabFunctions.Sample.daily))))) 2 before

end Sample

theorem failed_create_leaves_job :
    Sample.outcome.1.status = 500 ∧ Sample.outcome.2.db.workflows.rows.length = 0 ∧
      (Sample.before.scheduler.jobs LabFunctions.Sample.env.wfid.text).isSome = false ∧
      (Sample.outcome.2.scheduler.jobs LabFunctions.Sample.env.wfid.text).isSome = true := by
  decide

end WorkflowFaults

end LabFunctions
