import Mathlib.Data.List.Find
import LabFunctions.WorkflowHistory

/-!
The queries of `labfunctions.web.history_bp` over the rows and the queued jobs of all projects,
and what their answers for one project depend on.
-/

namespace LabFunctions

/-- A job as the queues keep it: the project that its parameters name, and its payload. -/
structure QueuedJob where
  projectid : Option String
  status : String
  queue : String
  retries : Nat

structure TaskStatus where
  execid : String
  status : String
  queue : String
  retries : Nat

namespace HistoryMg

def get_one (history : List HistoryEntry) (execid : String) : Option HistoryResult :=
  (history.find? fun entry => entry.row.execid == execid).map historyResult

end HistoryMg

namespace SchedulerExec

def _get_job (jobs : String → Option QueuedJob) (execid : String) : Option QueuedJob := jobs execid

def get_task (jobs : String → Option QueuedJob) (execid : String) : Option TaskStatus :=
  match _get_job jobs execid with
  | none => none
  | some job => some { execid, status := job.status, queue := job.queue, retries := job.retries }

end SchedulerExec

namespace HistoryQueries

open HistoryMg

structure State where
  history : List HistoryEntry
  jobs : String → Option QueuedJob

inductive Answer where
  | rows (rows : List HistoryResult)
  | row (row : HistoryResult)
  | task (task : TaskStatus)
  | notFound
  | failed

/-- `lt` is what the statement makes of the limit in the query, if it takes it. -/
inductive Request where
  | history_get_all (lt : Option Nat)
  | history_last_job (wfid : String) (lt : Option Nat)
  | history_detail_job (execid : String)
  | history_get_task (execid : String)

def listed (rows : List HistoryResult) : Answer :=
  match rows with
  | [] => .notFound
  | rows => .rows rows

def history_get_all (state : State) (projectid : String) (lt : Option Nat) : Answer :=
  match lt with
  | none => .failed
  | some lt => listed (get_last state.history projectid none lt)

def history_last_job (state : State) (projectid wfid : String) (lt : Option Nat) : Answer :=
  match lt with
  | none => .failed
  | some lt => listed (get_last state.history projectid (some wfid) lt)

/-- The project is an argument that the statement does not use. -/
def history_detail_job (state : State) (_projectid execid : String) : Answer :=
  match get_one state.history execid with
  | some row => .row row
  | none => .notFound

/-- Nor does the lookup of a job. -/
def history_get_task (state : State) (_projectid execid : String) : Answer :=
  match SchedulerExec.get_task state.jobs execid with
  | some task => .task task
  | none => .notFound

def answer (state : State) (projectid : String) : Request → Answer
  | .history_get_all lt => history_get_all state projectid lt
  | .history_last_job wfid lt => history_last_job state projectid wfid lt
  | .history_detail_job execid => history_detail_job state projectid execid
  | .history_get_task execid => history_get_task state projectid execid

/-! What a project has of a state. -/

def rowsOf (projectid : String) (state : State) : List HistoryEntry :=
  state.history.filter fun entry => entry.row.project_id == some projectid

def jobsOf (projectid : String) (state : State) (execid : String) : Option QueuedJob :=
  (state.jobs execid).filter fun job => job.projectid == some projectid

def Agree (projectid : String) (left right : State) : Prop :=
  rowsOf projectid left = rowsOf projectid right ∧ jobsOf projectid left = jobsOf projectid right

def Determined (state : State) (projectid : String) (request : Request) : Prop :=
  ∀ other, Agree projectid state other → answer other projectid request = answer state projectid request

/-- The request lists rows by project, or asks for a job of the project. -/
def Asks (state : State) (projectid : String) : Request → Prop
  | .history_get_all _ => True
  | .history_last_job _ _ => True
  | .history_detail_job _ => False
  | .history_get_task execid => ∃ job, state.jobs execid = some job ∧ job.projectid = some projectid

def Unshared (state : State) (projectid : String) : Request → Prop
  | .history_detail_job execid => ∀ entry ∈ state.history, entry.row.execid = execid →
      entry.row.project_id = some projectid
  | .history_get_task execid => ∀ job, state.jobs execid = some job → job.projectid = some projectid
  | _ => True

variable {state other : State} {projectid : String}

theorem get_last_rowsOf (state : State) (projectid : String) (wfid : Option String) (limit : Nat) :
    get_last (rowsOf projectid state) projectid wfid limit =
      get_last state.history projectid wfid limit := by
  have rows : (rowsOf projectid state).filter (selectedBy projectid wfid) =
      state.history.filter (selectedBy projectid wfid) := by
    rw [rowsOf, List.filter_filter]
    apply List.filter_congr
    intro entry _
    unfold selectedBy
    cases entry.row.project_id == some projectid <;> simp
  rw [get_last, get_last, rows]

theorem get_last_agree (agree : Agree projectid state other) (wfid : Option String) (limit : Nat) :
    get_last other.history projectid wfid limit = get_last state.history projectid wfid limit := by
  rw [← get_last_rowsOf other, ← get_last_rowsOf state, agree.1]

theorem get_one_rowsOf {execid : String}
    (unshared : Unshared state projectid (.history_detail_job execid)) :
    get_one (rowsOf projectid state) execid = get_one state.history execid := by
  have rows : (rowsOf projectid state).find? (fun entry => entry.row.execid == execid) =
      state.history.find? fun entry => entry.row.execid == execid := by
    rw [rowsOf, List.find?_filter]
    apply List.find?_congr
    intro entry member
    by_cases named : entry.row.execid = execid
    · simp [named, unshared entry member named]
    · simp [named]
  rw [get_one, get_one, rows]

theorem jobsOf_eq {execid : String}
    (unshared : Unshared state projectid (.history_get_task execid)) :
    jobsOf projectid state execid = state.jobs execid := by
  unfold jobsOf
  cases found : state.jobs execid with
  | none => rfl
  | some job => simp [unshared job found]

/-- Where the ids are not shared, the answer can be read off the rows and jobs of the project. -/
theorem answer_agree {request : Request} (agree : Agree projectid state other)
    (unshared : Unshared state projectid request) (otherUnshared : Unshared other projectid request) :
    answer other projectid request = answer state projectid request := by
  cases request with
  | history_get_all lt =>
      cases lt with
      | none => rfl
      | some lt => exact congrArg listed (get_last_agree agree none lt)
  | history_last_job wfid lt =>
      cases lt with
      | none => rfl
      | some lt => exact congrArg listed (get_last_agree agree (some wfid) lt)
  | history_detail_job execid =>
      have same : get_one other.history execid = get_one state.history execid := by
        rw [← get_one_rowsOf unshared, ← get_one_rowsOf otherUnshared, agree.1]
      simp only [answer, history_detail_job, same]
  | history_get_task execid =>
      have same : other.jobs execid = state.jobs execid := by
        rw [← jobsOf_eq unshared, ← jobsOf_eq otherUnshared, agree.2]
      simp only [answer, history_get_task, SchedulerExec.get_task, SchedulerExec._get_job, same]

/-! States with one row or job more, of another project. -/

def stranger (projectid : String) : String := projectid ++ "x"

theorem stranger_ne (projectid : String) : stranger projectid ≠ projectid := by
  intro same
  have lengths := congrArg String.length same
  rw [stranger, String.length_append] at lengths
  have one : "x".length = 1 := rfl
  omega

def foreignEntry (projectid execid wfid : String) : HistoryEntry where
  row :=
    { wfid
      execid
      project_id := some (stranger projectid)
      nb_name := "welcome"
      result :=
        { projectid := stranger projectid, execid, wfid, name := "welcome", params := [],
          input_ := "welcome.ipynb", error := false, elapsed_secs := "1.0",
          created_at := "2022-06-01T10:00:00" }
      elapsed_secs := "1.0"
      status := 0 }
  created_at := Sample.morning

def withRow (state : State) (projectid execid wfid : String) : State :=
  { state with history := foreignEntry projectid execid wfid :: state.history }

theorem agree_withRow (state : State) (projectid execid wfid : String) :
    Agree projectid state (withRow state projectid execid wfid) := by
  refine ⟨?_, rfl⟩
  simp [rowsOf, withRow, foreignEntry, stranger_ne]

theorem detail_withRow (state : State) (projectid execid wfid : String) :
    answer (withRow state projectid execid wfid) projectid (.history_detail_job execid) =
      .row (historyResult (foreignEntry projectid execid wfid)) := by
  simp [answer, history_detail_job, get_one, withRow, foreignEntry]

theorem not_determined_detail (state : State) (projectid execid : String) :
    ¬Determined state projectid (.history_detail_job execid) := by
  intro determined
  have first := determined _ (agree_withRow state projectid execid "a")
  have second := determined _ (agree_withRow state projectid execid "b")
  rw [detail_withRow] at first second
  have rows := Answer.row.inj (first.trans second.symm)
  have same : "a" = "b" := congrArg HistoryResult.wfid rows
  exact absurd same (by decide)

def withJob (state : State) (execid : String) (job : Option QueuedJob) : State :=
  { state with jobs := Function.update state.jobs execid job }

theorem determined_task_iff (state : State) (projectid execid : String) :
    Determined state projectid (.history_get_task execid) ↔
      Asks state projectid (.history_get_task execid) := by
  constructor
  · intro determined
    by_contra foreign
    have absent : jobsOf projectid state execid = none := by
      apply Option.filter_eq_none_iff.mpr
      intro job found
      simpa using fun own => foreign ⟨job, found, own⟩
    have agree : ∀ job : Option QueuedJob, (∀ kept, job = some kept → kept.projectid = none) →
        Agree projectid state (withJob state execid job) := by
      intro job orphan
      refine ⟨rfl, funext fun asked => ?_⟩
      by_cases own : asked = execid
      · have held : (withJob state execid job).jobs execid = job := Function.update_self ..
        rw [own, absent, jobsOf, held]
        symm
        apply Option.filter_eq_none_iff.mpr
        intro kept found
        simp [orphan kept found]
      · have same : (withJob state execid job).jobs asked = state.jobs asked :=
          Function.update_of_ne own ..
        rw [jobsOf, jobsOf, same]
    have missing := determined _ (agree none (by simp))
    have present := determined _ (agree (some ⟨none, "queued", "default.control", 0⟩) (by simp))
    have same := missing.trans present.symm
    simp [answer, history_get_task, SchedulerExec.get_task, SchedulerExec._get_job, withJob] at same
  · rintro ⟨job, found, own⟩ other agree
    have kept : jobsOf projectid other execid = some job := by
      rw [← agree.2, jobsOf, found]
      simp [own]
    have same : other.jobs execid = state.jobs execid := by
      rw [found]
      exact (Option.filter_eq_some_iff.mp kept).1
    simp only [answer, history_get_task, SchedulerExec.get_task, SchedulerExec._get_job, same]

/-- The answers that a state determines by the rows and jobs of the project alone are those of the
two lists, and that of a task whose job is the project's own. Two states that agree on the
project answer alike as long as no other project has a row or a job under the named id. -/
theorem answers_determined_iff (state : State) (projectid : String) (request : Request) :
    (Determined state projectid request ↔ Asks state projectid request) ∧
    ∀ other : State, Agree projectid state other → Unshared state projectid request →
      Unshared other projectid request →
        answer other projectid request = answer state projectid request := by
  refine ⟨?_, fun other => answer_agree⟩
  cases request with
  | history_get_all lt => exact iff_of_true (fun _ agree => answer_agree agree trivial trivial) trivial
  | history_last_job wfid lt =>
      exact iff_of_true (fun _ agree => answer_agree agree trivial trivial) trivial
  | history_detail_job execid => exact iff_of_false (not_determined_detail state projectid execid) id
  | history_get_task execid => exact determined_task_iff state projectid execid

theorem foreign_row_answered : ¬∀ (state other : State) (projectid : String) (request : Request),
    Agree projectid state other →
      answer other projectid request = answer state projectid request := by
  intro determined
  have same := determined ⟨[], fun _ => none⟩ (withRow ⟨[], fun _ => none⟩ "p" "e" "a") "p"
    (.history_detail_job "e") (agree_withRow _ "p" "e" "a")
  rw [detail_withRow] at same
  simp [answer, history_detail_job, get_one] at same

end HistoryQueries

end LabFunctions
