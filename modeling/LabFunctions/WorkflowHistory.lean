import LabFunctions.Executions
import LabFunctions.HistoryRows

/-!
The history of one workflow: the query that lists it, and whether the executions of the
workflow, on demand and scheduled, are found there.
-/

namespace LabFunctions

structure HistoryEntry where
  row : HistoryModel
  created_at : DateTime

structure HistoryResult where
  wfid : String
  status : Int
  result : ExecutionResult
  execid : String
  created_at : String

namespace HistoryMg

def historyResult (entry : HistoryEntry) : HistoryResult :=
  { wfid := entry.row.wfid
    execid := entry.row.execid
    status := entry.row.status
    result := entry.row.result
    created_at := entry.created_at.isoformat }

def selectedBy (projectid : String) (wfid : Option String) (entry : HistoryEntry) : Bool :=
  (!truthy wfid || some entry.row.wfid == wfid) && entry.row.project_id == some projectid

def newerFirst (left right : HistoryEntry) : Bool :=
  decide (right.created_at.rank ≤ left.created_at.rank)

def get_last (history : List HistoryEntry) (projectid : String) (wfid : Option String)
    (limit : Nat := 1) : List HistoryResult :=
  (((history.filter (selectedBy projectid wfid)).mergeSort newerFirst).take limit).map historyResult

theorem mem_take_mergeSort {history : List HistoryEntry} {newest : HistoryEntry} {limit : Nat}
    (member : newest ∈ history) (positive : 0 < limit)
    (older : ∀ entry ∈ history, entry = newest ∨ entry.created_at.rank < newest.created_at.rank) :
    newest ∈ (history.mergeSort newerFirst).take limit := by
  have sorted : (history.mergeSort newerFirst).Pairwise fun first second =>
      newerFirst first second = true := List.pairwise_mergeSort
    (fun first second third => by simp only [newerFirst, decide_eq_true_eq]; omega)
    (fun first second => by simp only [newerFirst, Bool.or_eq_true, decide_eq_true_eq]; omega)
    history
  have members : ∀ entry, entry ∈ history.mergeSort newerFirst ↔ entry ∈ history :=
    fun _ => List.mem_mergeSort
  cases ordered : history.mergeSort newerFirst with
  | nil =>
      rw [← members, ordered] at member
      simp at member
  | cons first rest =>
      have same : first = newest := by
        have firstMember : first ∈ history := by
          rw [← members, ordered]
          simp
        rcases older first firstMember with same | strictly
        · exact same
        · rw [← members, ordered] at member
          rw [ordered] at sorted
          rcases List.mem_cons.mp member with same | later
          · exact same.symm
          · have before := (List.pairwise_cons.mp sorted).1 newest later
            simp only [newerFirst, decide_eq_true_eq] at before
            omega
      obtain ⟨fewer, rfl⟩ := Nat.exists_eq_add_of_lt positive
      simp [same]

/-- The newest row of a workflow is in its history, however few rows are asked for. -/
theorem newest_mem_get_last {history : List HistoryEntry} {newest : HistoryEntry}
    {projectid wfid : String} {limit : Nat} (project : newest.row.project_id = some projectid)
    (workflow : newest.row.wfid = wfid)
    (older : ∀ entry ∈ history, entry.created_at.rank < newest.created_at.rank)
    (positive : 0 < limit) :
    historyResult newest ∈ get_last (history ++ [newest]) projectid wfid limit := by
  refine List.mem_map_of_mem (mem_take_mergeSort ?_ positive ?_)
  · simp [selectedBy, project, workflow]
  · intro entry member
    rcases List.mem_append.mp (List.mem_of_mem_filter member) with before | last
    · exact Or.inr (older entry before)
    · exact Or.inl (List.mem_singleton.mp last)

end HistoryMg

namespace WorkflowHistory

open Executions

/-- An execution of workflow `wfid`, and the row it leaves as the newest one. -/
structure Recorded (projectid wfid : String) (ctx : ExecutionNBTask) : Prop where
  named : ctx.wfid = wfid
  params : ctx.params.lookup "WFID" = some (.str wfid)
  listed : ∀ history elapsed error error_msg now limit,
    (∀ entry : HistoryEntry, entry ∈ history → entry.created_at.rank < DateTime.rank now) →
      0 < limit →
      let entry := ⟨HistoryMg.newRow (Executors.result ctx elapsed error error_msg), now⟩
      HistoryMg.historyResult entry ∈
        HistoryMg.get_last (history ++ [entry]) projectid (some wfid) limit

def workflowOf : Origin → Option (String × String)
  | .enqueue_notebook _ _ _ _ _ => none
  | .enqueue_workflow _ _ projectid wfid => some (projectid, wfid)
  | .register_workflow _ _ projectid wfid _ _ _ => some (projectid, wfid)

/-- The workflow is stored and enabled, or its job fires. -/
def Executes : Origin → Prop
  | .enqueue_notebook _ _ _ _ _ => True
  | .enqueue_workflow _ db projectid wfid =>
      ∃ wd, WorkflowsMg.get_by_wfid_prj db projectid wfid = .ok (some wd) ∧ wd.enabled = true
  | .register_workflow _ _ _ _ _ _ firings => firings ≠ []

theorem recorded_of {projectid wfid : String} {ctx : ExecutionNBTask}
    (project : ctx.projectid = projectid) (named : ctx.wfid = wfid)
    (params : ctx.params.lookup "WFID" = some (.str wfid)) : Recorded projectid wfid ctx := by
  refine ⟨named, params, ?_⟩
  intro history elapsed error error_msg now limit older positive
  exact HistoryMg.newest_mem_get_last (congrArg some project) named older positive

theorem handed_enqueue_workflow {env : Env} {db : Database} {projectid wfid : String}
    {wd : WorkflowDataWeb}
    (stored : WorkflowsMg.get_by_wfid_prj db projectid wfid = .ok (some wd))
    (enabled : wd.enabled = true) :
    handed (.enqueue_workflow env db projectid wfid) =
      [create_task_ctx env db projectid wd.nbtask] := by
  simp [handed, SchedulerExec.enqueue_workflow, stored, enabled, SchedulerExec.enqueue_notebook,
    SchedulerExec.notebookEntry, Tasks.notebook_dispatcher, bind, Except.bind, pure, Except.pure]

/-- Neither path hands the workflow id to the context: both run under the temporary id, and
only the registered job writes its own over one of the two copies. -/
theorem handed_wfid {origin : Origin} {projectid wfid : String}
    (workflow : workflowOf origin = some (projectid, wfid)) {ctx : ExecutionNBTask}
    (member : ctx ∈ handed origin) :
    ctx.projectid = projectid ∧
      ctx.params.lookup "WFID" = some (.str (Notebooks.dummy_wfid origin.env)) ∧
      (ctx.wfid = Notebooks.dummy_wfid origin.env ∨ ctx.wfid = wfid) := by
  cases origin with
  | enqueue_notebook env db project task pre => simp [workflowOf] at workflow
  | enqueue_workflow env db project id =>
      simp only [workflowOf, Option.some.injEq, Prod.mk.injEq] at workflow
      obtain ⟨rfl, rfl⟩ := workflow
      obtain ⟨wd, _, _, rfl⟩ := mem_handed_enqueue_workflow member
      exact ⟨rfl, (coherent_create_task_ctx env db project wd.nbtask none).wfid, Or.inl rfl⟩
  | register_workflow env db project id wd schedule firings =>
      simp only [workflowOf, Option.some.injEq, Prod.mk.injEq] at workflow
      obtain ⟨rfl, rfl⟩ := workflow
      rw [handed_register_workflow, List.mem_map] at member
      obtain ⟨firing, _, rfl⟩ := member
      refine ⟨rfl, ?_, Or.inr rfl⟩
      simp only [Tasks.workflow_dispatcher, Tasks.notebook_dispatcher]
      rw [Dict.lookup_set_ne _ _ (by decide)]
      exact (coherent_create_task_ctx env db project wd.nbtask none).wfid

theorem handed_of_executes {origin : Origin} (executes : Executes origin) : handed origin ≠ [] := by
  cases origin with
  | enqueue_notebook env db projectid task pre => simp [handed, SchedulerExec.enqueue_notebook]
  | enqueue_workflow env db projectid wfid =>
      obtain ⟨wd, stored, enabled⟩ := executes
      simp [handed_enqueue_workflow stored enabled]
  | register_workflow env db projectid wfid wd schedule firings =>
      rw [handed_register_workflow]
      simpa [Executes] using executes

theorem executes_of_handed {origin : Origin} {ctx : ExecutionNBTask}
    (member : ctx ∈ handed origin) : Executes origin := by
  cases origin with
  | enqueue_notebook env db projectid task pre => trivial
  | enqueue_workflow env db projectid wfid =>
      obtain ⟨wd, stored, enabled, _⟩ := mem_handed_enqueue_workflow member
      exact ⟨wd, stored, enabled⟩
  | register_workflow env db projectid wfid wd schedule firings =>
      rw [handed_register_workflow, List.mem_map] at member
      obtain ⟨firing, fires, _⟩ := member
      exact List.ne_nil_of_mem fires

/-- The executions of a workflow are recorded under it exactly when there are none, or the
temporary id that was drawn happens to be the id of the workflow. -/
theorem executions_recorded_iff {origin : Origin} {projectid wfid : String}
    (workflow : workflowOf origin = some (projectid, wfid)) :
    (∀ ctx ∈ handed origin, Recorded projectid wfid ctx) ↔
      (Executes origin → Notebooks.dummy_wfid origin.env = wfid) := by
  constructor
  · intro recorded executes
    obtain ⟨ctx, member⟩ := List.exists_mem_of_ne_nil _ (handed_of_executes executes)
    have named := (recorded ctx member).params
    rw [(handed_wfid workflow member).2.1] at named
    simpa using named
  · intro drawn ctx member
    obtain ⟨project, params, named⟩ := handed_wfid workflow member
    have same := drawn (executes_of_handed member)
    refine recorded_of project ?_ (same ▸ params)
    rcases named with temporary | own
    · rw [temporary, same]
    · exact own

def nightly : WorkflowDataWeb :=
  { alias_ := "nightly", nbtask := Sample.task, schedule := some {} }

theorem executions_recorded_sample :
    workflowOf (.register_workflow Sample.env Sample.db "p" "tmpdddddddd" nightly {} [Sample.env]) =
        some ("p", "tmpdddddddd") ∧
      ∀ ctx ∈ handed (.register_workflow Sample.env Sample.db "p" "tmpdddddddd" nightly {}
        [Sample.env]), Recorded "p" "tmpdddddddd" ctx :=
  ⟨rfl, (executions_recorded_iff rfl).mpr fun _ => rfl⟩

def stored : Database :=
  { Sample.db with workflows := ⟨[WorkflowsMg.newRow Sample.env "p" nightly], by decide⟩ }

/-- The only workflow of project `p`, enqueued on demand. -/
theorem enqueued_workflow_unrecorded :
    ¬∀ (origin : Origin) (projectid wfid : String), workflowOf origin = some (projectid, wfid) →
      Executes origin → ∀ ctx ∈ handed origin, Recorded projectid wfid ctx := by
  intro recorded
  have enabled : ∃ wd, WorkflowsMg.get_by_wfid_prj stored "p" "aaaaaaaaaaa" = .ok (some wd) ∧
      wd.enabled = true := ⟨_, rfl, rfl⟩
  obtain ⟨wd, found, on⟩ := enabled
  have ctx := recorded (.enqueue_workflow Sample.env stored "p" "aaaaaaaaaaa") "p" "aaaaaaaaaaa" rfl
    ⟨wd, found, on⟩ (create_task_ctx Sample.env stored "p" wd.nbtask)
    (by rw [handed_enqueue_workflow found on]; exact List.mem_singleton.mpr rfl)
  have named : Notebooks.dummy_wfid Sample.env = "aaaaaaaaaaa" := ctx.named
  exact absurd named (by decide)

end WorkflowHistory

end LabFunctions
