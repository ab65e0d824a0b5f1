import LabFunctions.Control

/-!
The executions that reach `docker_exec`: which of them describe themselves
consistently, on the direct paths and over the firings of a scheduled workflow.
-/

namespace LabFunctions

namespace Executions

structure Coherent (ctx : ExecutionNBTask) : Prop where
  execid : ctx.params.lookup "EXECID" = some (.str ctx.execid)
  wfid : ctx.params.lookup "WFID" = some (.str ctx.wfid)
  now : ctx.params.lookup "NOW" = some (.str ctx.created_at)
  output_name : ctx.output_name = ctx.wfid ++ "." ++ ctx.nb_name ++ "." ++ ctx.execid ++ ".ipynb"
  pm_output : ctx.pm_output = ctx.output_dir ++ "/" ++ ctx.output_name
  output_dir : ∃ dir, ctx.output_dir = dir ++ ctx.today
  error_dir : ∃ dir, ctx.error_dir = dir ++ ctx.today

/-- Where an execution comes from. A scheduled workflow fires once for each of `firings`. -/
inductive Origin where
  | enqueue_notebook (env : Env) (db : Database) (projectid : String) (task : NBTask)
      (pre : Option String)
  | enqueue_workflow (env : Env) (db : Database) (projectid wfid : String)
  | register_workflow (env : Env) (db : Database) (projectid wfid : String) (wd : WorkflowDataWeb)
      (schedule : ScheduleData) (firings : List Env)

def Origin.env : Origin → Env
  | .enqueue_notebook env _ _ _ _ => env
  | .enqueue_workflow env _ _ _ => env
  | .register_workflow env _ _ _ _ _ _ => env

def handed : Origin → List ExecutionNBTask
  | .enqueue_notebook env db projectid task pre =>
      (SchedulerExec.enqueue_notebook env db [] projectid task pre).2.map fun entry =>
        Tasks.notebook_dispatcher entry.data
  | .enqueue_workflow env db projectid wfid =>
      match SchedulerExec.enqueue_workflow env db [] projectid wfid with
      | .ok (_, queues) => queues.map fun entry => Tasks.notebook_dispatcher entry.data
      | .error _ => []
  | .register_workflow env db projectid wfid wd schedule firings =>
      match (JobManager.register_workflow env db {} projectid wd wfid schedule).jobs wfid with
      | some job => firings.map fun firing => Tasks.workflow_dispatcher firing job.data
      | none => []

/-- A firing repeats what was drawn and read when the job was registered. -/
def Repeats (env : Env) (wfid : String) (firing : Env) : Prop :=
  ExecID firing.execid none = ExecID env.execid none ∧ Notebooks.dummy_wfid env = wfid ∧
    today_string firing.today = today_string env.today

def Consistent : Origin → Prop
  | .register_workflow env _ _ wfid _ _ firings => ∀ firing ∈ firings, Repeats env wfid firing
  | _ => True

def Undotted : Origin → Prop
  | .enqueue_notebook _ _ _ _ pre => '.' ∉ (pyOr pre "").toList
  | _ => True

theorem coherent_create_task_ctx (env : Env) (db : Database) (projectid : String) (task : NBTask)
    (pre : Option String) : Coherent (create_task_ctx env db projectid task pre) := by
  unfold create_task_ctx Notebooks.create_notebook_ctx
  constructor
  · rw [Dict.lookup_set_ne _ _ (by decide), Dict.lookup_set_self]
  · rw [Dict.lookup_set_ne _ _ (by decide), Dict.lookup_set_ne _ _ (by decide),
      Dict.lookup_set_self]
  · exact Dict.lookup_set_self _ _ _
  · rfl
  · rfl
  · exact ⟨Defaults.NB_OUTPUTS ++ "/ok/", rfl⟩
  · exact ⟨Defaults.NB_OUTPUTS ++ "/errors/", rfl⟩

@[simp] theorem create_task_ctx_execid (env : Env) (db : Database) (projectid : String)
    (task : NBTask) (pre : Option String) :
    (create_task_ctx env db projectid task pre).execid = ExecID env.execid pre :=
  pyOr_of_ne_empty (ExecID_ne_empty env.execid pre) _

@[simp] theorem create_task_ctx_wfid (env : Env) (db : Database) (projectid : String)
    (task : NBTask) (pre : Option String) :
    (create_task_ctx env db projectid task pre).wfid = Notebooks.dummy_wfid env := rfl

theorem coherent_firing_iff {data : ExecutionNBTask} (registered : Coherent data) (wfid : String)
    (firing : Env) :
    Coherent (Tasks.workflow_dispatcher firing { data with wfid := wfid }) ↔
      ExecID firing.execid none = data.execid ∧ data.wfid = wfid ∧
        (∃ dir, data.output_dir = dir ++ today_string firing.today) ∧
        ∃ dir, data.error_dir = dir ++ today_string firing.today := by
  constructor
  · intro coherent
    have execid := coherent.execid
    have named := coherent.wfid
    simp only [Tasks.workflow_dispatcher, Tasks.notebook_dispatcher] at execid named
    rw [Dict.lookup_set_ne _ _ (by decide), registered.execid] at execid
    rw [Dict.lookup_set_ne _ _ (by decide), registered.wfid] at named
    simp only [Option.some.injEq, Json.str.injEq] at execid named
    exact ⟨execid.symm, named, coherent.output_dir, coherent.error_dir⟩
  · rintro ⟨execid, rfl, output_dir, error_dir⟩
    constructor
    · simp only [Tasks.workflow_dispatcher, Tasks.notebook_dispatcher]
      rw [Dict.lookup_set_ne _ _ (by decide), registered.execid, execid]
    · simp only [Tasks.workflow_dispatcher, Tasks.notebook_dispatcher]
      rw [Dict.lookup_set_ne _ _ (by decide), registered.wfid]
    · exact Dict.lookup_set_self _ _ _
    · simp only [Tasks.workflow_dispatcher, Tasks.notebook_dispatcher]
      rw [registered.output_name, execid]
    · exact registered.pm_output
    · exact output_dir
    · exact error_dir

theorem dated_iff {fixed : String} {registered fired : DateTime} :
    (∃ dir, fixed ++ today_string registered = dir ++ today_string fired) ↔
      today_string fired = today_string registered := by
  constructor
  · rintro ⟨dir, same⟩
    have lists := congrArg String.toList same
    simp only [String.toList_append] at lists
    have lengths : (today_string registered).toList.length = (today_string fired).toList.length := by
      rw [String.length_toList, String.length_toList]
      simp [today_string]
    exact String.toList_inj.mp (List.append_inj_right' lists lengths).symm
  · intro same
    exact ⟨fixed, by rw [same]⟩

theorem handed_register_workflow (env : Env) (db : Database) (projectid wfid : String)
    (wd : WorkflowDataWeb) (schedule : ScheduleData) (firings : List Env) :
    handed (.register_workflow env db projectid wfid wd schedule firings) =
      firings.map fun firing => Tasks.workflow_dispatcher firing
        { create_task_ctx env db projectid wd.nbtask with wfid := wfid } := by
  simp [handed, JobManager.register_workflow_jobs, JobManager.workflowJob]

theorem mem_handed_enqueue_workflow {env : Env} {db : Database} {projectid wfid : String}
    {ctx : ExecutionNBTask} (member : ctx ∈ handed (.enqueue_workflow env db projectid wfid)) :
    ∃ wd, WorkflowsMg.get_by_wfid_prj db projectid wfid = .ok (some wd) ∧ wd.enabled = true ∧
      ctx = create_task_ctx env db projectid wd.nbtask := by
  simp only [handed] at member
  cases enqueued : SchedulerExec.enqueue_workflow env db [] projectid wfid with
  | error failure => simp [enqueued] at member
  | ok result =>
      obtain ⟨found, queues⟩ := result
      rw [enqueued] at member
      rcases SchedulerExec.enqueue_workflow_ok enqueued with
        ⟨rfl, rfl⟩ | ⟨wd, stored, enabled, rfl, rfl⟩
      · simp at member
      · simp only [List.nil_append, List.map_cons, List.map_nil, List.mem_singleton] at member
        exact ⟨wd, stored, enabled, member⟩

theorem mem_handed_direct {origin : Origin} {ctx : ExecutionNBTask} (member : ctx ∈ handed origin) :
    (∃ db projectid task pre, ctx = create_task_ctx origin.env db projectid task pre ∧
      (Undotted origin → '.' ∉ (pyOr pre "").toList)) ∨
      ∃ env db projectid wfid wd schedule firings,
        origin = .register_workflow env db projectid wfid wd schedule firings := by
  cases origin with
  | enqueue_notebook env db projectid task pre =>
      simp only [handed, SchedulerExec.enqueue_notebook, List.nil_append, List.map_cons,
        List.map_nil, List.mem_singleton] at member
      exact Or.inl ⟨db, projectid, task, pre, member, id⟩
  | enqueue_workflow env db projectid wfid =>
      obtain ⟨wd, _, _, rfl⟩ := mem_handed_enqueue_workflow member
      exact Or.inl ⟨db, projectid, wd.nbtask, none, rfl, fun _ => by decide⟩
  | register_workflow env db projectid wfid wd schedule firings =>
      exact Or.inr ⟨env, db, projectid, wfid, wd, schedule, firings, rfl⟩

theorem coherent_scheduled_iff (env : Env) (db : Database) (projectid wfid : String)
    (task : NBTask) (firing : Env) :
    Coherent (Tasks.workflow_dispatcher firing
        { create_task_ctx env db projectid task with wfid := wfid }) ↔
      Repeats env wfid firing := by
  rw [coherent_firing_iff (coherent_create_task_ctx env db projectid task none)]
  have outputs : (create_task_ctx env db projectid task).output_dir =
      Defaults.NB_OUTPUTS ++ "/ok/" ++ today_string env.today := rfl
  have errors : (create_task_ctx env db projectid task).error_dir =
      Defaults.NB_OUTPUTS ++ "/errors/" ++ today_string env.today := rfl
  rw [outputs, errors, dated_iff, dated_iff, create_task_ctx_execid, create_task_ctx_wfid]
  simp [Repeats]

theorem coherent_iff_consistent (origin : Origin) :
    (∀ ctx ∈ handed origin, Coherent ctx) ↔ Consistent origin := by
  cases origin with
  | register_workflow env db projectid wfid wd schedule firings =>
      rw [handed_register_workflow, Consistent]
      simp only [List.mem_map, forall_exists_index, and_imp, forall_apply_eq_imp_iff₂,
        coherent_scheduled_iff]
  | enqueue_notebook env db projectid task pre =>
      refine iff_of_true ?_ trivial
      intro ctx member
      rcases mem_handed_direct member with ⟨_, _, _, _, rfl, _⟩ | ⟨_, _, _, _, _, _, _, other⟩
      · exact coherent_create_task_ctx _ _ _ _ _
      · cases other
  | enqueue_workflow env db projectid wfid =>
      refine iff_of_true ?_ trivial
      intro ctx member
      rcases mem_handed_direct member with ⟨_, _, _, _, rfl, _⟩ | ⟨_, _, _, _, _, _, _, other⟩
      · exact coherent_create_task_ctx _ _ _ _ _
      · cases other

/-! Output names of coherent executions. -/

theorem tail_unique {α : Type*} {mark : α} {front other tail last : List α}
    (tailClean : mark ∉ tail) (lastClean : mark ∉ last)
    (same : front ++ mark :: tail = other ++ mark :: last) : tail = last := by
  rcases List.append_eq_append_iff.mp same with ⟨between, _, ends⟩ | ⟨between, _, ends⟩
  · cases between with
    | nil => simpa using ends
    | cons first rest =>
        simp only [List.cons_append, List.cons.injEq] at ends
        exact absurd (by simp [ends.2]) tailClean
  · cases between with
    | nil => simpa using ends.symm
    | cons first rest =>
        simp only [List.cons_append, List.cons.injEq] at ends
        exact absurd (by simp [ends.2]) lastClean

theorem ExecID_undotted (drawn : NanoId Defaults.EXECID_LEN) {pre : Option String}
    (undotted : '.' ∉ (pyOr pre "").toList) : '.' ∉ (ExecID drawn pre).toList := by
  unfold ExecID
  split
  · rw [String.toList_append, List.mem_append]
    rintro (inPrefix | inDrawn)
    · exact undotted inPrefix
    · exact drawn.no_dot inDrawn
  · exact drawn.no_dot

theorem execid_of_pm_output {left right : ExecutionNBTask} (leftCoherent : Coherent left)
    (rightCoherent : Coherent right) (leftClean : '.' ∉ left.execid.toList)
    (rightClean : '.' ∉ right.execid.toList) (same : left.pm_output = right.pm_output) :
    left.execid = right.execid := by
  have shape : ∀ ctx : ExecutionNBTask, Coherent ctx → ctx.pm_output.toList =
      ((ctx.output_dir ++ "/" ++ ctx.wfid ++ "." ++ ctx.nb_name).toList ++
        '.' :: ctx.execid.toList) ++ ".ipynb".toList := by
    intro ctx coherent
    rw [coherent.pm_output, coherent.output_name]
    simp
  have lists := congrArg String.toList same
  rw [shape left leftCoherent, shape right rightCoherent] at lists
  have fronts := List.append_cancel_right lists
  exact String.toList_inj.mp (tail_unique leftClean rightClean fronts)

theorem handed_undotted {origin : Origin} (undotted : Undotted origin) {ctx : ExecutionNBTask}
    (member : ctx ∈ handed origin) : '.' ∉ ctx.execid.toList := by
  rcases mem_handed_direct member with ⟨_, _, _, pre, rfl, clean⟩ |
    ⟨env, db, projectid, wfid, wd, schedule, firings, rfl⟩
  · rw [create_task_ctx_execid]
    exact ExecID_undotted origin.env.execid (clean undotted)
  · rw [handed_register_workflow, List.mem_map] at member
    obtain ⟨firing, _, rfl⟩ := member
    exact firing.execid.no_dot

/-- The executions of an origin are coherent exactly when it is consistent, and those of two
consistent origins write to different places whenever their ids differ. -/
theorem executions_coherent (left right : Origin) :
    ((∀ ctx ∈ handed left, Coherent ctx) ↔ Consistent left) ∧
      (Consistent left → Consistent right → Undotted left → Undotted right →
        ∀ ctx ∈ handed left, ∀ other ∈ handed right, ctx.execid ≠ other.execid →
          ctx.pm_output ≠ other.pm_output) := by
  refine ⟨coherent_iff_consistent left, ?_⟩
  intro leftConsistent rightConsistent leftClean rightClean ctx member other otherMember
    different same
  exact different (execid_of_pm_output ((coherent_iff_consistent left).mpr leftConsistent _ member)
    ((coherent_iff_consistent right).mpr rightConsistent _ otherMember)
    (handed_undotted leftClean member) (handed_undotted rightClean otherMember) same)

def secondEnv : Env := { Sample.env with execid := { text := "ffffffffffffff" } }

theorem executions_coherent_sample :
    (∀ ctx ∈ handed (.enqueue_notebook Sample.env Sample.db "p" Sample.task none), Coherent ctx) ∧
      ∀ ctx ∈ handed (.enqueue_notebook Sample.env Sample.db "p" Sample.task none),
        ∀ other ∈ handed (.enqueue_notebook secondEnv Sample.db "p" Sample.task none),
          ctx.execid ≠ other.execid → ctx.pm_output ≠ other.pm_output :=
  let left : Origin := .enqueue_notebook Sample.env Sample.db "p" Sample.task none
  let right : Origin := .enqueue_notebook secondEnv Sample.db "p" Sample.task none
  ⟨(executions_coherent left right).1.mpr trivial,
    (executions_coherent left right).2 trivial trivial (by simp [left, Undotted, pyOr])
      (by simp [right, Undotted, pyOr])⟩

/-- The first firing of a scheduled workflow, with an execution id of its own. -/
theorem firing_incoherent :
    ¬∀ (origin : Origin), ∀ ctx ∈ handed origin, Coherent ctx := by
  intro coherent
  have consistent := (coherent_iff_consistent (.register_workflow Sample.env Sample.db "p"
    "aaaaaaaaaaa" { alias_ := "nightly", nbtask := Sample.task } {} [secondEnv])).mp
      (coherent _)
  exact absurd (consistent secondEnv (List.mem_singleton.mpr rfl)).1 (by decide)

/-- All firings of one job write to the same place, whatever their ids. -/
theorem firings_share_output (env : Env) (db : Database) (projectid wfid : String)
    (wd : WorkflowDataWeb) (schedule : ScheduleData) (firings : List Env) :
    ∀ ctx ∈ handed (.register_workflow env db projectid wfid wd schedule firings),
      ctx.pm_output = (create_task_ctx env db projectid wd.nbtask).pm_output := by
  intro ctx member
  rw [handed_register_workflow, List.mem_map] at member
  obtain ⟨firing, _, rfl⟩ := member
  rfl

end Executions

end LabFunctions
