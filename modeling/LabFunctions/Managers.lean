import LabFunctions.Context
import LabFunctions.Database

/-!
`labfunctions.managers.workflows_mg` and `labfunctions.managers.runtimes_mg`: the
statements on the workflow and runtime tables, and one lemma for what each can do.
-/

namespace LabFunctions

namespace WorkflowsMg

def scheduleOfColumn : Json → Except Exn ScheduleData
  | .dict entries =>
      match ScheduleData.ofDict entries with
      | some schedule => .ok schedule
      | none => .error .validationError
  | _ => .error (.typeError "argument after ** must be a mapping")

def taskOfColumn : Json → Except Exn NBTask
  | .dict entries =>
      match NBTask.ofDict entries with
      | some task => .ok task
      | none => .error .validationError
  | _ => .error (.typeError "argument after ** must be a mapping")

def model2data (wm : WorkflowModel) : Except Exn WorkflowDataWeb := do
  let nbtask ← taskOfColumn wm.nbtask
  let schedule ← scheduleOfColumn wm.schedule
  return ⟨wm.alias_, nbtask, wm.enabled, some wm.wfid, some schedule⟩

def scheduleColumn (wfd : WorkflowDataWeb) : Json :=
  match wfd.schedule with
  | some schedule => .dict schedule.dict
  | none => .null

def updatedRow (wfd : WorkflowDataWeb) (now : DateTime) (row : WorkflowModel) : WorkflowModel :=
  { row with
    nbtask := .dict wfd.nbtask.dict
    schedule := scheduleColumn wfd
    alias_ := wfd.alias_
    enabled := wfd.enabled
    updated_at := now }

def _update (wfid : Option String) (_projectid : String) (wfd : WorkflowDataWeb) (now : DateTime)
    (workflows : WorkflowTable) : Option WorkflowTable :=
  -- the project id is taken, and the statement selects by the workflow id alone
  workflows.updateWhere (fun row => some row.wfid == wfid) (updatedRow wfd now)

def newRow (env : Env) (projectid : String) (wfd : WorkflowDataWeb) : WorkflowModel :=
  { wfid := env.wfid.text
    alias_ := wfd.alias_
    nbtask := .dict wfd.nbtask.dict
    schedule := scheduleColumn wfd
    enabled := wfd.enabled
    project_id := some projectid
    updated_at := env.now }

def flush (db : Database) (projectid : String) (row : WorkflowModel) : Option WorkflowTable :=
  if db.hasProject projectid then db.workflows.insert row else none

def refusal (wfd : WorkflowDataWeb) (integrity : Exn) : Exn :=
  -- the length of a value is checked before any constraint is
  if wfd.alias_.length ≤ WorkflowModel.ALIAS_LEN then integrity else .dataError

/-- `register`, with the workflow id it returns. Only the insert turns an integrity error
into `WorkflowRegisterError`. -/
def register (env : Env) (db : Database) (projectid : String) (wfd : WorkflowDataWeb)
    (update : Bool := false) : Except Exn (Option String × Database) :=
  if update then
    match _update wfd.wfid projectid wfd env.now db.workflows with
    | some workflows => .ok (wfd.wfid, { db with workflows := workflows })
    | none => .error (refusal wfd .integrityError)
  else
    match flush db projectid (newRow env projectid wfd) with
    | some workflows => .ok (some env.wfid.text, { db with workflows := workflows })
    | none => .error (refusal wfd (.workflowRegisterError projectid wfd.alias_))

def selectedBy (projectid wfid : String) (row : WorkflowModel) : Bool :=
  row.project_id == some projectid && row.wfid == wfid

def get_by_wfid_prj (db : Database) (projectid wfid : String) :
    Except Exn (Option WorkflowDataWeb) :=
  match db.workflows.rows.find? (selectedBy projectid wfid) with
  | some row => (model2data row).map some
  | none => .ok none

def delete_wf (db : Database) (projectid wfid : String) : Database :=
  { db with workflows := db.workflows.deleteWhere (selectedBy projectid wfid) }

theorem selectedBy_iff {projectid wfid : String} {row : WorkflowModel} :
    selectedBy projectid wfid row = true ↔ row.project_id = some projectid ∧ row.wfid = wfid := by
  simp [selectedBy]

/-! A row that stores what a body says. -/

structure Stores (wfd : WorkflowDataWeb) (row : WorkflowModel) : Prop where
  alias_ : row.alias_ = wfd.alias_
  nbtask : row.nbtask = .dict wfd.nbtask.dict
  enabled : row.enabled = wfd.enabled
  schedule : row.schedule = scheduleColumn wfd

theorem newRow_stores (env : Env) (projectid : String) (wfd : WorkflowDataWeb) :
    Stores wfd (newRow env projectid wfd) := ⟨rfl, rfl, rfl, rfl⟩

theorem updatedRow_stores (wfd : WorkflowDataWeb) (now : DateTime) (row : WorkflowModel) :
    Stores wfd (updatedRow wfd now row) := ⟨rfl, rfl, rfl, rfl⟩

namespace Stores

variable {wfd : WorkflowDataWeb} {row : WorkflowModel}

theorem model2data_ok (stores : Stores wfd row) {schedule : ScheduleData}
    (present : wfd.schedule = some schedule) :
    model2data row = .ok { wfd with wfid := some row.wfid } := by
  have column : row.schedule = .dict schedule.dict := by
    rw [stores.schedule, scheduleColumn, present]
  simp only [model2data, stores.nbtask, column, taskOfColumn, scheduleOfColumn,
    NBTask.ofDict_dict, ScheduleData.ofDict_dict, stores.alias_, stores.enabled]
  rw [present]
  rfl

theorem model2data_error (stores : Stores wfd row) (absent : wfd.schedule = none) :
    model2data row = .error (.typeError "argument after ** must be a mapping") := by
  have column : row.schedule = .null := by
    rw [stores.schedule, scheduleColumn, absent]
  simp only [model2data, stores.nbtask, column, taskOfColumn, scheduleOfColumn,
    NBTask.ofDict_dict]
  rfl

end Stores

/-! What each write path leaves behind. -/

theorem register_insert_ok {env : Env} {db next : Database} {projectid : String}
    {wfd : WorkflowDataWeb} {wfid : Option String}
    (registered : register env db projectid wfd = .ok (wfid, next)) :
    wfid = some env.wfid.text ∧ next = { db with workflows := next.workflows } ∧
      next.workflows.rows = db.workflows.rows ++ [newRow env projectid wfd] := by
  simp only [register, Bool.false_eq_true, if_false] at registered
  cases flushed : flush db projectid (newRow env projectid wfd) with
  | none => simp [flushed] at registered
  | some workflows =>
      simp only [flushed, Except.ok.injEq, Prod.mk.injEq] at registered
      obtain ⟨rfl, rfl⟩ := registered
      refine ⟨rfl, rfl, ?_⟩
      unfold flush at flushed
      split at flushed
      · exact Table.rows_insert flushed
      · simp at flushed

theorem register_update_ok {env : Env} {db next : Database} {projectid : String}
    {wfd : WorkflowDataWeb} {wfid : Option String}
    (registered : register env db projectid wfd true = .ok (wfid, next)) :
    wfid = wfd.wfid ∧ next = { db with workflows := next.workflows } ∧
      next.workflows.rows = db.workflows.rows.map fun row =>
        if some row.wfid == wfd.wfid then updatedRow wfd env.now row else row := by
  simp only [register, if_true] at registered
  cases updated : _update wfd.wfid projectid wfd env.now db.workflows with
  | none => simp [updated] at registered
  | some workflows =>
      simp only [updated, Except.ok.injEq, Prod.mk.injEq] at registered
      obtain ⟨rfl, rfl⟩ := registered
      exact ⟨rfl, rfl, Table.rows_updateWhere updated⟩

theorem find_selectedBy_iff (workflows : WorkflowTable) (projectid wfid : String)
    (row : WorkflowModel) :
    workflows.rows.find? (selectedBy projectid wfid) = some row ↔
      row ∈ workflows.rows ∧ row.project_id = some projectid ∧ row.wfid = wfid := by
  constructor
  · intro found
    exact ⟨List.mem_of_find?_eq_some found, selectedBy_iff.mp (List.find?_some found)⟩
  · rintro ⟨member, selected⟩
    cases found : workflows.rows.find? (selectedBy projectid wfid) with
    | none =>
        have missed := List.find?_eq_none.mp found row member
        exact absurd (selectedBy_iff.mpr selected) missed
    | some other =>
        have otherSelected := selectedBy_iff.mp (List.find?_some found)
        rw [Option.some.injEq]
        exact WorkflowTable.row_unique (List.mem_of_find?_eq_some found) member
          (otherSelected.2.trans selected.2.symm)

end WorkflowsMg

namespace RuntimesMg

def model2runtime (m : RuntimeModel) (projectid : String) : RuntimeData :=
  { id := some m.id
    runtimeid := m.runtimeid
    runtime_name := m.runtime_name
    docker_name := m.docker_name
    spec := m.spec
    project_id := projectid
    registry := m.registry
    created_at := some m.created_at.isoformat
    version := m.version }

def runtimeid (rq : RuntimeReq) : String :=
  rq.project_id ++ "/" ++ rq.runtime_name ++ "/" ++ rq.version

def newRow (rq : RuntimeReq) (id : Nat) (now : DateTime) : RuntimeModel :=
  { id := id
    runtimeid := runtimeid rq
    runtime_name := rq.runtime_name
    docker_name := rq.docker_name
    spec := rq.spec
    version := rq.version
    registry := rq.registry
    project_id := some rq.project_id
    created_at := now }

def create (db : Database) (rq : RuntimeReq) (id : Nat) (now : DateTime) : Bool × Database :=
  if db.hasProject rq.project_id then
    match db.runtimes.insert (newRow rq id now) with
    | some runtimes => (true, { db with runtimes := runtimes })
    | none => (false, db)
  else (false, db)

def latest : List RuntimeModel → Option RuntimeModel
  | [] => none
  | row :: rest =>
      match latest rest with
      | none => some row
      | some best => if best.created_at.rank ≤ row.created_at.rank then some row else some best

def get_runtime (db : Database) (projectid runtime_name : String) (version : Option String) :
    Option RuntimeData :=
  let rows := db.runtimes.rows.filter fun row =>
    row.project_id == some projectid && row.runtime_name == runtime_name
  let selected := if truthy version then rows.find? fun row => some row.version == version
    else latest rows
  selected.map fun row => model2runtime row projectid

theorem latest_mem {rows : List RuntimeModel} {row : RuntimeModel} (found : latest rows = some row) :
    row ∈ rows := by
  induction rows generalizing row with
  | nil => simp [latest] at found
  | cons first rest ih =>
      simp only [latest] at found
      cases tail : latest rest with
      | none =>
          rw [tail] at found
          simp only [Option.some.injEq] at found
          simp [found]
      | some best =>
          rw [tail] at found
          have inRest := ih tail
          simp only at found
          split at found
          · simp only [Option.some.injEq] at found
            simp [found]
          · simp only [Option.some.injEq] at found
            simp [← found, inRest]

theorem latest_eq_none_iff {rows : List RuntimeModel} : latest rows = none ↔ rows = [] := by
  cases rows with
  | nil => simp [latest]
  | cons first rest =>
      simp only [latest, reduceCtorEq, iff_false]
      cases latest rest with
      | none => simp
      | some best =>
          simp only
          split <;> simp

theorem latest_newest {rows : List RuntimeModel} {row : RuntimeModel}
    (found : latest rows = some row) :
    ∀ other ∈ rows, other.created_at.rank ≤ row.created_at.rank := by
  induction rows generalizing row with
  | nil => simp
  | cons first rest ih =>
      simp only [latest] at found
      cases tail : latest rest with
      | none =>
          simp only [tail, Option.some.injEq] at found
          obtain rfl := latest_eq_none_iff.mp tail
          simp [found]
      | some best =>
          simp only [tail] at found
          have bound := ih tail
          intro other member
          split at found
          · rename_i newer
            obtain rfl := Option.some.inj found
            rcases List.mem_cons.mp member with rfl | later
            · exact Nat.le_refl _
            · exact Nat.le_trans (bound other later) newer
          · rename_i older
            obtain rfl := Option.some.inj found
            rcases List.mem_cons.mp member with rfl | later
            · omega
            · exact bound other later

theorem mem_filter_iff {rows : List RuntimeModel} {projectid name : String} {row : RuntimeModel} :
    (row ∈ rows.filter fun row => row.project_id == some projectid && row.runtime_name == name) ↔
      row ∈ rows ∧ row.project_id = some projectid ∧ row.runtime_name = name := by
  simp

theorem get_runtime_mem {db : Database} {projectid runtime_name : String}
    {version : Option String} {runtime : RuntimeData}
    (found : get_runtime db projectid runtime_name version = some runtime) :
    ∃ row ∈ db.runtimes.rows, row.project_id = some projectid ∧ row.runtime_name = runtime_name ∧
      (truthy version = true → some row.version = version) ∧
      (truthy version = false → ∀ other ∈ db.runtimes.rows, other.project_id = some projectid →
        other.runtime_name = runtime_name → other.created_at.rank ≤ row.created_at.rank) ∧
      runtime = model2runtime row projectid := by
  simp only [get_runtime, Option.map_eq_some_iff] at found
  obtain ⟨row, selected, rfl⟩ := found
  split at selected
  · rename_i versioned
    obtain ⟨member, project, named⟩ := mem_filter_iff.mp (List.mem_of_find?_eq_some selected)
    have same : some row.version = version := by simpa using List.find?_some selected
    exact ⟨row, member, project, named, fun _ => same, by simp [versioned], rfl⟩
  · rename_i unversioned
    obtain ⟨member, project, named⟩ := mem_filter_iff.mp (latest_mem selected)
    refine ⟨row, member, project, named, fun versioned => absurd versioned unversioned, ?_, rfl⟩
    intro _ other otherMember otherProject otherName
    exact latest_newest selected other
      (mem_filter_iff.mpr ⟨otherMember, otherProject, otherName⟩)

end RuntimesMg

end LabFunctions
