import LabFunctions.Control

/-!
A task that names a runtime: which row of the runtime table it selects, and whether the
task is enqueued on the image of that row and on no other.
-/

namespace LabFunctions

namespace TaskRuntimes

open RuntimesMg

structure Matches (projectid name : String) (version : Option String) (row : RuntimeModel) :
    Prop where
  project : row.project_id = some projectid
  name : row.runtime_name = name
  version : truthy version = true → some row.version = version

structure Chosen (rows : List RuntimeModel) (projectid name : String) (version : Option String)
    (row : RuntimeModel) : Prop where
  member : row ∈ rows
  selected : Matches projectid name version row
  newest : truthy version = false → ∀ other ∈ rows, Matches projectid name version other →
    other.created_at.rank ≤ row.created_at.rank

/-- A task runs on the image of the row it selects, or is not enqueued because there is no
such row. -/
def Honoured (env : Env) (db : Database) (projectid name : String) (version : Option String)
    (queues : List QueueEntry) (yielded : Option ExecutionNBTask) (next : List QueueEntry) : Prop :=
  (∃ row ctx, Chosen db.runtimes.rows projectid name version row ∧ yielded = some ctx ∧
    ctx.runtime = runtimeImage env.repr (model2runtime row projectid)) ∨
  ((∀ row ∈ db.runtimes.rows, ¬Matches projectid name version row) ∧ yielded = none ∧
    next = queues)

theorem get_runtime_chosen {db : Database} {projectid name : String} {version : Option String}
    {runtime : RuntimeData} (found : get_runtime db projectid name version = some runtime) :
    ∃ row, Chosen db.runtimes.rows projectid name version row ∧
      runtime = model2runtime row projectid := by
  obtain ⟨row, member, project, named, versioned, newest, rfl⟩ := get_runtime_mem found
  refine ⟨row, ⟨member, ⟨project, named, versioned⟩, ?_⟩, rfl⟩
  intro unversioned other otherMember matched
  exact newest unversioned other otherMember matched.project matched.name

theorem get_runtime_none {db : Database} {projectid name : String} {version : Option String}
    (missed : get_runtime db projectid name version = none) :
    ∀ row ∈ db.runtimes.rows, ¬Matches projectid name version row := by
  simp only [get_runtime, Option.map_eq_none_iff] at missed
  intro row member matched
  have inside := mem_filter_iff.mpr ⟨member, matched.project, matched.name⟩
  split at missed
  · rename_i versioned
    have other := List.find?_eq_none.mp missed row inside
    exact other (by simpa using matched.version versioned)
  · rw [latest_eq_none_iff.mp missed] at inside
    simp at inside

theorem create_task_ctx_runtime (env : Env) (db : Database) (projectid : String) {task : NBTask}
    {name : String} (named : task.runtime = some name) (nonempty : name ≠ "")
    (pre : Option String) :
    (create_task_ctx env db projectid task pre).runtime =
      Notebooks.prepare_runtime env.repr (get_runtime db projectid name task.version)
        task.gpu_support := by
  simp [create_task_ctx, Notebooks.create_notebook_ctx, named, truthy, pyOr, nonempty]

def task : NBTask := { Sample.task with runtime := some "base" }

def base : RuntimeModel :=
  { id := 1
    runtimeid := "p/base/1"
    runtime_name := "base"
    docker_name := "p/base"
    spec := { name := "base", container := { image := "python:3.8", maintainer := "" } }
    version := "1"
    project_id := some "p"
    created_at := Sample.morning }

def equipped : Database := { Sample.db with runtimes := ⟨[base], by decide⟩ }

/-- Without a matching row the task goes to the default image. -/
theorem missing_runtime_default (env : Env) (db : Database) (projectid : String) {task : NBTask}
    {name : String} (named : task.runtime = some name) (nonempty : name ≠ "") (pre : Option String)
    (absent : ∀ row ∈ db.runtimes.rows, ¬Matches projectid name task.version row) :
    (create_task_ctx env db projectid task pre).runtime =
      Notebooks.prepare_runtime env.repr none task.gpu_support := by
  rw [create_task_ctx_runtime env db projectid named nonempty pre]
  cases found : get_runtime db projectid name task.version with
  | none => rfl
  | some runtime =>
      obtain ⟨row, chosen, _⟩ := get_runtime_chosen found
      exact absurd chosen.selected (absent row chosen.member)

end TaskRuntimes

end LabFunctions
