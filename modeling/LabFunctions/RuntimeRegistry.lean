import LabFunctions.Library.Runs
import LabFunctions.Managers

/-!
The handlers of `labfunctions.web.runtimes_bp`, which name a project in their path, and the rows
of the other projects.
-/

namespace LabFunctions

namespace RuntimesMg

def newestFirst (rows : List RuntimeModel) : List RuntimeModel :=
  rows.mergeSort fun first second => second.created_at.rank ≤ first.created_at.rank

def get_list (db : Database) (projectid : String) (limit : Nat) : List RuntimeData :=
  let rows := newestFirst (db.runtimes.rows.filter fun row => row.project_id == some projectid)
  (rows.take limit).map fun row => model2runtime row projectid

instance : Table.Hereditary RuntimeModel.Accepted where
  sublist sub accepted := Distinct.sublist accepted sub

def delete_by_rid (db : Database) (runtimeid : String) : Database :=
  { db with runtimes := db.runtimes.deleteWhere fun row => row.runtimeid == runtimeid }

end RuntimesMg

namespace RuntimeRegistry

open RuntimesMg

structure Reply where
  status : Nat
  rows : List RuntimeData := []

/-- `lt` is what the statement makes of the limit in the query, if it takes it. A body that
`RuntimeReq` rejects is `none`; with the others come the id and the time that the row is given. -/
inductive Request where
  | runtimes_list (lt : Option Nat)
  | runtimes_create (rq : Option RuntimeReq) (id : Nat) (now : DateTime)
  | runtimes_delete (rid : String)

def runtimes_list (db : Database) (projectid : String) (lt : Option Nat) : Reply :=
  match lt with
  | some limit => ⟨200, get_list db projectid limit⟩
  | none => ⟨500, []⟩

/-- The project of the path is an argument that the handler does not use. -/
def runtimes_create (db : Database) (_projectid : String) (rq : Option RuntimeReq) (id : Nat)
    (now : DateTime) : Reply × Database :=
  match rq with
  | none => (⟨500, []⟩, db)
  | some rq =>
      match create db rq id now with
      | (true, db) => (⟨201, []⟩, db)
      | (false, db) => (⟨200, []⟩, db)

def runtimes_delete (db : Database) (_projectid rid : String) : Reply × Database :=
  (⟨200, []⟩, delete_by_rid db rid)

def handle (db : Database) (projectid : String) : Request → Reply × Database
  | .runtimes_list lt => (runtimes_list db projectid lt, db)
  | .runtimes_create rq id now => runtimes_create db projectid rq id now
  | .runtimes_delete rid => runtimes_delete db projectid rid

def rowsOf (db : Database) (projectid : String) : List RuntimeModel :=
  db.runtimes.rows.filter fun row => row.project_id == some projectid

/-- No row of another project is inserted, deleted or returned. -/
def Confined (db : Database) (projectid : String) (request : Request) : Prop :=
  (∀ other, other ≠ projectid → rowsOf (handle db projectid request).2 other = rowsOf db other) ∧
    ∀ data ∈ (handle db projectid request).1.rows,
      ∃ row ∈ rowsOf db projectid, data = model2runtime row projectid

/-- The body names the project of the path or is refused, and the id in the path is not the id of
a row of another project. -/
def Stays (db : Database) (projectid : String) : Request → Prop
  | .runtimes_list _ => True
  | .runtimes_create none _ _ => True
  | .runtimes_create (some rq) _ _ => rq.project_id = projectid ∨
      db.hasProject rq.project_id = false ∨ ∃ row ∈ db.runtimes.rows, row.runtimeid = runtimeid rq
  | .runtimes_delete rid => ∀ row ∈ db.runtimes.rows, row.runtimeid = rid →
      row.project_id = some projectid ∨ row.project_id = none

variable {db : Database} {projectid : String}

theorem mem_rowsOf {row : RuntimeModel} :
    row ∈ rowsOf db projectid ↔ row ∈ db.runtimes.rows ∧ row.project_id = some projectid := by
  simp [rowsOf]

theorem mem_newestFirst {rows : List RuntimeModel} {row : RuntimeModel} :
    row ∈ newestFirst rows ↔ row ∈ rows :=
  (List.mergeSort_perm _ _).mem_iff

theorem mem_get_list {limit : Nat} {data : RuntimeData} (listed : data ∈ get_list db projectid limit) :
    ∃ row ∈ rowsOf db projectid, data = model2runtime row projectid := by
  obtain ⟨row, taken, rfl⟩ := List.mem_map.mp listed
  exact ⟨row, mem_newestFirst.mp (List.mem_of_mem_take taken), rfl⟩

/-- What a task of a project is given depends on the rows of the project only. -/
theorem get_runtime_eq (db : Database) (projectid runtime_name : String) (version : Option String) :
    get_runtime db projectid runtime_name version =
      (if truthy version then
        ((rowsOf db projectid).filter fun row => row.runtime_name == runtime_name).find?
          fun row => some row.version == version
        else latest ((rowsOf db projectid).filter fun row => row.runtime_name == runtime_name)).map
          fun row => model2runtime row projectid := by
  have rows : (db.runtimes.rows.filter fun row =>
      row.project_id == some projectid && row.runtime_name == runtime_name) =
      (rowsOf db projectid).filter fun row => row.runtime_name == runtime_name := by
    rw [rowsOf, List.filter_filter]
    apply List.filter_congr
    intro row _
    exact Bool.and_comm ..
  rw [get_runtime, rows]

theorem get_runtime_congr {after : Database} (same : rowsOf after projectid = rowsOf db projectid)
    (runtime_name : String) (version : Option String) :
    get_runtime after projectid runtime_name version =
      get_runtime db projectid runtime_name version := by
  rw [get_runtime_eq, get_runtime_eq, same]

theorem create_refused {rq : RuntimeReq} {id : Nat} {now : DateTime}
    (refused : db.hasProject rq.project_id = false ∨
      ∃ row ∈ db.runtimes.rows, row.runtimeid = runtimeid rq) :
    create db rq id now = (false, db) := by
  rcases refused with missing | ⟨row, member, taken⟩
  · simp [create, missing]
  · have clash : ¬RuntimeModel.Accepted (db.runtimes.rows ++ [newRow rq id now]) := by
      intro accepted
      have fresh := (Distinct.append_singleton_iff _).mp accepted
      exact fresh.2 (runtimeid rq) rfl row member (congrArg some taken)
    rcases db.runtimes.insert_cases (newRow rq id now) with ⟨_, none⟩ | ⟨_, _, _, accepted⟩
    · simp [create, none]
    · exact absurd accepted clash

theorem create_stored {rq : RuntimeReq} (id : Nat) (now : DateTime)
    (known : db.hasProject rq.project_id = true)
    (fresh : ∀ row ∈ db.runtimes.rows, row.runtimeid ≠ runtimeid rq) :
    ∃ after, create db rq id now = (true, after) ∧
      after.runtimes.rows = db.runtimes.rows ++ [newRow rq id now] := by
  have accepted : RuntimeModel.Accepted (db.runtimes.rows ++ [newRow rq id now]) := by
    refine (Distinct.append_singleton_iff _).mpr ⟨db.runtimes.holds, ?_⟩
    rintro _ ⟨⟩ row member
    simpa [newRow] using fresh row member
  rcases db.runtimes.insert_cases (newRow rq id now) with ⟨refused, _⟩ | ⟨added, some, rows, _⟩
  · exact absurd accepted refused
  · simp [create, known, some, rows]

theorem rowsOf_append {after : Database} {row : RuntimeModel}
    (stored : after.runtimes.rows = db.runtimes.rows ++ [row]) (other : String) :
    rowsOf after other = rowsOf db other ↔ row.project_id ≠ some other := by
  rw [rowsOf, stored, List.filter_append, ← rowsOf]
  by_cases own : row.project_id = some other
  · simp [own]
  · simp [own]

theorem rowsOf_delete (rid other : String) :
    rowsOf (delete_by_rid db rid) other = rowsOf db other ↔
      ∀ row ∈ db.runtimes.rows, row.runtimeid = rid → row.project_id ≠ some other := by
  have rows : rowsOf (delete_by_rid db rid) other =
      (rowsOf db other).filter fun row => !(row.runtimeid == rid) := by
    simp only [rowsOf, delete_by_rid, Table.rows_deleteWhere, List.filter_filter]
    apply List.filter_congr
    intro row _
    exact Bool.and_comm ..
  rw [rows, List.filter_eq_self]
  constructor
  · intro kept row member called own
    simpa [called] using kept row (mem_rowsOf.mpr ⟨member, own⟩)
  · intro foreign row member
    obtain ⟨stored, own⟩ := mem_rowsOf.mp member
    have different : row.runtimeid ≠ rid := fun called => foreign row stored called own
    simp [different]

theorem confined_create_iff {rq : RuntimeReq} {id : Nat} {now : DateTime} :
    Confined db projectid (.runtimes_create (some rq) id now) ↔
      Stays db projectid (.runtimes_create (some rq) id now) := by
  by_cases refused : db.hasProject rq.project_id = false ∨
      ∃ row ∈ db.runtimes.rows, row.runtimeid = runtimeid rq
  · have unchanged : create db rq id now = (false, db) := create_refused refused
    refine iff_of_true ⟨?_, ?_⟩ (Or.inr refused)
    · intro other _
      simp [handle, runtimes_create, unchanged]
    · simp [handle, runtimes_create, unchanged]
  · obtain ⟨known, fresh⟩ := not_or.mp refused
    obtain ⟨after, created, stored⟩ := create_stored id now (by simpa using known)
      (by simpa using fresh)
    have handled : handle db projectid (.runtimes_create (some rq) id now) = (⟨201, []⟩, after) := by
      simp [handle, runtimes_create, created]
    unfold Confined Stays
    rw [handled]
    constructor
    · rintro ⟨kept, _⟩
      by_contra foreign
      have other : rq.project_id ≠ projectid := fun same => foreign (.inl same)
      exact (rowsOf_append stored _).mp (kept rq.project_id other) rfl
    · rintro (rfl | clash)
      · refine ⟨?_, by simp⟩
        intro other different
        exact (rowsOf_append stored other).mpr fun same => different (Option.some.inj same).symm
      · exact absurd clash refused

theorem confined_delete_iff {rid : String} :
    Confined db projectid (.runtimes_delete rid) ↔ Stays db projectid (.runtimes_delete rid) := by
  have returned : ∀ data ∈ (handle db projectid (.runtimes_delete rid)).1.rows,
      ∃ row ∈ rowsOf db projectid, data = model2runtime row projectid := by
    simp [handle, runtimes_delete]
  unfold Confined Stays
  constructor
  · rintro ⟨kept, _⟩ row member called
    cases owner : row.project_id with
    | none => exact .inr rfl
    | some other =>
        by_cases own : other = projectid
        · exact .inl (congrArg some own)
        · exact absurd owner ((rowsOf_delete rid other).mp (kept other own) row member called)
  · intro stays
    refine ⟨?_, returned⟩
    intro other different
    apply (rowsOf_delete rid other).mpr
    intro row member called owner
    rcases stays row member called with own | orphan
    · exact different (Option.some.inj (owner.symm.trans own))
    · exact absurd (owner.symm.trans orphan) (by simp)

theorem confined_iff_stays (db : Database) (projectid : String) (request : Request) :
    Confined db projectid request ↔ Stays db projectid request := by
  cases request with
  | runtimes_list lt =>
      refine iff_of_true ⟨fun _ _ => rfl, ?_⟩ trivial
      cases lt with
      | none => simp [handle, runtimes_list]
      | some limit => exact fun data listed => mem_get_list listed
  | runtimes_create rq id now =>
      cases rq with
      | none => exact iff_of_true ⟨fun _ _ => rfl, by simp [handle, runtimes_create]⟩ trivial
      | some rq => exact confined_create_iff
  | runtimes_delete rid => exact confined_delete_iff

def step (db : Database) (sent : String × Request) : Database := (handle db sent.1 sent.2).2

/-- A request leaves the rows of other projects alone exactly when it stays with its own. After
any requests that were made for other projects and stayed with them, the tasks of a project are
given the images they were given before. -/
theorem requests_confined_iff (db : Database) :
    (∀ (projectid : String) (request : Request),
      Confined db projectid request ↔ Stays db projectid request) ∧
    ∀ (own : String) (sent : List (String × Request)),
      Runs.Along step (fun db sent => sent.1 ≠ own ∧ Stays db sent.1 sent.2) db sent →
        ∀ runtime_name version, get_runtime (Runs.run step db sent) own runtime_name version =
          get_runtime db own runtime_name version := by
  refine ⟨confined_iff_stays db, ?_⟩
  intro own sent along runtime_name version
  have kept : ∀ (db : Database) (sent : String × Request),
      sent.1 ≠ own ∧ Stays db sent.1 sent.2 → rowsOf (step db sent) own = rowsOf db own := by
    rintro db ⟨projectid, request⟩ ⟨foreign, stays⟩
    exact ((confined_iff_stays db projectid request).mpr stays).1 own (Ne.symm foreign)
  exact get_runtime_congr (Runs.run_frame (fun db => rowsOf db own) kept along) runtime_name version

def foreignReq : RuntimeReq :=
  { runtime_name := "default"
    docker_name := "labfunctions/q-default"
    spec := { name := "default", container := { image := "python:3.8", maintainer := "lab" } }
    project_id := "q"
    version := "2"
    registry := none }

theorem foreign_runtime_inserted : ¬∀ (db : Database) (projectid : String) (request : Request),
    Confined db projectid request := by
  intro confined
  have stays := (confined_iff_stays _ _ _).mp
    (confined Sample.db "p" (.runtimes_create (some foreignReq) 1 Sample.morning))
  rcases stays with same | missing | ⟨row, member, _⟩
  · exact absurd same (by decide)
  · exact absurd missing (by decide)
  · exact absurd member List.not_mem_nil

end RuntimeRegistry

end LabFunctions
