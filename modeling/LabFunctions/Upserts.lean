import LabFunctions.Library.Merging
import LabFunctions.ProjectTransactions

/-!
The `create_or_update` functions of `projects_mg` and `machine_mg`, over tables whose rows keep
their primary keys.
-/

namespace LabFunctions

open Filenames Transactions Merging

/-! `types.machine`, as the manager stores it. -/

namespace MachineMg

structure MachineType where
  size : String
  image : String
  vcpus : Int := 1
  network : String := "default"
  extra : Option (List (String × Json)) := none

structure MachineGPU where
  name : String
  gpu_type : String
  count : Int := 1
  extra : Option (List (String × Json)) := none

structure MachineOrm where
  name : String
  provider : String
  location : String
  machine_type : MachineType
  gpu : Option MachineGPU := none
  volumes : List String := []
  desc : Option String := none

def extraDict (extra : Option (List (String × Json))) : Json := (extra.map Json.dict).getD .null

def MachineType.dict (machine_type : MachineType) : Json :=
  .dict [("size", .str machine_type.size), ("image", .str machine_type.image),
    ("vcpus", .int machine_type.vcpus), ("network", .str machine_type.network),
    ("extra", extraDict machine_type.extra)]

def MachineGPU.dict (gpu : MachineGPU) : Json :=
  .dict [("name", .str gpu.name), ("gpu_type", .str gpu.gpu_type), ("count", .int gpu.count),
    ("extra", extraDict gpu.extra)]

end MachineMg

structure MachineModel where
  name : String
  location : String
  provider : String
  desc : Option String
  machine_type : Json
  gpu : Json
  volumes : Json

namespace MachineModel

def Accepted (rows : List MachineModel) : Prop :=
  Distinct (fun row => some row.name) rows ∧
    Distinct (fun row => some (row.name, row.provider)) rows

instance : DecidablePred Accepted := fun _ => inferInstanceAs (Decidable (_ ∧ _))

/-- `MachineModel(**machine.dict())`, which sets no id. -/
def ofOrm (machine : MachineMg.MachineOrm) : MachineModel :=
  { name := machine.name
    location := machine.location
    provider := machine.provider
    desc := machine.desc
    machine_type := machine.machine_type.dict
    gpu := (machine.gpu.map MachineMg.MachineGPU.dict).getD .null
    volumes := .list (machine.volumes.map Json.str) }

end MachineModel

namespace Upserts

structure Tables where
  users : Table UserModel UserModel.Accepted
  projects : Relation ProjectModel.Accepted
  machines : Relation MachineModel.Accepted

def Tables.hasUser (tables : Tables) (id : Nat) : Bool :=
  tables.users.rows.any fun user => user.id == id

def mergeProject (given : Nat) (pm : ProjectModel) (tables : Tables) : Except Exn Tables :=
  if Database.tooLong pm then .error .dataError
  else if pm.owner_id.all tables.hasUser then
    match merge given none pm tables.projects with
    | some projects => .ok { tables with projects }
    | none => .error .integrityError
  else .error .integrityError

def mergeMachine (given : Nat) (m : MachineModel) (tables : Tables) : Except Exn Tables :=
  match merge given none m tables.machines with
  | some machines => .ok { tables with machines }
  | none => .error .integrityError

end Upserts

namespace ProjectsMg

/-- `create_or_update` again, in tables that keep the primary keys. -/
def create_or_update_keyed (unicode : Unicode) (projectid : ProjectId) (given user_id : Nat)
    (pq : ProjectReq) : Tx Exn Upserts.Tables ProjectModel := do
  let pm := _insert unicode user_id pq projectid.text
  execute (Upserts.mergeProject given pm)
  return pm

end ProjectsMg

namespace MachineMg

def create_or_update (given : Nat) (machine : MachineOrm) : Tx Exn Upserts.Tables MachineModel := do
  let m := MachineModel.ofOrm machine
  execute (Upserts.mergeMachine given m)
  return m

def create_or_update_sync (given : Nat) (machine : MachineOrm) :
    Tx Exn Upserts.Tables MachineModel := do
  let m := MachineModel.ofOrm machine
  execute (Upserts.mergeMachine given m)
  return m

end MachineMg

namespace Upserts

/-- A call in a session of its own, which commits it. -/
def committed {ρ : Type} (call : Tx Exn Tables ρ) (tables : Tables) : Except Exn ρ × Tables :=
  answered (do let model ← call; commit; return model) tables

structure SameName {α ν : Type} (name : α → ν) where
  first : α
  second : α
  same : name first = name second

/-- Both calls succeed and update by the name, where `values` are those of the second record. -/
def UpdatesByName {ρ ν : Type} (name : ρ → ν) (keep : ρ → ρ → ρ) (view : Tables → List (Row ρ))
    (first second : Tx Exn Tables ρ) (values : ρ) (tables : Tables) : Prop :=
  ∃ one two middle after, committed first tables = (.ok one, middle) ∧
    committed second middle = (.ok two, after) ∧
    Upserted name keep values (view tables) (view middle) (view after)

/-- The first call decides: behind one that succeeded the second raises and changes nothing. -/
def Refuses {ρ : Type} (first second : Tx Exn Tables ρ) (tables : Tables) : Prop :=
  ∀ one middle, committed first tables = (.ok one, middle) →
    ∃ failure, committed second middle = (.error failure, middle)

def keepProject (row values : ProjectModel) : ProjectModel :=
  { values with projectid := row.projectid }

def keepMachine (_row values : MachineModel) : MachineModel := values

variable {ρ ν : Type} {tables : Tables}

/-! The merge against `ProjectsMg.create_or_update`, which knows no primary keys. -/

def Tables.forget (tables : Tables) (db : Database) : Database :=
  { db with users := tables.users, projects := tables.projects.forget }

theorem mergeProject_forget (db : Database) {given : Nat} (pm : ProjectModel)
    (fresh : ∀ row ∈ tables.projects.rows, row.id ≠ given) :
    (mergeProject given pm tables).map (fun next => next.forget db) =
      Database.insertProject pm (tables.forget db) := by
  have users : (tables.forget db).hasUser = tables.hasUser := rfl
  have inserted : (tables.forget db).projects.insert pm =
      (merge given none pm tables.projects).map Relation.forget :=
    (forget_merge_none fresh).symm
  unfold mergeProject Database.insertProject
  rw [users, inserted]
  split
  · rfl
  · split
    · cases merge given none pm tables.projects <;> rfl
    · rfl

theorem create_or_update_forget (unicode : Unicode) (drawn : Drawn) {given : Nat} (user_id : Nat)
    (pq : ProjectReq) (db : Database) (fresh : ∀ row ∈ tables.projects.rows, row.id ≠ given) :
    (run (ProjectsMg.create_or_update unicode drawn user_id pq)
        (opened (tables.forget db))).2.working =
      (run (ProjectsMg.create_or_update_keyed unicode drawn.projectid given user_id pq)
        (opened tables)).2.working.forget db := by
  have inserted := mergeProject_forget db
    (ProjectsMg._insert unicode user_id pq drawn.projectid.text) fresh
  unfold ProjectsMg.create_or_update ProjectsMg.create_or_update_keyed
  rw [run_bind]
  simp only [run, execute, opened, ← inserted]
  generalize ProjectsMg._insert unicode user_id pq drawn.projectid.text = pm
  cases mergeProject given pm tables <;> rfl

/-! A statement, its model and the commit. -/

theorem committed_execute (statement : Tables → Except Exn Tables) (model : ρ) (tables : Tables) :
    committed (do execute statement; return model) tables =
      match statement tables with
      | .ok next => (.ok model, next)
      | .error failure => (.error failure, tables) := by
  unfold committed answered
  simp only [run_bind]
  simp only [run, execute, opened]
  cases statement tables <;> rfl

theorem refuses_execute {first second : Tables → Except Exn Tables} (one two : ρ)
    (refused : ∀ next, first tables = .ok next → ∃ failure, second next = .error failure) :
    Refuses (do execute first; return one) (do execute second; return two) tables := by
  intro model middle ran
  rw [committed_execute] at ran
  cases written : first tables with
  | error failure => simp [written] at ran
  | ok next =>
      obtain ⟨failure, raised⟩ := refused next written
      simp only [written, Prod.mk.injEq] at ran
      rw [← ran.2, committed_execute, raised]
      exact ⟨failure, rfl⟩

theorem not_updates_of_refuses {name : ρ → ν} {keep : ρ → ρ → ρ} {view : Tables → List (Row ρ)}
    {first second : Tx Exn Tables ρ} {values : ρ} (refuses : Refuses first second tables) :
    ¬UpdatesByName name keep view first second values tables := by
  rintro ⟨one, two, middle, after, ran, again, _⟩
  obtain ⟨failure, raised⟩ := refuses one middle ran
  rw [raised] at again
  cases again

theorem merged_of_mergeProject {given : Nat} {pm : ProjectModel} {next : Tables}
    (stored : mergeProject given pm tables = .ok next) :
    merge given none pm tables.projects = some next.projects := by
  unfold mergeProject at stored
  split at stored
  · cases stored
  · split at stored
    · cases merged : merge given none pm tables.projects with
      | none => simp [merged] at stored
      | some projects =>
          simp only [merged, Except.ok.injEq] at stored
          rw [← stored]
    · cases stored

theorem merged_of_mergeMachine {given : Nat} {m : MachineModel} {next : Tables}
    (stored : mergeMachine given m tables = .ok next) :
    merge given none m tables.machines = some next.machines := by
  unfold mergeMachine at stored
  cases merged : merge given none m tables.machines with
  | none => simp [merged] at stored
  | some machines =>
      simp only [merged, Except.ok.injEq] at stored
      rw [← stored]

theorem mergeProject_twice {given again : Nat} {pm other : ProjectModel} {next : Tables}
    (first : mergeProject given pm tables = .ok next) (same : pm.name = other.name) :
    ∃ failure, mergeProject again other next = .error failure := by
  have refused : merge again none other next.projects = none :=
    merge_none_twice (fun _ accepted => accepted.2) (merged_of_mergeProject first) same
  unfold mergeProject
  rw [refused]
  split
  · exact ⟨_, rfl⟩
  · split <;> exact ⟨_, rfl⟩

theorem mergeMachine_twice {given again : Nat} {m other : MachineModel} {next : Tables}
    (first : mergeMachine given m tables = .ok next) (same : m.name = other.name) :
    mergeMachine again other next = .error .integrityError := by
  have refused : merge again none other next.machines = none :=
    merge_none_twice (fun _ accepted => accepted.1) (merged_of_mergeMachine first) same
  unfold mergeMachine
  rw [refused]

theorem project_refuses (unicode : Unicode)
    (pair : SameName fun pq : ProjectReq => normalize_name unicode pq.name)
    (one two : ProjectId) (given again owner other : Nat) (tables : Tables) :
    Refuses (ProjectsMg.create_or_update_keyed unicode one given owner pair.first)
      (ProjectsMg.create_or_update_keyed unicode two again other pair.second) tables :=
  refuses_execute _ _ fun _ first => mergeProject_twice first pair.same

theorem machine_refuses (pair : SameName MachineMg.MachineOrm.name) (given again : Nat)
    (tables : Tables) :
    Refuses (MachineMg.create_or_update given pair.first)
      (MachineMg.create_or_update again pair.second) tables :=
  refuses_execute _ _ fun _ first => ⟨_, mergeMachine_twice first pair.same⟩

/-- No two calls for one name are an upsert by it, whatever the tables hold: the model that is
merged carries no primary key, so behind a call that has stored its row the next one inserts
another row of that name, which is refused. -/
theorem create_or_update_never (unicode : Unicode) (tables : Tables) :
    (∀ (pair : SameName fun pq : ProjectReq => normalize_name unicode pq.name)
        (one two : ProjectId) (given again owner other : Nat),
      let first := ProjectsMg.create_or_update_keyed unicode one given owner pair.first
      let second := ProjectsMg.create_or_update_keyed unicode two again other pair.second
      ¬UpdatesByName ProjectModel.name keepProject (fun tables => tables.projects.rows) first second
        (ProjectsMg._insert unicode other pair.second two.text) tables ∧
        Refuses first second tables) ∧
    ∀ (pair : SameName MachineMg.MachineOrm.name) (given again : Nat),
      ∀ create_or_update ∈ [MachineMg.create_or_update, MachineMg.create_or_update_sync],
        let first := create_or_update given pair.first
        let second := create_or_update again pair.second
        ¬UpdatesByName MachineModel.name keepMachine (fun tables => tables.machines.rows) first
          second (MachineModel.ofOrm pair.second) tables ∧ Refuses first second tables := by
  constructor
  · intro pair one two given again owner other
    have refuses := project_refuses unicode pair one two given again owner other tables
    exact ⟨not_updates_of_refuses refuses, refuses⟩
  · intro pair given again create_or_update member
    have refuses := machine_refuses pair given again tables
    have same : create_or_update = MachineMg.create_or_update := by
      simp only [List.mem_cons, List.not_mem_nil, or_false] at member
      rcases member with rfl | rfl <;> rfl
    rw [same]
    exact ⟨not_updates_of_refuses refuses, refuses⟩

namespace Sample

def empty : Tables where
  users := ⟨[], Distinct.nil, Distinct.nil⟩
  projects := ⟨[], Distinct.nil, Distinct.nil, Distinct.nil⟩
  machines := ⟨[], Distinct.nil, Distinct.nil, Distinct.nil⟩

def machine (desc : String) : MachineMg.MachineOrm where
  name := "box"
  provider := "gce"
  location := "us-east1-c"
  machine_type := { size := "g1-small", image := "debian-10" }
  desc := some desc

end Sample

/-- The first call stores the machine, and the one that changes its description is refused. -/
theorem second_description_refused :
    (∃ one middle,
      committed (MachineMg.create_or_update 1 (Sample.machine "first")) Sample.empty =
        (.ok one, middle) ∧
      (committed (MachineMg.create_or_update 2 (Sample.machine "second")) middle).1 =
        .error .integrityError) ∧
    ¬∀ (tables : Tables) (first second : MachineMg.MachineOrm) (given again : Nat),
      first.name = second.name →
        UpdatesByName MachineModel.name keepMachine (fun tables => tables.machines.rows)
          (MachineMg.create_or_update given first) (MachineMg.create_or_update again second)
          (MachineModel.ofOrm second) tables := by
  constructor
  · exact ⟨_, _, rfl, rfl⟩
  · intro updates
    have refuses := machine_refuses ⟨Sample.machine "first", Sample.machine "second", rfl⟩ 1 2
      Sample.empty
    exact not_updates_of_refuses refuses (updates Sample.empty (Sample.machine "first")
      (Sample.machine "second") 1 2 rfl)

end Upserts

end LabFunctions
