import LabFunctions.Library.Tables
import LabFunctions.Types

/-!
The rows of `labfunctions.models`, the constraints PostgreSQL enforces on them, and
the exceptions the managers raise.
-/

namespace LabFunctions

inductive Exn where
  | integrityError
  | dataError
  | workflowRegisterError (project alias_ : String)
  | typeError (message : String)
  | validationError
  | attributeError
  | keyError (key : String)
  | multipleResultsFound
  | authValidationFailed
  | invalidTokenError
  | keyWriteError
  | dockerError (message : String)
  | otherError (message : String)
  deriving DecidableEq

structure ProjectModel where
  projectid : String
  name : String
  private_key : String
  description : Option String := none
  repository : Option String := none
  owner_id : Option Nat := none

structure UserModel where
  id : Nat
  username : String
  email : Option String := none
  password : Option String := none
  is_superuser : Bool := false
  is_active : Bool := true
  scopes : String := "user"
  is_agent : Bool := false
  deriving DecidableEq

structure WorkflowModel where
  wfid : String
  alias_ : String
  nbtask : Json
  schedule : Json
  enabled : Bool := true
  project_id : Option String
  updated_at : DateTime

structure HistoryModel where
  wfid : String
  execid : String
  project_id : Option String
  nb_name : String
  result : ExecutionResult
  elapsed_secs : String
  status : Int

structure RuntimeModel where
  id : Nat
  runtimeid : String
  runtime_name : String
  docker_name : String
  spec : RuntimeSpec
  version : String
  registry : Option String := none
  project_id : Option String
  created_at : DateTime

structure ProjectUser where
  project_id : String
  user_id : Nat
  deriving DecidableEq

namespace ProjectModel

def Accepted (rows : List ProjectModel) : Prop :=
  Distinct (fun row => some row.projectid) rows ∧ Distinct (fun row => some row.name) rows

instance : DecidablePred Accepted := fun _ => inferInstanceAs (Decidable (_ ∧ _))

end ProjectModel

namespace UserModel

def Accepted (rows : List UserModel) : Prop :=
  Distinct (fun row => some row.id) rows ∧ Distinct (fun row => some row.username) rows

instance : DecidablePred Accepted := fun _ => inferInstanceAs (Decidable (_ ∧ _))

instance : Table.Hereditary Accepted where
  sublist sub accepted := ⟨accepted.1.sublist sub, accepted.2.sublist sub⟩

end UserModel

namespace WorkflowModel

/-- The pair of `_lf_workflow__project_alias`; a NULL project clashes with nothing. -/
def aliasKey (row : WorkflowModel) : Option (String × String) :=
  row.project_id.map fun projectid => (row.alias_, projectid)

def ALIAS_LEN : Nat := 33

def Accepted (rows : List WorkflowModel) : Prop :=
  Distinct (fun row => some row.wfid) rows ∧ Distinct aliasKey rows ∧
    ∀ row ∈ rows, row.alias_.length ≤ ALIAS_LEN

instance : DecidablePred Accepted := fun _ => inferInstanceAs (Decidable (_ ∧ _ ∧ _))

instance : Table.Hereditary Accepted where
  sublist sub accepted := ⟨accepted.1.sublist sub, accepted.2.1.sublist sub,
    fun row member => accepted.2.2 row (sub.subset member)⟩

end WorkflowModel

namespace RuntimeModel

def Accepted (rows : List RuntimeModel) : Prop :=
  Distinct (fun row => some row.runtimeid) rows

instance : DecidablePred Accepted := inferInstanceAs (DecidablePred (Distinct _))

end RuntimeModel

abbrev WorkflowTable := Table WorkflowModel WorkflowModel.Accepted
abbrev RuntimeTable := Table RuntimeModel RuntimeModel.Accepted

structure Database where
  projects : Table ProjectModel ProjectModel.Accepted
  users : Table UserModel UserModel.Accepted
  projects_users : List ProjectUser
  workflows : WorkflowTable
  runtimes : RuntimeTable

namespace Database

def hasProject (db : Database) (projectid : String) : Bool :=
  db.projects.rows.any fun row => row.projectid == projectid

variable {db : Database} {left right : UserModel}

theorem user_unique_id (leftMember : left ∈ db.users.rows) (rightMember : right ∈ db.users.rows)
    (same : left.id = right.id) : left = right :=
  db.users.holds.1.unique leftMember rightMember rfl (congrArg some same.symm)

theorem user_unique (leftMember : left ∈ db.users.rows) (rightMember : right ∈ db.users.rows)
    (same : left.username = right.username) : left = right :=
  db.users.holds.2.unique leftMember rightMember rfl (congrArg some same.symm)

theorem known_or_unknown (db : Database) (username : String) :
    (∃ user ∈ db.users.rows, user.username = username) ∨
      ∀ user ∈ db.users.rows, user.username ≠ username := by
  by_cases known : ∃ user ∈ db.users.rows, user.username = username
  · exact .inl known
  · exact .inr fun user stored named => known ⟨user, stored, named⟩

end Database

namespace WorkflowTable

variable {table : WorkflowTable}

theorem row_unique {left right : WorkflowModel} (leftMember : left ∈ table.rows)
    (rightMember : right ∈ table.rows) (same : left.wfid = right.wfid) : left = right :=
  table.holds.1.unique leftMember rightMember rfl (congrArg some same.symm)

end WorkflowTable

namespace Sample

def db : Database where
  projects := ⟨[{ projectid := "p", name := "first", private_key := "" },
    { projectid := "q", name := "second", private_key := "" }], by decide⟩
  users := ⟨[], by decide⟩
  projects_users := []
  workflows := ⟨[], by decide⟩
  runtimes := ⟨[], by decide⟩

end Sample

end LabFunctions
