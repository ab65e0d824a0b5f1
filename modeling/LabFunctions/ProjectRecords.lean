import LabFunctions.Filenames
import LabFunctions.LabStates
import LabFunctions.Library.Transactions
import LabFunctions.ProjectAgents

/-!
The records of projects in `labfunctions.managers.projects_mg`: what `create` writes and answers,
and what is read back from the row.
-/

namespace LabFunctions

open Filenames Transactions

structure ProjectReq where
  name : String
  private_key : String
  projectid : Option String := none
  description : Option String := none
  repository : Option String := none

/-- What creating a project or an agent draws: the random ids, and the id that the database
gives the row of the user. -/
structure Drawn where
  projectid : ProjectId
  front : NanoId 5
  agent : NanoId Defaults.AGENT_LEN
  id : Nat
  drawnSome : projectid.text ≠ "" := by decide

namespace Database

/-- A value that its column is too short for. -/
def tooLong (row : ProjectModel) : Bool :=
  16 < row.projectid.length || 128 < row.name.length || row.repository.any (2048 < ·.length)

def hasUser (db : Database) (id : Nat) : Bool := db.users.rows.any fun user => user.id == id

def insertProject (row : ProjectModel) (db : Database) : Except Exn Database :=
  if tooLong row then .error .dataError
  else if row.owner_id.all db.hasUser then
    match db.projects.insert row with
    | some projects => .ok { db with projects }
    | none => .error .integrityError
  else .error .integrityError

def insertMembership (link : ProjectUser) (db : Database) : Except Exn Database :=
  if db.hasProject link.project_id && db.hasUser link.user_id then
    .ok { db with projects_users := db.projects_users ++ [link] }
  else .error .integrityError

def insertUser (row : UserModel) (db : Database) : Except Exn Database :=
  match db.users.insert row with
  | some users => .ok { db with users }
  | none => .error .integrityError

end Database

namespace ProjectsMg

def usersOf (db : Database) (projectid : String) : List String :=
  ((UsersMg.join_by_project db).filter fun row => row.1.projectid == projectid).map fun row =>
    row.2.username

def _model2projectdata (db : Database) (obj : ProjectModel) : Except Exn ProjectData :=
  match obj.owner_id.bind fun id => db.users.rows.find? fun user => user.id == id with
  | none => .error .attributeError
  | some owner =>
      -- the repository is passed as `respository`, a name that the model has no field for
      .ok
        { name := obj.name
          projectid := obj.projectid
          owner := some owner.username
          users := some (usersOf db obj.projectid)
          description := obj.description }

def _insert (unicode : Unicode) (user_id : Nat) (pq : ProjectReq) (projectid : String) :
    ProjectModel :=
  { projectid
    name := normalize_name unicode pq.name
    private_key := pq.private_key
    description := pq.description
    repository := pq.repository
    owner_id := some user_id }

def get_by_projectid_model (db : Database) (projectid : String) : Option ProjectModel :=
  db.projects.rows.find? fun row => row.projectid == projectid

def get_by_projectid (db : Database) (projectid : String) (user_id : Option Nat := none) :
    Except Exn (Option ProjectData) :=
  match db.projects.rows.find? fun row => row.projectid == projectid &&
      (user_id.getD 0 == 0 || row.owner_id == user_id) with
  | none => .ok none
  | some obj => (_model2projectdata db obj).map some

def agentOf (drawn : Drawn) (projectid : String) : UserModel :=
  let front := if projectid = "" then drawn.front.text else String.ofList (projectid.toList.take 5)
  { id := drawn.id
    username := Defaults.AGENT_USER_PREFIX ++ (front ++ "-" ++ drawn.agent.text)
    scopes := Defaults.AGENT_SCOPES
    is_agent := true }

/-- The user that `session.add` keeps is written by the flush ahead of the commit. -/
def create_agent (drawn : Drawn) (projectid : String) : Tx Exn Database UserModel := do
  let u := agentOf drawn projectid
  if projectid = "" then execute (Database.insertUser u)
  else
    let prj ← query fun db => .ok (get_by_projectid_model db projectid)
    match prj with
    | none => throw .attributeError
    | some prj => do
        execute (Database.insertUser u)
        execute (Database.insertMembership ⟨prj.projectid, u.id⟩)
  return u

def create (unicode : Unicode) (drawn : Drawn) (user_id : Nat) (pq : ProjectReq) :
    Tx Exn Database (Option ProjectData) :=
  let projectid := pyOr pq.projectid drawn.projectid.text
  tryCatch
    (do
      execute (Database.insertProject (_insert unicode user_id pq projectid))
      execute (Database.insertMembership ⟨projectid, user_id⟩)
      let agent_user ← create_agent drawn projectid
      commit
      return some
        { name := pq.name
          projectid
          description := pq.description
          repository := pq.repository
          agent := some agent_user.username })
    fun failure => if failure = .integrityError then return none else throw failure

end ProjectsMg

namespace ProjectRecords

open ProjectsMg

variable {unicode : Unicode} {drawn : Drawn} {db next : Database} {user_id : Nat} {pq : ProjectReq}

/-! What each statement needs and leaves. -/

theorem accepted_append_project (row : ProjectModel) :
    ProjectModel.Accepted (db.projects.rows ++ [row]) ↔
      ∀ other ∈ db.projects.rows, other.projectid ≠ row.projectid ∧ other.name ≠ row.name := by
  have holds := db.projects.holds
  unfold ProjectModel.Accepted at holds ⊢
  simp only [Distinct.append_singleton_iff, holds.1, holds.2, true_and, Option.some.injEq,
    ne_eq, forall_eq']
  exact forall₂_and.symm

theorem accepted_append_user (row : UserModel) :
    UserModel.Accepted (db.users.rows ++ [row]) ↔
      ∀ other ∈ db.users.rows, other.id ≠ row.id ∧ other.username ≠ row.username := by
  have holds := db.users.holds
  unfold UserModel.Accepted at holds ⊢
  simp only [Distinct.append_singleton_iff, holds.1, holds.2, true_and, Option.some.injEq,
    ne_eq, forall_eq']
  exact forall₂_and.symm

theorem insertProject_eq_ok {row : ProjectModel} : Database.insertProject row db = .ok next ↔
    Database.tooLong row = false ∧ row.owner_id.all db.hasUser = true ∧
      (∀ other ∈ db.projects.rows, other.projectid ≠ row.projectid ∧ other.name ≠ row.name) ∧
      ∃ projects, projects.rows = db.projects.rows ++ [row] ∧ next = { db with projects } := by
  unfold Database.insertProject
  cases long : Database.tooLong row with
  | true => simp
  | false =>
      cases owned : row.owner_id.all db.hasUser with
      | false => simp
      | true =>
          simp only [Bool.false_eq_true, if_false, if_true, true_and, ← accepted_append_project]
          rcases db.projects.insert_cases row with ⟨refused, none⟩ | ⟨added, some, rows, taken⟩
          · simp [none, refused]
          · simp [some, taken, Table.exists_rows_iff rows, eq_comm]

theorem insertUser_eq_ok {row : UserModel} : Database.insertUser row db = .ok next ↔
    (∀ other ∈ db.users.rows, other.id ≠ row.id ∧ other.username ≠ row.username) ∧
      ∃ users, users.rows = db.users.rows ++ [row] ∧ next = { db with users } := by
  unfold Database.insertUser
  rw [← accepted_append_user]
  rcases db.users.insert_cases row with ⟨refused, none⟩ | ⟨added, some, rows, taken⟩
  · simp [none, refused]
  · simp [some, taken, Table.exists_rows_iff rows, eq_comm]

theorem insertMembership_eq_ok {link : ProjectUser} :
    Database.insertMembership link db = .ok next ↔
      db.hasProject link.project_id = true ∧ db.hasUser link.user_id = true ∧
        next = { db with projects_users := db.projects_users ++ [link] } := by
  unfold Database.insertMembership
  by_cases known : (db.hasProject link.project_id && db.hasUser link.user_id) = true
  · rw [if_pos known]
    simp only [Bool.and_eq_true] at known
    simp [known.1, known.2, eq_comm]
  · rw [if_neg known]
    simp only [Bool.and_eq_true] at known
    simp only [reduceCtorEq, false_iff, not_and]
    intro project user
    exact absurd ⟨project, user⟩ known

structure Written (before after : Database) (row : ProjectModel) (user_id : Nat)
    (agent : UserModel) : Prop where
  projects : after.projects.rows = before.projects.rows ++ [row]
  users : after.users.rows = before.users.rows ++ [agent]
  links : after.projects_users =
    before.projects_users ++ [⟨row.projectid, user_id⟩] ++ [⟨row.projectid, agent.id⟩]

def projectidOf (drawn : Drawn) (pq : ProjectReq) : String :=
  pyOr pq.projectid drawn.projectid.text

theorem projectidOf_ne_empty : projectidOf drawn pq ≠ "" := by
  unfold projectidOf pyOr
  split
  · split
    · exact drawn.drawnSome
    · assumption
  · exact drawn.drawnSome

def rowOf (unicode : Unicode) (drawn : Drawn) (user_id : Nat) (pq : ProjectReq) : ProjectModel :=
  _insert unicode user_id pq (projectidOf drawn pq)

def answerOf (drawn : Drawn) (pq : ProjectReq) : ProjectData :=
  { name := pq.name
    projectid := projectidOf drawn pq
    description := pq.description
    repository := pq.repository
    agent := some (agentOf drawn (projectidOf drawn pq)).username }

structure Creatable (unicode : Unicode) (drawn : Drawn) (db : Database) (user_id : Nat)
    (pq : ProjectReq) : Prop where
  fits : Database.tooLong (rowOf unicode drawn user_id pq) = false
  owner : db.hasUser user_id = true
  project : ∀ other ∈ db.projects.rows,
    other.projectid ≠ projectidOf drawn pq ∧ other.name ≠ normalize_name unicode pq.name
  agent : ∀ other ∈ db.users.rows, other.id ≠ drawn.id ∧
    other.username ≠ (agentOf drawn (projectidOf drawn pq)).username

theorem hasProject_append {rows : List ProjectModel} (row : ProjectModel)
    (stored : db.projects.rows = rows ++ [row]) : db.hasProject row.projectid = true := by
  simp [Database.hasProject, stored]

theorem hasUser_append {rows : List UserModel} (row : UserModel)
    (stored : db.users.rows = rows ++ [row]) : db.hasUser row.id = true := by
  simp [Database.hasUser, stored]

theorem get_model_append {rows : List ProjectModel} (row : ProjectModel)
    (stored : db.projects.rows = rows ++ [row])
    (fresh : ∀ other ∈ rows, other.projectid ≠ row.projectid) :
    get_by_projectid_model db row.projectid = some row := by
  have front : rows.find? (fun other => other.projectid == row.projectid) = none := by
    apply List.find?_eq_none.mpr
    intro other member
    simpa using fresh other member
  rw [get_by_projectid_model, stored, List.find?_append, front]
  simp

theorem create_agent_eq_ok {projectid : String} (named : projectid ≠ "") {agent : UserModel}
    (session : Session Database) {later : Session Database} :
    run (create_agent drawn projectid) session = (.ok agent, later) ↔
      ∃ prj, get_by_projectid_model session.working projectid = some prj ∧
        agent = agentOf drawn projectid ∧
        ∃ middle next, Database.insertUser agent session.working = .ok middle ∧
          Database.insertMembership ⟨prj.projectid, agent.id⟩ middle = .ok next ∧
          later = { session with working := next } := by
  unfold create_agent
  simp only [if_neg named, run_bind_eq_ok, run_query_eq_ok, Except.ok.injEq]
  constructor
  · rintro ⟨found, middle, ⟨rfl, rfl⟩, ran⟩
    cases found : get_by_projectid_model middle.working projectid with
    | none =>
        simp only [found, run_bind_eq_ok] at ran
        obtain ⟨_, _, raised, _⟩ := ran
        simp at raised
    | some prj =>
        simp only [found, run_bind_eq_ok, run_execute_eq_ok] at ran
        obtain ⟨_, _, ⟨first, user, rfl⟩, _, _, ⟨second, link, rfl⟩, answer⟩ := ran
        simp only [run_pure, Prod.mk.injEq, Except.ok.injEq] at answer
        obtain ⟨rfl, rfl⟩ := answer
        exact ⟨prj, rfl, rfl, first, second, user, link, rfl⟩
  · rintro ⟨prj, found, rfl, middle, next, user, link, rfl⟩
    refine ⟨some prj, session, ⟨found, rfl⟩, ?_⟩
    simp only [run_bind_eq_ok, run_execute_eq_ok]
    exact ⟨⟨⟩, _, ⟨middle, user, rfl⟩, ⟨⟩, _, ⟨next, link, rfl⟩, rfl⟩

theorem create_eq_ok {data : ProjectData} {session later : Session Database} :
    run (create unicode drawn user_id pq) session = (.ok (some data), later) ↔
      data = answerOf drawn pq ∧ ∃ first second third,
        Database.insertProject (rowOf unicode drawn user_id pq) session.working = .ok first ∧
        Database.insertMembership ⟨projectidOf drawn pq, user_id⟩ first = .ok second ∧
        run (create_agent drawn (projectidOf drawn pq)) { session with working := second } =
          (.ok (agentOf drawn (projectidOf drawn pq)), third) ∧
        later = opened third.working := by
  have named : pyOr pq.projectid drawn.projectid.text = projectidOf drawn pq := rfl
  have unanswered : ∀ (failure : Exn) (middle : Session Database),
      run (if failure = .integrityError then return none else throw failure :
        Tx Exn Database (Option ProjectData)) middle ≠ (.ok (some data), later) := by
    intro failure middle
    split <;> simp
  simp only [create, named, run_tryCatch_eq_ok unanswered, run_bind_eq_ok, run_execute_eq_ok,
    run_commit_eq_ok]
  constructor
  · rintro ⟨_, _, ⟨first, project, rfl⟩, _, _, ⟨second, link, rfl⟩, agent, third, created, _, _,
      rfl, answer⟩
    obtain ⟨_, _, rfl, _⟩ := (create_agent_eq_ok projectidOf_ne_empty _).mp created
    simp only [run_pure, Prod.mk.injEq, Except.ok.injEq, Option.some.injEq] at answer
    obtain ⟨rfl, rfl⟩ := answer
    exact ⟨rfl, first, second, third, project, link, created, rfl⟩
  · rintro ⟨rfl, first, second, third, project, link, created, rfl⟩
    exact ⟨⟨⟩, _, ⟨first, project, rfl⟩, ⟨⟩, _, ⟨second, link, rfl⟩, _, third, created, ⟨⟩, _,
      rfl, rfl⟩

/-- What a creation that answers a project has needed and has committed. -/
theorem creatable_of_create {data : ProjectData} {state : Database}
    (created : answered (create unicode drawn user_id pq) state = (.ok (some data), next)) :
    Creatable unicode drawn state user_id pq ∧ data = answerOf drawn pq ∧
      Written state next (rowOf unicode drawn user_id pq) user_id
        (agentOf drawn (projectidOf drawn pq)) := by
  obtain ⟨later, ran, rfl⟩ := answered_eq_ok.mp created
  obtain ⟨rfl, first, second, third, project, link, agent, rfl⟩ := create_eq_ok.mp ran
  obtain ⟨fits, owner, fresh, projects, rows, rfl⟩ := insertProject_eq_ok.mp project
  obtain ⟨_, _, rfl⟩ := insertMembership_eq_ok.mp link
  obtain ⟨prj, found, _, fourth, fifth, user, membership, rfl⟩ :=
    (create_agent_eq_ok projectidOf_ne_empty _).mp agent
  obtain ⟨unused, users, people, rfl⟩ := insertUser_eq_ok.mp user
  obtain ⟨_, _, rfl⟩ := insertMembership_eq_ok.mp membership
  have same : prj.projectid = projectidOf drawn pq := by
    simpa using List.find?_some found
  refine ⟨⟨fits, Option.all_some.symm.trans owner, fresh, unused⟩, rfl, rows, people, ?_⟩
  simp only [opened, same]
  rfl

theorem create_of_creatable (creatable : Creatable unicode drawn db user_id pq) :
    ∃ next, answered (create unicode drawn user_id pq) db = (.ok (some (answerOf drawn pq)), next) := by
  obtain ⟨fits, owner, fresh, unused⟩ := creatable
  let projects : Table ProjectModel ProjectModel.Accepted :=
    ⟨_, (accepted_append_project (rowOf unicode drawn user_id pq)).mpr fresh⟩
  let first : Database := { db with projects }
  let second : Database :=
    { first with projects_users := first.projects_users ++ [⟨projectidOf drawn pq, user_id⟩] }
  let users : Table UserModel UserModel.Accepted :=
    ⟨_, (accepted_append_user (agentOf drawn (projectidOf drawn pq))).mpr unused⟩
  let third : Database := { second with users }
  let fourth : Database := { third with
    projects_users := third.projects_users ++ [⟨projectidOf drawn pq, drawn.id⟩] }
  have project : Database.insertProject (rowOf unicode drawn user_id pq) db = .ok first :=
    insertProject_eq_ok.mpr ⟨fits, by simpa [rowOf, _insert] using owner, fresh, projects, rfl, rfl⟩
  have link : Database.insertMembership ⟨projectidOf drawn pq, user_id⟩ first = .ok second :=
    insertMembership_eq_ok.mpr
      ⟨hasProject_append (rowOf unicode drawn user_id pq) rfl, owner, rfl⟩
  have found : get_by_projectid_model second (projectidOf drawn pq) =
      some (rowOf unicode drawn user_id pq) :=
    get_model_append (rowOf unicode drawn user_id pq) rfl fun other member =>
      (fresh other member).1
  have user : Database.insertUser (agentOf drawn (projectidOf drawn pq)) second = .ok third :=
    insertUser_eq_ok.mpr ⟨unused, users, rfl, rfl⟩
  have membership : Database.insertMembership ⟨projectidOf drawn pq, drawn.id⟩ third = .ok fourth :=
    insertMembership_eq_ok.mpr ⟨hasProject_append (rowOf unicode drawn user_id pq) rfl,
      hasUser_append (agentOf drawn (projectidOf drawn pq)) rfl, rfl⟩
  have agent := (create_agent_eq_ok projectidOf_ne_empty ⟨db, second⟩).mpr
    ⟨_, found, rfl, third, fourth, user, membership, rfl⟩
  exact ⟨fourth, answered_eq_ok.mpr ⟨_, create_eq_ok.mpr
    ⟨rfl, first, second, _, project, link, agent, rfl⟩, rfl⟩⟩

theorem normalize_name_eq (name : String) : normalize_name unicode name = core unicode name :=
  secure_filename_eq unicode name

/-- What is read back from the row: the stored name, and never a repository. -/
theorem get_by_projectid_of_written {row : ProjectModel} {agent : UserModel}
    (written : Written db next row user_id agent) (owner : db.hasUser user_id = true)
    (owned : row.owner_id = some user_id)
    (fresh : ∀ other ∈ db.projects.rows, other.projectid ≠ row.projectid) :
    ∃ back, get_by_projectid next row.projectid = .ok (some back) ∧
      back.projectid = row.projectid ∧ back.name = row.name ∧
      back.description = row.description ∧ back.repository = none := by
  have found := get_model_append row written.projects fresh
  have first : (next.projects.rows.find? fun other => other.projectid == row.projectid &&
      ((none : Option Nat).getD 0 == 0 || other.owner_id == none)) = some row := by
    simpa [get_by_projectid_model] using found
  obtain ⟨user, member, same⟩ := List.any_eq_true.mp owner
  have known : (next.users.rows.find? fun other => other.id == user_id).isSome = true := by
    rw [List.find?_isSome, written.users]
    exact ⟨user, List.mem_append_left _ member, same⟩
  obtain ⟨holder, held⟩ := Option.isSome_iff_exists.mp known
  unfold get_by_projectid
  rw [first]
  simp [_model2projectdata, owned, held, Except.map]

def RoundTrips (next : Database) (pq : ProjectReq) (data : ProjectData) : Prop :=
  ∃ back, get_by_projectid next data.projectid = .ok (some back) ∧
    back.projectid = data.projectid ∧ back.name = data.name ∧
    back.description = data.description ∧ back.repository = data.repository ∧
    back.repository = pq.repository ∧ back.description = pq.description

theorem roundTrips_iff {data : ProjectData}
    (created : answered (create unicode drawn user_id pq) db = (.ok (some data), next)) :
    RoundTrips next pq data ↔ pq.repository = none ∧ core unicode pq.name = pq.name := by
  obtain ⟨creatable, rfl, written⟩ := creatable_of_create created
  obtain ⟨back, read, projectid, name, description, repository⟩ :=
    get_by_projectid_of_written written creatable.owner rfl
      fun other member => (creatable.project other member).1
  have stored : back.name = core unicode pq.name := name.trans (normalize_name_eq pq.name)
  unfold RoundTrips
  constructor
  · rintro ⟨other, otherRead, _, sameName, _, _, sameRepository, _⟩
    obtain rfl : back = other := by
      simpa using (Except.ok.inj (read.symm.trans otherRead))
    exact ⟨sameRepository.symm.trans repository, stored.symm.trans sameName⟩
  · rintro ⟨none, clean⟩
    refine ⟨back, read, projectid, stored.trans clean, description, ?_, ?_, description⟩
    · exact repository.trans none.symm
    · exact repository.trans none.symm

/-- While a project has the stored name of the first request, the second one is refused, and the
rewritings make that happen wherever they leave the same text. -/
def SharesName (unicode : Unicode) (first second : ProjectReq) : Prop :=
  evaluated unicode first.name = evaluated unicode second.name →
    normalize_name unicode first.name = normalize_name unicode second.name ∧
    ∀ (db : Database) (drawn : Drawn) (user_id : Nat),
      (∃ row ∈ db.projects.rows, row.name = normalize_name unicode first.name) →
      ∀ data next, answered (create unicode drawn user_id second) db ≠ (.ok (some data), next)

/-- A created project is read back as it was answered exactly when no repository was given and
the name already is a file name. Two names that the rewritings make equal are stored as one
exactly when the same can be seen of them as they stand. -/
theorem projects_round_trip_iff (unicode : Unicode) :
    (∀ (drawn : Drawn) (db : Database) (user_id : Nat) (pq : ProjectReq),
      (∀ data next, answered (create unicode drawn user_id pq) db = (.ok (some data), next) →
        RoundTrips next pq data) ↔
      (Creatable unicode drawn db user_id pq →
        pq.repository = none ∧ core unicode pq.name = pq.name)) ∧
    ∀ first second : ProjectReq, SharesName unicode first second ↔
      (evaluated unicode first.name = evaluated unicode second.name →
        core unicode first.name = core unicode second.name) := by
  constructor
  · intro drawn db user_id pq
    constructor
    · intro trips creatable
      obtain ⟨next, created⟩ := create_of_creatable creatable
      exact (roundTrips_iff created).mp (trips _ _ created)
    · intro condition data next created
      exact (roundTrips_iff created).mpr (condition (creatable_of_create created).1)
  · intro first second
    constructor
    · intro shares same
      have stored := (shares same).1
      rwa [normalize_name_eq, normalize_name_eq] at stored
    · intro seen same
      have stored : normalize_name unicode first.name = normalize_name unicode second.name := by
        rw [normalize_name_eq, normalize_name_eq]
        exact seen same
      refine ⟨stored, ?_⟩
      rintro db drawn user_id ⟨row, member, named⟩ data next created
      have fresh := (creatable_of_create created).1.project row member
      exact fresh.2 (named.trans stored)

def owner : UserModel := { id := 1, username := "ana" }

def ownedDb : Database := { Sample.db with users := ⟨[owner], by decide⟩ }

def sampleDrawn : Drawn where
  projectid := { text := "4tebqr2mnd" }
  front := { text := "aaaaa" }
  agent := { text := "bbbbbbbb" }
  id := 2

def labRequest : ProjectReq :=
  { name := "lab", private_key := "key", repository := some "git@lab" }

theorem labRequest_creatable : Creatable Sample.unicode sampleDrawn ownedDb 1 labRequest := by
  have stored : normalize_name Sample.unicode labRequest.name = "lab" := by
    have plain : Plain "lab" := by decide
    rw [normalize_name_eq, labRequest, core_of_plain plain]
    decide
  have row : rowOf Sample.unicode sampleDrawn 1 labRequest =
      { projectid := "4tebqr2mnd", name := "lab", private_key := "key",
        repository := some "git@lab", owner_id := some 1 } := by
    rw [← stored]
    rfl
  refine ⟨?_, by decide, ?_, by decide⟩
  · rw [row]
    decide
  · rw [stored]
    decide

theorem repository_lost : ¬∀ (unicode : Unicode) (drawn : Drawn) (db : Database) (user_id : Nat)
    (pq : ProjectReq) (data : ProjectData) (next : Database),
    answered (create unicode drawn user_id pq) db = (.ok (some data), next) →
      RoundTrips next pq data := by
  intro trips
  obtain ⟨next, created⟩ := create_of_creatable labRequest_creatable
  have kept := ((roundTrips_iff created).mp (trips _ _ _ _ _ _ _ created)).1
  exact absurd kept (by decide)

end ProjectRecords

end LabFunctions
