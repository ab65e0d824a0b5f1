import LabFunctions.AgentLookups
import LabFunctions.ProjectTransactions

/-!
What the reading handlers of `labfunctions.web.projects_bp` list, over runs of the writing ones: no
more and no less than their answers have told.
-/

namespace LabFunctions

open Transactions

namespace ProjectsMg

def list_all (db : Database) (user_id : Option Nat := none) : Except Exn (List ProjectData) :=
  (db.projects.rows.filter fun row => user_id.getD 0 == 0 || row.owner_id == user_id).mapM
    (_model2projectdata db)

def get_private_key (db : Database) (project_id : String) : Option String :=
  (db.projects.rows.find? fun row => row.projectid == project_id).map ProjectModel.private_key

end ProjectsMg

namespace ProjectLists

open Projects ProjectRecords ProjectTransactions AgentLookups

inductive Listing where
  | projects (data : List ProjectData)
  | project (data : ProjectData)
  | agents (names : List String)
  | private_key (key : String)
  | msg (text : String)

structure Answer where
  status : Nat
  content : Listing

def injected (db : Database) (usr : String) (handler : UserModel → Except Exn Answer) :
    Except Exn Answer := do
  let user ← UsersMg.get_user_async db usr
  match user with
  | none => return ⟨401, .msg "Authentication failed"⟩
  | some user => handler user

def project_list (db : Database) (usr : String) : Except Exn Answer :=
  injected db usr fun user => do
    let result ← ProjectsMg.list_all db (some user.id)
    return ⟨200, .projects result⟩

def project_get_one (db : Database) (usr projectid : String) : Except Exn Answer :=
  injected db usr fun user => do
    let r ← ProjectsMg.get_by_projectid db projectid (some user.id)
    match r with
    | some r => return ⟨200, .project r⟩
    | none => return ⟨200, .msg "Not found"⟩

def project_agents_list (db : Database) (projectid : String) : Answer :=
  ⟨200, .agents (ProjectsMg.get_agent_list db (some projectid))⟩

/-- An empty key is none. -/
def project_private_key (db : Database) (projectid : String) : Answer :=
  let r := ProjectsMg.get_private_key db projectid
  if truthy r then ⟨200, .private_key (pyOr r "")⟩ else ⟨200, .msg "Not found"⟩

/-! What somebody knows who sees the requests and their answers, and no row of the database. -/

structure Account where
  username : String
  is_agent : Bool

structure Entry where
  projectid : String
  name : String
  private_key : String
  description : Option String
  owner : Option String

structure Member where
  projectid : String
  account : Account

structure Registry where
  accounts : List Account
  entries : List Entry
  members : List Member

def ofUser (user : UserModel) : Account := ⟨user.username, user.is_agent⟩

def userOf (db : Database) (id : Nat) : Option UserModel :=
  db.users.rows.find? fun user => user.id == id

def ofProject (db : Database) (row : ProjectModel) : Entry where
  projectid := row.projectid
  name := row.name
  private_key := row.private_key
  description := row.description
  owner := row.owner_id.bind fun id => (userOf db id).map UserModel.username

def ofLink (db : Database) (link : ProjectUser) : Option Member :=
  (userOf db link.user_id).map fun user => ⟨link.project_id, ofUser user⟩

namespace Registry

def of (db : Database) : Registry where
  accounts := db.users.rows.map ofUser
  entries := db.projects.rows.map (ofProject db)
  members := db.projects_users.filterMap (ofLink db)

section

variable (unicode : Unicode) (known : Registry)

def account (username : String) : Option Account :=
  known.accounts.find? fun account => account.username == username

/-- A new account for an agent of the project. -/
def joined (projectid agent : String) : Registry :=
  { known with
    accounts := known.accounts ++ [⟨agent, true⟩]
    members := known.members ++ [⟨projectid, agent, true⟩] }

def opened (usr : String) (pr : ProjectReq) (data : ProjectData) (agent : String) : Registry :=
  joined
    { known with
      entries := known.entries ++
        [⟨data.projectid, normalize_name unicode pr.name, pr.private_key, pr.description, some usr⟩]
      members := known.members ++ (known.account usr).toList.map (Member.mk data.projectid) }
    data.projectid agent

/-- An account that is a member of anything goes, whichever project was named. -/
def left (username : String) : Registry :=
  if known.members.any fun member => member.account.username == username then
    { accounts := known.accounts.filter fun account => account.username != username
      entries := known.entries.map fun entry =>
        { entry with owner := if entry.owner = some username then none else entry.owner }
      members := known.members.filter fun member => member.account.username != username }
  else known

def told : Request → Except Exn ProjectTransactions.Reply → Registry
  | .project_create usr (some pr), .ok ⟨201, .project data⟩ =>
      match data.agent with
      | some agent => known.opened unicode usr pr data agent
      | none => known
  | .project_create_user_agent projectid, .ok ⟨201, .msg username⟩ => known.joined projectid username
  | .project_delete_user_agent _ agentname, .ok ⟨200, _⟩ => known.left agentname
  | _, _ => known

def membersOf (projectid : String) : List Account :=
  (known.members.filter fun member => member.projectid == projectid).map Member.account

def data (entry : Entry) : ProjectData where
  name := entry.name
  projectid := entry.projectid
  owner := entry.owner
  users := some ((known.membersOf entry.projectid).map Account.username)
  description := entry.description

def owned (usr : String) : List Entry :=
  known.entries.filter fun entry => entry.owner == some usr

def list (usr : String) : Answer :=
  if (known.account usr).isSome then ⟨200, .projects ((known.owned usr).map known.data)⟩
  else ⟨401, .msg "Authentication failed"⟩

def get_one (usr projectid : String) : Answer :=
  if (known.account usr).isSome then
    match (known.owned usr).find? fun entry => entry.projectid == projectid with
    | some entry => ⟨200, .project (known.data entry)⟩
    | none => ⟨200, .msg "Not found"⟩
  else ⟨401, .msg "Authentication failed"⟩

def agents (projectid : String) : Answer :=
  ⟨200, .agents (((known.membersOf projectid).filter Account.is_agent).map Account.username)⟩

def private_key (projectid : String) : Answer :=
  match known.entries.find? fun entry => entry.projectid == projectid with
  | some entry =>
      if entry.private_key = "" then ⟨200, .msg "Not found"⟩
      else ⟨200, .private_key entry.private_key⟩
  | none => ⟨200, .msg "Not found"⟩

end

end Registry

structure Turn where
  drawn : Drawn
  request : Request
  serial : drawn.id ≠ 0

structure World where
  db : Database
  known : Registry

def step (unicode : Unicode) (world : World) (turn : Turn) : World :=
  let answer := answered (handler unicode turn.drawn turn.request) world.db
  ⟨answer.2, world.known.told unicode turn.request answer.1⟩

/-- What PostgreSQL promises of the rows: the foreign keys, and ids that count from 1. -/
structure Keys (db : Database) : Prop where
  links : Referential db
  owners : ∀ row ∈ db.projects.rows, ∀ id, row.owner_id = some id → db.hasUser id = true
  serial : ∀ user ∈ db.users.rows, user.id ≠ 0

variable {unicode : Unicode} {drawn : Drawn} {db next : Database} {user agent : UserModel}
  {projectid usr : String}

/-! The handlers read the rows that an observer knows. -/

theorem userOf_eq_some {id : Nat} : userOf db id = some user ↔ user ∈ db.users.rows ∧ user.id = id := by
  constructor
  · intro found
    exact ⟨List.mem_of_find?_eq_some found, by simpa using List.find?_some found⟩
  · rintro ⟨stored, rfl⟩
    exact @Joins.find_key _ _ _ _ _ memberKeys _ _ _ db.users.holds.1 stored

theorem userOf_of_hasUser {id : Nat} (known : db.hasUser id = true) : ∃ user, userOf db id = some user := by
  obtain ⟨user, stored, same⟩ := List.any_eq_true.mp known
  exact ⟨user, userOf_eq_some.mpr ⟨stored, beq_iff_eq.mp same⟩⟩

theorem account_of (db : Database) (usr : String) :
    (Registry.of db).account usr = (UsersMg.select_user db usr).head?.map ofUser := by
  rw [Registry.account, UsersMg.select_user, List.head?_filter]
  exact List.find?_map ..

theorem injected_eq (db : Database) (usr : String) (handler : UserModel → Except Exn Answer) :
    injected db usr handler =
      match (UsersMg.select_user db usr).head? with
      | none => .ok ⟨401, .msg "Authentication failed"⟩
      | some user => handler user := by
  have found : UsersMg.get_user_async db usr = .ok (UsersMg.select_user db usr).head? := by
    simp [UsersMg.get_user_async, truthy, scalar_take_one]
  rw [injected, found]
  rfl

theorem owner_eq_some (stored : user ∈ db.users.rows) (row : ProjectModel) :
    (ofProject db row).owner = some user.username ↔ row.owner_id = some user.id := by
  constructor
  · intro named
    obtain ⟨id, owned, found⟩ := Option.bind_eq_some_iff.mp named
    obtain ⟨owner, known, same⟩ := Option.map_eq_some_iff.mp found
    obtain ⟨inside, rfl⟩ := userOf_eq_some.mp known
    rw [owned, Database.user_unique inside stored same]
  · intro owned
    have known := userOf_eq_some.mpr ⟨stored, rfl⟩
    simp [ofProject, owned, known]

theorem membersOf_of (keys : Keys db) (projectid : String) :
    (Registry.of db).membersOf projectid =
      (((UsersMg.join_by_project db).filter fun row => row.1.projectid == projectid).map
        Prod.snd).map ofUser := by
  have joined := Joins.rights_of_left keys.links.linked projectid
  rw [join_by_project_eq]
  refine Eq.trans ?_ (congrArg (List.map ofUser) joined.symm)
  rw [Registry.membersOf, Registry.of, List.filter_filterMap, List.map_filterMap,
    List.map_filterMap, List.filterMap_filter]
  refine List.filterMap_congr fun link _ => ?_
  have held : (db.users.rows.find? fun right => memberKeys.right right == memberKeys.toRight link) =
      userOf db link.user_id := rfl
  rw [held, ofLink]
  by_cases own : link.project_id = projectid
  · cases userOf db link.user_id with
    | none => simp [memberKeys, own]
    | some user => simp [memberKeys, own]
  · cases userOf db link.user_id with
    | none => simp [memberKeys, own]
    | some user => simp [memberKeys, own]

theorem usersOf_eq (keys : Keys db) (projectid : String) :
    ProjectsMg.usersOf db projectid =
      ((Registry.of db).membersOf projectid).map Account.username := by
  rw [membersOf_of keys, List.map_map, List.map_map]
  rfl

theorem agentsOf_eq (keys : Keys db) (projectid : String) :
    (ProjectsMg.agentsOf db projectid).map UserModel.username =
      (((Registry.of db).membersOf projectid).filter Account.is_agent).map Account.username := by
  rw [membersOf_of keys, List.map_map, List.filter_map, List.map_map, List.filter_filter,
    ProjectsMg.agentsOf, List.map_map]
  rfl

theorem model2projectdata_eq (keys : Keys db) (stored : user ∈ db.users.rows) {row : ProjectModel}
    (owned : row.owner_id = some user.id) :
    ProjectsMg._model2projectdata db row = .ok ((Registry.of db).data (ofProject db row)) := by
  have known : userOf db user.id = some user := userOf_eq_some.mpr ⟨stored, rfl⟩
  have found : (row.owner_id.bind fun id => db.users.rows.find? fun user => user.id == id) =
      some user := by
    rw [owned]
    exact known
  rw [ProjectsMg._model2projectdata, found, usersOf_eq keys, Registry.data,
    (owner_eq_some stored row).mpr owned]
  rfl

theorem mapM_eq_ok {ι α : Type} {call : ι → Except Exn α} {result : ι → α} {items : List ι}
    (each : ∀ item ∈ items, call item = .ok (result item)) :
    items.mapM call = .ok (items.map result) := by
  induction items with
  | nil => rfl
  | cons first rest ih =>
      obtain ⟨head, tail⟩ := List.forall_mem_cons.mp each
      rw [List.mapM_cons, head, ih tail]
      rfl

theorem owned_of (stored : user ∈ db.users.rows) :
    (Registry.of db).owned user.username =
      (db.projects.rows.filter fun row => row.owner_id == some user.id).map (ofProject db) := by
  rw [Registry.owned, Registry.of, List.filter_map]
  refine congrArg (List.map (ofProject db)) (List.filter_congr fun row _ => ?_)
  rw [Function.comp_apply, Bool.eq_iff_iff, beq_iff_eq, beq_iff_eq]
  exact owner_eq_some stored row

theorem list_all_eq (keys : Keys db) (stored : user ∈ db.users.rows) :
    ProjectsMg.list_all db (some user.id) =
      .ok (((Registry.of db).owned user.username).map (Registry.of db).data) := by
  have counted : ¬(user.id == 0) = true := by simpa using keys.serial user stored
  rw [ProjectsMg.list_all, Option.getD_some, owned_of stored, List.map_map]
  simp only [Bool.eq_false_iff.mpr counted, Bool.false_or]
  refine mapM_eq_ok fun row member => ?_
  exact model2projectdata_eq keys stored (beq_iff_eq.mp (List.mem_filter.mp member).2)

theorem project_list_eq (keys : Keys db) (usr : String) :
    project_list db usr = .ok ((Registry.of db).list usr) := by
  rw [project_list, injected_eq, Registry.list, account_of]
  cases first : (UsersMg.select_user db usr).head? with
  | none => rfl
  | some user =>
      obtain ⟨stored, named⟩ : user ∈ db.users.rows ∧ user.username = usr := by
        simpa [UsersMg.select_user] using List.mem_of_head? first
      dsimp only
      rw [list_all_eq keys stored, named]
      rfl

theorem project_get_one_eq (keys : Keys db) (usr projectid : String) :
    project_get_one db usr projectid = .ok ((Registry.of db).get_one usr projectid) := by
  rw [project_get_one, injected_eq, Registry.get_one, account_of]
  cases first : (UsersMg.select_user db usr).head? with
  | none => rfl
  | some user =>
      obtain ⟨stored, rfl⟩ : user ∈ db.users.rows ∧ user.username = usr := by
        simpa [UsersMg.select_user] using List.mem_of_head? first
      have counted : ¬(user.id == 0) = true := by simpa using keys.serial user stored
      have rows : ((Registry.of db).owned user.username).find?
            (fun entry => entry.projectid == projectid) =
          (db.projects.rows.find? fun row => row.projectid == projectid &&
            ((some user.id).getD 0 == 0 || row.owner_id == some user.id)).map (ofProject db) := by
        rw [owned_of stored, List.find?_map, List.find?_filter]
        simp only [Option.getD_some, Bool.eq_false_iff.mpr counted, Bool.false_or]
        refine congrArg (Option.map _) (congrArg (fun chosen => List.find? chosen _) (funext ?_))
        intro row
        rw [Bool.and_comm, Bool.eq_iff_iff, decide_eq_true_iff, Bool.and_eq_true]
        rfl
      dsimp only
      rw [rows, ProjectsMg.get_by_projectid]
      cases found : db.projects.rows.find? fun row => row.projectid == projectid &&
          ((some user.id).getD 0 == 0 || row.owner_id == some user.id) with
      | none => rfl
      | some row =>
          have owned : row.owner_id = some user.id := by
            have chosen := List.find?_some found
            simp only [Option.getD_some, Bool.eq_false_iff.mpr counted, Bool.false_or,
              Bool.and_eq_true, beq_iff_eq] at chosen
            exact chosen.2
          dsimp only
          rw [model2projectdata_eq keys stored owned]
          rfl

theorem project_agents_list_eq (keys : Keys db) (named : projectid ≠ "") :
    project_agents_list db projectid = (Registry.of db).agents projectid := by
  have given : truthy (some projectid) = true := by simpa [truthy] using named
  have same : pyOr (some projectid) "" = projectid := by simp [pyOr, named]
  rw [project_agents_list, ProjectsMg.get_agent_list, if_pos given, same, agentsOf_eq keys]
  rfl

theorem project_private_key_eq (db : Database) (projectid : String) :
    project_private_key db projectid = (Registry.of db).private_key projectid := by
  rw [project_private_key, ProjectsMg.get_private_key, Registry.private_key, Registry.of,
    List.find?_map]
  change _ = match (db.projects.rows.find? fun row => row.projectid == projectid).map
    (ofProject db) with | some entry => _ | none => _
  cases db.projects.rows.find? fun row => row.projectid == projectid with
  | none => rfl
  | some row =>
      by_cases empty : row.private_key = ""
      · simp [truthy, ofProject, empty]
      · simp [truthy, pyOr, ofProject, empty]

/-! What the writing handlers commit, and what they tell of it. -/

theorem answered_inject_user (db : Database) (usr : String)
    (writes : UserModel → Tx Exn Database ProjectTransactions.Reply) :
    answered (ProjectTransactions.inject_user usr writes) db =
      match (UsersMg.select_user db usr).head? with
      | none => (.ok ⟨401, .msg "Authentication failed"⟩, db)
      | some user => answered (writes user) db := by
  have found : UsersMg.get_user_async db usr = .ok (UsersMg.select_user db usr).head? := by
    simp [UsersMg.get_user_async, truthy, scalar_take_one]
  rw [ProjectTransactions.inject_user, answered_query_bind, found]
  cases (UsersMg.select_user db usr).head? <;> rfl

def createReply : Option ProjectData → ProjectTransactions.Reply
  | some r => ⟨201, .project r⟩
  | none => ⟨200, .msg "already exist"⟩

theorem answered_project_create (first : (UsersMg.select_user db usr).head? = some user)
    (pr : ProjectReq) :
    answered (project_create unicode drawn usr (some pr)) db =
      ((answered (ProjectsMg.create unicode drawn user.id pr) db).1.map createReply,
        (answered (ProjectsMg.create unicode drawn user.id pr) db).2) := by
  rw [project_create, answered_inject_user, first, ← answered_bind_pure]
  refine congrArg (fun rest => answered (ProjectsMg.create unicode drawn user.id pr >>= rest) db) ?_
  funext r
  cases r <;> rfl

theorem project_create_cases (unicode : Unicode) (drawn : Drawn) (db : Database) (usr : String)
    (body : Option ProjectReq) :
    ((answered (project_create unicode drawn usr body) db).2 = db ∧
      ∀ data, (answered (project_create unicode drawn usr body) db).1 ≠ .ok ⟨201, .project data⟩) ∨
    ∃ user ∈ db.users.rows, user.username = usr ∧ ∃ pr, body = some pr ∧
      Creatable unicode drawn db user.id pr ∧
      Written db (answered (project_create unicode drawn usr body) db).2
        (rowOf unicode drawn user.id pr) user.id (ProjectsMg.agentOf drawn (projectidOf drawn pr)) ∧
      (answered (project_create unicode drawn usr body) db).1 =
        .ok ⟨201, .project (answerOf drawn pr)⟩ := by
  cases first : (UsersMg.select_user db usr).head? with
  | none =>
      rw [project_create, answered_inject_user, first]
      exact .inl ⟨rfl, by simp⟩
  | some user =>
      obtain ⟨stored, named⟩ : user ∈ db.users.rows ∧ user.username = usr := by
        simpa [UsersMg.select_user] using List.mem_of_head? first
      cases body with
      | none =>
          rw [project_create, answered_inject_user, first]
          refine .inl ⟨rfl, fun data told => ?_⟩
          cases told
      | some pr =>
          rw [answered_project_create first]
          by_cases creatable : Creatable unicode drawn db user.id pr
          · obtain ⟨next, created⟩ := create_of_creatable creatable
            obtain ⟨_, _, written⟩ := creatable_of_create created
            rw [created]
            exact .inr ⟨user, stored, named, pr, rfl, creatable, written, rfl⟩
          · refine .inl ⟨step_create_kept creatable, fun data told => ?_⟩
            rcases made : answered (ProjectsMg.create unicode drawn user.id pr) db with
              ⟨failure | _ | result, next⟩
            · rw [made] at told
              cases told
            · rw [made] at told
              simp [Except.map, createReply] at told
            · exact creatable (creatable_of_create made).1

structure Joined (before after : Database) (projectid : String) (agent : UserModel) : Prop where
  projects : after.projects = before.projects
  users : after.users.rows = before.users.rows ++ [agent]
  links : after.projects_users = before.projects_users ++ [⟨projectid, agent.id⟩]
  project : before.hasProject projectid = true
  fresh : ∀ other ∈ before.users.rows, other.id ≠ agent.id

theorem project_create_user_agent_cases (drawn : Drawn) (db : Database) (projectid : Segment) :
    ((answered (project_create_user_agent drawn projectid.1) db).2 = db ∧
      ∀ reply, (answered (project_create_user_agent drawn projectid.1) db).1 ≠ .ok reply) ∨
    Joined db (answered (project_create_user_agent drawn projectid.1) db).2 projectid.1
        (ProjectsMg.agentOf drawn projectid.1) ∧
      (answered (project_create_user_agent drawn projectid.1) db).1 =
        .ok ⟨201, .msg (ProjectsMg.agentOf drawn projectid.1).username⟩ := by
  have quiet : Quiet (do
      let res ← ProjectsMg.create_agent drawn projectid.1
      return (⟨201, .msg res.username⟩ : ProjectTransactions.Reply)) :=
    Quiet.bind (quiet_create_agent drawn projectid.1) fun _ => Quiet.pure _
  rcases answered_beginning quiet db with ⟨reply, later, ran, after⟩ | ⟨refused, kept⟩
  · right
    obtain ⟨agent, middle, made, answer⟩ := run_bind_eq_ok.mp ran
    obtain ⟨prj, found, rfl, first, second, user, link, rfl⟩ :=
      (create_agent_eq_ok projectid.2 _).mp made
    simp only [run_pure, Prod.mk.injEq, Except.ok.injEq] at answer
    obtain ⟨rfl, rfl⟩ := answer
    obtain ⟨fresh, users, people, rfl⟩ := insertUser_eq_ok.mp user
    obtain ⟨project, _, rfl⟩ := insertMembership_eq_ok.mp link
    have same : prj.projectid = projectid.1 := by simpa using List.find?_some found
    rw [project_create_user_agent, after]
    refine ⟨⟨rfl, people, ?_, ?_, fun other member => (fresh other member).1⟩, rfl⟩
    · simp [opened, same]
    · rw [← same]
      exact project
  · left
    refine ⟨kept, fun reply told => ?_⟩
    obtain ⟨later, ran, _⟩ := answered_eq_ok.mp (Prod.ext told rfl)
    obtain ⟨middle, ran, _⟩ := run_beginning_eq_ok.mp ran
    exact refused reply middle ran

theorem answered_delete_user_agent (db : Database) (projectid agentname : Segment) :
    answered (ProjectTransactions.project_delete_user_agent projectid.1 agentname.1) db =
      (.ok ⟨200, .msg "deleted"⟩,
        match (candidates db projectid.1 agentname.1).head? with
        | some user => ProjectsMg.deleteUser db user
        | none => db) := by
  rw [answered_eq_ok]
  cases first : (candidates db projectid.1 agentname.1).head? with
  | some user =>
      refine ⟨opened (ProjectsMg.deleteUser db user), ?_, rfl⟩
      simp only [ProjectTransactions.project_delete_user_agent, run_bind_eq_ok,
        run_execute_eq_ok, run_commit_eq_ok]
      exact ⟨⟨⟩, _, ⟨_, delete_reached first, rfl⟩, ⟨⟩, _, rfl, rfl⟩
  | none =>
      refine ⟨opened db, ?_, rfl⟩
      simp only [ProjectTransactions.project_delete_user_agent, run_bind_eq_ok,
        run_execute_eq_ok, run_commit_eq_ok]
      exact ⟨⟨⟩, _, ⟨_, delete_unreached first, rfl⟩, ⟨⟩, _, rfl, rfl⟩

/-! How the observer's knowledge follows the rows. -/

theorem userOf_kept {id : Nat} (users : next.users.rows = db.users.rows ++ [agent])
    (known : db.hasUser id = true) : userOf next id = userOf db id := by
  obtain ⟨user, found⟩ := userOf_of_hasUser known
  obtain ⟨stored, same⟩ := userOf_eq_some.mp found
  rw [found, userOf_eq_some, users]
  exact ⟨List.mem_append_left _ stored, same⟩

theorem of_grown (keys : Keys db) {rows : List ProjectModel} {added : List ProjectUser}
    (users : next.users.rows = db.users.rows ++ [agent])
    (projects : next.projects.rows = db.projects.rows ++ rows)
    (links : next.projects_users = db.projects_users ++ added) :
    Registry.of next =
      { accounts := (Registry.of db).accounts ++ [ofUser agent]
        entries := (Registry.of db).entries ++ rows.map (ofProject next)
        members := (Registry.of db).members ++ added.filterMap (ofLink next) } := by
  have entries : db.projects.rows.map (ofProject next) = db.projects.rows.map (ofProject db) := by
    refine List.map_congr_left fun row member => ?_
    have owner : (row.owner_id.bind fun id => (userOf next id).map UserModel.username) =
        row.owner_id.bind fun id => (userOf db id).map UserModel.username :=
      Option.bind_congr fun id owned => by rw [userOf_kept users (keys.owners row member id owned)]
    rw [ofProject, owner, ofProject]
  have members : db.projects_users.filterMap (ofLink next) =
      db.projects_users.filterMap (ofLink db) := by
    refine List.filterMap_congr fun link member => ?_
    rw [ofLink, userOf_kept users (keys.links link member).2, ofLink]
  rw [Registry.of, users, projects, links, List.map_append, List.map_append,
    List.filterMap_append, entries, members]
  rfl

theorem ofLink_eq (stored : user ∈ db.users.rows) (projectid : String) :
    ofLink db ⟨projectid, user.id⟩ = some ⟨projectid, ofUser user⟩ := by
  have known : userOf db user.id = some user := userOf_eq_some.mpr ⟨stored, rfl⟩
  rw [ofLink, known]
  rfl

theorem of_joined (keys : Keys db) (joined : Joined db next projectid agent)
    (is_agent : agent.is_agent = true) :
    Registry.of next = (Registry.of db).joined projectid agent.username := by
  have stored : agent ∈ next.users.rows := by
    rw [joined.users]
    exact List.mem_append_right _ (List.mem_singleton.mpr rfl)
  have projects : next.projects.rows = db.projects.rows ++ [] := by
    rw [joined.projects, List.append_nil]
  rw [of_grown keys joined.users projects joined.links, Registry.joined]
  simp [ofLink_eq stored, ofUser, is_agent]

theorem of_written (keys : Keys db) (stored : user ∈ db.users.rows) {pr : ProjectReq}
    (written : Written db next (rowOf unicode drawn user.id pr) user.id
      (ProjectsMg.agentOf drawn (projectidOf drawn pr))) :
    Registry.of next = (Registry.of db).opened unicode user.username pr (answerOf drawn pr)
      (ProjectsMg.agentOf drawn (projectidOf drawn pr)).username := by
  have people : ∀ other, other ∈ db.users.rows ∨
      other = ProjectsMg.agentOf drawn (projectidOf drawn pr) → other ∈ next.users.rows := by
    intro other
    rw [written.users, List.mem_append, List.mem_singleton]
    exact id
  have holder := people user (.inl stored)
  have owner : (ofProject next (rowOf unicode drawn user.id pr)).owner = some user.username :=
    (owner_eq_some holder _).mpr rfl
  have entry : ofProject next (rowOf unicode drawn user.id pr) =
      ⟨projectidOf drawn pr, normalize_name unicode pr.name, pr.private_key, pr.description,
        some user.username⟩ := by
    rw [← owner]
    rfl
  have account : (Registry.of db).account user.username = some (ofUser user) := by
    rw [account_of, select_user_head stored]
    rfl
  have links := written.links
  rw [List.append_assoc] at links
  rw [of_grown keys written.users written.projects links, Registry.opened, Registry.joined,
    List.map_singleton, entry, account, List.singleton_append, List.filterMap_cons,
    List.filterMap_cons, List.filterMap_nil, ofLink_eq holder]
  have second : ofLink next ⟨(rowOf unicode drawn user.id pr).projectid,
        (ProjectsMg.agentOf drawn (projectidOf drawn pr)).id⟩ =
      some ⟨_, ofUser (ProjectsMg.agentOf drawn (projectidOf drawn pr))⟩ :=
    ofLink_eq (people _ (.inr rfl)) _
  rw [second]
  simp [ofUser, ProjectsMg.agentOf, answerOf, rowOf, ProjectsMg._insert]

theorem userOf_deleteUser {id : Nat} (other : id ≠ user.id) :
    userOf (ProjectsMg.deleteUser db user) id = userOf db id := by
  rw [userOf, ProjectsMg.deleteUser, Table.rows_deleteWhere, List.find?_filter, userOf]
  refine congrArg (fun chosen => List.find? chosen db.users.rows) (funext fun row => ?_)
  by_cases same : row.id = id
  · simp [same, other]
  · simp [same]

theorem of_deleteUser (stored : user ∈ db.users.rows) :
    Registry.of (ProjectsMg.deleteUser db user) =
      { accounts := (Registry.of db).accounts.filter fun account =>
          account.username != user.username
        entries := (Registry.of db).entries.map fun entry =>
          { entry with owner := if entry.owner = some user.username then none else entry.owner }
        members := (Registry.of db).members.filter fun member =>
          member.account.username != user.username } := by
  have named : ∀ row ∈ db.users.rows, row.id = user.id ↔ row.username = user.username := by
    intro row member
    constructor
    · intro same
      rw [Database.user_unique_id member stored same]
    · intro same
      rw [Database.user_unique member stored same]
  rw [Registry.of, Registry.mk.injEq]
  refine ⟨?_, ?_, ?_⟩
  · rw [ProjectsMg.deleteUser, Table.rows_deleteWhere, Registry.of, List.filter_map]
    refine congrArg (List.map ofUser) (List.filter_congr fun row member => ?_)
    rw [Bool.eq_iff_iff]
    simpa [ofUser] using not_congr (named row member)
  · rw [Registry.of, List.map_map]
    refine (List.map_map ..).trans (List.map_congr_left fun row _ => ?_)
    have owner : (ofProject (ProjectsMg.deleteUser db user) (ProjectsMg.disown user row)).owner =
        if (ofProject db row).owner = some user.username then none else (ofProject db row).owner := by
      by_cases owned : row.owner_id = some user.id
      · rw [if_pos ((owner_eq_some stored row).mpr owned)]
        simp [ofProject, ProjectsMg.disown, owned]
      · rw [if_neg (mt (owner_eq_some stored row).mp owned)]
        simp only [ofProject, ProjectsMg.disown, if_neg owned]
        refine Option.bind_congr fun id same => ?_
        rw [userOf_deleteUser fun own => owned (own ▸ same)]
    rw [Function.comp_apply, Function.comp_apply, ← owner]
    rfl
  · change (db.projects_users.filter fun link => link.user_id != user.id).filterMap
      (ofLink (ProjectsMg.deleteUser db user)) = _
    rw [Registry.of, List.filterMap_filter, List.filter_filterMap]
    refine List.filterMap_congr fun link _ => ?_
    by_cases own : link.user_id = user.id
    · have held : ofLink db link = some ⟨link.project_id, ofUser user⟩ := by
        rw [ofLink, own, userOf_eq_some.mpr ⟨stored, rfl⟩]
        rfl
      simp [own, held, ofUser, Option.filter]
    · have kept : ofLink (ProjectsMg.deleteUser db user) link = ofLink db link := by
        rw [ofLink, userOf_deleteUser own, ofLink]
      have chosen : (link.user_id != user.id) = true := by simpa using own
      rw [if_pos chosen, kept, ofLink]
      cases held : userOf db link.user_id with
      | none => rfl
      | some member =>
          obtain ⟨inside, same⟩ := userOf_eq_some.mp held
          have other : member.username ≠ user.username :=
            fun alike => own (same.symm.trans ((named member inside).mpr alike))
          simp [Option.filter, ofUser, other]

theorem any_member_iff (keys : Keys db) (named : projectid ≠ "") (name : String) :
    ((Registry.of db).members.any fun member => member.account.username == name) = true ↔
      ∃ user, user ∈ candidates db projectid name := by
  rw [List.any_eq_true]
  constructor
  · rintro ⟨member, known, same⟩
    obtain ⟨link, linked, found⟩ := List.mem_filterMap.mp known
    obtain ⟨user, held, rfl⟩ := Option.map_eq_some_iff.mp found
    obtain ⟨stored, ends⟩ := userOf_eq_some.mp held
    obtain ⟨project, inside, begins⟩ := List.any_eq_true.mp (keys.links link linked).1
    refine ⟨user, mem_candidates.mpr ⟨stored, beq_iff_eq.mp same, .inr ⟨project, inside, ?_⟩⟩⟩
    exact ⟨link, linked, (beq_iff_eq.mp begins).symm, ends.symm⟩
  · rintro ⟨user, reached⟩
    obtain ⟨stored, rfl, empty | ⟨project, _, link, linked, _, ends⟩⟩ := mem_candidates.mp reached
    · exact absurd empty named
    · refine ⟨⟨link.project_id, ofUser user⟩, ?_, beq_self_eq_true _⟩
      refine List.mem_filterMap.mpr ⟨link, linked, ?_⟩
      rw [ofLink, ends, userOf_eq_some.mpr ⟨stored, rfl⟩]
      rfl

theorem of_left (keys : Keys db) (named : projectid ≠ "") (name : String) :
    Registry.of (match (candidates db projectid name).head? with
      | some user => ProjectsMg.deleteUser db user
      | none => db) = (Registry.of db).left name := by
  have reached := any_member_iff keys named name
  cases first : (candidates db projectid name).head? with
  | some user =>
      have member := List.mem_of_head? first
      obtain ⟨stored, rfl, _⟩ := mem_candidates.mp member
      rw [Registry.left, if_pos (reached.mpr ⟨user, member⟩)]
      exact of_deleteUser stored
  | none =>
      have empty := List.head?_eq_none_iff.mp first
      have unknown : ¬∃ user, user ∈ candidates db projectid name := by
        rintro ⟨user, member⟩
        rw [empty] at member
        cases member
      rw [Registry.left, if_neg (mt reached.mp unknown)]

/-! The keys hold in every state. -/

theorem keys_grown (keys : Keys db) {rows : List ProjectModel} {added : List ProjectUser}
    (users : next.users.rows = db.users.rows ++ [agent])
    (projects : next.projects.rows = db.projects.rows ++ rows)
    (links : next.projects_users = db.projects_users ++ added) (serial : agent.id ≠ 0)
    (owners : ∀ row ∈ rows, ∀ id, row.owner_id = some id → next.hasUser id = true)
    (ends : ∀ link ∈ added,
      next.hasProject link.project_id = true ∧ next.hasUser link.user_id = true) :
    Keys next where
  links link member := by
    rw [links, List.mem_append] at member
    rcases member with old | new
    · obtain ⟨project, holder⟩ := keys.links link old
      refine ⟨?_, hasUser_of_append holder users⟩
      rw [Database.hasProject, projects, List.any_append]
      exact Bool.or_eq_true_iff.mpr (.inl project)
    · exact ends link new
  owners row member id owned := by
    rw [projects, List.mem_append] at member
    rcases member with old | new
    · exact hasUser_of_append (keys.owners row old id owned) users
    · exact owners row new id owned
  serial user member := by
    rw [users, List.mem_append, List.mem_singleton] at member
    rcases member with old | rfl
    · exact keys.serial user old
    · exact serial

theorem keys_joined (keys : Keys db) (joined : Joined db next projectid agent)
    (serial : agent.id ≠ 0) : Keys next := by
  have projects : next.projects.rows = db.projects.rows ++ [] := by
    rw [joined.projects, List.append_nil]
  refine keys_grown keys joined.users projects joined.links serial nofun fun link member => ?_
  obtain rfl := List.mem_singleton.mp member
  refine ⟨?_, hasUser_append agent joined.users⟩
  rw [Database.hasProject, joined.projects]
  exact joined.project

theorem keys_written (keys : Keys db) {row : ProjectModel} {user_id : Nat}
    (written : Written db next row user_id agent) (owner : db.hasUser user_id = true)
    (owned : row.owner_id = some user_id) (serial : agent.id ≠ 0) : Keys next := by
  have links := written.links
  rw [List.append_assoc] at links
  have holder := hasUser_of_append owner written.users
  have project := hasProject_append row written.projects
  refine keys_grown keys written.users written.projects links serial ?_ ?_
  · intro other member id own
    obtain rfl := List.mem_singleton.mp member
    obtain rfl := Option.some.inj (owned.symm.trans own)
    exact holder
  · intro link member
    rcases List.mem_pair.mp member with rfl | rfl
    · exact ⟨project, holder⟩
    · exact ⟨project, hasUser_append agent written.users⟩

theorem keys_deleteUser (keys : Keys db) (user : UserModel) : Keys (ProjectsMg.deleteUser db user) := by
  have kept : ∀ id, id ≠ user.id → db.hasUser id = true →
      (ProjectsMg.deleteUser db user).hasUser id = true := by
    intro id other known
    obtain ⟨holder, stored, same⟩ := List.any_eq_true.mp known
    refine List.any_eq_true.mpr ⟨holder, List.mem_filter.mpr ⟨stored, ?_⟩, same⟩
    simpa [beq_iff_eq.mp same] using other
  refine ⟨?_, ?_, ?_⟩
  · intro link member
    obtain ⟨old, other⟩ := List.mem_filter.mp member
    obtain ⟨project, holder⟩ := keys.links link old
    refine ⟨?_, kept _ (by simpa using other) holder⟩
    rw [Database.hasProject, ProjectsMg.deleteUser, List.any_map]
    exact project
  · intro row member id owned
    obtain ⟨old, stored, rfl⟩ := List.mem_map.mp member
    simp only [ProjectsMg.disown] at owned
    split at owned
    · cases owned
    · rename_i other
      refine kept id ?_ (keys.owners old stored id owned)
      rintro rfl
      exact other owned
  · intro other member
    exact keys.serial other (List.mem_filter.mp member).1

structure Holds (world : World) : Prop where
  keys : Keys world.db
  known : Registry.of world.db = world.known

theorem told_untold (unicode : Unicode) (known : Registry) (usr : String) (body : Option ProjectReq)
    {reply : Except Exn ProjectTransactions.Reply}
    (untold : ∀ data, reply ≠ .ok ⟨201, .project data⟩) :
    known.told unicode (.project_create usr body) reply = known := by
  unfold Registry.told
  split
  · exact absurd rfl (untold _)
  · rename_i same
    cases same
  · rename_i same
    cases same
  · rfl

theorem holds_create {world : World} (holds : Holds world) (serial : drawn.id ≠ 0) (usr : String)
    (body : Option ProjectReq) : Holds (step unicode world ⟨drawn, .project_create usr body, serial⟩) := by
  rcases project_create_cases unicode drawn world.db usr body with
    ⟨kept, untold⟩ | ⟨user, stored, rfl, pr, rfl, creatable, written, told⟩
  · have known := told_untold unicode world.known usr body untold
    refine ⟨?_, ?_⟩
    · change Keys (answered (project_create unicode drawn usr body) world.db).2
      rw [kept]
      exact holds.keys
    · change Registry.of (answered (project_create unicode drawn usr body) world.db).2 = _
      rw [kept, holds.known]
      exact known.symm
  · refine ⟨keys_written holds.keys written creatable.owner rfl serial, ?_⟩
    have known : world.known.told unicode (.project_create user.username (some pr))
        (answered (project_create unicode drawn user.username (some pr)) world.db).1 =
      world.known.opened unicode user.username pr (answerOf drawn pr)
        (ProjectsMg.agentOf drawn (projectidOf drawn pr)).username := by
      rw [told]
      rfl
    refine (of_written holds.keys stored written).trans ?_
    rw [holds.known]
    exact known.symm

theorem holds_create_user_agent {world : World} (holds : Holds world) (serial : drawn.id ≠ 0)
    (projectid : Segment) :
    Holds (step unicode world ⟨drawn, .project_create_user_agent projectid, serial⟩) := by
  rcases project_create_user_agent_cases drawn world.db projectid with
    ⟨kept, untold⟩ | ⟨joined, told⟩
  · have known : world.known.told unicode (.project_create_user_agent projectid)
        (answered (project_create_user_agent drawn projectid.1) world.db).1 = world.known := by
      cases answer : (answered (project_create_user_agent drawn projectid.1) world.db).1 with
      | error failure => rfl
      | ok reply => exact absurd answer (untold reply)
    refine ⟨?_, ?_⟩
    · change Keys (answered (project_create_user_agent drawn projectid.1) world.db).2
      rw [kept]
      exact holds.keys
    · change Registry.of (answered (project_create_user_agent drawn projectid.1) world.db).2 = _
      rw [kept, holds.known]
      exact known.symm
  · refine ⟨keys_joined holds.keys joined serial, ?_⟩
    have known : world.known.told unicode (.project_create_user_agent projectid)
        (answered (project_create_user_agent drawn projectid.1) world.db).1 =
      world.known.joined projectid.1 (ProjectsMg.agentOf drawn projectid.1).username := by
      rw [told]
      rfl
    refine (of_joined holds.keys joined rfl).trans ?_
    rw [holds.known]
    exact known.symm

theorem holds_delete_user_agent {world : World} (holds : Holds world) (serial : drawn.id ≠ 0)
    (projectid agentname : Segment) :
    Holds (step unicode world ⟨drawn, .project_delete_user_agent projectid agentname, serial⟩) := by
  have answer := answered_delete_user_agent world.db projectid agentname
  refine ⟨?_, ?_⟩
  · change Keys (answered (ProjectTransactions.project_delete_user_agent projectid.1 agentname.1)
      world.db).2
    rw [answer]
    dsimp only
    split
    · exact keys_deleteUser holds.keys _
    · exact holds.keys
  · have known : world.known.told unicode (.project_delete_user_agent projectid agentname)
        (answered (ProjectTransactions.project_delete_user_agent projectid.1 agentname.1)
          world.db).1 = world.known.left agentname.1 := by
      rw [answer]
      rfl
    change Registry.of (answered (ProjectTransactions.project_delete_user_agent projectid.1
      agentname.1) world.db).2 = _
    rw [answer, of_left holds.keys projectid.2, holds.known]
    exact known.symm

theorem holds_quiet {world : World} (holds : Holds world) (serial : drawn.id ≠ 0) {request : Request}
    (quiet : (answered (handler unicode drawn request) world.db).2 = world.db)
    (untold : world.known.told unicode request (answered (handler unicode drawn request) world.db).1 =
      world.known) : Holds (step unicode world ⟨drawn, request, serial⟩) := by
  refine ⟨?_, ?_⟩
  · change Keys (answered (handler unicode drawn request) world.db).2
    rw [quiet]
    exact holds.keys
  · change Registry.of (answered (handler unicode drawn request) world.db).2 = _
    rw [quiet, holds.known]
    exact untold.symm

theorem quiet_create_or_update (unicode : Unicode) (drawn : Drawn) (usr : String)
    (body : Option ProjectReq) : Quiet (project_create_or_update unicode drawn usr body) := by
  refine Quiet.bind (Quiet.query _) fun user => ?_
  cases user with
  | none => exact Quiet.pure _
  | some user =>
      cases body with
      | none => exact Quiet.throw _
      | some pd =>
          refine Quiet.bind (Quiet.throw _) fun _ => ?_
          exact Quiet.bind (Quiet.execute _) fun _ => Quiet.pure _

theorem answered_upload (stored : Bool) (projectid : Segment) (upload : Upload) :
    (answered (ProjectTransactions.project_upload unicode stored projectid.1 upload) db).2 = db := by
  have asked : run (beginning (query fun db => Projects.project_upload unicode db projectid.1 upload))
      (opened db) = (Projects.project_upload unicode db projectid.1 upload, opened db) := by
    rw [run, beginning]
    simp only [run, query, opened]
    cases Projects.project_upload unicode db projectid.1 upload <;> rfl
  rw [answered, ProjectTransactions.project_upload, run_bind, asked]
  cases Projects.project_upload unicode db projectid.1 upload with
  | error failure => rfl
  | ok uri => cases stored <;> rfl

theorem holds_step (world : World) (turn : Turn) (holds : Holds world) :
    Holds (step unicode world turn) := by
  obtain ⟨drawn, request, serial⟩ := turn
  cases request with
  | project_create usr body => exact holds_create holds serial usr body
  | project_create_user_agent projectid => exact holds_create_user_agent holds serial projectid
  | project_delete_user_agent projectid agentname =>
      exact holds_delete_user_agent holds serial projectid agentname
  | project_create_or_update usr body =>
      have quiet := quiet_create_or_update unicode drawn usr body
      exact holds_quiet holds serial (quiet.answered world.db) rfl
  | project_delete projectid =>
      have quiet : Quiet (project_delete projectid.1) :=
        Quiet.bind (Quiet.execute _) fun _ => Quiet.pure _
      exact holds_quiet holds serial (quiet.answered world.db) rfl
  | project_get_last_agent_token projectid =>
      refine holds_quiet holds serial (Quiet.answered ?_ world.db) rfl
      refine Quiet.bind (Quiet.query _) fun agt => ?_
      cases agt with
      | none => exact Quiet.pure _
      | some agt => exact Quiet.pure _
  | project_get_agent_token projectid agent =>
      refine holds_quiet holds serial (Quiet.answered ?_ world.db) rfl
      exact Quiet.bind (Quiet.query _) fun _ => Quiet.pure _
  | project_build settings execid projectid spec version =>
      refine holds_quiet holds serial (Quiet.answered ?_ world.db) rfl
      exact Quiet.bind (Quiet.query _) fun _ => Quiet.pure _
  | project_upload stored projectid upload =>
      exact holds_quiet holds serial (answered_upload stored projectid upload) rfl

/-- Whatever is requested, in any order, the lists show what the answers have told: each user the
projects that were created with the answer 201 in their name, and of each project the agents that
were. An answered deletion of a project takes nothing from any list. -/
theorem listed_as_told (unicode : Unicode) (db : Database) (keys : Keys db) (turns : List Turn) :
    ∀ reached ∈ Runs.states (step unicode) ⟨db, Registry.of db⟩ turns,
      (∀ usr, project_list reached.db usr = .ok (reached.known.list usr)) ∧
      (∀ usr projectid, project_get_one reached.db usr projectid =
        .ok (reached.known.get_one usr projectid)) ∧
      ∀ projectid : Segment,
        project_agents_list reached.db projectid.1 = reached.known.agents projectid.1 ∧
        project_private_key reached.db projectid.1 = reached.known.private_key projectid.1 := by
  intro reached member
  obtain ⟨held, known⟩ := Runs.states_kept holds_step ⟨keys, rfl⟩ turns reached member
  rw [← known]
  refine ⟨project_list_eq held, project_get_one_eq held, fun projectid => ⟨?_, ?_⟩⟩
  · exact project_agents_list_eq held projectid.2
  · exact project_private_key_eq reached.db projectid.1

namespace Sample

theorem keys : Keys ownedDb := by
  refine ⟨nofun, ?_, ?_⟩
  · intro row member id owned
    rcases List.mem_pair.mp member with rfl | rfl <;> cases owned
  · intro user member
    obtain rfl := List.mem_singleton.mp member
    decide

/-- The deletion is answered, and nothing is gone. -/
def turns : List Turn :=
  [⟨sampleDrawn, .project_create_user_agent ⟨"p", by decide⟩, by decide⟩,
    ⟨sampleDrawn, .project_delete ⟨"p", by decide⟩, by decide⟩]

def reached : World :=
  Runs.run (step LabFunctions.Sample.unicode) ⟨ownedDb, Registry.of ownedDb⟩ turns

end Sample

theorem agent_stays_listed :
    project_agents_list Sample.reached.db "p" = ⟨200, .agents ["agtp-bbbbbbbb"]⟩ := by
  have all := listed_as_told LabFunctions.Sample.unicode ownedDb Sample.keys Sample.turns
    Sample.reached (Runs.run_mem_states _ _)
  refine (all.2.2 ⟨"p", by decide⟩).1.trans ?_
  rfl

end ProjectLists

end LabFunctions
