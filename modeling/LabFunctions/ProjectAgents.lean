import LabFunctions.Context
import LabFunctions.Database

/-!
Agents of a project: the queries of `users_mg` and `projects_mg` over the membership
join, and the two handlers of `web.projects_bp` that act on an agent by name.
-/

namespace LabFunctions

namespace UsersMg

def join_by_project (db : Database) : List (ProjectModel × UserModel) :=
  db.projects.rows.flatMap fun project =>
    (db.projects_users.filter fun link => link.project_id == project.projectid).flatMap fun link =>
      (db.users.rows.filter fun user => user.id == link.user_id).map fun user => (project, user)

def join_with_project (db : Database) (username : String) : List UserModel :=
  ((join_by_project db).filter fun row => row.2.username == username).map Prod.snd

def scalar_one_or_none (rows : List UserModel) : Except Exn (Option UserModel) :=
  match rows with
  | [] => .ok none
  | [user] => .ok (some user)
  | _ => .error .multipleResultsFound

def select_user (db : Database) (username : String) : List UserModel :=
  db.users.rows.filter fun user => user.username == username

def get_user_async (db : Database) (username : String) (projectid : Option String := none) :
    Except Exn (Option UserModel) :=
  if truthy projectid then scalar_one_or_none ((join_with_project db username).take 1)
  else scalar_one_or_none ((select_user db username).take 1)

structure AccessPayload where
  usr : String
  scopes : List String

def tokenPayload (user : UserModel) : AccessPayload :=
  { usr := user.username, scopes := user.scopes.splitOn "," }

end UsersMg

namespace ProjectsMg

def get_agent (db : Database) (agentname : String) (_projectid : Option String := none) :
    Except Exn (Option UserModel) :=
  -- the project is an argument that the statement does not use
  UsersMg.scalar_one_or_none (UsersMg.join_with_project db agentname)

def agentsOf (db : Database) (projectid : String) : List UserModel :=
  ((UsersMg.join_by_project db).filter fun row =>
    row.2.is_agent && row.1.projectid == projectid).map Prod.snd

def get_agent_project (db : Database) (projectid : String) : Except Exn (Option UserModel) :=
  UsersMg.scalar_one_or_none ((agentsOf db projectid).take 1)

def get_agent_list (db : Database) (projectid : Option String) : List String :=
  if truthy projectid then (agentsOf db (pyOr projectid "")).map UserModel.username
  else (db.users.rows.filter UserModel.is_agent).map UserModel.username

def disown (user : UserModel) (project : ProjectModel) : ProjectModel :=
  { project with owner_id := if project.owner_id = some user.id then none else project.owner_id }

theorem accepted_disown (user : UserModel) {rows : List ProjectModel}
    (accepted : ProjectModel.Accepted rows) : ProjectModel.Accepted (rows.map (disown user)) := by
  constructor
  · refine (Distinct.map_of_key_eq ?_).mpr accepted.1
    intro row _
    rfl
  · refine (Distinct.map_of_key_eq ?_).mpr accepted.2
    intro row _
    rfl

/-- `session.delete(user)`: the memberships go with the row, owned projects lose their owner. -/
def deleteUser (db : Database) (user : UserModel) : Database :=
  { db with
    users := db.users.deleteWhere fun row => row.id == user.id
    projects_users := db.projects_users.filter fun link => link.user_id != user.id
    projects := ⟨db.projects.rows.map (disown user), accepted_disown user db.projects.holds⟩ }

def delete_agent (db : Database) (agentname : String) (projectid : Option String := none) :
    Except Exn (Bool × Database) := do
  let user ← UsersMg.get_user_async db agentname projectid
  match user with
  | some user => return (true, deleteUser db user)
  | none => return (false, db)

end ProjectsMg

namespace Projects

structure AgentCredentials where
  agent_name : String
  access : UsersMg.AccessPayload

/-- `project_get_agent_token`. Without a user `get_jwt_token` fails on `user.username`. -/
def project_get_agent_token (db : Database) (projectid agent : String) :
    Except Exn AgentCredentials := do
  let agt ← ProjectsMg.get_agent db agent (some projectid)
  match agt with
  | some agt => return ⟨agt.username, UsersMg.tokenPayload agt⟩
  | none => throw .attributeError

def project_delete_user_agent (db : Database) (projectid agentname : String) :
    Except Exn Database := do
  let (_, db) ← ProjectsMg.delete_agent db agentname (some projectid)
  return db

def MemberOf (db : Database) (user : UserModel) (projectid : String) : Prop :=
  ∃ link ∈ db.projects_users, link.project_id = projectid ∧ link.user_id = user.id

def AgentOf (db : Database) (projectid name : String) : Prop :=
  ∃ user ∈ db.users.rows, user.username = name ∧ user.is_agent = true ∧ MemberOf db user projectid

/-- For a name that is no agent of the project, no token is issued and no row deleted. -/
def Confined (db : Database) (projectid name : String) : Prop :=
  ¬AgentOf db projectid name →
    (∀ credentials, project_get_agent_token db projectid name ≠ .ok credentials) ∧
      ∀ next, project_delete_user_agent db projectid name = .ok next → next = db

/-- A user of that name is a member of some project. The empty project id counts as
missing, and then any user of that name is reached. -/
def Reached (db : Database) (projectid name : String) : Prop :=
  ∃ user ∈ db.users.rows, user.username = name ∧
    (projectid = "" ∨ ∃ project ∈ db.projects.rows, MemberOf db user project.projectid)

/-! Which users the queries reach. -/

theorem mem_join_by_project {db : Database} {project : ProjectModel} {user : UserModel} :
    (project, user) ∈ UsersMg.join_by_project db ↔
      project ∈ db.projects.rows ∧ user ∈ db.users.rows ∧ MemberOf db user project.projectid := by
  simp only [UsersMg.join_by_project, List.mem_flatMap, List.mem_filter, List.mem_map,
    Prod.mk.injEq, beq_iff_eq, MemberOf]
  constructor
  · rintro ⟨found, member, link, ⟨linked, ofProject⟩, other, ⟨stored, ofUser⟩, rfl, rfl⟩
    exact ⟨member, stored, link, linked, ofProject, ofUser.symm⟩
  · rintro ⟨member, stored, link, linked, ofProject, ofUser⟩
    exact ⟨project, member, link, ⟨linked, ofProject⟩, user, ⟨stored, ofUser.symm⟩, rfl, rfl⟩

theorem mem_join_with_project {db : Database} {name : String} {user : UserModel} :
    user ∈ UsersMg.join_with_project db name ↔
      user ∈ db.users.rows ∧ user.username = name ∧
        ∃ project ∈ db.projects.rows, MemberOf db user project.projectid := by
  simp only [UsersMg.join_with_project, List.mem_map, List.mem_filter, beq_iff_eq]
  constructor
  · rintro ⟨⟨project, other⟩, ⟨joined, named⟩, rfl⟩
    obtain ⟨member, stored, linked⟩ := mem_join_by_project.mp joined
    exact ⟨stored, named, project, member, linked⟩
  · rintro ⟨stored, named, project, member, linked⟩
    exact ⟨(project, user), ⟨mem_join_by_project.mpr ⟨member, stored, linked⟩, named⟩, rfl⟩

theorem mem_of_scalar {rows : List UserModel} {user : UserModel}
    (found : UsersMg.scalar_one_or_none rows = .ok (some user)) : user ∈ rows := by
  unfold UsersMg.scalar_one_or_none at found
  split at found
  · simp at found
  · simp only [Except.ok.injEq, Option.some.injEq] at found
    simp [found]
  · simp at found

theorem scalar_take_one (rows : List UserModel) :
    UsersMg.scalar_one_or_none (rows.take 1) = .ok rows.head? := by
  cases rows <;> rfl

theorem select_user_head {db : Database} {user : UserModel} (stored : user ∈ db.users.rows) :
    (UsersMg.select_user db user.username).head? = some user := by
  have member : user ∈ UsersMg.select_user db user.username := by
    simp [UsersMg.select_user, stored]
  obtain ⟨first, found⟩ : ∃ first, (UsersMg.select_user db user.username).head? = some first :=
    ⟨_, List.head?_eq_some_head (List.ne_nil_of_mem member)⟩
  have selected := List.mem_of_head? found
  simp only [UsersMg.select_user, List.mem_filter, beq_iff_eq] at selected
  rw [found, Database.user_unique selected.1 stored selected.2]

theorem select_user_none {db : Database} {name : String}
    (unknown : ∀ user ∈ db.users.rows, user.username ≠ name) :
    (UsersMg.select_user db name).head? = none := by
  have empty : UsersMg.select_user db name = [] := by
    simpa [UsersMg.select_user, List.filter_eq_nil_iff] using unknown
  rw [empty]
  rfl

def candidates (db : Database) (projectid name : String) : List UserModel :=
  if projectid = "" then UsersMg.select_user db name else UsersMg.join_with_project db name

theorem mem_candidates {db : Database} {projectid name : String} {user : UserModel} :
    user ∈ candidates db projectid name ↔
      user ∈ db.users.rows ∧ user.username = name ∧
        (projectid = "" ∨ ∃ project ∈ db.projects.rows, MemberOf db user project.projectid) := by
  unfold candidates
  split
  · rename_i empty
    simp [UsersMg.select_user, empty]
  · rename_i nonempty
    simp [mem_join_with_project, nonempty]

theorem get_user_async_eq (db : Database) (projectid name : String) :
    UsersMg.get_user_async db name (some projectid) =
      .ok (candidates db projectid name).head? := by
  unfold UsersMg.get_user_async candidates
  by_cases empty : projectid = ""
  · simp [truthy, empty, scalar_take_one]
  · simp [truthy, empty, scalar_take_one]

theorem reached_iff {db : Database} {projectid name : String} :
    Reached db projectid name ↔ ∃ user, (candidates db projectid name).head? = some user := by
  constructor
  · rintro ⟨user, stored, named, linked⟩
    have member := mem_candidates.mpr ⟨stored, named, linked⟩
    exact ⟨_, List.head?_eq_some_head (List.ne_nil_of_mem member)⟩
  · rintro ⟨user, first⟩
    obtain ⟨stored, named, linked⟩ := mem_candidates.mp (List.mem_of_head? first)
    exact ⟨user, stored, named, linked⟩

theorem reached_of_token {db : Database} {projectid name : String} {credentials : AgentCredentials}
    (issued : project_get_agent_token db projectid name = .ok credentials) :
    Reached db projectid name := by
  unfold project_get_agent_token ProjectsMg.get_agent at issued
  cases found : UsersMg.scalar_one_or_none (UsersMg.join_with_project db name) with
  | error failure => simp [found, bind, Except.bind] at issued
  | ok agt =>
      cases agt with
      | none => simp [found, bind, Except.bind, throw, throwThe, MonadExceptOf.throw] at issued
      | some user =>
          obtain ⟨stored, named, linked⟩ := mem_join_with_project.mp (mem_of_scalar found)
          exact ⟨user, stored, named, Or.inr linked⟩

theorem delete_reached {db : Database} {projectid name : String} {user : UserModel}
    (first : (candidates db projectid name).head? = some user) :
    project_delete_user_agent db projectid name = .ok (ProjectsMg.deleteUser db user) := by
  simp [project_delete_user_agent, ProjectsMg.delete_agent, get_user_async_eq, first, bind,
    Except.bind, pure, Except.pure]

theorem delete_unreached {db : Database} {projectid name : String}
    (missing : (candidates db projectid name).head? = none) :
    project_delete_user_agent db projectid name = .ok db := by
  simp [project_delete_user_agent, ProjectsMg.delete_agent, get_user_async_eq, missing, bind,
    Except.bind, pure, Except.pure]

theorem deleteUser_ne {db : Database} {user : UserModel} (stored : user ∈ db.users.rows) :
    ProjectsMg.deleteUser db user ≠ db := by
  intro same
  have rows := congrArg (fun db => db.users.rows) same
  simp only [ProjectsMg.deleteUser, Table.rows_deleteWhere] at rows
  have kept : user ∈ db.users.rows.filter fun row => !(row.id == user.id) := by rwa [rows]
  simp at kept

/-- The two operations stay with the agents of the project exactly for the names that
reach no user, or an agent of the project. -/
theorem confined_iff (db : Database) (projectid name : String) :
    Confined db projectid name ↔ (Reached db projectid name → AgentOf db projectid name) := by
  constructor
  · intro confined reached
    by_contra foreign
    obtain ⟨user, first⟩ := reached_iff.mp reached
    obtain ⟨stored, _⟩ := mem_candidates.mp (List.mem_of_head? first)
    have unchanged := (confined foreign).2 _ (delete_reached first)
    exact deleteUser_ne stored unchanged
  · intro agents foreign
    have unreached : ¬Reached db projectid name := fun reached => foreign (agents reached)
    constructor
    · intro credentials issued
      exact unreached (reached_of_token issued)
    · intro next deleted
      have missing : (candidates db projectid name).head? = none := by
        cases first : (candidates db projectid name).head? with
        | none => rfl
        | some user => exact absurd (reached_iff.mpr ⟨user, first⟩) unreached
      rw [delete_unreached missing, Except.ok.injEq] at deleted
      exact deleted.symm

/-- The sibling query filters by project and by `is_agent`. -/
theorem get_agent_project_agentOf {db : Database} {projectid : String} {user : UserModel}
    (found : ProjectsMg.get_agent_project db projectid = .ok (some user)) :
    AgentOf db projectid user.username := by
  have member := List.mem_of_mem_take (mem_of_scalar found)
  simp only [ProjectsMg.agentsOf, List.mem_map, List.mem_filter, Bool.and_eq_true,
    beq_iff_eq] at member
  obtain ⟨⟨project, other⟩, ⟨joined, agent, ofProject⟩, rfl⟩ := member
  obtain ⟨_, stored, linked⟩ := mem_join_by_project.mp joined
  exact ⟨other, stored, rfl, agent, ofProject ▸ linked⟩

def administrator : UserModel :=
  { id := 1, username := "admin", is_superuser := true, scopes := "admin:r:w" }

def membersDb : Database :=
  { Sample.db with
    users := ⟨[administrator], by decide⟩
    projects_users := [⟨"q", 1⟩] }

theorem administrator_reached_from_other_project :
    ¬∀ (db : Database) (projectid name : String), Confined db projectid name := by
  intro confined
  have foreign : ¬AgentOf membersDb "p" "admin" := by
    rintro ⟨user, stored, _, agent, _⟩
    obtain rfl := List.mem_singleton.mp stored
    exact absurd agent (by decide)
  have issued : project_get_agent_token membersDb "p" "admin" =
      .ok ⟨"admin", UsersMg.tokenPayload administrator⟩ := rfl
  exact (confined membersDb "p" "admin" foreign).1 _ issued

end Projects

end LabFunctions
