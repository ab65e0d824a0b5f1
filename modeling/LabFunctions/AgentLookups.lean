import LabFunctions.Library.Joins
import LabFunctions.Library.Runs
import LabFunctions.ProjectRecords

/-!
The membership table over runs of `create`, `create_agent` and `assign_project`, and what the
lookups of agents answer behind them.
-/

namespace LabFunctions

open Filenames Transactions

namespace ProjectsMg

def assign_project (username projectid : String) : Tx Exn Database Bool := do
  let um ← query fun db => UsersMg.get_user_async db username
  match um with
  | some um => do
      -- the projects that the user has already are not looked at
      execute (Database.insertMembership ⟨projectid, um.id⟩)
      return true
  | none => return false

end ProjectsMg

namespace AgentLookups

open ProjectsMg Projects ProjectRecords

inductive Call where
  | create (drawn : Drawn) (user_id : Nat) (pq : ProjectReq)
  | create_agent (drawn : Drawn) (projectid : String)
  | assign_project (username projectid : String)

/-- A call in a session of its own. `create` commits itself. -/
def step (unicode : Unicode) (db : Database) : Call → Database
  | .create drawn user_id pq => (answered (ProjectsMg.create unicode drawn user_id pq) db).2
  | .create_agent drawn projectid =>
      (answered (beginning (ProjectsMg.create_agent drawn projectid)) db).2
  | .assign_project username projectid =>
      (answered (beginning (ProjectsMg.assign_project username projectid)) db).2

/-- The lookups raise nothing, and `get_agent` finds the members of some project. -/
structure Answers (db : Database) : Prop where
  get_agent : ∀ name projectid, ∃ agt, ProjectsMg.get_agent db name projectid = .ok agt ∧
    ∀ user, agt = some user ↔
      user ∈ db.users.rows ∧ user.username = name ∧ ∃ projectid, MemberOf db user projectid
  get_agent_project : ∀ projectid, ∃ agt, ProjectsMg.get_agent_project db projectid = .ok agt

def SameAgent (db next : Database) : Prop :=
  ∀ name projectid, get_agent next name projectid = get_agent db name projectid

def SameList (db next : Database) : Prop :=
  ∀ projectid, get_agent_list next projectid = get_agent_list db projectid

def SameUser (db next : Database) : Prop :=
  ∀ name projectid,
    UsersMg.get_user_async next name projectid = UsersMg.get_user_async db name projectid

def Assigned (db : Database) (username projectid : String) : Prop :=
  ∃ user ∈ db.users.rows, user.username = username ∧ MemberOf db user projectid

/-- Every state of the run answers, and an assignment that is repeated on the way changes no
answer behind it. -/
structure Holds (unicode : Unicode) (start : Database) (calls : List Call) : Prop where
  answers : ∀ before after, calls = before ++ after →
    Answers (Runs.run (step unicode) start before)
  repeated : ∀ before username projectid later after,
    calls = before ++ .assign_project username projectid :: (later ++ after) →
    Assigned (Runs.run (step unicode) start before) username projectid →
    let without := Runs.run (step unicode) start (before ++ later)
    let again :=
      Runs.run (step unicode) start (before ++ .assign_project username projectid :: later)
    SameAgent without again ∧ SameList without again ∧ SameUser without again

/-- The user of an earlier call that this one gives a membership. -/
def Links (unicode : Unicode) (db : Database) (id : Nat) : Call → Prop
  | .create drawn user_id pq => Creatable unicode drawn db user_id pq ∧ id = user_id
  | .create_agent _ _ => False
  | .assign_project username projectid =>
      db.hasProject projectid = true ∧
        ∃ user ∈ db.users.rows, user.username = username ∧ user.id = id

/-- The call gives a user who is a member already no further membership. -/
def First (unicode : Unicode) (db : Database) (call : Call) : Prop :=
  ∀ id, Links unicode db id call → ∀ link ∈ db.projects_users, link.user_id ≠ id

structure Start where
  db : Database
  unlinked : db.projects_users = []

/-! What each call leaves. -/

variable {unicode : Unicode} {db next : Database}

theorem quiet_create_agent (drawn : Drawn) (projectid : String) :
    Quiet (ProjectsMg.create_agent drawn projectid) := by
  unfold ProjectsMg.create_agent
  dsimp only
  split
  · exact Quiet.bind (Quiet.execute _) fun _ => Quiet.pure _
  · refine Quiet.bind (Quiet.query _) fun prj => ?_
    cases prj with
    | none => exact Quiet.bind (Quiet.throw _) fun _ => Quiet.pure _
    | some prj =>
        refine Quiet.bind (Quiet.execute _) fun _ => ?_
        exact Quiet.bind (Quiet.execute _) fun _ => Quiet.pure _

theorem quiet_assign_project (username projectid : String) :
    Quiet (ProjectsMg.assign_project username projectid) := by
  refine Quiet.bind (Quiet.query _) fun um => ?_
  cases um with
  | none => exact Quiet.pure _
  | some um => exact Quiet.bind (Quiet.execute _) fun _ => Quiet.pure _

/-- Only the commit of a creation that succeeds is kept. -/
theorem step_create_kept {drawn : Drawn} {user_id : Nat} {pq : ProjectReq}
    (refused : ¬Creatable unicode drawn db user_id pq) :
    step unicode db (.create drawn user_id pq) = db := by
  let writes : Tx Exn Database UserModel := do
    execute (Database.insertProject (_insert unicode user_id pq (projectidOf drawn pq)))
    execute (Database.insertMembership ⟨projectidOf drawn pq, user_id⟩)
    ProjectsMg.create_agent drawn (projectidOf drawn pq)
  let answer (agent_user : UserModel) : Option ProjectData := some
    { name := pq.name
      projectid := projectidOf drawn pq
      description := pq.description
      repository := pq.repository
      agent := some agent_user.username }
  have quiet : Quiet writes := Quiet.bind (Quiet.execute _) fun _ =>
    Quiet.bind (Quiet.execute _) fun _ => quiet_create_agent _ _
  have handled : ∀ failure, Quiet (if failure = .integrityError then return none
      else throw failure : Tx Exn Database (Option ProjectData)) := by
    intro failure
    split
    · exact Quiet.pure _
    · exact Quiet.throw _
  have body : ProjectsMg.create unicode drawn user_id pq =
      tryCatch (do let value ← writes; commit; return answer value)
        fun failure => if failure = .integrityError then return none else throw failure := by
    simp only [writes, bind_assoc]
    rfl
  have outcomes := answered_commit_last quiet handled answer db
  rw [← body] at outcomes
  rcases outcomes with ⟨_, next, answers⟩ | kept
  · exact absurd (creatable_of_create answers).1 refused
  · exact kept

/-- What a call adds: rows, a membership of the user that it links, and memberships of users
that are new. -/
structure Grows (db next : Database) (linked : Option Nat) : Prop where
  projects : ∃ rows, next.projects.rows = db.projects.rows ++ rows
  users : ∃ agents, next.users.rows = db.users.rows ++ agents
  known : ∀ id, linked = some id → db.hasUser id = true
  ids : ∃ agents : List Nat, agents.Nodup ∧ (∀ id ∈ agents, db.hasUser id = false) ∧
    next.projects_users.map ProjectUser.user_id =
      db.projects_users.map ProjectUser.user_id ++ (linked.toList ++ agents)
  ends : ∀ link ∈ next.projects_users, link ∈ db.projects_users ∨
    next.hasProject link.project_id = true ∧ next.hasUser link.user_id = true

theorem Grows.refl (db : Database) : Grows db db none where
  projects := ⟨[], by simp⟩
  users := ⟨[], by simp⟩
  known := by simp
  ids := ⟨[], by simp⟩
  ends link member := .inl member

theorem hasUser_false_of_fresh {id : Nat} (fresh : ∀ other ∈ db.users.rows, other.id ≠ id) :
    db.hasUser id = false := by
  simpa [Database.hasUser] using fresh

theorem hasUser_of_append {id : Nat} {agents : List UserModel} (known : db.hasUser id = true)
    (users : next.users.rows = db.users.rows ++ agents) : next.hasUser id = true := by
  unfold Database.hasUser at known ⊢
  rw [users, List.any_append, known, Bool.true_or]

theorem ends_of_append {added : ProjectUser}
    (links : next.projects_users = db.projects_users ++ [added])
    (project : next.hasProject added.project_id = true)
    (holder : next.hasUser added.user_id = true) :
    ∀ link ∈ next.projects_users, link ∈ db.projects_users ∨
      next.hasProject link.project_id = true ∧ next.hasUser link.user_id = true := by
  intro link member
  rw [links, List.mem_append, List.mem_singleton] at member
  rcases member with old | rfl
  · exact .inl old
  · exact .inr ⟨project, holder⟩

theorem grows_of_written {row : ProjectModel} {user_id : Nat} {agent : UserModel}
    (written : Written db next row user_id agent) (owner : db.hasUser user_id = true)
    (fresh : ∀ other ∈ db.users.rows, other.id ≠ agent.id) : Grows db next (some user_id) where
  projects := ⟨_, written.projects⟩
  users := ⟨_, written.users⟩
  known := by
    rintro id rfl'
    obtain rfl := Option.some.inj rfl'
    exact owner
  ids := by
    refine ⟨[agent.id], List.nodup_singleton _, ?_, by simp [written.links]⟩
    simpa using hasUser_false_of_fresh fresh
  ends := by
    intro link member
    have project := hasProject_append row written.projects
    rw [written.links, List.append_assoc, List.mem_append] at member
    rcases member with old | added
    · exact .inl old
    · right
      rcases List.mem_pair.mp added with rfl | rfl
      · exact ⟨project, hasUser_of_append owner written.users⟩
      · exact ⟨project, hasUser_append agent written.users⟩

theorem step_create (unicode : Unicode) (db : Database) (drawn : Drawn) (user_id : Nat)
    (pq : ProjectReq) : ∃ linked, Grows db (step unicode db (.create drawn user_id pq)) linked ∧
      ∀ id, linked = some id ↔ Links unicode db id (.create drawn user_id pq) := by
  by_cases creatable : Creatable unicode drawn db user_id pq
  · obtain ⟨next, created⟩ := create_of_creatable creatable
    obtain ⟨_, _, written⟩ := creatable_of_create created
    have after : step unicode db (.create drawn user_id pq) = next := by
      rw [step, created]
    refine ⟨some user_id, ?_, fun id => ?_⟩
    · rw [after]
      exact grows_of_written written creatable.owner fun other member =>
        (creatable.agent other member).1
    · simp [Links, creatable, eq_comm]
  · refine ⟨none, ?_, fun id => ?_⟩
    · rw [step_create_kept creatable]
      exact Grows.refl db
    · simp [Links, creatable]

theorem step_create_agent (unicode : Unicode) (db : Database) (drawn : Drawn) (projectid : String) :
    Grows db (step unicode db (.create_agent drawn projectid)) none := by
  rcases answered_beginning (quiet_create_agent drawn projectid) db with
    ⟨agent, later, ran, after⟩ | ⟨_, kept⟩
  · have same : step unicode db (.create_agent drawn projectid) = later.working := by
      rw [step, after]
    rw [same]
    by_cases named : projectid = ""
    · unfold ProjectsMg.create_agent at ran
      simp only [if_pos named, run_bind_eq_ok, run_execute_eq_ok] at ran
      obtain ⟨_, _, ⟨left, user, rfl⟩, answer⟩ := ran
      simp only [run_pure, Prod.mk.injEq] at answer
      obtain ⟨_, users, people, rfl⟩ := insertUser_eq_ok.mp user
      rw [← answer.2]
      exact ⟨⟨[], by simp [opened]⟩, ⟨_, people⟩, by simp, ⟨[], by simp [opened]⟩,
        fun link member => .inl member⟩
    · obtain ⟨prj, found, rfl, middle, left, user, link, rfl⟩ :=
        (create_agent_eq_ok named _).mp ran
      obtain ⟨fresh, users, people, rfl⟩ := insertUser_eq_ok.mp user
      obtain ⟨project, holder, rfl⟩ := insertMembership_eq_ok.mp link
      refine ⟨⟨[], by simp [opened]⟩, ⟨_, people⟩, by simp, ?_, ?_⟩
      · refine ⟨[(agentOf drawn projectid).id], List.nodup_singleton _, ?_, by simp [opened]⟩
        simpa [opened] using hasUser_false_of_fresh fun other member => (fresh other member).1
      · exact ends_of_append rfl project holder
  · rw [step, kept]
    exact Grows.refl db

theorem run_assign_project {user : UserModel} (stored : user ∈ db.users.rows) (projectid : String) :
    run (ProjectsMg.assign_project user.username projectid) (opened db) =
      run (do execute (Database.insertMembership ⟨projectid, user.id⟩); return true)
        (opened db) := by
  have found : UsersMg.get_user_async db user.username = .ok (some user) := by
    simp [UsersMg.get_user_async, truthy, scalar_take_one, select_user_head stored]
  unfold ProjectsMg.assign_project
  rw [run_bind]
  simp only [run, query, opened, found]

theorem step_assign_eq {user : UserModel} {projectid : String} (stored : user ∈ db.users.rows)
    (project : db.hasProject projectid = true) :
    step unicode db (.assign_project user.username projectid) =
      { db with projects_users := db.projects_users ++ [⟨projectid, user.id⟩] } := by
  have holder : db.hasUser user.id = true := List.any_eq_true.mpr ⟨user, stored, by simp⟩
  have ran : run (ProjectsMg.assign_project user.username projectid) (opened db) =
      (.ok true, ⟨db, { db with
        projects_users := db.projects_users ++ [⟨projectid, user.id⟩] }⟩) := by
    rw [run_assign_project stored, run_bind_eq_ok]
    exact ⟨⟨⟩, _, run_execute_eq_ok.mpr ⟨_, insertMembership_eq_ok.mpr ⟨project, holder, rfl⟩, rfl⟩,
      rfl⟩
  rw [step, answered_eq_ok.mpr ⟨_, run_beginning_eq_ok.mpr ⟨_, ran, rfl⟩, rfl⟩]
  rfl

theorem step_assign_kept {username projectid : String}
    (unlinked : ¬∃ id, Links unicode db id (.assign_project username projectid)) :
    step unicode db (.assign_project username projectid) = db := by
  rcases answered_beginning (quiet_assign_project username projectid) db with
    ⟨done, later, ran, after⟩ | ⟨_, kept⟩
  · have same : step unicode db (.assign_project username projectid) = later.working := by
      rw [step, after]
    rw [same]
    rcases db.known_or_unknown username with ⟨user, stored, rfl⟩ | unknown
    · rw [run_assign_project stored, run_bind_eq_ok] at ran
      obtain ⟨_, _, ran, _⟩ := ran
      obtain ⟨left, link, _⟩ := run_execute_eq_ok.mp ran
      obtain ⟨project, _, _⟩ := insertMembership_eq_ok.mp link
      exact absurd ⟨user.id, project, user, stored, rfl, rfl⟩ unlinked
    · have found : UsersMg.get_user_async db username = .ok none := by
        simp [UsersMg.get_user_async, truthy, scalar_take_one, select_user_none unknown]
      unfold ProjectsMg.assign_project at ran
      rw [run_bind] at ran
      simp only [run, query, opened, found] at ran
      cases ran
      rfl
  · rw [step, kept]

theorem step_assign (unicode : Unicode) (db : Database) (username projectid : String) :
    ∃ linked, Grows db (step unicode db (.assign_project username projectid)) linked ∧
      ∀ id, linked = some id ↔ Links unicode db id (.assign_project username projectid) := by
  by_cases links : ∃ id, Links unicode db id (.assign_project username projectid)
  · obtain ⟨id, project, user, stored, rfl, rfl⟩ := links
    have holder : db.hasUser user.id = true := List.any_eq_true.mpr ⟨user, stored, by simp⟩
    refine ⟨some user.id, ?_, fun id => ?_⟩
    · rw [step_assign_eq stored project]
      refine ⟨⟨[], by simp⟩, ⟨[], by simp⟩, ?_, ⟨[], by simp⟩, ends_of_append rfl project holder⟩
      intro id same
      exact Option.some.inj same ▸ holder
    · constructor
      · intro same
        exact ⟨project, user, stored, rfl, Option.some.inj same⟩
      · rintro ⟨_, other, member, named, rfl⟩
        rw [Database.user_unique member stored named]
  · refine ⟨none, ?_, fun id => ?_⟩
    · rw [step_assign_kept links]
      exact Grows.refl db
    · simp only [reduceCtorEq, false_iff]
      exact fun linked => links ⟨id, linked⟩

theorem step_grows (unicode : Unicode) (db : Database) (call : Call) :
    ∃ linked, Grows db (step unicode db call) linked ∧
      ∀ id, linked = some id ↔ Links unicode db id call := by
  cases call with
  | create drawn user_id pq => exact step_create unicode db drawn user_id pq
  | create_agent drawn projectid =>
      exact ⟨none, step_create_agent unicode db drawn projectid, by simp [Links]⟩
  | assign_project username projectid => exact step_assign unicode db username projectid

/-! The two invariants: what a link refers to, and how often a user is linked. -/

def memberKeys : Joins.Keys ProjectModel UserModel ProjectUser String Nat where
  left := ProjectModel.projectid
  right := UserModel.id
  toLeft := ProjectUser.project_id
  toRight := ProjectUser.user_id

theorem join_by_project_eq (db : Database) : UsersMg.join_by_project db =
    Joins.join memberKeys db.projects.rows db.projects_users db.users.rows := rfl

/-- The foreign keys of the membership table. -/
def Referential (db : Database) : Prop :=
  ∀ link ∈ db.projects_users,
    db.hasProject link.project_id = true ∧ db.hasUser link.user_id = true

def Single (db : Database) : Prop := (db.projects_users.map ProjectUser.user_id).Nodup

theorem Grows.referential {linked : Option Nat} (grows : Grows db next linked)
    (referential : Referential db) : Referential next := by
  intro link member
  obtain ⟨rows, projects⟩ := grows.projects
  obtain ⟨agents, users⟩ := grows.users
  rcases grows.ends link member with old | added
  · obtain ⟨project, user⟩ := referential link old
    refine ⟨?_, hasUser_of_append user users⟩
    unfold Database.hasProject at project ⊢
    rw [projects, List.any_append, project, Bool.true_or]
  · exact added

theorem Grows.single_iff {linked : Option Nat} (grows : Grows db next linked)
    (referential : Referential db) : Single next ↔
      Single db ∧ ∀ id, linked = some id → ∀ link ∈ db.projects_users, link.user_id ≠ id := by
  obtain ⟨agents, distinct, fresh, ids⟩ := grows.ids
  have old_ne_new : ∀ link ∈ db.projects_users, link.user_id ∉ agents := by
    intro link member new
    have known := (referential link member).2
    rw [fresh _ new] at known
    cases known
  have added : (linked.toList ++ agents).Nodup := by
    cases linked with
    | none => exact distinct
    | some id =>
        refine List.nodup_cons.mpr ⟨fun new => ?_, distinct⟩
        have known := grows.known id rfl
        rw [fresh id new] at known
        cases known
  unfold Single
  rw [ids, List.nodup_append]
  constructor
  · rintro ⟨single, _, disjoint⟩
    refine ⟨single, fun id same link member clash => ?_⟩
    exact disjoint _ (List.mem_map_of_mem member) id (by simp [same]) clash
  · rintro ⟨single, first⟩
    refine ⟨single, added, ?_⟩
    rintro id member _ later rfl
    obtain ⟨link, inside, rfl⟩ := List.mem_map.mp member
    rcases List.mem_append.mp later with same | new
    · exact first _ (Option.mem_toList.mp same) link inside rfl
    · exact old_ne_new link inside new

theorem referential_step (call : Call) (referential : Referential db) :
    Referential (step unicode db call) := by
  obtain ⟨linked, grows, _⟩ := step_grows unicode db call
  exact grows.referential referential

theorem single_step_iff (call : Call) (referential : Referential db) :
    Single (step unicode db call) ↔ Single db ∧ First unicode db call := by
  obtain ⟨linked, grows, links⟩ := step_grows unicode db call
  simp only [grows.single_iff referential, links]
  rfl

theorem run_referential (calls : List Call) (referential : Referential db) :
    Referential (Runs.run (step unicode) db calls) :=
  Runs.run_kept (fun _ call held => referential_step call held) referential calls

theorem run_single_iff (calls : List Call) (referential : Referential db) (single : Single db) :
    (∀ before after, calls = before ++ after → Single (Runs.run (step unicode) db before)) ↔
      Runs.Along (step unicode) (First unicode) db calls := by
  induction calls generalizing db with
  | nil =>
      refine iff_of_true ?_ trivial
      intro before after split
      obtain ⟨rfl, _⟩ := List.append_eq_nil_iff.mp split.symm
      exact single
  | cons call rest ih =>
      have stepped := @single_step_iff unicode db call referential
      rw [Runs.along_cons]
      constructor
      · intro every
        have next : Single (step unicode db call) := every [call] rest rfl
        refine ⟨(stepped.mp next).2, (ih (referential_step call referential) next).mp ?_⟩
        intro before after split
        exact every (call :: before) after (by rw [split, List.cons_append])
      · rintro ⟨first, later⟩ before after split
        have next := stepped.mpr ⟨single, first⟩
        cases before with
        | nil => exact single
        | cons head tail =>
            obtain ⟨rfl, rest⟩ := List.cons.inj split
            exact (ih (referential_step call referential) next).mpr later tail after rest

/-! The rows that the lookups join. -/

def membershipsOf (db : Database) (user : UserModel) : List ProjectUser :=
  db.projects_users.filter fun link => link.user_id == user.id

theorem Referential.linked (referential : Referential db) :
    Joins.Linked memberKeys db.projects.rows db.projects_users db.users.rows where
  lefts_distinct := db.projects.holds.1
  rights_distinct := db.users.holds.1
  left link member := by
    simpa [Database.hasProject, memberKeys] using (referential link member).1
  right link member := by
    simpa [Database.hasUser, memberKeys] using (referential link member).2

/-- As many rows as the user has memberships. -/
theorem join_with_project_eq (referential : Referential db) {user : UserModel}
    (stored : user ∈ db.users.rows) : UsersMg.join_with_project db user.username =
      List.replicate (membershipsOf db user).length user := by
  refine List.eq_replicate_iff.mpr ⟨?_, ?_⟩
  · have named : ∀ row ∈ UsersMg.join_by_project db,
        (row.2.username == user.username) = true ↔ (row.2.id == user.id) = true := by
      intro row member
      have inside := (mem_join_by_project.mp member).2.1
      rw [beq_iff_eq, beq_iff_eq]
      constructor
      · intro same
        rw [Database.user_unique inside stored same]
      · intro same
        rw [Database.user_unique_id inside stored same]
    have counted := (Joins.keys_perm referential.linked).countP_eq fun keys => keys.2 == user.id
    rw [List.countP_map, List.countP_map, ← join_by_project_eq] at counted
    rw [UsersMg.join_with_project, List.length_map, ← List.countP_eq_length_filter,
      List.countP_congr named, membershipsOf, ← List.countP_eq_length_filter]
    exact counted
  · intro other member
    obtain ⟨inside, named, _⟩ := mem_join_with_project.mp member
    exact Database.user_unique inside stored named

theorem mem_membershipsOf {user : UserModel} {link : ProjectUser} :
    link ∈ membershipsOf db user ↔ link ∈ db.projects_users ∧ link.user_id = user.id := by
  simp [membershipsOf]

theorem exists_memberOf_iff {user : UserModel} :
    (∃ projectid, MemberOf db user projectid) ↔ 0 < (membershipsOf db user).length := by
  rw [List.length_pos_iff_exists_mem]
  simp only [mem_membershipsOf, MemberOf]
  constructor
  · rintro ⟨_, link, member, _, same⟩
    exact ⟨link, member, same⟩
  · rintro ⟨link, member, same⟩
    exact ⟨link.project_id, link, member, rfl, same⟩

theorem single_iff (referential : Referential db) :
    Single db ↔ ∀ user ∈ db.users.rows, (membershipsOf db user).length ≤ 1 := by
  unfold Single
  rw [List.nodup_iff_count_le_one]
  have counted : ∀ id, (db.projects_users.map ProjectUser.user_id).count id =
      (db.projects_users.filter fun link => link.user_id == id).length := by
    intro id
    rw [List.count_eq_countP, List.countP_map, List.countP_eq_length_filter]
    rfl
  constructor
  · intro single user _
    rw [membershipsOf, ← counted]
    exact single user.id
  · intro single id
    rw [counted]
    by_cases linked : ∃ link ∈ db.projects_users, link.user_id = id
    · obtain ⟨link, member, rfl⟩ := linked
      obtain ⟨user, stored, same⟩ := List.any_eq_true.mp (referential link member).2
      rw [← beq_iff_eq.mp same]
      exact single user stored
    · have none : (db.projects_users.filter fun link => link.user_id == id) = [] := by
        refine List.filter_eq_nil_iff.mpr fun link member => ?_
        simpa using fun same => linked ⟨link, member, same⟩
      rw [none]
      exact Nat.zero_le 1

theorem get_agent_eq (referential : Referential db) {user : UserModel}
    (stored : user ∈ db.users.rows) (projectid : Option String) :
    ProjectsMg.get_agent db user.username projectid =
      match (membershipsOf db user).length with
      | 0 => .ok none
      | 1 => .ok (some user)
      | _ => .error .multipleResultsFound := by
  rw [ProjectsMg.get_agent, join_with_project_eq referential stored]
  rcases (membershipsOf db user).length with _ | _ | more <;> rfl

theorem join_with_project_unknown {name : String}
    (unknown : ∀ user ∈ db.users.rows, user.username ≠ name) :
    UsersMg.join_with_project db name = [] := by
  refine List.eq_nil_iff_forall_not_mem.mpr fun user member => ?_
  obtain ⟨stored, named, _⟩ := mem_join_with_project.mp member
  exact unknown user stored named

theorem get_agent_unknown {name : String} (unknown : ∀ user ∈ db.users.rows, user.username ≠ name)
    (projectid : Option String) : ProjectsMg.get_agent db name projectid = .ok none := by
  rw [ProjectsMg.get_agent, join_with_project_unknown unknown]
  rfl

theorem answers_iff (referential : Referential db) : Answers db ↔ Single db := by
  rw [single_iff referential]
  constructor
  · intro answers user stored
    obtain ⟨agt, found, _⟩ := answers.get_agent user.username none
    rw [get_agent_eq referential stored] at found
    rcases length : (membershipsOf db user).length with _ | _ | more
    · exact Nat.zero_le 1
    · exact Nat.le_refl 1
    · rw [length] at found
      cases found
  · intro single
    refine ⟨fun name projectid => ?_, fun projectid => ⟨_, scalar_take_one _⟩⟩
    rcases db.known_or_unknown name with ⟨user, stored, rfl⟩ | unknown
    · have only : ∀ other ∈ db.users.rows, other.username = user.username → other = user :=
        fun _ member named => Database.user_unique member stored named
      rw [get_agent_eq referential stored]
      rcases length : (membershipsOf db user).length with _ | _ | more
      · refine ⟨none, rfl, fun other => iff_of_false nofun ?_⟩
        rintro ⟨member, named, linked⟩
        rw [only other member named, exists_memberOf_iff, length] at linked
        exact Nat.lt_irrefl 0 linked
      · refine ⟨some user, rfl, fun other => ?_⟩
        constructor
        · intro same
          obtain rfl := Option.some.inj same
          exact ⟨stored, rfl, exists_memberOf_iff.mpr (by omega)⟩
        · rintro ⟨member, named, _⟩
          rw [only other member named]
      · have bound := single user stored
        omega
    · refine ⟨none, get_agent_unknown unknown projectid, fun user => ?_⟩
      simp only [reduceCtorEq, false_iff]
      rintro ⟨stored, named, _⟩
      exact unknown user stored named

/-! An assignment that is repeated. -/

structure Repeated (db : Database) (user : UserModel) (projectid : String) : Prop where
  referential : Referential db
  stored : user ∈ db.users.rows
  linked : MemberOf db user projectid

def relinked (db : Database) (user : UserModel) (projectid : String) : Database :=
  { db with projects_users := db.projects_users ++ [⟨projectid, user.id⟩] }

variable {user : UserModel} {projectid : String}

theorem Repeated.step_eq (repeated : Repeated db user projectid) :
    step unicode db (.assign_project user.username projectid) = relinked db user projectid := by
  obtain ⟨link, member, rfl, _⟩ := repeated.linked
  exact step_assign_eq repeated.stored (repeated.referential link member).1

theorem Repeated.relinked_referential (repeated : Repeated db user projectid) :
    Referential (relinked db user projectid) := by
  intro link member
  rcases List.mem_append.mp member with old | added
  · exact repeated.referential link old
  · obtain ⟨held, inside, rfl, same⟩ := repeated.linked
    obtain rfl := List.mem_singleton.mp added
    rw [← same]
    exact repeated.referential held inside

theorem length_membershipsOf_relinked (db : Database) (user other : UserModel)
    (projectid : String) :
    (membershipsOf (relinked db user projectid) other).length =
      (membershipsOf db other).length + if user.id = other.id then 1 else 0 := by
  unfold membershipsOf relinked
  rw [List.filter_append, List.length_append, List.filter_cons, List.filter_nil]
  by_cases same : user.id = other.id
  · simp [same]
  · simp [same]

/-- The lookup by name and project takes the first row, and there is one row already. -/
theorem Repeated.sameUser (repeated : Repeated db user projectid) :
    SameUser db (relinked db user projectid) := by
  intro name selected
  have rows : (UsersMg.join_with_project (relinked db user projectid) name).head? =
      (UsersMg.join_with_project db name).head? := by
    rcases db.known_or_unknown name with ⟨other, stored, rfl⟩ | unknown
    · rw [join_with_project_eq repeated.relinked_referential stored,
        join_with_project_eq repeated.referential stored, length_membershipsOf_relinked]
      by_cases same : user.id = other.id
      · have one : user = other := Database.user_unique_id repeated.stored stored same
        have linked := exists_memberOf_iff.mp ⟨projectid, repeated.linked⟩
        rw [← one, List.head?_replicate, List.head?_replicate, if_neg (by omega), if_neg (by omega)]
      · rw [if_neg same, Nat.add_zero]
    · rw [join_with_project_unknown unknown,
        @join_with_project_unknown (relinked db user projectid) name unknown]
  unfold UsersMg.get_user_async
  rw [scalar_take_one, scalar_take_one, scalar_take_one, scalar_take_one, rows]
  rfl

theorem Repeated.sameAgent_iff (repeated : Repeated db user projectid) :
    SameAgent db (relinked db user projectid) ↔ 2 ≤ (membershipsOf db user).length := by
  have linked := exists_memberOf_iff.mp ⟨projectid, repeated.linked⟩
  have next := repeated.relinked_referential
  constructor
  · intro same
    have answers := same user.username none
    rw [get_agent_eq next repeated.stored, get_agent_eq repeated.referential repeated.stored,
      length_membershipsOf_relinked, if_pos rfl] at answers
    by_contra few
    have one : (membershipsOf db user).length = 1 := by omega
    rw [one] at answers
    cases answers
  · intro many name selected
    rcases db.known_or_unknown name with ⟨other, stored, rfl⟩ | unknown
    · rw [get_agent_eq next stored, get_agent_eq repeated.referential stored,
        length_membershipsOf_relinked]
      by_cases same : user.id = other.id
      · obtain ⟨more, length⟩ := Nat.exists_eq_add_of_le' many
        have one : user = other := Database.user_unique_id repeated.stored stored same
        rw [← one, if_pos rfl, length]
        rfl
      · rw [if_neg same, Nat.add_zero]
    · exact (@get_agent_unknown (relinked db user projectid) name unknown selected).trans
        (get_agent_unknown unknown selected).symm

def listed (db : Database) (projectid : String) (link : ProjectUser) : Bool :=
  (db.users.rows.any fun user => user.id == link.user_id && user.is_agent) &&
    link.project_id == projectid

theorem length_agentsOf (referential : Referential db) (projectid : String) :
    (agentsOf db projectid).length = db.projects_users.countP (listed db projectid) := by
  let seen (keys : String × Nat) : Bool :=
    (db.users.rows.any fun user => user.id == keys.2 && user.is_agent) && keys.1 == projectid
  have agents : ∀ row ∈ UsersMg.join_by_project db,
      (row.2.is_agent && row.1.projectid == projectid) = true ↔
        seen (memberKeys.left row.1, memberKeys.right row.2) = true := by
    intro row member
    have inside := (mem_join_by_project.mp member).2.1
    have known : (db.users.rows.any fun user => user.id == row.2.id && user.is_agent) =
        row.2.is_agent := by
      rw [Bool.eq_iff_iff, List.any_eq_true]
      constructor
      · rintro ⟨user, stored, both⟩
        obtain ⟨same, agent⟩ := Bool.and_eq_true_iff.mp both
        rw [← Database.user_unique_id stored inside (beq_iff_eq.mp same)]
        exact agent
      · intro agent
        exact ⟨row.2, inside, by simp [agent]⟩
    rw [← known]
    rfl
  have counted := (Joins.keys_perm referential.linked).countP_eq seen
  rw [List.countP_map, List.countP_map] at counted
  rw [agentsOf, List.length_map, ← List.countP_eq_length_filter, List.countP_congr agents]
  exact counted

theorem agentsOf_relinked (stored : user ∈ db.users.rows) {selected : String}
    (unlisted : user.is_agent = true → selected ≠ projectid) :
    agentsOf (relinked db user projectid) selected = agentsOf db selected := by
  -- what the new link joins is no row that the query selects
  have unselected : ∀ project : ProjectModel,
      (([⟨projectid, user.id⟩] : List ProjectUser).filter
        fun link => link.project_id == project.projectid).flatMap (fun link =>
          ((db.users.rows.filter fun other => other.id == link.user_id).map fun other =>
            (project, other)).filter fun row =>
              row.2.is_agent && row.1.projectid == selected) = [] := by
    intro project
    simp only [List.flatMap_eq_nil_iff, List.mem_filter, List.mem_singleton, beq_iff_eq,
      List.filter_eq_nil_iff, List.mem_map]
    rintro _ ⟨rfl, ofProject⟩ _ ⟨other, ⟨member, same⟩, rfl⟩ both
    obtain ⟨agent, chosen⟩ := Bool.and_eq_true_iff.mp both
    rw [Database.user_unique_id member stored same] at agent
    exact unlisted agent ((beq_iff_eq.mp chosen).symm.trans ofProject.symm)
  unfold agentsOf UsersMg.join_by_project relinked
  simp only [List.filter_flatMap, List.filter_append, List.flatMap_append, unselected,
    List.append_nil]

theorem Repeated.sameList_iff (repeated : Repeated db user projectid) :
    SameList db (relinked db user projectid) ↔ (user.is_agent = true → projectid = "") := by
  constructor
  · intro same agent
    by_contra named
    have lists := congrArg List.length (same (some projectid))
    have selects : truthy (some projectid) = true := by simpa [truthy] using named
    simp only [get_agent_list, selects, if_true, pyOr_of_ne_empty named, List.length_map,
      length_agentsOf repeated.relinked_referential, length_agentsOf repeated.referential] at lists
    have new : listed db projectid ⟨projectid, user.id⟩ = true := by
      simp only [listed, beq_self_eq_true, Bool.and_true, List.any_eq_true]
      exact ⟨user, repeated.stored, by simp [agent]⟩
    have counted : (relinked db user projectid).projects_users.countP
        (listed (relinked db user projectid) projectid) =
          db.projects_users.countP (listed db projectid) + 1 := by
      rw [relinked, List.countP_append, List.countP_singleton]
      exact congrArg _ (if_pos new)
    omega
  · intro unlisted selected
    unfold get_agent_list
    split
    · rename_i selects
      cases selected with
      | none => cases selects
      | some text =>
          have named : text ≠ "" := by simpa [truthy] using selects
          rw [pyOr_of_ne_empty named, agentsOf_relinked repeated.stored]
          intro agent same
          exact named (same.trans (unlisted agent))
    · rfl

/-! Whole runs. -/

theorem Start.referential (start : Start) : Referential start.db := by
  intro link member
  rw [start.unlinked] at member
  cases member

theorem Start.single (start : Start) : Single start.db := by
  rw [Single, start.unlinked]
  exact List.nodup_nil

theorem not_first_of_assigned {username : String} (referential : Referential db)
    (assigned : Assigned db username projectid) :
    ¬First unicode db (.assign_project username projectid) := by
  obtain ⟨user, stored, named, link, member, ofProject, ofUser⟩ := assigned
  intro first
  have project := (referential link member).1
  rw [ofProject] at project
  exact first user.id ⟨project, user, stored, named, rfl⟩ link member ofUser

theorem holds_iff (unicode : Unicode) (start : Start) (calls : List Call) :
    Holds unicode start.db calls ↔
      Runs.Along (step unicode) (First unicode) start.db calls := by
  have answers : ∀ before, Answers (Runs.run (step unicode) start.db before) ↔
      Single (Runs.run (step unicode) start.db before) :=
    fun before => answers_iff (run_referential before start.referential)
  rw [← run_single_iff calls start.referential start.single]
  constructor
  · intro holds before after split
    exact (answers before).mp (holds.answers before after split)
  · intro single
    refine ⟨fun before after split => (answers before).mpr (single before after split), ?_⟩
    intro before username projectid later after split assigned
    have along := (run_single_iff calls start.referential start.single).mp single
    have first := Runs.along_iff_forall_split.mp along before _ _ split
    exact absurd first (not_first_of_assigned (run_referential before start.referential) assigned)

/-- Over a run the lookups answer as they should exactly when no call gives a further membership
to a user who has one. An assignment that is repeated is such a call: it never changes the lookup
of a user, changes the list of agents when the user is one, and the lookup of an agent unless that
has failed before. -/
theorem lookups_hold_iff (unicode : Unicode) (start : Start) (calls : List Call) :
    (Holds unicode start.db calls ↔ Runs.Along (step unicode) (First unicode) start.db calls) ∧
    let db := Runs.run (step unicode) start.db calls
    ∀ user ∈ db.users.rows, ∀ projectid, MemberOf db user projectid →
      let again := step unicode db (.assign_project user.username projectid)
      SameUser db again ∧ (SameList db again ↔ (user.is_agent = true → projectid = "")) ∧
        (SameAgent db again ↔ 2 ≤ (membershipsOf db user).length) := by
  refine ⟨holds_iff unicode start calls, ?_⟩
  intro db user stored projectid linked
  have repeated : Repeated db user projectid :=
    ⟨run_referential calls start.referential, stored, linked⟩
  rw [repeated.step_eq]
  exact ⟨repeated.sameUser, repeated.sameList_iff, repeated.sameAgent_iff⟩

namespace Sample

def start : Start := ⟨ownedDb, rfl⟩

def assignment : Call := .assign_project "ana" "p"

end Sample

theorem assignment_repeated :
    ProjectsMg.get_agent (Runs.run (step LabFunctions.Sample.unicode) ownedDb
      [Sample.assignment]) "ana" = .ok (some owner) ∧
    ProjectsMg.get_agent (Runs.run (step LabFunctions.Sample.unicode) ownedDb
      [Sample.assignment, Sample.assignment]) "ana" = .error .multipleResultsFound ∧
    ¬∀ (unicode : Unicode) (start : Start) (calls : List Call), Holds unicode start.db calls := by
  have raised : ProjectsMg.get_agent (Runs.run (step LabFunctions.Sample.unicode) ownedDb
      [Sample.assignment, Sample.assignment]) "ana" = .error .multipleResultsFound := rfl
  refine ⟨rfl, raised, fun holds => ?_⟩
  obtain ⟨agt, found, _⟩ := ((holds LabFunctions.Sample.unicode Sample.start
    [Sample.assignment, Sample.assignment]).answers _ []
      (List.append_nil _).symm).get_agent "ana" none
  exact absurd (raised.symm.trans found) (by simp)

end AgentLookups

end LabFunctions
