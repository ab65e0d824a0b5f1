import LabFunctions.UploadKeys

/-!
The writing handlers of `labfunctions.web.projects_bp`, each in the session that the middleware
opens for its request and closes behind its answer.
-/

namespace LabFunctions

open Transactions

/-- What `ON DELETE SET NULL` leaves of a row's project. -/
def unlinked (projectid : String) (project_id : Option String) : Option String :=
  if project_id = some projectid then none else project_id

instance : Table.Hereditary ProjectModel.Accepted where
  sublist sub accepted := ⟨accepted.1.sublist sub, accepted.2.sublist sub⟩

namespace WorkflowModel

def unlink (projectid : String) (row : WorkflowModel) : WorkflowModel :=
  { row with project_id := unlinked projectid row.project_id }

theorem accepted_unlink (projectid : String) {rows : List WorkflowModel}
    (accepted : Accepted rows) : Accepted (rows.map (unlink projectid)) := by
  obtain ⟨wfids, aliases, lengths⟩ := accepted
  refine ⟨(Distinct.map_of_key_eq ?_).mpr wfids, Distinct.map_of_key_none aliases ?_, ?_⟩
  · intro row _
    rfl
  · intro row _
    unfold aliasKey unlink unlinked
    by_cases own : row.project_id = some projectid
    · simp [own]
    · simp [own]
  · intro row member
    obtain ⟨old, inside, rfl⟩ := List.mem_map.mp member
    exact lengths old inside

end WorkflowModel

namespace RuntimeModel

def unlink (projectid : String) (row : RuntimeModel) : RuntimeModel :=
  { row with project_id := unlinked projectid row.project_id }

theorem accepted_unlink (projectid : String) {rows : List RuntimeModel}
    (accepted : Accepted rows) : Accepted (rows.map (unlink projectid)) := by
  refine (Distinct.map_of_key_eq ?_).mpr accepted
  intro row _
  rfl

end RuntimeModel

namespace Database

/-- The foreign key of the memberships has no `ON DELETE`, so a project with members stays. -/
def deleteProject (projectid : String) (db : Database) : Except Exn Database :=
  if db.hasProject projectid && db.projects_users.any (·.project_id == projectid) then
    .error .integrityError
  else
    .ok
      { db with
        projects := db.projects.deleteWhere fun row => row.projectid == projectid
        workflows := ⟨db.workflows.rows.map (WorkflowModel.unlink projectid),
          WorkflowModel.accepted_unlink projectid db.workflows.holds⟩
        runtimes := ⟨db.runtimes.rows.map (RuntimeModel.unlink projectid),
          RuntimeModel.accepted_unlink projectid db.runtimes.holds⟩ }

end Database

namespace ProjectsMg

def delete_by_projectid (projectid : String) : Tx Exn Database Unit :=
  execute (Database.deleteProject projectid)

/-- `session.merge` of a model without primary key inserts a row. -/
def create_or_update (unicode : Unicode) (drawn : Drawn) (user_id : Nat) (pq : ProjectReq) :
    Tx Exn Database Unit :=
  execute (Database.insertProject (_insert unicode user_id pq drawn.projectid.text))

end ProjectsMg

namespace ProjectTransactions

open Projects

inductive Content where
  | project (data : ProjectData)
  | msg (text : String)
  | credentials (credentials : AgentCredentials)
  | build (ctx : BuildCtx)
  | empty

structure Reply where
  status : Nat
  content : Content

/-- What a parameter of a path matches. -/
abbrev Segment := { text : String // text ≠ "" }

def inject_user (usr : String) (handler : UserModel → Tx Exn Database Reply) :
    Tx Exn Database Reply := do
  let user ← query fun db => UsersMg.get_user_async db usr
  match user with
  | none => return ⟨401, .msg "Authentication failed"⟩
  | some user => handler user

section Handlers

variable (unicode : Unicode) (drawn : Drawn)

/-- A body that `ProjectReq` does not take is `none`. -/
def project_create (usr : String) (body : Option ProjectReq) : Tx Exn Database Reply :=
  inject_user usr fun user =>
    match body with
    | none => throw (.typeError "ProjectReq")
    | some pr => do
        let r ← ProjectsMg.create unicode drawn user.id pr
        match r with
        | some r => return ⟨201, .project r⟩
        | none => return ⟨200, .msg "already exist"⟩

/-- `async with session()`: the session of the request is no session maker. -/
def callSession : Tx Exn Database Unit :=
  throw (.typeError "'AsyncSession' object is not callable")

def project_create_or_update (usr : String) (body : Option ProjectReq) : Tx Exn Database Reply :=
  inject_user usr fun user =>
    match body with
    | none => throw (.typeError "ProjectReq")
    | some pd => do
        callSession
        ProjectsMg.create_or_update unicode drawn user.id pd
        return ⟨202, .msg "created"⟩

def project_delete (projectid : String) : Tx Exn Database Reply := do
  ProjectsMg.delete_by_projectid projectid
  return ⟨200, .msg "deleted"⟩

def project_create_user_agent (projectid : String) : Tx Exn Database Reply :=
  beginning do
    let res ← ProjectsMg.create_agent drawn projectid
    return ⟨201, .msg res.username⟩

def project_delete_user_agent (projectid agentname : String) : Tx Exn Database Reply := do
  execute fun db => Projects.project_delete_user_agent db projectid agentname
  commit
  return ⟨200, .msg "deleted"⟩

def project_get_last_agent_token (projectid : String) : Tx Exn Database Reply := do
  let agt ← query fun db => ProjectsMg.get_agent_project db projectid
  match agt with
  | some agt => return ⟨200, .credentials ⟨agt.username, UsersMg.tokenPayload agt⟩⟩
  | none => return ⟨404, .msg "agent not found"⟩

def project_get_agent_token (projectid agent : String) : Tx Exn Database Reply := do
  let credentials ← query fun db => Projects.project_get_agent_token db projectid agent
  return ⟨200, .credentials credentials⟩

def project_build (settings : Runtimes.Settings) (execid : NanoId Defaults.EXECID_LEN)
    (projectid : String) (spec : RuntimeSpec) (version : Option String) :
    Tx Exn Database Reply := do
  let ctx ← query fun _ =>
    Runtimes.create_build_ctx unicode execid settings projectid spec version
  return ⟨202, .build ctx⟩

/-- `stored` is what `put_stream` returns. -/
def project_upload (stored : Bool) (projectid : String) (upload : Upload) :
    Tx Exn Database Reply := do
  let _uri ← beginning (query fun db => Projects.project_upload unicode db projectid upload)
  if stored then return ⟨201, .msg "ok"⟩ else return ⟨204, .empty⟩

end Handlers

inductive Request where
  | project_create (usr : String) (body : Option ProjectReq)
  | project_create_or_update (usr : String) (body : Option ProjectReq)
  | project_delete (projectid : Segment)
  | project_create_user_agent (projectid : Segment)
  | project_delete_user_agent (projectid agentname : Segment)
  | project_get_last_agent_token (projectid : Segment)
  | project_get_agent_token (projectid agent : Segment)
  | project_build (settings : Runtimes.Settings) (execid : NanoId Defaults.EXECID_LEN)
      (projectid : Segment) (spec : RuntimeSpec) (version : Option String)
  | project_upload (stored : Bool) (projectid : Segment) (upload : Upload)

def handler (unicode : Unicode) (drawn : Drawn) : Request → Tx Exn Database Reply
  | .project_create usr body => project_create unicode drawn usr body
  | .project_create_or_update usr body => project_create_or_update unicode drawn usr body
  | .project_delete projectid => project_delete projectid
  | .project_create_user_agent projectid => project_create_user_agent drawn projectid
  | .project_delete_user_agent projectid agentname => project_delete_user_agent projectid agentname
  | .project_get_last_agent_token projectid => project_get_last_agent_token projectid
  | .project_get_agent_token projectid agent => project_get_agent_token projectid agent
  | .project_build settings execid projectid spec version =>
      project_build unicode settings execid projectid spec version
  | .project_upload stored projectid upload =>
      project_upload unicode stored projectid upload

/-- What the message of an answer says of the rows. -/
def Visible (unicode : Unicode) (db : Database) : Request → Reply → Prop
  | .project_create usr (some pr), ⟨201, .project data⟩ =>
      ∃ user ∈ db.users.rows, user.username = usr ∧ MemberOf db user data.projectid ∧
        (∃ row ∈ db.projects.rows, row.projectid = data.projectid ∧
          row.name = normalize_name unicode pr.name ∧ row.private_key = pr.private_key ∧
          row.description = pr.description ∧ row.repository = pr.repository ∧
          row.owner_id = some user.id) ∧
        ∃ agent ∈ db.users.rows, data.agent = some agent.username ∧ agent.is_agent = true ∧
          MemberOf db agent data.projectid
  | .project_create_or_update _ (some pd), ⟨202, _⟩ =>
      ∃ row ∈ db.projects.rows, row.name = normalize_name unicode pd.name ∧
        row.private_key = pd.private_key ∧ row.description = pd.description ∧
        row.repository = pd.repository
  | .project_delete projectid, ⟨200, _⟩ => db.hasProject projectid.1 = false
  | .project_create_user_agent projectid, ⟨201, .msg username⟩ =>
      ∃ agent ∈ db.users.rows, agent.username = username ∧ agent.is_agent = true ∧
        MemberOf db agent projectid.1
  | .project_delete_user_agent projectid agentname, ⟨200, _⟩ =>
      ∀ project ∈ db.projects.rows, ∀ user ∈ db.users.rows, project.projectid = projectid.1 →
        user.username = agentname.1 → ¬MemberOf db user project.projectid
  | _, _ => True

/-- A request whose rows are committed, whatever it answers. -/
def Commits (db : Database) : Request → Prop
  | .project_delete projectid =>
      db.hasProject projectid.1 = true → ∃ link ∈ db.projects_users, link.project_id = projectid.1
  | _ => True

variable {unicode : Unicode} {drawn : Drawn} {db next : Database} {reply : Reply}

theorem memberOf_append {before : List ProjectUser} {user : UserModel} {projectid : String}
    {links : List ProjectUser} (stored : db.projects_users = before ++ links)
    (member : ⟨projectid, user.id⟩ ∈ links) : MemberOf db user projectid :=
  ⟨_, stored ▸ List.mem_append_right _ member, rfl, rfl⟩

theorem get_user_async_some {usr : String} {user : UserModel}
    (found : UsersMg.get_user_async db usr = .ok (some user)) :
    user ∈ db.users.rows ∧ user.username = usr := by
  simp only [UsersMg.get_user_async, truthy, Bool.false_eq_true, if_false, scalar_take_one,
    Except.ok.injEq] at found
  simpa [UsersMg.select_user] using List.mem_of_head? found

theorem visible_of_written {usr : String} {user : UserModel} {pr : ProjectReq}
    (written : ProjectRecords.Written db next (ProjectRecords.rowOf unicode drawn user.id pr) user.id
      (ProjectsMg.agentOf drawn (ProjectRecords.projectidOf drawn pr)))
    (member : user ∈ db.users.rows) (named : user.username = usr) :
    Visible unicode next (.project_create usr (some pr))
      ⟨201, .project (ProjectRecords.answerOf drawn pr)⟩ := by
  obtain ⟨projects, users, links⟩ := written
  rw [List.append_assoc] at links
  have stored : ProjectRecords.rowOf unicode drawn user.id pr ∈ next.projects.rows := by
    rw [projects]
    exact List.mem_append_right _ (List.mem_singleton.mpr rfl)
  have people : ∀ other, other ∈ db.users.rows ∨
      other = ProjectsMg.agentOf drawn (ProjectRecords.projectidOf drawn pr) →
        other ∈ next.users.rows := by
    intro other
    rw [users, List.mem_append, List.mem_singleton]
    exact id
  refine ⟨user, people user (.inl member), named, ?_, ?_, ?_⟩
  · exact memberOf_append links (List.mem_cons_self ..)
  · exact ⟨_, stored, rfl, rfl, rfl, rfl, rfl, rfl⟩
  · refine ⟨_, people _ (.inr rfl), rfl, rfl, ?_⟩
    exact memberOf_append links (List.mem_cons_of_mem _ (List.mem_cons_self ..))

theorem inject_user_eq_ok {usr : String} {handler : UserModel → Tx Exn Database Reply}
    {session later : Session Database}
    (ran : run (inject_user usr handler) session = (.ok reply, later)) :
    reply = ⟨401, .msg "Authentication failed"⟩ ∨
      ∃ user ∈ session.working.users.rows, user.username = usr ∧
        run (handler user) session = (.ok reply, later) := by
  simp only [inject_user, run_bind_eq_ok, run_query_eq_ok] at ran
  obtain ⟨user, _, ⟨found, rfl⟩, ran⟩ := ran
  cases user with
  | none =>
      simp only [run_pure, Prod.mk.injEq, Except.ok.injEq] at ran
      exact .inl ran.1.symm
  | some user =>
      obtain ⟨member, named⟩ := get_user_async_some found
      exact .inr ⟨user, member, named, ran⟩

theorem visible_create {usr : String} {body : Option ProjectReq}
    (created : answered (project_create unicode drawn usr body) db = (.ok reply, next)) :
    Visible unicode next (.project_create usr body) reply := by
  obtain ⟨later, ran, rfl⟩ := answered_eq_ok.mp created
  rcases inject_user_eq_ok ran with rfl | ⟨user, member, named, handled⟩
  · cases body <;> trivial
  · cases body with
    | none => simp at handled
    | some pr =>
        simp only [run_bind_eq_ok] at handled
        obtain ⟨data, middle, inserted, answer⟩ := handled
        cases data with
        | none =>
            obtain ⟨rfl, rfl⟩ : (⟨200, .msg "already exist"⟩ : Reply) = reply ∧ middle = later := by
              simpa using answer
            trivial
        | some data =>
            obtain ⟨rfl, rfl⟩ : (⟨201, .project data⟩ : Reply) = reply ∧ middle = later := by
              simpa using answer
            obtain ⟨_, rfl, written⟩ :=
              ProjectRecords.creatable_of_create (answered_eq_ok.mpr ⟨_, inserted, rfl⟩)
            exact visible_of_written written member named

theorem visible_create_or_update {usr : String} {body : Option ProjectReq}
    (created : answered (project_create_or_update unicode drawn usr body) db = (.ok reply, next)) :
    Visible unicode next (.project_create_or_update usr body) reply := by
  obtain ⟨later, ran, rfl⟩ := answered_eq_ok.mp created
  rcases inject_user_eq_ok ran with rfl | ⟨user, _, _, handled⟩
  · cases body <;> trivial
  · cases body with
    | none => simp at handled
    | some pd =>
        simp only [run_bind_eq_ok, callSession] at handled
        obtain ⟨_, _, called, _⟩ := handled
        simp at called

theorem visible_create_user_agent {projectid : Segment}
    (created : answered (project_create_user_agent drawn projectid.1) db = (.ok reply, next)) :
    Visible unicode next (.project_create_user_agent projectid) reply := by
  obtain ⟨later, ran, rfl⟩ := answered_eq_ok.mp created
  simp only [project_create_user_agent, run_beginning_eq_ok, run_bind_eq_ok] at ran
  obtain ⟨middle, ⟨agent, _, made, answer⟩, rfl⟩ := ran
  obtain ⟨prj, found, rfl, first, second, user, link, rfl⟩ :=
    (ProjectRecords.create_agent_eq_ok projectid.2 _).mp made
  obtain ⟨rfl, rfl⟩ : (⟨201, .msg (ProjectsMg.agentOf drawn projectid.1).username⟩ : Reply) = reply ∧
      _ = middle := by simpa using answer
  obtain ⟨_, users, people, rfl⟩ := ProjectRecords.insertUser_eq_ok.mp user
  obtain ⟨_, _, rfl⟩ := ProjectRecords.insertMembership_eq_ok.mp link
  have same : prj.projectid = projectid.1 := by simpa using List.find?_some found
  refine ⟨ProjectsMg.agentOf drawn projectid.1, ?_, rfl, rfl, ?_⟩
  · simp only [opened, people]
    exact List.mem_append_right _ (List.mem_cons_self ..)
  · rw [← same]
    exact memberOf_append rfl (List.mem_singleton.mpr rfl)

theorem visible_delete_user_agent {projectid agentname : Segment}
    (deleted : answered (project_delete_user_agent projectid.1 agentname.1) db = (.ok reply, next)) :
    Visible unicode next (.project_delete_user_agent projectid agentname) reply := by
  obtain ⟨later, ran, rfl⟩ := answered_eq_ok.mp deleted
  simp only [project_delete_user_agent, run_bind_eq_ok, run_execute_eq_ok, run_commit_eq_ok] at ran
  obtain ⟨_, _, ⟨left, gone, rfl⟩, _, _, rfl, answer⟩ := ran
  obtain ⟨rfl, rfl⟩ : (⟨200, .msg "deleted"⟩ : Reply) = reply ∧ opened left = later := by
    simpa using answer
  intro project stored user member same named linked
  have reaches : ∀ user ∈ db.users.rows, user.username = agentname.1 →
      (∃ project ∈ db.projects.rows, MemberOf db user project.projectid) →
        user ∈ candidates db projectid.1 agentname.1 := by
    intro user member named linked
    exact mem_candidates.mpr ⟨member, named, Or.inr linked⟩
  cases first : (candidates db projectid.1 agentname.1).head? with
  | none =>
      rw [opened, delete_unreached first] at gone
      obtain rfl := Except.ok.inj gone
      have reached := reaches user member named ⟨project, stored, linked⟩
      rw [List.head?_eq_none_iff.mp first] at reached
      exact absurd reached (List.not_mem_nil)
  | some found =>
      rw [opened, delete_reached first] at gone
      obtain rfl := Except.ok.inj gone
      obtain ⟨inside, called, _⟩ := mem_candidates.mp (List.mem_of_head? first)
      simp only [opened, ProjectsMg.deleteUser, Table.rows_deleteWhere, List.mem_filter] at member
      rw [Database.user_unique member.1 inside (named.trans called.symm)] at member
      simp at member

theorem deleteProject_eq_ok {projectid : String} :
    (∃ left, Database.deleteProject projectid db = .ok left) ↔
      ¬(db.hasProject projectid = true ∧ ∃ link ∈ db.projects_users, link.project_id = projectid) := by
  unfold Database.deleteProject
  have linked : db.projects_users.any (·.project_id == projectid) = true ↔
      ∃ link ∈ db.projects_users, link.project_id = projectid := by
    simp
  rw [← linked, ← Bool.and_eq_true]
  split <;> simp_all

/-- The answer says that the project is deleted, and the close takes the deletion back. -/
theorem visible_delete_iff (db : Database) (projectid : Segment) :
    (∀ reply next, answered (project_delete projectid.1) db = (.ok reply, next) →
      Visible unicode next (.project_delete projectid) reply) ↔
      Commits db (.project_delete projectid) := by
  have quiet : Quiet (project_delete projectid.1) := by
    apply Quiet.bind
    · exact Quiet.execute _
    · intro _
      exact Quiet.pure _
  have same := quiet.answered db
  constructor
  · intro visible present
    by_contra free
    obtain ⟨left, gone⟩ := deleteProject_eq_ok.mpr fun both => free both.2
    have answer : answered (project_delete projectid.1) db = (.ok ⟨200, .msg "deleted"⟩, db) := by
      apply answered_eq_ok.mpr
      refine ⟨⟨db, left⟩, ?_, rfl⟩
      simp only [project_delete, ProjectsMg.delete_by_projectid, run_bind_eq_ok, run_execute_eq_ok]
      exact ⟨⟨⟩, _, ⟨left, gone, rfl⟩, rfl⟩
    have absent : db.hasProject projectid.1 = false := visible _ _ answer
    rw [absent] at present
    exact absurd present (by decide)
  · intro commits reply next answer
    rw [answer] at same
    obtain rfl : next = db := same
    obtain ⟨later, ran, _⟩ := answered_eq_ok.mp answer
    simp only [project_delete, ProjectsMg.delete_by_projectid, run_bind_eq_ok,
      run_execute_eq_ok] at ran
    obtain ⟨_, _, ⟨left, gone, rfl⟩, said⟩ := ran
    obtain ⟨rfl, _⟩ : (⟨200, .msg "deleted"⟩ : Reply) = reply ∧ _ = later := by simpa using said
    have refused := deleteProject_eq_ok.mp ⟨left, gone⟩
    change next.hasProject projectid.1 = false
    cases present : next.hasProject projectid.1 with
    | false => rfl
    | true => exact absurd ⟨present, commits present⟩ refused

/-- The rows that an answer speaks of are there for every later session, exactly unless the
request deletes a project that exists and has no members. -/
theorem answers_visible_iff (unicode : Unicode) (drawn : Drawn) (db : Database) (request : Request) :
    (∀ reply next, answered (handler unicode drawn request) db = (.ok reply, next) →
      Visible unicode next request reply) ↔ Commits db request := by
  cases request with
  | project_delete projectid => exact visible_delete_iff db projectid
  | project_create usr body =>
      exact iff_of_true (fun _ _ => visible_create) trivial
  | project_create_or_update usr body =>
      exact iff_of_true (fun _ _ => visible_create_or_update) trivial
  | project_create_user_agent projectid =>
      exact iff_of_true (fun _ _ => visible_create_user_agent) trivial
  | project_delete_user_agent projectid agentname =>
      exact iff_of_true (fun _ _ => visible_delete_user_agent) trivial
  | project_get_last_agent_token projectid => exact iff_of_true (fun _ _ _ => trivial) trivial
  | project_get_agent_token projectid agent => exact iff_of_true (fun _ _ _ => trivial) trivial
  | project_build settings execid projectid spec version =>
      exact iff_of_true (fun _ _ _ => trivial) trivial
  | project_upload stored projectid upload => exact iff_of_true (fun _ _ _ => trivial) trivial

theorem deleted_project_stays : ¬∀ (unicode : Unicode) (drawn : Drawn) (db next : Database)
    (request : Request) (reply : Reply),
    answered (handler unicode drawn request) db = (.ok reply, next) →
      Visible unicode next request reply := by
  intro visible
  have commits := (visible_delete_iff Sample.db ⟨"p", by decide⟩).mp
    fun reply next answer => visible Sample.unicode ProjectRecords.sampleDrawn Sample.db next
      (.project_delete ⟨"p", by decide⟩) reply answer
  obtain ⟨link, member, _⟩ := commits (by decide)
  exact absurd member (List.not_mem_nil)

end ProjectTransactions

end LabFunctions
