import LabFunctions.Library.Runs
import LabFunctions.ProjectAgents
import LabFunctions.TokenClaims

/-!
Every place that hands out an access token, as one state machine over the users and the
token store, and whether a disabled user gets another one.
-/

namespace LabFunctions

/-- The settings of one server. `verify` is `PasswordScript(salt).verify`, which answers
`False` for whatever the key derivation raises. -/
structure Issuer (Token : Type) where
  py : PyJwt Token
  conf : JWTConfig := {}
  verify : String → Option String → Bool
  AGENT_TOKEN_EXP : Int := (60 * 60) * 12

def Issuer.auth {Token : Type} (issuer : Issuer Token) (now : Int) : Auth Token :=
  { jwt := issuer.py.jwt issuer.conf now, conf := issuer.conf }

structure Accounts where
  db : Database
  store : TokenStore

namespace UsersMg

variable {Token : Type}

def deactivate (username : String) (user : UserModel) : UserModel :=
  if user.username = username then { user with is_active := false } else user

theorem accepted_deactivate (username : String) {rows : List UserModel}
    (accepted : UserModel.Accepted rows) :
    UserModel.Accepted (rows.map (deactivate username)) := by
  constructor
  · refine (Distinct.map_of_key_eq ?_).mpr accepted.1
    intro row _
    unfold deactivate
    split <;> rfl
  · refine (Distinct.map_of_key_eq ?_).mpr accepted.2
    intro row _
    unfold deactivate
    split <;> rfl

def deactivated (db : Database) (username : String) : Database :=
  { db with
    users := ⟨db.users.rows.map (deactivate username), accepted_deactivate username db.users.holds⟩ }

def get_user (db : Database) (username : String) : Except Exn (Option UserModel) :=
  scalar_one_or_none ((select_user db username).take 1)

/-- `disable_user`, with the commit of its caller. -/
def disable_user (db : Database) (username : String) : Except Exn Database := do
  let user ← get_user db username
  match user with
  | some _ => return deactivated db username
  | none => return db

def disable_user_async (db : Database) (username : String) : Except Exn Database := do
  let user ← get_user_async db username
  match user with
  | some _ => return deactivated db username
  | none => return db

def verify_password (issuer : Issuer Token) (user : UserModel) (pass_unencrypted : String) : Bool :=
  issuer.verify pass_unencrypted user.password && user.is_active

def authenticate (issuer : Issuer Token) (db : Database) (username password : String) :
    Except Exn UserModel := do
  let user ← get_user_async db username
  match user with
  | none => throw .authValidationFailed
  | some user =>
      if verify_password issuer user password then return user else throw .authValidationFailed

def claims (user : UserModel) : Claims :=
  [("usr", .str (tokenPayload user).usr),
    ("scopes", .list ((tokenPayload user).scopes.map Json.str))]

def get_jwt_token (issuer : Issuer Token) (store : TokenStore) (user : UserModel)
    (moment : Moment) : JWTResponse Token × TokenStore :=
  -- whether the user is active is not asked here
  let auth := issuer.auth moment.now
  let access_token := auth.jwt.encode (Auth._build_payload issuer.conf (claims user)
    (Auth.get_delta moment.now issuer.AGENT_TOKEN_EXP))
  let (rftkn, store) := auth.store_refresh_token store user.username moment.drawn
  (⟨access_token, some rftkn⟩, store)

end UsersMg

namespace DisabledUsers

variable {Token : Type}

inductive Request (Token : Type) where
  | login (username password : String) (moment : Moment)
  | refresh_token (access_token : Token) (refresh_token : String) (moment : Moment)
  | project_get_last_agent_token (projectid : String) (moment : Moment)
  | project_get_agent_token (projectid agent : String) (moment : Moment)
  | disable_user (username : String)
  | disable_user_async (username : String)

def login_handler (issuer : Issuer Token) (accounts : Accounts) (username password : String)
    (moment : Moment) : Except Exn (JWTResponse Token × TokenStore) := do
  let auth := issuer.auth moment.now
  let user ← UsersMg.authenticate issuer accounts.db username password
  let encoded := auth.encode (UsersMg.claims user) moment.now
  let (rtkn, store) := auth.store_refresh_token accounts.store user.username moment.drawn
  return (⟨encoded, some rtkn⟩, store)

/-- Without an agent the first handler answers 404, and the second fails in `get_jwt_token`. -/
def agentToken (issuer : Issuer Token) (accounts : Accounts)
    (agt : Except Exn (Option UserModel)) (moment : Moment) :
    Except Exn (JWTResponse Token × TokenStore) := do
  match ← agt with
  | some agt => return UsersMg.get_jwt_token issuer accounts.store agt moment
  | none => throw .attributeError

def answered (accounts : Accounts) :
    Except Exn (JWTResponse Token × TokenStore) → Option (JWTResponse Token) × Accounts
  | .ok (response, store) => (some response, { accounts with store := store })
  | .error _ => (none, accounts)

def committed (accounts : Accounts) : Except Exn Database → Option (JWTResponse Token) × Accounts
  | .ok db => (none, { accounts with db := db })
  | .error _ => (none, accounts)

def handle (issuer : Issuer Token) (accounts : Accounts) :
    Request Token → Option (JWTResponse Token) × Accounts
  | .login username password moment =>
      answered accounts (login_handler issuer accounts username password moment)
  | .refresh_token access_token refresh_token moment =>
      answered accounts ((issuer.auth moment.now).refresh_token accounts.store access_token
        refresh_token moment.drawn moment.now)
  | .project_get_last_agent_token projectid moment =>
      answered accounts (agentToken issuer accounts
        (ProjectsMg.get_agent_project accounts.db projectid) moment)
  | .project_get_agent_token projectid agent moment =>
      answered accounts (agentToken issuer accounts
        (ProjectsMg.get_agent accounts.db agent (some projectid)) moment)
  | .disable_user username => committed accounts (UsersMg.disable_user accounts.db username)
  | .disable_user_async username =>
      committed accounts (UsersMg.disable_user_async accounts.db username)

def step (issuer : Issuer Token) (accounts : Accounts) (request : Request Token) : Accounts :=
  (handle issuer accounts request).2

def Disabled (db : Database) (usr : String) : Prop :=
  ∃ user ∈ db.users.rows, user.username = usr ∧ user.is_active = false

/-- The answer holds an access token whose `usr` claim is the user. -/
def Issues (issuer : Issuer Token) (response : Option (JWTResponse Token)) (usr : String) : Prop :=
  ∃ jwt claims, response = some jwt ∧ issuer.py.verify jwt.access_token = some claims ∧
    claims.lookup "usr" = some (.str usr)

/-- Once a user is disabled, no later request is answered with a token for that user. -/
def NeverAgain (issuer : Issuer Token) (accounts : Accounts) (requests : List (Request Token)) :
    Prop :=
  ∀ before request after usr, requests = before ++ request :: after →
    Disabled (Runs.run (step issuer) accounts before).db usr →
      ¬Issues issuer (handle issuer (Runs.run (step issuer) accounts before) request).1 usr

/-- Nobody redeems a stored refresh token of a disabled user, and no agent endpoint selects
a disabled agent. -/
def Spares (issuer : Issuer Token) (accounts : Accounts) : Request Token → Prop
  | .refresh_token access_token refresh_token moment =>
      ∀ decoded usr, (issuer.auth moment.now).jwt.decode access_token = .ok decoded →
        Auth.decodedUsr decoded = .ok usr →
        accounts.store.get (usr ++ "." ++ refresh_token) = some usr → ¬Disabled accounts.db usr
  | .project_get_last_agent_token projectid _ =>
      ∀ agt, ProjectsMg.get_agent_project accounts.db projectid = .ok (some agt) →
        agt.is_active = true
  | .project_get_agent_token projectid agent _ =>
      ∀ agt, ProjectsMg.get_agent accounts.db agent (some projectid) = .ok (some agt) →
        agt.is_active = true
  | _ => True

/-! Who the token of a request is for. -/

theorem disabled_iff {db : Database} {user : UserModel} (stored : user ∈ db.users.rows) :
    Disabled db user.username ↔ user.is_active = false := by
  constructor
  · rintro ⟨other, member, named, inactive⟩
    have same : other = user := Database.user_unique member stored named
    rwa [← same]
  · intro inactive
    exact ⟨user, stored, rfl, inactive⟩

theorem issues_built_iff (issuer : Issuer Token) (payload : Claims) (exp : Int) (usr name : String)
    (refresh : Option String) (named : payload.lookup "usr" = some (.str name)) :
    Issues issuer
        (some ⟨issuer.py.sign (Auth._build_payload issuer.conf payload exp), refresh⟩) usr ↔
      usr = name := by
  have carried : (Auth._build_payload issuer.conf payload exp).lookup "usr" = some (.str name) := by
    rw [Auth.lookup_build_payload _ _ _ (by decide) (by decide) (by decide), named]
  constructor
  · rintro ⟨jwt, claims, same, verified, read⟩
    obtain rfl := Option.some.inj same
    rw [issuer.py.verify_sign, Option.some.injEq] at verified
    rw [← verified, carried] at read
    simpa using read.symm
  · rintro rfl
    exact ⟨_, _, rfl, issuer.py.verify_sign _, carried⟩

theorem not_issues_none (issuer : Issuer Token) (usr : String) : ¬Issues issuer none usr := by
  rintro ⟨jwt, claims, absent, _⟩
  cases absent

theorem authenticate_ok {issuer : Issuer Token} {db : Database} {username password : String}
    {user : UserModel} (accepted : UsersMg.authenticate issuer db username password = .ok user) :
    user ∈ db.users.rows ∧ user.is_active = true := by
  unfold UsersMg.authenticate UsersMg.get_user_async at accepted
  simp only [truthy, Bool.false_eq_true, if_false, Projects.scalar_take_one, bind,
    Except.bind] at accepted
  cases found : (UsersMg.select_user db username).head? with
  | none => simp [found, throw, throwThe, MonadExceptOf.throw] at accepted
  | some other =>
      simp only [found] at accepted
      split at accepted
      · rename_i verified
        simp only [pure, Except.pure, Except.ok.injEq] at accepted
        subst accepted
        simp only [UsersMg.verify_password, Bool.and_eq_true] at verified
        exact ⟨List.mem_of_mem_filter (List.mem_of_mem_head? found), verified.2⟩
      · simp [throw, throwThe, MonadExceptOf.throw] at accepted

theorem agentToken_some (issuer : Issuer Token) (accounts : Accounts) (agt : UserModel)
    (moment : Moment) :
    ∃ store, agentToken issuer accounts (.ok (some agt)) moment =
      .ok (⟨issuer.py.sign (Auth._build_payload issuer.conf (UsersMg.claims agt)
        (Auth.get_delta moment.now issuer.AGENT_TOKEN_EXP)), some moment.drawn⟩, store) :=
  ⟨_, rfl⟩

theorem spares_agent_iff (issuer : Issuer Token) (accounts : Accounts)
    {selected : Except Exn (Option UserModel)} (moment : Moment)
    (stored : ∀ agt, selected = .ok (some agt) → agt ∈ accounts.db.users.rows) :
    (∀ usr, Disabled accounts.db usr →
      ¬Issues issuer (answered accounts (agentToken issuer accounts selected moment)).1 usr) ↔
      ∀ agt, selected = .ok (some agt) → agt.is_active = true := by
  cases selected with
  | error failure =>
      refine iff_of_true (fun usr _ => not_issues_none issuer usr) ?_
      intro agt absent
      cases absent
  | ok found =>
      cases found with
      | none =>
          refine iff_of_true (fun usr _ => not_issues_none issuer usr) ?_
          intro agt absent
          cases absent
      | some agt =>
          obtain ⟨store, given⟩ := agentToken_some issuer accounts agt moment
          have member := stored agt rfl
          rw [given]
          simp only [answered, Except.ok.injEq, Option.some.injEq, forall_eq']
          constructor
          · intro quiet
            by_contra inactive
            rw [Bool.not_eq_true] at inactive
            exact quiet agt.username ((disabled_iff member).mpr inactive)
              ((issues_built_iff issuer _ _ _ agt.username _ rfl).mpr rfl)
          · intro active usr disabled issues
            obtain rfl := (issues_built_iff issuer _ _ _ agt.username _ rfl).mp issues
            rw [disabled_iff member, active] at disabled
            cases disabled

theorem get_agent_project_mem {db : Database} {projectid : String} {agt : UserModel}
    (found : ProjectsMg.get_agent_project db projectid = .ok (some agt)) :
    agt ∈ db.users.rows := by
  have member := List.mem_of_mem_take (Projects.mem_of_scalar found)
  simp only [ProjectsMg.agentsOf, List.mem_map, List.mem_filter] at member
  obtain ⟨⟨project, user⟩, ⟨joined, _⟩, rfl⟩ := member
  exact (Projects.mem_join_by_project.mp joined).2.1

theorem get_agent_mem {db : Database} {agent : String} {projectid : Option String}
    {agt : UserModel} (found : ProjectsMg.get_agent db agent projectid = .ok (some agt)) :
    agt ∈ db.users.rows :=
  (Projects.mem_join_with_project.mp (Projects.mem_of_scalar found)).1

theorem login_spares (issuer : Issuer Token) (accounts : Accounts) (username password : String)
    (moment : Moment) {usr : String} (disabled : Disabled accounts.db usr) :
    ¬Issues issuer (handle issuer accounts (.login username password moment)).1 usr := by
  cases accepted : UsersMg.authenticate issuer accounts.db username password with
  | error failure =>
      simp only [handle, login_handler, accepted, bind, Except.bind, answered]
      exact not_issues_none issuer usr
  | ok user =>
      obtain ⟨stored, active⟩ := authenticate_ok accepted
      simp only [handle, login_handler, accepted, bind, Except.bind, pure, Except.pure, answered]
      intro issues
      obtain rfl := (issues_built_iff issuer _ _ _ user.username _ rfl).mp issues
      rw [disabled_iff stored, active] at disabled
      cases disabled

theorem spares_refresh_iff (issuer : Issuer Token) (accounts : Accounts) (access_token : Token)
    (refresh_token : String) (moment : Moment) :
    (∀ usr, Disabled accounts.db usr →
      ¬Issues issuer (handle issuer accounts (.refresh_token access_token refresh_token moment)).1
        usr) ↔ Spares issuer accounts (.refresh_token access_token refresh_token moment) := by
  simp only [handle, Spares]
  constructor
  · intro quiet decoded usr read user kept disabled
    have redeemed : (issuer.auth moment.now).refresh_token accounts.store access_token
        refresh_token moment.drawn moment.now = .ok (_, _) :=
      Auth.refresh_token_eq_ok.mpr ⟨decoded, usr, read, user, kept, rfl, rfl⟩
    apply quiet usr disabled
    rw [redeemed]
    exact (issues_built_iff issuer decoded _ usr usr _ (Auth.lookup_of_decodedUsr user)).mpr rfl
  · intro spares usr disabled
    cases redeemed : (issuer.auth moment.now).refresh_token accounts.store access_token
        refresh_token moment.drawn moment.now with
    | error failure => exact not_issues_none issuer usr
    | ok result =>
        obtain ⟨jwt, store⟩ := result
        obtain ⟨decoded, name, read, user, kept, rfl, _⟩ := Auth.refresh_token_eq_ok.mp redeemed
        intro issues
        obtain rfl := (issues_built_iff issuer decoded _ usr name _
          (Auth.lookup_of_decodedUsr user)).mp issues
        exact spares decoded usr read user kept disabled

theorem quiet_iff (issuer : Issuer Token) (accounts : Accounts) (request : Request Token) :
    (∀ usr, Disabled accounts.db usr → ¬Issues issuer (handle issuer accounts request).1 usr) ↔
      Spares issuer accounts request := by
  cases request with
  | login username password moment =>
      exact iff_of_true (fun _ => login_spares issuer accounts username password moment) trivial
  | refresh_token access_token refresh_token moment =>
      exact spares_refresh_iff issuer accounts access_token refresh_token moment
  | project_get_last_agent_token projectid moment =>
      exact spares_agent_iff issuer accounts moment fun _ => get_agent_project_mem
  | project_get_agent_token projectid agent moment =>
      exact spares_agent_iff issuer accounts moment fun _ => get_agent_mem
  | disable_user username =>
      refine iff_of_true (fun usr _ => ?_) trivial
      simp only [handle]
      cases UsersMg.disable_user accounts.db username <;> exact not_issues_none issuer usr
  | disable_user_async username =>
      refine iff_of_true (fun usr _ => ?_) trivial
      simp only [handle]
      cases UsersMg.disable_user_async accounts.db username <;> exact not_issues_none issuer usr

/-! A disabled user stays disabled. -/

theorem disable_user_eq (db : Database) (username : String) :
    UsersMg.disable_user db username = .ok
      (if (UsersMg.select_user db username).head?.isSome then UsersMg.deactivated db username
        else db) := by
  unfold UsersMg.disable_user UsersMg.get_user
  rw [Projects.scalar_take_one]
  cases (UsersMg.select_user db username).head? <;> rfl

theorem disable_user_async_eq (db : Database) (username : String) :
    UsersMg.disable_user_async db username = UsersMg.disable_user db username := rfl

theorem disabled_deactivated {db : Database} {usr : String} (username : String)
    (disabled : Disabled db usr) : Disabled (UsersMg.deactivated db username) usr := by
  obtain ⟨user, stored, named, inactive⟩ := disabled
  refine ⟨UsersMg.deactivate username user, List.mem_map_of_mem stored, ?_, ?_⟩
  · unfold UsersMg.deactivate
    split <;> exact named
  · unfold UsersMg.deactivate
    split
    · rfl
    · exact inactive

theorem step_db (issuer : Issuer Token) (accounts : Accounts) (request : Request Token) :
    (step issuer accounts request).db = accounts.db ∨
      ∃ username, (step issuer accounts request).db = UsersMg.deactivated accounts.db username := by
  have kept : ∀ reply : Except Exn (JWTResponse Token × TokenStore),
      (answered accounts reply).2.db = accounts.db := by
    intro reply
    cases reply <;> rfl
  have disables : ∀ username,
      (@committed Token accounts (UsersMg.disable_user accounts.db username)).2.db =
          accounts.db ∨
        (@committed Token accounts (UsersMg.disable_user accounts.db username)).2.db =
          UsersMg.deactivated accounts.db username := by
    intro username
    rw [disable_user_eq]
    simp only [committed]
    split
    · exact Or.inr rfl
    · exact Or.inl rfl
  cases request with
  | disable_user username => exact (disables username).imp id fun same => ⟨username, same⟩
  | disable_user_async username => exact (disables username).imp id fun same => ⟨username, same⟩
  | _ => exact Or.inl (kept _)

theorem disabled_step {issuer : Issuer Token} {accounts : Accounts} {usr : String}
    (disabled : Disabled accounts.db usr) (request : Request Token) :
    Disabled (step issuer accounts request).db usr := by
  rcases step_db issuer accounts request with same | ⟨username, same⟩
  · rwa [same]
  · rw [same]
    exact disabled_deactivated username disabled

def Disables (usr : String) : Request Token → Prop
  | .disable_user username => username = usr
  | .disable_user_async username => username = usr
  | _ => False

theorem disabled_after {issuer : Issuer Token} {accounts : Accounts} {usr : String}
    {request : Request Token} (disables : Disables usr request)
    (known : ∃ user ∈ accounts.db.users.rows, user.username = usr) :
    Disabled (step issuer accounts request).db usr := by
  obtain ⟨user, stored, named⟩ := known
  have member : user ∈ UsersMg.select_user accounts.db usr := by
    simp [UsersMg.select_user, stored, named]
  have selected : (UsersMg.select_user accounts.db usr).head?.isSome = true := by
    rw [List.head?_eq_some_head (List.ne_nil_of_mem member)]
    rfl
  have deactivated : (@committed Token accounts
      (UsersMg.disable_user accounts.db usr)).2.db = UsersMg.deactivated accounts.db usr := by
    rw [disable_user_eq, if_pos selected]
    rfl
  have after : (step issuer accounts request).db = UsersMg.deactivated accounts.db usr := by
    cases request with
    | disable_user username =>
        obtain rfl := disables
        exact deactivated
    | disable_user_async username =>
        obtain rfl := disables
        exact deactivated
    | _ => exact disables.elim
  rw [after]
  refine ⟨UsersMg.deactivate usr user, List.mem_map_of_mem stored, ?_, ?_⟩
  · unfold UsersMg.deactivate
    rw [if_pos named]
    exact named
  · unfold UsersMg.deactivate
    rw [if_pos named]

/-- A disabled user stays disabled, and is handed no further token exactly when none of the
requests redeems a refresh token of a disabled user or selects a disabled agent. -/
theorem disabled_never_again (issuer : Issuer Token) (accounts : Accounts)
    (requests : List (Request Token)) :
    (NeverAgain issuer accounts requests ↔
      Runs.Along (step issuer) (Spares issuer) accounts requests) ∧
      ∀ before request later usr, Disables usr request →
        (∃ user ∈ (Runs.run (step issuer) accounts before).db.users.rows, user.username = usr) →
        Disabled (Runs.run (step issuer) accounts (before ++ request :: later)).db usr := by
  constructor
  · rw [← Runs.along_iff (quiet_iff issuer), Runs.along_iff_forall_split]
    constructor
    · intro never before request after split usr
      exact never before request after usr split
    · intro quiet before request after usr split
      exact quiet before request after split usr
  · intro before request later usr disables known
    rw [Runs.run_append, Runs.run_cons]
    have kept : ∀ (accounts : Accounts) request, Disabled accounts.db usr →
        Disabled (step issuer accounts request).db usr :=
      fun _ request disabled => disabled_step disabled request
    exact Runs.run_kept kept (disabled_after disables known) later

namespace Sample

def issuer : Issuer Claims where
  py := TokenClaims.Sample.py
  verify pass_unencrypted password := some pass_unencrypted == password

def ada : UserModel := { id := 1, username := "ada", password := some "secret" }

def accounts : Accounts where
  db := { LabFunctions.Sample.db with users := ⟨[ada], by decide⟩ }
  store := fun _ => none

def requests : List (Request Claims) :=
  [.login "ada" "secret" ⟨"first", 0⟩, .disable_user "ada",
    .refresh_token (Auth._build_payload {} (UsersMg.claims ada) 1800) "first" ⟨"second", 60⟩]

end Sample

theorem disabled_never_again_sample :
    Disabled (Runs.run (step Sample.issuer) Sample.accounts
      ([] ++ .disable_user "ada" :: Sample.requests)).db "ada" :=
  (disabled_never_again Sample.issuer Sample.accounts []).2 [] (.disable_user "ada")
    Sample.requests "ada" rfl ⟨Sample.ada, List.mem_singleton.mpr rfl, rfl⟩

/-- A user logs in, is disabled, and refreshes. -/
theorem disabled_user_refreshes :
    ¬∀ (accounts : Accounts) (requests : List (Request Claims)),
      NeverAgain Sample.issuer accounts requests := by
  intro never
  have disabled : Disabled (Runs.run (step Sample.issuer) Sample.accounts
      [.login "ada" "secret" ⟨"first", 0⟩, .disable_user "ada"]).db "ada" :=
    @disabled_after _ _ (step Sample.issuer Sample.accounts (.login "ada" "secret" ⟨"first", 0⟩))
      _ _ rfl ⟨Sample.ada, List.mem_singleton.mpr rfl, rfl⟩
  refine never Sample.accounts Sample.requests
    [.login "ada" "secret" ⟨"first", 0⟩, .disable_user "ada"] _ [] "ada" rfl disabled ?_
  exact ⟨_, _, rfl, rfl, rfl⟩

end DisabledUsers

end LabFunctions
