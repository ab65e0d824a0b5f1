import LabFunctions.DisabledUsers

/-!
Where the access tokens come from that a server has handed out: the login or the request for an
agent's token behind each of them, over any number of refreshes.
-/

namespace LabFunctions.TokenProvenance

open DisabledUsers Runs

variable {Token : Type} (issuer : Issuer Token)

/-- A request that is answered with tokens for a user of its own accord. -/
def Grants (accounts : Accounts) (user : UserModel) : Request Token → Prop
  | .login username password _ =>
      user ∈ accounts.db.users.rows ∧ user.username = username ∧
        issuer.verify password user.password = true ∧ user.is_active = true
  | .project_get_last_agent_token projectid _ =>
      ProjectsMg.get_agent_project accounts.db projectid = .ok (some user)
  | .project_get_agent_token projectid agent _ =>
      ProjectsMg.get_agent accounts.db agent (some projectid) = .ok (some user)
  | _ => False

variable (accounts : Accounts) (requests : List (Request Token))

/-- Tokens that one of the requests was answered with. -/
def Answered (jwt : JWTResponse Token) : Prop :=
  ∃ front request back, requests = front ++ request :: back ∧
    (handle issuer (run (step issuer) accounts front) request).1 = some jwt

def Granted (user : UserModel) : Prop :=
  ∃ front request back, requests = front ++ request :: back ∧
    Grants issuer (run (step issuer) accounts front) user request

/-- Nobody signs for the server: a token that is presented for a refresh does not verify, or it was
handed out before. -/
def Unforged : Prop :=
  ∀ front token refresh_token moment back,
    requests = front ++ .refresh_token token refresh_token moment :: back →
      issuer.py.verify token = none ∨
        ∃ jwt, Answered issuer accounts front jwt ∧ jwt.access_token = token

/-- The claims that a server makes of a user, and of nobody else. -/
def Names (user : UserModel) (token : Token) : Prop :=
  ∃ exp, issuer.py.verify token = some (Auth._build_payload issuer.conf (UsersMg.claims user) exp)

variable {issuer accounts requests}

/-! One request. -/

theorem names_sign (user : UserModel) (exp : Int) :
    Names issuer user
      (issuer.py.sign (Auth._build_payload issuer.conf (UsersMg.claims user) exp)) :=
  ⟨exp, issuer.py.verify_sign _⟩

theorem authenticate_eq_ok {db : Database} {username password : String} {user : UserModel}
    (accepted : UsersMg.authenticate issuer db username password = .ok user) :
    user ∈ db.users.rows ∧ user.username = username ∧
      issuer.verify password user.password = true ∧ user.is_active = true := by
  unfold UsersMg.authenticate UsersMg.get_user_async at accepted
  simp only [truthy, Bool.false_eq_true, if_false, Projects.scalar_take_one, bind,
    Except.bind] at accepted
  cases found : (UsersMg.select_user db username).head? with
  | none => simp [found, throw, throwThe, MonadExceptOf.throw] at accepted
  | some other =>
      simp only [found] at accepted
      split at accepted
      · rename_i verified
        simp only [pure, Except.pure, Except.ok.injEq] at accepted
        subst accepted
        simp only [UsersMg.verify_password, Bool.and_eq_true] at verified
        have selected := List.mem_of_mem_head? found
        rw [UsersMg.select_user, List.mem_filter, beq_iff_eq] at selected
        exact ⟨selected.1, selected.2, verified⟩
      · simp [throw, throwThe, MonadExceptOf.throw] at accepted

theorem agent_answer {agt : Except Exn (Option UserModel)} {moment : Moment}
    {jwt : JWTResponse Token}
    (answer : (answered accounts (agentToken issuer accounts agt moment)).1 = some jwt) :
    ∃ user, agt = .ok (some user) ∧ Names issuer user jwt.access_token := by
  cases agt with
  | error failure => cases answer
  | ok found =>
      cases found with
      | none => cases answer
      | some user =>
          obtain rfl := Option.some.inj answer
          exact ⟨user, rfl, names_sign user _⟩

theorem verify_of_decode {token : Token} {claims : Claims} {now : Int}
    (decoded : (issuer.auth now).jwt.decode token = .ok claims) :
    issuer.py.verify token = some claims := by
  change Auth.decode issuer.py issuer.conf token now false = .ok claims at decoded
  unfold Auth.decode PyJwt.decode at decoded
  cases verified : issuer.py.verify token with
  | none =>
      rw [verified] at decoded
      cases decoded
  | some found =>
      simp only [verified] at decoded
      split at decoded
      · rw [Except.ok.inj decoded]
      · cases decoded

/-- A request answered with tokens grants them, or renews those that it presents. -/
theorem answer_cases {request : Request Token} {jwt : JWTResponse Token}
    (answer : (handle issuer accounts request).1 = some jwt) :
    (∃ user, Grants issuer accounts user request ∧ Names issuer user jwt.access_token) ∨
      ∃ token refresh_token moment claims, request = .refresh_token token refresh_token moment ∧
        issuer.py.verify token = some claims ∧
        jwt.access_token = (issuer.auth moment.now).encode claims moment.now := by
  have uncommitted : ∀ reply : Except Exn Database,
      (@committed Token accounts reply).1 ≠ some jwt := by
    intro reply same
    cases reply <;> cases same
  cases request with
  | login username password moment =>
      rw [handle, login_handler] at answer
      cases accepted : UsersMg.authenticate issuer accounts.db username password with
      | error failure =>
          rw [accepted] at answer
          cases answer
      | ok user =>
          rw [accepted] at answer
          obtain rfl := Option.some.inj answer
          exact .inl ⟨user, authenticate_eq_ok accepted, names_sign user _⟩
  | refresh_token token refresh_token moment =>
      rw [handle] at answer
      cases exchanged : (issuer.auth moment.now).refresh_token accounts.store token refresh_token
          moment.drawn moment.now with
      | error failure =>
          rw [exchanged] at answer
          cases answer
      | ok result =>
          obtain ⟨response, store⟩ := result
          rw [exchanged] at answer
          obtain rfl := Option.some.inj answer
          obtain ⟨claims, _, decoded, _, _, rfl, _⟩ := Auth.refresh_token_eq_ok.mp exchanged
          exact .inr ⟨token, refresh_token, moment, claims, rfl, verify_of_decode decoded, rfl⟩
  | project_get_last_agent_token projectid moment => exact .inl (agent_answer answer)
  | project_get_agent_token projectid agent moment => exact .inl (agent_answer answer)
  | disable_user username => exact absurd answer (uncommitted _)
  | disable_user_async username => exact absurd answer (uncommitted _)

/-- Renewed tokens name whom they named. -/
theorem names_renewed {user : UserModel} {token : Token} {claims : Claims}
    (names : Names issuer user token) (verified : issuer.py.verify token = some claims)
    (now : Int) : Names issuer user ((issuer.auth now).encode claims now) := by
  obtain ⟨exp, also⟩ := names
  obtain rfl := Option.some.inj (verified.symm.trans also)
  refine ⟨Auth.get_delta now issuer.conf.exp_min, ?_⟩
  refine (issuer.py.verify_sign _).trans (congrArg some ?_)
  exact Auth.build_payload_twice ..

theorem granted_append {user : UserModel} (granted : Granted issuer accounts requests user)
    (more : List (Request Token)) : Granted issuer accounts (requests ++ more) user := by
  obtain ⟨front, request, back, rfl, grants⟩ := granted
  exact ⟨front, request, back ++ more, by simp, grants⟩

/-- The run lemma, over the number of requests before the one that is answered. -/
theorem names_granted (unforged : Unforged issuer accounts requests) (count : Nat) :
    ∀ front request back jwt, front.length = count → requests = front ++ request :: back →
      (handle issuer (run (step issuer) accounts front) request).1 = some jwt →
        ∃ user, Granted issuer accounts (front ++ [request]) user ∧
          Names issuer user jwt.access_token := by
  induction count using Nat.strongRecOn with
  | ind count ih =>
      intro front request back jwt length split answer
      rcases answer_cases answer with ⟨user, grants, names⟩ |
        ⟨token, refresh_token, moment, claims, rfl, verified, renewed⟩
      · exact ⟨user, ⟨front, request, [], rfl, grants⟩, names⟩
      · rcases unforged front token refresh_token moment back split with forged | ⟨given, before, same⟩
        · cases forged.symm.trans verified
        · obtain ⟨first, origin, between, earlier, answered⟩ := before
          have shorter : first.length < count := by
            rw [← length, earlier, List.length_append, List.length_cons]
            omega
          have whole : requests = first ++ origin :: (between ++
              .refresh_token token refresh_token moment :: back) := by
            rw [split, earlier]
            simp
          obtain ⟨user, granted, names⟩ := ih first.length shorter first origin _ given rfl whole
            answered
          refine ⟨user, ?_, ?_⟩
          · have more := granted_append granted
              (between ++ [.refresh_token token refresh_token moment])
            rwa [earlier, List.append_assoc, List.cons_append, ← List.singleton_append,
              ← List.append_assoc]
          · rw [renewed]
            rw [same] at names
            exact names_renewed names verified moment.now

/-! Users keep their names and scopes. -/

def Renamed (before user : UserModel) : Prop :=
  before.username = user.username ∧ before.scopes = user.scopes

theorem rows_step (accounts : Accounts) (request : Request Token) {user : UserModel}
    (member : user ∈ (step issuer accounts request).db.users.rows) :
    ∃ before ∈ accounts.db.users.rows, Renamed before user := by
  rcases step_db issuer accounts request with same | ⟨username, same⟩
  · rw [same] at member
    exact ⟨user, member, rfl, rfl⟩
  · rw [same] at member
    obtain ⟨before, stored, rfl⟩ := List.mem_map.mp member
    refine ⟨before, stored, ?_⟩
    rw [UsersMg.deactivate]
    split <;> exact ⟨rfl, rfl⟩

theorem rows_run (accounts : Accounts) (requests : List (Request Token)) {user : UserModel}
    (member : user ∈ (run (step issuer) accounts requests).db.users.rows) :
    ∃ before ∈ accounts.db.users.rows, Renamed before user := by
  induction requests generalizing accounts with
  | nil => exact ⟨user, member, rfl, rfl⟩
  | cons request rest ih =>
      obtain ⟨middle, stored, names, scopes⟩ := ih (step issuer accounts request) member
      obtain ⟨before, first, earlier, also⟩ := rows_step accounts request stored
      exact ⟨before, first, earlier.trans names, also.trans scopes⟩

theorem stored_of_grants {request : Request Token} {user : UserModel}
    (grants : Grants issuer accounts user request) : user ∈ accounts.db.users.rows := by
  cases request with
  | login username password moment => exact grants.1
  | project_get_last_agent_token projectid moment => exact get_agent_project_mem grants
  | project_get_agent_token projectid agent moment => exact get_agent_mem grants
  | _ => exact grants.elim

variable (issuer accounts requests) in
/-- Behind every access token that a server answers with stands a login with the user's password, or
a request for the token of the agent it was made for, and it carries just the name and the scopes
that this user has always had: no number of refreshes widens them. -/
theorem issued_as_granted (unforged : Unforged issuer accounts requests)
    (front back : List (Request Token)) (request : Request Token) (jwt : JWTResponse Token)
    (split : requests = front ++ request :: back)
    (answer : (handle issuer (run (step issuer) accounts front) request).1 = some jwt) :
    ∃ user, Granted issuer accounts (front ++ [request]) user ∧
      Names issuer user jwt.access_token ∧
      ∃ stored ∈ accounts.db.users.rows, stored.username = user.username ∧
        stored.scopes = user.scopes := by
  obtain ⟨user, granted, names⟩ :=
    names_granted unforged front.length front request back jwt rfl split answer
  have ⟨first, origin, later, _, grants⟩ := granted
  obtain ⟨stored, member, same⟩ := rows_run accounts first (stored_of_grants grants)
  exact ⟨user, granted, names, stored, member, same⟩

/-- The user of the sample is disabled between the login and the refresh. -/
theorem sample_unforged : Unforged Sample.issuer Sample.accounts Sample.requests := by
  rintro front token refresh_token moment back split
  refine .inr ⟨⟨token, some "first"⟩, ?_, rfl⟩
  match front, split with
  | [], split => cases split
  | [_], split => cases split
  | [_, _], split =>
      cases split
      exact ⟨[], _, [.disable_user "ada"], rfl, rfl⟩
  | _ :: _ :: _ :: rest, split =>
      have lengths := congrArg List.length split
      simp [Sample.requests] at lengths

theorem refreshed_for_ada :
    ∃ user, Granted Sample.issuer Sample.accounts Sample.requests user ∧
      user.username = "ada" := by
  obtain ⟨user, granted, _, stored, member, same, _⟩ :=
    issued_as_granted Sample.issuer Sample.accounts Sample.requests sample_unforged
      [.login "ada" "secret" ⟨"first", 0⟩, .disable_user "ada"] [] _ _ rfl rfl
  obtain rfl := List.mem_singleton.mp member
  exact ⟨user, granted, same.symm⟩

end LabFunctions.TokenProvenance
