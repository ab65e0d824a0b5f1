import Mathlib.Data.Finset.Card
import LabFunctions.RefreshFlow
import LabFunctions.TokenProvenance

/-!
`client.base` and `client.diskclient`: the credentials of client processes that share a home
directory, and the server that hands them out.
-/

namespace LabFunctions.ClientSessions

open Runs

variable {Token : Type}

structure TokenCreds (Token : Type) where
  access_token : Token
  refresh_token : Option String := none

/-- `AuthFlow` objects change in place, and the http client keeps the one it was made with: both
fields that hold one are places in `flows`. -/
structure Client (Token : Type) where
  flows : List (AuthFlow Token) := []
  _creds : Option (TokenCreds Token) := none
  _auth : Option Nat := none
  _http : Option Nat := none

namespace Client

variable (client : Client Token)

def flow (place : Option Nat) : Option (AuthFlow Token) :=
  place.bind fun index => client.flows[index]?

def _auth_init (creds : TokenCreds Token) : Client Token :=
  { client with
    flows := client.flows ++ [⟨creds.access_token, creds.refresh_token⟩]
    _auth := some client.flows.length }

def _http_init : Client Token :=
  let client := match client._creds with
    | some creds => client._auth_init creds
    | none => client
  { client with _http := client._auth }

/-- `BaseClient(url_service, creds)` -/
def init (creds : Option (TokenCreds Token)) : Client Token := _http_init { _creds := creds }

def creds : Except Exn (TokenCreds Token) :=
  match client.flow client._auth with
  | some flow => .ok ⟨flow.access_token, flow.refresh_token⟩
  | none => .error .attributeError

def set_creds (creds : Option (TokenCreds Token)) : Client Token :=
  _http_init { client with _creds := creds }

/-- `env` is what the two variables hold, if neither is empty. -/
def load_creds (env disk : Option (TokenCreds Token)) : Client Token :=
  let client := match env with
    | some creds => client.set_creds (some creds)
    | none => client
  client.set_creds disk

/-- What the next request is sent with. -/
def sent : Option (AuthFlow Token) := client.flow client._http

end Client

/-! Requests of a client. -/

/-- The statuses of the first answer to a request and of the one after a refresh, and what the
server draws for that. -/
structure Answers where
  first : Nat
  again : Nat
  moment : Moment

section

variable (issuer : Issuer Token) (accounts : Accounts) (client : Client Token)

/-- Without a refresh token in the request the server answers 401. -/
def refresh (flow : AuthFlow Token) (moment : Moment) : Option (JWTResponse Token) × Accounts :=
  if truthy flow.refresh_token then
    DisabledUsers.handle issuer accounts
      (.refresh_token flow.access_token (pyOr flow.refresh_token "") moment)
  else (none, accounts)

structure Exchange (Token : Type) where
  accounts : Accounts
  client : Client Token
  status : Except Exn Nat
  refreshed : Bool

/-- One request through the http client, with what `auth_flow` adds to it. -/
def exchange (answers : Answers) : Exchange Token :=
  let plain : Exchange Token := ⟨accounts, client, .ok answers.first, false⟩
  match client._http, client.sent with
  | some place, some flow =>
      if answers.first = 401 then
        match refresh issuer accounts flow answers.moment with
        | (some data, accounts) =>
            let flow := flow.update_tokens ⟨200, some data⟩
            let client := { client with flows := client.flows.set place flow }
            ⟨accounts, client, .ok answers.again, true⟩
        | (none, accounts) => ⟨accounts, client, .error .authValidationFailed, false⟩
      else plain
  | _, _ => plain

/-- Whether `verify` comes back true, and what it leaves. -/
def verify (answers : Answers) : Bool × Exchange Token :=
  let rsp := exchange issuer accounts client answers
  match rsp.status with
  | .ok status => (status = 200, rsp)
  | .error _ => (false, { rsp with client := { rsp.client with _creds := none, _auth := none } })

def login (u p : String) (moment : Moment) :
    Except Exn (JWTResponse Token) × Accounts × Client Token :=
  match DisabledUsers.handle issuer accounts (.login u p moment) with
  | (some jwt, accounts) =>
      (.ok jwt, accounts, client.set_creds (some ⟨jwt.access_token, jwt.refresh_token⟩))
  | (none, accounts) => (.error (.otherError "LoginError"), accounts, client)

end

/-! The processes of one home directory. -/

/-- What the server handed out by a login or to an agent, and how often a client refreshed. -/
structure Log (Token : Type) where
  issued : List (JWTResponse Token) := []
  refreshes : Nat := 0

structure World (ι Token : Type) where
  accounts : Accounts
  disk : Option (TokenCreds Token) := none
  clients : ι → Client Token
  log : Log Token := {}

/-- A process starts as `from_file` and `from_env` start it or with credentials as `agent` has them,
and goes on; the server is asked by others too. A process for which the file is not readable finds
no credentials there. -/
inductive Turn (ι Token : Type) where
  | start (party : ι) (env : Option (TokenCreds Token)) (readable : Bool)
  | agent (party : ι) (creds : TokenCreds Token)
  | request (party : ι) (answers : Answers)
  | verify (party : ι) (answers : Answers)
  | login (party : ι) (u p : String) (moment : Moment)
  | logincli (party : ι) (answers : Answers) (u p : String) (moment : Moment)
  | server (request : DisabledUsers.Request Token)

def grants : DisabledUsers.Request Token → Bool
  | .refresh_token _ _ _ => false
  | _ => true

section

variable {ι : Type} [DecidableEq ι] (issuer : Issuer Token) (world : World ι Token)

def placed (party : ι) (client : Client Token) : World ι Token :=
  { world with clients := Function.update world.clients party client }

def counted (party : ι) (rsp : Exchange Token) : World ι Token :=
  { placed world party rsp.client with
    accounts := rsp.accounts
    log := { world.log with refreshes := world.log.refreshes + rsp.refreshed.toNat } }

/-- `DiskClient.login`: what is stored are the tokens of the getter. -/
def loggedIn (party : ι) (client : Client Token) (u p : String) (moment : Moment) :
    World ι Token :=
  match login issuer world.accounts client u p moment with
  | (.ok jwt, accounts, client) =>
      { placed world party client with
        accounts := accounts
        disk := client.creds.toOption
        log := { world.log with issued := jwt :: world.log.issued } }
  | (.error _, accounts, client) => { placed world party client with accounts := accounts }

def stepLogincli (party : ι) (answers : Answers) (u p : String) (moment : Moment) :
    World ι Token :=
  match world.disk with
  | some creds =>
      let client := (world.clients party).set_creds (some creds)
      let (rsp, exchanged) := verify issuer world.accounts client answers
      let world := counted world party exchanged
      if rsp then world else loggedIn issuer world party (exchanged.client.set_creds none) u p moment
  | none => loggedIn issuer world party ((world.clients party).set_creds none) u p moment

def step : Turn ι Token → World ι Token
  | .start party env readable =>
      let disk := if readable then world.disk else none
      placed world party ((Client.init none).load_creds env disk)
  | .agent party creds => placed world party (Client.init (some creds))
  | .request party answers =>
      counted world party (exchange issuer world.accounts (world.clients party) answers)
  | .verify party answers =>
      counted world party (verify issuer world.accounts (world.clients party) answers).2
  | .login party u p moment => loggedIn issuer world party (world.clients party) u p moment
  | .logincli party answers u p moment => stepLogincli issuer world party answers u p moment
  | .server request =>
      let (response, accounts) := DisabledUsers.handle issuer world.accounts request
      let handed := if grants request then response.toList else []
      { world with
        accounts := accounts
        log := { world.log with issued := handed ++ world.log.issued } }

end

/-! Who a token is for. -/

variable {issuer : Issuer Token}

variable (issuer) in
def owner (token : Token) : Option String :=
  (issuer.py.verify token).bind fun claims => (Auth.decodedUsr claims).toOption

variable (issuer) in
/-- A refresh token as the store keeps it, with its user. -/
def pair (jwt : JWTResponse Token) : Option (String × String) :=
  match owner issuer jwt.access_token, jwt.refresh_token with
  | some usr, some refresh_token => some (usr, refresh_token)
  | _, _ => none

theorem owner_sign {payload : Claims} {usr : String} (exp : Int)
    (named : Auth.decodedUsr payload = .ok usr) :
    owner issuer (issuer.py.sign (Auth._build_payload issuer.conf payload exp)) = some usr := by
  have lookup : (Auth._build_payload issuer.conf payload exp).lookup "usr" = some (.str usr) := by
    rw [Auth.lookup_build_payload _ _ _ (by decide) (by decide) (by decide)]
    exact Auth.lookup_of_decodedUsr named
  rw [owner, issuer.py.verify_sign, Option.bind_some, Auth.decodedUsr, lookup]
  rfl

theorem owner_of_decode {token : Token} {claims : Claims} {usr : String} {now : Int}
    (decoded : (issuer.auth now).jwt.decode token = .ok claims)
    (named : Auth.decodedUsr claims = .ok usr) : owner issuer token = some usr := by
  rw [owner, TokenProvenance.verify_of_decode decoded, Option.bind_some, named]
  rfl

/-- What a refresh that succeeds finds and leaves. -/
theorem handle_refresh {accounts later : Accounts} {token : Token} {refresh_token : String}
    {moment : Moment} {jwt : JWTResponse Token}
    (answer : DisabledUsers.handle issuer accounts (.refresh_token token refresh_token moment) =
      (some jwt, later)) :
    ∃ usr ttl, owner issuer token = some usr ∧
      accounts.store.get (usr ++ "." ++ refresh_token) = some usr ∧
      owner issuer jwt.access_token = some usr ∧
      later.store = (accounts.store.delete (usr ++ "." ++ refresh_token)).put
        (usr ++ "." ++ moment.drawn) usr ttl := by
  rw [DisabledUsers.handle] at answer
  cases exchanged : (issuer.auth moment.now).refresh_token accounts.store token refresh_token
      moment.drawn moment.now with
  | error failure =>
      rw [exchanged] at answer
      cases answer
  | ok result =>
      obtain ⟨response, store⟩ := result
      rw [exchanged] at answer
      obtain ⟨claims, usr, decoded, named, kept, rfl, rfl⟩ := Auth.refresh_token_eq_ok.mp exchanged
      simp only [DisabledUsers.answered, Prod.mk.injEq, Option.some.injEq] at answer
      obtain ⟨rfl, rfl⟩ := answer
      exact ⟨usr, issuer.conf.ttl_refresh_token, owner_of_decode decoded named, kept,
        owner_sign _ named, rfl⟩

theorem handle_none {accounts later : Accounts} {request : DisabledUsers.Request Token}
    (answer : DisabledUsers.handle issuer accounts request = (none, later)) :
    later.store = accounts.store := by
  have unanswered : ∀ reply : Except Exn (JWTResponse Token × TokenStore),
      DisabledUsers.answered accounts reply = (none, later) → later.store = accounts.store := by
    intro reply same
    cases reply with
    | error failure => exact congrArg (fun result => result.2.store) same.symm
    | ok result => cases (Prod.ext_iff.mp same).1
  have kept : ∀ reply : Except Exn Database,
      @DisabledUsers.committed Token accounts reply = (none, later) →
        later.store = accounts.store := by
    intro reply same
    cases reply <;> exact congrArg (fun result => result.2.store) same.symm
  cases request with
  | disable_user username => exact kept _ answer
  | disable_user_async username => exact kept _ answer
  | _ => exact unanswered _ answer

theorem handed (accounts : Accounts) (user : UserModel) (exp ttl : Int) (drawn : String)
    {later : Accounts} {jwt : JWTResponse Token}
    (answer : DisabledUsers.answered accounts (.ok
      (⟨issuer.py.sign (Auth._build_payload issuer.conf (UsersMg.claims user) exp), some drawn⟩,
        accounts.store.put (user.username ++ "." ++ drawn) user.username ttl)) =
      (some jwt, later)) :
    pair issuer jwt = some (user.username, drawn) ∧
      later.store = accounts.store.put (user.username ++ "." ++ drawn) user.username ttl := by
  simp only [DisabledUsers.answered, Prod.mk.injEq, Option.some.injEq] at answer
  obtain ⟨rfl, rfl⟩ := answer
  have named : Auth.decodedUsr (UsersMg.claims user) = .ok user.username := rfl
  rw [pair, owner_sign exp named]
  exact ⟨rfl, rfl⟩

theorem handed_agent {accounts later : Accounts} {agt : Except Exn (Option UserModel)}
    {moment : Moment} {jwt : JWTResponse Token}
    (answer : DisabledUsers.answered accounts
      (DisabledUsers.agentToken issuer accounts agt moment) = (some jwt, later)) :
    ∃ usr drawn ttl, pair issuer jwt = some (usr, drawn) ∧
      later.store = accounts.store.put (usr ++ "." ++ drawn) usr ttl := by
  cases agt with
  | error failure => cases answer
  | ok found =>
      cases found with
      | none => cases answer
      | some user => exact ⟨user.username, moment.drawn, _, handed accounts user _ _ _ answer⟩

/-- What a login or an agent's endpoint hands out. -/
theorem handle_grant {accounts later : Accounts} {request : DisabledUsers.Request Token}
    {jwt : JWTResponse Token} (granting : grants request = true)
    (answer : DisabledUsers.handle issuer accounts request = (some jwt, later)) :
    ∃ usr drawn ttl, pair issuer jwt = some (usr, drawn) ∧
      later.store = accounts.store.put (usr ++ "." ++ drawn) usr ttl := by
  have uncommitted : ∀ reply : Except Exn Database,
      @DisabledUsers.committed Token accounts reply ≠ (some jwt, later) := by
    intro reply same
    cases reply <;> cases (Prod.ext_iff.mp same).1
  cases request with
  | login username password moment =>
      rw [DisabledUsers.handle, DisabledUsers.login_handler] at answer
      cases accepted : UsersMg.authenticate issuer accounts.db username password with
      | error failure =>
          rw [accepted] at answer
          cases answer
      | ok user =>
          rw [accepted] at answer
          exact ⟨user.username, moment.drawn, _, handed accounts user _ _ _ answer⟩
  | refresh_token access_token refresh_token moment => cases granting
  | project_get_last_agent_token projectid moment => exact handed_agent answer
  | project_get_agent_token projectid agent moment => exact handed_agent answer
  | disable_user username => exact absurd answer (uncommitted _)
  | disable_user_async username => exact absurd answer (uncommitted _)

/-! The tokens handed out that the store still accepts. -/

variable (issuer) in
def pairs (issued : List (JWTResponse Token)) : List (String × String) :=
  issued.filterMap (pair issuer)

def Kept (store : TokenStore) (entry : String × String) : Prop :=
  store.get (entry.1 ++ "." ++ entry.2) = some entry.1

instance (store : TokenStore) : DecidablePred (Kept store) :=
  fun entry => inferInstanceAs (Decidable (store.get (entry.1 ++ "." ++ entry.2) = some entry.1))

variable (issuer) in
def accepted (store : TokenStore) (issued : List (JWTResponse Token)) : Finset (String × String) :=
  (pairs issuer issued).toFinset.filter (Kept store)

theorem mem_accepted {store : TokenStore} {issued : List (JWTResponse Token)}
    {entry : String × String} :
    entry ∈ accepted issuer store issued ↔ entry ∈ pairs issuer issued ∧ Kept store entry := by
  rw [accepted, Finset.mem_filter, List.mem_toFinset]

theorem kept_put {store : TokenStore} {usr drawn : String} {ttl : Int} {entry : String × String}
    (kept : Kept (store.put (usr ++ "." ++ drawn) usr ttl) entry) :
    entry = (usr, drawn) ∨ Kept store entry ∧ entry.1 ++ "." ++ entry.2 ≠ usr ++ "." ++ drawn := by
  rw [Kept, TokenStore.get_put] at kept
  split at kept
  · rename_i same
    have first : usr = entry.1 := Option.some.inj kept
    rw [← first] at same
    exact .inl (Prod.ext first.symm (RefreshFlow.key_inj same))
  · rename_i different
    exact .inr ⟨kept, different⟩

/-- One more pair of tokens is handed out. -/
theorem card_accepted_grant (store : TokenStore) {issued : List (JWTResponse Token)}
    {jwt : JWTResponse Token} {usr drawn : String} (ttl : Int)
    (handed : pair issuer jwt = some (usr, drawn)) :
    (accepted issuer (store.put (usr ++ "." ++ drawn) usr ttl) (jwt :: issued)).card ≤
      (accepted issuer store issued).card + 1 := by
  have within : accepted issuer (store.put (usr ++ "." ++ drawn) usr ttl) (jwt :: issued) ⊆
      insert (usr, drawn) (accepted issuer store issued) := by
    intro entry member
    obtain ⟨listed, kept⟩ := mem_accepted.mp member
    rw [Finset.mem_insert]
    rcases kept_put kept with same | ⟨before, _⟩
    · exact .inl same
    · rw [pairs, List.filterMap_cons_some handed, List.mem_cons] at listed
      exact listed.imp id fun earlier => mem_accepted.mpr ⟨earlier, before⟩
  exact (Finset.card_le_card within).trans (Finset.card_insert_le _ _)

/-- A refresh with a token that was handed out uses it up, and draws none that was. -/
theorem accepted_refresh (store : TokenStore) {issued : List (JWTResponse Token)}
    (refresh_token : String) {usr drawn : String} (ttl : Int) (fresh : (usr, drawn) ∉ pairs issuer issued) :
    accepted issuer ((store.delete (usr ++ "." ++ refresh_token)).put (usr ++ "." ++ drawn) usr ttl)
        issued ⊆ (accepted issuer store issued).erase (usr, refresh_token) := by
  intro entry member
  obtain ⟨listed, kept⟩ := mem_accepted.mp member
  rcases kept_put kept with rfl | ⟨before, _⟩
  · exact absurd listed fresh
  · rw [Kept, TokenStore.get_delete] at before
    split at before
    · cases before
    · rename_i different
      refine Finset.mem_erase.mpr ⟨?_, mem_accepted.mpr ⟨listed, before⟩⟩
      rintro rfl
      exact different rfl

/-! The credentials of every process come from the server. -/

variable (issuer) in
def Rooted (issued : List (JWTResponse Token)) (flow : AuthFlow Token) : Prop :=
  ∃ usr refresh_token, owner issuer flow.access_token = some usr ∧
    flow.refresh_token = some refresh_token ∧ (usr, refresh_token) ∈ pairs issuer issued

def TokenCreds.flow (creds : TokenCreds Token) : AuthFlow Token :=
  ⟨creds.access_token, creds.refresh_token⟩

theorem rooted_mono {issued : List (JWTResponse Token)} (handed : List (JWTResponse Token))
    {flow : AuthFlow Token} (rooted : Rooted issuer issued flow) :
    Rooted issuer (handed ++ issued) flow := by
  obtain ⟨usr, refresh_token, owned, carried, listed⟩ := rooted
  refine ⟨usr, refresh_token, owned, carried, ?_⟩
  rw [pairs, List.filterMap_append]
  exact List.mem_append_right _ listed

theorem rooted_of_pair {issued : List (JWTResponse Token)} {jwt : JWTResponse Token}
    {entry : String × String} (handed : pair issuer jwt = some entry) (member : jwt ∈ issued) :
    Rooted issuer issued ⟨jwt.access_token, jwt.refresh_token⟩ := by
  have listed : entry ∈ pairs issuer issued := List.mem_filterMap.mpr ⟨jwt, member, handed⟩
  rw [pair] at handed
  split at handed
  · rename_i usr refresh_token owned carried
    obtain rfl := Option.some.inj handed
    exact ⟨usr, refresh_token, owned, carried, listed⟩
  · cases handed

namespace Client

def All (holds : AuthFlow Token → Prop) (client : Client Token) : Prop :=
  ∀ flow ∈ client.flows, holds flow

variable {holds : AuthFlow Token → Prop} {client : Client Token}

theorem all_set_creds {creds : Option (TokenCreds Token)} (all : client.All holds)
    (given : ∀ some_creds, creds = some some_creds → holds some_creds.flow) :
    (client.set_creds creds).All holds := by
  intro flow member
  cases creds with
  | none => exact all flow member
  | some creds =>
      rcases List.mem_append.mp member with before | last
      · exact all flow before
      · rw [List.mem_singleton.mp last]
        exact given creds rfl

theorem all_set_none (all : client.All holds) : (client.set_creds none).All holds := all

theorem all_init {creds : Option (TokenCreds Token)}
    (given : ∀ some_creds, creds = some some_creds → holds some_creds.flow) :
    (init creds).All holds := by
  have empty : All holds ({} : Client Token) := fun _ member => nomatch member
  exact all_set_creds empty given

theorem all_load_creds {env disk : Option (TokenCreds Token)} (all : client.All holds)
    (env_given : ∀ creds, env = some creds → holds creds.flow)
    (disk_given : ∀ creds, disk = some creds → holds creds.flow) :
    (client.load_creds env disk).All holds := by
  cases env with
  | none => exact all_set_creds all disk_given
  | some creds => exact all_set_creds (all_set_creds all env_given) disk_given

theorem all_sent (all : client.All holds) {flow : AuthFlow Token}
    (sends : client.sent = some flow) : holds flow := by
  obtain ⟨place, _, found⟩ := Option.bind_eq_some_iff.mp sends
  exact all flow (List.mem_of_getElem? found)

theorem all_changed (all : client.All holds) (place : Nat) {flow : AuthFlow Token}
    (changed : holds flow) : ({ client with flows := client.flows.set place flow }).All holds := by
  intro other member
  rcases List.mem_or_eq_of_mem_set member with before | rfl
  · exact all other before
  · exact changed

end Client

/-! What one request does. -/

variable (issuer) in
theorem handle_grant_or_none (accounts : Accounts) {request : DisabledUsers.Request Token}
    (granting : grants request = true) :
    ((DisabledUsers.handle issuer accounts request).1 = none ∧
      (DisabledUsers.handle issuer accounts request).2.store = accounts.store) ∨
    ∃ jwt usr drawn ttl, (DisabledUsers.handle issuer accounts request).1 = some jwt ∧
      pair issuer jwt = some (usr, drawn) ∧
      (DisabledUsers.handle issuer accounts request).2.store =
        accounts.store.put (usr ++ "." ++ drawn) usr ttl := by
  rcases answer : DisabledUsers.handle issuer accounts request with ⟨_ | jwt, later⟩
  · exact .inl ⟨rfl, handle_none answer⟩
  · obtain ⟨usr, drawn, ttl, handed, store⟩ := handle_grant granting answer
    exact .inr ⟨jwt, usr, drawn, ttl, rfl, handed, store⟩

variable (issuer) in
/-- A request through the http client changes nothing, or it refreshes the flow it is sent with. -/
theorem exchange_cases (accounts : Accounts) (client : Client Token) (answers : Answers) :
    let rsp := exchange issuer accounts client answers
    (rsp.refreshed = false ∧ rsp.client = client ∧ rsp.accounts.store = accounts.store) ∨
      rsp.refreshed = true ∧ ∃ place flow jwt usr refresh_token ttl,
        client._http = some place ∧ client.sent = some flow ∧
        flow.refresh_token = some refresh_token ∧ owner issuer flow.access_token = some usr ∧
        owner issuer jwt = some usr ∧
        rsp.client = { client with
          flows := client.flows.set place { flow with access_token := jwt } } ∧
        accounts.store.get (usr ++ "." ++ refresh_token) = some usr ∧
        rsp.accounts.store = (accounts.store.delete (usr ++ "." ++ refresh_token)).put
          (usr ++ "." ++ answers.moment.drawn) usr ttl := by
  dsimp only
  cases place_eq : client._http with
  | none =>
      rw [exchange, place_eq]
      exact .inl ⟨rfl, rfl, rfl⟩
  | some place =>
      cases sends : client.sent with
      | none =>
          rw [exchange, place_eq, sends]
          exact .inl ⟨rfl, rfl, rfl⟩
      | some flow =>
          rw [exchange, place_eq, sends]
          dsimp only
          by_cases refused : answers.first = 401
          · rw [if_pos refused]
            rcases answer : refresh issuer accounts flow answers.moment with ⟨_ | jwt, later⟩
            · refine .inl ⟨rfl, rfl, ?_⟩
              rw [refresh] at answer
              split at answer
              · exact handle_none answer
              · obtain rfl := (Prod.ext_iff.mp answer).2
                rfl
            · rw [refresh] at answer
              split at answer
              · rename_i given
                obtain ⟨refresh_token, carried, nonempty⟩ := truthy_iff.mp given
                rw [carried, pyOr_of_ne_empty nonempty] at answer
                obtain ⟨usr, ttl, owned, kept, renewed, store⟩ := handle_refresh answer
                exact .inr ⟨rfl, place, flow, jwt.access_token, usr, refresh_token, ttl, rfl, rfl,
                  carried, owned, renewed, rfl, kept, store⟩
              · cases (Prod.ext_iff.mp answer).1
          · rw [if_neg refused]
            exact .inl ⟨rfl, rfl, rfl⟩

section

variable {ι : Type}

variable (issuer) in
structure Sound (world : World ι Token) : Prop where
  owned : ∀ jwt ∈ world.log.issued, ∃ entry, pair issuer jwt = some entry
  clients : ∀ party, (world.clients party).All (Rooted issuer world.log.issued)
  disk : ∀ creds, world.disk = some creds → Rooted issuer world.log.issued creds.flow
  bound : world.log.refreshes + (accepted issuer world.accounts.store world.log.issued).card ≤
    world.log.issued.length

/-- Nobody draws a refresh token that was handed out. -/
def New (world : World ι Token) (drawn : String) : Prop :=
  ∀ jwt ∈ world.log.issued, jwt.refresh_token ≠ some drawn

def Handed (world : World ι Token) (creds : TokenCreds Token) : Prop :=
  ∃ jwt ∈ world.log.issued, creds = ⟨jwt.access_token, jwt.refresh_token⟩

/-- Credentials come from the server, and a refresh draws a token of its own. -/
def Admitted (world : World ι Token) : Turn ι Token → Prop
  | .start _ env _ => ∀ creds, env = some creds → Handed world creds
  | .agent _ creds => Handed world creds
  | .request _ answers | .verify _ answers => New world answers.moment.drawn
  | .logincli _ answers _ _ _ => New world answers.moment.drawn
  | .server (.refresh_token _ _ moment) => New world moment.drawn
  | _ => True

variable {world : World ι Token}

variable (issuer) in
theorem fresh_of_new {drawn : String} (new : New world drawn) (usr : String) :
    (usr, drawn) ∉ pairs issuer world.log.issued := by
  intro listed
  obtain ⟨jwt, member, handed⟩ := List.mem_filterMap.mp listed
  rw [pair] at handed
  split at handed
  · rename_i other carried
    refine new jwt member ?_
    rw [carried]
    exact congrArg _ (Prod.ext_iff.mp (Option.some.inj handed)).2
  · cases handed

theorem rooted_of_handed (sound : Sound issuer world) {creds : TokenCreds Token}
    (handed : Handed world creds) : Rooted issuer world.log.issued creds.flow := by
  obtain ⟨jwt, member, rfl⟩ := handed
  obtain ⟨entry, paired⟩ := sound.owned jwt member
  exact rooted_of_pair paired member

variable [DecidableEq ι]

theorem placed_clients (party other : ι) (client : Client Token) :
    (placed world party client).clients other =
      if other = party then client else world.clients other :=
  Function.update_apply ..

theorem all_placed (sound : Sound issuer world) (party : ι) {client : Client Token}
    (rooted : client.All (Rooted issuer world.log.issued)) (other : ι) :
    ((placed world party client).clients other).All (Rooted issuer world.log.issued) := by
  rw [placed_clients]
  split
  · exact rooted
  · exact sound.clients other

theorem sound_placed (sound : Sound issuer world) (party : ι) {client : Client Token}
    (rooted : client.All (Rooted issuer world.log.issued)) :
    Sound issuer (placed world party client) :=
  ⟨sound.owned, all_placed sound party rooted, sound.disk, sound.bound⟩

omit [DecidableEq ι] in
theorem exchange_sound (sound : Sound issuer world) {client : Client Token}
    (rooted : client.All (Rooted issuer world.log.issued)) {answers : Answers}
    (new : New world answers.moment.drawn) :
    let rsp := exchange issuer world.accounts client answers
    rsp.client.All (Rooted issuer world.log.issued) ∧
      world.log.refreshes + rsp.refreshed.toNat +
          (accepted issuer rsp.accounts.store world.log.issued).card ≤ world.log.issued.length := by
  dsimp only
  rcases exchange_cases issuer world.accounts client answers with
    ⟨idle, same, store⟩ |
    ⟨refreshed, place, flow, jwt, usr, refresh_token, ttl, _, sends, carried, owned, renewed,
      changed, kept, store⟩
  · rw [same, idle, store]
    exact ⟨rooted, sound.bound⟩
  · obtain ⟨other, given, also, same, listed⟩ := Client.all_sent rooted sends
    obtain rfl : usr = other := Option.some.inj (owned.symm.trans also)
    obtain rfl : refresh_token = given := Option.some.inj (carried.symm.trans same)
    rw [changed, refreshed, store]
    refine ⟨Client.all_changed rooted place ⟨usr, refresh_token, renewed, carried, listed⟩, ?_⟩
    have spent := Finset.card_le_card (accepted_refresh world.accounts.store refresh_token ttl
      (fresh_of_new issuer new usr))
    have member : (usr, refresh_token) ∈ accepted issuer world.accounts.store world.log.issued :=
      mem_accepted.mpr ⟨listed, kept⟩
    rw [Finset.card_erase_of_mem member] at spent
    have some := Finset.card_pos.mpr ⟨_, member⟩
    have bound := sound.bound
    simp only [Bool.toNat_true]
    omega

theorem sound_counted (sound : Sound issuer world) (party : ι) {rsp : Exchange Token}
    (rooted : rsp.client.All (Rooted issuer world.log.issued))
    (bound : world.log.refreshes + rsp.refreshed.toNat +
      (accepted issuer rsp.accounts.store world.log.issued).card ≤ world.log.issued.length) :
    Sound issuer (counted world party rsp) :=
  ⟨sound.owned, all_placed sound party rooted, sound.disk, bound⟩

theorem verify_sound (sound : Sound issuer world) {client : Client Token}
    (rooted : client.All (Rooted issuer world.log.issued)) {answers : Answers}
    (new : New world answers.moment.drawn) (party : ι) :
    Sound issuer (counted world party (verify issuer world.accounts client answers).2) ∧
      (verify issuer world.accounts client answers).2.client.All
        (Rooted issuer world.log.issued) := by
  obtain ⟨all, bound⟩ := exchange_sound sound rooted new
  rw [verify]
  dsimp only
  split
  · exact ⟨sound_counted sound party all bound, all⟩
  · exact ⟨sound_counted sound party all bound, all⟩

theorem creds_set_creds (client : Client Token) (creds : TokenCreds Token) :
    (client.set_creds (some creds)).creds = .ok creds := by
  have last : (client.set_creds (some creds)).flow (client.set_creds (some creds))._auth =
      some creds.flow := List.getElem?_concat_length ..
  rw [Client.creds, last]
  rfl

theorem sound_loggedIn (sound : Sound issuer world) (party : ι) {client : Client Token}
    (rooted : client.All (Rooted issuer world.log.issued)) (u p : String) (moment : Moment) :
    Sound issuer (loggedIn issuer world party client u p moment) := by
  rw [loggedIn, login]
  rcases answer : DisabledUsers.handle issuer world.accounts (.login u p moment) with
    ⟨_ | jwt, later⟩
  · refine ⟨sound.owned, all_placed sound party rooted, sound.disk, ?_⟩
    dsimp only
    rw [handle_none answer]
    exact sound.bound
  · obtain ⟨usr, drawn, ttl, handed, store⟩ := handle_grant rfl answer
    have earlier : ∀ flow, Rooted issuer world.log.issued flow →
        Rooted issuer (jwt :: world.log.issued) flow :=
      fun flow before => rooted_mono [jwt] before
    have first : Rooted issuer (jwt :: world.log.issued) ⟨jwt.access_token, jwt.refresh_token⟩ :=
      rooted_of_pair handed (List.mem_cons_self ..)
    refine ⟨?_, ?_, ?_, ?_⟩
    · rintro other member
      rcases List.mem_cons.mp member with rfl | before
      · exact ⟨_, handed⟩
      · exact sound.owned other before
    · intro other
      dsimp only
      rw [placed_clients]
      split
      · refine Client.all_set_creds (fun flow member => earlier flow (rooted flow member)) ?_
        intro creds same
        obtain rfl := Option.some.inj same
        exact first
      · exact fun flow member => earlier flow (sound.clients other flow member)
    · dsimp only
      rw [creds_set_creds]
      intro creds same
      obtain rfl := Option.some.inj same
      exact first
    · have more : (accepted issuer _ (jwt :: world.log.issued)).card ≤
        (accepted issuer world.accounts.store world.log.issued).card + 1 :=
        card_accepted_grant world.accounts.store ttl handed
      have bound := sound.bound
      dsimp only
      rw [store, List.length_cons]
      omega

theorem sound_server (sound : Sound issuer world) (request : DisabledUsers.Request Token)
    (admitted : Admitted world (.server request)) :
    Sound issuer (step issuer world (.server request)) := by
  cases granting : grants request with
  | false =>
      cases request with
      | refresh_token access_token refresh_token moment =>
          refine ⟨sound.owned, sound.clients, sound.disk, ?_⟩
          change _ + (accepted issuer (DisabledUsers.handle issuer world.accounts
            (.refresh_token access_token refresh_token moment)).2.store world.log.issued).card ≤ _
          rcases answer : DisabledUsers.handle issuer world.accounts
            (.refresh_token access_token refresh_token moment) with ⟨_ | jwt, later⟩
          · rw [handle_none answer]
            exact sound.bound
          · obtain ⟨usr, ttl, _, _, _, store⟩ := handle_refresh answer
            have fewer := Finset.card_le_card ((accepted_refresh world.accounts.store refresh_token
              ttl (fresh_of_new issuer admitted usr)).trans (Finset.erase_subset ..))
            rw [← store] at fewer
            exact (Nat.add_le_add_left fewer _).trans sound.bound
      | _ => cases granting
  | true =>
      have stays : (step issuer world (.server request)).log.issued =
          (DisabledUsers.handle issuer world.accounts request).1.toList ++ world.log.issued := by
        rw [step]
        dsimp only
        rw [if_pos granting]
      rcases handle_grant_or_none issuer world.accounts granting with
        ⟨none, store⟩ | ⟨jwt, usr, drawn, ttl, given, handed, store⟩
      · rw [none] at stays
        change _ = world.log.issued at stays
        refine ⟨?_, ?_, ?_, ?_⟩
        · rw [stays]
          exact sound.owned
        · rw [stays]
          exact sound.clients
        · rw [stays]
          exact sound.disk
        · rw [stays]
          change _ + (accepted issuer (DisabledUsers.handle issuer world.accounts request).2.store
            world.log.issued).card ≤ _
          rw [store]
          exact sound.bound
      · rw [given] at stays
        change _ = jwt :: world.log.issued at stays
        refine ⟨?_, ?_, ?_, ?_⟩
        · rw [stays]
          rintro other member
          rcases List.mem_cons.mp member with rfl | before
          · exact ⟨_, handed⟩
          · exact sound.owned other before
        · rw [stays]
          exact fun party flow member => rooted_mono [jwt] (sound.clients party flow member)
        · rw [stays]
          exact fun creds held => rooted_mono [jwt] (sound.disk creds held)
        · rw [stays, List.length_cons]
          have more : (accepted issuer _ (jwt :: world.log.issued)).card ≤
            (accepted issuer world.accounts.store world.log.issued).card + 1 :=
            card_accepted_grant world.accounts.store ttl handed
          have bound := sound.bound
          change world.log.refreshes + (accepted issuer (DisabledUsers.handle issuer world.accounts
            request).2.store (jwt :: world.log.issued)).card ≤ _
          rw [store]
          omega

theorem sound_step (world : World ι Token) (turn : Turn ι Token) (sound : Sound issuer world)
    (admitted : Admitted world turn) : Sound issuer (step issuer world turn) := by
  cases turn with
  | start party env readable =>
      refine sound_placed sound party (Client.all_load_creds
        (Client.all_init fun _ given => nomatch given) ?_ ?_)
      · exact fun creds given => rooted_of_handed sound (admitted creds given)
      · intro creds held
        split at held
        · exact sound.disk creds held
        · cases held
  | agent party creds =>
      refine sound_placed sound party (Client.all_init ?_)
      intro given same
      obtain rfl := Option.some.inj same
      exact rooted_of_handed sound admitted
  | request party answers =>
      obtain ⟨all, bound⟩ := exchange_sound sound (sound.clients party) admitted
      exact sound_counted sound party all bound
  | verify party answers => exact (verify_sound sound (sound.clients party) admitted party).1
  | login party u p moment => exact sound_loggedIn sound party (sound.clients party) u p moment
  | logincli party answers u p moment =>
      rw [step, stepLogincli]
      cases held : world.disk with
      | none =>
          exact sound_loggedIn sound party (Client.all_set_none (sound.clients party)) u p moment
      | some creds =>
          have rooted : ((world.clients party).set_creds (some creds)).All
              (Rooted issuer world.log.issued) := by
            refine Client.all_set_creds (sound.clients party) ?_
            intro given same
            obtain rfl := Option.some.inj same
            exact sound.disk creds held
          obtain ⟨verified, all⟩ := verify_sound sound rooted admitted party
          dsimp only
          split
          · exact verified
          · exact sound_loggedIn verified party (Client.all_set_none all) u p moment
  | server request => exact sound_server sound request admitted

/-- No process has started yet. -/
def World.before (accounts : Accounts) : World ι Token where
  accounts := accounts
  clients _ := {}

omit [DecidableEq ι] in
theorem sound_before (accounts : Accounts) :
    Sound issuer (World.before accounts : World ι Token) :=
  ⟨nofun, nofun, nofun, Nat.le_refl 0⟩

variable (issuer) in
/-- The processes that come by their credentials through the file, the environment or a login of
their own refresh no more often, all together, than the server has handed out tokens: a pair is good
for one refresh, whoever makes it, for the refresh token that comes with that is kept nowhere. -/
theorem refreshes_le_issued (accounts : Accounts) (turns : List (Turn ι Token))
    (admitted : Along (step issuer) Admitted (World.before accounts) turns) :
    (run (step issuer) (World.before accounts) turns).log.refreshes ≤
      (run (step issuer) (World.before accounts) turns).log.issued.length := by
  have sound := run_invariant sound_step (sound_before accounts) admitted
  exact (Nat.le_add_right _ _).trans sound.bound

end

namespace Sample

/-- A login, a refresh, and a process that finds the old tokens in the file. -/
def turns : List (Turn Bool Claims) :=
  [.login false "ada" "secret" ⟨"first", 0⟩, .request false ⟨401, 200, ⟨"second", 3600⟩⟩,
    .start true none true, .request true ⟨401, 200, ⟨"third", 3660⟩⟩]

def reached : World Bool Claims :=
  run (step DisabledUsers.Sample.issuer) (World.before DisabledUsers.Sample.accounts) turns

end Sample

theorem refreshed_once :
    Sample.reached.log.refreshes ≤ Sample.reached.log.issued.length ∧
      Sample.reached.log.refreshes = 1 := by
  have admitted : Along (step DisabledUsers.Sample.issuer) Admitted
      (World.before DisabledUsers.Sample.accounts) Sample.turns := by
    refine ⟨trivial, ?_, nofun, ?_, trivial⟩
    · intro jwt member
      obtain rfl := List.mem_singleton.mp member
      simp
    · intro jwt member
      obtain rfl := List.mem_singleton.mp member
      simp
  have most := refreshes_le_issued DisabledUsers.Sample.issuer DisabledUsers.Sample.accounts
    Sample.turns admitted
  exact ⟨most, rfl⟩

/-! What a process takes for its credentials, and what it sends. -/

variable (issuer) in
/-- The same tokens, but for an access token that was refreshed. -/
structure SameUser (creds : TokenCreds Token) (flow : AuthFlow Token) : Prop where
  refresh_token : flow.refresh_token = creds.refresh_token
  access_token : flow.access_token = creds.access_token ∨
    ∃ usr, owner issuer flow.access_token = some usr ∧ owner issuer creds.access_token = some usr

variable (issuer) in
structure Client.Consistent (client : Client Token) : Prop where
  attached : client._auth = none ∨ client._auth = client._http
  range : ∀ place, client._http = some place → place < client.flows.length
  held : ∀ creds, client._creds = some creds → client._auth = client._http ∧
    ∃ flow, client.sent = some flow ∧ SameUser issuer creds flow

namespace Client

variable {client : Client Token}

theorem consistent_set_creds (consistent : client.Consistent issuer)
    (creds : Option (TokenCreds Token)) : (client.set_creds creds).Consistent issuer := by
  cases creds with
  | none =>
      refine ⟨.inr rfl, ?_, nofun⟩
      intro place held
      change client._auth = some place at held
      rcases consistent.attached with none | same
      · cases none.symm.trans held
      · exact consistent.range place (same.symm.trans held)
  | some creds =>
      refine ⟨.inr rfl, ?_, ?_⟩
      · intro place held
        obtain rfl : client.flows.length = place := Option.some.inj held
        change _ < (client.flows ++ [creds.flow]).length
        rw [List.length_append]
        exact Nat.lt_succ_self _
      · intro given same
        obtain rfl : creds = given := Option.some.inj same
        exact ⟨rfl, creds.flow, List.getElem?_concat_length .., rfl, .inl rfl⟩

theorem consistent_empty : ({} : Client Token).Consistent issuer := ⟨.inl rfl, nofun, nofun⟩

theorem consistent_load_creds (consistent : client.Consistent issuer)
    (env disk : Option (TokenCreds Token)) : (client.load_creds env disk).Consistent issuer := by
  cases env with
  | none => exact consistent_set_creds consistent disk
  | some creds => exact consistent_set_creds (consistent_set_creds consistent (some creds)) disk

theorem sent_changed {place : Nat} (sends : client._http = some place)
    (inside : place < client.flows.length) (flow : AuthFlow Token) :
    ({ client with flows := client.flows.set place flow }).sent = some flow := by
  rw [sent, Client.flow, sends]
  exact List.getElem?_set_self inside

theorem consistent_exchange (consistent : client.Consistent issuer) (accounts : Accounts)
    (answers : Answers) : (exchange issuer accounts client answers).client.Consistent issuer := by
  rcases exchange_cases issuer accounts client answers with ⟨_, same, _⟩ |
    ⟨_, place, flow, jwt, usr, _, _, at_, sends, _, owned, renewed, changed, _, _⟩
  · rw [same]
    exact consistent
  · rw [changed]
    have sent_now := sent_changed at_ (consistent.range place at_) { flow with access_token := jwt }
    refine ⟨consistent.attached, ?_, ?_⟩
    · intro other held
      rw [List.length_set]
      exact consistent.range other held
    · intro creds held
      obtain ⟨attached, before, sent_before, user⟩ := consistent.held creds held
      obtain rfl : flow = before := Option.some.inj (sends.symm.trans sent_before)
      refine ⟨attached, _, sent_now, user.refresh_token, .inr ⟨usr, renewed, ?_⟩⟩
      rcases user.access_token with same | ⟨other, named, also⟩
      · rw [← same]
        exact owned
      · rw [also, ← named, owned]

theorem consistent_verify (consistent : client.Consistent issuer) (accounts : Accounts)
    (answers : Answers) : (verify issuer accounts client answers).2.client.Consistent issuer := by
  have after := consistent_exchange consistent accounts answers
  rw [verify]
  dsimp only
  split
  · exact after
  · exact ⟨.inl rfl, after.range, nofun⟩

end Client

section

variable {ι : Type} [DecidableEq ι]

theorem consistent_placed {world : World ι Token}
    (consistent : ∀ party, (world.clients party).Consistent issuer) (party : ι)
    {client : Client Token} (after : client.Consistent issuer) (other : ι) :
    ((placed world party client).clients other).Consistent issuer := by
  rw [placed_clients]
  split
  · exact after
  · exact consistent other

theorem consistent_loggedIn {world : World ι Token}
    (consistent : ∀ party, (world.clients party).Consistent issuer) (party : ι)
    {client : Client Token} (before : client.Consistent issuer) (u p : String) (moment : Moment)
    (other : ι) :
    ((loggedIn issuer world party client u p moment).clients other).Consistent issuer := by
  rw [loggedIn, login]
  rcases DisabledUsers.handle issuer world.accounts (.login u p moment) with ⟨_ | jwt, later⟩
  · exact consistent_placed consistent party before other
  · exact consistent_placed consistent party (Client.consistent_set_creds before _) other

theorem consistent_step (world : World ι Token) (turn : Turn ι Token)
    (consistent : ∀ party, (world.clients party).Consistent issuer) (party : ι) :
    ((step issuer world turn).clients party).Consistent issuer := by
  have started : ∀ creds, (Client.init creds : Client Token).Consistent issuer :=
    Client.consistent_set_creds Client.consistent_empty
  cases turn with
  | start mover env readable =>
      exact consistent_placed consistent mover (Client.consistent_load_creds (started none) _ _) party
  | agent mover creds => exact consistent_placed consistent mover (started _) party
  | request mover answers =>
      exact consistent_placed consistent mover
        (Client.consistent_exchange (consistent mover) _ answers) party
  | verify mover answers =>
      exact consistent_placed consistent mover
        (Client.consistent_verify (consistent mover) _ answers) party
  | login mover u p moment => exact consistent_loggedIn consistent mover (consistent mover) u p _ _
  | logincli mover answers u p moment =>
      rw [step, stepLogincli]
      cases world.disk with
      | none =>
          exact consistent_loggedIn consistent mover
            (Client.consistent_set_creds (consistent mover) none) u p _ _
      | some creds =>
          have verified := Client.consistent_verify
            (Client.consistent_set_creds (consistent mover) (some creds)) world.accounts answers
          have after : ∀ party, ((counted world mover (verify issuer world.accounts
              ((world.clients mover).set_creds (some creds)) answers).2).clients party).Consistent
                issuer := consistent_placed consistent mover verified
          dsimp only
          split
          · exact after party
          · exact consistent_loggedIn after mover (Client.consistent_set_creds verified none) u p _ _
  | server request => exact consistent party

variable (issuer) in
/-- Whatever the processes do, the credentials that a client shows are those its requests carry, or
it has none to show; and as long as it takes itself for somebody it shows them, for that user and
with the refresh token it was given, however often the access token was refreshed since. -/
theorem shown_is_sent (accounts : Accounts) (turns : List (Turn ι Token)) :
    ∀ reached ∈ states (step issuer) (World.before accounts) turns, ∀ party,
      (∀ creds, (reached.clients party).creds = .ok creds →
        (reached.clients party).sent = some creds.flow) ∧
      ∀ creds, (reached.clients party)._creds = some creds →
        ∃ shown, (reached.clients party).creds = .ok shown ∧ SameUser issuer creds shown.flow := by
  intro reached member party
  have consistent := states_kept consistent_step (fun _ => Client.consistent_empty) turns reached
    member party
  constructor
  · intro creds shown
    rcases consistent.attached with none | same
    · rw [Client.creds, none] at shown
      cases shown
    · rw [Client.creds, same] at shown
      change (match (reached.clients party).sent with | some flow => _ | none => _) = _ at shown
      split at shown
      · rename_i flow sends
        obtain rfl := Except.ok.inj shown
        exact sends
      · cases shown
  · intro creds held
    obtain ⟨same, flow, sends, user⟩ := consistent.held creds held
    refine ⟨⟨flow.access_token, flow.refresh_token⟩, ?_, user⟩
    have found : (reached.clients party).flow (reached.clients party)._http = some flow := sends
    rw [Client.creds, same, found]

end

theorem shown_after_refresh :
    ∃ creds shown, (Sample.reached.clients false)._creds = some creds ∧
      (Sample.reached.clients false).creds = .ok shown ∧
      (Sample.reached.clients false).sent = some shown.flow ∧
      SameUser DisabledUsers.Sample.issuer creds shown.flow := by
  obtain ⟨sends, shows⟩ := shown_is_sent DisabledUsers.Sample.issuer DisabledUsers.Sample.accounts
    Sample.turns Sample.reached (run_mem_states _ _) false
  obtain ⟨shown, shows, same⟩ := shows _ rfl
  exact ⟨_, shown, rfl, shows, sends shown shows, same⟩

end LabFunctions.ClientSessions
