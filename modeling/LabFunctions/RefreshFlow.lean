import LabFunctions.Authentication
import LabFunctions.Library.Runs

/-!
One client and one server over any number of requests: whether the client still
holds a refresh token that the server accepts after it has used it once.
-/

namespace LabFunctions

namespace RefreshFlow

variable {Token : Type}

structure Session (Token : Type) where
  store : TokenStore
  client : AuthFlow Token

/-- One request: the status of its first answer, the refresh token the server draws if it
comes to a refresh, and the time. -/
structure Call where
  status : Nat
  drawn : String
  now : Int

def refreshReply (auth : Auth Token) (session : Session Token) (call : Call) :
    Reply Token × TokenStore :=
  refresh_handler auth session.store session.client.access_token session.client.refresh_token
    call.drawn call.now

def step (auth : Auth Token) (session : Session Token) (call : Call) : Session Token :=
  if call.status = 401 then
    let (reply, store) := refreshReply auth session call
    { store := store, client := session.client.update_tokens reply }
  else session

def issue (auth : Auth Token) (store : TokenStore) (usr : String) (scopes : List String)
    (drawn : String) (now : Int) : Session Token :=
  let (refresh, store) := auth.store_refresh_token store usr drawn
  { store := store
    client :=
      { access_token := auth.encode
          [("usr", .str usr), ("scopes", .list (scopes.map Json.str))] now
        refresh_token := some refresh } }

def Held (usr : String) (session : Session Token) : Prop :=
  ∃ refresh, session.client.refresh_token = some refresh ∧
    session.store.get (usr ++ "." ++ refresh) = some usr

/-- After a successful refresh the client holds a token the store accepts, and the next
refresh succeeds whenever it comes. -/
def Followed (auth : Auth Token) (usr : String) (session : Session Token) (call : Call) : Prop :=
  call.status = 401 → (refreshReply auth session call).1.status = 200 →
    Held usr (step auth session call) ∧
      ∀ later, (refreshReply auth (step auth session call) later).1.status = 200

def Accepts (auth : Auth Token) (usr : String) (session : Session Token) : Prop :=
  auth.allow_refresh = true ∧ truthy session.client.refresh_token = true ∧ Held usr session ∧
    ∃ claims, auth.jwt.decode session.client.access_token = .ok claims

/-- No refresh goes through, unless it happens to draw the token the client has already. -/
def Undisturbed (auth : Auth Token) (usr : String) (session : Session Token) (call : Call) :
    Prop :=
  call.status = 401 → Accepts auth usr session →
    session.client.refresh_token = some call.drawn

def Issued (auth : Auth Token) (usr : String) (session : Session Token) : Prop :=
  ∃ payload now, session.client.access_token = auth.encode payload now ∧
    payload.lookup "usr" = some (.str usr)

theorem key_inj {usr left right : String} (same : usr ++ "." ++ left = usr ++ "." ++ right) :
    left = right := by
  have lists := congrArg String.toList same
  simp only [String.toList_append] at lists
  exact String.toList_inj.mp (List.append_cancel_left lists)

theorem decode_issued {auth : Auth Token} {usr : String} {payload claims : Claims} {now : Int}
    (named : payload.lookup "usr" = some (.str usr))
    (decoded : auth.jwt.decode (auth.encode payload now) = .ok claims) :
    claims = Auth._build_payload auth.conf payload (Auth.get_delta now auth.conf.exp_min) ∧
      Auth.decodedUsr claims = .ok usr := by
  unfold Auth.encode at decoded
  rw [auth.jwt.decode_encode] at decoded
  split at decoded
  · simp only [Except.ok.injEq] at decoded
    subst decoded
    refine ⟨rfl, ?_⟩
    rw [Auth.decodedUsr, Auth.lookup_build_payload _ _ _ (by decide) (by decide) (by decide), named]
  · simp at decoded

theorem refreshReply_accepted {auth : Auth Token} {usr refresh : String}
    {session : Session Token} {payload : Claims} {now : Int} {call : Call}
    (access : session.client.access_token = auth.encode payload now)
    (named : payload.lookup "usr" = some (.str usr)) (accepts : Accepts auth usr session)
    (holding : session.client.refresh_token = some refresh) :
    refreshReply auth session call =
      (⟨200, some ⟨auth.encode payload call.now, some call.drawn⟩⟩,
        (session.store.delete (usr ++ "." ++ refresh)).put (usr ++ "." ++ call.drawn) usr
          auth.conf.ttl_refresh_token) := by
  obtain ⟨allowed, given, ⟨other, held, stored⟩, claims, decoded⟩ := accepts
  rw [holding, Option.some.injEq] at held
  subst held
  rw [access] at decoded
  obtain ⟨built, user⟩ := decode_issued named decoded
  have nonempty : refresh ≠ "" := by
    rw [holding] at given
    simpa [truthy] using given
  have again : auth.encode claims call.now = auth.encode payload call.now := by
    rw [built, Auth.encode, Auth.build_payload_twice, Auth.encode]
  have exchanged : auth.refresh_token session.store (auth.encode payload now) refresh call.drawn
      call.now = .ok (⟨auth.encode payload call.now, some call.drawn⟩,
        (session.store.delete (usr ++ "." ++ refresh)).put (usr ++ "." ++ call.drawn) usr
          auth.conf.ttl_refresh_token) :=
    Auth.refresh_token_eq_ok.mpr ⟨claims, usr, decoded, user, stored, by rw [again], rfl⟩
  unfold refreshReply refresh_handler
  rw [if_pos allowed, holding, if_pos (by simpa [truthy] using nonempty),
    pyOr_of_ne_empty nonempty, access, exchanged]

theorem refreshReply_refused {auth : Auth Token} {usr : String} {session : Session Token}
    (call : Call) (issued : Issued auth usr session) (refused : ¬Accepts auth usr session) :
    ∃ status, status ≠ 200 ∧ refreshReply auth session call = (⟨status, none⟩, session.store) := by
  obtain ⟨payload, now, access, named⟩ := issued
  unfold refreshReply refresh_handler
  by_cases allowed : auth.allow_refresh = true
  · rw [if_pos allowed]
    by_cases given : truthy session.client.refresh_token = true
    · rw [if_pos given]
      obtain ⟨refresh, holding, nonempty⟩ := truthy_iff.mp given
      rw [holding, pyOr_of_ne_empty nonempty]
      cases exchanged : auth.refresh_token session.store session.client.access_token refresh
          call.drawn call.now with
      | error failure => cases failure <;> exact ⟨_, by decide, rfl⟩
      | ok result =>
          obtain ⟨response, next⟩ := result
          obtain ⟨claims, name, decoded, user, stored, _⟩ := Auth.refresh_token_eq_ok.mp exchanged
          have mine := (decode_issued named (access ▸ decoded)).2
          rw [mine] at user
          obtain rfl := Except.ok.inj user
          exact absurd ⟨allowed, given, ⟨refresh, holding, stored⟩, claims, decoded⟩ refused
    · rw [if_neg given]
      exact ⟨401, by decide, rfl⟩
  · rw [if_neg allowed]
    exact ⟨404, by decide, rfl⟩

theorem reply_ok_iff {auth : Auth Token} {usr : String} {session : Session Token} (call : Call)
    (issued : Issued auth usr session) :
    (refreshReply auth session call).1.status = 200 ↔ Accepts auth usr session := by
  by_cases accepts : Accepts auth usr session
  · obtain ⟨payload, now, access, named⟩ := issued
    obtain ⟨refresh, holding, _⟩ := accepts.2.2.1
    simp [refreshReply_accepted access named accepts holding, accepts]
  · obtain ⟨status, failed, reply⟩ := refreshReply_refused call issued accepts
    simp [reply, failed, accepts]

theorem step_refused {auth : Auth Token} {usr : String} {session : Session Token} {call : Call}
    (issued : Issued auth usr session)
    (refused : ¬(call.status = 401 ∧ Accepts auth usr session)) :
    step auth session call = session := by
  unfold step
  split
  · rename_i unauthorized
    obtain ⟨status, _, reply⟩ := refreshReply_refused call issued
      (fun accepts => refused ⟨unauthorized, accepts⟩)
    rw [reply]
    rfl
  · rfl

theorem step_accepted {auth : Auth Token} {usr refresh : String} {session : Session Token}
    {payload : Claims} {now : Int} {call : Call}
    (access : session.client.access_token = auth.encode payload now)
    (named : payload.lookup "usr" = some (.str usr)) (unauthorized : call.status = 401)
    (accepts : Accepts auth usr session) (holding : session.client.refresh_token = some refresh) :
    step auth session call =
      { store := (session.store.delete (usr ++ "." ++ refresh)).put (usr ++ "." ++ call.drawn) usr
          auth.conf.ttl_refresh_token
        client := ⟨auth.encode payload call.now, some refresh⟩ } := by
  unfold step
  rw [if_pos unauthorized, refreshReply_accepted access named accepts holding]
  simp [AuthFlow.update_tokens, holding]

theorem issued_step {auth : Auth Token} {usr : String} (session : Session Token) (call : Call)
    (issued : Issued auth usr session) : Issued auth usr (step auth session call) := by
  by_cases exchanged : call.status = 401 ∧ Accepts auth usr session
  · obtain ⟨payload, now, access, named⟩ := issued
    obtain ⟨refresh, holding, _⟩ := exchanged.2.2.2.1
    rw [step_accepted access named exchanged.1 exchanged.2 holding]
    exact ⟨payload, call.now, rfl, named⟩
  · rwa [step_refused issued exchanged]

theorem held_exchanged_iff {store : TokenStore} {usr refresh drawn : String} (ttl : Int) :
    ((store.delete (usr ++ "." ++ refresh)).put (usr ++ "." ++ drawn) usr ttl).get
        (usr ++ "." ++ refresh) = some usr ↔ refresh = drawn := by
  rw [TokenStore.get_put, TokenStore.get_delete, if_pos rfl]
  by_cases same : refresh = drawn
  · simp [same]
  · have different : usr ++ "." ++ refresh ≠ usr ++ "." ++ drawn := fun keys => same (key_inj keys)
    simp [different, same]

theorem decode_later {auth : Auth Token} {payload claims : Claims} {now : Int} (later : Int)
    (decoded : auth.jwt.decode (auth.encode payload now) = .ok claims) :
    ∃ next, auth.jwt.decode (auth.encode payload later) = .ok next := by
  unfold Auth.encode Auth._build_payload at decoded ⊢
  rw [auth.jwt.decode_encode] at decoded ⊢
  split at decoded
  · rename_i valid
    rw [auth.jwt.valid_exp _ _ (Auth.get_delta now auth.conf.exp_min), if_pos valid]
    exact ⟨_, rfl⟩
  · simp at decoded

theorem held_step_iff {auth : Auth Token} {usr : String} {session : Session Token} {call : Call}
    (issued : Issued auth usr session) (unauthorized : call.status = 401)
    (accepts : Accepts auth usr session) :
    Held usr (step auth session call) ↔ session.client.refresh_token = some call.drawn := by
  obtain ⟨payload, now, access, named⟩ := issued
  obtain ⟨refresh, holding, _⟩ := accepts.2.2.1
  rw [step_accepted access named unauthorized accepts holding, holding, Option.some.injEq,
    ← held_exchanged_iff auth.conf.ttl_refresh_token]
  constructor
  · rintro ⟨other, held, kept⟩
    obtain rfl := Option.some.inj held
    exact kept
  · intro kept
    exact ⟨refresh, rfl, kept⟩

theorem accepts_step {auth : Auth Token} {usr : String} {session : Session Token} {call : Call}
    (issued : Issued auth usr session) (unauthorized : call.status = 401)
    (accepts : Accepts auth usr session) (held : Held usr (step auth session call)) :
    Accepts auth usr (step auth session call) := by
  obtain ⟨payload, now, access, named⟩ := issued
  have ⟨allowed, given, ⟨refresh, holding, _⟩, claims, decoded⟩ := accepts
  refine ⟨allowed, ?_, held, ?_⟩
  · rw [step_accepted access named unauthorized accepts holding]
    rwa [holding] at given
  · rw [step_accepted access named unauthorized accepts holding]
    exact decode_later call.now (access ▸ decoded)

theorem followed_iff {auth : Auth Token} {usr : String} (session : Session Token) (call : Call)
    (issued : Issued auth usr session) :
    Followed auth usr session call ↔ Undisturbed auth usr session call := by
  unfold Followed Undisturbed
  rw [reply_ok_iff call issued]
  refine forall_congr' fun unauthorized => forall_congr' fun accepts => ?_
  rw [held_step_iff issued unauthorized accepts]
  constructor
  · rintro ⟨same, _⟩
    exact same
  · intro same
    refine ⟨same, ?_⟩
    intro later
    rw [reply_ok_iff later (issued_step session call issued)]
    exact accepts_step issued unauthorized accepts
      ((held_step_iff issued unauthorized accepts).mpr same)

/-- After one refresh the client is locked out: whatever requests follow, nothing changes
and no exchange succeeds again. -/
theorem locked_out {auth : Auth Token} {usr : String} {session : Session Token} {call : Call}
    (issued : Issued auth usr session) (unauthorized : call.status = 401)
    (accepts : Accepts auth usr session)
    (fresh : session.client.refresh_token ≠ some call.drawn) (later : List Call) :
    Runs.run (step auth) (step auth session call) later = step auth session call ∧
      ∀ next, (refreshReply auth (step auth session call) next).1.status ≠ 200 := by
  have still := issued_step session call issued
  have locked : ¬Accepts auth usr (step auth session call) := by
    intro again
    exact fresh ((held_step_iff issued unauthorized accepts).mp again.2.2.1)
  constructor
  · induction later with
    | nil => rfl
    | cons next rest ih =>
        rw [Runs.run_cons, step_refused still fun exchanged => locked exchanged.2]
        exact ih
  · intro next succeeded
    exact locked ((reply_ok_iff next still).mp succeeded)

theorem issued_issue (auth : Auth Token) (store : TokenStore) (usr : String)
    (scopes : List String) (drawn : String) (now : Int) :
    Issued auth usr (issue auth store usr scopes drawn now) :=
  ⟨_, now, rfl, by simp⟩

/-- For tokens issued by the server and any run of requests: the client can always refresh
again after a successful refresh exactly when no refresh of the run goes through. -/
theorem refresh_followed_iff (auth : Auth Token) (store : TokenStore) (usr : String)
    (scopes : List String) (drawn : String) (now : Int) (calls : List Call) :
    Runs.Along (step auth) (Followed auth usr) (issue auth store usr scopes drawn now) calls ↔
      Runs.Along (step auth) (Undisturbed auth usr) (issue auth store usr scopes drawn now)
        calls :=
  Runs.along_congr issued_step followed_iff (issued_issue auth store usr scopes drawn now)

namespace Sample

def jwt : Jwt Claims where
  encode := id
  decode := .ok
  valid := fun _ => true
  decode_encode := fun _ => rfl
  valid_exp := fun _ _ _ => rfl

def auth : Auth Claims where
  jwt := jwt

def session : Session Claims :=
  issue auth (fun _ => none) "ada" ["user:r:w"] "first" 0

def call : Call := ⟨401, "second", 60⟩

end Sample

theorem Sample.accepts : Accepts Sample.auth "ada" Sample.session :=
  ⟨rfl, by decide, ⟨"first", rfl, TokenStore.get_put_self _ _ _ (3600 * 168)⟩, _, rfl⟩

/-- The server has forgotten the first refresh token and the client still sends it. -/
theorem refresh_token_not_followed :
    ¬Runs.Along (step Sample.auth) (Followed Sample.auth "ada") Sample.session [Sample.call] := by
  intro followed
  have issued : Issued Sample.auth "ada" Sample.session := issued_issue _ _ _ _ _ _
  have undisturbed := (followed_iff Sample.session Sample.call issued).mp followed.1
  have same : some "first" = some "second" := undisturbed rfl Sample.accepts
  exact absurd same (by decide)

end RefreshFlow

end LabFunctions
