import LabFunctions.Library.Interleavings
import LabFunctions.RefreshFlow

/-!
`Auth.refresh_token` as the server's event loop runs it: every call to the token store is an
await, and any number of calls may take turns between them.
-/

namespace LabFunctions

namespace RefreshRaces

variable {Token : Type}

abbrev Task (α : Type) := ExceptT Exn (Prog TokenStore) α

def get (key : String) : Task (Option String) := ExceptT.lift (Prog.read (TokenStore.get · key))

def put (key value : String) (ttl : Int) : Task PUnit :=
  ExceptT.lift (Prog.write (TokenStore.put · key value ttl))

def delete (key : String) : Task PUnit := ExceptT.lift (Prog.write (TokenStore.delete · key))

def store_refresh_token (auth : Auth Token) (username refresh : String)
    (ttl : Option Int := none) : Task String := do
  put (username ++ "." ++ refresh) username (auth.conf.lifetime ttl)
  return refresh

def validate_refresh_token (auth : Auth Token) (access_token : Token) (refresh_token : String) :
    Task Bool := do
  let decoded ← MonadExcept.ofExcept (auth.jwt.decode access_token)
  let usr ← MonadExcept.ofExcept (Auth.decodedUsr decoded)
  let value ← get (usr ++ "." ++ refresh_token)
  return some usr == value

def refresh_token (auth : Auth Token) (access_token : Token) (refresh_token drawn : String)
    (now : Int) : Task (JWTResponse Token) := do
  let is_valid ← validate_refresh_token auth access_token refresh_token
  if is_valid then
    let decoded ← MonadExcept.ofExcept (auth.jwt.decode access_token)
    let usr ← MonadExcept.ofExcept (Auth.decodedUsr decoded)
    -- between the check above and this delete other calls take their turns
    delete (usr ++ "." ++ refresh_token)
    let _new_refresh ← store_refresh_token auth usr drawn
    return ⟨auth.encode decoded now, some _new_refresh⟩
  else throw .authValidationFailed

/-! The three atomic actions of a call, from the last one back. -/

section Actions

variable (auth : Auth Token) (usr : String) (claims : Claims) (refresh drawn : String) (now : Int)

abbrev Call (Token : Type) := Prog TokenStore (Except Exn (JWTResponse Token))

def issuing : Call Token :=
  .act (TokenStore.put · (usr ++ "." ++ drawn) usr auth.conf.ttl_refresh_token) fun _ =>
    .done (.ok ⟨auth.encode claims now, some drawn⟩)

def consuming : Call Token :=
  .act (TokenStore.delete · (usr ++ "." ++ refresh)) fun _ => issuing auth usr claims drawn now

def checking : Call Token :=
  .act id fun store =>
    if some usr = TokenStore.get store (usr ++ "." ++ refresh) then
      consuming auth usr claims refresh drawn now
    else .done (.error .authValidationFailed)

theorem refresh_token_checking {access_token : Token}
    (decoded : auth.jwt.decode access_token = .ok claims)
    (user : Auth.decodedUsr claims = .ok usr) :
    (refresh_token auth access_token refresh drawn now).run =
      checking auth usr claims refresh drawn now := by
  simp [refresh_token, validate_refresh_token, decoded, user, MonadExcept.ofExcept, get, delete,
    put, store_refresh_token, Prog.read, Prog.write, bind, ExceptT.bind, ExceptT.bindCont,
    ExceptT.mk, ExceptT.run, ExceptT.lift, ExceptT.pure, pure, Prog.bind, Functor.map, checking,
    consuming, issuing]
  rfl

theorem refresh_token_undecoded {access_token : Token} {failure : Exn}
    (undecoded : (auth.jwt.decode access_token >>= Auth.decodedUsr) = .error failure) :
    (refresh_token auth access_token refresh drawn now).run = .done (.error failure) := by
  cases decoded : auth.jwt.decode access_token with
  | error other =>
      rw [decoded] at undecoded
      obtain rfl := Except.error.inj undecoded
      simp [refresh_token, validate_refresh_token, decoded, MonadExcept.ofExcept, bind,
        ExceptT.bind, ExceptT.bindCont, ExceptT.mk, ExceptT.run, Prog.bind, throw, throwThe,
        MonadExceptOf.throw, pure]
  | ok claims =>
      have user : Auth.decodedUsr claims = .error failure := by
        rw [decoded] at undecoded
        exact undecoded
      simp [refresh_token, validate_refresh_token, decoded, user, MonadExcept.ofExcept, bind,
        ExceptT.bind, ExceptT.bindCont, ExceptT.mk, ExceptT.run, ExceptT.pure, Prog.bind, throw,
        throwThe, MonadExceptOf.throw, pure]

theorem decoded_cases (access_token : Token) :
    (∃ claims usr, auth.jwt.decode access_token = .ok claims ∧ Auth.decodedUsr claims = .ok usr) ∨
      ∃ failure, (auth.jwt.decode access_token >>= Auth.decodedUsr) = .error failure := by
  cases decoded : auth.jwt.decode access_token with
  | error failure => exact Or.inr ⟨failure, rfl⟩
  | ok claims =>
      cases user : Auth.decodedUsr claims with
      | error failure => exact Or.inr ⟨failure, user⟩
      | ok usr => exact Or.inl ⟨claims, usr, rfl, user⟩

theorem refresh_token_run (access_token : Token) (store : TokenStore) :
    Prog.run (refresh_token auth access_token refresh drawn now).run store =
      match auth.refresh_token store access_token refresh drawn now with
      | .ok (response, store) => (.ok response, store)
      | .error failure => (.error failure, store) := by
  rcases decoded_cases auth access_token with ⟨claims, usr, decoded, user⟩ | ⟨failure, undecoded⟩
  · rw [refresh_token_checking auth usr claims refresh drawn now decoded user]
    by_cases valid : some usr = TokenStore.get store (usr ++ "." ++ refresh)
    · simp [checking, consuming, issuing, Prog.run, Auth.refresh_token,
        Auth.validate_refresh_token, decoded, user, ← valid, Auth.store_refresh_token,
        JWTConfig.lifetime, bind, Except.bind, pure, Except.pure]
    · simp [checking, Prog.run, Auth.refresh_token, Auth.validate_refresh_token, decoded, user,
        valid, bind, Except.bind, pure, Except.pure, throw, throwThe, MonadExceptOf.throw]
  · rw [refresh_token_undecoded auth refresh drawn now undecoded]
    cases decoded : auth.jwt.decode access_token with
    | error other =>
        rw [decoded] at undecoded
        obtain rfl := Except.error.inj undecoded
        simp [Prog.run, Auth.refresh_token, Auth.validate_refresh_token, decoded, bind, Except.bind]
    | ok claims =>
        have user : Auth.decodedUsr claims = .error failure := by
          rw [decoded] at undecoded
          exact undecoded
        simp [Prog.run, Auth.refresh_token, Auth.validate_refresh_token, decoded, user, bind,
          Except.bind]

end Actions

/-! Any number of calls with the same two tokens. -/

section Calls

open Interleaved

variable {ι : Type}

abbrev Calls (ι Token : Type) := World ι TokenStore (Except Exn (JWTResponse Token))

def start (auth : Auth Token) (access_token : Token) (refresh : String) (draws : ι → Moment)
    (store : TokenStore) : Calls ι Token :=
  { state := store
    progs := fun call =>
      (refresh_token auth access_token refresh (draws call).drawn (draws call).now).run }

def RedeemedOnce (calls : Calls ι Token) : Prop :=
  ∀ left right first second, calls.progs left = .done (.ok first) →
    calls.progs right = .done (.ok second) → left = right

/-- No call finds the token while another stands between its check and its delete, and none
stores the presented token again. -/
def Undivided (auth : Auth Token) (access_token : Token) (refresh : String) (draws : ι → Moment)
    (calls : Calls ι Token) (turn : ι) : Prop :=
  ∀ claims usr, auth.jwt.decode access_token = .ok claims → Auth.decodedUsr claims = .ok usr →
    (calls.progs turn =
        checking auth usr claims refresh (draws turn).drawn (draws turn).now →
      TokenStore.get calls.state (usr ++ "." ++ refresh) = some usr →
      ∀ other, calls.progs other ≠
        consuming auth usr claims refresh (draws other).drawn (draws other).now) ∧
    (calls.progs turn = issuing auth usr claims (draws turn).drawn (draws turn).now →
      (draws turn).drawn ≠ refresh)

inductive Stage (Token : Type) where
  | checking
  | consuming
  | issuing
  | ended (result : Except Exn (JWTResponse Token))

def Stage.Passed : Stage Token → Prop
  | .checking => False
  | .consuming => True
  | .issuing => True
  | .ended (.ok _) => True
  | .ended (.error _) => False

def Stage.Consumed : Stage Token → Prop
  | .checking => False
  | .consuming => False
  | .issuing => True
  | .ended (.ok _) => True
  | .ended (.error _) => False

section Stages

variable (auth : Auth Token) (usr : String) (claims : Claims) (refresh : String) (draws : ι → Moment)

def progOf (call : ι) : Stage Token → Call Token
  | .checking => checking auth usr claims refresh (draws call).drawn (draws call).now
  | .consuming => consuming auth usr claims refresh (draws call).drawn (draws call).now
  | .issuing => issuing auth usr claims (draws call).drawn (draws call).now
  | .ended result => .done result

/-- One call at most is past its check, and once it has consumed the token the token is gone. -/
structure Ordered (calls : Calls ι Token) (stage : ι → Stage Token) : Prop where
  follows : ∀ call, calls.progs call = progOf auth usr claims refresh draws call (stage call)
  single : ∀ left right, (stage left).Passed → (stage right).Passed → left = right
  gone : ∀ call, (stage call).Consumed →
    TokenStore.get calls.state (usr ++ "." ++ refresh) = none

variable {auth usr claims refresh draws} {calls : Calls ι Token} {stage : ι → Stage Token}

theorem passed_of_consumed {stage : Stage Token} (consumed : stage.Consumed) : stage.Passed := by
  cases stage with
  | checking => exact consumed
  | consuming => trivial
  | issuing => trivial
  | ended result => cases result <;> trivial

theorem redeemedOnce_of_ordered (ordered : Ordered auth usr claims refresh draws calls stage) :
    RedeemedOnce calls := by
  have passed : ∀ call response, calls.progs call = .done (.ok response) →
      (stage call).Passed := by
    intro call response ended
    rw [ordered.follows call] at ended
    cases at_ : stage call with
    | checking => simp [at_, progOf, checking] at ended
    | consuming => simp [at_, progOf, consuming] at ended
    | issuing => simp [at_, progOf, issuing] at ended
    | ended result =>
        simp only [at_, progOf, Prog.done.injEq] at ended
        simp [ended, Stage.Passed]
  intro left right first second leftEnded rightEnded
  exact ordered.single left right (passed left first leftEnded) (passed right second rightEnded)

/-- While the token is there, a call that is past its check has not deleted it. -/
theorem consuming_of_passed (ordered : Ordered auth usr claims refresh draws calls stage)
    (present : TokenStore.get calls.state (usr ++ "." ++ refresh) = some usr) {call : ι}
    (passed : (stage call).Passed) : stage call = .consuming := by
  have unconsumed : ¬(stage call).Consumed := by
    intro consumed
    rw [ordered.gone call consumed] at present
    cases present
  cases at_ : stage call with
  | checking => simp [at_, Stage.Passed] at passed
  | consuming => rfl
  | issuing => simp [at_, Stage.Consumed] at unconsumed
  | ended result =>
      cases result with
      | error failure => simp [at_, Stage.Passed] at passed
      | ok response => simp [at_, Stage.Consumed] at unconsumed

variable [DecidableEq ι]

/-- One call moves on. It may be past its check only if no other one is. -/
theorem ordered_move (ordered : Ordered auth usr claims refresh draws calls stage) (turn : ι)
    (next : Stage Token) (store : TokenStore)
    (alone : next.Passed → ∀ other, (stage other).Passed → other = turn)
    (gone : ∀ call, (Function.update stage turn next call).Consumed →
      TokenStore.get store (usr ++ "." ++ refresh) = none) :
    Ordered auth usr claims refresh draws
      { state := store
        progs := Function.update calls.progs turn
          (progOf auth usr claims refresh draws turn next) }
      (Function.update stage turn next) := by
  refine ⟨?_, ?_, gone⟩
  · intro call
    by_cases same : call = turn
    · subst same
      simp
    · simp [same, ordered.follows call]
  · intro left right leftPassed rightPassed
    by_cases leftTurn : left = turn
    · by_cases rightTurn : right = turn
      · rw [leftTurn, rightTurn]
      · rw [leftTurn, Function.update_self] at leftPassed
        rw [Function.update_of_ne rightTurn] at rightPassed
        exact leftTurn.trans (alone leftPassed right rightPassed).symm
    · rw [Function.update_of_ne leftTurn] at leftPassed
      by_cases rightTurn : right = turn
      · rw [rightTurn, Function.update_self] at rightPassed
        exact (alone rightPassed left leftPassed).trans rightTurn.symm
      · rw [Function.update_of_ne rightTurn] at rightPassed
        exact ordered.single left right leftPassed rightPassed

theorem gone_update (ordered : Ordered auth usr claims refresh draws calls stage) (turn : ι)
    {next : Stage Token} (unconsumed : ¬next.Consumed) (call : ι)
    (consumed : (Function.update stage turn next call).Consumed) :
    TokenStore.get calls.state (usr ++ "." ++ refresh) = none := by
  by_cases same : call = turn
  · subst same
    rw [Function.update_self] at consumed
    exact absurd consumed unconsumed
  · rw [Function.update_of_ne same] at consumed
    exact ordered.gone call consumed

theorem ordered_step {access_token : Token} (decoded : auth.jwt.decode access_token = .ok claims)
    (user : Auth.decodedUsr claims = .ok usr)
    (ordered : Ordered auth usr claims refresh draws calls stage) (turn : ι)
    (undivided : Undivided auth access_token refresh draws calls turn) :
    ∃ next, Ordered auth usr claims refresh draws (step calls turn) next := by
  obtain ⟨undisturbed, redrawn⟩ := undivided claims usr decoded user
  have acts := ordered.follows turn
  cases at_ : stage turn with
  | checking =>
      rw [at_] at acts
      rw [step_act acts]
      by_cases present : some usr = TokenStore.get calls.state (usr ++ "." ++ refresh)
      · rw [if_pos present]
        refine ⟨_, ordered_move ordered turn .consuming _ ?_
          (gone_update ordered turn fun consumed => consumed)⟩
        intro _ other passed
        -- the token is there, so whoever is past the check stands before its delete
        have stands := ordered.follows other
        rw [consuming_of_passed ordered present.symm passed] at stands
        exact absurd stands (undisturbed acts present.symm other)
      · rw [if_neg present]
        exact ⟨_, ordered_move ordered turn (.ended (.error .authValidationFailed)) _
          (fun passed => passed.elim) (gone_update ordered turn fun consumed => consumed)⟩
  | consuming =>
      rw [at_] at acts
      rw [step_act acts]
      refine ⟨_, ordered_move ordered turn .issuing _ ?_ ?_⟩
      · intro _ other passed
        exact ordered.single other turn passed (by simp [at_, Stage.Passed])
      · intro _ _
        rw [TokenStore.get_delete, if_pos rfl]
  | issuing =>
      rw [at_] at acts
      rw [step_act acts]
      have consumed : (stage turn).Consumed := by simp [at_, Stage.Consumed]
      refine ⟨_, ordered_move ordered turn
        (.ended (.ok ⟨auth.encode claims (draws turn).now, some (draws turn).drawn⟩)) _ ?_ ?_⟩
      · intro _ other passed
        exact ordered.single other turn passed (passed_of_consumed consumed)
      · intro _ _
        have different : usr ++ "." ++ refresh ≠ usr ++ "." ++ (draws turn).drawn :=
          fun same => redrawn acts (RefreshFlow.key_inj same).symm
        rw [TokenStore.get_put, if_neg different]
        exact ordered.gone turn consumed
  | ended result =>
      rw [at_] at acts
      rw [step_done acts]
      exact ⟨stage, ordered⟩

end Stages

theorem ordered_start {auth : Auth Token} {access_token : Token} {claims : Claims} {usr : String}
    (decoded : auth.jwt.decode access_token = .ok claims)
    (user : Auth.decodedUsr claims = .ok usr) (refresh : String) (draws : ι → Moment)
    (store : TokenStore) :
    Ordered auth usr claims refresh draws (start auth access_token refresh draws store)
      (fun _ => .checking) :=
  ⟨fun _ => refresh_token_checking auth usr claims refresh _ _ decoded user,
    fun _ _ passed => passed.elim, fun _ consumed => consumed.elim⟩

/-- A call that has all turns to itself is `Auth.refresh_token`. -/
theorem alone_refreshes [DecidableEq ι] (auth : Auth Token) (access_token : Token)
    (refresh : String) (draws : ι → Moment) (store : TokenStore) (call : ι) :
    ∃ turns, ∀ ended, ended = Runs.run step (start auth access_token refresh draws store)
        (List.replicate turns call) →
      match auth.refresh_token store access_token refresh (draws call).drawn (draws call).now with
      | .ok (response, later) => ended.state = later ∧ ended.progs call = .done (.ok response)
      | .error failure => ended.state = store ∧ ended.progs call = .done (.error failure) := by
  obtain ⟨turns, ends⟩ := run_alone (start auth access_token refresh draws store) call
  refine ⟨turns, ?_⟩
  rintro ended rfl
  have whole : ((start auth access_token refresh draws store).progs call).run store = _ :=
    refresh_token_run auth refresh (draws call).drawn (draws call).now access_token store
  rw [ends]
  have state : (start auth access_token refresh draws store).state = store := rfl
  rw [state, whole]
  cases auth.refresh_token store access_token refresh (draws call).drawn (draws call).now with
  | ok answered => exact ⟨rfl, Function.update_self _ _ _⟩
  | error failure => exact ⟨rfl, Function.update_self _ _ _⟩

theorem run_consuming [DecidableEq ι] {auth : Auth Token} {usr refresh : String}
    {claims : Claims} (draw : Moment) {calls : Calls ι Token} {turn : ι}
    (stands : calls.progs turn = consuming auth usr claims refresh draw.drawn draw.now) :
    ∃ store, Runs.run step calls [turn, turn] =
      { state := store
        progs := Function.update calls.progs turn
          (.done (.ok ⟨auth.encode claims draw.now, some draw.drawn⟩)) } := by
  have deleted := step_act stands
  have issues : (step calls turn).progs turn = issuing auth usr claims draw.drawn draw.now := by
    rw [deleted]
    exact Function.update_self _ _ _
  refine ⟨(calls.state.delete (usr ++ "." ++ refresh)).put (usr ++ "." ++ draw.drawn) usr
    auth.conf.ttl_refresh_token, ?_⟩
  rw [Runs.run_cons, Runs.run_cons, step_act issues, deleted]
  simp only [Function.update_idem]
  rfl

/-- A call that finds the token while another one stands before its delete can always be
followed by turns that let both redeem it. -/
theorem overlap_redeems_twice [DecidableEq ι] {auth : Auth Token} {usr refresh : String}
    {claims : Claims} (draws : ι → Moment) {calls : Calls ι Token} {late early : ι}
    (different : late ≠ early)
    (checks : calls.progs late =
      checking auth usr claims refresh (draws late).drawn (draws late).now)
    (present : TokenStore.get calls.state (usr ++ "." ++ refresh) = some usr)
    (stands : calls.progs early =
      consuming auth usr claims refresh (draws early).drawn (draws early).now) :
    ¬RedeemedOnce (Runs.run step calls ([late] ++ ([early, early] ++ [late, late]))) := by
  -- late checks, early goes through to its end, and late still may delete and store
  have checked := step_act checks
  rw [if_pos present.symm] at checked
  have earlyStands : (step calls late).progs early =
      consuming auth usr claims refresh (draws early).drawn (draws early).now := by
    rw [step_progs_ne calls (Ne.symm different), stands]
  obtain ⟨store, redeemed⟩ := run_consuming (draws early) earlyStands
  have lateStands : (Runs.run step (step calls late) [early, early]).progs late =
      consuming auth usr claims refresh (draws late).drawn (draws late).now := by
    rw [redeemed]
    simp only [Function.update_of_ne different]
    rw [checked]
    exact Function.update_self _ _ _
  obtain ⟨last, again⟩ := run_consuming (draws late) lateStands
  have ends : Runs.run step calls ([late] ++ ([early, early] ++ [late, late])) =
      Runs.run step (Runs.run step (step calls late) [early, early]) [late, late] := rfl
  rw [ends, again, redeemed]
  intro once
  refine different (once late early
    ⟨auth.encode claims (draws late).now, some (draws late).drawn⟩
    ⟨auth.encode claims (draws early).now, some (draws early).drawn⟩ ?_ ?_)
  · exact Function.update_self _ _ _
  · simp only [Function.update_of_ne (Ne.symm different)]
    exact Function.update_self _ _ _

/-! One call alone, and two calls that take turns. -/

theorem checking_ne_consuming (auth : Auth Token) (usr : String) (claims : Claims)
    (refresh drawn other : String) (now later : Int) :
    checking auth usr claims refresh drawn now ≠
      consuming auth usr claims refresh other later := by
  intro same
  have effects := congrFun (Prog.act.inj same).1 fun _ => some usr
  have read := congrArg (TokenStore.get · (usr ++ "." ++ refresh)) effects
  simp only [TokenStore.get_delete, if_true] at read
  cases read

theorem checking_ne_issuing (auth : Auth Token) (usr : String) (claims : Claims)
    (refresh drawn other : String) (now later : Int) :
    checking auth usr claims refresh drawn now ≠ issuing auth usr claims other later := by
  intro same
  have effects := congrFun (Prog.act.inj same).1 fun _ => none
  have read := congrArg (TokenStore.get · (usr ++ "." ++ other)) effects
  simp only [TokenStore.get_put_self] at read
  cases read

theorem undivided_start (auth : Auth Token) (access_token : Token) (refresh : String)
    (draws : ι → Moment) (store : TokenStore) (turn : ι) :
    Undivided auth access_token refresh draws (start auth access_token refresh draws store)
      turn := by
  intro claims usr decoded user
  have checks : ∀ call, (start auth access_token refresh draws store).progs call =
      checking auth usr claims refresh (draws call).drawn (draws call).now :=
    fun call => refresh_token_checking auth usr claims refresh _ _ decoded user
  constructor
  · intro _ _ other
    rw [checks other]
    exact checking_ne_consuming _ _ _ _ _ _ _ _
  · intro issues
    rw [checks turn] at issues
    exact absurd issues (checking_ne_issuing _ _ _ _ _ _ _ _)

def draws (_ : Nat) : Moment := ⟨"second", 60⟩

def firstCall : Calls Nat Claims :=
  start RefreshFlow.Sample.auth RefreshFlow.Sample.session.client.access_token "first" draws
    RefreshFlow.Sample.session.store

end Calls

end RefreshRaces

end LabFunctions
