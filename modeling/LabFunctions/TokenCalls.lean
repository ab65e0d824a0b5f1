import LabFunctions.RefreshRaces

/-!
Calls of `Auth.store_refresh_token` and `Auth.refresh_token` side by side, each with its own
arguments, and the stages they go through.
-/

namespace LabFunctions

namespace TokenCalls

open Interleaved

variable {ι Token : Type}

inductive Request (Token : Type) where
  | store_refresh_token (username : String) (ttl : Option Int)
  | refresh_token (access_token : Token) (refresh_token : String)

inductive Answer (Token : Type) where
  | stored (refresh : String)
  | refreshed (response : JWTResponse Token)

def Answer.refresh_token : Answer Token → Option String
  | .stored refresh => some refresh
  | .refreshed response => response.refresh_token

def task (auth : Auth Token) (moment : Moment) : Request Token → RefreshRaces.Task (Answer Token)
  | .store_refresh_token username ttl => do
      let refresh ← RefreshRaces.store_refresh_token auth username moment.drawn ttl
      return .stored refresh
  | .refresh_token access_token refresh_token => do
      let response ← RefreshRaces.refresh_token auth access_token refresh_token moment.drawn
        moment.now
      return .refreshed response

abbrev Calls (ι Token : Type) := World ι TokenStore (Except Exn (Answer Token))

def start (auth : Auth Token) (requests : ι → Request Token) (moments : ι → Moment) :
    Calls ι Token :=
  { state := fun _ => none
    progs := fun call => (task auth (moments call) (requests call)).run }

/-- Where a call stands: `username` and `usr` are the user it works for. -/
inductive Stage (Token : Type) where
  | storing (username : String) (ttl : Int)
  | checking (usr : String) (claims : Claims) (refresh : String)
  | consuming (usr : String) (claims : Claims) (refresh : String)
  | issuing (usr : String) (claims : Claims) (refresh : String)
  | ended (result : Except Exn (Answer Token))

def first (auth : Auth Token) : Request Token → Stage Token
  | .store_refresh_token username ttl => .storing username (auth.conf.lifetime ttl)
  | .refresh_token access_token refresh_token =>
      match auth.jwt.decode access_token with
      | .error failure => .ended (.error failure)
      | .ok claims =>
          match Auth.decodedUsr claims with
          | .error failure => .ended (.error failure)
          | .ok usr => .checking usr claims refresh_token

/-- One action on the store, and the stage it leads to. -/
def advance (auth : Auth Token) (moment : Moment) (store : TokenStore) :
    Stage Token → TokenStore × Stage Token
  | .storing username ttl =>
      (store.put (username ++ "." ++ moment.drawn) username ttl, .ended (.ok (.stored moment.drawn)))
  | .checking usr claims refresh =>
      (store,
        if some usr = store.get (usr ++ "." ++ refresh) then .consuming usr claims refresh
        else .ended (.error .authValidationFailed))
  | .consuming usr claims refresh =>
      (store.delete (usr ++ "." ++ refresh), .issuing usr claims refresh)
  | .issuing usr claims _ =>
      (store.put (usr ++ "." ++ moment.drawn) usr auth.conf.ttl_refresh_token,
        .ended (.ok (.refreshed ⟨auth.encode claims moment.now, some moment.drawn⟩)))
  | .ended result => (store, .ended result)

structure Machine (ι Token : Type) where
  store : TokenStore
  stage : ι → Stage Token

def initial (auth : Auth Token) (requests : ι → Request Token) : Machine ι Token :=
  { store := fun _ => none, stage := fun call => first auth (requests call) }

def move [DecidableEq ι] (auth : Auth Token) (moments : ι → Moment) (machine : Machine ι Token)
    (turn : ι) : Machine ι Token :=
  let (store, stage) := advance auth (moments turn) machine.store (machine.stage turn)
  { store := store, stage := Function.update machine.stage turn stage }

/-! The stages are those of the programs. -/

section Programs

variable (auth : Auth Token) (moment : Moment)

def answering (call : RefreshRaces.Call Token) : Prog TokenStore (Except Exn (Answer Token)) :=
  call.bind fun result => .done (result.map .refreshed)

def Stage.prog : Stage Token → Prog TokenStore (Except Exn (Answer Token))
  | .storing username ttl =>
      .act (TokenStore.put · (username ++ "." ++ moment.drawn) username ttl) fun _ =>
        .done (.ok (.stored moment.drawn))
  | .checking usr claims refresh =>
      answering (RefreshRaces.checking auth usr claims refresh moment.drawn moment.now)
  | .consuming usr claims refresh =>
      answering (RefreshRaces.consuming auth usr claims refresh moment.drawn moment.now)
  | .issuing usr claims _ =>
      answering (RefreshRaces.issuing auth usr claims moment.drawn moment.now)
  | .ended result => .done result

theorem prog_eq_done {stage : Stage Token} {result : Except Exn (Answer Token)} :
    stage.prog auth moment = .done result ↔ stage = .ended result := by
  cases stage with
  | ended other => simp [Stage.prog]
  | storing username ttl => simp [Stage.prog]
  | checking usr claims refresh =>
      simp [Stage.prog, answering, RefreshRaces.checking, Prog.bind]
  | consuming usr claims refresh =>
      simp [Stage.prog, answering, RefreshRaces.consuming, Prog.bind]
  | issuing usr claims refresh =>
      simp [Stage.prog, answering, RefreshRaces.issuing, Prog.bind]

theorem task_refresh_token (access_token : Token) (refresh_token : String) :
    (task auth moment (.refresh_token access_token refresh_token)).run =
      answering (RefreshRaces.refresh_token auth access_token refresh_token moment.drawn
        moment.now).run := by
  unfold answering task
  simp only [bind, ExceptT.bind, ExceptT.run, ExceptT.mk]
  refine congrArg _ (funext fun result => ?_)
  cases result <;> rfl

theorem task_first (request : Request Token) :
    (task auth moment request).run = (first auth request).prog auth moment := by
  cases request with
  | store_refresh_token username ttl => rfl
  | refresh_token access_token refresh =>
      rw [task_refresh_token]
      rcases RefreshRaces.decoded_cases auth access_token with
        ⟨claims, usr, decoded, user⟩ | ⟨failure, undecoded⟩
      · rw [RefreshRaces.refresh_token_checking auth usr claims refresh _ _ decoded user]
        simp only [first, decoded, user, Stage.prog]
      · rw [RefreshRaces.refresh_token_undecoded auth refresh _ _ undecoded]
        cases decoded : auth.jwt.decode access_token with
        | error other =>
            rw [decoded] at undecoded
            obtain rfl := Except.error.inj undecoded
            simp only [first, decoded]
            rfl
        | ok claims =>
            have user : Auth.decodedUsr claims = .error failure := by
              rw [decoded] at undecoded
              exact undecoded
            simp only [first, decoded, user]
            rfl

end Programs

structure Follows (auth : Auth Token) (moments : ι → Moment) (calls : Calls ι Token)
    (machine : Machine ι Token) : Prop where
  store : calls.state = machine.store
  progs : ∀ call, calls.progs call = (machine.stage call).prog auth (moments call)

section Simulation

variable {auth : Auth Token} {requests : ι → Request Token} {moments : ι → Moment}
  {calls : Calls ι Token} {machine : Machine ι Token}

theorem follows_start (auth : Auth Token) (requests : ι → Request Token) (moments : ι → Moment) :
    Follows auth moments (start auth requests moments) (initial auth requests) :=
  ⟨rfl, fun call => task_first auth (moments call) (requests call)⟩

theorem Follows.ended_iff (follows : Follows auth moments calls machine) (call : ι)
    (result : Except Exn (Answer Token)) :
    calls.progs call = .done result ↔ machine.stage call = .ended result := by
  rw [follows.progs call, prog_eq_done]

variable [DecidableEq ι]

theorem follows_act (follows : Follows auth moments calls machine) {turn : ι}
    {stage : Stage Token} {effect : TokenStore → TokenStore}
    {next : TokenStore → Prog TokenStore (Except Exn (Answer Token))}
    (at_ : machine.stage turn = stage)
    (acts : stage.prog auth (moments turn) = .act effect next)
    (advances : (advance auth (moments turn) machine.store stage).1 = effect machine.store)
    (leads : ((advance auth (moments turn) machine.store stage).2).prog auth (moments turn) =
      next machine.store) :
    Follows auth moments (step calls turn) (move auth moments machine turn) := by
  have stands : calls.progs turn = .act effect next := by
    rw [follows.progs turn, at_, acts]
  rw [step_act stands]
  constructor
  · rw [follows.store, move, at_]
    exact advances.symm
  · intro call
    by_cases same : call = turn
    · subst same
      simp only [Function.update_self, move, follows.store, at_]
      exact leads.symm
    · simp only [Function.update_of_ne same, move]
      exact follows.progs call

theorem follows_step (follows : Follows auth moments calls machine) (turn : ι) :
    Follows auth moments (step calls turn) (move auth moments machine turn) := by
  cases at_ : machine.stage turn with
  | storing username ttl => exact follows_act follows at_ rfl rfl rfl
  | checking usr claims refresh =>
      apply follows_act follows at_ rfl rfl
      simp only [advance]
      split <;> rfl
  | consuming usr claims refresh => exact follows_act follows at_ rfl rfl rfl
  | issuing usr claims refresh => exact follows_act follows at_ rfl rfl rfl
  | ended result =>
      rw [step_done ((follows.ended_iff turn result).mpr at_)]
      have still : move auth moments machine turn = machine := by
        simp only [move, at_, advance]
        rw [← at_, Function.update_eq_self]
      rw [still]
      exact follows

theorem follows_run (auth : Auth Token) (requests : ι → Request Token) (moments : ι → Moment)
    (schedule : List ι) :
    Follows auth moments (Runs.run step (start auth requests moments) schedule)
      (Runs.run (move auth moments) (initial auth requests) schedule) :=
  Runs.run_related (Follows auth moments) (fun _ _ turn follows => follows_step follows turn)
    (follows_start auth requests moments) schedule

end Simulation

end TokenCalls

end LabFunctions
