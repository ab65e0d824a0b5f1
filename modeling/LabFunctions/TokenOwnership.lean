import LabFunctions.TokenCalls

/-!
Whose refresh token a call redeems, and whose the tokens it returns are.
-/

namespace LabFunctions

namespace TokenOwnership

open Interleaved TokenCalls

variable {ι Token : Type}

/-- The user a call works for: the one it is called with, or the `usr` of its access token. -/
def owner (auth : Auth Token) : Request Token → Except Exn String
  | .store_refresh_token username _ => .ok username
  | .refresh_token access_token _ => auth.jwt.decode access_token >>= Auth.decodedUsr

section Claims

variable (auth : Auth Token) (requests : ι → Request Token) (moments : ι → Moment)

def Returned (calls : Calls ι Token) (call : ι) (usr token : String) : Prop :=
  owner auth (requests call) = .ok usr ∧
    ∃ answer, calls.progs call = .done (.ok answer) ∧ answer.refresh_token = some token

def Belongs (calls : Calls ι Token) (usr token : String) : Prop :=
  (∃ call, Returned auth requests calls call usr token) ∧
    ∀ call other, Returned auth requests calls call other token → other = usr

def Names (usr : String) (access_token : Token) : Prop :=
  ∃ payload now, access_token = auth.encode payload now ∧ payload.lookup "usr" = some (.str usr)

/-- If this turn makes `refresh_token` return new tokens, the presented one had been returned
for the user of the access token, and the new ones are that user's. -/
def Rightful [DecidableEq ι] (calls : Calls ι Token) (turn : ι) : Prop :=
  ∀ access_token refresh response, requests turn = .refresh_token access_token refresh →
    (∀ result, calls.progs turn ≠ .done result) →
    (step calls turn).progs turn = .done (.ok (.refreshed response)) →
    ∃ usr, owner auth (.refresh_token access_token refresh) = .ok usr ∧
      Belongs auth requests calls usr refresh ∧
      Names auth usr response.access_token ∧
      ∃ next, response.refresh_token = some next ∧ Belongs auth requests (step calls turn) usr next ∧
        (step calls turn).state.get (usr ++ "." ++ next) = some usr

end Claims

/-! The same of stages. -/

section Stages

variable (auth : Auth Token) (requests : ι → Request Token) (moments : ι → Moment)

def Gave (machine : Machine ι Token) (call : ι) (usr token : String) : Prop :=
  owner auth (requests call) = .ok usr ∧
    ∃ answer, machine.stage call = .ended (.ok answer) ∧ answer.refresh_token = some token

def Presents (request : Request Token) (usr : String) (claims : Claims) (refresh : String) : Prop :=
  ∃ access_token, request = .refresh_token access_token refresh ∧
    auth.jwt.decode access_token = .ok claims ∧ Auth.decodedUsr claims = .ok usr

def Fits (request : Request Token) (moment : Moment) : Stage Token → Prop
  | .storing username _ => owner auth request = .ok username
  | .checking usr claims refresh => Presents auth request usr claims refresh
  | .consuming usr claims refresh => Presents auth request usr claims refresh
  | .issuing usr claims refresh => Presents auth request usr claims refresh
  | .ended (.ok answer) => answer.refresh_token = some moment.drawn
  | .ended (.error _) => True

def redeems : Stage Token → Option (String × String)
  | .consuming usr _ refresh => some (usr, refresh)
  | .issuing usr _ refresh => some (usr, refresh)
  | _ => none

/-- Every entry of the store, and every token that has passed its check, was returned for the
user it stands for. -/
structure Traced (machine : Machine ι Token) : Prop where
  fits : ∀ call, Fits auth (requests call) (moments call) (machine.stage call)
  stored : ∀ key usr, machine.store.get key = some usr →
    ∃ call token, Gave auth requests machine call usr token ∧ key = usr ++ "." ++ token
  redeemed : ∀ call usr refresh, redeems (machine.stage call) = some (usr, refresh) →
    ∃ other, Gave auth requests machine other usr refresh

end Stages

section Invariant

variable {auth : Auth Token} {requests : ι → Request Token} {moments : ι → Moment}
  {calls : Calls ι Token} {machine : Machine ι Token}

theorem owner_of_presents {request : Request Token} {usr refresh : String} {claims : Claims}
    (presents : Presents auth request usr claims refresh) : owner auth request = .ok usr := by
  obtain ⟨access_token, rfl, decoded, user⟩ := presents
  simp [owner, decoded, user, bind, Except.bind]

theorem fits_first (request : Request Token) (moment : Moment) :
    Fits auth request moment (first auth request) := by
  cases request with
  | store_refresh_token username ttl => rfl
  | refresh_token access_token refresh =>
      cases decoded : auth.jwt.decode access_token with
      | error failure =>
          simp only [first, decoded]
          trivial
      | ok claims =>
          cases user : Auth.decodedUsr claims with
          | error failure =>
              simp only [first, decoded, user]
              trivial
          | ok usr =>
              simp only [first, decoded, user]
              exact ⟨access_token, rfl, decoded, user⟩

theorem fits_advance {request : Request Token} {moment : Moment} {stage : Stage Token}
    (store : TokenStore) (fits : Fits auth request moment stage) :
    Fits auth request moment (advance auth moment store stage).2 := by
  cases stage with
  | storing username ttl => rfl
  | checking usr claims refresh =>
      simp only [advance]
      split
      · exact fits
      · trivial
  | consuming usr claims refresh => exact fits
  | issuing usr claims refresh => rfl
  | ended result => exact fits

theorem not_redeems_first (request : Request Token) : redeems (first auth request) = none := by
  cases request with
  | store_refresh_token username ttl => rfl
  | refresh_token access_token refresh =>
      simp only [first]
      split
      · rfl
      · split <;> rfl

theorem traced_initial (auth : Auth Token) (requests : ι → Request Token) (moments : ι → Moment) :
    Traced auth requests moments (initial auth requests) := by
  refine ⟨fun call => fits_first (requests call) (moments call), ?_, ?_⟩
  · intro key usr found
    cases found
  · intro call usr refresh redeeming
    rw [initial, not_redeems_first] at redeeming
    cases redeeming

theorem returned_iff (follows : Follows auth moments calls machine) (call : ι)
    (usr token : String) :
    Returned auth requests calls call usr token ↔ Gave auth requests machine call usr token := by
  unfold Returned Gave
  simp only [follows.ended_iff]

theorem gave_drawn (traced : Traced auth requests moments machine) {call : ι}
    {usr token : String} (gave : Gave auth requests machine call usr token) :
    token = (moments call).drawn := by
  obtain ⟨_, answer, ended, returned⟩ := gave
  have fits := traced.fits call
  rw [ended] at fits
  exact Option.some.inj (returned.symm.trans fits)

theorem belongs_of_gave (unique : Function.Injective fun call => (moments call).drawn)
    (follows : Follows auth moments calls machine) (traced : Traced auth requests moments machine)
    {call : ι} {usr token : String} (gave : Gave auth requests machine call usr token) :
    Belongs auth requests calls usr token := by
  refine ⟨⟨call, (returned_iff follows call usr token).mpr gave⟩, ?_⟩
  intro other name returned
  have again := (returned_iff follows other name token).mp returned
  have same : other = call := unique ((gave_drawn traced again).symm.trans (gave_drawn traced gave))
  subst same
  exact Except.ok.inj (again.1.symm.trans gave.1)

variable [DecidableEq ι]

theorem stage_move_self (auth : Auth Token) (moments : ι → Moment) (machine : Machine ι Token)
    (turn : ι) :
    (move auth moments machine turn).stage turn =
      (advance auth (moments turn) machine.store (machine.stage turn)).2 :=
  Function.update_self _ _ _

theorem stage_move_ne (machine : Machine ι Token) {turn call : ι} (different : call ≠ turn) :
    (move auth moments machine turn).stage call = machine.stage call :=
  Function.update_of_ne different _ _

theorem gave_move {call : ι} {usr token : String}
    (gave : Gave auth requests machine call usr token) (turn : ι) :
    Gave auth requests (move auth moments machine turn) call usr token := by
  obtain ⟨owned, answer, ended, returned⟩ := gave
  refine ⟨owned, answer, ?_, returned⟩
  by_cases same : call = turn
  · subst same
    rw [stage_move_self, ended]
    rfl
  · rw [stage_move_ne machine same, ended]

/-- What an action leaves in the store was there, or is the token it returns. -/
theorem stored_advance (traced : Traced auth requests moments machine) (turn : ι)
    {key usr : String}
    (found : (move auth moments machine turn).store.get key = some usr) :
    machine.store.get key = some usr ∨
      Gave auth requests (move auth moments machine turn) turn usr (moments turn).drawn ∧
        key = usr ++ "." ++ (moments turn).drawn := by
  have stage := stage_move_self auth moments machine turn
  have fits := traced.fits turn
  simp only [move] at found
  cases at_ : machine.stage turn with
  | storing username ttl =>
      rw [at_] at found stage fits
      simp only [advance, TokenStore.get_put] at found
      split at found
      · rename_i same
        obtain rfl := Option.some.inj found
        exact Or.inr ⟨⟨fits, _, stage, rfl⟩, same⟩
      · exact Or.inl found
  | checking username claims refresh =>
      rw [at_] at found
      exact Or.inl found
  | consuming username claims refresh =>
      rw [at_] at found
      simp only [advance, TokenStore.get_delete] at found
      split at found
      · cases found
      · exact Or.inl found
  | issuing username claims refresh =>
      rw [at_] at found stage fits
      simp only [advance, TokenStore.get_put] at found
      split at found
      · rename_i same
        obtain rfl := Option.some.inj found
        exact Or.inr ⟨⟨owner_of_presents fits, _, stage, rfl⟩, same⟩
      · exact Or.inl found
  | ended result =>
      rw [at_] at found
      exact Or.inl found

/-- A token passes its check only if the store holds it for that very user. -/
theorem redeems_advance (moment : Moment) (store : TokenStore) {stage : Stage Token}
    {usr refresh : String}
    (redeeming : redeems (advance auth moment store stage).2 = some (usr, refresh)) :
    redeems stage = some (usr, refresh) ∨ store.get (usr ++ "." ++ refresh) = some usr := by
  cases stage with
  | storing username ttl => cases redeeming
  | checking username claims presented =>
      simp only [advance] at redeeming
      split at redeeming
      · rename_i held
        obtain ⟨rfl, rfl⟩ := Prod.mk.inj (Option.some.inj redeeming)
        exact Or.inr held.symm
      · cases redeeming
  | consuming username claims presented => exact Or.inl redeeming
  | issuing username claims presented => cases redeeming
  | ended result => exact Or.inl redeeming

theorem traced_move (traced : Traced auth requests moments machine) (turn : ι) :
    Traced auth requests moments (move auth moments machine turn) := by
  refine ⟨?_, ?_, ?_⟩
  · intro call
    by_cases same : call = turn
    · subst same
      rw [stage_move_self]
      exact fits_advance machine.store (traced.fits call)
    · rw [stage_move_ne machine same]
      exact traced.fits call
  · intro key usr found
    rcases stored_advance traced turn found with before | ⟨gave, key⟩
    · obtain ⟨call, token, gave, key⟩ := traced.stored key usr before
      exact ⟨call, token, gave_move gave turn, key⟩
    · exact ⟨turn, _, gave, key⟩
  · intro call usr refresh redeeming
    have before : redeems (machine.stage call) = some (usr, refresh) ∨
        machine.store.get (usr ++ "." ++ refresh) = some usr := by
      by_cases same : call = turn
      · subst same
        rw [stage_move_self] at redeeming
        exact redeems_advance _ _ redeeming
      · rw [stage_move_ne machine same] at redeeming
        exact Or.inl redeeming
    rcases before with redeemed | held
    · obtain ⟨other, gave⟩ := traced.redeemed call usr refresh redeemed
      exact ⟨other, gave_move gave turn⟩
    · obtain ⟨other, token, gave, key⟩ := traced.stored _ usr held
      -- the key is that of the user the entry stands for, so the rest of it is the token
      obtain rfl := RefreshFlow.key_inj key
      exact ⟨other, gave_move gave turn⟩

theorem traced_run (auth : Auth Token) (requests : ι → Request Token) (moments : ι → Moment)
    (schedule : List ι) :
    Traced auth requests moments (Runs.run (move auth moments) (initial auth requests) schedule) := by
  have kept : ∀ machine turn, Traced auth requests moments machine →
      Traced auth requests moments (move auth moments machine turn) :=
    fun _ turn traced => traced_move traced turn
  have traced := Runs.run_kept kept (traced_initial auth requests moments) schedule
  exact traced

theorem issuing_of_refreshed {stage : Stage Token} {moment : Moment} {store : TokenStore}
    {response : JWTResponse Token} (pending : ∀ result, stage ≠ .ended result)
    (ended : (advance auth moment store stage).2 = .ended (.ok (.refreshed response))) :
    ∃ usr claims refresh, stage = .issuing usr claims refresh ∧
      response = ⟨auth.encode claims moment.now, some moment.drawn⟩ := by
  cases stage with
  | storing username ttl => cases ended
  | checking usr claims refresh =>
      simp only [advance] at ended
      split at ended <;> cases ended
  | consuming usr claims refresh => cases ended
  | issuing usr claims refresh =>
      cases ended
      exact ⟨usr, claims, refresh, rfl, rfl⟩
  | ended result => exact absurd rfl (pending result)

theorem rightful_of_traced (unique : Function.Injective fun call => (moments call).drawn)
    (follows : Follows auth moments calls machine) (traced : Traced auth requests moments machine)
    (turn : ι) : Rightful auth requests calls turn := by
  intro access_token refresh response request pending returned
  have next := follows_step follows turn
  have ended := (next.ended_iff turn _).mp returned
  rw [stage_move_self] at ended
  obtain ⟨usr, claims, presented, at_, rfl⟩ := issuing_of_refreshed
    (fun result same => pending result ((follows.ended_iff turn result).mpr same)) ended
  have presents : Presents auth (requests turn) usr claims presented := by
    have fits := traced.fits turn
    rwa [at_] at fits
  have owned := owner_of_presents presents
  obtain ⟨access, asked, decoded, user⟩ := presents
  obtain ⟨_, rfl⟩ := Request.refresh_token.inj (request.symm.trans asked)
  obtain ⟨other, gave⟩ := traced.redeemed turn usr refresh (by rw [at_]; rfl)
  have gives : Gave auth requests (move auth moments machine turn) turn usr (moments turn).drawn :=
    ⟨owned, _, (next.ended_iff turn _).mp returned, rfl⟩
  have held : (step calls turn).state.get (usr ++ "." ++ (moments turn).drawn) = some usr := by
    rw [next.store]
    simp only [move, at_, advance, TokenStore.get_put_self]
  have named : Names auth usr (auth.encode claims (moments turn).now) :=
    ⟨claims, (moments turn).now, rfl, Auth.lookup_of_decodedUsr user⟩
  exact ⟨usr, by rw [← request, owned], belongs_of_gave unique follows traced gave, named,
    (moments turn).drawn, rfl, belongs_of_gave unique next (traced_move traced turn) gives, held⟩

end Invariant

namespace Sample

def access : Claims := RefreshFlow.Sample.session.client.access_token

def requests : Bool → Request Claims
  | false => .store_refresh_token "ada" none
  | true => .refresh_token access "first"

def moments : Bool → Moment
  | false => ⟨"first", 0⟩
  | true => ⟨"second", 60⟩

end Sample

end TokenOwnership

end LabFunctions
