import LabFunctions.TokenOwnership

/-!
How long a refresh token is good for: the time to live goes from the settings through
`JWTConfig` and `Auth` to the store.
-/

namespace LabFunctions

/-- The settings that `auth_from_settings` reads, and the time to live, which it does not. -/
structure SecuritySettings where
  JWT_EXP : Int := 30
  JWT_REQUIRES_CLAIMS : List String := ["exp"]
  JWT_ISS : Option String := none
  JWT_AUD : Option String := none
  REFRESH_TOKEN_TTL : Int := 3600 * 168

def auth_from_settings (settings : SecuritySettings) : JWTConfig :=
  { exp_min := settings.JWT_EXP
    issuer := settings.JWT_ISS
    audience := settings.JWT_AUD
    requires_claims := settings.JWT_REQUIRES_CLAIMS }

/-- The configured time to live gets no further than the settings. -/
theorem auth_from_settings_ttl (settings : SecuritySettings) (ttl : Int) :
    auth_from_settings { settings with REFRESH_TOKEN_TTL := ttl } = auth_from_settings settings :=
  rfl

/-- `generate_token`: the hexadecimal digits of what `os.urandom` gives. -/
def generate_token (urandom : List UInt8) : String :=
  String.ofList (urandom.flatMap fun byte =>
    [Nat.digitChar (byte.toNat / 16), Nat.digitChar (byte.toNat % 16)])

theorem digitChar_ne_dot {digit : Nat} (bound : digit < 16) : Nat.digitChar digit ≠ '.' := by
  have every : ∀ digit : Fin 16, Nat.digitChar digit ≠ '.' := by decide
  exact every ⟨digit, bound⟩

theorem dot_not_mem_generate_token (urandom : List UInt8) :
    '.' ∉ (generate_token urandom).toList := by
  simp only [generate_token, String.toList_ofList, List.mem_flatMap, not_exists, not_and]
  intro byte _ member
  have high : byte.toNat / 16 < 16 := by
    have bound := byte.toNat_lt
    omega
  have low : byte.toNat % 16 < 16 := Nat.mod_lt _ (by omega)
  simp only [List.mem_cons, List.not_mem_nil, or_false] at member
  rcases member with same | same
  · exact digitChar_ne_dot high same.symm
  · exact digitChar_ne_dot low same.symm

namespace TokenLifetimes

open Interleaved TokenCalls TokenOwnership

variable {ι Token : Type}

def drawing (urandom : ι → List UInt8) (nows : ι → Int) (call : ι) : Moment :=
  ⟨generate_token (urandom call), nows call⟩

def lifetime (auth : Auth Token) : Request Token → Int
  | .store_refresh_token _ ttl => auth.conf.lifetime ttl
  | .refresh_token _ _ => auth.conf.lifetime none

section Claims

variable [DecidableEq ι] (auth : Auth Token) (requests : ι → Request Token)

/-- With this turn the call stores the token for the user. -/
def Stores (calls : Calls ι Token) (call : ι) (usr token : String) : Prop :=
  ¬Returned auth requests calls call usr token ∧
    Returned auth requests (step calls call) call usr token

/-- With this turn a call of the user that presents the token takes it out of the store. -/
def Redeems (calls : Calls ι Token) (call : ι) (usr token : String) : Prop :=
  (∃ access_token, requests call = .refresh_token access_token token) ∧
    owner auth (requests call) = .ok usr ∧
    calls.state.get (usr ++ "." ++ token) = some usr ∧
    (step calls call).state.get (usr ++ "." ++ token) = none

variable (moments : ι → Moment)

/-- A turn is that of one call, with the time in seconds at which it has it. -/
def reached (turns : List (ι × Int)) : Calls ι Token :=
  Runs.run step (start auth requests moments) (turns.map Prod.fst)

/-- The token has been stored, and not redeemed since. -/
def Outstanding (before : List (ι × Int)) (usr token : String) : Prop :=
  ∃ front storer rest, before = front ++ storer :: rest ∧
    Stores auth requests (reached auth requests moments front) storer.1 usr token ∧
    ∀ middle redeemer last, rest = middle ++ redeemer :: last →
      ¬Redeems auth requests (reached auth requests moments (front ++ storer :: middle)) redeemer.1
        usr token

/-- The token has been stored, and its lifetime has passed. -/
def Overdue (before : List (ι × Int)) (now : Int) (usr token : String) : Prop :=
  ∃ front storer rest, before = front ++ storer :: rest ∧
    Stores auth requests (reached auth requests moments front) storer.1 usr token ∧
    storer.2 + lifetime auth (requests storer.1) ≤ now

/-- With this turn a call of `refresh_token` begins that presents an overdue token. -/
structure Late (before : List (ι × Int)) (turn : ι × Int) (usr token : String) : Prop where
  begins : turn.1 ∉ before.map Prod.fst
  presents : ∃ access_token, requests turn.1 = .refresh_token access_token token
  user : owner auth (requests turn.1) = .ok usr
  overdue : Overdue auth requests moments before turn.2 usr token

def Expire (turns : List (ι × Int)) : Prop :=
  ∀ before turn after usr token, turns = before ++ turn :: after →
    Late auth requests moments before turn usr token →
    (step (reached auth requests moments before) turn.1).progs turn.1 =
      .done (.error .authValidationFailed)

def Spent (turns : List (ι × Int)) : Prop :=
  ∀ before turn after usr token, turns = before ++ turn :: after →
    Late auth requests moments before turn usr token →
    ¬Outstanding auth requests moments before usr token

end Claims

section Steps

variable {auth : Auth Token} {requests : ι → Request Token} {moments : ι → Moment}
  {calls : Calls ι Token} {machine : Machine ι Token}

theorem key_toList (usr token : String) :
    (usr ++ "." ++ token).toList = usr.toList ++ '.' :: token.toList := by
  simp

theorem key_cut {usr token other drawn : String} (clean : '.' ∉ token.toList)
    (cleanDrawn : '.' ∉ drawn.toList) (same : usr ++ "." ++ token = other ++ "." ++ drawn) :
    usr = other ∧ token = drawn := by
  have lists := congrArg String.toList same
  rw [key_toList, key_toList] at lists
  obtain ⟨front, back⟩ := Words.cut_inj clean cleanDrawn lists
  exact ⟨String.toList_inj.mp front, String.toList_inj.mp back⟩

/-- A token that the store holds for a user has been drawn. -/
theorem clean_of_held (clean : ∀ call, '.' ∉ (moments call).drawn.toList)
    (traced : Traced auth requests moments machine) {usr token : String}
    (held : machine.store.get (usr ++ "." ++ token) = some usr) : '.' ∉ token.toList := by
  obtain ⟨call, other, gave, key⟩ := traced.stored _ usr held
  obtain rfl := RefreshFlow.key_inj key
  rw [gave_drawn traced gave]
  exact clean call

theorem not_gave_of_pending {call : ι} (pending : ∀ result, machine.stage call ≠ .ended result)
    (usr token : String) : ¬Gave auth requests machine call usr token := by
  rintro ⟨_, answer, ended, _⟩
  exact pending _ ended

variable [DecidableEq ι]

theorem stores_iff (follows : Follows auth moments calls machine) (turn : ι) (usr token : String) :
    Stores auth requests calls turn usr token ↔
      ¬Gave auth requests machine turn usr token ∧
        Gave auth requests (move auth moments machine turn) turn usr token := by
  unfold Stores
  rw [returned_iff follows, returned_iff (follows_step follows turn)]

/-- After this turn the store holds the token for the user if the turn stores it, or if it was held
and the turn does not redeem it. -/
def Accounts (auth : Auth Token) (requests : ι → Request Token) (calls : Calls ι Token) (turn : ι)
    (usr token : String) : Prop :=
  (step calls turn).state.get (usr ++ "." ++ token) = some usr ↔
    Stores auth requests calls turn usr token ∨
      calls.state.get (usr ++ "." ++ token) = some usr ∧
        ¬Redeems auth requests calls turn usr token

theorem accounts_of_unchanged {turn : ι} {usr token : String}
    (unchanged : (step calls turn).state.get (usr ++ "." ++ token) =
      calls.state.get (usr ++ "." ++ token))
    (storesNot : ¬Stores auth requests calls turn usr token) :
    Accounts auth requests calls turn usr token := by
  unfold Accounts
  rw [unchanged]
  constructor
  · intro held
    refine Or.inr ⟨held, ?_⟩
    rintro ⟨_, _, _, gone⟩
    rw [unchanged, held] at gone
    cases gone
  · rintro (stores | ⟨held, _⟩)
    · exact absurd stores storesNot
    · exact held

theorem accounts_of_missing {turn : ι} {usr token : String}
    (missing : (step calls turn).state.get (usr ++ "." ++ token) ≠ some usr)
    (storesNot : ¬Stores auth requests calls turn usr token)
    (redeems : calls.state.get (usr ++ "." ++ token) = some usr →
      Redeems auth requests calls turn usr token) :
    Accounts auth requests calls turn usr token := by
  constructor
  · intro held
    exact absurd held missing
  · rintro (stores | ⟨held, kept⟩)
    · exact absurd stores storesNot
    · exact absurd (redeems held) kept

theorem accounts_put (clean : ∀ call, '.' ∉ (moments call).drawn.toList)
    (follows : Follows auth moments calls machine) (traced : Traced auth requests moments machine)
    {turn : ι} {username : String} {answer : Answer Token} (ttl : Int)
    (owned : owner auth (requests turn) = .ok username)
    (pending : ∀ result, machine.stage turn ≠ .ended result)
    (stage : (move auth moments machine turn).stage turn = .ended (.ok answer))
    (returned : answer.refresh_token = some (moments turn).drawn)
    (store : (move auth moments machine turn).store =
      machine.store.put (username ++ "." ++ (moments turn).drawn) username ttl)
    (usr token : String) : Accounts auth requests calls turn usr token := by
  have after : (step calls turn).state =
      calls.state.put (username ++ "." ++ (moments turn).drawn) username ttl := by
    rw [(follows_step follows turn).store, store, follows.store]
  have stores : Stores auth requests calls turn usr token ↔
      username = usr ∧ (moments turn).drawn = token := by
    rw [stores_iff follows]
    constructor
    · rintro ⟨_, mine, other, ended, token⟩
      obtain rfl := Except.ok.inj (Stage.ended.inj (stage.symm.trans ended))
      exact ⟨Except.ok.inj (owned.symm.trans mine), Option.some.inj (returned.symm.trans token)⟩
    · rintro ⟨rfl, rfl⟩
      exact ⟨not_gave_of_pending pending _ _, owned, answer, stage, returned⟩
  by_cases same : usr ++ "." ++ token = username ++ "." ++ (moments turn).drawn
  · have put : (step calls turn).state.get (usr ++ "." ++ token) = some username := by
      rw [after, TokenStore.get_put, if_pos same]
    by_cases mine : username = usr
    · subst mine
      exact iff_of_true put (Or.inl (stores.mpr ⟨rfl, (RefreshFlow.key_inj same).symm⟩))
    · refine accounts_of_missing ?_ (fun stored => mine (stores.mp stored).1) ?_
      · rw [put]
        exact fun found => mine (Option.some.inj found)
      · -- two users have no key in common, as long as the tokens were drawn
        intro held
        have cut := key_cut (clean_of_held clean traced (follows.store ▸ held)) (clean turn) same
        exact absurd cut.1.symm mine
  · refine accounts_of_unchanged ?_ ?_
    · rw [after, TokenStore.get_put, if_neg same]
    · intro stored
      obtain ⟨rfl, rfl⟩ := stores.mp stored
      exact same rfl

/-- An action that leaves the store as it is and returns no token. -/
theorem accounts_still (follows : Follows auth moments calls machine) {turn : ι}
    {usr token : String} (store : (move auth moments machine turn).store = machine.store)
    (returns : Gave auth requests (move auth moments machine turn) turn usr token →
      Gave auth requests machine turn usr token) :
    Accounts auth requests calls turn usr token := by
  refine accounts_of_unchanged ?_ ?_
  · rw [(follows_step follows turn).store, store, follows.store]
  · rw [stores_iff follows]
    rintro ⟨before, after⟩
    exact before (returns after)

theorem accounts_delete (clean : ∀ call, '.' ∉ (moments call).drawn.toList)
    (follows : Follows auth moments calls machine) (traced : Traced auth requests moments machine)
    {turn : ι} {username refresh : String} {claims : Claims}
    (at_ : machine.stage turn = .consuming username claims refresh) (usr token : String) :
    Accounts auth requests calls turn usr token := by
  have after : (step calls turn).state = calls.state.delete (username ++ "." ++ refresh) := by
    rw [(follows_step follows turn).store, follows.store]
    simp only [move, at_, advance]
  have storesNot : ¬Stores auth requests calls turn usr token := by
    rw [stores_iff follows]
    rintro ⟨_, _, answer, ended, _⟩
    rw [stage_move_self, at_] at ended
    cases ended
  have presents : Presents auth (requests turn) username claims refresh := by
    have fits := traced.fits turn
    rwa [at_] at fits
  by_cases same : usr ++ "." ++ token = username ++ "." ++ refresh
  · have gone : (step calls turn).state.get (usr ++ "." ++ token) = none := by
      rw [after, TokenStore.get_delete, if_pos same]
    apply accounts_of_missing (by simp [gone]) storesNot
    intro held
    obtain ⟨other, gave⟩ := traced.redeemed turn username refresh (by rw [at_]; rfl)
    have cleanRefresh : '.' ∉ refresh.toList := by
      rw [gave_drawn traced gave]
      exact clean other
    have cleanToken := clean_of_held clean traced (follows.store ▸ held)
    obtain ⟨rfl, rfl⟩ := key_cut cleanToken cleanRefresh same
    have user := owner_of_presents presents
    obtain ⟨access_token, request, _⟩ := presents
    exact ⟨⟨access_token, request⟩, user, held, gone⟩
  · refine accounts_of_unchanged ?_ storesNot
    rw [after, TokenStore.get_delete, if_neg same]

theorem accounts_step (clean : ∀ call, '.' ∉ (moments call).drawn.toList)
    (follows : Follows auth moments calls machine) (traced : Traced auth requests moments machine)
    (turn : ι) (usr token : String) : Accounts auth requests calls turn usr token := by
  have stage := stage_move_self auth moments machine turn
  have fits := traced.fits turn
  cases at_ : machine.stage turn with
  | storing username ttl =>
      rw [at_] at stage fits
      exact accounts_put clean follows traced ttl fits (by simp [at_]) stage rfl
        (by simp [move, at_, advance]) usr token
  | issuing username claims refresh =>
      rw [at_] at stage fits
      exact accounts_put clean follows traced auth.conf.ttl_refresh_token (owner_of_presents fits)
        (by simp [at_]) stage rfl (by simp [move, at_, advance]) usr token
  | checking username claims refresh =>
      apply accounts_still follows (by simp [move, at_, advance])
      rintro ⟨_, answer, ended, _⟩
      rw [stage, at_] at ended
      simp only [advance] at ended
      split at ended <;> cases ended
  | consuming username claims refresh => exact accounts_delete clean follows traced at_ usr token
  | ended result =>
      apply accounts_still follows (by simp [move, at_, advance])
      rintro ⟨owned, answer, ended, returned⟩
      rw [stage, at_] at ended
      exact ⟨owned, answer, at_.trans ended, returned⟩

end Steps

section Runs

variable [DecidableEq ι] {auth : Auth Token} {requests : ι → Request Token} {moments : ι → Moment}

theorem reached_snoc (turns : List (ι × Int)) (turn : ι × Int) :
    reached auth requests moments (turns ++ [turn]) =
      step (reached auth requests moments turns) turn.1 := by
  rw [reached, List.map_append, Runs.run_append]
  rfl

theorem outstanding_snoc (turns : List (ι × Int)) (turn : ι × Int) (usr token : String) :
    Outstanding auth requests moments (turns ++ [turn]) usr token ↔
      Stores auth requests (reached auth requests moments turns) turn.1 usr token ∨
        Outstanding auth requests moments turns usr token ∧
          ¬Redeems auth requests (reached auth requests moments turns) turn.1 usr token := by
  constructor
  · rintro ⟨front, storer, rest, split, stores, kept⟩
    rcases List.eq_nil_or_concat rest with rfl | ⟨earlier, last, rfl⟩
    · obtain ⟨rfl, same⟩ := List.append_inj' split rfl
      obtain rfl := List.head_eq_of_cons_eq same
      exact Or.inl stores
    · rw [List.concat_eq_append, ← List.cons_append, ← List.append_assoc] at split
      obtain ⟨rfl, same⟩ := List.append_inj' split rfl
      obtain rfl := List.head_eq_of_cons_eq same
      refine Or.inr ⟨⟨front, storer, earlier, rfl, stores, ?_⟩, ?_⟩
      · intro middle redeemer later between
        exact kept middle redeemer (later ++ [turn]) (by simp [between])
      · exact kept earlier turn [] (by simp)
  · rintro (stores | ⟨⟨front, storer, rest, rfl, stores, kept⟩, last⟩)
    · refine ⟨turns, turn, [], rfl, stores, ?_⟩
      intro middle redeemer later between
      simp at between
    · refine ⟨front, storer, rest ++ [turn], by simp, stores, ?_⟩
      intro middle redeemer later between
      rcases List.eq_nil_or_concat later with rfl | ⟨earlier, final, rfl⟩
      · obtain ⟨rfl, same⟩ := List.append_inj' between rfl
        obtain rfl := List.head_eq_of_cons_eq same
        exact last
      · rw [List.concat_eq_append, ← List.cons_append, ← List.append_assoc] at between
        obtain ⟨inside, _⟩ := List.append_inj' between rfl
        exact kept middle redeemer earlier inside

/-- The store holds a token for its user exactly while it is outstanding, however long that is. -/
theorem held_iff_outstanding (clean : ∀ call, '.' ∉ (moments call).drawn.toList)
    (turns : List (ι × Int)) (usr token : String) :
    (reached auth requests moments turns).state.get (usr ++ "." ++ token) = some usr ↔
      Outstanding auth requests moments turns usr token := by
  induction turns using List.reverseRecOn with
  | nil =>
      constructor
      · intro held
        cases held
      · rintro ⟨front, storer, rest, split, _⟩
        simp at split
  | append_singleton turns turn ih =>
      rw [reached_snoc, outstanding_snoc, ← ih]
      exact accounts_step clean (follows_run auth requests moments (turns.map Prod.fst))
        (traced_run auth requests moments _) turn.1 usr token

theorem stage_unmoved {schedule : List ι} {call : ι} (absent : call ∉ schedule)
    (machine : Machine ι Token) :
    (Runs.run (move auth moments) machine schedule).stage call = machine.stage call := by
  induction schedule generalizing machine with
  | nil => rfl
  | cons turn rest ih =>
      rw [List.mem_cons, not_or] at absent
      rw [Runs.run_cons, ih absent.2, stage_move_ne machine absent.1]

/-- A call that begins is refused exactly when the store does not hold its token. -/
theorem refused_iff {turns : List (ι × Int)} {call : ι} {access_token : Token}
    {usr token : String} (begins : call ∉ turns.map Prod.fst)
    (request : requests call = .refresh_token access_token token)
    (user : owner auth (requests call) = .ok usr) :
    (step (reached auth requests moments turns) call).progs call =
        .done (.error .authValidationFailed) ↔
      (reached auth requests moments turns).state.get (usr ++ "." ++ token) ≠ some usr := by
  have follows := follows_run auth requests moments (turns.map Prod.fst)
  have stands : ∃ claims,
      (Runs.run (move auth moments) (initial auth requests) (turns.map Prod.fst)).stage call =
        .checking usr claims token := by
    rw [request] at user
    rcases RefreshRaces.decoded_cases auth access_token with
      ⟨claims, other, decoded, named⟩ | ⟨failure, undecoded⟩
    · have same : other = usr := by
        simp only [owner, decoded, bind, Except.bind, named] at user
        exact Except.ok.inj user
      subst same
      refine ⟨claims, ?_⟩
      rw [stage_unmoved begins]
      simp only [initial, request, first, decoded, named]
    · rw [owner, undecoded] at user
      cases user
  obtain ⟨claims, at_⟩ := stands
  have state : (reached auth requests moments turns).state =
      (Runs.run (move auth moments) (initial auth requests) (turns.map Prod.fst)).store :=
    follows.store
  have ends := (follows_step follows call).ended_iff call (.error .authValidationFailed)
  rw [stage_move_self, at_] at ends
  rw [reached, ends, ← reached, state]
  simp only [advance]
  constructor
  · intro refused held
    rw [if_pos held.symm] at refused
    cases refused
  · intro missing
    rw [if_neg (Ne.symm missing)]

end Runs

namespace Sample

def requests : Bool → Request Claims
  | false => .store_refresh_token "ada" (some 60)
  | true => .refresh_token TokenOwnership.Sample.access (generate_token [1])

def urandom : Bool → List UInt8
  | false => [1]
  | true => [2]

end Sample

end TokenLifetimes

end LabFunctions
