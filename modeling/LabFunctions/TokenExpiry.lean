import LabFunctions.DisabledUsers

/-!
The clock behind `Auth.encode` and `Auth.validate`: when a token is made the naive UTC time is
read as local time, and when it is checked the second of the epoch is taken as it is. Times are
in microseconds since the epoch.
-/

namespace LabFunctions

/-- The machine a token is made on: its UTC offset, in seconds, at a reading of its own clock. -/
structure Host where
  utcoffset : Int → Int

namespace Host

def minutes (count : Int) : Int := 60 * 1000000 * count

/-- The epoch second that PyJWT compares with. -/
def second (time : Int) : Int := time / 1000000

/-- `datetime.min` and `datetime.max` -/
def datetimes : Int × Int := (-62135596800000000, 253402300799999999)

def timestamp (host : Host) (naive : Int) : Int := naive - 1000000 * host.utcoffset naive

/-- A time that `datetime` can hold. -/
def Dated (time : Int) : Prop := datetimes.1 ≤ time ∧ time ≤ datetimes.2

instance (time : Int) : Decidable (Dated time) := inferInstanceAs (Decidable (_ ∧ _))

def get_delta (host : Host) (now delta_min : Int) : Except Exn Int :=
  if Dated (now + minutes delta_min) then
    .ok (Int.tdiv (host.timestamp (now + minutes delta_min)) 1000000)
  else .error (.otherError "date value out of range")

variable {Token : Type}

def encode (host : Host) (py : PyJwt Token) (conf : JWTConfig) (payload : Claims) (now : Int)
    (exp : Option Int := none) : Except Exn Token := do
  let exp ←
    match exp.filter (· ≠ 0) with
    | some exp => .ok exp
    | none => host.get_delta now conf.exp_min
  return py.sign (Auth._build_payload conf payload exp)

def get_jwt_token (host : Host) (py : PyJwt Token) (conf : JWTConfig) (store : TokenStore)
    (user : UserModel) (exp : Int) (moment : Moment) :
    Except Exn (JWTResponse Token × TokenStore) := do
  let delta ← host.get_delta moment.now exp
  let access_token ← host.encode py conf (UsersMg.claims user) moment.now (some delta)
  let auth : Auth Token := { jwt := py.jwt conf (second moment.now), conf := conf }
  let (rftkn, store) := auth.store_refresh_token store user.username moment.drawn
  return (⟨access_token, some rftkn⟩, store)

/-- On a machine that keeps UTC the expiry is that of `Auth.get_delta`. -/
theorem get_delta_utc {host : Host} {now delta_min exp : Int} (since : 0 ≤ now)
    (positive : 0 < delta_min) (utc : ∀ naive, host.utcoffset naive = 0)
    (got : host.get_delta now delta_min = .ok exp) :
    exp = Auth.get_delta (second now) delta_min := by
  unfold get_delta at got
  split at got
  · obtain rfl := Except.ok.inj got
    rw [timestamp, utc, Int.tdiv_eq_ediv_of_nonneg (by unfold minutes; omega)]
    unfold Auth.get_delta second minutes
    omega
  · cases got

end Host

namespace TokenExpiry

open Host

variable {Token : Type}

inductive Maker where
  | encode (payload : Claims)
  | get_jwt_token (store : TokenStore) (user : UserModel) (exp : Int) (drawn : String)

namespace Maker

def make (host : Host) (py : PyJwt Token) (conf : JWTConfig) (now : Int) : Maker → Except Exn Token
  | .encode payload => host.encode py conf payload now
  | .get_jwt_token store user exp drawn =>
      (host.get_jwt_token py conf store user exp ⟨drawn, now⟩).map fun made => made.1.access_token

def payload : Maker → Claims
  | .encode payload => payload
  | .get_jwt_token _ user _ _ => UsersMg.claims user

def exp_min (conf : JWTConfig) : Maker → Int
  | .encode _ => conf.exp_min
  | .get_jwt_token _ _ exp _ => exp

/-- The minutes its expiry is made of: `encode` takes an expiry of 0 for none. -/
def taken (host : Host) (conf : JWTConfig) (now : Int) : Maker → Int
  | .encode _ => conf.exp_min
  | .get_jwt_token _ _ exp _ => if host.get_delta now exp = .ok 0 then conf.exp_min else exp

end Maker

section Claims

variable (host : Host) (py : PyJwt Token) (conf : JWTConfig) (required_scopes : Option (List String))
  (require_all : Bool)

/-- From its making the token is accepted for its minutes, and refused after them. -/
def Lives (maker : Maker) (now : Int) : Prop :=
  ∀ token, maker.make host py conf now = .ok token →
    (∀ later, now ≤ later → later < now + minutes (maker.exp_min conf) →
      ∃ claims, Auth.validate py conf token required_scopes (second later) require_all =
        .ok claims) ∧
      -- the second in which they end is not cut
      ∀ later, now + minutes (maker.exp_min conf) + 1000000 ≤ later →
        Auth.validate py conf token required_scopes (second later) require_all =
          .error .authValidationFailed

/-- The token passes every check but that of its expiry. -/
def Sound (payload : Claims) (now : Int) : Prop :=
  py.validate_claims { verify_exp := false, require := conf.requires_claims } none none
      (second now) (Auth._build_payload conf payload 0) = true ∧
    ∃ claims, Auth.check_scopes required_scopes require_all payload = .ok claims

/-- What the conversion takes from the expiry: the offset, and the rest of the second. -/
def lost (maker : Maker) (now : Int) : Int :=
  minutes (maker.exp_min conf) - minutes (maker.taken host conf now) +
    1000000 * host.utcoffset (now + minutes (maker.taken host conf now)) + now % 1000000

def Timely (maker : Maker) (now : Int) : Prop :=
  0 ≤ lost host conf maker now ∧ lost host conf maker now ≤ 1000000

end Claims

section Facts

variable {host : Host} {py : PyJwt Token} {conf : JWTConfig}
  {required_scopes : Option (List String)} {require_all : Bool}

theorem get_delta_eq_ok {now delta_min exp : Int} :
    host.get_delta now delta_min = .ok exp ↔ Dated (now + minutes delta_min) ∧
      exp = Int.tdiv (host.timestamp (now + minutes delta_min)) 1000000 := by
  unfold Host.get_delta
  by_cases dated : Dated (now + minutes delta_min)
  · simp [dated, eq_comm]
  · simp [dated]

theorem encode_eq_ok {payload : Claims} {now : Int} {token : Token} :
    host.encode py conf payload now = .ok token ↔
      ∃ exp, host.get_delta now conf.exp_min = .ok exp ∧
        token = py.sign (Auth._build_payload conf payload exp) := by
  unfold Host.encode
  cases got : host.get_delta now conf.exp_min with
  | error failure => simp [bind, Except.bind]
  | ok exp => simp [bind, Except.bind, pure, Except.pure, eq_comm]

theorem encode_zero (payload : Claims) (now : Int) :
    host.encode py conf payload now (some 0) = host.encode py conf payload now := rfl

theorem encode_given (payload : Claims) (now : Int) {exp : Int} (given : exp ≠ 0) :
    host.encode py conf payload now (some exp) =
      .ok (py.sign (Auth._build_payload conf payload exp)) := by
  unfold Host.encode
  rw [Option.filter_some_pos (by simpa using given)]
  rfl

theorem access_get_jwt_token (store : TokenStore) (user : UserModel) (exp : Int)
    (moment : Moment) :
    (host.get_jwt_token py conf store user exp moment).map (fun made => made.1.access_token) =
      host.get_delta moment.now exp >>= fun delta =>
        host.encode py conf (UsersMg.claims user) moment.now (some delta) := by
  unfold Host.get_jwt_token
  cases host.get_delta moment.now exp with
  | error failure => rfl
  | ok delta =>
      simp only [bind, Except.bind]
      cases host.encode py conf (UsersMg.claims user) moment.now (some delta) <;> rfl

theorem make_eq_ok {maker : Maker} {now : Int} {token : Token} :
    maker.make host py conf now = .ok token ↔
      Dated (now + minutes (maker.exp_min conf)) ∧
        ∃ exp, host.get_delta now (maker.taken host conf now) = .ok exp ∧
          token = py.sign (Auth._build_payload conf maker.payload exp) := by
  cases maker with
  | encode payload =>
      simp only [Maker.make, Maker.exp_min, Maker.taken, Maker.payload, encode_eq_ok]
      constructor
      · rintro ⟨exp, got, made⟩
        exact ⟨(get_delta_eq_ok.mp got).1, exp, got, made⟩
      · rintro ⟨_, made⟩
        exact made
  | get_jwt_token store user exp drawn =>
      simp only [Maker.make, Maker.exp_min, Maker.taken, Maker.payload, access_get_jwt_token]
      cases got : host.get_delta now exp with
      | error failure =>
          have undated : ¬Dated (now + minutes exp) := by
            intro dated
            rw [Host.get_delta, if_pos dated] at got
            cases got
          simp [bind, Except.bind, undated]
      | ok delta =>
          have dated := (get_delta_eq_ok.mp got).1
          simp only [bind, Except.bind, dated, true_and, Except.ok.injEq]
          by_cases zero : delta = 0
          · rw [zero, encode_zero, encode_eq_ok, if_pos rfl]
          · rw [encode_given _ _ zero, if_neg zero, got]
            simp [eq_comm]

/-- The expiry is one check among the others, which do not look at it. -/
theorem validate_claims_built (payload : Claims) (exp now : Int) :
    py.validate_claims { verify_exp := true, require := conf.requires_claims } none none now
        (Auth._build_payload conf payload exp) =
      (py.validate_claims { verify_exp := false, require := conf.requires_claims } none none now
        (Auth._build_payload conf payload 0) && decide (now ≤ exp)) := by
  have others := (py.jwt conf now).valid_exp
    (Auth.setText (Auth.setText payload "iss" conf.issuer) "aud" conf.audience) exp 0
  have expiry : py.timeClaim (Auth._build_payload conf payload exp) "exp"
      (fun exp => decide (now ≤ exp)) = decide (now ≤ exp) := by
    unfold PyJwt.timeClaim Auth._build_payload
    rw [Dict.lookup_set_self]
    simp only [py.int_int]
  have same : py.validate_claims { verify_exp := false, require := conf.requires_claims } none none
      now (Auth._build_payload conf payload exp) =
      py.validate_claims { verify_exp := false, require := conf.requires_claims } none none now
        (Auth._build_payload conf payload 0) := others
  rw [← same]
  unfold PyJwt.validate_claims
  rw [expiry]
  simp only [Bool.not_true, Bool.false_or, Bool.not_false, Bool.true_or, Bool.and_true]
  ac_rfl

theorem check_scopes_built (conf : JWTConfig) (payload : Claims) (exp : Int) :
    (∃ claims, Auth.check_scopes required_scopes require_all
        (Auth._build_payload conf payload exp) = .ok claims) ↔
      ∃ claims, Auth.check_scopes required_scopes require_all payload = .ok claims := by
  have scopes : Auth.user_scopes (Auth._build_payload conf payload exp) =
      Auth.user_scopes payload := by
    unfold Auth.user_scopes
    rw [Auth.lookup_build_payload _ _ _ (by decide) (by decide) (by decide)]
  unfold Auth.check_scopes
  rw [scopes]
  split
  · simp
  · simp
  · cases Auth.user_scopes payload with
    | error failure => simp [bind, Except.bind]
    | ok user =>
        simp only [bind, Except.bind]
        split <;> simp [pure, Except.pure, throw, throwThe, MonadExceptOf.throw]

theorem second_le {earlier later : Int} (before : earlier ≤ later) :
    second earlier ≤ second later := by
  unfold second
  omega

/-- A token whose `nbf` has been reached stays good for it. -/
theorem sound_later {payload : Claims} {now later : Int} (before : now ≤ later)
    (sound : Sound py conf required_scopes require_all payload now) :
    Sound py conf required_scopes require_all payload later := by
  have passed := second_le before
  refine ⟨?_, sound.2⟩
  have checked := sound.1
  unfold PyJwt.validate_claims at checked ⊢
  simp only [Bool.and_eq_true] at checked ⊢
  obtain ⟨⟨⟨⟨⟨required, iat⟩, nbf⟩, exp⟩, iss⟩, aud⟩ := checked
  refine ⟨⟨⟨⟨⟨required, iat⟩, ?_⟩, exp⟩, iss⟩, aud⟩
  unfold PyJwt.timeClaim at nbf ⊢
  split at nbf
  · rfl
  · split at nbf
    · simp only [decide_eq_true_eq] at nbf ⊢
      omega
    · cases nbf

theorem accepted_iff {payload : Claims} {exp time : Int} :
    (∃ claims, Auth.validate py conf (py.sign (Auth._build_payload conf payload exp))
        required_scopes (second time) require_all = .ok claims) ↔
      Sound py conf required_scopes require_all payload time ∧ second time ≤ exp := by
  rw [Auth.validate_sign, validate_claims_built]
  unfold Sound
  rw [← check_scopes_built conf payload exp]
  by_cases checked : py.validate_claims { verify_exp := false, require := conf.requires_claims }
      none none (second time) (Auth._build_payload conf payload 0) = true
  · by_cases fresh : second time ≤ exp
    · simp [checked, fresh]
    · simp [checked, fresh]
  · simp [checked]

theorem refused_of_expired {payload : Claims} {exp time : Int} (expired : exp < second time) :
    Auth.validate py conf (py.sign (Auth._build_payload conf payload exp)) required_scopes
      (second time) require_all = .error .authValidationFailed := by
  have late : decide (second time ≤ exp) = false := by
    simp only [decide_eq_false_iff_not]
    omega
  rw [Auth.validate_sign, validate_claims_built, late, Bool.and_false]
  rfl

/-- The last second in which an expiry is accepted ends with the lifetime, or within a second of
its end. -/
theorem timely_iff {maker : Maker} {now exp : Int} (since : 0 ≤ now)
    (positive : 0 < maker.exp_min conf)
    (got : host.get_delta now (maker.taken host conf now) = .ok exp) :
    Timely host conf maker now ↔
      now + minutes (maker.exp_min conf) ≤ 1000000 * (exp + 1) ∧
        1000000 * (exp + 1) ≤ now + minutes (maker.exp_min conf) + 1000000 := by
  obtain ⟨_, expiry⟩ := get_delta_eq_ok.mp got
  unfold Timely lost
  unfold Host.timestamp at expiry
  generalize maker.taken host conf now = taken at expiry ⊢
  generalize host.utcoffset (now + minutes taken) = offset at expiry ⊢
  generalize maker.exp_min conf = promised at positive ⊢
  unfold minutes at expiry ⊢
  rcases Int.le_total 0 (now + 60 * 1000000 * taken - 1000000 * offset) with after | before
  · rw [Int.tdiv_eq_ediv_of_nonneg after] at expiry
    omega
  · -- an expiry before the epoch is rounded up, and is long past
    have past : exp ≤ 0 := by
      have opposite := Int.tdiv_nonneg (Int.neg_nonneg.mpr before) (by decide : (0 : Int) ≤ 1000000)
      rw [Int.neg_tdiv] at opposite
      omega
    omega

end Facts

/-- A token lives its minutes exactly when it passes the other checks and the offset of the
machine takes nothing from its expiry, or less than the second that is rounded off anyway. -/
theorem lives_iff (host : Host) (py : PyJwt Token) (conf : JWTConfig) (maker : Maker) (now : Int)
    (required_scopes : Option (List String)) (require_all : Bool) (since : 0 ≤ now)
    (positive : 0 < maker.exp_min conf) :
    Lives host py conf required_scopes require_all maker now ↔
      (Dated (now + minutes (maker.exp_min conf)) →
        Dated (now + minutes (maker.taken host conf now)) →
        Sound py conf required_scopes require_all maker.payload now ∧
          Timely host conf maker now) := by
  have minute : 60 * 1000000 ≤ minutes (maker.exp_min conf) := by
    unfold minutes
    omega
  constructor
  · intro lives promised taken
    obtain ⟨exp, got⟩ : ∃ exp, host.get_delta now (maker.taken host conf now) = .ok exp :=
      ⟨_, get_delta_eq_ok.mpr ⟨taken, rfl⟩⟩
    obtain ⟨accepted, refused⟩ := lives _ (make_eq_ok.mpr ⟨promised, exp, got, rfl⟩)
    have sound := (accepted_iff.mp (accepted now (by omega) (by omega))).1
    refine ⟨sound, (timely_iff since positive got).mpr ⟨?_, ?_⟩⟩
    · have last := (accepted_iff.mp (accepted (now + minutes (maker.exp_min conf) - 1) (by omega)
        (by omega))).2
      unfold second at last
      omega
    · by_contra longer
      have fresh : second (now + minutes (maker.exp_min conf) + 1000000) ≤ exp := by
        unfold second
        omega
      have still : Sound py conf required_scopes require_all maker.payload
          (now + minutes (maker.exp_min conf) + 1000000) := sound_later (by omega) sound
      obtain ⟨claims, again⟩ := accepted_iff.mpr ⟨still, fresh⟩
      rw [refused _ (by omega)] at again
      cases again
  · intro condition token made
    obtain ⟨promised, exp, got, rfl⟩ := make_eq_ok.mp made
    obtain ⟨sound, timely⟩ := condition promised (get_delta_eq_ok.mp got).1
    obtain ⟨lower, upper⟩ := (timely_iff since positive got).mp timely
    constructor
    · intro later after before
      refine accepted_iff.mpr ⟨sound_later after sound, ?_⟩
      unfold second
      omega
    · intro later after
      apply refused_of_expired
      unfold second
      omega

namespace Sample

def login : Maker := .encode [("usr", .str "ada")]

def now : Int := 1650000000 * 1000000

def utc : Host := ⟨fun _ => 0⟩

def paris : Host := ⟨fun _ => 3600⟩

end Sample

theorem lives_sample :
    (0 ≤ Sample.now ∧ 0 < Sample.login.exp_min {}) ∧
      Lives Sample.utc TokenClaims.Sample.py {} none true Sample.login Sample.now := by
  have since : 0 ≤ Sample.now := by decide
  have positive : 0 < Sample.login.exp_min {} := by decide
  refine ⟨⟨since, positive⟩, (lives_iff _ _ _ _ _ _ _ since positive).mpr ?_⟩
  intro _ _
  exact ⟨⟨rfl, _, rfl⟩, by decide, by decide⟩

/-- An hour east of UTC a token of thirty minutes has expired when it is made. -/
theorem expired_when_made :
    ¬∀ (host : Host) (now : Int), 0 ≤ now →
      Lives host TokenClaims.Sample.py {} none true Sample.login now := by
  intro lives
  have got : Sample.paris.get_delta Sample.now (Sample.login.taken Sample.paris {} Sample.now) =
      .ok (1650000000 - 1800) := rfl
  have dated : Dated (Sample.now + minutes (Sample.login.exp_min {})) := by decide
  have made : Sample.login.make Sample.paris TokenClaims.Sample.py {} Sample.now = .ok _ :=
    make_eq_ok.mpr ⟨dated, _, got, rfl⟩
  have accepted := (lives Sample.paris Sample.now (by decide) _ made).1 Sample.now (by decide)
    (by decide)
  exact absurd (accepted_iff.mp accepted).2 (by decide)

end TokenExpiry

end LabFunctions
