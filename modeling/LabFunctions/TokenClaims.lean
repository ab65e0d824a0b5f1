import LabFunctions.Authentication
import LabFunctions.Library.Words

/-!
What a token says and who accepts it: `Auth.encode` and `Auth.decode` over the calls
`jwt.encode` and `jwt.decode`, for every configuration of issuer and audience.
-/

namespace LabFunctions

/-- PyJWT with the keys and the algorithm of one server: `verify` gives the claims of a token
whose signature is right. `int` is Python's `int` of a claim, if it does not raise. -/
structure PyJwt (Token : Type) where
  sign : Claims → Token
  verify : Token → Option Claims
  int : Json → Option Int
  verify_sign : ∀ claims, verify (sign claims) = some claims
  int_int : ∀ value, int (.int value) = some value

namespace PyJwt

structure Options where
  verify_exp : Bool
  require : List String

def given (claims : Claims) (claim : String) : Bool :=
  match claims.lookup claim with
  | none => false
  | some .null => false
  | some _ => true

def jsonTruthy : Json → Bool
  | .null => false
  | .bool value => value
  | .int value => value != 0
  | .float literal => literal != "0.0" && literal != "-0.0"
  | .str value => value != ""
  | .list items => !items.isEmpty
  | .dict entries => !entries.isEmpty

def isText : Json → Option String
  | .str text => some text
  | _ => none

section Validation

variable {Token : Type} (py : PyJwt Token)

def timeClaim (claims : Claims) (claim : String) (holds : Int → Bool) : Bool :=
  match claims.lookup claim with
  | none => true
  | some value =>
      match py.int value with
      | some time => holds time
      | none => false

def validate_iss (claims : Claims) (issuer : Option String) : Bool :=
  match issuer with
  | none => true
  | some issuer => (claims.lookup "iss").bind isText == some issuer

def validate_aud (claims : Claims) (audience : Option String) : Bool :=
  let carried := ((claims.lookup "aud").map jsonTruthy).getD false
  match audience with
  | none => !carried
  | some audience =>
      carried &&
        match claims.lookup "aud" with
        | some (.str text) => text == audience
        | some (.list items) =>
            items.all (fun item => (isText item).isSome) &&
              items.any (fun item => isText item == some audience)
        | _ => false

def validate_claims (options : Options) (audience issuer : Option String) (now : Int)
    (claims : Claims) : Bool :=
  options.require.all (given claims) &&
    py.timeClaim claims "iat" (fun _ => true) &&
    py.timeClaim claims "nbf" (fun nbf => decide (nbf ≤ now)) &&
    (!options.verify_exp || py.timeClaim claims "exp" fun exp => decide (now ≤ exp)) &&
    validate_iss claims issuer && validate_aud claims audience

/-- `jwt.decode`: of the keyword arguments it reads `audience` and `issuer`. -/
def decode (token : Token) (options : Options) (kwargs : List (String × Option String))
    (now : Int) : Except Exn Claims :=
  match py.verify token with
  | none => .error .invalidTokenError
  | some claims =>
      if py.validate_claims options ((kwargs.lookup "audience").getD none)
          ((kwargs.lookup "issuer").getD none) now claims
      then .ok claims else .error .invalidTokenError

end Validation

end PyJwt

namespace Auth

variable {Token : Type}

def orElse (value default : Option String) : Option String := if truthy value then value else default

def decode (py : PyJwt Token) (conf : JWTConfig) (encoded : Token) (now : Int)
    (verify_exp : Bool := true) (iss aud : Option String := none) : Except Exn Claims :=
  let _iss := orElse iss conf.issuer
  let _aud := orElse aud conf.audience
  -- the two names are not the ones `jwt.decode` reads
  py.decode encoded { verify_exp := verify_exp, require := conf.requires_claims }
    [("aud", _aud), ("iss", _iss)] now

theorem decode_sign (py : PyJwt Token) (conf : JWTConfig) (claims : Claims) (now : Int)
    (verify_exp : Bool) (iss aud : Option String) :
    decode py conf (py.sign claims) now verify_exp iss aud =
      if py.validate_claims { verify_exp := verify_exp, require := conf.requires_claims } none none
        now claims then .ok claims else .error .invalidTokenError := by
  unfold decode PyJwt.decode
  rw [py.verify_sign]
  rfl

end Auth

namespace Scopes

def scope2dict (scopes : List String) : List (String × List String) :=
  scopes.foldl (fun permissions scope =>
    match Words.split ':' scope with
    | [] => permissions
    | ns :: action =>
        let actions := if action = [] then ["any"] else action
        Dict.set permissions (if ns = "" then "any" else ns) actions) []

def validate (scopes user_scopes : List String) (require_all : Bool := true) : Bool :=
  let user_perms := scope2dict user_scopes
  let required := scope2dict scopes
  let intersection := required.filter fun entry => (user_perms.lookup entry.1).isSome
  if require_all ∧ required.length ≠ intersection.length ∧ required.lookup "any" = none then false
  else
    -- without `require_all` a set is compared with 0, which never holds
    intersection.any fun entry =>
      entry.2.any (fun action => ((user_perms.lookup entry.1).getD []).contains action) ||
        entry.2.contains "any"

/-- What the loop over the claim goes through: a text gives its characters. -/
def read : Json → Except Exn (List String)
  | .list items => items.mapM fun item =>
      match PyJwt.isText item with
      | some text => .ok text
      | none => .error .attributeError
  | .str text => .ok (text.toList.map String.singleton)
  | .dict entries => .ok (entries.map Prod.fst)
  | _ => .error (.typeError "object is not iterable")

end Scopes

namespace Auth

variable {Token : Type}

def user_scopes (decoded : Claims) : Except Exn (List String) :=
  match decoded.lookup "scopes" with
  | some scopes => Scopes.read scopes
  | none => .error (.keyError "scopes")

/-- The part of `validate` that follows `decode`. -/
def check_scopes (required_scopes : Option (List String)) (require_all : Bool) (decoded : Claims) :
    Except Exn Claims :=
  match required_scopes with
  | none => .ok decoded
  | some [] => .ok decoded
  | some required => do
      let scopes ← user_scopes decoded
      if Scopes.validate required scopes require_all then return decoded
      else throw .authValidationFailed

def validate (py : PyJwt Token) (conf : JWTConfig) (token : Token)
    (required_scopes : Option (List String)) (now : Int) (require_all : Bool := true)
    (iss aud : Option String := none) : Except Exn Claims :=
  match decode py conf token now true iss aud with
  | .ok decoded => check_scopes required_scopes require_all decoded
  | .error .invalidTokenError => .error .authValidationFailed
  | .error failure => .error failure

theorem validate_sign (py : PyJwt Token) (conf : JWTConfig) (claims : Claims)
    (required_scopes : Option (List String)) (now : Int) (require_all : Bool)
    (iss aud : Option String) :
    validate py conf (py.sign claims) required_scopes now require_all iss aud =
      if py.validate_claims { verify_exp := true, require := conf.requires_claims } none none now
        claims then check_scopes required_scopes require_all claims
      else .error .authValidationFailed := by
  unfold validate
  rw [decode_sign]
  by_cases valid : py.validate_claims { verify_exp := true, require := conf.requires_claims } none
      none now claims = true
  · rw [if_pos valid, if_pos valid]
  · rw [if_neg valid, if_neg valid]

end Auth

namespace PyJwt

variable {Token : Type}

theorem given_set_ne (claims : Claims) {claim other : String} (value : Json)
    (different : claim ≠ other) : given (Dict.set claims other value) claim = given claims claim := by
  unfold given
  rw [Dict.lookup_set_ne _ _ different]

theorem given_set_int (claims : Claims) (claim : String) (value : Int) :
    given (Dict.set claims claim (.int value)) claim = true := by
  unfold given
  rw [Dict.lookup_set_self]

theorem timeClaim_congr (py : PyJwt Token) {claims others : Claims} {claim : String}
    (same : claims.lookup claim = others.lookup claim) (holds : Int → Bool) :
    py.timeClaim claims claim holds = py.timeClaim others claim holds := by
  unfold timeClaim
  rw [same]

/-- PyJWT as the refresh exchange uses it: the signature is checked and the expiry is not. -/
def jwt (py : PyJwt Token) (conf : JWTConfig) (now : Int) : Jwt Token where
  encode := py.sign
  decode token := Auth.decode py conf token now false
  valid := py.validate_claims { verify_exp := false, require := conf.requires_claims } none none now
  decode_encode claims := Auth.decode_sign py conf claims now false none none
  valid_exp claims exp other := by
    have required : ∀ claim, given (Dict.set claims "exp" (.int exp)) claim =
        given (Dict.set claims "exp" (.int other)) claim := by
      intro claim
      by_cases same : claim = "exp"
      · rw [same, given_set_int, given_set_int]
      · rw [given_set_ne _ _ same, given_set_ne _ _ same]
    have others : ∀ claim, claim ≠ "exp" → (Dict.set claims "exp" (.int exp)).lookup claim =
        (Dict.set claims "exp" (.int other)).lookup claim := by
      intro claim different
      rw [Dict.lookup_set_ne _ _ different, Dict.lookup_set_ne _ _ different]
    have lists : given (Dict.set claims "exp" (.int exp)) =
        given (Dict.set claims "exp" (.int other)) := funext required
    simp only [validate_claims, lists, validate_iss, validate_aud, others "aud" (by decide),
      py.timeClaim_congr (others "iat" (by decide)), py.timeClaim_congr (others "nbf" (by decide)),
      Bool.not_false, Bool.true_or]

end PyJwt

/-! Both directions of the exchange, for one configuration and one payload. -/

namespace TokenClaims

variable {Token : Type}

def registered : List String := ["iss", "sub", "aud", "exp", "nbf", "iat", "jti"]

def Unregistered (payload : Claims) : Prop := ∀ claim ∈ registered, payload.lookup claim = none

def configured (value : Option String) : Option Json :=
  if truthy value then some (.str (pyOr value "")) else none

/-- What `decode` is to give back: the payload, with the configured claims and the expiry. -/
structure Completes (conf : JWTConfig) (payload : Claims) (exp : Int) (claims : Claims) : Prop where
  payload : ∀ claim, claim ∉ ["iss", "aud", "exp"] → claims.lookup claim = payload.lookup claim
  iss : claims.lookup "iss" = configured conf.issuer
  aud : claims.lookup "aud" = configured conf.audience
  exp : claims.lookup "exp" = some (.int exp)

def encoded (py : PyJwt Token) (conf : JWTConfig) (payload : Claims) (now : Int) : Token :=
  Auth.encode { jwt := py.jwt conf now, conf := conf } payload now

def ReadsBack (py : PyJwt Token) (conf : JWTConfig) (payload : Claims) : Prop :=
  ∀ now later, later < Auth.get_delta now conf.exp_min →
    ∃ claims, Auth.decode py conf (encoded py conf payload now) later = .ok claims ∧
      Completes conf payload (Auth.get_delta now conf.exp_min) claims

def Differs (claims : Claims) (claim : String) (value : Option String) : Prop :=
  truthy value = true ∧ ∃ other, claims.lookup claim = some (.str other) ∧ some other ≠ value

def Foreign (conf : JWTConfig) (claims : Claims) : Prop :=
  Differs claims "iss" conf.issuer ∨ Differs claims "aud" conf.audience

def RejectsForeign (py : PyJwt Token) (conf : JWTConfig) : Prop :=
  ∀ claims now, Foreign conf claims →
    ∃ failure, Auth.decode py conf (py.sign claims) now = .error failure

/-- No issuer and no audience to check, and the payload brings what else is required. -/
def Unchecked (conf : JWTConfig) (payload : Claims) : Prop :=
  truthy conf.issuer = false ∧ truthy conf.audience = false ∧
    ∀ claim ∈ conf.requires_claims, claim = "exp" ∨ PyJwt.given payload claim = true

theorem lookup_setText_self {payload : Claims} {claim : String} (value : Option String)
    (absent : payload.lookup claim = none) :
    (Auth.setText payload claim value).lookup claim = configured value := by
  unfold Auth.setText configured
  split
  · exact Dict.lookup_set_self _ _ _
  · exact absent

section Built

variable {conf : JWTConfig} {payload : Claims}

theorem completes_built (unregistered : Unregistered payload) (exp : Int) :
    Completes conf payload exp (Auth._build_payload conf payload exp) := by
  refine ⟨?_, ?_, ?_, Dict.lookup_set_self _ _ _⟩
  · intro claim other
    simp only [List.mem_cons, List.not_mem_nil, or_false, not_or] at other
    exact Auth.lookup_build_payload conf payload exp other.1 other.2.1 other.2.2
  · unfold Auth._build_payload
    rw [Dict.lookup_set_ne _ _ (by decide), Auth.lookup_setText_ne _ _ (by decide),
      lookup_setText_self _ (unregistered "iss" (by decide))]
  · unfold Auth._build_payload
    rw [Dict.lookup_set_ne _ _ (by decide), lookup_setText_self]
    rw [Auth.lookup_setText_ne _ _ (by decide)]
    exact unregistered "aud" (by decide)

theorem validate_aud_built {claims : Claims} {exp : Int}
    (completes : Completes conf payload exp claims) :
    PyJwt.validate_aud claims none = true ↔ truthy conf.audience = false := by
  unfold PyJwt.validate_aud
  rw [completes.aud]
  cases audience : conf.audience with
  | none => simp [configured, truthy]
  | some text =>
      by_cases empty : text = ""
      · simp [configured, truthy, empty]
      · simp [configured, truthy, pyOr, empty, PyJwt.jsonTruthy]

/-- Before its expiry a token of the server fails on nothing but a required claim that is
missing or the audience it carries. -/
theorem validate_built_iff (py : PyJwt Token) (unregistered : Unregistered payload)
    {exp later : Int} (fresh : later < exp) :
    py.validate_claims { verify_exp := true, require := conf.requires_claims } none none later
        (Auth._build_payload conf payload exp) = true ↔
      truthy conf.audience = false ∧
        ∀ claim ∈ conf.requires_claims,
          PyJwt.given (Auth._build_payload conf payload exp) claim = true := by
  have completes : Completes conf payload exp (Auth._build_payload conf payload exp) :=
    completes_built unregistered exp
  have iat : py.timeClaim (Auth._build_payload conf payload exp) "iat" (fun _ => true) = true := by
    unfold PyJwt.timeClaim
    rw [completes.payload "iat" (by decide), unregistered "iat" (by decide)]
  have nbf : py.timeClaim (Auth._build_payload conf payload exp) "nbf"
      (fun nbf => decide (nbf ≤ later)) = true := by
    unfold PyJwt.timeClaim
    rw [completes.payload "nbf" (by decide), unregistered "nbf" (by decide)]
  have expiry : py.timeClaim (Auth._build_payload conf payload exp) "exp"
      (fun exp => decide (later ≤ exp)) = true := by
    unfold PyJwt.timeClaim
    rw [completes.exp]
    simp only [py.int_int, decide_eq_true_eq]
    omega
  rw [← validate_aud_built completes]
  simp [PyJwt.validate_claims, iat, nbf, expiry, PyJwt.validate_iss, and_comm]

theorem readsBack_iff (py : PyJwt Token) (unregistered : Unregistered payload) :
    ReadsBack py conf payload ↔ truthy conf.audience = false ∧
      ∀ now, ∀ claim ∈ conf.requires_claims, PyJwt.given (Auth._build_payload conf payload
        (Auth.get_delta now conf.exp_min)) claim = true := by
  have decoded : ∀ now later, Auth.decode py conf (encoded py conf payload now) later =
      if py.validate_claims { verify_exp := true, require := conf.requires_claims } none none later
        (Auth._build_payload conf payload (Auth.get_delta now conf.exp_min))
      then .ok (Auth._build_payload conf payload (Auth.get_delta now conf.exp_min))
      else .error .invalidTokenError :=
    fun now later => Auth.decode_sign py conf _ later true none none
  constructor
  · intro readsBack
    have valid : ∀ now, truthy conf.audience = false ∧ ∀ claim ∈ conf.requires_claims,
        PyJwt.given (Auth._build_payload conf payload
          (Auth.get_delta now conf.exp_min)) claim = true := by
      intro now
      have fresh : Auth.get_delta now conf.exp_min - 1 < Auth.get_delta now conf.exp_min := by omega
      obtain ⟨claims, read, _⟩ := readsBack now _ fresh
      rw [decoded] at read
      split at read
      · rename_i accepted
        exact (validate_built_iff py unregistered fresh).mp accepted
      · cases read
    exact ⟨(valid 0).1, fun now => (valid now).2⟩
  · rintro ⟨audience, required⟩ now later fresh
    refine ⟨_, ?_, completes_built unregistered _⟩
    rw [decoded, if_pos ((validate_built_iff py unregistered fresh).mpr ⟨audience, required now⟩)]

theorem given_built_iff (issuer : truthy conf.issuer = false)
    (audience : truthy conf.audience = false) (exp : Int) (claim : String) :
    PyJwt.given (Auth._build_payload conf payload exp) claim = true ↔
      claim = "exp" ∨ PyJwt.given payload claim = true := by
  have plain : Auth._build_payload conf payload exp = Dict.set payload "exp" (.int exp) := by
    simp [Auth._build_payload, Auth.setText, issuer, audience]
  rw [plain]
  by_cases same : claim = "exp"
  · simp [same, PyJwt.given_set_int]
  · simp [same, PyJwt.given_set_ne]

end Built

/-! A token of another issuer, with every claim the server asks for. -/

def forgedClaim (claim : String) : Json := if claim = "aud" then .str "" else .int 0

def forged (issuer : String) (required : List String) : Claims :=
  ("iss", .str issuer) :: (required.map fun claim => (claim, forgedClaim claim))

theorem lookup_required {required : List String} {claim : String} {value : Json}
    (found : (required.map fun claim => (claim, forgedClaim claim)).lookup claim = some value) :
    value = forgedClaim claim := by
  induction required with
  | nil => simp at found
  | cons first rest ih =>
      rw [List.map_cons, List.lookup_cons] at found
      split at found
      · rename_i same
        rw [beq_iff_eq] at same
        rw [same, ← Option.some.inj found]
      · exact ih found

theorem lookup_forged {issuer : String} {required : List String} {claim : String} {value : Json}
    (notIss : claim ≠ "iss") (found : (forged issuer required).lookup claim = some value) :
    value = forgedClaim claim := by
  have different : (claim == "iss") = false := by simpa using notIss
  rw [forged, List.lookup_cons, different] at found
  exact lookup_required found

theorem timeClaim_forged (py : PyJwt Token) {issuer : String} {required : List String}
    {claim : String} (notIss : claim ≠ "iss") (zero : forgedClaim claim = .int 0)
    {holds : Int → Bool} (now : holds 0 = true) :
    py.timeClaim (forged issuer required) claim holds = true := by
  unfold PyJwt.timeClaim
  cases found : (forged issuer required).lookup claim with
  | none => rfl
  | some value =>
      rw [lookup_forged notIss found, zero]
      simp only [py.int_int, now]

theorem given_forged {issuer : String} {required : List String} {claim : String}
    (member : claim ∈ required) : PyJwt.given (forged issuer required) claim = true := by
  by_cases iss : claim = "iss"
  · simp [PyJwt.given, forged, iss]
  · have different : (claim == "iss") = false := by simpa using iss
    have found : (forged issuer required).lookup claim = some (forgedClaim claim) := by
      rw [forged, List.lookup_cons, different]
      exact List.lookup_graph forgedClaim member
    unfold PyJwt.given
    rw [found]
    by_cases aud : claim = "aud" <;> simp [forgedClaim, aud]

theorem validate_forged (py : PyJwt Token) (issuer : String) (required : List String) :
    py.validate_claims { verify_exp := true, require := required } none none 0
      (forged issuer required) = true := by
  have given : required.all (PyJwt.given (forged issuer required)) = true :=
    List.all_eq_true.mpr fun claim member => given_forged member
  have aud : PyJwt.validate_aud (forged issuer required) none = true := by
    unfold PyJwt.validate_aud
    cases found : (forged issuer required).lookup "aud" with
    | none => rfl
    | some value =>
        rw [lookup_forged (by decide) found]
        rfl
  have iat : py.timeClaim (forged issuer required) "iat" (fun _ => true) = true :=
    timeClaim_forged py (by decide) rfl rfl
  have nbf : py.timeClaim (forged issuer required) "nbf" (fun nbf => decide (nbf ≤ 0)) = true :=
    timeClaim_forged py (by decide) rfl rfl
  have exp : py.timeClaim (forged issuer required) "exp" (fun exp => decide (0 ≤ exp)) = true :=
    timeClaim_forged py (by decide) rfl rfl
  simp [PyJwt.validate_claims, given, iat, nbf, exp, PyJwt.validate_iss, aud]

theorem rejectsForeign_issuer {py : PyJwt Token} {conf : JWTConfig}
    (rejects : RejectsForeign py conf) : truthy conf.issuer = false := by
  by_contra configured
  rw [Bool.not_eq_false] at configured
  obtain ⟨issuer, named, _⟩ := truthy_iff.mp configured
  have other : some (issuer ++ "!") ≠ conf.issuer := by
    rw [named]
    intro same
    have lengths := congrArg String.length (Option.some.inj same)
    rw [String.length_append] at lengths
    have mark : "!".length = 1 := rfl
    omega
  obtain ⟨failure, refused⟩ := rejects (forged (issuer ++ "!") conf.requires_claims) 0
    (Or.inl ⟨configured, issuer ++ "!", rfl, other⟩)
  rw [Auth.decode_sign, if_pos (validate_forged py _ _)] at refused
  cases refused

namespace Sample

def py : PyJwt Claims where
  sign := id
  verify := some
  int := Codec.int.read
  verify_sign _ := rfl
  int_int _ := rfl

end Sample

end TokenClaims

end LabFunctions
