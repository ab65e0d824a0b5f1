import Mathlib.Logic.Function.Basic
import LabFunctions.Context
import LabFunctions.Database

/-!
`labfunctions.security` on the server and `AuthFlow` on the client: access tokens,
the store of refresh tokens, and the exchange that follows an answer of 401.
-/

namespace LabFunctions

abbrev Claims := List (String × Json)

/-- The JWT library with the keys, algorithm and required claims of one server. `decode` is
the call that checks the signature and not the expiry, so `valid` may look at the claims
but not at the time in `exp`. -/
structure Jwt (Token : Type) where
  encode : Claims → Token
  decode : Token → Except Exn Claims
  valid : Claims → Bool
  decode_encode : ∀ claims,
    decode (encode claims) = if valid claims then .ok claims else .error .invalidTokenError
  valid_exp : ∀ claims (exp other : Int),
    valid (Dict.set claims "exp" (.int exp)) = valid (Dict.set claims "exp" (.int other))

structure JWTConfig where
  exp_min : Int := 30
  issuer : Option String := none
  audience : Option String := none
  requires_claims : List String := ["exp"]
  ttl_refresh_token : Int := 3600 * 168

/-- `ttl or self.conf.ttl_refresh_token` -/
def JWTConfig.lifetime (conf : JWTConfig) : Option Int → Int
  | none => conf.ttl_refresh_token
  | some ttl => if ttl = 0 then conf.ttl_refresh_token else ttl

structure Moment where
  drawn : String
  now : Int

structure JWTResponse (Token : Type) where
  access_token : Token
  refresh_token : Option String

/-! `RedisTokenStore` -/

abbrev TokenStore := String → Option String

namespace TokenStore

def ns : String := "rtkn"

def put (store : TokenStore) (key value : String) (_ttl : Int) : TokenStore :=
  -- the time to live is not handed on to redis
  Function.update store (ns ++ ":" ++ key) (some value)

def get (store : TokenStore) (key : String) : Option String := store (ns ++ ":" ++ key)

def delete (store : TokenStore) (key : String) : TokenStore :=
  Function.update store (ns ++ ":" ++ key) none

theorem get_put (store : TokenStore) (key other value : String) (ttl : Int) :
    get (put store key value ttl) other = if other = key then some value else get store other := by
  simp [get, put, Function.update_apply]

theorem get_put_self (store : TokenStore) (key value : String) (ttl : Int) :
    get (put store key value ttl) key = some value := by
  rw [get_put, if_pos rfl]

theorem get_delete (store : TokenStore) (key other : String) :
    get (delete store key) other = if other = key then none else get store other := by
  simp [get, delete, Function.update_apply]

end TokenStore

structure Auth (Token : Type) where
  jwt : Jwt Token
  conf : JWTConfig := {}
  allow_refresh : Bool := true

namespace Auth

variable {Token : Type}

def get_delta (now delta_min : Int) : Int := now + 60 * delta_min

def setText (payload : Claims) (key : String) (value : Option String) : Claims :=
  if truthy value then Dict.set payload key (.str (pyOr value "")) else payload

def _build_payload (conf : JWTConfig) (payload : Claims) (exp : Int) : Claims :=
  Dict.set (setText (setText payload "iss" conf.issuer) "aud" conf.audience) "exp" (.int exp)

def encode (auth : Auth Token) (payload : Claims) (now : Int) : Token :=
  auth.jwt.encode (_build_payload auth.conf payload (get_delta now auth.conf.exp_min))

def decodedUsr (decoded : Claims) : Except Exn String :=
  match decoded.lookup "usr" with
  | some (.str usr) => .ok usr
  | _ => .error (.keyError "usr")

def store_refresh_token (auth : Auth Token) (store : TokenStore) (username refresh : String)
    (ttl : Option Int := none) : String × TokenStore :=
  (refresh, store.put (username ++ "." ++ refresh) username (auth.conf.lifetime ttl))

def validate_refresh_token (auth : Auth Token) (store : TokenStore) (access_token : Token)
    (refresh_token : String) : Except Exn Bool := do
  let decoded ← auth.jwt.decode access_token
  let usr ← decodedUsr decoded
  return some usr == store.get (usr ++ "." ++ refresh_token)

/-- `refresh_token`; `drawn` is what `store.generate()` gives. -/
def refresh_token (auth : Auth Token) (store : TokenStore) (access_token : Token)
    (refresh_token drawn : String) (now : Int) :
    Except Exn (JWTResponse Token × TokenStore) := do
  let is_valid ← validate_refresh_token auth store access_token refresh_token
  if is_valid then
    let decoded ← auth.jwt.decode access_token
    let usr ← decodedUsr decoded
    let store := store.delete (usr ++ "." ++ refresh_token)
    let (_new_refresh, store) := store_refresh_token auth store usr drawn
    return (⟨encode auth decoded now, some _new_refresh⟩, store)
  else throw .authValidationFailed

theorem lookup_of_decodedUsr {decoded : Claims} {usr : String}
    (user : decodedUsr decoded = .ok usr) : decoded.lookup "usr" = some (.str usr) := by
  unfold decodedUsr at user
  split at user
  · rename_i found
    obtain rfl := Except.ok.inj user
    exact found
  · cases user

theorem refresh_token_eq_ok {auth : Auth Token} {store next : TokenStore} {access_token : Token}
    {refresh drawn : String} {now : Int} {response : JWTResponse Token} :
    auth.refresh_token store access_token refresh drawn now = .ok (response, next) ↔
      ∃ decoded usr, auth.jwt.decode access_token = .ok decoded ∧ decodedUsr decoded = .ok usr ∧
        store.get (usr ++ "." ++ refresh) = some usr ∧
        response = ⟨auth.encode decoded now, some drawn⟩ ∧
        next = (store.delete (usr ++ "." ++ refresh)).put (usr ++ "." ++ drawn) usr
          auth.conf.ttl_refresh_token := by
  cases decoded : auth.jwt.decode access_token with
  | error failure => simp [refresh_token, validate_refresh_token, decoded, bind, Except.bind]
  | ok claims =>
      cases user : decodedUsr claims with
      | error failure =>
          simp [refresh_token, validate_refresh_token, decoded, user, bind, Except.bind]
      | ok usr =>
          by_cases stored : store.get (usr ++ "." ++ refresh) = some usr
          · simp [refresh_token, validate_refresh_token, decoded, user, stored,
              store_refresh_token, JWTConfig.lifetime, bind, Except.bind, pure, Except.pure,
              eq_comm]
          · have missing : (some usr == store.get (usr ++ "." ++ refresh)) = false := by
              simpa using Ne.symm stored
            simp [refresh_token, validate_refresh_token, decoded, user, missing, stored, bind,
              Except.bind, pure, Except.pure, throw, throwThe, MonadExceptOf.throw]

end Auth

structure Reply (Token : Type) where
  status : Nat
  tokens : Option (JWTResponse Token) := none

def refresh_handler {Token : Type} (auth : Auth Token) (store : TokenStore) (token : Token)
    (rftkn : Option String) (drawn : String) (now : Int) : Reply Token × TokenStore :=
  if auth.allow_refresh then
    if truthy rftkn then
      match auth.refresh_token store token (pyOr rftkn "") drawn now with
      | .ok (jwt_res, store) => (⟨200, some jwt_res⟩, store)
      | .error .authValidationFailed => (⟨401, none⟩, store)
      | .error _ => (⟨500, none⟩, store)
    else (⟨401, none⟩, store)
  else (⟨404, none⟩, store)

structure AuthFlow (Token : Type) where
  access_token : Token
  refresh_token : Option String

namespace AuthFlow

def update_tokens {Token : Type} (flow : AuthFlow Token) (reply : Reply Token) : AuthFlow Token :=
  match reply.tokens with
  -- the refresh token of the reply is not taken over
  | some data => { flow with access_token := data.access_token }
  -- the missing access token raises
  | none => flow

end AuthFlow

/-! Rebuilding a payload that the same server built changes its expiry only. -/

namespace Auth

theorem lookup_setText_ne (payload : Claims) {key other : String} (value : Option String)
    (different : other ≠ key) : (setText payload key value).lookup other = payload.lookup other := by
  unfold setText
  split
  · exact Dict.lookup_set_ne payload _ different
  · rfl

theorem setText_of_lookup {payload : Claims} {key : String} {value : Option String}
    (present : truthy value = true → payload.lookup key = some (.str (pyOr value ""))) :
    setText payload key value = payload := by
  unfold setText
  split
  · rename_i given
    exact Dict.set_of_lookup payload (present given)
  · rfl

theorem lookup_build_payload (conf : JWTConfig) (payload : Claims) (exp : Int) {key : String}
    (notIss : key ≠ "iss") (notAud : key ≠ "aud") (notExp : key ≠ "exp") :
    (_build_payload conf payload exp).lookup key = payload.lookup key := by
  unfold _build_payload
  rw [Dict.lookup_set_ne _ _ notExp, lookup_setText_ne _ _ notAud, lookup_setText_ne _ _ notIss]

theorem build_payload_twice (conf : JWTConfig) (payload : Claims) (exp later : Int) :
    _build_payload conf (_build_payload conf payload exp) later =
      _build_payload conf payload later := by
  have issuer : setText (_build_payload conf payload exp) "iss" conf.issuer =
      _build_payload conf payload exp := by
    apply setText_of_lookup
    intro given
    unfold _build_payload
    rw [Dict.lookup_set_ne _ _ (by decide), lookup_setText_ne _ _ (by decide), setText,
      if_pos given, Dict.lookup_set_self]
  have audience : setText (_build_payload conf payload exp) "aud" conf.audience =
      _build_payload conf payload exp := by
    apply setText_of_lookup
    intro given
    unfold _build_payload
    rw [Dict.lookup_set_ne _ _ (by decide), setText, if_pos given, Dict.lookup_set_self]
  calc _build_payload conf (_build_payload conf payload exp) later
      = Dict.set (_build_payload conf payload exp) "exp" (.int later) := by
        rw [_build_payload, issuer, audience]
    _ = _build_payload conf payload later := by
        rw [_build_payload, Dict.set_set, _build_payload]

end Auth

end LabFunctions
