import LabFunctions.Library.Effects
import LabFunctions.TokenClaims

/-!
What `Auth.validate` and `Auth.refresh_token` raise, for any token and any claims in it, when
each call of the token store may fail.
-/

namespace LabFunctions

namespace RefreshFailures

open Effects

/-- What the three calls of the token store raise, if anything. -/
structure Faults where
  get : Option String := none
  delete : Option String := none
  put : Option String := none

/-- `display` is Python's `str` of a value that is no text. -/
structure Server (Token : Type) where
  py : PyJwt Token
  conf : JWTConfig := {}
  display : Json → String

abbrev Call (α : Type) := Effect Exn TokenStore α

def fstring (display : Json → String) : Json → String
  | .str text => text
  | value => display value

def raised (fault : Option String) : Call PUnit :=
  match fault with
  | none => pure ⟨⟩
  | some message => throw (.otherError message)

def get (faults : Faults) (key : String) : Call (Option String) := do
  raised faults.get
  act fun store => (.ok (store.get key), store)

def delete (faults : Faults) (key : String) : Call PUnit := do
  raised faults.delete
  act fun store => (.ok ⟨⟩, store.delete key)

/-- Redis takes texts and numbers. -/
def put (faults : Faults) (key : String) (value : Json) (ttl : Int) : Call PUnit := do
  raised faults.put
  match value with
  | .str text => act fun store => (.ok ⟨⟩, store.put key text ttl)
  | .int number => act fun store => (.ok ⟨⟩, store.put key (toString number) ttl)
  | .float literal => act fun store => (.ok ⟨⟩, store.put key literal ttl)
  | _ => throw (.otherError "Invalid input of type")

/-- `decoded["usr"]` -/
def usrOf (decoded : Claims) : Except Exn Json :=
  match decoded.lookup "usr" with
  | some usr => .ok usr
  | none => .error (.keyError "usr")

/-- `decoded["usr"] == value`, where the store gives a text or `None`. -/
def equals : Json → Option String → Bool
  | .str text, some value => text == value
  | .null, none => true
  | _, _ => false

variable {Token : Type} (server : Server Token) (faults : Faults)

def key (usr : Json) (refresh_token : String) : String :=
  fstring server.display usr ++ "." ++ refresh_token

def store_refresh_token (username : Json) (drawn : String) (ttl : Option Int := none) :
    Call String := do
  put faults (key server username drawn) username (server.conf.lifetime ttl)
  return drawn

def validate_refresh_token (access_token : Token) (refresh_token : String) (now : Int) :
    Call Bool := do
  let decoded ← lift (Auth.decode server.py server.conf access_token now false)
  let usr ← lift (usrOf decoded)
  let value ← get faults (key server usr refresh_token)
  return equals usr value

def refresh_token (access_token : Token) (refresh_token drawn : String) (now : Int) :
    Call (JWTResponse Token) := do
  let is_valid ← validate_refresh_token server faults access_token refresh_token now
  if is_valid then
    let decoded ← lift (Auth.decode server.py server.conf access_token now false)
    let usr ← lift (usrOf decoded)
    delete faults (key server usr refresh_token)
    let _new_refresh ← store_refresh_token server faults usr drawn
    let _new_tkn := server.py.sign
      (Auth._build_payload server.conf decoded (Auth.get_delta now server.conf.exp_min))
    return ⟨_new_tkn, some _new_refresh⟩
  else throw .authValidationFailed

/-- The refresh tokens a store accepts, each with its user. -/
def accepted (store : TokenStore) : String × String → Prop :=
  fun pair => store.get (pair.1 ++ "." ++ pair.2) = some pair.1

/-- Nothing is raised but `AuthValidationFailed`. -/
def Translated {α : Type} (result : Except Exn α) : Prop :=
  ∀ failure, result = .error failure → failure = .authValidationFailed

section Validate

variable {server}

theorem translated_error {α : Type} {failure : Exn} :
    Translated (.error failure : Except Exn α) ↔ failure = .authValidationFailed := by
  simp [Translated]

theorem translated_ok {α : Type} (result : α) : Translated (.ok result : Except Exn α) := by
  simp [Translated]

theorem decode_error {py : PyJwt Token} {conf : JWTConfig} {token : Token} {now : Int}
    {verify_exp : Bool} {iss aud : Option String} {failure : Exn}
    (refused : Auth.decode py conf token now verify_exp iss aud = .error failure) :
    failure = .invalidTokenError := by
  unfold Auth.decode PyJwt.decode at refused
  cases verified : py.verify token with
  | none =>
      rw [verified] at refused
      exact (Except.error.inj refused).symm
  | some claims =>
      simp only [verified] at refused
      split at refused
      · cases refused
      · exact (Except.error.inj refused).symm

/-- What a loop over a claim gets through. -/
def Readable : Json → Prop
  | .list items => ∀ item ∈ items, (PyJwt.isText item).isSome = true
  | .str _ => True
  | .dict _ => True
  | _ => False

theorem exists_read_iff (scopes : Json) :
    (∃ texts, Scopes.read scopes = .ok texts) ↔ Readable scopes := by
  cases scopes with
  | list items =>
      rw [Scopes.read, exists_mapM_eq_ok]
      refine forall₂_congr fun item _ => ?_
      cases PyJwt.isText item <;> simp
  | _ => simp [Scopes.read, Readable]

theorem read_error {scopes : Json} {failure : Exn} (failed : Scopes.read scopes = .error failure) :
    failure ≠ .authValidationFailed := by
  cases scopes with
  | list items =>
      obtain ⟨item, _, raises⟩ := exists_of_mapM_eq_error failed
      split at raises
      · cases raises
      · rw [← Except.error.inj raises]
        decide
  | str text => cases failed
  | dict entries => cases failed
  | _ =>
      rw [← Except.error.inj failed]
      decide

theorem user_scopes_error {decoded : Claims} {failure : Exn}
    (failed : Auth.user_scopes decoded = .error failure) : failure ≠ .authValidationFailed := by
  unfold Auth.user_scopes at failed
  split at failed
  · exact read_error failed
  · rw [← Except.error.inj failed]
    decide

/-- The claims have scopes to compare, or none are asked for. -/
def Comparable (required_scopes : Option (List String)) (decoded : Claims) : Prop :=
  required_scopes.getD [] = [] ∨ ∃ scopes, decoded.lookup "scopes" = some scopes ∧ Readable scopes

theorem exists_user_scopes_iff (decoded : Claims) :
    (∃ texts, Auth.user_scopes decoded = .ok texts) ↔
      ∃ scopes, decoded.lookup "scopes" = some scopes ∧ Readable scopes := by
  unfold Auth.user_scopes
  cases decoded.lookup "scopes" with
  | none => simp
  | some scopes => simp [exists_read_iff]

theorem check_scopes_translated_iff {required_scopes : Option (List String)} {require_all : Bool}
    {decoded : Claims} :
    Translated (Auth.check_scopes required_scopes require_all decoded) ↔
      Comparable required_scopes decoded := by
  unfold Comparable
  rcases required_scopes with _ | _ | ⟨scope, others⟩
  · simp [Auth.check_scopes, translated_ok]
  · simp [Auth.check_scopes, translated_ok]
  · have asked : (some (scope :: others)).getD [] ≠ [] := List.cons_ne_nil scope others
    rw [← exists_user_scopes_iff, or_iff_right asked]
    unfold Auth.check_scopes
    cases read : Auth.user_scopes decoded with
    | error failure =>
        have other := user_scopes_error read
        change Translated (.error failure : Except Exn Claims) ↔ _
        simp [translated_error, other]
    | ok scopes =>
        change Translated (if Scopes.validate (scope :: others) scopes require_all = true
          then .ok decoded else .error .authValidationFailed) ↔ _
        split
        · simp [translated_ok]
        · simp [translated_error]

theorem validate_translated_iff {py : PyJwt Token} {conf : JWTConfig} {token : Token}
    {required_scopes : Option (List String)} {now : Int} {require_all : Bool}
    {iss aud : Option String} :
    Translated (Auth.validate py conf token required_scopes now require_all iss aud) ↔
      ∀ decoded, Auth.decode py conf token now true iss aud = .ok decoded →
        Comparable required_scopes decoded := by
  unfold Auth.validate
  cases read : Auth.decode py conf token now true iss aud with
  | error failure =>
      obtain rfl := decode_error read
      simp [translated_error]
  | ok decoded => simp [check_scopes_translated_iff]

end Validate

section Refresh

variable {server faults} {store : TokenStore} {access_token : Token} {refresh drawn : String}
  {now : Int} {decoded : Claims} {usr : Json}

theorem run_raised (fault : Option String) : run (raised fault) store =
    (match fault with
      | none => .ok ⟨⟩
      | some message => .error (.otherError message), store) := by
  cases fault <;> rfl

theorem run_get (at_ : String) : run (get faults at_) store =
    (match faults.get with
      | none => .ok (store.get at_)
      | some message => .error (.otherError message), store) := by
  rw [get, run_bind, run_raised]
  cases faults.get <;> rfl

theorem run_delete (at_ : String) : run (delete faults at_) store =
    match faults.delete with
    | none => (.ok ⟨⟩, store.delete at_)
    | some message => (.error (.otherError message), store) := by
  rw [delete, run_bind, run_raised]
  cases faults.delete <;> rfl

theorem run_put_text (at_ text : String) (ttl : Int) :
    run (put faults at_ (.str text) ttl) store =
      match faults.put with
      | none => (.ok ⟨⟩, store.put at_ text ttl)
      | some message => (.error (.otherError message), store) := by
  rw [put, run_bind, run_raised]
  cases faults.put <;> rfl

theorem run_put_null (faults : Faults) (store : TokenStore) (at_ : String) (ttl : Int) :
    ∃ message, run (put faults at_ .null ttl) store = (.error (.otherError message), store) := by
  unfold put
  rw [run_bind, run_raised]
  cases faults.put with
  | none => exact ⟨_, rfl⟩
  | some message => exact ⟨message, rfl⟩

theorem validate_undecoded {failure : Exn}
    (undecoded : Auth.decode server.py server.conf access_token now false = .error failure) :
    run (validate_refresh_token server faults access_token refresh now) store =
      (.error failure, store) := by
  rw [validate_refresh_token, run_bind, run_lift, undecoded]

theorem validate_decoded (faults : Faults) (store : TokenStore) (refresh : String)
    (read : Auth.decode server.py server.conf access_token now false = .ok decoded) :
    run (validate_refresh_token server faults access_token refresh now) store =
      (match usrOf decoded with
        | .error failure => .error failure
        | .ok usr =>
            match faults.get with
            | none => .ok (equals usr (store.get (key server usr refresh)))
            | some message => .error (.otherError message), store) := by
  rw [validate_refresh_token, run_bind, run_lift, read]
  simp only
  rw [run_bind, run_lift]
  cases usrOf decoded with
  | error failure => rfl
  | ok usr =>
      simp only
      rw [run_bind, run_get]
      cases faults.get <;> rfl

/-- Once the refresh token is found to be valid, it is deleted, and only then is another put. -/
theorem refresh_token_valid
    (read : Auth.decode server.py server.conf access_token now false = .ok decoded)
    (user : usrOf decoded = .ok usr) (works : faults.get = none)
    (valid : equals usr (store.get (key server usr refresh)) = true) :
    run (refresh_token server faults access_token refresh drawn now) store =
      match run (delete faults (key server usr refresh)) store with
      | (.error failure, later) => (.error failure, later)
      | (.ok _, later) =>
          match run (put faults (key server usr drawn) usr (server.conf.lifetime none)) later with
          | (.error failure, last) => (.error failure, last)
          | (.ok _, last) =>
              (.ok ⟨server.py.sign (Auth._build_payload server.conf decoded
                (Auth.get_delta now server.conf.exp_min)), some drawn⟩, last) := by
  rw [refresh_token, run_bind, validate_decoded faults store refresh read, user, works]
  simp only [valid, if_true]
  rw [run_bind, run_lift, read]
  simp only
  rw [run_bind, run_lift, user]
  simp only
  rw [run_bind]
  rcases run (delete faults (key server usr refresh)) store with ⟨_ | _, later⟩
  · rfl
  · simp only
    rw [run_bind, store_refresh_token, run_bind]
    rcases run (put faults (key server usr drawn) usr (server.conf.lifetime none)) later with
      ⟨_ | _, last⟩ <;> rfl

theorem equals_eq_true {value : Option String} (same : equals usr value = true) :
    (∃ text, usr = .str text ∧ value = some text) ∨ usr = .null ∧ value = none := by
  unfold equals at same
  split at same
  · exact .inl ⟨_, rfl, by rw [eq_of_beq same]⟩
  · exact .inr ⟨rfl, rfl⟩
  · exact absurd same Bool.false_ne_true

theorem accepted_delete_missing {at_ : String} (missing : store.get at_ = none) :
    accepted (store.delete at_) = accepted store := by
  funext pair
  unfold accepted
  rw [TokenStore.get_delete]
  split
  · rename_i same
    rw [same, missing]
  · rfl

theorem equals_held {text : String} (held : store.get (text ++ "." ++ refresh) = some text) :
    equals (.str text) (store.get (key server (.str text) refresh)) = true := by
  change equals (.str text) (store.get (text ++ "." ++ refresh)) = true
  rw [held]
  simp [equals]

/-- With a store that does not fail the exchange is the one of `Auth.refresh_token`. -/
theorem run_refresh_token_of_ok {response : JWTResponse Token} {next : TokenStore}
    (exchanged : Auth.refresh_token { jwt := server.py.jwt server.conf now, conf := server.conf }
      store access_token refresh drawn now = .ok (response, next)) :
    run (refresh_token server {} access_token refresh drawn now) store = (.ok response, next) := by
  obtain ⟨decoded, usr, read, user, held, rfl, rfl⟩ := Auth.refresh_token_eq_ok.mp exchanged
  have named : usrOf decoded = .ok (.str usr) := by
    rw [usrOf, Auth.lookup_of_decodedUsr user]
  rw [refresh_token_valid read named rfl (equals_held held), run_delete]
  simp only
  rw [run_put_text]
  rfl

/-- The token is read and names a user, the store can be asked, and where it holds the refresh
token the user is a text and both writes go through. -/
def Answerable (server : Server Token) (faults : Faults) (store : TokenStore) (access_token : Token)
    (refresh : String) (now : Int) : Prop :=
  ∃ decoded usr, Auth.decode server.py server.conf access_token now false = .ok decoded ∧
    decoded.lookup "usr" = some usr ∧ faults.get = none ∧
    (equals usr (store.get (key server usr refresh)) = true →
      usr ≠ .null ∧ faults.delete = none ∧ faults.put = none)

/-- The refresh token is taken out of the store and no other one gets in. -/
def Lost (server : Server Token) (faults : Faults) (store : TokenStore) (access_token : Token)
    (refresh : String) (now : Int) : Prop :=
  ∃ decoded usr, Auth.decode server.py server.conf access_token now false = .ok decoded ∧
    decoded.lookup "usr" = some (.str usr) ∧ store.get (usr ++ "." ++ refresh) = some usr ∧
    faults.get = none ∧ faults.delete = none ∧ faults.put ≠ none

theorem refresh_token_invalid
    (read : Auth.decode server.py server.conf access_token now false = .ok decoded)
    (user : usrOf decoded = .ok usr) (works : faults.get = none)
    (invalid : equals usr (store.get (key server usr refresh)) = false) :
    run (refresh_token server faults access_token refresh drawn now) store =
      (.error .authValidationFailed, store) := by
  rw [refresh_token, run_bind, validate_decoded faults store refresh read, user, works]
  simp only [invalid]
  rfl

theorem refresh_token_stopped {failure : Exn}
    (stopped : run (validate_refresh_token server faults access_token refresh now) store =
      (.error failure, store)) :
    run (refresh_token server faults access_token refresh drawn now) store =
      (.error failure, store) :=
  run_bind_of_error stopped _

/-- The ways an exchange can end, each with what decides on it. -/
inductive Outcome (server : Server Token) (faults : Faults) (store : TokenStore)
    (access_token : Token) (refresh : String) (now : Int) :
    Except Exn (JWTResponse Token) × TokenStore → Prop
  | raised (failure : Exn) (later : TokenStore) (other : failure ≠ .authValidationFailed)
      (unanswerable : ¬ Answerable server faults store access_token refresh now)
      (kept : accepted later = accepted store ∧
          ¬ Lost server faults store access_token refresh now ∨
        accepted later ≠ accepted store ∧ Lost server faults store access_token refresh now) :
      Outcome server faults store access_token refresh now (.error failure, later)
  | denied (answerable : Answerable server faults store access_token refresh now)
      (found : ¬ Lost server faults store access_token refresh now) :
      Outcome server faults store access_token refresh now (.error .authValidationFailed, store)
  | answered (response : JWTResponse Token) (later : TokenStore)
      (answerable : Answerable server faults store access_token refresh now)
      (found : ¬ Lost server faults store access_token refresh now) :
      Outcome server faults store access_token refresh now (.ok response, later)

theorem Outcome.raised_early {failure : Exn} (other : failure ≠ .authValidationFailed)
    (undecided : ∀ decoded usr,
      Auth.decode server.py server.conf access_token now false = .ok decoded →
        decoded.lookup "usr" = some usr → faults.get ≠ none) :
    Outcome server faults store access_token refresh now (.error failure, store) := by
  refine .raised failure store other ?_ (.inl ⟨rfl, ?_⟩)
  · rintro ⟨decoded, usr, read, user, works, _⟩
    exact undecided decoded usr read user works
  · rintro ⟨decoded, usr, read, user, _, works, _⟩
    exact undecided decoded _ read user works

theorem answerable_iff_of_valid
    (read : Auth.decode server.py server.conf access_token now false = .ok decoded)
    (user : decoded.lookup "usr" = some usr) (works : faults.get = none)
    (valid : equals usr (store.get (key server usr refresh)) = true) :
    Answerable server faults store access_token refresh now ↔
      usr ≠ .null ∧ faults.delete = none ∧ faults.put = none := by
  constructor
  · rintro ⟨_, _, same, named, _, writes⟩
    obtain rfl := Except.ok.inj (read.symm.trans same)
    obtain rfl := Option.some.inj (user.symm.trans named)
    exact writes valid
  · intro writes
    exact ⟨decoded, usr, read, user, works, fun _ => writes⟩

theorem lost_iff_of_valid
    (read : Auth.decode server.py server.conf access_token now false = .ok decoded)
    (user : decoded.lookup "usr" = some usr) (works : faults.get = none)
    (valid : equals usr (store.get (key server usr refresh)) = true) :
    Lost server faults store access_token refresh now ↔
      usr ≠ .null ∧ faults.delete = none ∧ faults.put ≠ none := by
  constructor
  · rintro ⟨_, text, same, named, _, _, deletes, fails⟩
    obtain rfl := Except.ok.inj (read.symm.trans same)
    obtain rfl := Option.some.inj (user.symm.trans named)
    exact ⟨by simp, deletes, fails⟩
  · rintro ⟨notNull, deletes, fails⟩
    rcases equals_eq_true valid with ⟨text, rfl, held⟩ | ⟨null, _⟩
    · exact ⟨decoded, text, read, user, held, works, deletes, fails⟩
    · exact absurd null notNull

theorem outcome_valid
    (read : Auth.decode server.py server.conf access_token now false = .ok decoded)
    (user : decoded.lookup "usr" = some usr) (works : faults.get = none)
    (valid : equals usr (store.get (key server usr refresh)) = true) :
    Outcome server faults store access_token refresh now
      (run (refresh_token server faults access_token refresh drawn now) store) := by
  have answerable_iff := answerable_iff_of_valid read user works valid
  have lost_iff := lost_iff_of_valid read user works valid
  have named : usrOf decoded = .ok usr := by rw [usrOf, user]
  rw [refresh_token_valid read named works valid, run_delete]
  cases deletes : faults.delete with
  | some message =>
      refine .raised _ _ (by simp) ?_ (.inl ⟨rfl, ?_⟩)
      · simp [answerable_iff, deletes]
      · simp [lost_iff, deletes]
  | none =>
      simp only
      rcases equals_eq_true valid with ⟨text, rfl, held⟩ | ⟨rfl, missing⟩
      · rw [run_put_text]
        cases puts : faults.put with
        | none =>
            exact .answered _ _ (by simp [answerable_iff, deletes, puts]) (by simp [lost_iff, puts])
        | some message =>
            refine .raised _ _ (by simp) (by simp [answerable_iff, puts]) (.inr ⟨?_, ?_⟩)
            · intro same
              have before := congrFun same (text, refresh)
              have gone : ¬ accepted (store.delete (text ++ "." ++ refresh)) (text, refresh) := by
                simp [accepted, TokenStore.get_delete]
              exact gone (before.mpr held)
            · simp [lost_iff, deletes, puts]
      · obtain ⟨message, refused⟩ := run_put_null faults
          (store.delete (key server .null refresh)) (key server .null drawn)
          (server.conf.lifetime none)
        rw [refused]
        refine .raised _ _ (by simp) (by simp [answerable_iff]) (.inl ⟨?_, by simp [lost_iff]⟩)
        exact accepted_delete_missing missing

theorem outcome (server : Server Token) (faults : Faults) (store : TokenStore)
    (access_token : Token) (refresh drawn : String) (now : Int) :
    Outcome server faults store access_token refresh now
      (run (refresh_token server faults access_token refresh drawn now) store) := by
  cases read : Auth.decode server.py server.conf access_token now false with
  | error failure =>
      obtain rfl := decode_error read
      rw [refresh_token_stopped (validate_undecoded read)]
      refine .raised_early (by simp) ?_
      intro decoded usr same
      rw [read] at same
      cases same
  | ok decoded =>
      have step := validate_decoded faults store refresh read
      cases user : decoded.lookup "usr" with
      | none =>
          rw [usrOf, user] at step
          rw [refresh_token_stopped step]
          refine .raised_early (by simp) ?_
          intro other usr same named
          obtain rfl := Except.ok.inj (read.symm.trans same)
          rw [user] at named
          cases named
      | some usr =>
          have named : usrOf decoded = .ok usr := by rw [usrOf, user]
          cases works : faults.get with
          | some message =>
              rw [named, works] at step
              rw [refresh_token_stopped step]
              exact .raised_early (by simp) fun _ _ _ _ => by simp [works]
          | none =>
              cases valid : equals usr (store.get (key server usr refresh)) with
              | true => exact outcome_valid read user works valid
              | false =>
                  rw [refresh_token_invalid read named works valid]
                  refine .denied ⟨decoded, usr, read, user, works, fun held => ?_⟩ ?_
                  · rw [valid] at held
                    exact absurd held Bool.false_ne_true
                  · rintro ⟨_, text, same, textual, held, _⟩
                    obtain rfl := Except.ok.inj (read.symm.trans same)
                    obtain rfl := Option.some.inj (user.symm.trans textual)
                    rw [equals_held held] at valid
                    cases valid

end Refresh

namespace Sample

def lab : Server Claims where
  py := TokenClaims.Sample.py
  display _ := "None"

def access_token : Claims := [("usr", .str "ada"), ("exp", .int 90)]

def store : TokenStore := Function.update (fun _ => none) "rtkn:ada.first" (some "ada")

end Sample

end RefreshFailures

end LabFunctions
