import LabFunctions.PasswordChanges
import LabFunctions.ProjectRecords
import LabFunctions.ScopeSets

/-!
`users_mg.create` for a superuser: the scope of an administrator is added to a text, which
`get_jwt_token` cuts into the scopes of a token.
-/

namespace LabFunctions

structure UserOrm where
  username : String
  id : Option Nat := none
  email : Option String := none
  password : Option String := none
  scopes : String := "user:r:w"
  is_superuser : Bool := false
  is_active : Bool := false
  is_agent : Bool := false
  projects : List String := []

namespace UsersMg

/-- `text in scopes`, of two texts -/
def Inside (text scopes : String) : Prop := text.toList <:+: scopes.toList

instance (text scopes : String) : Decidable (Inside text scopes) :=
  inferInstanceAs (Decidable (text.toList <:+: scopes.toList))

def withAdmin (u : UserOrm) : UserOrm :=
  if u.is_superuser = true ∧ ¬Inside "admin:read:write" u.scopes then
    { u with scopes := u.scopes ++ ",admin:r:w" }
  else u

def withPassword (scrypt : Scrypt) (password salt : Option String) (u : UserOrm) : UserOrm :=
  if truthy password && truthy salt then
    { u with
      password := some (encrypt_password scrypt (pyOr password "") (.str (pyOr salt ""))) }
  else u

/-- The row of the user, without the projects; the database draws an id if there is none. -/
def modelOf (u : UserOrm) (drawn : Nat) : UserModel where
  id := u.id.getD drawn
  username := u.username
  email := u.email
  password := u.password
  is_superuser := u.is_superuser
  is_active := u.is_active
  scopes := u.scopes
  is_agent := u.is_agent

def create (scrypt : Scrypt) (db : Database) (drawn : Nat) (u : UserOrm)
    (password : Option String := none) (salt : Option String := none) :
    Except Exn (Option UserModel × Database) :=
  let um := modelOf (withPassword scrypt password salt (withAdmin u)) drawn
  match Database.insertUser um db with
  | .ok db => .ok (some um, db)
  | .error .integrityError => .ok (none, db)
  | .error failure => .error failure

end UsersMg

namespace AdminScopes

open Scopes UsersMg

/-- What a token says of the scope is said by the scope that decides on its name. -/
def Effective (scopes : List String) (scope : String) : Prop :=
  ∃ held, deciding (ns scope) scopes = some held ∧ ∀ action ∈ actions scope, action ∈ actions held

/-- The token of the user is one of an administrator, and has lost nothing of what the scopes given
have let through. -/
structure Grants (scopes : String) (um : UserModel) : Prop where
  admin : validate ["admin:r:w"] (tokenPayload um).scopes = true
  kept : ∀ scope ∈ Words.split ',' scopes, Effective (Words.split ',' scopes) scope →
    Effective (tokenPayload um).scopes scope

/-- Nothing is added, and what is there is enough; or what is added takes nothing away. -/
def Meets (scopes : String) : Prop :=
  if Inside "admin:read:write" scopes then
    ∃ held, deciding "admin" (Words.split ',' scopes) = some held ∧
      ("r" ∈ actions held ∨ "w" ∈ actions held)
  else
    ∀ held, deciding "admin" (Words.split ',' scopes) = some held →
      ∀ action ∈ actions held, action = "r" ∨ action = "w"

theorem ns_admin : ns "admin:r:w" = "admin" := by decide

theorem actions_admin : actions "admin:r:w" = ["r", "w"] := by decide

theorem scopes_tokenPayload (um : UserModel) :
    (tokenPayload um).scopes = Words.split ',' um.scopes :=
  Words.splitOn_singleton um.scopes ','

theorem read_texts (texts : List String) :
    Scopes.read (.list (texts.map Json.str)) = .ok texts := by
  induction texts with
  | nil => rfl
  | cons text rest ih =>
      unfold Scopes.read at ih ⊢
      dsimp only at ih ⊢
      rw [List.map_cons, List.mapM_cons, ih]
      rfl

/-- What a server reads of the token that it has given. -/
theorem user_scopes_claims (um : UserModel) :
    Auth.user_scopes (claims um) = .ok (tokenPayload um).scopes :=
  read_texts _

theorem scopes_of_created {scrypt : Scrypt} {db later : Database} {drawn : Nat} {u : UserOrm}
    {password salt : Option String} {um : UserModel}
    (created : create scrypt db drawn u password salt = .ok (some um, later)) :
    um.scopes = (withAdmin u).scopes := by
  have kept : (withPassword scrypt password salt (withAdmin u)).scopes = (withAdmin u).scopes := by
    unfold withPassword
    split <;> rfl
  unfold create at created
  simp only at created
  split at created
  · obtain ⟨same, _⟩ := Prod.mk.inj (Except.ok.inj created)
    rw [← Option.some.inj same]
    exact kept
  · cases created
  · cases created

theorem split_added (scopes : String) :
    Words.split ',' (scopes ++ ",admin:r:w") = Words.split ',' scopes ++ ["admin:r:w"] := by
  have clean : ',' ∉ "admin:r:w".toList := by decide
  have cut := Words.split_separated ',' scopes "admin:r:w"
  rw [Words.split_self clean, String.append_assoc] at cut
  exact cut

theorem deciding_singleton_iff {name scope held : String} :
    deciding name [scope] = some held ↔ name = ns scope ∧ held = scope := by
  by_cases same : ns scope = name
  · simp [deciding, Keyed.last, Keyed.under, same, eq_comm]
  · simp [deciding, Keyed.last, Keyed.under, same, Ne.symm same]

theorem validate_admin_iff (scopes : List String) :
    validate ["admin:r:w"] scopes = true ↔
      ∃ held, deciding "admin" scopes = some held ∧ ("r" ∈ actions held ∨ "w" ∈ actions held) := by
  have allowed (held : String) :
      Allows held "admin:r:w" ↔ "r" ∈ actions held ∨ "w" ∈ actions held := by
    simp [Allows, actions_admin]
  rw [validate_eq_true]
  constructor
  · rintro ⟨_, name, scope, held, required, decides, allows⟩
    obtain ⟨rfl, rfl⟩ := deciding_singleton_iff.mp required
    exact ⟨held, ns_admin ▸ decides, (allowed held).mp allows⟩
  · rintro ⟨held, decides, actions⟩
    refine ⟨fun _ => .inl ?_, "admin", "admin:r:w", held, ?_, decides, (allowed held).mpr actions⟩
    · intro scope member
      rw [List.mem_singleton.mp member, ns_admin]
      exact ⟨held, deciding_mem decides⟩
    · exact deciding_singleton_iff.mpr ⟨ns_admin.symm, rfl⟩

theorem deciding_added (name : String) (scopes : List String) :
    deciding name (scopes ++ ["admin:r:w"]) =
      if name = "admin" then some "admin:r:w" else deciding name scopes := by
  rw [deciding_append]
  by_cases admin : name = "admin"
  · have own : deciding name ["admin:r:w"] = some "admin:r:w" :=
      deciding_singleton_iff.mpr ⟨admin.trans ns_admin.symm, rfl⟩
    rw [own, if_pos admin, Option.some_or]
  · have other : deciding name ["admin:r:w"] = none := by
      apply Option.eq_none_iff_forall_ne_some.mpr
      intro held decides
      exact admin ((deciding_singleton_iff.mp decides).1.trans ns_admin)
    rw [other, if_neg admin, Option.none_or]

/-- What is added overwrites the scope that has decided on the name. -/
theorem kept_added_iff (scopes : List String) :
    (∀ scope ∈ scopes, Effective scopes scope → Effective (scopes ++ ["admin:r:w"]) scope) ↔
      ∀ held, deciding "admin" scopes = some held →
        ∀ action ∈ actions held, action = "r" ∨ action = "w" := by
  have added (action : String) : action ∈ actions "admin:r:w" ↔ action = "r" ∨ action = "w" := by
    simp [actions_admin]
  constructor
  · intro kept held decides action asked
    obtain ⟨member, admin⟩ := deciding_mem decides
    obtain ⟨now, decided, covers⟩ :=
      kept held member ⟨held, admin ▸ decides, fun _ asked => asked⟩
    rw [deciding_added, if_pos admin] at decided
    obtain rfl := Option.some.inj decided
    exact (added action).mp (covers action asked)
  · rintro small scope member ⟨held, decides, covers⟩
    by_cases admin : ns scope = "admin"
    · refine ⟨"admin:r:w", by rw [deciding_added, if_pos admin], ?_⟩
      intro action asked
      exact (added action).mpr (small held (admin ▸ decides) action (covers action asked))
    · exact ⟨held, by rw [deciding_added, if_neg admin, decides], covers⟩

/-- A superuser who is stored has the rights of an administrator, and those of the scopes given,
exactly if the text that is looked for stands for them, or else the scopes give no other rights
of that name. -/
theorem superuser_granted_iff {scrypt : Scrypt} {db later : Database} {drawn : Nat} {u : UserOrm}
    {password salt : Option String} {um : UserModel} (superuser : u.is_superuser = true)
    (created : create scrypt db drawn u password salt = .ok (some um, later)) :
    Grants u.scopes um ↔ Meets u.scopes := by
  have stored := scopes_of_created created
  by_cases inside : Inside "admin:read:write" u.scopes
  · have same : (tokenPayload um).scopes = Words.split ',' u.scopes := by
      rw [scopes_tokenPayload, stored, withAdmin, if_neg (fun both => both.2 inside)]
    rw [Meets, if_pos inside, ← validate_admin_iff, ← same]
    exact ⟨Grants.admin, fun admin => ⟨admin, fun scope _ effective => same ▸ effective⟩⟩
  · have more : (tokenPayload um).scopes = Words.split ',' u.scopes ++ ["admin:r:w"] := by
      rw [scopes_tokenPayload, stored, withAdmin, if_pos ⟨superuser, inside⟩, split_added]
    rw [Meets, if_neg inside, ← kept_added_iff, ← more]
    refine ⟨Grants.kept, fun kept => ⟨?_, kept⟩⟩
    rw [validate_admin_iff, more]
    exact ⟨"admin:r:w", by rw [deciding_added, if_pos rfl], by simp [actions_admin]⟩

namespace Sample

def root : UserOrm := { username := "root", scopes := "admin:read:write", is_superuser := true }

def stored : UserModel := modelOf root 1

theorem created : create PasswordChanges.Sample.copying LabFunctions.Sample.db 1 root =
    .ok (some stored, { LabFunctions.Sample.db with users := ⟨[stored], by decide⟩ }) := rfl

theorem superuser_granted_sample : Grants "admin:read:write" stored ↔ Meets "admin:read:write" :=
  superuser_granted_iff rfl created

end Sample

/-- The longer names of the two actions stand for themselves alone. -/
theorem long_names_refused : ¬∀ (scrypt : Scrypt) (db later : Database) (drawn : Nat) (u : UserOrm)
    (password salt : Option String) (um : UserModel), u.is_superuser = true →
      create scrypt db drawn u password salt = .ok (some um, later) → Grants u.scopes um := by
  intro grants
  have granted := grants _ _ _ _ _ none none _ rfl Sample.created
  have refused : validate ["admin:r:w"] (tokenPayload Sample.stored).scopes = false := by
    rw [scopes_tokenPayload]
    decide
  rw [granted.admin] at refused
  cases refused

end AdminScopes

end LabFunctions
