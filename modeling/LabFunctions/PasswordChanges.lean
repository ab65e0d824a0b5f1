import LabFunctions.DisabledUsers
import Mathlib.Logic.Function.Basic

/-!
A password is changed from the command line and from the server: `change_pass` and
`change_pass_async`, and what `verify_password` answers afterwards.
-/

namespace LabFunctions

structure ScryptSettings where
  salt : ByteArray
  length : Nat
  n : Nat
  r : Nat
  p : Nat

/-- `Scrypt` itself, with what is assumed of it. A key is held as text. -/
structure Scrypt where
  derive : ScryptSettings → ByteArray → String
  verify : ScryptSettings → ByteArray → String → Bool
  derive_injective : ∀ kdf, Function.Injective (derive kdf)
  verify_iff : ∀ kdf material key, verify kdf material key = true ↔ key = derive kdf material

inductive Salt where
  | bytes (salt : ByteArray)
  | str (salt : String)

structure PasswordScript where
  salt : ByteArray
  n : Nat := 2 ^ 14
  r : Nat := 8
  p : Nat := 1

namespace PasswordScript

def ofSalt : Salt → PasswordScript
  | .bytes salt => { salt }
  | .str salt => { salt := salt.toUTF8 }

def _kdf (pm : PasswordScript) : ScryptSettings :=
  { salt := pm.salt, length := 32, n := pm.n, r := pm.r, p := pm.p }

def encrypt (scrypt : Scrypt) (pm : PasswordScript) (pass_ : String) : String :=
  scrypt.derive pm._kdf pass_.toUTF8

/-- The key of a user who never had a password is NULL, on which `kdf.verify` raises. -/
def verify (scrypt : Scrypt) (pm : PasswordScript) (unencrypted : String) :
    Option String → Bool
  | some encrypted => scrypt.verify pm._kdf unencrypted.toUTF8 encrypted
  | none => false

end PasswordScript

/-- The tables, and for each user id the time in the row's `updated_at`. -/
structure UserRecords where
  db : Database
  updated_at : Nat → Int

namespace UsersMg

def rekey (id : Nat) (key : String) (user : UserModel) : UserModel :=
  if user.id = id then { user with password := some key } else user

theorem rekey_names (id : Nat) (key : String) (user : UserModel) :
    (rekey id key user).id = user.id ∧ (rekey id key user).username = user.username ∧
      (rekey id key user).is_active = user.is_active := by
  unfold rekey
  split <;> exact ⟨rfl, rfl, rfl⟩

theorem accepted_rekey (id : Nat) (key : String) {rows : List UserModel}
    (accepted : UserModel.Accepted rows) : UserModel.Accepted (rows.map (rekey id key)) := by
  constructor
  · refine (Distinct.map_of_key_eq ?_).mpr accepted.1
    intro row _
    exact congrArg some (rekey_names id key row).1
  · refine (Distinct.map_of_key_eq ?_).mpr accepted.2
    intro row _
    exact congrArg some (rekey_names id key row).2.1

/-- `obj.password = key`, as the flush writes it to the row of the object. -/
def setPassword (db : Database) (obj : UserModel) (key : String) : Database :=
  { db with
    users := ⟨db.users.rows.map (rekey obj.id key), accepted_rekey obj.id key db.users.holds⟩ }

def setUpdatedAt (updated_at : Nat → Int) (obj : UserModel) (now : Int) : Nat → Int :=
  Function.update updated_at obj.id now

def encrypt_password (scrypt : Scrypt) (password : String) (salt : Salt) : String :=
  (PasswordScript.ofSalt salt).encrypt scrypt password

def change_pass_async (scrypt : Scrypt) (now : Int) (users : UserRecords)
    (username new_password : String) (salt : Salt) : Except Exn UserRecords := do
  let u ← get_user_async users.db username
  match u with
  | some u =>
      let pass_ := encrypt_password scrypt new_password salt
      -- a comparison stands where the assignment belongs
      let _ := u.password == some pass_
      return { users with updated_at := setUpdatedAt users.updated_at u now }
  | none => return users

def change_pass (scrypt : Scrypt) (now : Int) (users : UserRecords)
    (user new_password : String) (salt : Salt) : Except Exn (Bool × UserRecords) := do
  let obj ← get_user users.db user
  match obj with
  | some obj =>
      let pass_ := encrypt_password scrypt new_password salt
      return (true,
        { db := setPassword users.db obj pass_
          updated_at := setUpdatedAt users.updated_at obj now })
  | none => return (false, users)

end UsersMg

namespace PasswordChanges

open UsersMg

def verify_password (scrypt : Scrypt) (user : UserModel) (pass_unencrypted : String)
    (salt : Salt) : Bool :=
  let pm := PasswordScript.ofSalt salt
  let verified := pm.verify scrypt pass_unencrypted user.password
  verified && user.is_active

/-- What a change of the password of `username` promises. -/
structure Changed (scrypt : Scrypt) (before after : UserRecords) (username new_password : String)
    (salt : Salt) : Prop where
  named : ∀ user ∈ before.db.users.rows, user.username = username →
    ∃ changed ∈ after.db.users.rows, changed.username = username ∧
      ∀ p, verify_password scrypt changed p salt = true ↔ p = new_password ∧ user.is_active = true
  others : ∀ user ∈ before.db.users.rows, user.username ≠ username →
    ∃ kept ∈ after.db.users.rows, kept.username = user.username ∧
      ∀ p salt, verify_password scrypt kept p salt = verify_password scrypt user p salt
  unknown : (∀ user ∈ before.db.users.rows, user.username ≠ username) → after = before

def Holds (scrypt : Scrypt) (user : UserModel) (password : String) (salt : Salt) : Prop :=
  user.password = some (encrypt_password scrypt password salt)

/-! What `verify_password` observes of a row. -/

theorem toUTF8_injective : Function.Injective String.toUTF8 :=
  fun _ _ same => String.toByteArray_inj.mp same

theorem encrypt_password_injective (scrypt : Scrypt) (salt : Salt) :
    Function.Injective fun password => encrypt_password scrypt password salt :=
  (scrypt.derive_injective _).comp toUTF8_injective

theorem verify_password_iff {scrypt : Scrypt} {user : UserModel} {p : String} {salt : Salt} :
    verify_password scrypt user p salt = true ↔
      Holds scrypt user p salt ∧ user.is_active = true := by
  unfold verify_password PasswordScript.verify Holds
  rw [Bool.and_eq_true]
  cases user.password with
  | none => simp
  | some key =>
      rw [Option.some.injEq]
      exact and_congr_left' (scrypt.verify_iff _ _ _)

theorem accepts_only_iff {scrypt : Scrypt} {user : UserModel} {new_password : String}
    {salt : Salt} :
    (∀ p, verify_password scrypt user p salt = true ↔ p = new_password ∧ user.is_active = true) ↔
      (user.is_active = true → Holds scrypt user new_password salt) := by
  constructor
  · intro only active
    exact (verify_password_iff.mp ((only new_password).mpr ⟨rfl, active⟩)).1
  · intro holds p
    rw [verify_password_iff]
    refine and_congr_left fun active => ?_
    constructor
    · intro other
      have same := Option.some.inj (other.symm.trans (holds active))
      exact encrypt_password_injective scrypt salt same
    · rintro rfl
      exact holds active

/-! The rows that the two functions leave. -/

variable {scrypt : Scrypt} {users : UserRecords} {username new_password : String} {salt : Salt}

theorem change_pass_known (scrypt : Scrypt) (now : Int) (new_password : String) (salt : Salt)
    {user : UserModel} (stored : user ∈ users.db.users.rows)
    (named : user.username = username) :
    change_pass scrypt now users username new_password salt = .ok (true,
      { db := setPassword users.db user (encrypt_password scrypt new_password salt)
        updated_at := setUpdatedAt users.updated_at user now }) ∧
    change_pass_async scrypt now users username new_password salt =
      .ok { users with updated_at := setUpdatedAt users.updated_at user now } := by
  subst named
  unfold change_pass change_pass_async get_user get_user_async
  simp [truthy, Projects.scalar_take_one, Projects.select_user_head stored, bind, Except.bind, pure,
    Except.pure]

theorem change_pass_unknown (scrypt : Scrypt) (now : Int) (new_password : String) (salt : Salt)
    (unknown : ∀ user ∈ users.db.users.rows, user.username ≠ username) :
    change_pass scrypt now users username new_password salt = .ok (false, users) ∧
      change_pass_async scrypt now users username new_password salt = .ok users := by
  unfold change_pass change_pass_async get_user get_user_async
  simp [truthy, Projects.scalar_take_one, Projects.select_user_none unknown, bind, Except.bind,
    pure, Except.pure]

theorem rekey_other {db : Database} {user obj : UserModel} (stored : user ∈ db.users.rows)
    (member : obj ∈ db.users.rows) (other : user.username ≠ obj.username) (key : String) :
    rekey obj.id key user = user := by
  unfold rekey
  rw [if_neg]
  intro same
  exact other (congrArg _ (Database.user_unique_id stored member same))

theorem changed_setPassword {obj : UserModel} (stored : obj ∈ users.db.users.rows)
    (named : obj.username = username) (updated_at : Nat → Int) :
    Changed scrypt users
      ⟨setPassword users.db obj (encrypt_password scrypt new_password salt), updated_at⟩
      username new_password salt where
  named := by
    intro user member same
    obtain rfl : user = obj := Database.user_unique member stored (same.trans named.symm)
    refine ⟨rekey user.id _ user, List.mem_map_of_mem member, (rekey_names ..).2.1.trans same, ?_⟩
    rw [← (rekey_names user.id (encrypt_password scrypt new_password salt) user).2.2]
    refine accepts_only_iff.mpr fun _ => ?_
    simp [Holds, rekey]
  others := by
    intro user member other
    have kept := rekey_other member stored (fun same => other (same.trans named))
      (encrypt_password scrypt new_password salt)
    exact ⟨user, List.mem_map.mpr ⟨user, member, kept⟩, rfl, fun _ _ => rfl⟩
  unknown := by
    intro unknown
    exact absurd named (unknown obj stored)

theorem changed_same_rows_iff {updated_at : Nat → Int} {obj : UserModel}
    (stored : obj ∈ users.db.users.rows) (named : obj.username = username) :
    Changed scrypt users { users with updated_at } username new_password salt ↔
      (obj.is_active = true → Holds scrypt obj new_password salt) := by
  constructor
  · intro changed
    obtain ⟨same, member, sameName, only⟩ := changed.named obj stored named
    obtain rfl : same = obj := Database.user_unique member stored (sameName.trans named.symm)
    exact accepts_only_iff.mp only
  · intro holds
    refine ⟨?_, fun user member _ => ⟨user, member, rfl, fun _ _ => rfl⟩, ?_⟩
    · intro user member same
      obtain rfl : user = obj := Database.user_unique member stored (same.trans named.symm)
      exact ⟨user, member, same, accepts_only_iff.mpr holds⟩
    · intro unknown
      exact absurd named (unknown obj stored)

theorem setPassword_eq_iff {db : Database} {obj : UserModel} (stored : obj ∈ db.users.rows)
    (key : String) : setPassword db obj key = db ↔ obj.password = some key := by
  constructor
  · intro same
    have rows : db.users.rows.map (rekey obj.id key) = db.users.rows.map id :=
      (congrArg (fun db => db.users.rows) same).trans (List.map_id _).symm
    have kept : rekey obj.id key obj = obj := List.map_inj_left.mp rows obj stored
    rw [← kept]
    simp [rekey]
  · intro holds
    have rows : db.users.rows.map (rekey obj.id key) = db.users.rows := by
      refine (List.map_congr_left fun user member => ?_).trans (List.map_id _)
      unfold rekey
      split
      · rename_i same
        obtain rfl := Database.user_unique_id member stored same
        rw [← holds]
        rfl
      · rfl
    unfold setPassword
    have table : (⟨db.users.rows.map (rekey obj.id key), accepted_rekey obj.id key db.users.holds⟩ :
        Table UserModel UserModel.Accepted) = db.users := Table.ext_rows rows
    rw [table]

/-- Both changes are the change that was asked for exactly when the named user is disabled or
holds the key of the new password already: `change_pass` always is one, and the other function
leaves the key as it was. The tables agree exactly when the key is the same. -/
theorem change_pass_iff (scrypt : Scrypt) (now : Int) (users : UserRecords)
    (username new_password : String) (salt : Salt) :
    ∃ done after afterAsync,
      change_pass scrypt now users username new_password salt = .ok (done, after) ∧
      change_pass_async scrypt now users username new_password salt = .ok afterAsync ∧
      Changed scrypt users after username new_password salt ∧
      (Changed scrypt users afterAsync username new_password salt ↔
        ∀ user ∈ users.db.users.rows, user.username = username → user.is_active = true →
          Holds scrypt user new_password salt) ∧
      (after = afterAsync ↔ ∀ user ∈ users.db.users.rows, user.username = username →
        Holds scrypt user new_password salt) := by
  rcases users.db.known_or_unknown username with ⟨user, stored, named⟩ | unknown
  · obtain ⟨sync, async⟩ := change_pass_known scrypt now new_password salt stored named
    have only : ∀ other ∈ users.db.users.rows, other.username = username → other = user :=
      fun _ member same => Database.user_unique member stored (same.trans named.symm)
    refine ⟨_, _, _, sync, async, changed_setPassword stored named _, ?_, ?_⟩
    · rw [changed_same_rows_iff stored named]
      constructor
      · intro holds other member same
        rw [only other member same]
        exact holds
      · intro holds
        exact holds user stored named
    · rw [UserRecords.mk.injEq, and_iff_left rfl, setPassword_eq_iff stored]
      constructor
      · intro holds other member same
        rw [only other member same]
        exact holds
      · intro holds
        exact holds user stored named
  · obtain ⟨sync, async⟩ := change_pass_unknown scrypt now new_password salt unknown
    have vacuous : Changed scrypt users users username new_password salt :=
      ⟨fun user member same => absurd same (unknown user member),
        fun user member _ => ⟨user, member, rfl, fun _ _ => rfl⟩, fun _ => rfl⟩
    refine ⟨_, _, _, sync, async, vacuous, ?_, ?_⟩
    · exact iff_of_true vacuous fun user member same => absurd same (unknown user member)
    · exact iff_of_true rfl fun user member same => absurd same (unknown user member)

namespace Sample

def keyOf (material : ByteArray) : String :=
  String.ofList (material.data.toList.map Char.ofUInt8)

theorem keyOf_injective : Function.Injective keyOf := by
  intro left right same
  have chars := String.ofList_injective same
  have ofUInt8_injective : Function.Injective Char.ofUInt8 :=
    fun _ _ equal => UInt8.toUInt32_inj.mp (congrArg Char.val equal)
  have bytes := List.map_injective_iff.mpr ofUInt8_injective chars
  exact ByteArray.ext (Array.toList_inj.mp bytes)

def copying : Scrypt where
  derive _ material := keyOf material
  verify _ material key := key == keyOf material
  derive_injective _ := keyOf_injective
  verify_iff _ _ _ := beq_iff_eq

def ada : UserModel := { id := 1, username := "ada", password := some "old" }

def records : UserRecords where
  db := { LabFunctions.Sample.db with users := ⟨[ada], by decide⟩ }
  updated_at _ := 0

end Sample

/-- Ada asks the server for a new password, and keeps the old one. -/
theorem old_password_stays : ¬∀ (now : Int) (users after : UserRecords)
    (username new_password : String) (salt : Salt),
    change_pass_async Sample.copying now users username new_password salt = .ok after →
      Changed Sample.copying users after username new_password salt := by
  intro changes
  have stored : Sample.ada ∈ Sample.records.db.users.rows := List.mem_singleton.mpr rfl
  have changed := changes 60 Sample.records _ "ada" "new" (.str "salt")
    (change_pass_known Sample.copying 60 "new" (.str "salt") stored rfl).2
  have holds := (changed_same_rows_iff stored rfl).mp changed rfl
  have key : encrypt_password Sample.copying "new" (.str "salt") = "new" := by decide
  rw [Holds, key] at holds
  exact absurd holds (by decide)

end PasswordChanges

end LabFunctions
