import LabFunctions.Filenames
import LabFunctions.LabStates
import LabFunctions.Library.Effects
import LabFunctions.Secrets

/-!
`labfunctions.runtimes.bundler`: the secrets of a project are written to its working area, go into
a bundle, and are removed, when each of the steps may fail.
-/

namespace LabFunctions

namespace Defaults

def CLIENT_TMP_FOLDER : String := ".nb_tmp"
def ZIP_GIT_PREFIX : String := "src/"

end Defaults

structure ProjectBundleFile where
  runtime_name : String
  version : String
  filepath : String
  filename : String
  commit : Option String := none
  stash : Option Bool := some false
  current : Option Bool := some false
  format_type : String := "zip"

namespace SecretBundles

open Effects

inductive BundleExn where
  | keyError (message : String)
  | typeError (message : String)
  | attributeError (message : String)
  | commandExecution (err : String)
  | fileNotFound (path : String)
  | raised (failure : Exn)

/-- How a file is written: a failure comes before the file is opened, or leaves in it what it had
got to. -/
inductive Written where
  | done
  | refused (failure : Exn)
  | broken (left : String) (failure : Exn)

/-- What the call is made with, and how the calls that it makes end. A failure that is named here is
one that they raise. -/
structure Call (fernet : Fernet) where
  root : String
  working_area : String
  spec : RuntimeSpec
  privkey : Option String := none
  stash : Bool := false
  current : Bool := false
  unicode : Unicode
  getenv : String → Option String
  draws : String → fernet.Draw
  is_file : String → Bool
  mkdir : Option Exn := none
  write_secrets : Written := .done
  execute_cmd : String → Except BundleExn String
  read_copied : Option Exn := none
  write_copy : Written := .done
  zip : Option Exn := none
  unlink_copy : Option Exn := none
  unlink_secrets : Option Exn := none

abbrev Files := Disk String

abbrev Bundling (α : Type) := Effect BundleExn Files α

def raising : Option Exn → Bundling PUnit
  | none => pure ⟨⟩
  | some failure => throw (.raised failure)

def write (outcome : Written) (path content : String) : Bundling PUnit := act fun files =>
  match outcome with
  | .done => (.ok ⟨⟩, Function.update files path (some content))
  | .refused failure => (.error (.raised failure), files)
  | .broken left failure => (.error (.raised failure), Function.update files path (some left))

def read_bytes (failure : Option Exn) (path : String) : Bundling String := act fun files =>
  match failure, files path with
  | some failure, _ => (.error (.raised failure), files)
  | none, none => (.error (.fileNotFound path), files)
  | none, some content => (.ok content, files)

/-- `unlink(missing_ok=True)` -/
def unlink (failure : Option Exn) (path : String) : Bundling PUnit := act fun files =>
  match failure with
  | none => (.ok ⟨⟩, Function.update files path none)
  | some failure => (.error (.raised failure), files)

def get_secrets_filepath (working_area : String) : String :=
  working_area ++ "/" ++ Defaults.CLIENT_TMP_FOLDER ++ "/" ++ Defaults.SECRETS_FILENAME

section Bundle

variable {fernet : Fernet} (call : Call fernet)

def encrypt_nbvars (private_key : String) (nbvars_dict : List (String × Variable)) :
    Except BundleExn String :=
  match fernet.parse private_key with
  | none => .error (.raised (.otherError "Fernet key must be 32 url-safe base64-encoded bytes."))
  | some f => (Secrets.write_secrets fernet call.draws f nbvars_dict).mapError .raised

def write_secrets (working_area private_key : String) (nbvars_dict : List (String × Variable)) :
    Bundling String := do
  let encoded_vars ← lift (encrypt_nbvars call private_key nbvars_dict)
  let outfile := get_secrets_filepath working_area
  write call.write_secrets outfile encoded_vars
  return outfile

def output_file (working_area filename : String) : String :=
  working_area ++ "/" ++ Defaults.CLIENT_TMP_FOLDER ++ "/" ++ filename

def archive (prefix_folder secrets_file output_file commit : String) : String :=
  "git archive --prefix=" ++ prefix_folder ++ " --add-file " ++ secrets_file ++ " -o " ++
    output_file ++ " " ++ commit ++ " "

def zip_git_stash (working_area runtime_name prefix_folder : String) :
    Bundling (Option ProjectBundleFile) := do
  let secrets_file := get_secrets_filepath working_area
  let filename := runtime_name ++ ".stash.zip"
  let output_file := output_file working_area filename
  let stash_id ← lift (call.execute_cmd "git stash create")
  if stash_id = "" then return none
  else
    let _out ← lift (call.execute_cmd (archive prefix_folder secrets_file output_file stash_id))
    return some {
      filepath := output_file
      filename := filename
      current := some false
      stash := some true
      version := "stash"
      runtime_name := runtime_name }

/-- The last tag, or the last commit where there is none. -/
def tagname : Except BundleExn String :=
  match call.execute_cmd "git describe --tags" with
  | .ok tag => if tag = "" then call.execute_cmd "git rev-parse --short HEAD" else .ok tag
  | .error (.commandExecution _) => call.execute_cmd "git rev-parse --short HEAD"
  | .error failure => .error failure

def zip_git_head (working_area runtime_name prefix_folder : String) :
    Bundling ProjectBundleFile := do
  let secrets_file := get_secrets_filepath working_area
  let tagname ← lift (tagname call)
  let filename := runtime_name ++ "." ++ tagname ++ ".zip"
  let output_file := output_file working_area filename
  let _out ← lift (call.execute_cmd (archive prefix_folder secrets_file output_file "HEAD"))
  return {
    runtime_name := runtime_name
    filepath := output_file
    filename := filename
    version := call.unicode.lower tagname
    commit := some tagname }

/-- What is put into the archive is a matter of the block that may fail as a whole. -/
def zip_current (root working_area runtime_name : String) : Bundling ProjectBundleFile := do
  let filename := runtime_name ++ ".current.zip"
  let output_file := output_file working_area filename
  let secrets_file := get_secrets_filepath working_area
  let dst := root ++ "/.secrets"
  let content ← read_bytes call.read_copied secrets_file
  write call.write_copy dst content
  raising call.zip
  unlink call.unlink_copy dst
  return {
    runtime_name := runtime_name
    filepath := output_file
    filename := filename
    version := "current"
    current := some true }

def zfile : Bundling ProjectBundleFile :=
  if call.stash && !call.current then do
    match ← zip_git_stash call call.working_area call.spec.name Defaults.ZIP_GIT_PREFIX with
    | none => throw (.typeError ("There isn't changes in the git repository to perform a " ++
        "STASH zip file. For untracked files you should add to " ++
        "the stash the changes, perform: git add ."))
    | some zfile => return zfile
  else if call.current && !call.stash then
    zip_current call call.root call.working_area call.spec.name
  else if !call.current && !call.stash then
    zip_git_head call call.working_area call.spec.name Defaults.ZIP_GIT_PREFIX
  else throw (.attributeError "Bad option: current and stash are different options")

def nbvars : Bundling (List (String × Variable)) := do
  if !call.is_file (call.root ++ "/" ++ call.spec.container.requirements) then
    throw (.keyError "A requirements file is missing")
  else
    raising call.mkdir
    act fun files =>
      ((Secrets.load fernet ⟨call.getenv, files⟩ (some call.root)).mapError .raised, files)

def bundle_project : Bundling ProjectBundleFile := do
  let nbvars ← nbvars call
  if truthy call.privkey then
    let secrets_file ← write_secrets call call.working_area (pyOr call.privkey "") nbvars
    let zfile ← zfile call
    unlink call.unlink_secrets secrets_file
    return zfile
  else zfile call

def secretsPath : String := get_secrets_filepath call.working_area

def copyPath : String := call.root ++ "/.secrets"

def KeepsAt (before after : Files) (path : String) : Prop :=
  ∀ content, after path = some content → before path = some content

/-- No file that the call wrote is there after it, unless it was there before it. -/
def Clean (before : Files) : Prop :=
  let after := (run (bundle_project call) before).2
  KeepsAt before after (secretsPath call) ∧ KeepsAt before after (copyPath call)

/-! What the call comes to, by what it finds and how its steps end. -/

def loaded (files : Files) : Except BundleExn (List (String × Variable)) :=
  if !call.is_file (call.root ++ "/" ++ call.spec.container.requirements) then
    .error (.keyError "A requirements file is missing")
  else
    match call.mkdir with
    | some failure => .error (.raised failure)
    | none => (Secrets.load fernet ⟨call.getenv, files⟩ (some call.root)).mapError .raised

def encrypted (files : Files) : Except BundleExn String :=
  (loaded call files).bind (encrypt_nbvars call (pyOr call.privkey ""))

/-- What is in a file that has been opened to write the text into it. -/
def Written.content (outcome : Written) (text : String) : Option String :=
  match outcome with
  | .done => some text
  | .refused _ => none
  | .broken left _ => some left

/-- What the call writes to the working area. -/
def saved (files : Files) : Option String :=
  match truthy call.privkey, encrypted call files with
  | true, .ok text => call.write_secrets.content text
  | _, _ => none

/-- What is copied to the project, where this is in the working area. -/
def copied (content : Option String) : Option String :=
  match call.current && !call.stash, call.read_copied, content with
  | true, none, some content => call.write_copy.content content
  | _, _, _ => none

/-- What the call writes to the project. -/
def copy (files : Files) : Option String :=
  if truthy call.privkey then
    match encrypted call files, call.write_secrets with
    | .ok text, .done => copied call (some text)
    | _, _ => none
  else
    match loaded call files with
    | .ok _ => copied call (files (secretsPath call))
    | .error _ => none

def CopyRemoved : Prop := call.write_copy = .done ∧ call.zip = none ∧ call.unlink_copy = none

/-- There is something to stash, the options agree, and git and zip succeed. -/
def Bundled (content : Option String) : Prop :=
  match call.stash, call.current with
  | true, false => ∃ stash_id out, call.execute_cmd "git stash create" = .ok stash_id ∧
      stash_id ≠ "" ∧
      call.execute_cmd (archive Defaults.ZIP_GIT_PREFIX (secretsPath call)
        (output_file call.working_area (call.spec.name ++ ".stash.zip")) stash_id) = .ok out
  | false, true => copied call content ≠ none ∧ CopyRemoved call
  | false, false => ∃ tag out, tagname call = .ok tag ∧
      call.execute_cmd (archive Defaults.ZIP_GIT_PREFIX (secretsPath call)
        (output_file call.working_area (call.spec.name ++ "." ++ tag ++ ".zip")) "HEAD") = .ok out
  | true, true => False

/-- Whatever is written was there already, or all that comes after it succeeds. -/
structure Meets (files : Files) : Prop where
  secrets : ∀ content, saved call files = some content →
    files (secretsPath call) = some content ∨
    (call.write_secrets = .done ∧ Bundled call (some content) ∧ call.unlink_secrets = none) ∨
    -- the copy is made over the file itself
    (secretsPath call = copyPath call ∧ copy call files ≠ none)
  copy : ∀ content, copy call files = some content →
    files (copyPath call) = some content ∨ CopyRemoved call

/-! What the making of the bundle does to the files. -/

/-- Copied is nothing, or a text that is removed, or one that stays. -/
inductive Zipped (files : Files) : Except BundleExn ProjectBundleFile × Files → Prop where
  | untouched (copied : copied call (files (secretsPath call)) = none)
      (result : Except BundleExn ProjectBundleFile)
      (made : (∃ zfile, result = .ok zfile) ↔ Bundled call (files (secretsPath call))) :
      Zipped files (result, files)
  | removed (content : String) (copied : copied call (files (secretsPath call)) = some content)
      (removed : CopyRemoved call) (zfile : ProjectBundleFile)
      (made : Bundled call (files (secretsPath call))) :
      Zipped files (.ok zfile, Function.update files (copyPath call) none)
  | left (content : String) (copied : copied call (files (secretsPath call)) = some content)
      (left : ¬CopyRemoved call) (failure : BundleExn)
      (made : ¬Bundled call (files (secretsPath call))) :
      Zipped files (.error failure, Function.update files (copyPath call) (some content))

variable {call} {files : Files}

/-- The lines of `zip_current` after the secrets have been read. -/
def copying (call : Call fernet) (content : String) : Bundling ProjectBundleFile := do
  write call.write_copy (copyPath call) content
  raising call.zip
  unlink call.unlink_copy (copyPath call)
  return {
    runtime_name := call.spec.name
    filepath := output_file call.working_area (call.spec.name ++ ".current.zip")
    filename := call.spec.name ++ ".current.zip"
    version := "current"
    current := some true }

theorem run_zip_current (files : Files) :
    run (zip_current call call.root call.working_area call.spec.name) files =
      match call.read_copied, files (secretsPath call) with
      | some failure, _ => (.error (.raised failure), files)
      | none, none => (.error (.fileNotFound (secretsPath call)), files)
      | none, some content => run (copying call content) files := by
  rw [zip_current, run_bind]
  cases read : call.read_copied with
  | some failure => simp [read_bytes]
  | none =>
      cases found : files (secretsPath call) <;>
      · rw [secretsPath] at found
        simp only [read_bytes, run_act, found]
        rfl

theorem bundled_current_iff (current : call.current = true) (stash : call.stash = false)
    (content : Option String) :
    Bundled call content ↔ copied call content ≠ none ∧ CopyRemoved call := by
  simp [Bundled, current, stash]

/-- The copy is made, zipped and removed, as far as the three succeed. -/
theorem zipped_copying {content : String} (copies : copied call (files (secretsPath call)) =
      call.write_copy.content content)
    (bundled : Bundled call (files (secretsPath call)) ↔
      copied call (files (secretsPath call)) ≠ none ∧ CopyRemoved call) :
    Zipped call files (run (copying call content) files) := by
  rw [copying, run_bind]
  cases written : call.write_copy with
  | refused failure =>
      have none_ : copied call (files (secretsPath call)) = none := by
        rw [copies, written]
        rfl
      simp only [write, run_act]
      exact .untouched none_ _ (by simp [bundled, none_])
  | broken left failure =>
      have some_ : copied call (files (secretsPath call)) = some left := by
        rw [copies, written]
        rfl
      have stays : ¬CopyRemoved call := by simp [CopyRemoved, written]
      simp only [write, run_act]
      exact .left left some_ stays _ (by simp [bundled, stays])
  | done =>
      have some_ : copied call (files (secretsPath call)) = some content := by
        rw [copies, written]
        rfl
      simp only [write, run_act]
      rw [run_bind]
      cases zipped : call.zip with
      | some failure =>
          have stays : ¬CopyRemoved call := by simp [CopyRemoved, zipped]
          simp only [raising, run_throw]
          exact .left content some_ stays _ (by simp [bundled, stays])
      | none =>
          simp only [raising, run_pure]
          rw [run_bind]
          cases unlinked : call.unlink_copy with
          | some failure =>
              have stays : ¬CopyRemoved call := by simp [CopyRemoved, unlinked]
              simp only [unlink, run_act]
              exact .left content some_ stays _ (by simp [bundled, stays])
          | none =>
              have gone : CopyRemoved call := ⟨written, zipped, unlinked⟩
              simp only [unlink, run_act, run_pure, Function.update_idem]
              exact .removed content some_ gone _ (by simp [bundled, some_, gone])

theorem zipped_current (current : call.current = true) (stash : call.stash = false) :
    Zipped call files (run (zfile call) files) := by
  have chosen : zfile call = zip_current call call.root call.working_area call.spec.name := by
    simp [zfile, current, stash]
  have bundled := bundled_current_iff current stash (files (secretsPath call))
  rw [chosen, run_zip_current]
  cases read : call.read_copied with
  | some failure =>
      have none_ : copied call (files (secretsPath call)) = none := by
        simp [copied, current, stash, read]
      exact .untouched none_ _ (by simp [bundled, none_])
  | none =>
      cases found : files (secretsPath call) with
      | none =>
          have none_ : copied call (files (secretsPath call)) = none := by
            simp [copied, current, stash, read, found]
          exact .untouched none_ _ (by simp [bundled, none_])
      | some content =>
          apply zipped_copying _ bundled
          simp [copied, current, stash, read, found]

theorem zipped_stash (current : call.current = false) (stash : call.stash = true) :
    Zipped call files (run (zfile call) files) := by
  have none_ : copied call (files (secretsPath call)) = none := by simp [copied, current]
  have chosen : zfile call = (do
      match ← zip_git_stash call call.working_area call.spec.name Defaults.ZIP_GIT_PREFIX with
      | none => throw (.typeError ("There isn't changes in the git repository to perform a " ++
          "STASH zip file. For untracked files you should add to " ++
          "the stash the changes, perform: git add ."))
      | some zfile => return zfile) := by
    simp [zfile, current, stash]
  rw [chosen, run_bind, zip_git_stash, run_bind, run_lift]
  cases created : call.execute_cmd "git stash create" with
  | error failure => exact .untouched none_ _ (by simp [Bundled, current, stash, created])
  | ok stash_id =>
      by_cases nothing : stash_id = ""
      · simp only [nothing, if_true, run_pure, run_throw]
        exact .untouched none_ _ (by simp [Bundled, current, stash, created, nothing])
      · simp only [nothing, if_false]
        rw [run_bind, run_lift]
        cases archived : call.execute_cmd (archive Defaults.ZIP_GIT_PREFIX
            (get_secrets_filepath call.working_area)
            (output_file call.working_area (call.spec.name ++ ".stash.zip")) stash_id) with
        | error failure =>
            exact .untouched none_ _ (by
              simp [Bundled, current, stash, created, secretsPath, archived])
        | ok out =>
            exact .untouched none_ _ (by
              simp [Bundled, current, stash, created, secretsPath, archived, nothing])

theorem zipped_head (current : call.current = false) (stash : call.stash = false) :
    Zipped call files (run (zfile call) files) := by
  have none_ : copied call (files (secretsPath call)) = none := by simp [copied, current]
  have chosen : zfile call = zip_git_head call call.working_area call.spec.name
      Defaults.ZIP_GIT_PREFIX := by
    simp [zfile, current, stash]
  rw [chosen, zip_git_head, run_bind, run_lift]
  cases tagged : tagname call with
  | error failure => exact .untouched none_ _ (by simp [Bundled, current, stash, tagged])
  | ok tag =>
      simp only
      rw [run_bind, run_lift]
      cases archived : call.execute_cmd (archive Defaults.ZIP_GIT_PREFIX
          (get_secrets_filepath call.working_area)
          (output_file call.working_area (call.spec.name ++ "." ++ tag ++ ".zip")) "HEAD") with
      | error failure =>
          exact .untouched none_ _ (by
            simp [Bundled, current, stash, tagged, secretsPath, archived])
      | ok out =>
          exact .untouched none_ _ (by
            simp [Bundled, current, stash, tagged, secretsPath, archived])

theorem zipped : Zipped call files (run (zfile call) files) := by
  cases current : call.current with
  | true =>
      cases stash : call.stash with
      | true =>
          have none_ : copied call (files (secretsPath call)) = none := by simp [copied, stash]
          have chosen : zfile call =
              throw (.attributeError "Bad option: current and stash are different options") := by
            simp [zfile, current, stash]
          rw [chosen, run_throw]
          exact .untouched none_ _ (by simp [Bundled, current, stash])
      | false => exact zipped_current current stash
  | false =>
      cases stash : call.stash with
      | true => exact zipped_stash current stash
      | false => exact zipped_head current stash

theorem run_nbvars : run (nbvars call) files = (loaded call files, files) := by
  unfold nbvars loaded
  by_cases missing : (!call.is_file (call.root ++ "/" ++ call.spec.container.requirements)) = true
  · rw [if_pos missing, if_pos missing, run_throw]
  · rw [if_neg missing, if_neg missing, run_bind]
    cases call.mkdir with
    | some failure => rfl
    | none => rfl

theorem run_write_secrets (private_key : String) (nbvars_dict : List (String × Variable)) :
    run (write_secrets call call.working_area private_key nbvars_dict) files =
      match encrypt_nbvars call private_key nbvars_dict, call.write_secrets with
      | .error failure, _ => (.error failure, files)
      | .ok text, .done =>
          (.ok (secretsPath call), Function.update files (secretsPath call) (some text))
      | .ok _, .refused failure => (.error (.raised failure), files)
      | .ok _, .broken left failure =>
          (.error (.raised failure), Function.update files (secretsPath call) (some left)) := by
  rw [write_secrets, run_bind, run_lift]
  cases encrypt_nbvars call private_key nbvars_dict with
  | error failure => rfl
  | ok text =>
      simp only
      rw [run_bind]
      cases call.write_secrets <;> rfl

/-! What is kept at a path. -/

section Keeps

variable {before after : Files} {path other : String}

theorem keepsAt_refl : KeepsAt before before path := fun _ found => found

theorem keepsAt_update_none : KeepsAt before (Function.update after path none) path := by
  intro content found
  rw [Function.update_self] at found
  cases found

theorem keepsAt_update_some_iff {content : String} :
    KeepsAt before (Function.update after path (some content)) path ↔
      before path = some content := by
  constructor
  · intro keeps
    exact keeps content (Function.update_self ..)
  · intro same found present
    rw [Function.update_self] at present
    exact Option.some.inj present ▸ same

theorem keepsAt_update_ne {content : Option String} (different : other ≠ path) :
    KeepsAt before (Function.update after path content) other ↔ KeepsAt before after other := by
  rw [KeepsAt, KeepsAt, Function.update_of_ne different]

end Keeps

theorem clean_of_unchanged (same : (run (bundle_project call) files).2 = files) :
    Clean call files := by
  rw [Clean, same]
  exact ⟨keepsAt_refl, keepsAt_refl⟩

/-- Where nothing is written to the working area, all depends on the copy. -/
theorem clean_zipped_iff {ended : Except BundleExn ProjectBundleFile × Files}
    (zipped : Zipped call files ended) :
    (KeepsAt files ended.2 (secretsPath call) ∧ KeepsAt files ended.2 (copyPath call)) ↔
      ∀ content, copied call (files (secretsPath call)) = some content →
        files (copyPath call) = some content ∨ CopyRemoved call := by
  cases zipped with
  | untouched none_ =>
      rw [none_]
      exact ⟨fun _ content some_ => (by cases some_), fun _ => ⟨keepsAt_refl, keepsAt_refl⟩⟩
  | removed content some_ removed =>
      refine ⟨fun _ _ _ => .inr removed, fun _ => ⟨?_, keepsAt_update_none⟩⟩
      by_cases same : secretsPath call = copyPath call
      · rw [same]
        exact keepsAt_update_none
      · exact (keepsAt_update_ne same).mpr keepsAt_refl
  | left content some_ left =>
      rw [some_, keepsAt_update_some_iff]
      constructor
      · rintro ⟨_, copy⟩ other same
        exact .inl (Option.some.inj same ▸ copy)
      · intro kept
        have copy := (kept content rfl).resolve_right left
        refine ⟨?_, copy⟩
        by_cases same : secretsPath call = copyPath call
        · rw [same]
          exact keepsAt_update_some_iff.mpr copy
        · exact (keepsAt_update_ne same).mpr keepsAt_refl

/-- The files after the secrets have been written to the working area. -/
def prepared (call : Call fernet) (files : Files) (text : String) : Files :=
  Function.update files (secretsPath call) (some text)

def finished (call : Call fernet) (files : Files) : Files :=
  (run (do
    let zfile ← zfile call
    unlink call.unlink_secrets (secretsPath call)
    return zfile) files).2

theorem finished_eq {ended : Except BundleExn ProjectBundleFile × Files}
    (ran : run (zfile call) files = ended) :
    finished call files =
      match ended.1, call.unlink_secrets with
      | .ok _, none => Function.update ended.2 (secretsPath call) none
      | _, _ => ended.2 := by
  rw [finished, run_bind, ran]
  rcases ended with ⟨failure | zfile, later⟩
  · rfl
  · simp only
    rw [run_bind]
    cases call.unlink_secrets <;> rfl

theorem keeps_prepared_iff (text : String) :
    (KeepsAt files (prepared call files text) (secretsPath call) ∧
      KeepsAt files (prepared call files text) (copyPath call)) ↔
      files (secretsPath call) = some text := by
  constructor
  · intro keeps
    exact keepsAt_update_some_iff.mp keeps.1
  · intro before
    have secrets : KeepsAt files (prepared call files text) (secretsPath call) :=
      keepsAt_update_some_iff.mpr before
    refine ⟨secrets, ?_⟩
    by_cases same : copyPath call = secretsPath call
    · rw [same]
      exact secrets
    · exact (keepsAt_update_ne same).mpr keepsAt_refl

theorem keeps_removed {after : Files}
    (copy : copyPath call ≠ secretsPath call → KeepsAt files after (copyPath call)) :
    KeepsAt files (Function.update after (secretsPath call) none) (secretsPath call) ∧
      KeepsAt files (Function.update after (secretsPath call) none) (copyPath call) := by
  refine ⟨keepsAt_update_none, ?_⟩
  by_cases same : copyPath call = secretsPath call
  · rw [same]
    exact keepsAt_update_none
  · exact (keepsAt_update_ne same).mpr (copy same)

theorem keeps_copied_iff (text : String) (content : Option String) :
    KeepsAt files (Function.update (prepared call files text) (copyPath call) content)
        (secretsPath call) ↔
      (secretsPath call = copyPath call ∧ ∀ left, content = some left →
        files (copyPath call) = some left) ∨
      secretsPath call ≠ copyPath call ∧ files (secretsPath call) = some text := by
  by_cases same : secretsPath call = copyPath call
  · rw [same]
    simp [KeepsAt]
  · rw [keepsAt_update_ne same, prepared, keepsAt_update_some_iff]
    simp [same]

/-- Where the secrets are in the working area, they are removed at the end, or with the copy, or
were there before. -/
theorem clean_finished_iff (text : String) :
    (KeepsAt files (finished call (prepared call files text)) (secretsPath call) ∧
        KeepsAt files (finished call (prepared call files text)) (copyPath call)) ↔
      (files (secretsPath call) = some text ∨
        (Bundled call (some text) ∧ call.unlink_secrets = none) ∨
        (secretsPath call = copyPath call ∧ copied call (some text) ≠ none)) ∧
      ∀ content, copied call (some text) = some content →
        files (copyPath call) = some content ∨ CopyRemoved call := by
  have found : prepared call files text (secretsPath call) = some text := Function.update_self ..
  have done : Zipped call (prepared call files text)
      (run (zfile call) (prepared call files text)) := zipped
  generalize ran : run (zfile call) (prepared call files text) = ended at done
  rw [finished_eq ran]
  cases done with
  | untouched none_ result made =>
      rw [found] at none_ made
      have rest : (∀ content, copied call (some text) = some content →
          files (copyPath call) = some content ∨ CopyRemoved call) := by
        intro content some_
        rw [none_] at some_
        cases some_
      cases result with
      | error failure =>
          have unmade : ¬Bundled call (some text) := fun bundled => by
            obtain ⟨zfile, ok⟩ := made.mpr bundled
            cases ok
          simp only [keeps_prepared_iff, none_, unmade]
          simp
      | ok zfile =>
          have bundled := made.mp ⟨zfile, rfl⟩
          cases unlinked : call.unlink_secrets with
          | some failure =>
              simp only [keeps_prepared_iff, none_]
              simp
          | none =>
              have clean (apart : copyPath call ≠ secretsPath call) :
                  KeepsAt files (prepared call files text) (copyPath call) :=
                (keepsAt_update_ne apart).mpr keepsAt_refl
              exact ⟨fun _ => ⟨.inr (.inl ⟨bundled, rfl⟩), rest⟩, fun _ => keeps_removed clean⟩
  | removed content some_ removed zfile made =>
      rw [found] at some_ made
      have rest : ∀ content, copied call (some text) = some content →
          files (copyPath call) = some content ∨ CopyRemoved call := fun _ _ => .inr removed
      cases unlinked : call.unlink_secrets with
      | some failure =>
          simp only [keeps_copied_iff, keepsAt_update_none, some_]
          by_cases same : secretsPath call = copyPath call <;> simp [same, removed]
      | none =>
          exact ⟨fun _ => ⟨.inr (.inl ⟨made, rfl⟩), rest⟩,
            fun _ => keeps_removed fun _ => keepsAt_update_none⟩
  | left content some_ left failure made =>
      rw [found] at some_ made
      simp only [keeps_copied_iff, keepsAt_update_some_iff, some_, made, left]
      by_cases same : secretsPath call = copyPath call <;> simp [same]

theorem rest_eq (private_key : String) (nbvars_dict : List (String × Variable)) :
    (run (do
      let secrets_file ← write_secrets call call.working_area private_key nbvars_dict
      let zfile ← zfile call
      unlink call.unlink_secrets secrets_file
      return zfile) files).2 =
      match encrypt_nbvars call private_key nbvars_dict, call.write_secrets with
      | .ok text, .done => finished call (prepared call files text)
      | .ok _, .broken left _ => prepared call files left
      | _, _ => files := by
  rw [run_bind, run_write_secrets]
  cases encrypt_nbvars call private_key nbvars_dict with
  | error failure => rfl
  | ok text => cases call.write_secrets <;> rfl

theorem clean_iff_of_nothing (same : (run (bundle_project call) files).2 = files)
    (saves : saved call files = none) (copies : copy call files = none) :
    Clean call files ↔ Meets call files := by
  refine ⟨fun _ => ⟨?_, ?_⟩, fun _ => clean_of_unchanged same⟩
  · intro content some_
    rw [saves] at some_
    cases some_
  · intro content some_
    rw [copies] at some_
    cases some_

theorem clean_plain_iff {nbvars : List (String × Variable)} (found : loaded call files = .ok nbvars)
    (keyless : truthy call.privkey = false) : Clean call files ↔ Meets call files := by
  have saves : saved call files = none := by simp [saved, keyless]
  have copies : copy call files = copied call (files (secretsPath call)) := by
    simp [copy, keyless, found]
  have after : run (bundle_project call) files = run (zfile call) files := by
    rw [bundle_project, run_bind, run_nbvars, found]
    simp [keyless]
  rw [Clean, after]
  refine (clean_zipped_iff zipped).trans ⟨fun kept => ⟨?_, ?_⟩, fun meets => ?_⟩
  · intro content some_
    rw [saves] at some_
    cases some_
  · rw [copies]
    exact kept
  · rw [← copies]
    exact meets.copy

theorem run_keyed {nbvars : List (String × Variable)} (found : loaded call files = .ok nbvars)
    (keyed : truthy call.privkey = true) :
    (run (bundle_project call) files).2 =
      match encrypted call files, call.write_secrets with
      | .ok text, .done => finished call (prepared call files text)
      | .ok _, .broken left _ => prepared call files left
      | _, _ => files := by
  rw [bundle_project, run_bind, run_nbvars, encrypted, found, Except.bind, ← rest_eq]
  simp [keyed]

theorem clean_keyed_iff {nbvars : List (String × Variable)} (found : loaded call files = .ok nbvars)
    (keyed : truthy call.privkey = true) : Clean call files ↔ Meets call files := by
  have after := run_keyed found keyed
  cases encodes : encrypted call files with
  | error failure =>
      rw [encodes] at after
      exact clean_iff_of_nothing after (by simp [saved, keyed, encodes])
        (by simp [copy, keyed, encodes])
  | ok text =>
      rw [encodes] at after
      cases written : call.write_secrets with
      | refused failure =>
          rw [written] at after
          exact clean_iff_of_nothing after
            (by simp [saved, keyed, encodes, written, Written.content])
            (by simp [copy, keyed, encodes, written])
      | broken left failure =>
          have saves : saved call files = some left := by
            simp [saved, keyed, encodes, written, Written.content]
          have copies : copy call files = none := by simp [copy, keyed, encodes, written]
          rw [Clean, after, written]
          refine (keeps_prepared_iff left).trans ⟨fun before => ⟨?_, ?_⟩, fun meets => ?_⟩
          · intro content some_
            rw [saves] at some_
            exact .inl (Option.some.inj some_ ▸ before)
          · intro content some_
            rw [copies] at some_
            cases some_
          · rcases meets.secrets left saves with before | ⟨done, _⟩ | ⟨_, copied⟩
            · exact before
            · rw [written] at done
              cases done
            · exact absurd copies copied
      | done =>
          have saves : saved call files = some text := by
            simp [saved, keyed, encodes, written, Written.content]
          have copies : copy call files = copied call (some text) := by
            simp [copy, keyed, encodes, written]
          rw [Clean, after, written]
          refine (clean_finished_iff text).trans
            ⟨fun ⟨before, kept⟩ => ⟨?_, ?_⟩, fun meets => ⟨?_, ?_⟩⟩
          · intro content some_
            rw [saves] at some_
            obtain rfl := Option.some.inj some_
            rw [copies]
            exact before.imp_right (Or.imp_left fun bundled => ⟨written, bundled⟩)
          · rw [copies]
            exact kept
          · rw [← copies]
            exact (meets.secrets text saves).imp_right (Or.imp_left And.right)
          · rw [← copies]
            exact meets.copy

/-- Bundling leaves no secrets behind exactly if it writes none that were not there, or succeeds
in all that comes after it has written them. -/
theorem bundle_clean_iff (call : Call fernet) (files : Files) :
    Clean call files ↔ Meets call files := by
  cases found : loaded call files with
  | error failure =>
      have same : (run (bundle_project call) files).2 = files := by
        rw [bundle_project, run_bind, run_nbvars, found]
      exact clean_iff_of_nothing same (by simp [saved, encrypted, found, Except.bind])
        (by simp [copy, encrypted, found, Except.bind])
  | ok nbvars =>
      cases keyed : truthy call.privkey with
      | false => exact clean_plain_iff found keyed
      | true => exact clean_keyed_iff found keyed

end Bundle

namespace Sample

def call : Call Secrets.Sample.fernet where
  root := "/lab"
  working_area := "/home/.labfunctions/p"
  spec := { name := "default", container := { image := "python", maintainer := "lab" } }
  privkey := some "key"
  stash := true
  unicode := LabFunctions.Sample.unicode
  getenv _ := none
  draws _ := ()
  is_file _ := true
  execute_cmd _ := .ok ""

def files (path : String) : Option String :=
  if path = "/lab/local.nbvars" then some "A=1" else none

end Sample

/-- A tree without changes is not bundled, and its secrets stay in the working area. -/
theorem unchanged_tree_leaves_secrets : ¬∀ (fernet : Fernet) (call : Call fernet) (files : Files),
    Clean call files := by
  intro clean
  obtain ⟨secrets, _⟩ := clean _ Sample.call Sample.files
  have left : (run (bundle_project Sample.call) Sample.files).2 (secretsPath Sample.call) =
      some "A=db" := rfl
  cases secrets _ left

end SecretBundles

end LabFunctions
