import LabFunctions.NotebookWorkflows
import LabFunctions.ProjectLists
import LabFunctions.Secrets

/-!
`lab startproject`: the loop over names until the server takes one, and what is on the disk behind
it for the clients that come later, while others use the same server.
-/

namespace LabFunctions

namespace StartProjects

open Lines Words ProjectRecords ProjectTransactions ProjectLists

inductive ClientExn where
  | projectCreateError (name : String)
  | privateKeyNotFound (projectid : String)
  deriving DecidableEq

structure ProjectCreated where
  pd : ProjectData
  private_key : String

/-- What the template of `lab_app/settings.py` is given. -/
structure AppSettings where
  PROJECTID : String
  PROJECT_NAME : String

/-- The disk of a user: the files of the project, the settings beside them, and the key file in the
working area of each project. -/
structure Machine (Text : Type) where
  disk : Disk Text
  settings : Option AppSettings
  keys : String → Option String

structure World (Text : Type) where
  machine : Machine Text
  db : Database

def labfile (root : String) : String := root ++ "/" ++ Defaults.LABFILE_NAME

def _example_workflow : Marked.WorkflowDataWeb where
  alias_ := "a_workflow_example"
  nbtask :=
    { nb_name := "welcome"
      params := [("TIMEOUT", .int 5)]
      description := ⟨some "An example of how to configure a specific workflow"⟩ }
  enabled := ⟨some false⟩

namespace Machine

variable {Text : Type} (machine : Machine Text) (yaml : Yaml Text)

def store_private_key (key projectid : String) : Machine Text :=
  { machine with keys := Function.update machine.keys projectid (some key) }

/-- The state has a project, so it is written. -/
def lab_state_init (root name projectid : String) : LabState × Machine Text :=
  let wd := _example_workflow
  let state : LabState := { project := some { name, projectid }, workflows := [(wd.alias_, wd)] }
  (state, { machine with
    disk := (state.write yaml machine.disk (labfile root)).getD machine.disk })

def init_lab_app (projectid project_name : String) : Machine Text :=
  { machine with settings := some ⟨projectid, project_name⟩ }

/-- The part of `init_automatic` behind the files of the project. -/
def init_automatic (root project_name : String) (drawn : ProjectId) : LabState × Machine Text :=
  let (state, machine) := machine.lab_state_init yaml root project_name drawn.text
  (state, machine.init_lab_app drawn.text project_name)

def refresh_project (root : String) (pc : ProjectCreated) : Machine Text :=
  (machine.lab_state_init yaml root pc.pd.name pc.pd.projectid).2.init_lab_app pc.pd.projectid
    pc.pd.name

end Machine

def projects_create (name private_key : String) :
    Except Exn ProjectTransactions.Reply → Except ClientExn (Option ProjectCreated)
  | .ok ⟨201, .project pd⟩ => .ok (some ⟨pd, private_key⟩)
  | .ok ⟨200, _⟩ => .ok none
  | _ => .error (.projectCreateError name)

def projects_private_key (db : Database) (projectid : String) : Except ClientExn String :=
  match project_private_key db projectid with
  | ⟨200, .private_key key⟩ =>
      if key = "" then .error (.privateKeyNotFound projectid) else .ok key
  | _ => .error (.privateKeyNotFound projectid)

/-- `DiskClient.get_private_key`: the file of the working area, and without one the server. -/
def get_private_key {Text : Type} (machine : Machine Text) (db : Database) (projectid : String) :
    Except ClientExn String :=
  let key := (machine.keys projectid).map (strip isspace)
  if truthy key then .ok (pyOr key "") else projects_private_key db projectid

/-- One turn of the loop: what is typed, drawn and answered in it, and what others request of the
server before the project is created. -/
structure Attempt (fernet : Fernet) where
  others : List Turn
  typed : String
  /-- The templates are rendered, and `runtimes.yaml` is found in the current directory. -/
  files : Bool
  local_id : ProjectId
  create : Bool
  /-- Nobody, if the server is not reached or refuses the login. -/
  usr : Option String
  key : fernet.Key
  drawn : Drawn
  serial : drawn.id ≠ 0
  again : Bool

inductive Ending where
  | created (pc : ProjectCreated) (stored_for : String)
  | created_here
  | given_up
  | raised
  | asking

section

variable {Text : Type} (unicode : Unicode) (fernet : Fernet) (yaml : Yaml Text) (root : String)

def serve (db : Database) (turn : Turn) : Database :=
  (Transactions.answered (handler unicode turn.drawn turn.request) db).2

variable {fernet} in
def Attempt.turn (attempt : Attempt fernet) (usr : String) : Turn :=
  ⟨attempt.drawn, .project_create usr (some
    { name := normalize_name unicode attempt.typed, private_key := fernet.text attempt.key }),
    attempt.serial⟩

def startproject (world : World Text) : List (Attempt fernet) → Ending × World Text
  | [] => (.asking, world)
  | attempt :: rest =>
      if attempt.files then
        let name := normalize_name unicode attempt.typed
        let (state, machine) := world.machine.init_automatic yaml root name attempt.local_id
        if attempt.create then
          match attempt.usr, state.project with
          | some usr, some project =>
              let db := Runs.run (serve unicode) world.db attempt.others
              let rsp := Transactions.answered (handler unicode attempt.drawn
                (attempt.turn unicode usr).request) db
              match projects_create name (fernet.text attempt.key) rsp.1 with
              | .ok (some pc) =>
                  -- the client has the id that was drawn here until the answer is there
                  let machine := machine.store_private_key pc.private_key project.projectid
                  (.created pc project.projectid, ⟨machine.refresh_project yaml root pc, rsp.2⟩)
              | .ok none =>
                  if attempt.again then startproject ⟨machine, rsp.2⟩ rest
                  else (.given_up, ⟨machine, rsp.2⟩)
              | .error _ => (.raised, ⟨machine, rsp.2⟩)
          | _, _ => (.raised, ⟨machine, world.db⟩)
        else (.created_here, ⟨machine, world.db⟩)
      else (.raised, world)

variable {unicode : Unicode} {fernet : Fernet} {yaml : Yaml Text} {root : String}
  {world reached : World Text} {db : Database}

/-! What the server keeps. -/

theorem serve_holds (unicode : Unicode) (keys : Keys db) (turn : Turn) :
    Keys (serve unicode db turn) ∧ Registry.of (serve unicode db turn) =
      (Registry.of db).told unicode turn.request
        (Transactions.answered (handler unicode turn.drawn turn.request) db).1 := by
  obtain ⟨later, known⟩ := @holds_step unicode ⟨db, Registry.of db⟩ turn ⟨keys, rfl⟩
  exact ⟨later, known⟩

/-- A project under its name, with its key. -/
def Knows (known : Registry) (pc : ProjectCreated) : Prop :=
  ∃ entry ∈ known.entries, entry.projectid = pc.pd.projectid ∧ entry.name = pc.pd.name ∧
    entry.private_key = pc.private_key

theorem knows_told (known : Registry) (request : Request)
    (reply : Except Exn ProjectTransactions.Reply) {pc : ProjectCreated} (knows : Knows known pc) :
    Knows (known.told unicode request reply) pc := by
  obtain ⟨entry, member, same⟩ := knows
  unfold Registry.told
  split
  · split
    · exact ⟨entry, List.mem_append_left _ member, same⟩
    · exact ⟨entry, member, same⟩
  · exact ⟨entry, member, same⟩
  · rw [Registry.left]
    split
    · exact ⟨_, List.mem_map_of_mem member, same⟩
    · exact ⟨entry, member, same⟩
  · exact ⟨entry, member, same⟩

theorem keys_run (unicode : Unicode) (keys : Keys db) (turns : List Turn) :
    Keys (Runs.run (serve unicode) db turns) := by
  have kept : ∀ db turn, Keys db → Keys (serve unicode db turn) :=
    fun _ turn keys => (serve_holds unicode keys turn).1
  exact Runs.run_kept kept keys turns

theorem knows_run (unicode : Unicode) {pc : ProjectCreated} (keys : Keys db) (knows : Knows (Registry.of db) pc)
    (turns : List Turn) : Knows (Registry.of (Runs.run (serve unicode) db turns)) pc := by
  have kept : ∀ db turn, Keys db ∧ Knows (Registry.of db) pc →
      Keys (serve unicode db turn) ∧ Knows (Registry.of (serve unicode db turn)) pc := by
    rintro db turn ⟨keys, knows⟩
    obtain ⟨later, told⟩ := serve_holds unicode keys turn
    refine ⟨later, ?_⟩
    rw [told]
    exact knows_told _ _ _ knows
  exact (Runs.run_kept kept ⟨keys, knows⟩ turns).2

theorem private_key_of_knows {pc : ProjectCreated} (knows : Knows (Registry.of db) pc)
    (written : pc.private_key ≠ "") :
    project_private_key db pc.pd.projectid = ⟨200, .private_key pc.private_key⟩ := by
  obtain ⟨entry, member, named, _, key⟩ := knows
  obtain ⟨row, stored, rfl⟩ := List.mem_map.mp member
  have found : (Registry.of db).entries.find? (fun entry => entry.projectid == pc.pd.projectid) =
      some (ofProject db row) := by
    cases first : (Registry.of db).entries.find? fun entry => entry.projectid == pc.pd.projectid with
    | none =>
        have missed := List.find?_eq_none.mp first _ member
        exact absurd (beq_iff_eq.mpr named) missed
    | some other =>
        obtain ⟨held, inside, rfl⟩ := List.mem_map.mp (List.mem_of_find?_eq_some first)
        have alike : held.projectid = pc.pd.projectid := by simpa [ofProject] using List.find?_some first
        have same : held = row := db.projects.holds.1.unique inside stored rfl
          (congrArg some (named.trans alike.symm))
        rw [same]
  rw [project_private_key_eq, Registry.private_key, found]
  dsimp only
  rw [key, if_neg written]

/-! What a loop that ends with a project has left. -/

theorem from_file_init (machine : Machine Text) (name projectid : String) :
    ∃ state, LabState.from_file yaml (machine.lab_state_init yaml root name projectid).2.disk
        (labfile root) = some state ∧
      state.project = some { name, projectid } := by
  let state : LabState :=
    { project := some { name, projectid }
      workflows := [(_example_workflow.alias_, _example_workflow)] }
  obtain ⟨later, again, written, read, agree⟩ :=
    @LabStates.from_file_write _ yaml machine.disk (labfile root) state rfl
  refine ⟨again, ?_, agree.project⟩
  rw [Machine.lab_state_init]
  change LabState.from_file yaml ((state.write yaml machine.disk (labfile root)).getD machine.disk)
    (labfile root) = some again
  rw [written]
  exact read

structure Made (fernet : Fernet) (yaml : Yaml Text) (root : String)
    (keys : String → Option String) (reached : World Text) (pc : ProjectCreated)
    (stored_for : String) : Prop where
  labfile : ∃ state, LabState.from_file yaml reached.machine.disk (labfile root) = some state ∧
    state.project = some { name := pc.pd.name, projectid := pc.pd.projectid }
  settings : reached.machine.settings = some ⟨pc.pd.projectid, pc.pd.name⟩
  keys : reached.machine.keys = Function.update keys stored_for (some pc.private_key)
  held : Keys reached.db
  knows : Knows (Registry.of reached.db) pc
  text : ∃ key, pc.private_key = fernet.text key

theorem projects_create_eq_ok {name private_key : String}
    {reply : Except Exn ProjectTransactions.Reply}
    {pc : ProjectCreated} (created : projects_create name private_key reply = .ok (some pc)) :
    reply = .ok ⟨201, .project pc.pd⟩ ∧ pc.private_key = private_key := by
  unfold projects_create at created
  split at created
  · obtain rfl := Option.some.inj (Except.ok.inj created)
    exact ⟨rfl, rfl⟩
  · cases Except.ok.inj created
  · cases created

theorem knows_created (attempt : Attempt fernet) (usr : String) {pc : ProjectCreated}
    (created : projects_create (normalize_name unicode attempt.typed) (fernet.text attempt.key)
      (Transactions.answered (handler unicode attempt.drawn (attempt.turn unicode usr).request)
        db).1 = .ok (some pc)) :
    Knows (Registry.of (serve unicode db (attempt.turn unicode usr))) pc := by
  obtain ⟨told, key⟩ := projects_create_eq_ok created
  rcases project_create_cases unicode attempt.drawn db usr (some
      { name := normalize_name unicode attempt.typed, private_key := fernet.text attempt.key }) with
    ⟨_, untold⟩ | ⟨user, stored, rfl, pr, same, creatable, written, answer⟩
  · exact absurd told (untold _)
  · obtain rfl := Option.some.inj same
    have data : pc.pd = answerOf attempt.drawn
        { name := normalize_name unicode attempt.typed, private_key := fernet.text attempt.key } := by
      have told := Except.ok.inj (told.symm.trans answer)
      simpa using told
    let row := rowOf unicode attempt.drawn user.id
      { name := normalize_name unicode attempt.typed, private_key := fernet.text attempt.key }
    have member : row ∈ (serve unicode db (attempt.turn unicode user.username)).projects.rows := by
      have after := written.projects
      exact after ▸ List.mem_append_right _ (List.mem_singleton.mpr rfl)
    refine ⟨_, List.mem_map_of_mem member, ?_, ?_, key.symm⟩
    · rw [data]
      rfl
    · rw [data]
      exact Filenames.secure_filename_secure_filename attempt.typed

theorem made_of_created (keys : Keys world.db) (attempts : List (Attempt fernet))
    {pc : ProjectCreated} {stored_for : String}
    (ran : startproject unicode fernet yaml root world attempts = (.created pc stored_for, reached)) :
    Made fernet yaml root world.machine.keys reached pc stored_for := by
  induction attempts generalizing world with
  | nil => cases ran
  | cons attempt rest ih =>
      rw [startproject] at ran
      split at ran
      swap
      · cases ran
      dsimp only [Machine.init_automatic] at ran
      split at ran
      swap
      · cases ran
      split at ran
      swap
      · cases ran
      rename_i usr project _ held
      obtain rfl := Option.some.inj held
      have before := keys_run unicode keys attempt.others
      have after := (serve_holds unicode before (attempt.turn unicode usr)).1
      split at ran
      · rename_i made created
        cases ran
        exact {
          labfile := from_file_init ..
          settings := rfl
          keys := rfl
          held := after
          knows := knows_created attempt usr created
          text := ⟨attempt.key, (projects_create_eq_ok created).2⟩ }
      · split at ran
        · have made := ih ?_ ran
          · exact made
          · exact after
        · cases ran
      · cases ran

/-- What `Fernet.generate_key` draws from: the alphabet of base64. -/
def Solid (fernet : Fernet) : Prop :=
  ∀ key, ∀ character ∈ (fernet.text key).toList, isspace character = false

/-- Once `startproject` has created a project, whatever is requested of the server afterwards: the lab
file and the settings name a project that the server has under that name, and a client of the lab
file gets the key of the project. The key file is no help in that, for it was put where the id that
the client had drawn leads, and the server draws its own. -/
theorem project_found_later (unicode : Unicode) (fernet : Fernet) (solid : Solid fernet)
    (yaml : Yaml Text) (root : String) (world reached : World Text) (keys : Keys world.db)
    (attempts : List (Attempt fernet)) (pc : ProjectCreated) (stored_for : String)
    (created : startproject unicode fernet yaml root world attempts =
      (.created pc stored_for, reached))
    (fresh : world.machine.keys pc.pd.projectid = none) (later : List Turn) :
    let db := Runs.run (serve unicode) reached.db later
    (∃ state, LabState.from_file yaml reached.machine.disk (labfile root) = some state ∧
      state.project = some { name := pc.pd.name, projectid := pc.pd.projectid }) ∧
    reached.machine.settings = some ⟨pc.pd.projectid, pc.pd.name⟩ ∧
    (∃ row ∈ db.projects.rows, row.projectid = pc.pd.projectid ∧ row.name = pc.pd.name ∧
      row.private_key = pc.private_key) ∧
    get_private_key reached.machine db pc.pd.projectid = .ok pc.private_key ∧
    (reached.machine.keys pc.pd.projectid = some pc.private_key ↔ stored_for = pc.pd.projectid) := by
  have made := made_of_created keys attempts created
  have knows := knows_run unicode made.held made.knows later
  obtain ⟨key, text⟩ := made.text
  have written : pc.private_key ≠ "" := text ▸ fernet.text_ne key
  refine ⟨made.labfile, made.settings, ?_, ?_, ?_⟩
  · obtain ⟨entry, member, same⟩ := knows
    obtain ⟨row, stored, rfl⟩ := List.mem_map.mp member
    exact ⟨row, stored, same⟩
  · have clean : strip isspace pc.private_key = pc.private_key := by
      rw [text]
      exact strip_eq_self (solid key)
    have served : projects_private_key (Runs.run (serve unicode) reached.db later) pc.pd.projectid =
        .ok pc.private_key := by
      rw [projects_private_key, private_key_of_knows knows written]
      exact if_neg written
    rw [get_private_key, made.keys]
    by_cases own : pc.pd.projectid = stored_for
    · rw [own, Function.update_self]
      simp [truthy, pyOr, clean, written]
    · rw [Function.update_of_ne own, fresh]
      exact served
  · rw [made.keys]
    constructor
    · intro stored
      by_contra other
      rw [Function.update_of_ne (Ne.symm other), fresh] at stored
      cases stored
    · rintro rfl
      exact Function.update_self ..

end

namespace Sample

def attempt : Attempt Secrets.Sample.fernet where
  others := []
  typed := "lab"
  files := true
  local_id := { text := "0123456789" }
  create := true
  usr := some "ana"
  key := ()
  drawn := sampleDrawn
  serial := Nat.succ_ne_zero 1
  again := false

def world : World Json where
  machine := { disk := fun _ => none, settings := none, keys := fun _ => none }
  db := ownedDb

def reached : World Json :=
  (startproject LabFunctions.Sample.unicode Secrets.Sample.fernet LabStates.Sample.yaml "lab" world
    [attempt]).2

def created : ProjectCreated where
  pd := { name := "lab", projectid := "4tebqr2mnd", agent := some "agt4tebq-bbbbbbbb" }
  private_key := "key"

end Sample

theorem lab_found_later :
    get_private_key Sample.reached.machine
        (Runs.run (serve LabFunctions.Sample.unicode) Sample.reached.db ProjectLists.Sample.turns)
        "4tebqr2mnd" = .ok "key" ∧
      Sample.reached.machine.keys "4tebqr2mnd" ≠ some "key" := by
  have solid : Solid Secrets.Sample.fernet := by
    intro key character member
    have letters : "key".toList.all (fun letter => !isspace letter) = true := by decide
    simpa using List.all_eq_true.mp letters character member
  have created : startproject LabFunctions.Sample.unicode Secrets.Sample.fernet
      LabStates.Sample.yaml "lab" Sample.world [Sample.attempt] =
        (.created Sample.created "0123456789", Sample.reached) := rfl
  obtain ⟨_, _, _, found, stored⟩ := project_found_later LabFunctions.Sample.unicode
    Secrets.Sample.fernet solid LabStates.Sample.yaml "lab" Sample.world Sample.reached
    ProjectLists.Sample.keys [Sample.attempt] Sample.created "0123456789" created rfl
    ProjectLists.Sample.turns
  refine ⟨found, fun same => ?_⟩
  exact absurd (stored.mp same) (by decide)

end StartProjects

end LabFunctions
