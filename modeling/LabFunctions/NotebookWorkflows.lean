import LabFunctions.Context
import LabFunctions.Events
import LabFunctions.LabStates
import LabFunctions.Library.Effects
import LabFunctions.Library.Lines

/-!
`client.diskclient.DiskClient.create_workflow`: a workflow for a notebook on the disk, whose name is
cut out of its path, and put into a path again when it is to run.
-/

namespace LabFunctions

namespace Defaults

def LABFILE_NAME : String := "labfile.yaml"

end Defaults

namespace NotebookWorkflows

open Effects Lines

/-- `json.loads`, whether a literal is a float other than zero, the text of the template, and what
reading and writing a path raises, if anything. -/
structure Machine (Text : Type) where
  yaml : Yaml Text
  loads : Text → Except Exn Json
  nonzero : String → Bool
  test_workflow : Text
  unreadable : String → Option Exn
  unwritable : String → Option Exn

structure Session (Text : Type) where
  state : LabState
  disk : Disk Text

section Calls

variable {Text : Type}

/-! What Python does with a value that comes out of a JSON file. -/

def item (data : Json) (key : String) : Except Exn Json :=
  match data with
  | .dict entries =>
      match entries.lookup key with
      | some value => .ok value
      | none => .error (.keyError key)
  | _ => .error (.typeError "not subscriptable by a name")

def get (data : Json) (key : String) : Except Exn Json :=
  match data with
  | .dict entries => .ok ((entries.lookup key).getD .null)
  | _ => .error .attributeError

def iter : Json → Except Exn (List Json)
  | .list items => .ok items
  | .dict entries => .ok (entries.map fun entry => .str entry.1)
  | .str text => .ok (text.toList.map fun character => .str (String.singleton character))
  | _ => .error (.typeError "object is not iterable")

def isTrue (machine : Machine Text) : Json → Bool
  | .null => false
  | .bool value => value
  | .int value => value != 0
  | .float literal => machine.nonzero literal
  | .str value => value != ""
  | .list items => !items.isEmpty
  | .dict entries => !entries.isEmpty

def isCode : Json → Bool
  | .str value => value == "code"
  | _ => false

/-- `none` for an IndexError -/
def parse_var_line (line : String) : Option (String × String) :=
  match line.toList.dropWhile (· != '=') with
  | [] => none
  | _ :: v =>
      some (strip isspace (String.ofList (line.toList.takeWhile (· != '='))),
        strip isspace (strip (· == '\n') (String.ofList (v.filter (· != '"')))))

/-- The inner loop of `get_params_from_nb`. -/
def lineParams (params : List (String × Json)) : List Json → Except Exn (List (String × Json))
  | [] => .ok params
  | .str p :: rest =>
      match parse_var_line p with
      | some (k, v) => lineParams (Dict.set params k (.str v)) rest
      | none => lineParams params rest
  | _ :: _ => .error .attributeError

def cellParams (machine : Machine Text) (params : List (String × Json)) (cell : Json) :
    Except Exn (List (String × Json)) := do
  let cell_type ← item cell "cell_type"
  if isCode cell_type then
    let metadata ← item cell "metadata"
    let tags ← get metadata "tags"
    if isTrue machine tags then
      let source ← item cell "source"
      let _params ← iter source
      lineParams params _params
    else return params
  else return params

def get_params_from_nb (machine : Machine Text) (nb_dict : Json) :
    Except Exn (List (String × Json)) := do
  let found ← item nb_dict "cells"
  let cells ← iter found
  cells.foldlM (cellParams machine) []

def raising : Option Exn → Effect Exn (Session Text) PUnit
  | none => pure ⟨⟩
  | some failure => throw failure

def open_notebook (machine : Machine Text) (fp : String) (text : Text) :
    Effect Exn (Session Text) Json := do
  raising (machine.unreadable fp)
  lift (machine.loads text)

/-- `render_to_file("test_workflow.ipynb.j2", fp)` -/
def notebook_template (machine : Machine Text) (fp : String) : Effect Exn (Session Text) PUnit := do
  raising (machine.unwritable fp)
  act fun session =>
    (.ok ⟨⟩, { session with disk := Function.update session.disk fp (some machine.test_workflow) })

/-- `nb_fullpath.rsplit("/", maxsplit=1)[1].split(".")[0]` -/
def nb_name (nb_fullpath : String) : Except Exn String :=
  match (Words.split '/' nb_fullpath).reverse with
  | last :: _ :: _ => .ok ((Words.split '.' last).headD "")
  | _ => .error (.otherError "list index out of range")

def add_workflow (wd : Marked.WorkflowDataWeb) : Effect Exn (Session Text) PUnit :=
  act fun session => (.ok ⟨⟩, { session with state := session.state.add_workflow wd })

def write (machine : Machine Text) : Effect Exn (Session Text) PUnit := act fun session =>
  match session.state.write machine.yaml session.disk Defaults.LABFILE_NAME with
  | none => (.error .validationError, session)
  | some disk =>
      match machine.unwritable Defaults.LABFILE_NAME with
      | some failure => (.error failure, session)
      | none => (.ok ⟨⟩, { session with disk := disk })

/-- Where a path is on the disk. -/
def place (nb_fullpath : String) : String := (Paths.PurePath.parse nb_fullpath).str

/-- `none` where nothing has been assigned to `params`. -/
def params (machine : Machine Text) (nb_fullpath : String) :
    Effect Exn (Session Text) (Option (List (String × Json))) := do
  let p := place nb_fullpath
  let file ← act fun session => (.ok (session.disk p), session)
  match file with
  | some text =>
      let nb_dict ← open_notebook machine p text
      let params ← lift (get_params_from_nb machine nb_dict)
      return some params
  | none =>
      notebook_template machine p
      return none

def create_workflow (machine : Machine Text) (nb_fullpath alias_ : String) :
    Effect Exn (Session Text) PUnit := do
  let params ← params machine nb_fullpath
  let nb_name ← lift (nb_name nb_fullpath)
  match params with
  | none =>
      throw (.otherError "local variable 'params' referenced before assignment")
  | some params =>
      let task : Marked.NBTask := { nb_name := nb_name, params := params }
      let wd : Marked.WorkflowDataWeb :=
        { alias_ := alias_, nbtask := task, enabled := ⟨some false⟩ }
      add_workflow wd
      write machine

/-- `<dir>/<name>.ipynb` -/
structure Notebook where
  dir : String
  name : String
  noSlash : '/' ∉ name.toList

def Notebook.path (notebook : Notebook) : String :=
  notebook.dir ++ "/" ++ (notebook.name ++ ".ipynb")

/-- The call adds a workflow under the alias, which runs the notebook that is at the path. -/
def Creates (machine : Machine Text) (session : Session Text) (path alias_ : String) : Prop :=
  ∃ later wd, run (create_workflow machine path alias_) session = (.ok ⟨⟩, later) ∧
    later.state.workflows.lookup alias_ = some wd ∧ wd.alias_ = alias_ ∧
    ∀ env projectid execid runtime wfid,
      (Notebooks.create_notebook_ctx env projectid wd.nbtask.values execid runtime wfid).pm_input =
        path

/-! What the notebook has to have. -/

def CellReads (machine : Machine Text) (cell : Json) : Prop :=
  ∃ cell_type, item cell "cell_type" = .ok cell_type ∧ (isCode cell_type = true →
    ∃ metadata tags, item cell "metadata" = .ok metadata ∧ get metadata "tags" = .ok tags ∧
      (isTrue machine tags = true → ∃ source lines, item cell "source" = .ok source ∧
        iter source = .ok lines ∧ ∀ line ∈ lines, ∃ p, line = .str p))

/-- The parameters can be looked for in all the cells, whether or not there are any. -/
def Reads (machine : Machine Text) (nb_dict : Json) : Prop :=
  ∃ found cells, item nb_dict "cells" = .ok found ∧ iter found = .ok cells ∧
    ∀ cell ∈ cells, CellReads machine cell

/-- There is a notebook, directly in the folder, and its name has no dot. -/
structure Meets (machine : Machine Text) (session : Session Text) (notebook : Notebook) : Prop where
  file : ∃ text nb_dict, session.disk (place notebook.path) = some text ∧
    machine.unreadable (place notebook.path) = none ∧ machine.loads text = .ok nb_dict ∧
    Reads machine nb_dict
  project : session.state.project ≠ none
  writable : machine.unwritable Defaults.LABFILE_NAME = none
  dir : notebook.dir = "notebooks"
  name : '.' ∉ notebook.name.toList

section Params

variable {machine : Machine Text}

theorem lineParams_ok_iff (params : List (String × Json)) (lines : List Json) :
    (∃ later, lineParams params lines = .ok later) ↔ ∀ line ∈ lines, ∃ p, line = .str p := by
  induction lines generalizing params with
  | nil => simp [lineParams]
  | cons line rest ih =>
      rw [List.forall_mem_cons]
      cases line with
      | str p =>
          rw [and_iff_right ⟨p, rfl⟩]
          cases parsed : parse_var_line p with
          | none => simpa [lineParams, parsed] using ih params
          | some entry => simpa [lineParams, parsed] using ih _
      | null | bool | int | float | list | dict => simp [lineParams]

theorem cellParams_ok_iff (params : List (String × Json)) (cell : Json) :
    (∃ later, cellParams machine params cell = .ok later) ↔ CellReads machine cell := by
  unfold cellParams CellReads
  cases typed : item cell "cell_type" with
  | error failure => simp [bind, Except.bind]
  | ok cell_type =>
      cases code : isCode cell_type with
      | false => simp [bind, Except.bind, pure, Except.pure, code]
      | true =>
          cases described : item cell "metadata" with
          | error failure => simp [bind, Except.bind, code]
          | ok metadata =>
              cases tagged : get metadata "tags" with
              | error failure => simp [bind, Except.bind, code, tagged]
              | ok tags =>
                  cases wanted : isTrue machine tags with
                  | false => simp [bind, Except.bind, pure, Except.pure, code, tagged, wanted]
                  | true =>
                      cases sourced : item cell "source" with
                      | error failure => simp [bind, Except.bind, code, tagged, wanted]
                      | ok source =>
                          cases listed : iter source with
                          | error failure =>
                              simp [bind, Except.bind, code, tagged, wanted, listed]
                          | ok lines =>
                              simpa [bind, Except.bind, code, tagged, wanted, listed] using
                                lineParams_ok_iff params lines

theorem get_params_ok_iff (nb_dict : Json) :
    (∃ params, get_params_from_nb machine nb_dict = .ok params) ↔ Reads machine nb_dict := by
  unfold get_params_from_nb Reads
  cases found : item nb_dict "cells" with
  | error failure => simp [bind, Except.bind]
  | ok data =>
      cases listed : iter data with
      | error failure => simp [bind, Except.bind, listed]
      | ok cells =>
          have all : (∃ later, cells.foldlM (cellParams machine) [] = .ok later) ↔
              ∀ cell ∈ cells, CellReads machine cell :=
            exists_foldlM_eq_ok cellParams_ok_iff cells []
          simpa [bind, Except.bind, listed] using all

end Params

/-! How a path is taken apart and put together again. -/

def stem (name : String) : String := String.ofList (name.toList.takeWhile (· != '.'))

theorem stem_eq_self_iff (name : String) : stem name = name ↔ '.' ∉ name.toList := by
  rw [stem, ← String.toList_inj, String.toList_ofList, List.takeWhile_eq_self_iff]
  constructor
  · intro all dot
    exact absurd (all '.' dot) (by decide)
  · intro clean character member
    simpa using fun same : character = '.' => clean (same ▸ member)

theorem takeWhile_suffix (name : String) :
    (name ++ ".ipynb").toList.takeWhile (· != '.') = name.toList.takeWhile (· != '.') := by
  have suffix : ".ipynb".toList.takeWhile (· != '.') = [] := by decide
  rw [String.toList_append, List.takeWhile_append]
  split
  · rename_i whole
    rw [suffix, List.append_nil, (List.takeWhile_prefix _).eq_of_length whole]
  · rfl

theorem nb_name_path (notebook : Notebook) : nb_name notebook.path = .ok (stem notebook.name) := by
  have clean : '/' ∉ (notebook.name ++ ".ipynb").toList := by
    rw [String.toList_append, List.mem_append]
    rintro (inside | suffix)
    · exact notebook.noSlash inside
    · exact absurd suffix (by decide)
  have pieces : Words.split '/' notebook.path =
      Words.split '/' notebook.dir ++ [notebook.name ++ ".ipynb"] := by
    have cut := Words.split_separated '/' notebook.dir (notebook.name ++ ".ipynb")
    rw [Words.split_self clean] at cut
    exact cut
  obtain ⟨last, front, reversed⟩ : ∃ last front,
      (Words.split '/' notebook.dir).reverse = last :: front := by
    apply List.exists_cons_of_ne_nil
    simp [Words.split]
  rw [nb_name, pieces, List.reverse_append, reversed]
  simp only [List.reverse_cons, List.reverse_nil, List.nil_append, List.singleton_append]
  rw [Words.headD_split, takeWhile_suffix, stem]

theorem clean_file {name : String} (noSlash : '/' ∉ name.toList) :
    Paths.Clean (stem name ++ ".ipynb") := by
  have dotted : '.' ∈ (stem name ++ ".ipynb").toList := by simp
  have long : 1 < (stem name ++ ".ipynb").toList.length := by simp
  refine ⟨?_, ?_, ?_⟩
  · rw [String.toList_append, List.mem_append]
    rintro (inside | suffix)
    · rw [stem, String.toList_ofList] at inside
      exact noSlash ((List.takeWhile_prefix _).subset inside)
    · exact absurd suffix (by decide)
  · intro empty
    rw [empty] at long
    simp at long
  · intro dot
    rw [dot] at long
    simp at long

theorem pm_input_eq {name : String} (noSlash : '/' ∉ name.toList) :
    ((Paths.PurePath.parse Defaults.NOTEBOOKS_DIR).join (stem name ++ ".ipynb")).str =
      "notebooks" ++ "/" ++ (stem name ++ ".ipynb") := by
  have clean := clean_file noSlash
  have parts : ((Paths.PurePath.parse Defaults.NOTEBOOKS_DIR).join (stem name ++ ".ipynb")).parts =
      ["notebooks", stem name ++ ".ipynb"] := by
    rw [Paths.PurePath.parts_join_clean _ clean]
    rfl
  have root : ((Paths.PurePath.parse Defaults.NOTEBOOKS_DIR).join (stem name ++ ".ipynb")).root =
      "" := by
    rw [Paths.PurePath.root_join_relative _ (Paths.PurePath.rootOf_of_clean clean)]
    rfl
  rw [Paths.PurePath.str_of_parts (by simp [parts]), Paths.PurePath.text, root, parts,
    String.empty_append]
  rfl

theorem toList_path (dir file : String) :
    (dir ++ "/" ++ file).toList = dir.toList ++ '/' :: file.toList := by simp

/-- The two splits are undone exactly where the notebook is in the folder itself and its name has
no dot. -/
theorem input_eq_path_iff (notebook : Notebook) :
    ((Paths.PurePath.parse Defaults.NOTEBOOKS_DIR).join (stem notebook.name ++ ".ipynb")).str =
        notebook.path ↔
      notebook.dir = "notebooks" ∧ '.' ∉ notebook.name.toList := by
  have noSlash (text : String) (clean : '/' ∉ text.toList) : '/' ∉ (text ++ ".ipynb").toList := by
    rw [String.toList_append, List.mem_append]
    rintro (inside | suffix)
    · exact clean inside
    · exact absurd suffix (by decide)
  have stemClean : '/' ∉ (stem notebook.name).toList := by
    rw [stem, String.toList_ofList]
    exact fun inside => notebook.noSlash ((List.takeWhile_prefix _).subset inside)
  rw [pm_input_eq notebook.noSlash, Notebook.path, ← stem_eq_self_iff]
  constructor
  · intro same
    have texts := congrArg String.toList same
    rw [toList_path, toList_path] at texts
    obtain ⟨dirs, names⟩ := Words.cut_inj (noSlash _ stemClean) (noSlash _ notebook.noSlash) texts
    refine ⟨(String.toList_inj.mp dirs).symm, ?_⟩
    have files := String.toList_inj.mp names
    exact String.append_left_inj _ |>.mp files
  · rintro ⟨dir, name⟩
    rw [dir, name]

section Create

variable {machine : Machine Text} {session : Session Text} {path alias_ : String}

theorem run_params_of_missing (missing : session.disk (place path) = none) :
    run (params machine path) session =
      match machine.unwritable (place path) with
      | some failure => (.error failure, session)
      | none => (.ok none, { session with
          disk := Function.update session.disk (place path) (some machine.test_workflow) }) := by
  rw [params, run_bind, run_act, missing]
  simp only
  rw [run_bind, notebook_template, run_bind]
  cases machine.unwritable (place path) <;> rfl

/-- Where there is no notebook, the call fails, whatever it has written. -/
theorem fails_of_missing (missing : session.disk (place path) = none) :
    ∃ failure later, run (create_workflow machine path alias_) session =
      (.error failure, later) := by
  rw [create_workflow, run_bind, run_params_of_missing missing]
  cases machine.unwritable (place path) with
  | some failure => exact ⟨_, _, rfl⟩
  | none =>
      simp only
      rw [run_bind, run_lift]
      cases nb_name path with
      | error failure => exact ⟨_, _, rfl⟩
      | ok name => exact ⟨_, _, rfl⟩

theorem run_params_of_file {text : Text} (file : session.disk (place path) = some text) :
    run (params machine path) session =
      (match machine.unreadable (place path) with
        | some failure => .error failure
        | none => (machine.loads text).bind fun nb_dict =>
            (get_params_from_nb machine nb_dict).map some, session) := by
  rw [params, run_bind, run_act, file]
  simp only
  rw [run_bind, open_notebook, run_bind]
  cases machine.unreadable (place path) with
  | some failure => rfl
  | none =>
      simp only [raising, run_pure, run_lift]
      cases machine.loads text with
      | error failure => rfl
      | ok nb_dict =>
          simp only [Except.bind]
          rw [run_bind, run_lift]
          cases get_params_from_nb machine nb_dict <;> rfl

def added (name alias_ : String) (params : List (String × Json)) : Marked.WorkflowDataWeb :=
  { alias_ := alias_, nbtask := { nb_name := name, params := params }, enabled := ⟨some false⟩ }

theorem pm_input_added (name : String) (params : List (String × Json)) (env : Env)
    (projectid : String) (execid wfid : Option String) (runtime : Option RuntimeData) :
    (Notebooks.create_notebook_ctx env projectid (added name alias_ params).nbtask.values execid
        runtime wfid).pm_input =
      ((Paths.PurePath.parse Defaults.NOTEBOOKS_DIR).join (name ++ ".ipynb")).str := rfl

theorem run_write (later : Session Text) :
    (run (write machine) later).1 = .ok ⟨⟩ ↔
      later.state.project ≠ none ∧ machine.unwritable Defaults.LABFILE_NAME = none := by
  cases project : later.state.project with
  | none => simp [write, LabState.write, LabState.snapshot, project]
  | some project_ =>
      cases writable : machine.unwritable Defaults.LABFILE_NAME <;>
        simp [write, LabState.write, LabState.snapshot, project, writable]

theorem state_write (later : Session Text) : (run (write machine) later).2.state = later.state := by
  rw [write, run_act]
  split
  · rfl
  · split <;> rfl

theorem run_create_of_params {name : String} {found : List (String × Json)} (alias_ : String)
    (read : run (params machine path) session = (.ok (some found), session))
    (named : nb_name path = .ok name) :
    ∃ result later, run (create_workflow machine path alias_) session = (result, later) ∧
      later.state = session.state.add_workflow (added name alias_ found) ∧
      (result = .ok ⟨⟩ ↔
        session.state.project ≠ none ∧ machine.unwritable Defaults.LABFILE_NAME = none) := by
  let having : Session Text :=
    { session with state := session.state.add_workflow (added name alias_ found) }
  have ran : run (create_workflow machine path alias_) session = run (write machine) having := by
    rw [create_workflow, run_bind, read]
    simp only
    rw [run_bind, run_lift, named]
    simp only
    rw [run_bind, add_workflow, run_act]
    rfl
  exact ⟨_, _, ran, state_write having, run_write having⟩

theorem file_of_created {later : Session Text}
    (ran : run (create_workflow machine path alias_) session = (.ok ⟨⟩, later)) :
    ∃ text nb_dict found, session.disk (place path) = some text ∧
      machine.unreadable (place path) = none ∧ machine.loads text = .ok nb_dict ∧
      get_params_from_nb machine nb_dict = .ok found := by
  cases file : session.disk (place path) with
  | none =>
      obtain ⟨failure, after, failed⟩ := fails_of_missing file
      rw [failed] at ran
      cases ran
  | some text =>
      rw [create_workflow, run_bind, run_params_of_file file] at ran
      cases readable : machine.unreadable (place path) with
      | some failure =>
          rw [readable] at ran
          cases ran
      | none =>
          rw [readable] at ran
          cases loaded : machine.loads text with
          | error failure =>
              rw [loaded] at ran
              cases ran
          | ok nb_dict =>
              cases parsed : get_params_from_nb machine nb_dict with
              | error failure =>
                  simp only [loaded, Except.bind, parsed] at ran
                  cases ran
              | ok found => exact ⟨text, nb_dict, found, rfl, rfl, loaded, parsed⟩

end Create

/-- A workflow for a notebook runs that notebook exactly if the notebook is there, directly in the
folder, and has no dot in its name, and the lab file can be written. -/
theorem create_workflow_iff (machine : Machine Text) (session : Session Text) (notebook : Notebook)
    (alias_ : String) :
    Creates machine session notebook.path alias_ ↔ Meets machine session notebook := by
  have named := nb_name_path notebook
  constructor
  · rintro ⟨later, wd, ran, present, alias_eq, input⟩
    obtain ⟨text, nb_dict, found, file, readable, loaded, parsed⟩ := file_of_created ran
    have read : run (params machine notebook.path) session = (.ok (some found), session) := by
      simp [run_params_of_file file, readable, loaded, Except.bind, parsed, Except.map]
    obtain ⟨result, after, created, state, written⟩ := run_create_of_params alias_ read named
    obtain ⟨rfl, rfl⟩ := Prod.mk.inj (created.symm.trans ran)
    obtain ⟨project, writable⟩ := written.mp rfl
    have same : wd = added (stem notebook.name) alias_ found := by
      rw [state, LabState.add_workflow] at present
      exact (Option.some.inj ((Dict.lookup_set_self _ _ _).symm.trans present)).symm
    have inputs := input LabFunctions.Sample.env "" none none none
    rw [same, pm_input_added] at inputs
    obtain ⟨dir, name⟩ := (input_eq_path_iff notebook).mp inputs
    have reads := (get_params_ok_iff nb_dict).mp ⟨found, parsed⟩
    exact ⟨⟨text, nb_dict, file, readable, loaded, reads⟩, project, writable, dir, name⟩
  · intro meets
    obtain ⟨text, nb_dict, file, readable, loaded, reads⟩ := meets.file
    obtain ⟨found, parsed⟩ := (get_params_ok_iff nb_dict).mpr reads
    have read : run (params machine notebook.path) session = (.ok (some found), session) := by
      simp [run_params_of_file file, readable, loaded, Except.bind, parsed, Except.map]
    obtain ⟨result, after, created, state, written⟩ := run_create_of_params alias_ read named
    have ok := written.mpr ⟨meets.project, meets.writable⟩
    rw [ok] at created
    refine ⟨after, added (stem notebook.name) alias_ found, created, ?_, rfl, ?_⟩
    · rw [state]
      exact Dict.lookup_set_self _ _ _
    · intro env projectid execid runtime wfid
      rw [pm_input_added]
      exact (input_eq_path_iff notebook).mpr ⟨meets.dir, meets.name⟩

end Calls

namespace Sample

def machine : Machine Json where
  yaml := LabStates.Sample.yaml
  loads := .ok
  nonzero _ := true
  test_workflow := .dict [("cells", .list [])]
  unreadable _ := none
  unwritable _ := none

def session : Session Json where
  state := { project := some { name := "first", projectid := "p" } }
  disk _ := none

def notebook : Notebook where
  dir := "notebooks"
  name := "daily"
  noSlash := by decide

end Sample

/-- A notebook that is not there is created, but the call has no parameters for it then. -/
theorem missing_notebook_fails : ¬∀ (machine : Machine Json) (session : Session Json)
    (notebook : Notebook) (alias_ : String),
      Creates machine session notebook.path alias_ := by
  intro creates
  obtain ⟨later, wd, ran, _⟩ := creates Sample.machine Sample.session Sample.notebook "daily"
  obtain ⟨failure, after, failed⟩ : ∃ failure after,
      run (create_workflow Sample.machine Sample.notebook.path "daily") Sample.session =
        (.error failure, after) := fails_of_missing rfl
  rw [failed] at ran
  cases ran

end NotebookWorkflows

end LabFunctions
