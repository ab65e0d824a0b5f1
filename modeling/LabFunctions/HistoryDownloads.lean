import LabFunctions.Executions
import LabFunctions.HistoryOutputs
import LabFunctions.HistoryRows

/-!
The notebook of an execution on its way to the server and back: what `register` uploads,
and what `lab log list` asks for when it shows the history row.
-/

namespace LabFunctions

namespace HistoryClient

def history_nb_output (exec_result : ExecutionResult) (body : String) : HistoryOutputs.Request :=
  let form_data := { file := some body, output_name := exec_result.output_name }
  if exec_result.error then .history_output_fail exec_result.projectid form_data
  else .history_output_ok exec_result.projectid form_data

/-- `history_get_output`. The uri stands in the query string as it is; `received` is the value
that the server's parser finds there. -/
def history_get_output (received : String → String) (projectid uri : String) :
    HistoryOutputs.Request :=
  .history_get_output projectid (some (received uri))

end HistoryClient

namespace HistoryDownloads

open Paths HistoryOutputs

def shown (value : Option String) : String := value.getD "None"

def notebookUri (row : HistoryModel) : String :=
  if row.status = 0 then shown row.result.output_dir ++ "/" ++ shown row.result.output_name
  else shown row.result.error_dir ++ "/" ++ shown row.result.output_name

/-- `get_notebook` up to the request: the uri it asks for, unless the file is there already. -/
def get_notebook (present : String → Bool) (row : HistoryModel) : Option String :=
  -- also for an error it is `output_dir` that is looked at
  let output_result := truthy row.result.output_dir
  if !present (notebookUri row) && output_result then some (notebookUri row) else none

/-- The file that is read for the history row is the file the upload has written. -/
def Fetched (received : String → String) (store : AsyncKVLocal) (uploaded asked : DateTime)
    (result : ExecutionResult) : Prop :=
  ∀ body present uri, get_notebook present (HistoryMg.newRow result) = some uri →
    ∃ location,
      handle store uploaded (HistoryClient.history_nb_output result body) =
        .ok (.write location body) ∧
      handle store asked (HistoryClient.history_get_output received result.projectid uri) =
        .ok (.read location)

def SameDay (created uploaded : DateTime) : Prop := today_string created = today_string uploaded

theorem handed_outputs {origin : Executions.Origin} {ctx : ExecutionNBTask}
    (member : ctx ∈ Executions.handed origin) :
    ctx.output_dir = Defaults.NB_OUTPUTS ++ "/ok/" ++ today_string origin.env.today ∧
      ctx.error_dir = Defaults.NB_OUTPUTS ++ "/errors/" ++ today_string origin.env.today ∧
      ∃ rest, ctx.output_name = "tmp" ++ rest := by
  have named : ∀ db projectid task pre, ∃ rest,
      (create_task_ctx origin.env db projectid task pre).output_name = "tmp" ++ rest := by
    intro db projectid task pre
    refine ⟨origin.env.dummy.text ++ "." ++ task.nb_name ++ "." ++
      pyOr (some (ExecID origin.env.execid pre)) (ExecID origin.env.execid none) ++ ".ipynb", ?_⟩
    simp only [create_task_ctx, Notebooks.create_notebook_ctx, Notebooks.dummy_wfid,
      String.append_assoc, pyOr]
  rcases Executions.mem_handed_direct member with ⟨db, projectid, task, pre, rfl, _⟩ |
    ⟨env, db, projectid, wfid, wd, schedule, firings, rfl⟩
  · exact ⟨rfl, rfl, named db projectid task pre⟩
  · rw [Executions.handed_register_workflow, List.mem_map] at member
    obtain ⟨firing, _, rfl⟩ := member
    exact ⟨rfl, rfl, named db projectid wd.nbtask none⟩

theorem segments_tmp_ne_nil (rest : String) : segments ("tmp" ++ rest) ≠ [] := by
  have tmp : "tmp".toList = ['t', 'm', 'p'] := rfl
  obtain ⟨first, others, split⟩ :=
    List.exists_cons_of_ne_nil (List.splitOn_ne_nil '/' rest.toList)
  have pieces : ("tmp" ++ rest).toList.splitOn '/' = ('t' :: 'm' :: 'p' :: first) :: others := by
    simp [String.toList_append, tmp, List.splitOn_cons_eq_if_modifyHead, split]
  have long : ∀ text : String, text.length ≤ 1 → String.ofList ('t' :: 'm' :: 'p' :: first) ≠ text := by
    intro text short same
    have lengths := congrArg String.length same
    simp only [String.length_ofList, List.length_cons] at lengths
    omega
  have kept : String.ofList ('t' :: 'm' :: 'p' :: first) ∈ segments ("tmp" ++ rest) := by
    rw [segments, pieces, List.mem_filter]
    refine ⟨by simp, ?_⟩
    rw [Bool.and_eq_true, bne_iff_ne, bne_iff_ne]
    exact ⟨long "" (by decide), long "." (by decide)⟩
  exact List.ne_nil_of_mem kept

theorem rootOf_tmp (rest : String) : PurePath.rootOf ("tmp" ++ rest) = "" := by
  have tmp : "tmp".toList = ['t', 'm', 'p'] := rfl
  rw [rootOf_eq_empty_iff, String.toList_append, tmp]
  simp

theorem today_inj_iff {kind : String} {left right : DateTime} :
    PurePath.joinSlash [Defaults.NB_OUTPUTS, kind, today_string left] =
      PurePath.joinSlash [Defaults.NB_OUTPUTS, kind, today_string right] ↔ SameDay left right := by
  simp [PurePath.joinSlash, SameDay]

theorem upload_key_iff (projectid rest : String) {kind : String} (clean : Clean kind)
    (created uploaded : DateTime) :
    ((outputDir projectid kind uploaded).join ("tmp" ++ rest)).str =
        projectid ++ "/" ++ (Defaults.NB_OUTPUTS ++ "/" ++ kind ++ "/" ++ today_string created ++
          "/" ++ ("tmp" ++ rest)) ↔
      SameDay created uploaded ∧ PurePath.Joins projectid ("tmp" ++ rest) := by
  have relative := rootOf_tmp rest
  have cleanDay : Clean (today_string uploaded) := uploaded.clean_dayString
  have root : ((outputDir projectid kind uploaded).join ("tmp" ++ rest)).root =
      PurePath.rootOf projectid := by
    unfold outputDir
    rw [PurePath.root_join_relative _ relative,
      PurePath.root_join_relative _ (PurePath.rootOf_of_clean cleanDay),
      PurePath.root_join_relative _ (PurePath.rootOf_of_clean clean),
      PurePath.root_join_relative _ (PurePath.rootOf_of_clean (by decide)), PurePath.root_parse]
  have parts : ((outputDir projectid kind uploaded).join ("tmp" ++ rest)).parts =
      segments projectid ++ ([Defaults.NB_OUTPUTS, kind, today_string uploaded] ++
        segments ("tmp" ++ rest)) := by
    rw [PurePath.parts_join_relative _ relative, parts_outputDir projectid clean,
      List.append_assoc]
  have lengths : (PurePath.joinSlash [Defaults.NB_OUTPUTS, kind, today_string uploaded]).length =
      (PurePath.joinSlash [Defaults.NB_OUTPUTS, kind, today_string created]).length := by
    simp [PurePath.joinSlash, today_string]
  have between := PurePath.str_between_iff root parts relative (segments_tmp_ne_nil rest)
    (by simp) lengths
  have reader : projectid ++ "/" ++ PurePath.joinSlash [Defaults.NB_OUTPUTS, kind,
        today_string created] ++ "/" ++ ("tmp" ++ rest) =
      projectid ++ "/" ++ (Defaults.NB_OUTPUTS ++ "/" ++ kind ++ "/" ++ today_string created ++
        "/" ++ ("tmp" ++ rest)) := by
    simp only [PurePath.joinSlash, String.append_assoc]
  rw [reader, today_inj_iff] at between
  rw [between, SameDay, SameDay, eq_comm (a := today_string uploaded)]

def kindOf (result : ExecutionResult) : String := if result.error then "errors" else "ok"

theorem clean_kindOf (result : ExecutionResult) : Clean (kindOf result) := by
  unfold kindOf
  split <;> decide

structure Described (result : ExecutionResult) (created : DateTime) (name : String) : Prop where
  output_dir : result.output_dir = some (Defaults.NB_OUTPUTS ++ "/ok/" ++ today_string created)
  error_dir : result.error_dir = some (Defaults.NB_OUTPUTS ++ "/errors/" ++ today_string created)
  output_name : result.output_name = some name

section Described

variable {result : ExecutionResult} {created : DateTime} {name : String}

theorem notebookUri_described (described : Described result created name) :
    notebookUri (HistoryMg.newRow result) =
      Defaults.NB_OUTPUTS ++ "/" ++ kindOf result ++ "/" ++ today_string created ++ "/" ++ name := by
  have ok : "/ok/" = "/" ++ "ok" ++ "/" := rfl
  have errors : "/errors/" = "/" ++ "errors" ++ "/" := rfl
  unfold notebookUri kindOf HistoryMg.newRow
  cases result.error with
  | false =>
      simp only [Bool.false_eq_true, if_false, if_true, described.output_dir,
        described.output_name, shown, Option.getD_some, ok, String.append_assoc]
  | true =>
      have failed : (-1 : Int) ≠ 0 := by decide
      simp only [if_true, failed, if_false, described.error_dir, described.output_name, shown,
        Option.getD_some, errors, String.append_assoc]

theorem handle_upload (described : Described result created name) (store : AsyncKVLocal)
    (uploaded : DateTime) (body : String) :
    handle store uploaded (HistoryClient.history_nb_output result body) =
      .ok (.write (store.uri
        ((outputDir result.projectid (kindOf result) uploaded).join name).str) body) := by
  unfold HistoryClient.history_nb_output kindOf
  rw [described.output_name]
  cases result.error <;> rfl

theorem get_notebook_described (described : Described result created name)
    (present : String → Bool) :
    get_notebook present (HistoryMg.newRow result) =
      if present (notebookUri (HistoryMg.newRow result)) then none
      else some (notebookUri (HistoryMg.newRow result)) := by
  have named : truthy (HistoryMg.newRow result).result.output_dir = true := by
    rw [show (HistoryMg.newRow result).result = result from rfl, described.output_dir, truthy_iff]
    exact ⟨_, rfl, by simp [Defaults.NB_OUTPUTS]⟩
  unfold get_notebook
  rw [named]
  cases present (notebookUri (HistoryMg.newRow result)) <;> rfl

theorem fetched_iff {rest : String} (described : Described result created ("tmp" ++ rest))
    (received : String → String) (store : AsyncKVLocal) (uploaded asked : DateTime)
    (arrives : received (notebookUri (HistoryMg.newRow result)) =
      notebookUri (HistoryMg.newRow result)) :
    Fetched received store uploaded asked result ↔
      SameDay created uploaded ∧ PurePath.Joins result.projectid ("tmp" ++ rest) := by
  rw [← upload_key_iff result.projectid rest (clean_kindOf result) created uploaded,
    ← notebookUri_described described]
  constructor
  · intro fetched
    obtain ⟨location, written, read⟩ := fetched "" (fun _ => false) _
      (get_notebook_described described _)
    rw [handle_upload described] at written
    simp only [handle, HistoryClient.history_get_output, HistoryOutputs.history_get_output,
      Option.getD_some, arrives, Except.ok.injEq, Access.write.injEq, Access.read.injEq,
      and_true] at written read
    rw [← read] at written
    simpa [AsyncKVLocal.uri] using written
  · intro same body present uri asks
    rw [get_notebook_described described] at asks
    split at asks
    · cases asks
    · obtain rfl := Option.some.inj asks
      refine ⟨_, handle_upload described store uploaded body, ?_⟩
      simp only [handle, HistoryClient.history_get_output, HistoryOutputs.history_get_output,
        Option.getD_some, arrives, same]

end Described

def evening : DateTime := { Sample.morning with hour := 23, inRange := by decide }

def nextDay : DateTime := { Sample.morning with day := 2, inRange := by decide }

def nightly : Executions.Origin :=
  .register_workflow Sample.env Sample.db "p" "aaaaaaaaaaa"
    { alias_ := "nightly", nbtask := Sample.task } {} [Sample.env]

def nightlyCtx : ExecutionNBTask :=
  Tasks.workflow_dispatcher Sample.env
    { create_task_ctx Sample.env Sample.db "p" Sample.task with wfid := "aaaaaaaaaaa" }

theorem nightlyCtx_handed : nightlyCtx ∈ Executions.handed nightly := by
  unfold nightly
  rw [Executions.handed_register_workflow]
  exact List.mem_singleton.mpr rfl

end HistoryDownloads

end LabFunctions
