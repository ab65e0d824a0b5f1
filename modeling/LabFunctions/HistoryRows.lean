import LabFunctions.Context
import LabFunctions.Database

/-!
The two processes that register an execution: `lab exec local` inside the container
and `docker_exec` on the agent. The agent's credentials and the private key are at
hand, and every call of the history endpoint succeeds.
-/

namespace LabFunctions

namespace HistoryMg

def newRow (execution_result : ExecutionResult) : HistoryModel :=
  { wfid := execution_result.wfid
    execid := execution_result.execid
    project_id := some execution_result.projectid
    elapsed_secs := execution_result.elapsed_secs
    nb_name := execution_result.name
    result := execution_result
    status := if execution_result.error then -1 else 0 }

def create (history : List HistoryModel) (execution_result : ExecutionResult) :
    List HistoryModel :=
  history ++ [newRow execution_result]

end HistoryMg

namespace Executors

/-- How `pm.execute_notebook` ends; a failed notebook is then moved to the error directory. -/
inductive Notebook where
  | success
  | executionError (message : String) (moved : Bool)
  | raised (message : String)

inductive Upload where
  | sent
  | fileNotFound
  | raised (message : String)

/-- What the container goes through. An interrupted one is killed after the wait ended
without a result; `reached` is the notebook's end if its registration came before. The
calls after the wait give the logs, or an API error. -/
inductive Fate where
  | refused (message : String)
  | exited (notebook : Notebook) (upload : Upload) (collected : Except String String)
  | interrupted (reached : Option Notebook) (collected : Except String String)

def result (ctx : ExecutionNBTask) (elapsed : String) (error : Bool) (error_msg : Option String) :
    ExecutionResult :=
  { projectid := ctx.projectid
    name := ctx.nb_name
    wfid := ctx.wfid
    execid := ctx.execid
    cluster := some ctx.cluster
    machine := some ctx.machine
    runtime := some ctx.runtime
    params := ctx.params
    input_ := ctx.pm_input
    output_dir := some ctx.output_dir
    output_name := some ctx.output_name
    error_dir := some ctx.error_dir
    error := error
    error_msg := error_msg
    elapsed_secs := elapsed
    created_at := ctx.created_at }

/-- `NBTaskExecBase.register`: the row is there even when the upload raises. -/
def register (history : List HistoryModel) (result : ExecutionResult) (upload : Upload) :
    List HistoryModel × Except Exn Unit :=
  (HistoryMg.create history result,
    if truthy result.output_name then
      match upload with
      | .sent => .ok ()
      | .fileNotFound => .ok ()
      | .raised message => .error (.otherError message)
    else .ok ())

namespace NBTaskLocal

def run (ctx : ExecutionNBTask) (notebook : Notebook) (elapsed : String) :
    Except Exn ExecutionResult :=
  match notebook with
  | .success => .ok (result ctx elapsed false none)
  | .executionError message true => .ok (result ctx elapsed true (some message))
  | .executionError _ false => .error (.otherError "the output could not be moved")
  | .raised message => .error (.otherError message)

end NBTaskLocal

def local_exec_env (lf_local : Bool) (history : List HistoryModel) (ctx : ExecutionNBTask)
    (notebook : Notebook) (upload : Upload) (elapsed : String) :
    List HistoryModel × Except Exn ExecutionResult :=
  match NBTaskLocal.run ctx notebook elapsed with
  | .error failure => (history, .error failure)
  | .ok result =>
      if lf_local then (history, .ok result)
      else
        let (history, sent) := register history result upload
        (history, sent.map fun _ => result)

def exitStatus (code : Int) : Int := code % 256

/-- `lab exec local`: an exception that nothing catches ends the interpreter with status 1. -/
def exec_local (lf_local : Bool) (history : List HistoryModel) (ctx : ExecutionNBTask)
    (notebook : Notebook) (upload : Upload) (elapsed : String) : List HistoryModel × Int :=
  let (history, rsp) := local_exec_env lf_local history ctx notebook upload elapsed
  match rsp with
  | .error _ => (history, exitStatus 1)
  | .ok rsp => (history, if rsp.error then exitStatus (-1) else exitStatus 0)

structure DockerRunResult where
  msg : String
  status : Int

def collect (collected : Except String String) (status_code : Int) : DockerRunResult :=
  match collected with
  | .ok logs => ⟨logs, status_code⟩
  | .error message => ⟨message, -3⟩

namespace DockerCommand

def run (lf_local : Bool) (history : List HistoryModel) (ctx : ExecutionNBTask) (fate : Fate)
    (elapsed : String) : List HistoryModel × DockerRunResult :=
  match fate with
  | .refused message => (history, ⟨message, -3⟩)
  | .exited notebook upload collected =>
      let (history, status) := exec_local lf_local history ctx notebook upload elapsed
      (history, collect collected status)
  | .interrupted reached collected =>
      match reached with
      | none => (history, collect collected (-1))
      | some notebook =>
          ((local_exec_env lf_local history ctx notebook .sent elapsed).1, collect collected (-1))

end DockerCommand

namespace NBTaskDocker

def run (lf_local : Bool) (history : List HistoryModel) (ctx : ExecutionNBTask) (fate : Fate)
    (elapsed : String) : List HistoryModel × ExecutionResult :=
  let (history, run) := DockerCommand.run lf_local history ctx fate elapsed
  (history, result ctx elapsed (run.status != 0) (some run.msg))

end NBTaskDocker

def docker_exec (debug lf_local : Bool) (history : List HistoryModel) (ctx : ExecutionNBTask)
    (fate : Fate) (upload : Upload) (elapsed : String) : List HistoryModel :=
  let (history, result) := NBTaskDocker.run lf_local history ctx fate elapsed
  if result.error && !debug then (register history result upload).1 else history

/-! What is expected, and when it is so. -/

def Succeeded : Fate → Prop
  | .exited .success _ _ => True
  | _ => False

def OneRow (history : List HistoryModel) (ctx : ExecutionNBTask) (fate : Fate) (upload : Upload)
    (elapsed : String) : Prop :=
  ∃ row, docker_exec false false history ctx fate upload elapsed = history ++ [row] ∧
    row.execid = ctx.execid ∧ (row.status = 0 ↔ Succeeded fate)

def Registers : Notebook → Bool
  | .success => true
  | .executionError _ moved => moved
  | .raised _ => false

def Upload.raises : Upload → Bool
  | .raised _ => true
  | _ => false

def Accounted (ctx : ExecutionNBTask) : Fate → Prop
  | .refused _ => True
  | .exited .success upload collected =>
      (ctx.output_name = "" ∨ upload.raises = false) ∧ collected.toBool = true
  | .exited notebook _ _ => Registers notebook = false
  | .interrupted reached _ => ∀ notebook ∈ reached, Registers notebook = false

section Rows

variable (history : List HistoryModel) (ctx : ExecutionNBTask) (elapsed : String)

theorem docker_exec_rows (fate : Fate) (upload : Upload) :
    docker_exec false false history ctx fate upload elapsed =
      (DockerCommand.run false history ctx fate elapsed).1 ++
        if (DockerCommand.run false history ctx fate elapsed).2.status = 0 then []
        else [HistoryMg.newRow (result ctx elapsed true
          (some (DockerCommand.run false history ctx fate elapsed).2.msg))] := by
  by_cases clean : (DockerCommand.run false history ctx fate elapsed).2.status = 0
  · simp [docker_exec, NBTaskDocker.run, result, clean]
  · have failed : ((DockerCommand.run false history ctx fate elapsed).2.status != 0) = true := by
      simpa using clean
    simp [docker_exec, NBTaskDocker.run, result, clean, failed, register, HistoryMg.create]

theorem local_exec_env_rows (notebook : Notebook) (upload : Upload) :
    ∃ rows, (local_exec_env false history ctx notebook upload elapsed).1 = history ++ rows ∧
      rows.length = (Registers notebook).toNat := by
  cases notebook with
  | success => exact ⟨_, rfl, rfl⟩
  | executionError message moved =>
      cases moved with
      | true => exact ⟨_, rfl, rfl⟩
      | false => exact ⟨[], (List.append_nil _).symm, rfl⟩
  | raised message => exact ⟨[], (List.append_nil _).symm, rfl⟩

theorem exec_local_rows (notebook : Notebook) (upload : Upload) :
    (exec_local false history ctx notebook upload elapsed).1 =
      (local_exec_env false history ctx notebook upload elapsed).1 := by
  unfold exec_local
  obtain ⟨after, rsp⟩ := local_exec_env false history ctx notebook upload elapsed
  cases rsp <;> rfl

theorem exec_local_status (notebook : Notebook) (upload : Upload) :
    (exec_local false history ctx notebook upload elapsed).2 = 0 ↔
      notebook = .success ∧ (ctx.output_name = "" ∨ upload.raises = false) := by
  cases notebook with
  | success =>
      by_cases unnamed : ctx.output_name = ""
      · simp [exec_local, local_exec_env, NBTaskLocal.run, register, result, truthy, unnamed,
          Except.map, exitStatus]
      · cases upload <;> simp [exec_local, local_exec_env, NBTaskLocal.run, register, result,
          truthy, unnamed, Except.map, exitStatus, Upload.raises]
  | executionError message moved =>
      cases moved with
      | true =>
          have failed : exitStatus (-1) ≠ 0 := by decide
          have raised : exitStatus 1 ≠ 0 := by decide
          by_cases unnamed : ctx.output_name = ""
          · simp [exec_local, local_exec_env, NBTaskLocal.run, register, result, truthy, unnamed,
              Except.map, failed]
          · cases upload <;> simp [exec_local, local_exec_env, NBTaskLocal.run, register, result,
              truthy, unnamed, Except.map, failed, raised]
      | false => simp [exec_local, local_exec_env, NBTaskLocal.run, exitStatus]
  | raised message => simp [exec_local, local_exec_env, NBTaskLocal.run, exitStatus]

theorem collect_status_iff (collected : Except String String) (status_code : Int) :
    (collect collected status_code).status = 0 ↔ collected.toBool = true ∧ status_code = 0 := by
  cases collected <;> simp [collect, Except.toBool]

theorem oneRow_reported_iff (fate : Fate) (upload : Upload) {rows : List HistoryModel}
    (inner : (DockerCommand.run false history ctx fate elapsed).1 = history ++ rows)
    (failed : (DockerCommand.run false history ctx fate elapsed).2.status ≠ 0) :
    OneRow history ctx fate upload elapsed ↔ rows = [] ∧ ¬Succeeded fate := by
  unfold OneRow
  rw [docker_exec_rows, inner, if_neg failed]
  simp only [List.append_assoc, List.append_cancel_left_eq]
  constructor
  · rintro ⟨row, same, _, status⟩
    have single := congrArg List.length same
    simp only [List.length_append, List.length_cons, List.length_nil] at single
    have empty : rows = [] := List.eq_nil_of_length_eq_zero (by omega)
    subst empty
    simp only [List.nil_append, List.cons.injEq, and_true] at same
    subst same
    exact ⟨rfl, fun succeeded => absurd (status.mpr succeeded) (by simp [HistoryMg.newRow, result])⟩
  · rintro ⟨rfl, unsuccessful⟩
    refine ⟨_, rfl, rfl, ?_⟩
    simp [HistoryMg.newRow, result, unsuccessful]

theorem rows_nil_iff {rows : List HistoryModel} {notebook : Notebook}
    (counted : rows.length = (Registers notebook).toNat) :
    rows = [] ↔ Registers notebook = false := by
  rw [← List.length_eq_zero_iff, counted]
  cases Registers notebook <;> simp

theorem oneRow_exited_iff (notebook : Notebook) (inner outer : Upload)
    (collected : Except String String) :
    OneRow history ctx (.exited notebook inner collected) outer elapsed ↔
      Accounted ctx (.exited notebook inner collected) := by
  obtain ⟨rows, written, counted⟩ := local_exec_env_rows history ctx elapsed notebook inner
  have stored : (DockerCommand.run false history ctx (.exited notebook inner collected)
      elapsed).1 = history ++ rows :=
    (exec_local_rows history ctx elapsed notebook inner).trans written
  have status : (DockerCommand.run false history ctx (.exited notebook inner collected)
      elapsed).2.status = 0 ↔ collected.toBool = true ∧ notebook = .success ∧
        (ctx.output_name = "" ∨ inner.raises = false) := by
    rw [← exec_local_status history ctx elapsed]
    exact collect_status_iff _ _
  by_cases clean : (DockerCommand.run false history ctx (.exited notebook inner collected)
      elapsed).2.status = 0
  · obtain ⟨gathered, rfl, uploaded⟩ := status.mp clean
    have row : OneRow history ctx (.exited .success inner collected) outer elapsed := by
      refine ⟨HistoryMg.newRow (result ctx elapsed false none), ?_, rfl, ?_⟩
      · rw [docker_exec_rows, if_pos clean, List.append_nil]
        exact exec_local_rows history ctx elapsed .success inner
      · simp [HistoryMg.newRow, result, Succeeded]
    exact iff_of_true row ⟨uploaded, gathered⟩
  · rw [oneRow_reported_iff history ctx elapsed _ _ stored clean, rows_nil_iff counted]
    cases notebook with
    | success =>
        simp only [Registers, Accounted, Bool.true_eq_false, false_and, false_iff]
        rintro ⟨uploaded, gathered⟩
        exact clean (status.mpr ⟨gathered, rfl, uploaded⟩)
    | executionError message moved => simp [Accounted, Succeeded]
    | raised message => simp [Accounted, Succeeded]

end Rows

end Executors

end LabFunctions
