import LabFunctions.Library.Effects

/-!
`DockerCommand.run`: one container from `containers.run` to `remove`, when each of the calls to
docker may fail.
-/

namespace LabFunctions

namespace DockerRuns

open Effects

/-- `docker.errors`, as far as the method names them. -/
inductive DockerError where
  | containerError (message : String)
  | apiError (message : String)
  deriving DecidableEq

inductive DockerExn where
  | docker (error : DockerError)
  | unicodeDecodeError
  deriving DecidableEq

/-- `Value` is the type of what is in the environment. -/
structure ContainerSpec (Value : Type) where
  image : String
  command : String
  runtime : Option String
  environment : List (String × Value)
  network_mode : String
  ports : Option (List (String × Int))
  mem_limit : Option Int
  mem_reservation : Option Int

structure DockerResources where
  mem_limit : Option Int := none
  mem_reservation : Option Int := none

structure DockerRunResult where
  msg : String
  status : Int
  deriving DecidableEq

structure RunArgs (Value : Type) where
  cmd : String
  image : String
  timeout : Int := 120
  env_data : List (String × Value) := []
  remove : Bool := true
  require_gpu : Bool := false
  network_mode : String := "bridge"
  ports : Option (List (String × Int)) := none
  resources : DockerResources := {}

/-- How the calls end. `wait` gives the status of a container that has exited in time, and
nothing where it raises; the others give what they raise, if anything. -/
structure Calls where
  run : Option DockerError := none
  wait : Option Int := some 0
  kill : Option String := none
  logs : Except String ByteArray := .ok ByteArray.empty
  remove : Option String := none

/-- What one call has asked of docker, and the container it started, while that is there. -/
structure Trace (Value : Type) where
  asked : List (ContainerSpec Value) := []
  waits : List Int := []
  removals : Nat := 0
  container : Option (ContainerSpec Value) := none

abbrev Call (Value α : Type) := Effect DockerExn (Trace Value) α

variable {Value : Type} (calls : Calls) (args : RunArgs Value)

def containers_run (spec : ContainerSpec Value) : Call Value PUnit := act fun trace =>
  let trace := { trace with asked := trace.asked ++ [spec] }
  match calls.run with
  | none => (.ok ⟨⟩, { trace with container := some spec })
  | some error => (.error (.docker error), trace)

def _wait_result (timeout : Int) : Call Value (Option Int) := act fun trace =>
  (.ok calls.wait, { trace with waits := trace.waits ++ [timeout] })

def kill : Call Value PUnit :=
  match calls.kill with
  | none => pure ⟨⟩
  | some message => throw (.docker (.apiError message))

def logs : Call Value ByteArray :=
  match calls.logs with
  | .ok bytes => pure bytes
  | .error message => throw (.docker (.apiError message))

def decode (bytes : ByteArray) : Call Value String :=
  match String.fromUTF8? bytes with
  | some text => pure text
  | none => throw .unicodeDecodeError

def remove : Call Value PUnit := act fun trace =>
  let trace := { trace with removals := trace.removals + 1 }
  match calls.remove with
  | none => (.ok ⟨⟩, { trace with container := none })
  | some message => (.error (.docker (.apiError message)), trace)

def spec : ContainerSpec Value where
  image := args.image
  command := args.cmd
  runtime := if args.require_gpu then some "nvidia" else none
  environment := args.env_data
  network_mode := args.network_mode
  ports := args.ports
  mem_limit := args.resources.mem_limit
  mem_reservation := args.resources.mem_reservation

def body : Call Value DockerRunResult := do
  containers_run calls (spec args)
  let result ← _wait_result calls args.timeout
  let status_code ← match result with
    | none => do
        kill calls
        pure (-1)
    | some code => pure code
  let bytes ← logs calls
  let logs ← decode bytes
  if args.remove then remove calls
  return ⟨logs, status_code⟩

def handler : DockerExn → Call Value DockerRunResult
  | .docker (.containerError message) => return ⟨message, -2⟩
  | .docker (.apiError message) => return ⟨message, -3⟩
  | failure => throw failure

def run : Call Value DockerRunResult := tryCatch (body calls args) handler

section Run

/-- The part behind the wait: the container is killed where it has not exited. -/
def stopped : Except DockerExn Int :=
  match calls.wait, calls.kill with
  | some code, _ => .ok code
  | none, none => .ok (-1)
  | none, some message => .error (.docker (.apiError message))

def collected : Except DockerExn String :=
  match calls.logs with
  | .error message => .error (.docker (.apiError message))
  | .ok bytes =>
      match String.fromUTF8? bytes with
      | some text => .ok text
      | none => .error .unicodeDecodeError

def waited : Trace Value where
  asked := [spec args]
  waits := [args.timeout]
  container := some (spec args)

def removed (result : DockerRunResult) : Except DockerExn DockerRunResult × Trace Value :=
  if args.remove then
    match calls.remove with
    | none => (.ok result, { waited args with removals := 1, container := none })
    | some message => (.error (.docker (.apiError message)), { waited args with removals := 1 })
  else (.ok result, waited args)

theorem run_stopped (trace : Trace Value) (rest : Int → Call Value DockerRunResult) :
    Effects.run (do
      let status_code ← match calls.wait with
        | none => do
            kill calls
            pure (-1)
        | some code => pure code
      rest status_code) trace =
      match stopped calls with
      | .ok code => Effects.run (rest code) trace
      | .error failure => (.error failure, trace) := by
  unfold stopped kill
  cases calls.wait with
  | some code => rfl
  | none => cases calls.kill <;> rfl

theorem run_collected (trace : Trace Value) (rest : String → Call Value DockerRunResult) :
    Effects.run (do
      let bytes ← logs calls
      let text ← decode bytes
      rest text) trace =
      match collected calls with
      | .ok text => Effects.run (rest text) trace
      | .error failure => (.error failure, trace) := by
  unfold collected logs
  cases calls.logs with
  | error message => rfl
  | ok bytes =>
      unfold decode
      simp only [pure_bind]
      cases String.fromUTF8? bytes <;> rfl

theorem run_body : Effects.run (body calls args) {} =
    match calls.run with
    | some error => (.error (.docker error), { asked := [spec args] })
    | none =>
        match stopped calls with
        | .error failure => (.error failure, waited args)
        | .ok code =>
            match collected calls with
            | .error failure => (.error failure, waited args)
            | .ok text => removed calls args ⟨text, code⟩ := by
  unfold body
  rw [run_bind]
  unfold containers_run
  cases started : calls.run with
  | some failure => rfl
  | none =>
      simp only [run_act]
      rw [run_bind]
      unfold _wait_result
      simp only [run_act]
      refine (run_stopped calls (waited args) _).trans ?_
      cases stopped calls with
      | error failure => rfl
      | ok code =>
          simp only
          refine (run_collected calls (waited args) _).trans ?_
          cases collected calls with
          | error failure => rfl
          | ok text =>
              simp only
              unfold removed
              cases args.remove with
              | false => rfl
              | true =>
                  rw [if_pos rfl, if_pos rfl, run_bind]
                  unfold remove
                  simp only [run_act]
                  cases calls.remove <;> rfl

theorem run_eq : Effects.run (run calls args) {} =
    match Effects.run (body calls args) {} with
    | (.ok result, later) => (.ok result, later)
    | (.error failure, later) => Effects.run (handler failure) later := by
  refine (run_tryCatch (body calls args) handler).trans ?_
  rcases Effects.run (body calls args) {} with ⟨_ | _, later⟩ <;> rfl

theorem stopped_ok_iff : (∃ code, stopped calls = .ok code) ↔
    (calls.wait = none → calls.kill = none) := by
  unfold stopped
  cases calls.wait with
  | some code => simp
  | none => cases calls.kill <;> simp

theorem collected_ok_iff : (∃ text, collected calls = .ok text) ↔
    ∃ bytes, calls.logs = .ok bytes ∧ bytes.IsValidUTF8 := by
  unfold collected String.fromUTF8?
  cases calls.logs with
  | error message => simp
  | ok bytes => by_cases valid : bytes.IsValidUTF8 <;> simp [valid]

structure Contract : Prop where
  returns : ∃ result, (Effects.run (run calls args) {}).1 = .ok result
  status : ∀ result, (Effects.run (run calls args) {}).1 = .ok result → result.status = 0 →
    calls.wait = some 0
  removed : args.remove = true → (Effects.run (run calls args) {}).2.container = none ∨
    0 < (Effects.run (run calls args) {}).2.removals ∧ calls.remove ≠ none

/-- A container that could be started is stopped and gives its logs, where it is to be removed,
and logs that are read are UTF-8. -/
def Sound : Prop :=
  calls.run = none →
    (args.remove = true →
      (calls.wait = none → calls.kill = none) ∧ ∃ bytes, calls.logs = .ok bytes) ∧
    ((calls.wait = none → calls.kill = none) →
      ∀ bytes, calls.logs = .ok bytes → bytes.IsValidUTF8)

variable {calls args}

theorem handler_docker (error : DockerError) (trace : Trace Value) :
    ∃ result, Effects.run (handler (.docker error)) trace = (.ok result, trace) ∧
      result.status ≠ 0 := by
  cases error with
  | containerError message => exact ⟨⟨message, -2⟩, rfl, by simp⟩
  | apiError message => exact ⟨⟨message, -3⟩, rfl, by simp⟩

theorem handler_trace (failure : DockerExn) (trace : Trace Value) :
    (Effects.run (handler failure) trace).2 = trace := by
  cases failure with
  | docker error =>
      obtain ⟨result, ran, _⟩ := handler_docker error trace
      rw [ran]
  | unicodeDecodeError => rfl

theorem run_trace (calls : Calls) (args : RunArgs Value) :
    (Effects.run (run calls args) {}).2 = (Effects.run (body calls args) {}).2 := by
  rw [run_eq]
  rcases Effects.run (body calls args) {} with ⟨failure | result, later⟩
  · exact handler_trace failure later
  · rfl

/-- One container is asked for, and one that is started is waited for. -/
theorem run_asked (calls : Calls) (args : RunArgs Value) :
    (Effects.run (run calls args) {}).2.asked = [spec args] ∧
      (calls.run = none → (Effects.run (run calls args) {}).2.waits = [args.timeout]) := by
  rw [run_trace, run_body]
  cases calls.run with
  | some error => exact ⟨rfl, fun started => by cases started⟩
  | none =>
      cases stopped calls with
      | error failure => exact ⟨rfl, fun _ => rfl⟩
      | ok code =>
          cases collected calls with
          | error failure => exact ⟨rfl, fun _ => rfl⟩
          | ok text =>
              simp only [removed]
              cases args.remove with
              | false => exact ⟨rfl, fun _ => rfl⟩
              | true => cases calls.remove <;> exact ⟨rfl, fun _ => rfl⟩

/-- A call that ends in an error of docker returns, and leaves what was there when it came. -/
theorem contract_of_docker {error : DockerError} {later : Trace Value}
    (ends : Effects.run (body calls args) {} = (.error (.docker error), later))
    (removed : args.remove = true →
      later.container = none ∨ 0 < later.removals ∧ calls.remove ≠ none) :
    Contract calls args := by
  obtain ⟨result, ran, failed⟩ := handler_docker error later
  have whole : Effects.run (run calls args) {} = (.ok result, later) := by
    rw [run_eq, ends]
    exact ran
  refine ⟨⟨result, by rw [whole]⟩, ?_, ?_⟩
  · intro other same zero
    rw [whole] at same
    exact absurd (Except.ok.inj same ▸ zero) failed
  · rw [whole]
    exact removed

theorem not_contract_of_left {error : DockerError} (remove : args.remove = true)
    (ends : Effects.run (body calls args) {} = (.error (.docker error), waited args)) :
    ¬ Contract calls args := by
  intro contract
  obtain ⟨result, ran, _⟩ := handler_docker error (waited args)
  have whole : Effects.run (run calls args) {} = (.ok result, waited args) := by
    rw [run_eq, ends]
    exact ran
  have left := contract.removed remove
  rw [whole] at left
  simp [waited] at left

/-- An error behind the wait leaves the container, as it may where it is not to be removed. -/
theorem contract_iff_of_left {error : DockerError}
    (ends : Effects.run (body calls args) {} = (.error (.docker error), waited args)) :
    Contract calls args ↔ args.remove = false := by
  constructor
  · intro contract
    by_contra kept
    exact not_contract_of_left (by simpa using kept) ends contract
  · intro remove
    exact contract_of_docker ends fun kept => by simp [remove] at kept

theorem wait_of_status {code : Int} {text : String} {result : DockerRunResult}
    (exited : stopped calls = .ok code) (same : ⟨text, code⟩ = result) (zero : result.status = 0) :
    calls.wait = some 0 := by
  obtain rfl : code = 0 := (congrArg DockerRunResult.status same).trans zero
  unfold stopped at exited
  split at exited
  · rename_i waited
    rw [waited, Except.ok.inj exited]
  · cases exited
  · cases exited

theorem stopped_error {failure : DockerExn} (failed : stopped calls = .error failure) :
    ∃ message, failure = .docker (.apiError message) := by
  unfold stopped at failed
  split at failed
  · cases failed
  · cases failed
  · exact ⟨_, (Except.error.inj failed).symm⟩

theorem collected_error {failure : DockerExn} (failed : collected calls = .error failure) :
    (∃ message, failure = .docker (.apiError message) ∧ calls.logs = .error message) ∨
      failure = .unicodeDecodeError ∧ ∃ bytes, calls.logs = .ok bytes ∧ ¬ bytes.IsValidUTF8 := by
  unfold collected at failed
  split at failed
  · rename_i message refused
    exact .inl ⟨message, (Except.error.inj failed).symm, refused⟩
  · rename_i bytes given
    split at failed
    · cases failed
    · rename_i undecoded
      refine .inr ⟨(Except.error.inj failed).symm, bytes, given, ?_⟩
      simpa [String.fromUTF8?] using undecoded

theorem run_of_body_ok {result : DockerRunResult} {later : Trace Value}
    (ends : Effects.run (body calls args) {} = (.ok result, later)) :
    Effects.run (run calls args) {} = (.ok result, later) := by
  rw [run_eq, ends]

theorem contract_of_collected (started : calls.run = none) {code : Int} {text : String}
    (exited : stopped calls = .ok code) (read : collected calls = .ok text) :
    Contract calls args := by
  have ends := run_body calls args
  rw [started] at ends
  simp only [exited, read] at ends
  unfold removed at ends
  cases remove : args.remove with
  | false =>
      rw [remove, if_neg Bool.false_ne_true] at ends
      have whole := run_of_body_ok ends
      refine ⟨⟨_, by rw [whole]⟩, ?_, fun kept => ?_⟩
      · intro result same zero
        rw [whole] at same
        exact wait_of_status exited (Except.ok.inj same) zero
      · rw [remove] at kept
        cases kept
  | true =>
      rw [remove, if_pos rfl] at ends
      cases removes : calls.remove with
      | some message =>
          rw [removes] at ends
          exact contract_of_docker ends fun _ => .inr ⟨by simp, by simp [removes]⟩
      | none =>
          rw [removes] at ends
          have whole := run_of_body_ok ends
          refine ⟨⟨_, by rw [whole]⟩, ?_, fun _ => .inl (by rw [whole])⟩
          intro result same zero
          rw [whole] at same
          exact wait_of_status exited (Except.ok.inj same) zero

end Run

/-- The method keeps its contract exactly where a container to be removed is stopped and gives
its logs, and the logs it gives are UTF-8. -/
theorem run_contract_iff (calls : Calls) (args : RunArgs Value) :
    Contract calls args ↔ Sound calls args := by
  have ends := run_body calls args
  cases started : calls.run with
  | some error =>
      rw [started] at ends
      have sound : Sound calls args := fun none => by simp [started] at none
      exact iff_of_true (contract_of_docker ends fun _ => .inl rfl) sound
  | none =>
      rw [started] at ends
      cases exited : stopped calls with
      | error failure =>
          obtain ⟨message, rfl⟩ := stopped_error exited
          simp only [exited] at ends
          have unstopped : ¬ (calls.wait = none → calls.kill = none) := by
            rw [← stopped_ok_iff, exited]
            simp
          rw [contract_iff_of_left ends]
          constructor
          · intro remove _
            exact ⟨fun kept => by simp [remove] at kept, fun stops => absurd stops unstopped⟩
          · intro sound
            by_contra kept
            exact unstopped ((sound started).1 (by simpa using kept)).1
      | ok code =>
          have stops := (stopped_ok_iff calls).mp ⟨code, exited⟩
          cases read : collected calls with
          | ok text =>
              obtain ⟨bytes, given, valid⟩ := (collected_ok_iff calls).mp ⟨text, read⟩
              refine iff_of_true (contract_of_collected started exited read) fun _ => ?_
              refine ⟨fun _ => ⟨stops, bytes, given⟩, fun _ other same => ?_⟩
              exact Except.ok.inj (given.symm.trans same) ▸ valid
          | error failure =>
              simp only [exited, read] at ends
              rcases collected_error read with
                ⟨message, rfl, refused⟩ | ⟨rfl, bytes, given, invalid⟩
              · rw [contract_iff_of_left ends]
                constructor
                · intro remove _
                  exact ⟨fun kept => by simp [remove] at kept, fun _ => by simp [refused]⟩
                · intro sound
                  by_contra kept
                  obtain ⟨bytes, given⟩ := ((sound started).1 (by simpa using kept)).2
                  simp [refused] at given
              · refine iff_of_false (fun contract => ?_) fun sound => ?_
                · obtain ⟨result, returned⟩ := contract.returns
                  rw [run_eq, ends] at returned
                  cases returned
                · exact invalid ((sound started).2 stops bytes given)

def Sample.nightly : RunArgs String :=
  { cmd := "lab exec local", image := "nuxion/labfunctions" }

/-- A container that exits while it is killed is left behind, and logs in another encoding are
not decoded. -/
theorem container_left :
    ¬ Contract { wait := none, kill := some "is not running" } Sample.nightly ∧
      ¬ Contract { logs := .ok ⟨#[0xff]⟩ } Sample.nightly := by
  constructor
  · intro contract
    rcases contract.removed rfl with gone | ⟨removals, _⟩
    · cases gone
    · exact absurd removals (by decide)
  · intro contract
    obtain ⟨result, returned⟩ := contract.returns
    have undecoded : String.fromUTF8? ⟨#[0xff]⟩ = none := by decide
    rw [run_eq, run_body] at returned
    simp [stopped, collected, undecoded, handler] at returned

end DockerRuns

end LabFunctions
