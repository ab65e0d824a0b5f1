import LabFunctions.LabStates
import LabFunctions.WorkflowsCore

/-!
`client.workflows_client`: a client pushes the workflows of its lab file, which the server gives
their ids, and records the ids in the file. Any request may fail.
-/

namespace LabFunctions

structure WFCreateRsp where
  status_code : Nat
  alias_ : String
  msg : Option String := none
  wfid : Option String := none

structure WFPushRsp where
  created : List WFCreateRsp := []
  errors : List WFCreateRsp := []

namespace WorkflowsPush

open LabState Runs Workflows

/-- What the client sees of a request. The body of an answer is `none` where it is not JSON, and
else its `msg` and its `wfid`. -/
inductive Seen where
  | connectionError
  | answer (status_code : Nat) (body : Option (Option String × Option String))

def Seen.Fails : Seen → Prop
  | connectionError => True
  | answer status_code body => 500 ≤ status_code ∨ body = none

/-- A request that fails may have been handled by the server. -/
inductive Fault where
  | answered
  | failed (handled : Bool) (seen : Seen) (fails : seen.Fails)

/-- A call of `workflows_push(refresh_workflows=True, update=False)`, by a client that is made from
the lab file or by the one at hand, with the lab file as `wf_file` or without. The requests are
named by the entries they are made for. -/
structure Call where
  fresh : Bool
  wf_file : Bool
  fault : String → Fault
  env : String → Env

inductive PushExn where
  | workflowRegisterClientError (project : Option String) (wfid : String)
  | connectError
  | jsonDecodeError
  | validationError
  | typeError (message : String)

def seenOf (response : Response) : Seen :=
  .answer response.status (some (match response.body with
    | .msg text => (some text, none)
    | .wfid wfid => (none, wfid)
    | .ctx _ => (none, none)))

def projectid (client : LabState) : String :=
  (client.project.map ProjectData.projectid).getD "None"

def post (call : Call) (projectid : String) (entry : String × Marked.WorkflowDataWeb)
    (server : Server) : Seen × Server :=
  let (response, handledServer) :=
    workflow_create (call.env entry.1) server projectid (some entry.2.values)
  match call.fault entry.1 with
  | .answered => (seenOf response, handledServer)
  | .failed handled seen _ => (seen, if handled then handledServer else server)

def workflows_create (projectid : String) (wd : Marked.WorkflowDataWeb) :
    Seen → Except PushExn WFCreateRsp
  | .connectionError => .error .connectError
  | .answer code body =>
      -- the id stands where the error takes the project
      if code = 400 ∨ code = 503 then .error (.workflowRegisterClientError wd.wfid.value projectid)
      else
        match body with
        | none => .error .jsonDecodeError
        | some (msg, wfid) => .ok ⟨code, wd.alias_, msg, wfid⟩

/-- The variables of the loop of `workflows_push`, and the exception that has left it. -/
structure Push where
  client : LabState
  server : Server
  created : List WFCreateRsp := []
  errors : List WFCreateRsp := []
  raised : Option PushExn := none

def errorOf (wd : Marked.WorkflowDataWeb) (status_code : Nat) : WFCreateRsp :=
  { wfid := wd.wfid.value, alias_ := wd.alias_, status_code := status_code }

/-- One turn of the loop, over the entries of the snapshot. -/
def turn (call : Call) (push : Push) (entry : String × Marked.WorkflowDataWeb) : Push :=
  if push.raised.isSome || truthy entry.2.wfid.value then push
  else
    let (seen, server) := post call (projectid push.client) entry push.server
    match workflows_create (projectid push.client) entry.2 seen with
    | .ok wr =>
        if wr.status_code = 200 then { push with server := server }
        else if wr.status_code = 201 then
          { push with
            server := server
            created := push.created ++ [wr]
            client := push.client.add_workflow (entry.2.assign (.wfid wr.wfid)) }
        else
          { push with
            server := server
            errors := push.errors ++ [errorOf entry.2 wr.status_code] }
    | .error (.workflowRegisterClientError _ _) =>
        { push with server := server, errors := push.errors ++ [errorOf entry.2 503] }
    | .error failure => { push with server := server, raised := some failure }

structure Session (Text : Type) where
  client : LabState
  disk : Disk Text
  server : Server

section Session

variable {Text : Type} (yaml : Yaml Text) (fp : String)

def opened (call : Call) (session : Session Text) : Session Text :=
  if call.fresh then
    match from_file yaml session.disk fp with
    | some client => { session with client := client }
    | none => session
  else session

structure Pushed (Text : Type) where
  result : Except PushExn WFPushRsp
  received : List WFCreateRsp
  session : Session Text

def loop (call : Call) (session : Session Text) (workflows : List (String × Marked.WorkflowDataWeb)) :
    Push :=
  run (turn call) { client := session.client, server := session.server } workflows

def finish (call : Call) (disk : Disk Text) (push : Push) : Pushed Text :=
  let left : Session Text := { client := push.client, disk := disk, server := push.server }
  match push.raised with
  | some failure => ⟨.error failure, push.created, left⟩
  | none =>
      if call.wf_file then
        match push.client.write yaml disk fp with
        | some written => ⟨.ok ⟨push.created, push.errors⟩, push.created, { left with disk := written }⟩
        | none => ⟨.error .validationError, push.created, left⟩
      else
        ⟨.error (.typeError "expected str, bytes or os.PathLike object, not NoneType"),
          push.created, left⟩

def workflows_push (call : Call) (session : Session Text) : Pushed Text :=
  match session.client.snapshot with
  | none => ⟨.error .validationError, [], session⟩
  | some _workflows =>
      finish yaml fp call session.disk (loop call session (_workflows.workflows.getD []))

def pushed (session : Session Text) (call : Call) : Pushed Text :=
  workflows_push yaml fp call (opened yaml fp call session)

def step (session : Session Text) (call : Call) : Session Text :=
  (pushed yaml fp session call).session

end Session

/-! What the lab file records, against what the server has. -/

def entries (lab : LabState) : List (String × WorkflowDataWeb) :=
  lab.workflows.map fun entry => (entry.1, entry.2.values)

/-- Every workflow of the lab file that is on the server, by its alias, has the id it has there. -/
def Known (lab : LabState) (server : Server) : Prop :=
  ∀ entry ∈ entries lab, ∀ row ∈ server.db.workflows.rows,
    row.project_id = some (projectid lab) → row.alias_ = entry.2.alias_ →
      entry.2.wfid = some row.wfid

/-- A lab file whose workflows are a dictionary, and that has a project. -/
structure Filed (lab : LabState) : Prop where
  distinct : ((entries lab).map Prod.fst).Nodup
  present : lab.project.isSome = true

def Aliased (lab : LabState) : Prop := ∀ entry ∈ entries lab, entry.1 = entry.2.alias_

/-- A lab file as `add_workflow` writes it: each workflow stands under its alias. -/
structure Named (lab : LabState) : Prop extends Filed lab where
  aliased : Aliased lab

/-- The workflows of an alias stand under it, and nowhere else. -/
def Placed (lab : LabState) (alias_ : String) : Prop :=
  ∀ entry ∈ entries lab, entry.2.alias_ = alias_ → entry.1 = alias_

section Claims

variable {Text : Type} (yaml : Yaml Text) (fp : String)

def Recorded (session : Session Text) : Prop :=
  ∃ lab, from_file yaml session.disk fp = some lab ∧ Known lab session.server

/-- A call that raises leaves the ids it has received in the lab file. -/
def KeepsReceived (session : Session Text) (call : Call) : Prop :=
  ∀ failure, (pushed yaml fp session call).result = .error failure →
    ∀ wr ∈ (pushed yaml fp session call).received,
      ∃ lab, from_file yaml (step yaml fp session call).disk fp = some lab ∧
        ∃ entry ∈ entries lab, entry.2.alias_ = wr.alias_ ∧ entry.2.wfid = wr.wfid

def Converges (session : Session Text) (calls : List Call) : Prop :=
  (∀ before call after, calls = before ++ call :: after →
    KeepsReceived yaml fp (run (step yaml fp) session before) call) ∧
  Recorded yaml fp (run (step yaml fp) session calls)

/-! The turns that do no harm. -/

def Seen.Interrupts : Seen → Prop
  | connectionError => True
  | answer status_code body => status_code ≠ 400 ∧ status_code ≠ 503 ∧ body = none

/-- A request that creates a workflow is answered, in a call that has the lab file to write and for
a workflow that stands under its alias, and no request interrupts a call that has received an id. -/
def Spared (call : Call) (push : Push) (entry : String × Marked.WorkflowDataWeb) : Prop :=
  push.raised = none → truthy entry.2.wfid.value = false →
    let inserts :=
      Inserts (call.env entry.1) push.server.db (projectid push.client) entry.2.values
    match call.fault entry.1 with
    | .answered => inserts → call.wf_file = true ∧ Placed push.client entry.2.alias_
    | .failed handled seen _ => (handled = true → ¬inserts) ∧ (seen.Interrupts → push.created = [])

def Meets (session : Session Text) (call : Call) : Prop :=
  let client := (opened yaml fp call session).client
  Along (turn call) (Spared call) { client := client, server := session.server } client.workflows

structure Start where
  client : LabState
  disk : Disk Text
  server : Server
  loaded : from_file yaml disk fp = some client
  distinct : ((entries client).map Prod.fst).Nodup

end Claims

/-! What a request does on the server. -/

theorem scheduleRegistered_db (env : Env) (server : Server) (projectid : String)
    (wfd : WorkflowDataWeb) : (scheduleRegistered env server projectid wfd).db = server.db := by
  unfold scheduleRegistered
  split <;> rfl

section Create

variable {env : Env} {server : Server} {project : String} {wfd : WorkflowDataWeb}

theorem create_inserts (inserts : Inserts env server.db project wfd) :
    ∃ later, workflow_create env server project (some wfd) =
        (⟨201, .wfid (some env.wfid.text)⟩, later) ∧
      later.db.workflows.rows =
        server.db.workflows.rows ++ [WorkflowsMg.newRow env project wfd] := by
  obtain ⟨⟨wfid, db⟩, registered⟩ := (register_insert_iff env server.db project wfd).mpr inserts
  obtain ⟨rfl, _, rows⟩ := WorkflowsMg.register_insert_ok registered
  have answer : workflow_create env server project (some wfd) =
      (⟨201, .wfid (some env.wfid.text)⟩, scheduleRegistered env { server with db := db } project
        { wfd with wfid := some env.wfid.text }) := by
    simp only [workflow_create, registered]
  refine ⟨_, answer, ?_⟩
  rw [scheduleRegistered_db]
  exact rows

theorem create_refused (refused : ¬Inserts env server.db project wfd) :
    ∃ status text, workflow_create env server project (some wfd) =
        (⟨status, .msg text⟩, server) ∧ (status = 200 ∨ status = 500) := by
  cases registered : WorkflowsMg.register env server.db project wfd with
  | ok result =>
      exact absurd ((register_insert_iff env server.db project wfd).mp ⟨result, registered⟩) refused
  | error failure =>
      simp only [workflow_create, registered]
      split
      · rename_i kind
        simp at kind
      · exact ⟨200, _, rfl, .inl rfl⟩
      · exact ⟨500, _, rfl, .inr rfl⟩

theorem rows_create (env : Env) (server : Server) (project : String) (wfd : WorkflowDataWeb) :
    ∀ row ∈ server.db.workflows.rows,
      row ∈ (workflow_create env server project (some wfd)).2.db.workflows.rows := by
  intro row member
  by_cases inserts : Inserts env server.db project wfd
  · obtain ⟨later, created, rows⟩ := create_inserts inserts
    rw [created, rows]
    exact List.mem_append_left _ member
  · obtain ⟨status, text, answered, _⟩ := create_refused inserts
    rw [answered]
    exact member

theorem not_inserts_of_row {row : WorkflowModel} (member : row ∈ server.db.workflows.rows)
    (project_id : row.project_id = some project) (alias_ : row.alias_ = wfd.alias_) :
    ¬Inserts env server.db project wfd := by
  rintro ⟨_, _, aliases, _⟩
  have key : WorkflowModel.aliasKey row =
      WorkflowModel.aliasKey (WorkflowsMg.newRow env project wfd) := by
    simp [WorkflowModel.aliasKey, WorkflowsMg.newRow, project_id, alias_]
  have new : WorkflowModel.aliasKey (WorkflowsMg.newRow env project wfd) =
      some (wfd.alias_, project) := rfl
  exact ((Distinct.append_singleton_iff _).mp aliases).2 _ new row member (key.trans new)

end Create

/-! What one turn of the loop does. -/

section Turn

variable {call : Call} {push : Push} {entry : String × Marked.WorkflowDataWeb}

def Push.Inserts (push : Push) (call : Call) (entry : String × Marked.WorkflowDataWeb) : Prop :=
  Workflows.Inserts (call.env entry.1) push.server.db (projectid push.client) entry.2.values

theorem turn_skip (skipped : push.raised ≠ none ∨ truthy entry.2.wfid.value = true) :
    turn call push entry = push := by
  have condition : (push.raised.isSome || truthy entry.2.wfid.value) = true := by
    rcases skipped with raised | recorded
    · rw [Option.isSome_iff_ne_none.mpr raised, Bool.true_or]
    · rw [recorded, Bool.or_true]
  rw [turn, if_pos condition]

theorem turn_created (open_ : push.raised = none) (unnamed : truthy entry.2.wfid.value = false)
    (answered : call.fault entry.1 = .answered) (inserts : push.Inserts call entry) :
    ∃ server, turn call push entry = { push with
        server := server
        created := push.created ++
          [⟨201, entry.2.alias_, none, some (call.env entry.1).wfid.text⟩]
        client := push.client.add_workflow
          (entry.2.assign (.wfid (some (call.env entry.1).wfid.text))) } ∧
      server.db.workflows.rows = push.server.db.workflows.rows ++
        [WorkflowsMg.newRow (call.env entry.1) (projectid push.client) entry.2.values] := by
  obtain ⟨server, created, rows⟩ := create_inserts inserts
  refine ⟨server, ?_, rows⟩
  simp [turn, open_, unnamed, post, answered, created, seenOf, workflows_create]

theorem turn_refused (open_ : push.raised = none) (unnamed : truthy entry.2.wfid.value = false)
    (answered : call.fault entry.1 = .answered) (refused : ¬push.Inserts call entry) :
    ∃ errors, turn call push entry = { push with errors := errors } := by
  obtain ⟨status, text, response, outcome⟩ := create_refused refused
  rcases outcome with rfl | rfl
  · refine ⟨push.errors, ?_⟩
    simp [turn, open_, unnamed, post, answered, response, seenOf, workflows_create]
  · refine ⟨push.errors ++ [errorOf entry.2 500], ?_⟩
    simp [turn, open_, unnamed, post, answered, response, seenOf, workflows_create]

/-- A failed request records nothing, whatever it has done on the server. -/
theorem turn_failed (open_ : push.raised = none) (unnamed : truthy entry.2.wfid.value = false)
    {handled : Bool} {seen : Seen} {fails : seen.Fails}
    (failed : call.fault entry.1 = .failed handled seen fails) :
    ∃ errors raised, turn call push entry = { push with
        server := if handled then (workflow_create (call.env entry.1) push.server
          (projectid push.client) (some entry.2.values)).2 else push.server
        errors := errors
        raised := raised } ∧
      (raised ≠ none ↔ seen.Interrupts) := by
  cases seen with
  | connectionError =>
      refine ⟨push.errors, some .connectError, ?_, by simp [Seen.Interrupts]⟩
      simp [turn, open_, unnamed, post, failed, workflows_create]
  | answer status body =>
      by_cases register : status = 400 ∨ status = 503
      · refine ⟨push.errors ++ [errorOf entry.2 503], none, ?_, ?_⟩
        · simp [turn, open_, unnamed, post, failed, workflows_create, register]
        · have passed : ¬(status ≠ 400 ∧ status ≠ 503 ∧ body = none) := by
            rintro ⟨first, second, _⟩
            exact register.elim first second
          simp [Seen.Interrupts] at passed ⊢
          exact passed
      · cases body with
        | none =>
            refine ⟨push.errors, some .jsonDecodeError, ?_, ?_⟩
            · simp [turn, open_, unnamed, post, failed, workflows_create, register]
            · rw [not_or] at register
              simp [Seen.Interrupts, register]
        | some body =>
            have late : 500 ≤ status := by simpa [Seen.Fails] using fails
            have other : status ≠ 200 ∧ status ≠ 201 := by omega
            refine ⟨push.errors ++ [errorOf entry.2 status], none, ?_, by simp [Seen.Interrupts]⟩
            simp [turn, open_, unnamed, post, failed, workflows_create, register, other]

/-- All that a turn can come to. -/
inductive Turned (call : Call) (push : Push) (entry : String × Marked.WorkflowDataWeb) :
    Push → Prop where
  | skipped (skipped : push.raised ≠ none ∨ truthy entry.2.wfid.value = true) :
      Turned call push entry push
  | created (open_ : push.raised = none) (unnamed : truthy entry.2.wfid.value = false)
      (answered : call.fault entry.1 = .answered) (inserts : push.Inserts call entry)
      (server : Server) (rows : server.db.workflows.rows = push.server.db.workflows.rows ++
        [WorkflowsMg.newRow (call.env entry.1) (projectid push.client) entry.2.values]) :
      Turned call push entry { push with
        server := server
        created := push.created ++
          [⟨201, entry.2.alias_, none, some (call.env entry.1).wfid.text⟩]
        client := push.client.add_workflow
          (entry.2.assign (.wfid (some (call.env entry.1).wfid.text))) }
  | refused (answered : call.fault entry.1 = .answered) (refused : ¬push.Inserts call entry)
      (errors : List WFCreateRsp) : Turned call push entry { push with errors := errors }
  | failed (open_ : push.raised = none) (unnamed : truthy entry.2.wfid.value = false)
      (handled : Bool) (seen : Seen) (fails : seen.Fails)
      (fault : call.fault entry.1 = .failed handled seen fails) (errors : List WFCreateRsp)
      (raised : Option PushExn) (interrupted : raised ≠ none ↔ seen.Interrupts) :
      Turned call push entry { push with
        server := if handled then (workflow_create (call.env entry.1) push.server
          (projectid push.client) (some entry.2.values)).2 else push.server
        errors := errors
        raised := raised }

theorem turned (call : Call) (push : Push) (entry : String × Marked.WorkflowDataWeb) :
    Turned call push entry (turn call push entry) := by
  by_cases skipped : push.raised ≠ none ∨ truthy entry.2.wfid.value = true
  · rw [turn_skip skipped]
    exact .skipped skipped
  · rw [not_or, not_not, Bool.not_eq_true] at skipped
    obtain ⟨open_, unnamed⟩ := skipped
    cases fault : call.fault entry.1 with
    | answered =>
        by_cases inserts : push.Inserts call entry
        · obtain ⟨server, after, rows⟩ := turn_created open_ unnamed fault inserts
          rw [after]
          exact .created open_ unnamed fault inserts server rows
        · obtain ⟨errors, after⟩ := turn_refused open_ unnamed fault inserts
          rw [after]
          exact .refused fault inserts errors
    | failed handled seen fails =>
        obtain ⟨errors, raised, after, interrupted⟩ := turn_failed open_ unnamed fault
        rw [after]
        exact .failed open_ unnamed handled seen fails fault errors raised interrupted

end Turn

/-! What the loop keeps, turn by turn. -/

theorem entries_add_workflow (client : LabState) (wd : Marked.WorkflowDataWeb) (wfid : Option String) :
    entries (client.add_workflow (wd.assign (.wfid wfid))) =
      Dict.set (entries client) wd.alias_ { wd.values with wfid := wfid } :=
  Dict.map_set Marked.WorkflowDataWeb.values client.workflows wd.alias_ _

theorem Known.mono {lab : LabState} {server later : Server} (known : Known lab later)
    (grown : ∀ row ∈ server.db.workflows.rows, row ∈ later.db.workflows.rows) :
    Known lab server :=
  fun entry member row inside => known entry member row (grown row inside)

section Turns

variable {call : Call} {push : Push} {entry : String × Marked.WorkflowDataWeb}

theorem rows_turn (call : Call) (push : Push) (entry : String × Marked.WorkflowDataWeb) :
    ∀ row ∈ push.server.db.workflows.rows, row ∈ (turn call push entry).server.db.workflows.rows := by
  intro row member
  have done := turned call push entry
  generalize turn call push entry = after at done ⊢
  cases done with
  | skipped | refused => exact member
  | created _ _ _ _ server rows =>
      rw [rows]
      exact List.mem_append_left _ member
  | failed _ _ handled =>
      cases handled with
      | true => exact rows_create _ _ _ _ row member
      | false => exact member

/-- Either a turn leaves the client and what was received as they are, or it records the id of a
workflow that it has created. -/
theorem client_turn (call : Call) (push : Push) (entry : String × Marked.WorkflowDataWeb) :
    ((turn call push entry).client = push.client ∧
        (turn call push entry).created = push.created) ∨
      push.raised = none ∧ truthy entry.2.wfid.value = false ∧ call.fault entry.1 = .answered ∧
        push.Inserts call entry := by
  have done := turned call push entry
  generalize turn call push entry = after at done ⊢
  cases done with
  | skipped | refused | failed => exact .inl ⟨rfl, rfl⟩
  | created open_ unnamed answered inserts => exact .inr ⟨open_, unnamed, answered, inserts⟩

/-- What any turn keeps. -/
structure Sound (start : LabState) (push : Push) : Prop where
  filed : Filed push.client
  project : push.client.project = start.project

/-- What it keeps besides of a file in which each workflow stands under its alias. -/
structure Tidy (start : LabState) (push : Push) : Prop extends Sound start push where
  aliased : Aliased push.client
  received : ∀ wr ∈ push.created, truthy wr.wfid = true ∧
    ∀ entry ∈ entries start, entry.2.alias_ = wr.alias_ → truthy entry.2.wfid = false

theorem truthy_nanoid (drawn : NanoId Defaults.WFID_LEN) : truthy (some drawn.text) = true := by
  apply truthy_iff.mpr
  refine ⟨_, rfl, ?_⟩
  intro empty
  have length := drawn.length
  rw [empty] at length
  exact absurd length (by decide)

theorem entry_of_alias {lab : LabState} (named : Named lab) {left right : String × WorkflowDataWeb}
    (first : left ∈ entries lab) (second : right ∈ entries lab)
    (same : left.2.alias_ = right.2.alias_) : left = right := by
  apply List.inj_on_of_nodup_map named.distinct first second
  rw [named.aliased left first, named.aliased right second, same]

theorem Aliased.placed {lab : LabState} (aliased : Aliased lab) (alias_ : String) :
    Placed lab alias_ :=
  fun entry member same => (aliased entry member).trans same

theorem nodup_workflows {lab : LabState} (filed : Filed lab) :
    (lab.workflows.map Prod.fst).Nodup := by
  have names := filed.distinct
  rw [entries, List.map_map] at names
  exact names

theorem mem_entries {lab : LabState} (member : entry ∈ lab.workflows) :
    (entry.1, entry.2.values) ∈ entries lab :=
  List.mem_map.mpr ⟨entry, member, rfl⟩

theorem sound_turn {start : LabState} (sound : Sound start push) :
    Sound start (turn call push entry) := by
  rcases client_turn call push entry with ⟨client, _⟩ | ⟨open_, unnamed, answered, inserts⟩
  · exact ⟨client ▸ sound.filed, client ▸ sound.project⟩
  · obtain ⟨server, after, _⟩ := turn_created open_ unnamed answered inserts
    rw [after]
    refine ⟨⟨?_, sound.filed.present⟩, sound.project⟩
    rw [entries_add_workflow]
    exact Dict.nodup_set _ _ sound.filed.distinct

theorem tidy_turn {start : LabState} (starts : Named start) (member : entry ∈ start.workflows)
    (tidy : Tidy start push) : Tidy start (turn call push entry) := by
  refine ⟨sound_turn tidy.toSound, ?_, ?_⟩
  all_goals
    rcases client_turn call push entry with ⟨client, created⟩ | ⟨open_, unnamed, answered, inserts⟩
  · exact client ▸ tidy.aliased
  · obtain ⟨server, after, _⟩ := turn_created open_ unnamed answered inserts
    rw [after]
    intro other inside
    rw [entries_add_workflow, Dict.mem_set_iff tidy.filed.distinct] at inside
    rcases inside with rfl | ⟨inside, _⟩
    · rfl
    · exact tidy.aliased other inside
  · exact created ▸ tidy.received
  · obtain ⟨server, after, _⟩ := turn_created open_ unnamed answered inserts
    rw [after]
    intro wr inside
    rcases List.mem_append.mp inside with old | new
    · exact tidy.received wr old
    · obtain rfl := List.mem_singleton.mp new
      refine ⟨truthy_nanoid _, ?_⟩
      intro other inside same
      rw [entry_of_alias starts inside (mem_entries member) same]
      exact unnamed

/-- A turn makes nothing known that was not. -/
theorem known_of_turn {start : LabState} (tidy : Tidy start push)
    (known : Known (turn call push entry).client (turn call push entry).server) :
    Known push.client push.server := by
  rcases client_turn call push entry with ⟨client, _⟩ | ⟨open_, unnamed, answered, inserts⟩
  · rw [client] at known
    exact known.mono (rows_turn call push entry)
  · obtain ⟨server, after, rows⟩ := turn_created open_ unnamed answered inserts
    rw [after] at known
    intro other inside row member project_id alias_
    have apart : other.1 ≠ entry.2.alias_ := by
      intro same
      have ownAlias : row.alias_ = entry.2.values.alias_ := by
        rw [alias_, ← tidy.aliased other inside, same]
        rfl
      exact not_inserts_of_row member project_id ownAlias inserts
    have kept : other ∈ entries (push.client.add_workflow
        (entry.2.assign (.wfid (some (call.env entry.1).wfid.text)))) := by
      rw [entries_add_workflow, Dict.mem_set_iff tidy.filed.distinct]
      exact .inr ⟨inside, apart⟩
    have also : row ∈ server.db.workflows.rows := by
      rw [rows]
      exact List.mem_append_left _ member
    exact known other kept row also project_id alias_

end Turns

/-! The loop as a whole. -/

section Loop

variable {call : Call} {push : Push} {start : LabState} {rest : List (String × Marked.WorkflowDataWeb)}

theorem sound_loop (sound : Sound start push) (rest : List (String × Marked.WorkflowDataWeb)) :
    Sound start (run (turn call) push rest) :=
  run_kept (fun (push : Push) _ (sound : Sound start push) => sound_turn sound) sound rest

theorem tidy_loop (starts : Named start) (inside : ∀ entry ∈ rest, entry ∈ start.workflows)
    (tidy : Tidy start push) : Tidy start (run (turn call) push rest) := by
  induction rest generalizing push with
  | nil => exact tidy
  | cons entry rest ih =>
      rw [run_cons]
      apply ih (fun other later => inside other (List.mem_cons_of_mem _ later))
      exact tidy_turn starts (inside entry (List.mem_cons_self ..)) tidy

theorem rows_loop (call : Call) (push : Push) (rest : List (String × Marked.WorkflowDataWeb)) :
    ∀ row ∈ push.server.db.workflows.rows,
      row ∈ (run (turn call) push rest).server.db.workflows.rows := by
  intro row member
  exact run_kept (fun (push : Push) entry (inside : row ∈ push.server.db.workflows.rows) =>
    rows_turn call push entry row inside) member rest

theorem known_of_loop (starts : Named start) (inside : ∀ entry ∈ rest, entry ∈ start.workflows)
    (tidy : Tidy start push)
    (known : Known (run (turn call) push rest).client (run (turn call) push rest).server) :
    Known push.client push.server := by
  induction rest generalizing push with
  | nil => exact known
  | cons entry rest ih =>
      have next : Tidy start (turn call push entry) :=
        tidy_turn starts (inside entry (List.mem_cons_self ..)) tidy
      have later := ih (fun other later => inside other (List.mem_cons_of_mem _ later)) next known
      exact known_of_turn tidy later

theorem raised_turn (call : Call) (push : Push) (entry : String × Marked.WorkflowDataWeb)
    (raised : push.raised ≠ none) : (turn call push entry).raised ≠ none := by
  rw [turn_skip (.inl raised)]
  exact raised

theorem created_turn (call : Call) (push : Push) (entry : String × Marked.WorkflowDataWeb)
    (created : push.created ≠ []) : (turn call push entry).created ≠ [] := by
  rcases client_turn call push entry with ⟨_, same⟩ | ⟨open_, unnamed, answered, inserts⟩
  · rw [same]
    exact created
  · obtain ⟨server, after, _⟩ := turn_created open_ unnamed answered inserts
    rw [after]
    simp

/-- What the turns that do no harm keep besides. -/
structure Faithful (start : LabState) (call : Call) (push : Push) : Prop where
  known : Known push.client push.server
  untouched : push.created = [] → push.client = start
  written : push.created ≠ [] → call.wf_file = true
  safe : push.raised ≠ none → push.created = []

theorem known_of_created {entry : String × Marked.WorkflowDataWeb} (sound : Sound start push)
    (known : Known push.client push.server) (inserts : push.Inserts call entry)
    (placed : Placed push.client entry.2.alias_) {server : Server}
    (rows : server.db.workflows.rows = push.server.db.workflows.rows ++
      [WorkflowsMg.newRow (call.env entry.1) (projectid push.client) entry.2.values]) :
    Known (push.client.add_workflow
      (entry.2.assign (.wfid (some (call.env entry.1).wfid.text)))) server := by
  intro other inside row member project_id alias_
  rw [entries_add_workflow, Dict.mem_set_iff sound.filed.distinct] at inside
  rw [rows, List.mem_append, List.mem_singleton] at member
  rcases inside with rfl | ⟨inside, apart⟩
  · rcases member with old | rfl
    · exact absurd inserts (not_inserts_of_row old project_id alias_)
    · rfl
  · rcases member with old | rfl
    · exact known other inside row old project_id alias_
    · exact absurd (placed other inside alias_.symm) apart

theorem faithful_turn {entry : String × Marked.WorkflowDataWeb} (sound : Sound start push)
    (faithful : Faithful start call push) (spared : Spared call push entry) :
    Faithful start call (turn call push entry) := by
  have done := turned call push entry
  generalize turn call push entry = after at done ⊢
  cases done with
  | skipped => exact faithful
  | refused =>
      exact ⟨faithful.known, faithful.untouched, faithful.written, faithful.safe⟩
  | created open_ unnamed answered inserts server rows =>
      have met := spared open_ unnamed
      simp only [answered] at met
      obtain ⟨given, placed⟩ := met inserts
      refine ⟨known_of_created sound faithful.known inserts placed rows, ?_, fun _ => given, ?_⟩
      · intro none
        simp at none
      · intro raised
        exact absurd open_ raised
  | failed open_ unnamed handled seen fails fault errors raised interrupted =>
      have met := spared open_ unnamed
      simp only [fault] at met
      refine ⟨?_, faithful.untouched, faithful.written, fun some => met.2 (interrupted.mp some)⟩
      cases handled with
      | false => exact faithful.known
      | true =>
          obtain ⟨status, text, response, _⟩ := create_refused (met.1 rfl)
          simp only [response, if_true]
          exact faithful.known

theorem faithful_loop (sound : Sound start push) (faithful : Faithful start call push)
    (along : Along (turn call) (Spared call) push rest) :
    Faithful start call (run (turn call) push rest) := by
  induction rest generalizing push with
  | nil => exact faithful
  | cons entry rest ih =>
      exact ih (sound_turn sound) (faithful_turn sound faithful along.1) along.2

/-! A turn that does harm, which nothing afterwards repairs. -/

theorem kept_turn {entry other : String × Marked.WorkflowDataWeb} (starts : Named start)
    (sound : Sound start push) (member : entry ∈ start.workflows)
    (inside : other ∈ push.client.workflows) (apart : other.1 ≠ entry.1) :
    other ∈ (turn call push entry).client.workflows := by
  rcases client_turn call push entry with ⟨same, _⟩ | ⟨open_, unnamed, answered, inserts⟩
  · rw [same]
    exact inside
  · obtain ⟨server, after, _⟩ := turn_created open_ unnamed answered inserts
    have named : entry.1 = entry.2.alias_ := starts.aliased _ (mem_entries member)
    rw [after]
    exact (Dict.mem_set_iff (nodup_workflows sound.filed)).mpr (.inr ⟨inside, named ▸ apart⟩)

theorem unknown_of_unanswered {lab : LabState} {entry : String × Marked.WorkflowDataWeb}
    {env : Env} {server later : Server} (member : entry ∈ lab.workflows)
    (unnamed : truthy entry.2.wfid.value = false)
    (rows : later.db.workflows.rows = server.db.workflows.rows ++
      [WorkflowsMg.newRow env (projectid lab) entry.2.values]) : ¬Known lab later := by
  intro known
  have new : WorkflowsMg.newRow env (projectid lab) entry.2.values ∈ later.db.workflows.rows := by
    rw [rows]
    exact List.mem_append_right _ (List.mem_singleton.mpr rfl)
  have recorded : entry.2.wfid.value = some env.wfid.text :=
    known _ (mem_entries member) _ new rfl rfl
  rw [recorded, truthy_nanoid] at unnamed
  exact absurd unnamed (by decide)

/-- Neither the client nor the file it was made from knows a workflow of the server. -/
def Astray (start : LabState) (push : Push) : Prop :=
  ¬Known push.client push.server ∧ ¬Known start push.server

/-- Ids have been received in a call that does not come to write them. -/
def Dropped (call : Call) (push : Push) : Prop :=
  push.created ≠ [] ∧ (push.raised ≠ none ∨ call.wf_file = false)

theorem harm_turn {entry : String × Marked.WorkflowDataWeb} (tidy : Tidy start push)
    (member : entry ∈ start.workflows) (inside : entry ∈ push.client.workflows)
    (harmed : ¬Spared call push entry) :
    Astray start (turn call push entry) ∨ Dropped call (turn call push entry) := by
  unfold Spared at harmed
  simp only [Classical.not_imp] at harmed
  obtain ⟨open_, unnamed, harmed⟩ := harmed
  cases fault : call.fault entry.1 with
  | answered =>
      simp only [fault, Classical.not_imp, not_and_or] at harmed
      obtain ⟨inserts, without⟩ := harmed
      replace without := without.resolve_right (not_not.mpr (tidy.aliased.placed entry.2.alias_))
      obtain ⟨server, after, _⟩ := turn_created open_ unnamed fault inserts
      refine .inr ⟨?_, .inr (Bool.not_eq_true _ ▸ without)⟩
      rw [after]
      simp
  | failed handled seen fails =>
      simp only [fault] at harmed
      obtain ⟨errors, raised, after, interrupted⟩ := turn_failed open_ unnamed fault
      by_cases hidden : handled = true ∧ push.Inserts call entry
      · obtain ⟨handled, inserts⟩ := hidden
        obtain ⟨server, created, rows⟩ := create_inserts inserts
        have same : projectid push.client = projectid start := by
          rw [projectid, projectid, tidy.project]
        have ownRows := rows
        rw [same] at ownRows
        rw [after, handled]
        simp only [created, if_true]
        exact .inl ⟨unknown_of_unanswered inside unnamed rows,
          unknown_of_unanswered member unnamed ownRows⟩
      · have interrupts : seen.Interrupts ∧ push.created ≠ [] := by
          by_contra calm
          apply harmed
          refine ⟨fun handled inserts => hidden ⟨handled, inserts⟩, ?_⟩
          intro interrupts
          by_contra some
          exact calm ⟨interrupts, some⟩
        rw [after]
        exact .inr ⟨interrupts.2, .inl (interrupted.mpr interrupts.1)⟩

theorem astray_loop (starts : Named start) (inside : ∀ entry ∈ rest, entry ∈ start.workflows)
    (tidy : Tidy start push) (astray : Astray start push) :
    Astray start (run (turn call) push rest) :=
  ⟨fun known => astray.1 (known_of_loop starts inside tidy known),
    fun known => astray.2 (known.mono (rows_loop call push rest))⟩

theorem dropped_loop (dropped : Dropped call push) : Dropped call (run (turn call) push rest) := by
  apply run_kept _ dropped
  rintro push entry ⟨created, unwritten⟩
  exact ⟨created_turn call push entry created,
    unwritten.imp_left (raised_turn call push entry)⟩

theorem harm_loop (starts : Named start) (inside : ∀ entry ∈ rest, entry ∈ start.workflows)
    (within : ∀ entry ∈ rest, entry ∈ push.client.workflows)
    (distinct : (rest.map Prod.fst).Nodup) (tidy : Tidy start push)
    (harmed : ¬Along (turn call) (Spared call) push rest) :
    Astray start (run (turn call) push rest) ∨ Dropped call (run (turn call) push rest) := by
  induction rest generalizing push with
  | nil => exact absurd trivial harmed
  | cons entry rest ih =>
      have member := inside entry (List.mem_cons_self ..)
      have later : ∀ other ∈ rest, other ∈ start.workflows :=
        fun other found => inside other (List.mem_cons_of_mem _ found)
      have next : Tidy start (turn call push entry) := tidy_turn starts member tidy
      obtain ⟨fresh, others⟩ := List.nodup_cons.mp distinct
      rw [run_cons]
      by_cases spared : Spared call push entry
      · apply ih later _ others next
        · exact fun along => harmed ⟨spared, along⟩
        · intro other found
          apply kept_turn starts tidy.toSound member (within other (List.mem_cons_of_mem _ found))
          exact fun same => fresh (same ▸ List.mem_map_of_mem found)
      · rcases harm_turn tidy member (within entry (List.mem_cons_self ..)) spared with
          astray | dropped
        · exact .inl (astray_loop starts later next astray)
        · exact .inr (dropped_loop dropped)

end Loop

/-! A call as a whole. -/

section Agreement

variable {lab client : LabState} (agree : LabStates.Agree lab client)

include agree

theorem known_of_agree (server : Server) : Known lab server ↔ Known client server := by
  have same : entries lab = entries client := agree.workflows
  rw [Known, Known, same, projectid, projectid, agree.project]

theorem filed_of_agree (filed : Filed client) : Filed lab := by
  have same : entries lab = entries client := agree.workflows
  exact ⟨same ▸ filed.distinct, agree.project ▸ filed.present⟩

theorem aliased_of_agree (aliased : Aliased client) : Aliased lab := by
  have same : entries lab = entries client := agree.workflows
  rwa [Aliased, same]

theorem named_of_agree (named : Named client) : Named lab :=
  ⟨filed_of_agree agree named.toFiled, aliased_of_agree agree named.aliased⟩

end Agreement

section Calls

variable {Text : Type} {yaml : Yaml Text} {fp : String} {session : Session Text} {call : Call}

def looped (yaml : Yaml Text) (fp : String) (session : Session Text) (call : Call) : Push :=
  let client := (opened yaml fp call session).client
  run (turn call) { client := client, server := session.server } client.workflows

theorem opened_disk : (opened yaml fp call session).disk = session.disk := by
  unfold opened
  split
  · split <;> rfl
  · rfl

theorem opened_server : (opened yaml fp call session).server = session.server := by
  unfold opened
  split
  · split <;> rfl
  · rfl

theorem sound_start {client : LabState} (filed : Filed client) (server : Server) :
    Sound client { client := client, server := server } :=
  ⟨filed, rfl⟩

theorem tidy_start {client : LabState} (named : Named client) (server : Server) :
    Tidy client { client := client, server := server } :=
  ⟨sound_start named.toFiled server, named.aliased, fun _ none => absurd none List.not_mem_nil⟩

theorem sound_looped (filed : Filed (opened yaml fp call session).client) :
    Sound (opened yaml fp call session).client (looped yaml fp session call) :=
  sound_loop (sound_start filed session.server) _

theorem tidy_looped (named : Named (opened yaml fp call session).client) :
    Tidy (opened yaml fp call session).client (looped yaml fp session call) :=
  tidy_loop named (fun _ member => member) (tidy_start named session.server)

theorem pushed_eq (filed : Filed (opened yaml fp call session).client) :
    pushed yaml fp session call = finish yaml fp call session.disk (looped yaml fp session call) := by
  obtain ⟨project, present⟩ := Option.isSome_iff_exists.mp filed.present
  have snapshot : (opened yaml fp call session).client.snapshot =
      some ⟨project, (opened yaml fp call session).client.version,
        some (opened yaml fp call session).client.workflows⟩ := by
    rw [LabState.snapshot, present, Option.map_some]
  simp only [pushed, workflows_push, snapshot, Option.getD_some, loop, looped, opened_disk,
    opened_server]

theorem finish_raised {disk : Disk Text} {push : Push} {failure : PushExn}
    (raised : push.raised = some failure) : finish yaml fp call disk push =
      ⟨.error failure, push.created, ⟨push.client, disk, push.server⟩⟩ := by
  rw [finish, raised]

theorem finish_without {disk : Disk Text} {push : Push} (open_ : push.raised = none)
    (without : call.wf_file = false) : ∃ failure, finish yaml fp call disk push =
      ⟨.error failure, push.created, ⟨push.client, disk, push.server⟩⟩ := by
  rw [finish, open_, without]
  exact ⟨_, rfl⟩

theorem finish_written {disk : Disk Text} {push : Push} (open_ : push.raised = none)
    (given : call.wf_file = true) (present : push.client.project.isSome = true) :
    ∃ rsp later again, finish yaml fp call disk push =
        ⟨.ok rsp, push.created, ⟨push.client, later, push.server⟩⟩ ∧
      from_file yaml later fp = some again ∧ LabStates.Agree again push.client := by
  obtain ⟨later, again, written, read, agree⟩ := LabStates.from_file_write yaml disk fp present
  refine ⟨⟨push.created, push.errors⟩, later, again, ?_, read, agree⟩
  simp only [finish, open_, given, if_true, written]

/-- Either a call raises and leaves the lab file as it was, or the file is as the client has it. -/
theorem pushed_cases (filed : Filed (opened yaml fp call session).client) :
    let push := looped yaml fp session call
    ((push.raised ≠ none ∨ call.wf_file = false) ∧
      ∃ failure, pushed yaml fp session call =
        ⟨.error failure, push.created, ⟨push.client, session.disk, push.server⟩⟩) ∨
    (push.raised = none ∧ call.wf_file = true ∧ ∃ rsp later again, pushed yaml fp session call =
        ⟨.ok rsp, push.created, ⟨push.client, later, push.server⟩⟩ ∧
      from_file yaml later fp = some again ∧ LabStates.Agree again push.client) := by
  intro push
  rw [pushed_eq filed]
  cases raised : push.raised with
  | some failure => exact .inl ⟨.inl (Option.some_ne_none _), failure, finish_raised raised⟩
  | none =>
      cases given : call.wf_file with
      | false => exact .inl ⟨.inr rfl, finish_without raised given⟩
      | true => exact .inr ⟨rfl, rfl, finish_written raised given (sound_looped filed).filed.present⟩

structure Held (yaml : Yaml Text) (fp : String) (session : Session Text) : Prop where
  filed : Filed session.client
  known : Known session.client session.server
  stored : ∃ lab, from_file yaml session.disk fp = some lab ∧ LabStates.Agree lab session.client

theorem held_opened (held : Held yaml fp session) : Held yaml fp (opened yaml fp call session) := by
  obtain ⟨lab, read, agree⟩ := held.stored
  unfold opened
  split
  · rw [read]
    refine ⟨filed_of_agree agree held.filed, (known_of_agree agree _).mpr held.known, lab, read, ?_⟩
    exact ⟨rfl, rfl, rfl⟩
  · exact held

theorem aliased_opened (held : Held yaml fp session) (aliased : Aliased session.client) :
    Aliased (opened yaml fp call session).client := by
  obtain ⟨lab, read, agree⟩ := held.stored
  unfold opened
  split
  · rw [read]
    exact aliased_of_agree agree aliased
  · exact aliased

theorem named_opened (held : Held yaml fp session) (aliased : Aliased session.client) :
    Named (opened yaml fp call session).client :=
  ⟨(held_opened held).filed, aliased_opened held aliased⟩

theorem recorded_of_held (held : Held yaml fp session) : Recorded yaml fp session := by
  obtain ⟨lab, read, agree⟩ := held.stored
  exact ⟨lab, read, (known_of_agree agree _).mpr held.known⟩

/-- Whatever a call returns or raises, the client is left as the loop has it. -/
theorem client_step (filed : Filed (opened yaml fp call session).client) :
    (step yaml fp session call).client = (looped yaml fp session call).client := by
  rcases pushed_cases filed with ⟨_, failure, pushed⟩ | ⟨_, _, rsp, later, again, pushed, _⟩
  · rw [step, pushed]
  · rw [step, pushed]

theorem step_held (held : Held yaml fp session) (meets : Meets yaml fp session call) :
    Held yaml fp (step yaml fp session call) ∧ KeepsReceived yaml fp session call := by
  have start : Held yaml fp (opened yaml fp call session) := held_opened held
  have sound := sound_looped start.filed
  have faithful : Faithful (opened yaml fp call session).client call
      (looped yaml fp session call) := by
    apply faithful_loop (sound_start start.filed _) _ meets
    have known := start.known
    rw [opened_server] at known
    exact ⟨known, fun _ => rfl, fun some => absurd rfl some, fun _ => rfl⟩
  rcases pushed_cases start.filed with ⟨unwritten, failure, pushed⟩ |
      ⟨_, _, rsp, later, again, pushed, read, agree⟩
  · have nothing : (looped yaml fp session call).created = [] := by
      rcases unwritten with raised | without
      · exact faithful.safe raised
      · by_contra some
        rw [faithful.written some] at without
        cases without
    have known := faithful.known
    obtain ⟨lab, read, agree⟩ := start.stored
    rw [opened_disk] at read
    rw [faithful.untouched nothing] at known
    constructor
    · rw [step, pushed, faithful.untouched nothing]
      exact ⟨start.filed, known, lab, read, agree⟩
    · intro _ _ wr member
      rw [pushed, nothing] at member
      exact absurd member List.not_mem_nil
  · constructor
    · rw [step, pushed]
      exact ⟨sound.filed, faithful.known, again, read, agree⟩
    · intro failure raises
      rw [pushed] at raises
      cases raises

/-- Neither the client nor the lab file has the id of some workflow that is on the server. -/
structure Strayed (yaml : Yaml Text) (fp : String) (session : Session Text) : Prop where
  named : Named session.client
  unknown : ¬Known session.client session.server
  stored : ∃ lab, from_file yaml session.disk fp = some lab ∧ Named lab ∧ ¬Known lab session.server

theorem not_recorded_of_strayed (strayed : Strayed yaml fp session) :
    ¬Recorded yaml fp session := by
  rintro ⟨lab, read, known⟩
  obtain ⟨other, same, _, unknown⟩ := strayed.stored
  rw [read] at same
  obtain rfl := Option.some.inj same
  exact unknown known

theorem strayed_opened (strayed : Strayed yaml fp session) :
    Strayed yaml fp (opened yaml fp call session) := by
  obtain ⟨lab, read, named, unknown⟩ := strayed.stored
  unfold opened
  split
  · rw [read]
    exact ⟨named, unknown, lab, read, named, unknown⟩
  · exact strayed

/-- No call recovers an id that got lost: the server does not tell it again. -/
theorem step_strayed (strayed : Strayed yaml fp session) :
    Strayed yaml fp (step yaml fp session call) := by
  have start : Strayed yaml fp (opened yaml fp call session) := strayed_opened strayed
  have tidy := tidy_looped start.named
  have left : Named (looped yaml fp session call).client := ⟨tidy.filed, tidy.aliased⟩
  have unknown : ¬Known (looped yaml fp session call).client
      (looped yaml fp session call).server := by
    intro known
    apply start.unknown
    rw [opened_server]
    exact known_of_loop start.named (fun _ member => member) (tidy_start start.named _) known
  rcases pushed_cases start.named.toFiled with ⟨_, failure, pushed⟩ |
      ⟨_, _, rsp, later, again, pushed, read, agree⟩
  · obtain ⟨lab, read, named, before⟩ := strayed.stored
    have grown : ∀ row ∈ session.server.db.workflows.rows,
        row ∈ (looped yaml fp session call).server.db.workflows.rows :=
      rows_loop call { client := (opened yaml fp call session).client, server := session.server } _
    rw [step, pushed]
    refine ⟨left, unknown, lab, read, named, ?_⟩
    exact fun known => before (known.mono grown)
  · rw [step, pushed]
    refine ⟨left, unknown, again, read, named_of_agree agree left, ?_⟩
    exact fun known => unknown ((known_of_agree agree _).mp known)

theorem strayed_of_astray (held : Held yaml fp session) (aliased : Aliased session.client)
    (astray : Astray (opened yaml fp call session).client (looped yaml fp session call)) :
    Strayed yaml fp (step yaml fp session call) := by
  have named : Named (opened yaml fp call session).client := named_opened held aliased
  have tidy := tidy_looped named
  have left : Named (looped yaml fp session call).client := ⟨tidy.filed, tidy.aliased⟩
  rcases pushed_cases named.toFiled with ⟨_, failure, pushed⟩ |
      ⟨_, _, rsp, later, again, pushed, written, same⟩
  · obtain ⟨lab, read, agree⟩ := (held_opened held).stored
    rw [opened_disk] at read
    rw [step, pushed]
    refine ⟨left, astray.1, lab, read, named_of_agree agree named, ?_⟩
    exact fun known => astray.2 ((known_of_agree agree _).mp known)
  · rw [step, pushed]
    refine ⟨left, astray.1, again, written, named_of_agree same left, ?_⟩
    exact fun known => astray.1 ((known_of_agree same _).mp known)

theorem lost_of_dropped (held : Held yaml fp session) (aliased : Aliased session.client)
    (dropped : Dropped call (looped yaml fp session call)) :
    ¬KeepsReceived yaml fp session call := by
  intro keeps
  have named : Named (opened yaml fp call session).client := named_opened held aliased
  obtain ⟨created, unwritten⟩ := dropped
  rcases pushed_cases named.toFiled with ⟨_, failure, pushed⟩ | ⟨open_, given, _⟩
  · obtain ⟨wr, member⟩ := List.exists_mem_of_ne_nil _ created
    have raises : (WorkflowsPush.pushed yaml fp session call).result = .error failure := by
      rw [pushed]
    have inside : wr ∈ (WorkflowsPush.pushed yaml fp session call).received := by
      rw [pushed]
      exact member
    obtain ⟨found, opened_, entry, entered, alias_, wfid⟩ := keeps failure raises wr inside
    -- the file is still the one that the client was made from, and has no id under the alias
    obtain ⟨lab, read, agree⟩ := (held_opened held).stored
    rw [opened_disk] at read
    rw [step, pushed] at opened_
    obtain rfl := Option.some.inj (opened_.symm.trans read)
    obtain ⟨drawn, unnamed⟩ := (tidy_looped named).received wr member
    have sameEntries : entries found = entries (opened yaml fp call session).client :=
      agree.workflows
    have falsy := unnamed entry (sameEntries ▸ entered) alias_
    rw [wfid, drawn] at falsy
    cases falsy
  · rcases unwritten with raised | without
    · exact raised open_
    · rw [given] at without
      cases without

/-- A call that does harm loses an id, at once or for good. -/
theorem step_harm (held : Held yaml fp session) (aliased : Aliased session.client)
    (harmed : ¬Meets yaml fp session call) :
    ¬KeepsReceived yaml fp session call ∨ Strayed yaml fp (step yaml fp session call) := by
  have named : Named (opened yaml fp call session).client := named_opened held aliased
  have distinct := nodup_workflows named.toFiled
  rcases harm_loop named (fun _ member => member) (fun _ member => member) distinct
      (tidy_start named session.server) harmed with astray | dropped
  · exact .inr (strayed_of_astray held aliased astray)
  · exact .inl (lost_of_dropped held aliased dropped)

/-! Runs. -/

theorem run_strayed (strayed : Strayed yaml fp session) (calls : List Call) :
    Strayed yaml fp (run (step yaml fp) session calls) :=
  run_kept (fun (session : Session Text) _ (strayed : Strayed yaml fp session) =>
    step_strayed strayed) strayed calls

theorem converges_cons {calls : List Call} : Converges yaml fp session (call :: calls) ↔
    KeepsReceived yaml fp session call ∧ Converges yaml fp (step yaml fp session call) calls := by
  constructor
  · rintro ⟨keeps, recorded⟩
    refine ⟨keeps [] call calls rfl, ?_, recorded⟩
    intro before later after split
    exact keeps (call :: before) later after (by rw [split, List.cons_append])
  · rintro ⟨first, keeps, recorded⟩
    refine ⟨?_, recorded⟩
    intro before later after split
    cases before with
    | nil =>
        obtain ⟨rfl, rfl⟩ := List.cons.inj split
        exact first
    | cons head tail =>
        obtain ⟨rfl, rest⟩ := List.cons.inj split
        exact keeps tail later after rest

theorem converges_of_meets (held : Held yaml fp session) (calls : List Call)
    (along : Along (step yaml fp) (Meets yaml fp) session calls) :
    Converges yaml fp session calls := by
  induction calls generalizing session with
  | nil =>
      refine ⟨?_, recorded_of_held held⟩
      intro before call after split
      simp at split
  | cons call calls ih =>
      obtain ⟨next, keeps⟩ := step_held held along.1
      exact converges_cons.mpr ⟨keeps, ih next along.2⟩

theorem meets_of_converges (held : Held yaml fp session) (aliased : Aliased session.client)
    (calls : List Call) (converges : Converges yaml fp session calls) :
    Along (step yaml fp) (Meets yaml fp) session calls := by
  induction calls generalizing session with
  | nil => trivial
  | cons call calls ih =>
      obtain ⟨keeps, rest⟩ := converges_cons.mp converges
      by_cases meets : Meets yaml fp session call
      · have named : Named (opened yaml fp call session).client := named_opened held aliased
        have later : Aliased (step yaml fp session call).client := by
          rw [client_step named.toFiled]
          exact (tidy_looped named).aliased
        exact ⟨meets, ih (step_held held meets).1 later rest⟩
      · rcases step_harm held aliased meets with lost | strayed
        · exact absurd keeps lost
        · exact absurd rest.2 (not_recorded_of_strayed (run_strayed strayed calls))

end Calls

def Start.session {Text : Type} {yaml : Yaml Text} {fp : String} (start : Start yaml fp) :
    Session Text :=
  { client := start.client, disk := start.disk, server := start.server }

theorem filed_start {Text : Type} {yaml : Yaml Text} {fp : String} (start : Start yaml fp) :
    Filed start.client :=
  ⟨start.distinct, LabStates.project_of_from_file start.loaded⟩

/-- Pushes converge as long as no id gets lost: those of the workflows that are on the server are
in the lab file before the first of them, a request that creates a workflow is answered, for a
workflow that stands under its alias, and no call is broken off between an id that it receives and
the file that it writes. If the workflows of the file stand under their aliases, only then. -/
theorem pushes_converge_iff {Text : Type} (yaml : Yaml Text) (fp : String) (start : Start yaml fp)
    (calls : List Call) :
    (Known start.client start.server ∧ Along (step yaml fp) (Meets yaml fp) start.session calls →
      Converges yaml fp start.session calls) ∧
    (Aliased start.client → Converges yaml fp start.session calls →
      Known start.client start.server ∧
        Along (step yaml fp) (Meets yaml fp) start.session calls) := by
  have held : Known start.client start.server → Held yaml fp start.session := fun known =>
    ⟨filed_start start, known, start.client, start.loaded, rfl, rfl, rfl⟩
  constructor
  · rintro ⟨known, along⟩
    exact converges_of_meets (held known) calls along
  · intro aliased converges
    by_cases known : Known start.client start.server
    · exact ⟨known, meets_of_converges (held known) aliased calls converges⟩
    · have named : Named start.client := ⟨filed_start start, aliased⟩
      have strayed : Strayed yaml fp start.session :=
        ⟨named, known, start.client, start.loaded, named, known⟩
      exact absurd converges.2 (not_recorded_of_strayed (run_strayed strayed calls))

namespace Sample

def disk (_ : String) : Option Json :=
  some (.dict [("version", .str "0.2.0"),
    ("project", .dict [("name", .str "first"), ("projectid", .str "p")]),
    ("workflows", .dict [("daily", .dict [("alias", .str "daily"),
      ("nbtask", .dict [("nb_name", .str "report"), ("params", .dict [])])])])])

def client : LabState :=
  { version := "0.2.0"
    project := some { name := "first", projectid := "p" }
    workflows := [("daily", ⟨"daily", { nb_name := "report", params := [] }, {}, {}, {}⟩)]
    file := some "labfile.yaml" }

def start : Start LabStates.Sample.yaml "labfile.yaml" where
  client := client
  disk := disk
  server := LabFunctions.Sample.server
  loaded := rfl
  distinct := by decide

def call (fault : Fault) : Call :=
  { fresh := true, wf_file := true, fault := fun _ => fault, env := fun _ => LabFunctions.Sample.env }

def unanswered : Call := call (.failed true .connectionError trivial)

end Sample

/-- The connection breaks after the server has created the workflow: the next push is told that it
exists, but not its id. -/
theorem unanswered_id_lost : ¬∀ (yaml : Yaml Json) (fp : String) (start : Start yaml fp)
    (calls : List Call) (last : Call), (∀ key, last.fault key = .answered) → last.wf_file = true →
      Converges yaml fp start.session (calls ++ [last]) := by
  intro converges
  have converged := converges LabStates.Sample.yaml "labfile.yaml" Sample.start
    [Sample.unanswered] (Sample.call .answered) (fun _ => rfl) rfl
  have empty : ∀ row, row ∉ Sample.start.server.db.workflows.rows := fun row => List.not_mem_nil
  have held : Held LabStates.Sample.yaml "labfile.yaml" Sample.start.session :=
    ⟨filed_start Sample.start, fun _ _ row member => absurd member (empty row), Sample.client, rfl,
      rfl, rfl, rfl⟩
  have aliased : Aliased Sample.client := by
    intro entry member
    rw [List.mem_singleton.mp member]
    rfl
  have first := (meets_of_converges held aliased _ converged).1
  have spared : Spared Sample.unanswered
      { client := Sample.client, server := LabFunctions.Sample.server }
      ("daily", ⟨"daily", { nb_name := "report", params := [] }, {}, {}, {}⟩) := first.1
  exact absurd ((spared rfl rfl).1 rfl) (not_not_intro (by decide))

end WorkflowsPush

end LabFunctions
