import Mathlib.Data.List.Perm.Basic
import LabFunctions.WorkflowsPush

/-!
The report of `client.workflows_client.WorkflowsClient.workflows_push`, in both of its modes and
for any answers to its requests.
-/

namespace LabFunctions

namespace PushReports

open LabState Runs WorkflowsPush

abbrev Entry := String × Marked.WorkflowDataWeb

/-- The arguments, and what the client sees of the request for each entry of the lab file. -/
structure Call where
  refresh_workflows : Bool := true
  update : Bool := false
  wf_file : Option String := none
  answers : String → Seen

/-- It differs from `workflows_create` in the method of the request. -/
def workflows_update (projectid : String) (wd : Marked.WorkflowDataWeb) :
    Seen → Except PushExn WFCreateRsp
  | .connectionError => .error .connectError
  | .answer code body =>
      if code = 400 ∨ code = 503 then .error (.workflowRegisterClientError wd.wfid.value projectid)
      else
        match body with
        | none => .error .jsonDecodeError
        | some (msg, wfid) => .ok ⟨code, wd.alias_, msg, wfid⟩

structure Report where
  client : LabState
  created : List WFCreateRsp := []
  errors : List WFCreateRsp := []
  raised : Option PushExn := none

def pushUpdate (call : Call) (report : Report) (entry : Entry) : Except PushExn Report :=
  match workflows_update (projectid report.client) entry.2 (call.answers entry.1) with
  -- whatever its status
  | .ok wr => .ok { report with created := report.created ++ [wr] }
  | .error failure => .error failure

def pushCreate (call : Call) (report : Report) (entry : Entry) : Except PushExn Report :=
  if truthy entry.2.wfid.value then .ok report
  else
    match workflows_create (projectid report.client) entry.2 (call.answers entry.1) with
    | .ok wr =>
        if wr.status_code = 200 then .ok report
        else if wr.status_code = 201 then
          .ok { report with
            created := report.created ++ [wr]
            client :=
              if call.refresh_workflows then
                report.client.add_workflow (entry.2.assign (.wfid wr.wfid))
              else report.client }
        else .ok { report with errors := report.errors ++ [errorOf entry.2 wr.status_code] }
    | .error failure => .error failure

/-- One turn of the loop, over the entries of the snapshot. -/
def turn (call : Call) (report : Report) (entry : Entry) : Report :=
  if report.raised.isSome then report
  else
    match if call.update then pushUpdate call report entry else pushCreate call report entry with
    | .ok report => report
    | .error (.workflowRegisterClientError _ _) =>
        { report with errors := report.errors ++ [errorOf entry.2 503] }
    | .error failure => { report with raised := some failure }

def looped (call : Call) (client : LabState) : Report :=
  run (turn call) { client := client } client.workflows

section Push

variable {Text : Type} (yaml : Yaml Text)

def finish (call : Call) (disk : Disk Text) (report : Report) :
    Except PushExn WFPushRsp × Disk Text :=
  match report.raised with
  | some failure => (.error failure, disk)
  | none =>
      if call.refresh_workflows then
        match call.wf_file with
        | none =>
            (.error (.typeError "expected str, bytes or os.PathLike object, not NoneType"), disk)
        | some fp =>
            match report.client.write yaml disk fp with
            | some written => (.ok ⟨report.created, report.errors⟩, written)
            | none => (.error .validationError, disk)
      else (.ok ⟨report.created, report.errors⟩, disk)

structure Pushed (Text : Type) where
  result : Except PushExn WFPushRsp
  client : LabState
  disk : Disk Text

def workflows_push (call : Call) (disk : Disk Text) (client : LabState) : Pushed Text :=
  match client.snapshot with
  | none => ⟨.error .validationError, client, disk⟩
  | some _workflows =>
      let report := run (turn call) { client := client } (_workflows.workflows.getD [])
      let (result, disk) := finish yaml call disk report
      ⟨result, report.client, disk⟩

end Push

/-- With `update` every entry is sent, and else those that have no id. -/
def Sent (call : Call) (entry : Entry) : Prop :=
  call.update = true ∨ truthy entry.2.wfid.value = false

/-- The entry is sent, and its request is answered with such a status. -/
def SentWith (call : Call) (accepts : Nat → Prop) (entry : Entry) : Prop :=
  Sent call entry ∧ ∃ code body, call.answers entry.1 = .answer code body ∧ accepts code

section Decidable

variable (call : Call) (accepts : Nat → Prop) [DecidablePred accepts]

instance : DecidablePred (Sent call) := fun entry =>
  inferInstanceAs (Decidable (call.update = true ∨ truthy entry.2.wfid.value = false))

instance : DecidablePred (SentWith call accepts) := fun entry =>
  match answer : call.answers entry.1 with
  | .connectionError => .isFalse (by simp [SentWith, answer])
  | .answer code body =>
      decidable_of_iff (Sent call entry ∧ accepts code) (by simp [SentWith, answer])

end Decidable

def Stored (code : Nat) : Prop := code = 201

def Refused (code : Nat) : Prop := code ≠ 201 ∧ code ≠ 200

/-- The statuses after which the loop appends to `created`. -/
def Appended (call : Call) (code : Nat) : Prop :=
  if call.update then code ≠ 400 ∧ code ≠ 503 else Stored code

def Rejected (call : Call) (code : Nat) : Prop :=
  if call.update then code = 400 ∨ code = 503 else Refused code

instance : DecidablePred Stored := fun code => inferInstanceAs (Decidable (code = 201))

instance : DecidablePred Refused := fun code =>
  inferInstanceAs (Decidable (code ≠ 201 ∧ code ≠ 200))

instance (call : Call) : DecidablePred (Appended call) := fun code =>
  inferInstanceAs (Decidable (if call.update then code ≠ 400 ∧ code ≠ 503 else Stored code))

instance (call : Call) : DecidablePred (Rejected call) := fun code =>
  inferInstanceAs (Decidable (if call.update then code = 400 ∨ code = 503 else Refused code))

def aliases (workflows : List Entry) : List String :=
  workflows.map fun entry => entry.2.alias_

/-- A report names workflows by their aliases, each as often as it has been sent. -/
structure Partitioned (call : Call) (workflows : List Entry) (rsp : WFPushRsp) : Prop where
  created : (rsp.created.map WFCreateRsp.alias_).Perm
    (aliases (workflows.filter fun entry => SentWith call Stored entry))
  errors : (rsp.errors.map WFCreateRsp.alias_).Perm
    (aliases (workflows.filter fun entry => SentWith call Refused entry))
  accounted : call.update = true →
    ((rsp.created ++ rsp.errors).map WFCreateRsp.alias_).Perm (aliases workflows)

/-- With `update` a request is stored, or answered with a status that raises. -/
def Meets (call : Call) (workflows : List Entry) : Prop :=
  call.update = true → ∀ entry ∈ workflows, ∀ code body,
    call.answers entry.1 = .answer code body → code = 201 ∨ code = 400 ∨ code = 503

section Turn

variable {call : Call} {report : Report} {entry : Entry}

/-- Only the workflows that a push creates get their ids. -/
def recorded (call : Call) (client : LabState) (entry : Entry) (wfid : Option String) : LabState :=
  if call.update = false ∧ call.refresh_workflows = true then
    client.add_workflow (entry.2.assign (.wfid wfid))
  else client

/-- All that a turn can come to. -/
inductive Turned (call : Call) (report : Report) (entry : Entry) : Report → Prop where
  | left (raised : report.raised ≠ none) : Turned call report entry report
  | unsent (open_ : report.raised = none) (unsent : ¬Sent call entry) :
      Turned call report entry report
  | interrupted (open_ : report.raised = none) (sent : Sent call entry)
      (interrupts : (call.answers entry.1).Interrupts) (failure : PushExn) :
      Turned call report entry { report with raised := some failure }
  | appended (open_ : report.raised = none) (sent : Sent call entry) (code : Nat)
      (msg wfid : Option String) (answer : call.answers entry.1 = .answer code (some (msg, wfid)))
      (appended : Appended call code) :
      Turned call report entry { report with
        created := report.created ++ [⟨code, entry.2.alias_, msg, wfid⟩]
        client := recorded call report.client entry wfid }
  | passed (open_ : report.raised = none) (sent : Sent call entry)
      (body : Option (Option String × Option String))
      (answer : call.answers entry.1 = .answer 200 body) (mode : call.update = false)
      (answered : body ≠ none) : Turned call report entry report
  | rejected (open_ : report.raised = none) (sent : Sent call entry) (code reported : Nat)
      (body : Option (Option String × Option String))
      (answer : call.answers entry.1 = .answer code body) (rejected : Rejected call code)
      (answered : ¬(Seen.answer code body).Interrupts) :
      Turned call report entry { report with errors := report.errors ++ [errorOf entry.2 reported] }

theorem workflows_update_eq (projectid : String) (wd : Marked.WorkflowDataWeb) (seen : Seen) :
    workflows_update projectid wd seen = workflows_create projectid wd seen := by
  cases seen <;> rfl

/-- What is made of an answer by both methods. -/
theorem workflows_create_cases (projectid : String) (wd : Marked.WorkflowDataWeb) (seen : Seen) :
    (∃ failure, workflows_create projectid wd seen = .error failure ∧ seen.Interrupts ∧
        ∀ wfid project, failure ≠ .workflowRegisterClientError wfid project) ∨
      (∃ code body wfid,
        workflows_create projectid wd seen = .error (.workflowRegisterClientError wfid projectid) ∧
          seen = .answer code body ∧ (code = 400 ∨ code = 503)) ∨
      ∃ code msg wfid, workflows_create projectid wd seen = .ok ⟨code, wd.alias_, msg, wfid⟩ ∧
        seen = .answer code (some (msg, wfid)) ∧ code ≠ 400 ∧ code ≠ 503 := by
  cases seen with
  | connectionError => exact .inl ⟨.connectError, rfl, trivial, fun _ _ same => by cases same⟩
  | answer code body =>
      by_cases register : code = 400 ∨ code = 503
      · exact .inr (.inl ⟨code, body, wd.wfid.value, by simp [workflows_create, register], rfl,
          register⟩)
      · obtain ⟨first, second⟩ := not_or.mp register
        cases body with
        | none =>
            exact .inl ⟨.jsonDecodeError, by simp [workflows_create, first, second],
              ⟨first, second, rfl⟩, fun _ _ same => by cases same⟩
        | some body =>
            exact .inr (.inr ⟨code, body.1, body.2, by simp [workflows_create, first, second], rfl,
              first, second⟩)

theorem workflows_create_ok {projectid : String} {wd : Marked.WorkflowDataWeb} {seen : Seen}
    {wr : WFCreateRsp} (read : workflows_create projectid wd seen = .ok wr) :
    ∃ code msg wfid, wr = ⟨code, wd.alias_, msg, wfid⟩ ∧
      seen = .answer code (some (msg, wfid)) ∧ code ≠ 400 ∧ code ≠ 503 := by
  rcases workflows_create_cases projectid wd seen with
    ⟨_, result, _⟩ | ⟨_, _, _, result, _⟩ | ⟨code, msg, wfid, result, answered⟩
  · exact absurd (read.symm.trans result) (by simp)
  · exact absurd (read.symm.trans result) (by simp)
  · exact ⟨code, msg, wfid, Except.ok.inj (read.symm.trans result), answered⟩

/-- A method that raises ends the turn in the same way for both modes. -/
theorem turned_of_error (open_ : report.raised = none) (sent : Sent call entry)
    {failure : PushExn}
    (read : workflows_create (projectid report.client) entry.2 (call.answers entry.1) =
      .error failure)
    (pushed : (if call.update = true then pushUpdate call report entry
      else pushCreate call report entry) = .error failure) :
    Turned call report entry (turn call report entry) := by
  have running : ¬report.raised.isSome = true := by simp [open_]
  rw [turn, if_neg running, pushed]
  rcases workflows_create_cases (projectid report.client) entry.2 (call.answers entry.1) with
    ⟨other, result, interrupts, unregistered⟩ | ⟨code, body, wfid, result, answer, register⟩ |
    ⟨code, msg, wfid, result, _⟩
  · obtain rfl := Except.error.inj (read.symm.trans result)
    have interrupted := Turned.interrupted open_ sent interrupts failure
    cases failure <;> first | exact absurd rfl (unregistered _ _) | exact interrupted
  · obtain rfl := Except.error.inj (read.symm.trans result)
    have rejected : Rejected call code := by
      unfold Rejected
      split
      · exact register
      · rcases register with rfl | rfl <;> decide
    refine .rejected open_ sent code 503 body answer rejected ?_
    rintro ⟨first, second, _⟩
    exact register.elim first second
  · exact absurd (read.symm.trans result) (by simp)

theorem turned_update (open_ : report.raised = none) (mode : call.update = true) :
    Turned call report entry (turn call report entry) := by
  have sent : Sent call entry := .inl mode
  cases read : workflows_create (projectid report.client) entry.2 (call.answers entry.1) with
  | error failure =>
      apply turned_of_error open_ sent read
      rw [if_pos mode, pushUpdate, workflows_update_eq, read]
  | ok wr =>
      obtain ⟨code, msg, wfid, rfl, answer, passes⟩ := workflows_create_ok read
      have after : turn call report entry = { report with
          created := report.created ++ [⟨code, entry.2.alias_, msg, wfid⟩]
          client := recorded call report.client entry wfid } := by
        simp [turn, open_, mode, pushUpdate, workflows_update_eq, read, recorded]
      rw [after]
      exact .appended open_ sent code _ _ answer (by simpa [Appended, mode] using passes)

theorem turned_create (open_ : report.raised = none) (mode : call.update = false)
    (unnamed : truthy entry.2.wfid.value = false) :
    Turned call report entry (turn call report entry) := by
  have sent : Sent call entry := .inr unnamed
  cases read : workflows_create (projectid report.client) entry.2 (call.answers entry.1) with
  | error failure =>
      apply turned_of_error open_ sent read
      simp [mode, pushCreate, unnamed, read]
  | ok wr =>
      obtain ⟨code, msg, wfid, rfl, answer, _⟩ := workflows_create_ok read
      by_cases existing : code = 200
      · subst existing
        have after : turn call report entry = report := by
          simp [turn, open_, mode, pushCreate, unnamed, read]
        rw [after]
        exact .passed open_ sent _ answer mode (by simp)
      · by_cases stored : code = 201
        · have after : turn call report entry = { report with
              created := report.created ++ [⟨code, entry.2.alias_, msg, wfid⟩]
              client := recorded call report.client entry wfid } := by
            simp [turn, open_, mode, pushCreate, unnamed, read, stored, recorded]
          rw [after]
          exact .appended open_ sent code _ _ answer (by simpa [Appended, mode, Stored])
        · have after : turn call report entry =
              { report with errors := report.errors ++ [errorOf entry.2 code] } := by
            simp [turn, open_, mode, pushCreate, unnamed, read, existing, stored]
          rw [after]
          refine .rejected open_ sent code code _ answer ?_ (by simp [Seen.Interrupts])
          simpa [Rejected, mode, Refused] using ⟨stored, existing⟩

theorem turned (call : Call) (report : Report) (entry : Entry) :
    Turned call report entry (turn call report entry) := by
  by_cases open_ : report.raised = none
  · cases mode : call.update with
    | true => exact turned_update open_ mode
    | false =>
        cases unnamed : truthy entry.2.wfid.value with
        | true =>
            have after : turn call report entry = report := by
              simp [turn, open_, mode, pushCreate, unnamed]
            rw [after]
            exact .unsent open_ (by simp [Sent, mode, unnamed])
        | false => exact turned_create open_ mode unnamed
  · have after : turn call report entry = report := by
      rw [turn, if_pos (Option.isSome_iff_ne_none.mpr open_)]
    rw [after]
    exact .left open_

def ofPush (push : Push) : Report :=
  ⟨push.client, push.created, push.errors, push.raised⟩

/-- The pushes that create workflows are those of `WorkflowsPush`, whatever the server is. -/
theorem turn_push (push : Push) (posts : WorkflowsPush.Call) (mode : call.update = false)
    (refresh : call.refresh_workflows = true)
    (answer : call.answers entry.1 =
      (post posts (projectid push.client) entry push.server).1) :
    turn call (ofPush push) entry = ofPush (WorkflowsPush.turn posts push entry) := by
  unfold turn WorkflowsPush.turn pushCreate
  cases raised : push.raised with
  | some failure => simp [ofPush, raised]
  | none =>
      cases recorded : truthy entry.2.wfid.value with
      | true => simp [ofPush, raised, mode]
      | false =>
          cases created : workflows_create (projectid push.client) entry.2
              (post posts (projectid push.client) entry push.server).1 with
          | error failure =>
              cases failure <;> simp [ofPush, raised, mode, answer, created]
          | ok wr =>
              by_cases existing : wr.status_code = 200
              · simp [ofPush, raised, mode, answer, created, existing]
              · by_cases stored : wr.status_code = 201 <;>
                  simp [ofPush, raised, mode, answer, created, existing, stored, refresh]

/-- A turn raises if the answer to its request does. -/
theorem open_turn_iff : (turn call report entry).raised = none ↔
    report.raised = none ∧ (Sent call entry → ¬(call.answers entry.1).Interrupts) := by
  have done := turned call report entry
  generalize turn call report entry = after at done ⊢
  cases done with
  | left raised => exact ⟨fun none => absurd none raised, And.left⟩
  | unsent open_ unsent => exact ⟨fun _ => ⟨open_, fun sent => absurd sent unsent⟩, And.left⟩
  | interrupted open_ sent interrupts failure =>
      refine ⟨fun none => ?_, fun ⟨_, answered⟩ => absurd interrupts (answered sent)⟩
      cases none
  | appended open_ sent code msg wfid answer =>
      refine ⟨fun _ => ⟨open_, fun _ => ?_⟩, And.left⟩
      rw [answer]
      rintro ⟨_, _, without⟩
      cases without
  | passed open_ sent body answer mode answered =>
      refine ⟨fun _ => ⟨open_, fun _ => ?_⟩, And.left⟩
      rw [answer]
      exact fun interrupts => answered interrupts.2.2
  | rejected open_ sent code reported body answer rejected answered =>
      refine ⟨fun _ => ⟨open_, fun _ => ?_⟩, And.left⟩
      rw [answer]
      exact answered

theorem sentWith_iff {code : Nat} {body : Option (Option String × Option String)}
    (answer : call.answers entry.1 = .answer code body) (accepts : Nat → Prop) :
    SentWith call accepts entry ↔ Sent call entry ∧ accepts code := by
  simp [SentWith, answer]

theorem aliases_filter (accepts : Entry → Prop) [DecidablePred accepts] :
    aliases ([entry].filter fun entry => accepts entry) =
      if accepts entry then [entry.2.alias_] else [] := by
  by_cases accepted : accepts entry <;> simp [aliases, accepted]

/-- A status is of one of the two kinds, or is that of a workflow that exists. -/
theorem appended_iff_not_rejected (code : Nat) :
    Appended call code ↔ ¬Rejected call code ∧ (call.update = false → code ≠ 200) := by
  cases mode : call.update
  · simp only [Appended, Rejected, mode, Stored, Refused]
    grind
  · simp only [Appended, Rejected, mode]
    grind

theorem appended_turn (open_ : (turn call report entry).raised = none) :
    (turn call report entry).created.map WFCreateRsp.alias_ =
        report.created.map WFCreateRsp.alias_ ++
          aliases ([entry].filter fun entry => SentWith call (Appended call) entry) ∧
      (turn call report entry).errors.map WFCreateRsp.alias_ =
        report.errors.map WFCreateRsp.alias_ ++
          aliases ([entry].filter fun entry => SentWith call (Rejected call) entry) := by
  rw [aliases_filter, aliases_filter]
  have done := turned call report entry
  generalize turn call report entry = after at done open_ ⊢
  cases done with
  | left raised => exact absurd open_ raised
  | unsent _ unsent =>
      rw [if_neg (fun sent => unsent sent.1), if_neg (fun sent => unsent sent.1)]
      simp
  | interrupted _ _ _ failure => cases open_
  | appended _ sent code msg wfid answer appended =>
      have accepted := (sentWith_iff answer (Appended call)).mpr ⟨sent, appended⟩
      have other : ¬SentWith call (Rejected call) entry := by
        rw [sentWith_iff answer]
        exact fun rejected => ((appended_iff_not_rejected code).mp appended).1 rejected.2
      rw [if_pos accepted, if_neg other]
      simp
  | passed _ sent body answer mode =>
      have neither : ¬Appended call 200 ∧ ¬Rejected call 200 := by
        simp [Appended, Rejected, mode, Stored, Refused]
      rw [if_neg (fun with_ => neither.1 ((sentWith_iff answer _).mp with_).2),
        if_neg (fun with_ => neither.2 ((sentWith_iff answer _).mp with_).2)]
      simp
  | rejected _ sent code reported body answer rejected =>
      have accepted := (sentWith_iff answer (Rejected call)).mpr ⟨sent, rejected⟩
      have other : ¬SentWith call (Appended call) entry := by
        rw [sentWith_iff answer]
        exact fun appended => ((appended_iff_not_rejected code).mp appended.2).1 rejected
      rw [if_pos accepted, if_neg other]
      simp [errorOf]

end Turn

section Loop

variable {call : Call} {workflows : List Entry}

theorem open_run_iff {report : Report} : (run (turn call) report workflows).raised = none ↔
    report.raised = none ∧
      ∀ entry ∈ workflows, Sent call entry → ¬(call.answers entry.1).Interrupts := by
  induction workflows generalizing report with
  | nil => simp [run_nil]
  | cons entry workflows ih => rw [run_cons, ih, open_turn_iff, List.forall_mem_cons, and_assoc]

theorem project_run (report : Report) :
    (run (turn call) report workflows).client.project = report.client.project := by
  refine run_kept (fun (now : Report) entry (same : now.client.project = report.client.project) =>
    ?_) rfl workflows
  have done := turned call now entry
  generalize turn call now entry = after at done ⊢
  cases done with
  | appended =>
      simp only [recorded]
      split <;> exact same
  | left | unsent | interrupted | passed | rejected => exact same

theorem aliases_filter_cons (entry : Entry) (accepts : Entry → Bool) :
    aliases ((entry :: workflows).filter accepts) =
      aliases ([entry].filter accepts) ++ aliases (workflows.filter accepts) := by
  rw [aliases, aliases, aliases, ← List.map_append, ← List.filter_append]
  rfl

/-- What a loop that nothing has left has appended. -/
theorem appended_run {report : Report} (open_ : (run (turn call) report workflows).raised = none) :
    (run (turn call) report workflows).created.map WFCreateRsp.alias_ =
        report.created.map WFCreateRsp.alias_ ++
          aliases (workflows.filter fun entry => SentWith call (Appended call) entry) ∧
      (run (turn call) report workflows).errors.map WFCreateRsp.alias_ =
        report.errors.map WFCreateRsp.alias_ ++
          aliases (workflows.filter fun entry => SentWith call (Rejected call) entry) := by
  induction workflows generalizing report with
  | nil => simp [aliases, run_nil]
  | cons entry workflows ih =>
      rw [run_cons] at open_ ⊢
      obtain ⟨created, errors⟩ := appended_turn (open_run_iff.mp open_).1
      obtain ⟨later, laterErrors⟩ := ih open_
      constructor
      · rw [later, created, List.append_assoc, ← aliases_filter_cons]
      · rw [laterErrors, errors, List.append_assoc, ← aliases_filter_cons]

theorem appended_looped {client : LabState} (open_ : (looped call client).raised = none) :
    (looped call client).created.map WFCreateRsp.alias_ =
        aliases (client.workflows.filter fun entry => SentWith call (Appended call) entry) ∧
      (looped call client).errors.map WFCreateRsp.alias_ =
        aliases (client.workflows.filter fun entry => SentWith call (Rejected call) entry) :=
  appended_run open_

theorem answered_of_run {report : Report} (mode : call.update = true)
    (open_ : (run (turn call) report workflows).raised = none) :
    ∀ entry ∈ workflows, ∃ code body, call.answers entry.1 = .answer code body := by
  intro entry member
  have answered := (open_run_iff.mp open_).2 entry member (.inl mode)
  cases answer : call.answers entry.1 with
  | connectionError =>
      rw [answer] at answered
      exact absurd trivial answered
  | answer code body => exact ⟨code, body, rfl⟩

end Loop

/-! The statuses that are sent to the other list than the one they belong to. -/

section Filters

variable {call : Call} {workflows : List Entry}

theorem filter_congr_of_meets (meets : Meets call workflows) :
    (workflows.filter fun entry => SentWith call (Appended call) entry) =
        (workflows.filter fun entry => SentWith call Stored entry) ∧
      (workflows.filter fun entry => SentWith call (Rejected call) entry) =
        (workflows.filter fun entry => SentWith call Refused entry) := by
  have same : ∀ entry ∈ workflows, ∀ code body, call.answers entry.1 = .answer code body →
      (Appended call code ↔ Stored code) ∧ (Rejected call code ↔ Refused code) := by
    intro entry member code body answer
    cases mode : call.update with
    | true =>
        rcases meets mode entry member code body answer with rfl | rfl | rfl <;>
          simp [Appended, Rejected, Stored, Refused, mode]
    | false => simp [Appended, Rejected, mode]
  constructor
  · apply List.filter_congr
    intro entry member
    rw [decide_eq_decide]
    refine and_congr_right fun _ => exists_congr fun code => exists_congr fun body => ?_
    exact and_congr_right fun answer => (same entry member code body answer).1
  · apply List.filter_congr
    intro entry member
    rw [decide_eq_decide]
    refine and_congr_right fun _ => exists_congr fun code => exists_congr fun body => ?_
    exact and_congr_right fun answer => (same entry member code body answer).2

theorem meets_of_length
    (length : (workflows.filter fun entry => SentWith call (Appended call) entry).length =
      (workflows.filter fun entry => SentWith call Stored entry).length) :
    Meets call workflows := by
  intro mode entry member code body answer
  have sent : Sent call entry := .inl mode
  have sublist : (workflows.filter fun entry => SentWith call Stored entry).Sublist
      (workflows.filter fun entry => SentWith call (Appended call) entry) := by
    apply List.monotone_filter_right
    intro entry stored
    rw [decide_eq_true_eq] at stored ⊢
    obtain ⟨sent, code, body, answer, rfl⟩ := stored
    exact ⟨sent, 201, body, answer, by simp [Appended, mode]⟩
  have equal := sublist.eq_of_length length.symm
  by_cases register : code = 400 ∨ code = 503
  · exact .inr register
  · have appended : SentWith call (Appended call) entry := by
      rw [sentWith_iff answer]
      exact ⟨sent, by simpa [Appended, mode, not_or] using register⟩
    have inside : entry ∈ workflows.filter fun entry => SentWith call Stored entry := by
      rw [equal, List.mem_filter]
      exact ⟨member, decide_eq_true appended⟩
    have stored : SentWith call Stored entry :=
      of_decide_eq_true (List.mem_filter.mp inside).2
    exact .inl ((sentWith_iff answer Stored).mp stored).2

/-- In update mode a status is of one kind or of the other. -/
theorem filter_append_perm_of_answered (mode : call.update = true)
    (answered : ∀ entry ∈ workflows, ∃ code body, call.answers entry.1 = .answer code body) :
    ((workflows.filter fun entry => SentWith call (Appended call) entry) ++
      workflows.filter fun entry => SentWith call (Rejected call) entry).Perm workflows := by
  have other : (workflows.filter fun entry => SentWith call (Rejected call) entry) =
      workflows.filter fun entry => !decide (SentWith call (Appended call) entry) := by
    apply List.filter_congr
    intro entry member
    obtain ⟨code, body, answer⟩ := answered entry member
    have sent : Sent call entry := .inl mode
    have kinds : Rejected call code ↔ ¬Appended call code := by
      rw [appended_iff_not_rejected]
      simp [mode]
    rw [← decide_not, decide_eq_decide, sentWith_iff answer, sentWith_iff answer, kinds]
    simp [sent]
  rw [other]
  exact List.filter_append_perm _ workflows

end Filters

section Returned

variable {Text : Type} {yaml : Yaml Text} {call : Call} {disk : Disk Text} {client : LabState}
  {rsp : WFPushRsp}

/-- A push returns if it has a project and a file to write, and no answer interrupts it. -/
theorem returned_iff : (workflows_push yaml call disk client).result = .ok rsp ↔
    client.project ≠ none ∧ (call.refresh_workflows = true → call.wf_file ≠ none) ∧
      (∀ entry ∈ client.workflows, Sent call entry → ¬(call.answers entry.1).Interrupts) ∧
      rsp = ⟨(looped call client).created, (looped call client).errors⟩ := by
  have loop_open : (looped call client).raised = none ↔
      ∀ entry ∈ client.workflows, Sent call entry → ¬(call.answers entry.1).Interrupts := by
    rw [looped, open_run_iff]
    exact and_iff_right rfl
  have same : (looped call client).client.project = client.project := project_run _
  have returns : (workflows_push yaml call disk client).result =
      if client.project = none then .error .validationError
      else (finish yaml call disk (looped call client)).1 := by
    cases project : client.project <;> simp [workflows_push, LabState.snapshot, project, looped]
  rw [returns, ← loop_open]
  by_cases project : client.project = none
  · simp [project]
  · rw [if_neg project]
    obtain ⟨project_, present⟩ := Option.ne_none_iff_exists'.mp project
    cases raised : (looped call client).raised with
    | some failure => simp [finish, raised]
    | none =>
        cases mode : call.refresh_workflows with
        | false => simp [finish, raised, mode, project, eq_comm]
        | true =>
            cases file : call.wf_file with
            | none => simp [finish, raised, mode, file]
            | some fp =>
                simp [finish, raised, mode, file, LabState.write, LabState.snapshot, same,
                  present, eq_comm]

theorem open_of_returned (returned : (workflows_push yaml call disk client).result = .ok rsp) :
    (looped call client).raised = none ∧
      rsp = ⟨(looped call client).created, (looped call client).errors⟩ := by
  obtain ⟨_, _, answered, lists⟩ := returned_iff.mp returned
  exact ⟨open_run_iff.mpr ⟨rfl, answered⟩, lists⟩

/-- In update mode every workflow of the file is in one of the lists. -/
theorem accounted_of_returned (mode : call.update = true)
    (returned : (workflows_push yaml call disk client).result = .ok rsp) :
    ((rsp.created ++ rsp.errors).map WFCreateRsp.alias_).Perm (aliases client.workflows) := by
  obtain ⟨open_, rfl⟩ := open_of_returned returned
  obtain ⟨created, errors⟩ := appended_looped open_
  rw [List.map_append, created, errors, aliases, aliases, ← List.map_append]
  exact (filter_append_perm_of_answered mode (answered_of_run mode open_)).map _

/-- The report of a push that returns lists the workflows as their answers tell exactly if it has
created them, or every update has been stored or has raised. -/
theorem push_report_iff (yaml : Yaml Text) (call : Call) (disk : Disk Text) (client : LabState)
    {rsp : WFPushRsp} (returned : (workflows_push yaml call disk client).result = .ok rsp) :
    Partitioned call client.workflows rsp ↔ Meets call client.workflows := by
  obtain ⟨open_, lists⟩ := open_of_returned returned
  obtain ⟨created, errors⟩ := appended_looped open_
  constructor
  · intro partitioned
    have stored := partitioned.created
    rw [lists, created] at stored
    apply meets_of_length
    simpa [aliases] using stored.length_eq
  · intro meets
    obtain ⟨stored, refused⟩ := filter_congr_of_meets meets
    refine ⟨?_, ?_, fun mode => accounted_of_returned mode returned⟩
    · rw [lists, created, stored]
    · rw [lists, errors, refused]

end Returned

namespace Sample

def client : LabState := WorkflowsPush.Sample.client

def call (update : Bool) (code : Nat) : Call where
  update := update
  wf_file := some "labfile.yaml"
  answers := fun _ => .answer code (some (none, some "0a1b2c3d4e"))

theorem returned (update : Bool) (code : Nat) :
    (workflows_push LabStates.Sample.yaml (call update code) WorkflowsPush.Sample.disk
      client).result =
        .ok ⟨(looped (call update code) client).created,
          (looped (call update code) client).errors⟩ := by
  rw [returned_iff]
  refine ⟨by simp [client, WorkflowsPush.Sample.client], by simp [call], ?_, rfl⟩
  rintro entry _ _ ⟨_, _, without⟩
  cases without

theorem push_report_sample : Partitioned (call false 500) client.workflows
      ⟨(looped (call false 500) client).created, (looped (call false 500) client).errors⟩ ↔
    Meets (call false 500) client.workflows :=
  push_report_iff LabStates.Sample.yaml (call false 500) WorkflowsPush.Sample.disk client
    (returned false 500)

end Sample

/-- An update that the server has failed to handle is reported as a workflow that was created. -/
theorem failed_update_created : ¬∀ (yaml : Yaml Json) (call : Call) (disk : Disk Json)
    (client : LabState) (rsp : WFPushRsp), (workflows_push yaml call disk client).result = .ok rsp →
      Partitioned call client.workflows rsp := by
  intro partitioned
  have lists := partitioned _ _ _ _ _ (Sample.returned true 500)
  have created := lists.created.length_eq
  cases created

end PushReports

end LabFunctions
