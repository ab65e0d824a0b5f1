import LabFunctions.PushReports

/-!
`client.labstate.LabState`: the workflows of a lab file are found by their ids and deleted by their
aliases, and a user may edit the file.
-/

namespace LabFunctions

namespace LabAliases

open LabState Runs PushReports

open WorkflowsPush (Seen)

def find_by_id (state : LabState) (wfid : Option String) : Option Marked.WorkflowDataWeb :=
  (state.workflows.find? fun entry => entry.2.wfid.value = wfid).map Prod.snd

/-- `none` for a KeyError -/
def delete_workflow (state : LabState) (alias_ : String) : Option LabState :=
  if alias_ ∈ state.workflows.map Prod.fst then some (state.delete_workflow alias_) else none

inductive Request where
  | add_workflow (wf : Marked.WorkflowDataWeb)
  | delete_workflow (alias_ : String)
  | workflows_push (call : Call)

def step (state : LabState) : Request → LabState
  | .add_workflow wf => state.add_workflow wf
  | .delete_workflow alias_ => (delete_workflow state alias_).getD state
  | .workflows_push call => (looped call state).client

/-- A mapping has each of its keys once. -/
structure Loaded {Text : Type} (yaml : Yaml Text) where
  disk : Disk Text
  fpath : String
  state : LabState
  loaded : from_file yaml disk fpath = some state
  distinct : (state.workflows.map Prod.fst).Nodup

/-- What has an id is found and can be deleted, and is then gone. -/
def Deletes (wfid : Option String) (state : LabState) : Prop :=
  ∀ wf, find_by_id state wfid = some wf →
    ∃ after, delete_workflow state wf.alias_ = some after ∧ find_by_id after wfid = none

def Single (state : LabState) (alias_ : String) : Prop :=
  (state.workflows.filter fun entry => entry.2.alias_ = alias_).length = 1

def Contract (wfid : Option String) (state : LabState) : Prop :=
  Deletes wfid state ∧ ∀ wf, Single (state.add_workflow wf) wf.alias_

/-- At most one workflow has the id. -/
def Once (wfid : Option String) (workflows : List Entry) : Prop :=
  ∀ first ∈ workflows, ∀ second ∈ workflows,
    first.2.wfid.value = wfid → second.2.wfid.value = wfid → first.1 = second.1

instance : DecidablePred Seen.Interrupts
  | .connectionError => inferInstanceAs (Decidable True)
  | .answer code body => inferInstanceAs (Decidable (code ≠ 400 ∧ code ≠ 503 ∧ body = none))

/-- The entry that a push writes for one that the server has stored. -/
def gained (call : Call) (entry : Entry) : List Entry :=
  if call.update = false ∧ call.refresh_workflows = true ∧ Sent call entry then
    match call.answers entry.1 with
    | .answer 201 (some (_, wfid)) => [(entry.2.alias_, entry.2.assign (.wfid wfid))]
    | _ => []
  else []

/-- Those that it writes until a request interrupts it. -/
def recordings (call : Call) : List Entry → List Entry
  | [] => []
  | entry :: rest =>
      if Sent call entry ∧ (call.answers entry.1).Interrupts then []
      else gained call entry ++ recordings call rest

def updates (state : LabState) : Request → List Entry
  | .add_workflow wf => [(wf.alias_, wf)]
  | .delete_workflow _ => []
  | .workflows_push call => recordings call state.workflows

/-- The request gives the id to one workflow at most, and to none if another keeps it. -/
def Meets (wfid : Option String) (state : LabState) (request : Request) : Prop :=
  ∀ update ∈ updates state request, update.2.wfid.value = wfid →
    (∀ other ∈ updates state request, other.2.wfid.value = wfid → other.1 = update.1) ∧
    ∀ entry ∈ state.workflows, entry.2.wfid.value = wfid →
      entry.1 ∈ (updates state request).map Prod.fst

/-- Every workflow stands under its alias. -/
def Aliased (workflows : List Entry) : Prop := ∀ entry ∈ workflows, entry.1 = entry.2.alias_

def Keyed (workflows : List Entry) : Prop := (workflows.map Prod.fst).Nodup

/-! What the contract says of one state. -/

section State

variable {state : LabState} {wfid : Option String}

theorem mem_of_find {wf : Marked.WorkflowDataWeb} (found : find_by_id state wfid = some wf) :
    ∃ entry ∈ state.workflows, entry.2 = wf ∧ wf.wfid.value = wfid := by
  obtain ⟨entry, first, rfl⟩ := Option.map_eq_some_iff.mp found
  have accepted := List.find?_some first
  exact ⟨entry, List.mem_of_find?_eq_some first, rfl, of_decide_eq_true accepted⟩

theorem find_none_iff :
    find_by_id state wfid = none ↔ ∀ entry ∈ state.workflows, entry.2.wfid.value ≠ wfid := by
  simp [find_by_id, List.find?_eq_none]

theorem deletes_iff (aliased : Aliased state.workflows) :
    Deletes wfid state ↔ Once wfid state.workflows := by
  constructor
  · intro deletes first inFirst second inSecond idFirst idSecond
    obtain ⟨wf, found⟩ : ∃ wf, find_by_id state wfid = some wf := by
      apply Option.ne_none_iff_exists'.mp
      intro none
      exact find_none_iff.mp none first inFirst idFirst
    obtain ⟨after, deleted, gone⟩ := deletes wf found
    -- all that is left has another id
    have under : ∀ entry ∈ state.workflows, entry.2.wfid.value = wfid → entry.1 = wf.alias_ := by
      intro entry member id_
      by_contra other
      unfold delete_workflow at deleted
      split at deleted
      · obtain rfl := Option.some.inj deleted
        refine find_none_iff.mp gone entry ?_ id_
        exact List.mem_filter.mpr ⟨member, decide_eq_true other⟩
      · cases deleted
    rw [under first inFirst idFirst, under second inSecond idSecond]
  · intro once wf found
    obtain ⟨entry, member, rfl, id_⟩ := mem_of_find found
    have present : entry.2.alias_ ∈ state.workflows.map Prod.fst := by
      rw [← aliased entry member]
      exact List.mem_map_of_mem member
    refine ⟨_, if_pos present, find_none_iff.mpr ?_⟩
    intro other inOther same
    obtain ⟨inside, different⟩ := List.mem_filter.mp inOther
    have key := once other inside entry member same id_
    exact of_decide_eq_true different (key.trans (aliased entry member))

theorem single_iff (keyed : Keyed state.workflows) :
    (∀ wf, Single (state.add_workflow wf) wf.alias_) ↔ Aliased state.workflows := by
  constructor
  · intro single entry member
    by_contra other
    obtain ⟨only, lone⟩ := List.length_eq_one_iff.mp (single entry.2)
    have kept : entry ∈ (state.add_workflow entry.2).workflows :=
      (Dict.mem_set_iff keyed).mpr (.inr ⟨member, other⟩)
    have added : (entry.2.alias_, entry.2) ∈ (state.add_workflow entry.2).workflows :=
      (Dict.mem_set_iff keyed).mpr (.inl rfl)
    have first : entry ∈ [only] := by
      rw [← lone]
      exact List.mem_filter.mpr ⟨kept, decide_eq_true rfl⟩
    have second : (entry.2.alias_, entry.2) ∈ [only] := by
      rw [← lone]
      exact List.mem_filter.mpr ⟨added, decide_eq_true rfl⟩
    have same : entry = (entry.2.alias_, entry.2) :=
      (List.mem_singleton.mp first).trans (List.mem_singleton.mp second).symm
    exact other (congrArg Prod.fst same)
  · intro aliased wf
    have distinct : (state.add_workflow wf).workflows.Nodup :=
      (Dict.nodup_set wf.alias_ wf keyed).of_map _
    have lone : ((state.add_workflow wf).workflows.filter fun entry =>
        entry.2.alias_ = wf.alias_).Perm [(wf.alias_, wf)] := by
      refine (List.perm_ext_iff_of_nodup (distinct.filter _) (List.nodup_singleton _)).mpr ?_
      intro entry
      rw [List.mem_filter, decide_eq_true_eq, List.mem_singleton]
      constructor
      · rintro ⟨member, alias_⟩
        rcases (Dict.mem_set_iff keyed).mp member with new | ⟨old, other⟩
        · exact new
        · exact absurd ((aliased entry old).trans alias_) other
      · rintro rfl
        exact ⟨(Dict.mem_set_iff keyed).mpr (.inl rfl), rfl⟩
    exact lone.length_eq

theorem contract_iff (keyed : Keyed state.workflows) :
    Contract wfid state ↔ Aliased state.workflows ∧ Once wfid state.workflows := by
  rw [Contract, single_iff keyed, and_comm]
  exact and_congr_right deletes_iff

end State

/-! What a request does to the workflows. -/

section Push

variable {call : Call}

theorem run_raised {report : Report} (raised : report.raised ≠ none) (workflows : List Entry) :
    run (turn call) report workflows = report := by
  induction workflows with
  | nil => rfl
  | cons entry workflows ih =>
      have same : turn call report entry = report := by
        rw [turn, if_pos (Option.isSome_iff_ne_none.mpr raised)]
      rw [run_cons, same, ih]

theorem workflows_turn {report : Report} {entry : Entry}
    (answered : Sent call entry → ¬(call.answers entry.1).Interrupts) :
    (turn call report entry).client.workflows =
      Dict.setAll report.client.workflows
        (if report.raised = none then gained call entry else []) := by
  have done := turned call report entry
  generalize turn call report entry = after at done ⊢
  cases done with
  | left raised => rw [if_neg raised, Dict.setAll, List.foldl_nil]
  | unsent open_ unsent =>
      rw [if_pos open_, gained, if_neg (fun sent => unsent sent.2.2), Dict.setAll, List.foldl_nil]
  | interrupted open_ sent interrupts => exact absurd interrupts (answered sent)
  | appended open_ sent code msg wfid answer appended =>
      rw [if_pos open_, gained, recorded]
      by_cases records : call.update = false ∧ call.refresh_workflows = true
      · have stored : code = 201 := by simpa [Appended, records.1, Stored] using appended
        subst stored
        rw [if_pos records, if_pos ⟨records.1, records.2, sent⟩, answer]
        rfl
      · rw [if_neg records, if_neg (fun all => records ⟨all.1, all.2.1⟩)]
        rfl
  | passed open_ sent body answer =>
      rw [if_pos open_, gained, answer]
      split <;> rfl
  | rejected open_ sent code reported body answer rejected =>
      rw [if_pos open_, gained]
      split
      · rename_i records
        have other : code ≠ 201 := by
          have refused : Refused code := by simpa [Rejected, records.1] using rejected
          exact refused.1
        rw [answer]
        split
        · rename_i stored
          cases stored
          exact absurd rfl other
        · rfl
      · rfl

theorem workflows_run {report : Report} (open_ : report.raised = none) (workflows : List Entry) :
    (run (turn call) report workflows).client.workflows =
      Dict.setAll report.client.workflows (recordings call workflows) := by
  induction workflows generalizing report with
  | nil => rfl
  | cons entry workflows ih =>
      rw [run_cons, recordings]
      split
      · rename_i interrupts
        have raised : (turn call report entry).raised ≠ none := by
          intro none
          exact (open_turn_iff.mp none).2 interrupts.1 interrupts.2
        rw [run_raised raised]
        have done := turned call report entry
        generalize turn call report entry = after at done raised ⊢
        cases done with
        | left failed => exact absurd open_ failed
        | interrupted => rfl
        | unsent | appended | passed | rejected => exact absurd open_ raised
      · rename_i answered
        have before : Sent call entry → ¬(call.answers entry.1).Interrupts := not_and.mp answered
        rw [ih (open_turn_iff.mpr ⟨open_, before⟩), workflows_turn before, if_pos open_,
          Dict.setAll, Dict.setAll, Dict.setAll, ← List.foldl_append]

theorem mem_recordings {workflows : List Entry} {update : Entry}
    (member : update ∈ recordings call workflows) : update.1 = update.2.alias_ := by
  induction workflows with
  | nil => cases member
  | cons entry workflows ih =>
      rw [recordings] at member
      split at member
      · cases member
      · rcases List.mem_append.mp member with new | later
        · rw [gained] at new
          split at new
          · split at new
            · rw [List.mem_singleton.mp new]
              rfl
            · cases new
          · cases new
        · exact ih later

theorem recordings_sublist (workflows : List Entry) :
    ((recordings call workflows).map Prod.fst).Sublist (aliases workflows) := by
  induction workflows with
  | nil => exact List.Sublist.refl _
  | cons entry workflows ih =>
      rw [recordings]
      split
      · exact List.nil_sublist _
      · have one : ((gained call entry).map Prod.fst).Sublist [entry.2.alias_] := by
          rw [gained]
          split
          · split
            · exact List.Sublist.refl _
            · exact List.nil_sublist _
          · exact List.nil_sublist _
        rw [List.map_append]
        exact one.append ih

end Push

section Step

variable {state : LabState} {request : Request}

/-- The client of a push is that of its loop: a lab file has a project. -/
theorem client_workflows_push {Text : Type} (yaml : Yaml Text) (disk : Disk Text) (call : Call)
    (project : state.project ≠ none) :
    (PushReports.workflows_push yaml call disk state).client =
      step state (.workflows_push call) := by
  obtain ⟨project_, present⟩ := Option.ne_none_iff_exists'.mp project
  simp [PushReports.workflows_push, LabState.snapshot, present, step, looped]

theorem workflows_step (kept : ∀ alias_, request ≠ .delete_workflow alias_) :
    (step state request).workflows = Dict.setAll state.workflows (updates state request) := by
  cases request with
  | add_workflow wf => rfl
  | delete_workflow alias_ => exact absurd rfl (kept alias_)
  | workflows_push call => exact workflows_run rfl state.workflows

theorem workflows_delete (alias_ : String) :
    (step state (.delete_workflow alias_)).workflows.Sublist state.workflows := by
  simp only [step, delete_workflow]
  split
  · exact List.filter_sublist
  · exact List.Sublist.refl _

theorem keyed_step (keyed : Keyed state.workflows) : Keyed (step state request).workflows := by
  cases request with
  | delete_workflow alias_ => exact keyed.sublist ((workflows_delete alias_).map _)
  | add_workflow | workflows_push =>
      rw [Keyed, workflows_step (by simp)]
      exact Dict.nodup_setAll _ keyed

theorem aliased_updates : Aliased (updates state request) := by
  intro update member
  cases request with
  | add_workflow wf =>
      rw [List.mem_singleton.mp member]
  | delete_workflow alias_ => cases member
  | workflows_push call => exact mem_recordings member

theorem keyed_updates (keyed : Keyed state.workflows) (aliased : Aliased state.workflows) :
    Keyed (updates state request) := by
  cases request with
  | add_workflow wf => exact List.nodup_singleton _
  | delete_workflow alias_ => exact List.nodup_nil
  | workflows_push call =>
      have same : aliases state.workflows = state.workflows.map Prod.fst :=
        List.map_congr_left fun entry member => (aliased entry member).symm
      have sublist : ((recordings call state.workflows).map Prod.fst).Sublist
          (aliases state.workflows) := recordings_sublist state.workflows
      rw [same] at sublist
      exact keyed.sublist sublist

theorem mem_step_iff (keyed : Keyed state.workflows) (aliased : Aliased state.workflows)
    (kept : ∀ alias_, request ≠ .delete_workflow alias_) {entry : Entry} :
    entry ∈ (step state request).workflows ↔ entry ∈ updates state request ∨
      entry ∈ state.workflows ∧ entry.1 ∉ (updates state request).map Prod.fst := by
  rw [workflows_step kept]
  exact Dict.mem_setAll_iff keyed (keyed_updates keyed aliased)

theorem aliased_step (keyed : Keyed state.workflows) (aliased : Aliased state.workflows) :
    Aliased (step state request).workflows := by
  intro entry member
  cases request with
  | delete_workflow alias_ => exact aliased entry ((workflows_delete alias_).subset member)
  | add_workflow | workflows_push =>
      rcases (mem_step_iff keyed aliased (by simp)).mp member with new | ⟨old, _⟩
      · exact aliased_updates entry new
      · exact aliased entry old

/-- A request keeps an id the only one of its kind exactly if it meets its condition. -/
theorem once_step_iff {wfid : Option String} (keyed : Keyed state.workflows)
    (aliased : Aliased state.workflows) (once : Once wfid state.workflows) :
    Once wfid (step state request).workflows ↔ Meets wfid state request := by
  by_cases deletes : ∃ alias_, request = .delete_workflow alias_
  · obtain ⟨alias_, rfl⟩ := deletes
    have sublist : (step state (.delete_workflow alias_)).workflows.Sublist state.workflows :=
      workflows_delete alias_
    constructor
    · intro _ update member
      cases member
    · intro _ first inFirst second inSecond
      exact once first (sublist.subset inFirst) second (sublist.subset inSecond)
  · have after (entry : Entry) : entry ∈ (step state request).workflows ↔
        entry ∈ updates state request ∨
          entry ∈ state.workflows ∧ entry.1 ∉ (updates state request).map Prod.fst :=
      mem_step_iff keyed aliased (not_exists.mp deletes)
    constructor
    · intro later update member id_
      have inside := (after update).mpr (.inl member)
      constructor
      · intro other inOther same
        exact later other ((after other).mpr (.inl inOther)) update inside same id_
      · intro entry inEntry same
        by_contra untouched
        have kept := (after entry).mpr (.inr ⟨inEntry, untouched⟩)
        have key := later entry kept update inside same id_
        exact untouched (key ▸ List.mem_map_of_mem member)
    · intro meets first inFirst second inSecond idFirst idSecond
      rcases (after first).mp inFirst with newFirst | ⟨oldFirst, keptFirst⟩
      · obtain ⟨alone, replaced⟩ := meets first newFirst idFirst
        rcases (after second).mp inSecond with newSecond | ⟨oldSecond, keptSecond⟩
        · exact (alone second newSecond idSecond).symm
        · exact absurd (replaced second oldSecond idSecond) keptSecond
      · rcases (after second).mp inSecond with newSecond | ⟨oldSecond, _⟩
        · obtain ⟨_, replaced⟩ := meets second newSecond idSecond
          exact absurd (replaced first oldFirst idFirst) keptFirst
        · exact once first oldFirst second oldSecond idFirst idSecond

end Step

structure Sound (wfid : Option String) (state : LabState) : Prop where
  keyed : Keyed state.workflows
  aliased : Aliased state.workflows
  once : Once wfid state.workflows

theorem sound_step_iff {wfid : Option String} {state : LabState} {request : Request}
    (sound : Sound wfid state) : Sound wfid (step state request) ↔ Meets wfid state request := by
  rw [← once_step_iff sound.keyed sound.aliased sound.once]
  constructor
  · exact Sound.once
  · intro once
    exact ⟨keyed_step sound.keyed, aliased_step sound.keyed sound.aliased, once⟩

/-- What is found by an id can be deleted by its alias, in all that requests make of a lab file,
exactly if its workflows stand under their aliases, one at most has the id, and no request gives it
to another one. -/
theorem lab_contract_iff {Text : Type} {yaml : Yaml Text} (start : Loaded yaml)
    (requests : List Request) (wfid : Option String) :
    (∀ reached ∈ states step start.state requests, Contract wfid reached) ↔
      Aliased start.state.workflows ∧ Once wfid start.state.workflows ∧
        Along step (Meets wfid) start.state requests := by
  have keyed : ∀ reached ∈ states step start.state requests, Keyed reached.workflows :=
    states_kept (fun (state : LabState) _ (keyed : Keyed state.workflows) => keyed_step keyed)
      start.distinct requests
  have exact_ : (∀ reached ∈ states step start.state requests, Contract wfid reached) ↔
      ∀ reached ∈ states step start.state requests, Sound wfid reached := by
    refine forall₂_congr fun reached member => ?_
    rw [contract_iff (keyed reached member)]
    exact ⟨fun ⟨aliased, once⟩ => ⟨keyed reached member, aliased, once⟩,
      fun sound => ⟨sound.aliased, sound.once⟩⟩
  have run (sound : Sound wfid start.state) :
      (∀ reached ∈ states step start.state requests, Sound wfid reached) ↔
        Along step (Meets wfid) start.state requests :=
    states_iff_along (fun _ _ sound => sound_step_iff sound) sound
  rw [exact_]
  constructor
  · intro every
    have sound := every _ (self_mem_states _ requests)
    exact ⟨sound.aliased, sound.once, (run sound).mp every⟩
  · rintro ⟨aliased, once, along⟩
    exact (run ⟨start.distinct, aliased, once⟩).mpr along

namespace Sample

def disk (_ : String) : Option Json :=
  some (.dict [("version", .str "0.2.0"),
    ("project", .dict [("name", .str "first"), ("projectid", .str "p")]),
    ("workflows", .dict [("nightly", .dict [("alias", .str "daily"), ("wfid", .str "w"),
      ("nbtask", .dict [("nb_name", .str "report"), ("params", .dict [])])])])])

def wf : Marked.WorkflowDataWeb :=
  { alias_ := "daily"
    nbtask := { nb_name := "report", params := [] }
    wfid := ⟨some (some "w")⟩ }

def start : Loaded LabStates.Sample.yaml where
  disk := disk
  fpath := "labfile.yaml"
  state :=
    { version := "0.2.0"
      project := some { name := "first", projectid := "p" }
      workflows := [("nightly", wf)]
      file := some "labfile.yaml" }
  loaded := rfl
  distinct := by decide

end Sample

/-- A workflow whose key in the file is not its alias is found, and cannot be deleted. -/
theorem renamed_not_deleted : ¬∀ (start : Loaded LabStates.Sample.yaml) (requests : List Request)
    (wfid : Option String), ∀ reached ∈ states step start.state requests,
      Contract wfid reached := by
  intro contract
  obtain ⟨deletes, _⟩ := contract Sample.start [] (some "w") _ (self_mem_states _ [])
  obtain ⟨after, deleted, _⟩ := deletes Sample.wf rfl
  cases deleted

end LabAliases

end LabFunctions
