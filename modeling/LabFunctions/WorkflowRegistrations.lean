import LabFunctions.WorkflowsCore

/-!
`workflows_mg.register` as its callers rely on it: it returns the id of a row that holds what it
was given, or raises `WorkflowRegisterError`.
-/

namespace LabFunctions

namespace WorkflowRegistrations

open Workflows WorkflowsMg

def Refused (result : Except Exn (Option String × Database)) : Prop :=
  ∃ project alias_, result = .error (.workflowRegisterError project alias_)

/-- A statement that the database refuses leaves the table as it was. -/
def leaves (db : Database) : Except Exn (Option String × Database) → Database
  | .ok (_, later) => later
  | .error _ => db

def Returned (projectid : String) (wfd : WorkflowDataWeb)
    (result : Except Exn (Option String × Database)) : Prop :=
  ∃ wfid later, result = .ok (some wfid, later) ∧ ∃ row ∈ later.workflows.rows,
    row.wfid = wfid ∧ row.project_id = some projectid ∧ WorkflowsMg.Stores wfd row

section Contract

variable (env : Env) (server : Server) (projectid : String) (wfd : WorkflowDataWeb)

def Held (row : WorkflowModel) : Prop :=
  row ∈ server.db.workflows.rows ∧ row.project_id = some projectid ∧ some row.wfid = wfd.wfid

structure Contract (update : Bool) : Prop where
  outcome :
    let result := register env server.db projectid wfd update
    Returned projectid wfd result ∨ Refused result ∧ leaves server.db result = server.db
  taken : update = true → (∃ row ∈ server.db.workflows.rows, row.project_id = some projectid ∧
      row.alias_ = wfd.alias_ ∧ some row.wfid ≠ wfd.wfid) →
    Refused (register env server.db projectid wfd update)
  missing : update = true → (¬∃ row, Held server projectid wfd row) →
    Refused (register env server.db projectid wfd update)
  created : update = false →
    (workflow_create env server projectid (some wfd)).1.status ∈ [201, 200]
  updated : update = true → truthy wfd.wfid = true →
    (workflow_update env server projectid (some wfd)).1.status ∈ [201, 503]

/-- The alias fits its column. An update besides finds the workflow in the project, where no other
one has the alias. -/
def Meets (update : Bool) : Prop :=
  wfd.alias_.length ≤ WorkflowModel.ALIAS_LEN ∧
    (update = true → ∃ row, Held server projectid wfd row ∧
      ∀ other ∈ server.db.workflows.rows, other.project_id = some projectid →
        other.alias_ = wfd.alias_ → other = row)

end Contract

/-! What the database makes of the two statements. -/

section Statements

variable {env : Env} {server : Server} {projectid : String} {wfd : WorkflowDataWeb}

theorem insert_returned (inserts : Inserts env server.db projectid wfd) :
    Returned projectid wfd (register env server.db projectid wfd) := by
  obtain ⟨⟨wfid, later⟩, registered⟩ :=
    (register_insert_iff env server.db projectid wfd).mpr inserts
  obtain ⟨rfl, _, rows⟩ := register_insert_ok registered
  refine ⟨env.wfid.text, later, registered, newRow env projectid wfd, ?_, rfl, rfl,
    newRow_stores env projectid wfd⟩
  rw [rows]
  exact List.mem_append_right _ (List.mem_singleton.mpr rfl)

theorem insert_refused (refused : ¬Inserts env server.db projectid wfd) :
    register env server.db projectid wfd =
      .error (refusal wfd (.workflowRegisterError projectid wfd.alias_)) := by
  cases flushed : flush server.db projectid (newRow env projectid wfd) with
  | none => simp [register, flushed]
  | some workflows =>
      have registered : ∃ result, register env server.db projectid wfd = .ok result := by
        simp [register, flushed]
      exact absurd ((register_insert_iff env server.db projectid wfd).mp registered) refused

theorem length_of_inserts (inserts : Inserts env server.db projectid wfd) :
    wfd.alias_.length ≤ WorkflowModel.ALIAS_LEN :=
  inserts.2.2.2 (newRow env projectid wfd) (List.mem_append_right _ (List.mem_singleton.mpr rfl))

theorem update_refused
    (refused : ¬WorkflowModel.Accepted (server.db.workflows.rows.map (rewritten env wfd))) :
    register env server.db projectid wfd true = .error (refusal wfd .integrityError) := by
  cases updated : _update wfd.wfid projectid wfd env.now server.db.workflows with
  | none => simp [register, updated]
  | some workflows =>
      have registered : ∃ result, register env server.db projectid wfd true = .ok result := by
        simp [register, updated]
      exact absurd ((register_update_iff env server.db projectid wfd).mp registered) refused

theorem update_not_refused : ¬Refused (register env server.db projectid wfd true) := by
  rintro ⟨project, alias_, raised⟩
  by_cases accepted : WorkflowModel.Accepted (server.db.workflows.rows.map (rewritten env wfd))
  · obtain ⟨result, registered⟩ := (register_update_iff env server.db projectid wfd).mpr accepted
    rw [raised] at registered
    cases registered
  · rw [update_refused accepted, refusal] at raised
    split at raised <;> cases raised

/-! An update, in terms of the rows before it. -/

theorem rewritten_wfid (env : Env) (wfd : WorkflowDataWeb) (row : WorkflowModel) :
    (rewritten env wfd row).wfid = row.wfid := by
  unfold rewritten
  split <;> rfl

theorem rewritten_project (env : Env) (wfd : WorkflowDataWeb) (row : WorkflowModel) :
    (rewritten env wfd row).project_id = row.project_id := by
  unfold rewritten
  split <;> rfl

theorem rewritten_named {row : WorkflowModel} (named : some row.wfid = wfd.wfid) :
    rewritten env wfd row = updatedRow wfd env.now row := by
  simp [rewritten, named]

theorem rewritten_other {row : WorkflowModel} (different : some row.wfid ≠ wfd.wfid) :
    rewritten env wfd row = row := by
  simp [rewritten, different]

theorem alias_free_of_accepted {row : WorkflowModel} (held : Held server projectid wfd row)
    (accepted : WorkflowModel.Accepted (server.db.workflows.rows.map (rewritten env wfd)))
    {other : WorkflowModel} (member : other ∈ server.db.workflows.rows)
    (project_id : other.project_id = some projectid) (alias_ : other.alias_ = wfd.alias_) :
    other = row := by
  by_contra different
  have apart : some other.wfid ≠ wfd.wfid := by
    intro named
    apply different
    apply WorkflowTable.row_unique member held.1
    exact Option.some.inj (named.trans held.2.2.symm)
  have stays : other ∈ server.db.workflows.rows.map (rewritten env wfd) :=
    List.mem_map.mpr ⟨other, member, rewritten_other apart⟩
  have changed : updatedRow wfd env.now row ∈ server.db.workflows.rows.map (rewritten env wfd) :=
    List.mem_map.mpr ⟨row, held.1, rewritten_named held.2.2⟩
  have keyed : WorkflowModel.aliasKey other = some (wfd.alias_, projectid) := by
    simp [WorkflowModel.aliasKey, project_id, alias_]
  have same : WorkflowModel.aliasKey (updatedRow wfd env.now row) =
      some (wfd.alias_, projectid) := by
    simp [WorkflowModel.aliasKey, updatedRow, held.2.1]
  have equal := accepted.2.1.unique stays changed keyed same
  rw [equal] at apart
  exact apart held.2.2

/-- No two rows meet at the alias that one of them is given. -/
theorem aliases_kept {row : WorkflowModel} (held : Held server projectid wfd row)
    (free : ∀ other ∈ server.db.workflows.rows, other.project_id = some projectid →
      other.alias_ = wfd.alias_ → other = row) :
    Distinct WorkflowModel.aliasKey (server.db.workflows.rows.map (rewritten env wfd)) := by
  obtain ⟨wfids, aliases, _⟩ := server.db.workflows.holds
  have taken : ∀ other ∈ server.db.workflows.rows, other ≠ row →
      WorkflowModel.aliasKey other ≠ some (wfd.alias_, projectid) := by
    intro other member different keyed
    obtain ⟨project, project_id, pair⟩ := Option.map_eq_some_iff.mp keyed
    obtain ⟨alias_, rfl⟩ := Prod.mk.inj pair
    exact different (free other member project_id alias_)
  have own : WorkflowModel.aliasKey (updatedRow wfd env.now row) =
      some (wfd.alias_, projectid) := by
    simp [WorkflowModel.aliasKey, updatedRow, held.2.1]
  have kept : ∀ other ∈ server.db.workflows.rows, other ≠ row →
      rewritten env wfd other = other := by
    intro other member different
    apply rewritten_other
    intro named
    apply different
    exact WorkflowTable.row_unique member held.1 (Option.some.inj (named.trans held.2.2.symm))
  have both := List.Pairwise.and (Distinct.pairwise_iff.mp wfids) (Distinct.pairwise_iff.mp aliases)
  rw [Distinct.pairwise_iff, List.pairwise_map]
  refine both.imp_of_mem ?_
  rintro left right leftMember rightMember ⟨apart, clear⟩
  have different : left ≠ right := fun same => apart left.wfid rfl (by rw [same])
  by_cases first : left = row
  · subst first
    rw [rewritten_named held.2.2, own, kept right rightMember different.symm]
    rintro value ⟨rfl⟩
    exact taken right rightMember different.symm
  · rw [kept left leftMember first]
    by_cases second : right = row
    · subst second
      rw [rewritten_named held.2.2, own]
      rintro value keyed same
      exact taken left leftMember first (keyed.trans same.symm)
    · rw [kept right rightMember second]
      exact clear

theorem accepted_of_alias_free {row : WorkflowModel} (held : Held server projectid wfd row)
    (length : wfd.alias_.length ≤ WorkflowModel.ALIAS_LEN)
    (free : ∀ other ∈ server.db.workflows.rows, other.project_id = some projectid →
      other.alias_ = wfd.alias_ → other = row) :
    WorkflowModel.Accepted (server.db.workflows.rows.map (rewritten env wfd)) := by
  obtain ⟨wfids, _, lengths⟩ := server.db.workflows.holds
  refine ⟨?_, aliases_kept held free, ?_⟩
  · apply (Distinct.map_of_key_eq ?_).mpr wfids
    exact fun other _ => congrArg some (rewritten_wfid env wfd other)
  · intro changed member
    obtain ⟨other, inside, rfl⟩ := List.mem_map.mp member
    by_cases named : some other.wfid = wfd.wfid
    · rw [rewritten_named named]
      exact length
    · rw [rewritten_other named]
      exact lengths other inside

theorem update_returned_iff :
    Returned projectid wfd (register env server.db projectid wfd true) ↔
      Meets server projectid wfd true := by
  constructor
  · rintro ⟨wfid, later, registered, changed, member, named, project_id, stores⟩
    have accepted := (register_update_iff env server.db projectid wfd).mp ⟨_, registered⟩
    obtain ⟨returned, _, rows⟩ := register_update_ok registered
    have changes : later.workflows.rows = server.db.workflows.rows.map (rewritten env wfd) := rows
    rw [changes] at member
    obtain ⟨row, inside, rfl⟩ := List.mem_map.mp member
    rw [rewritten_wfid] at named
    rw [rewritten_project] at project_id
    have held : Held server projectid wfd row := ⟨inside, project_id, by rw [named, returned]⟩
    refine ⟨?_, fun _ => ⟨row, held, ?_⟩⟩
    · rw [← stores.alias_]
      exact accepted.2.2 _ member
    · exact fun other also => alias_free_of_accepted held accepted also
  · rintro ⟨length, found⟩
    obtain ⟨row, held, free⟩ := found rfl
    have accepted : WorkflowModel.Accepted (server.db.workflows.rows.map (rewritten env wfd)) :=
      accepted_of_alias_free held length free
    obtain ⟨⟨wfid, later⟩, registered⟩ :=
      (register_update_iff env server.db projectid wfd).mpr accepted
    obtain ⟨rfl, _, rows⟩ := register_update_ok registered
    refine ⟨row.wfid, later, by rw [registered, held.2.2], updatedRow wfd env.now row, ?_, rfl,
      held.2.1, updatedRow_stores wfd env.now row⟩
    have changes : later.workflows.rows = server.db.workflows.rows.map (rewritten env wfd) := rows
    rw [changes]
    exact List.mem_map.mpr ⟨row, held.1, rewritten_named held.2.2⟩

/-! What the handlers answer. -/

theorem create_status {wfid : Option String} {later : Database}
    (registered : register env server.db projectid wfd = .ok (wfid, later)) :
    (workflow_create env server projectid (some wfd)).1.status = 201 := by
  simp [workflow_create, registered]

theorem create_status_refused
    (refused : Refused (register env server.db projectid wfd)) :
    (workflow_create env server projectid (some wfd)).1.status = 200 := by
  obtain ⟨project, alias_, registered⟩ := refused
  simp [workflow_create, registered]

theorem update_status (named : truthy wfd.wfid = true) {wfid : Option String} {later : Database}
    (registered : register env server.db projectid wfd true = .ok (wfid, later)) :
    (workflow_update env server projectid (some wfd)).1.status = 201 := by
  simp [workflow_update, named, registered]

theorem insert_contract_iff :
    Contract env server projectid wfd false ↔ wfd.alias_.length ≤ WorkflowModel.ALIAS_LEN := by
  by_cases inserts : Inserts env server.db projectid wfd
  · have returned := insert_returned inserts
    refine iff_of_true ⟨.inl returned, by simp, by simp, ?_, by simp⟩ (length_of_inserts inserts)
    intro _
    obtain ⟨wfid, later, registered, _⟩ := returned
    simp [create_status registered]
  · have raised := insert_refused inserts
    constructor
    · intro contract
      by_contra long
      rw [refusal, if_neg long] at raised
      have outcome := contract.outcome
      simp only [raised] at outcome
      rcases outcome with ⟨_, _, returned, _⟩ | ⟨⟨_, _, refused⟩, _⟩
      · cases returned
      · cases refused
    · intro length
      rw [refusal, if_pos length] at raised
      have refused : Refused (register env server.db projectid wfd) := ⟨_, _, raised⟩
      refine ⟨.inr ⟨refused, ?_⟩, by simp, by simp, ?_, by simp⟩
      · rw [raised]
        rfl
      · intro _
        simp [create_status_refused refused]

theorem update_contract_iff :
    Contract env server projectid wfd true ↔ Meets server projectid wfd true := by
  constructor
  · intro contract
    rcases contract.outcome with returned | ⟨refused, _⟩
    · exact update_returned_iff.mp returned
    · exact absurd refused update_not_refused
  · intro met
    have returned : Returned projectid wfd (register env server.db projectid wfd true) :=
      update_returned_iff.mpr met
    obtain ⟨_, found⟩ := met
    obtain ⟨row, held, free⟩ := found rfl
    refine ⟨.inl returned, ?_, ?_, by simp, ?_⟩
    · rintro _ ⟨other, member, project_id, alias_, apart⟩
      rw [free other member project_id alias_] at apart
      exact absurd held.2.2 apart
    · intro _ none
      exact absurd ⟨row, held⟩ none
    · intro _ named
      obtain ⟨wfid, later, registered, _⟩ := returned
      simp [update_status named registered]

end Statements

end WorkflowRegistrations

end LabFunctions
